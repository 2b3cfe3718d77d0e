import Rclweb.Cdr.Reader

/-!
# Generated message types and their CDR codecs

The eight generated messages of the corpus, with the encode and decode bodies of each module of
`types/generated` and the dispatch on type names of `types/host_value`.  Floats are bit
patterns, and a fixed array of three is a triple.
-/

namespace Rclweb

open Attempts Cdr CdrReader CdrWriter

namespace Types

/-! ## Messages -/

/-- `builtin_interfaces/msg/Time`. -/
structure Time where
  sec : Int32
  nanosec : UInt32
  deriving DecidableEq, Repr

/-- `rclweb_cdr_interfaces/msg/PrimitiveScalars`. -/
structure PrimitiveScalars where
  boolValue : Bool
  byteValue : UInt8
  charValue : UInt8
  float32Value : UInt32
  float64Value : UInt64
  int8Value : Int8
  uint8Value : UInt8
  int16Value : Int16
  uint16Value : UInt16
  int32Value : Int32
  uint32Value : UInt32
  int64Value : Int64
  uint64Value : UInt64
  stringValue : String
  wstringValue : String
  deriving DecidableEq, Repr

/-- `rclweb_cdr_interfaces/msg/Collections`. -/
structure Collections where
  fixedI32 : Int32 × Int32 × Int32
  boundedF64 : List UInt64
  bytesValue : List UInt8
  boundedString : String
  boundedWstring : String
  deriving DecidableEq, Repr

/-- `rclweb_cdr_interfaces/msg/NestedSample`. -/
structure NestedSample where
  stamp : Time
  scalars : PrimitiveScalars
  collections : Collections
  deriving DecidableEq, Repr

structure EchoNestedRequest where
  input : NestedSample
  deriving DecidableEq, Repr

structure EchoNestedResponse where
  output : NestedSample
  accepted : Bool
  deriving DecidableEq, Repr

structure MeasureSequenceGoal where
  target : Collections
  deriving DecidableEq, Repr

structure MeasureSequenceResult where
  result : NestedSample
  deriving DecidableEq, Repr

structure MeasureSequenceFeedback where
  progress : UInt32
  sample : NestedSample
  deriving DecidableEq, Repr

/-- **A generated message.** -/
inductive GeneratedMessage where
  | primitiveScalars (v : PrimitiveScalars)
  | collections (v : Collections)
  | nestedSample (v : NestedSample)
  | echoNestedRequest (v : EchoNestedRequest)
  | echoNestedResponse (v : EchoNestedResponse)
  | measureSequenceGoal (v : MeasureSequenceGoal)
  | measureSequenceResult (v : MeasureSequenceResult)
  | measureSequenceFeedback (v : MeasureSequenceFeedback)
  deriving DecidableEq, Repr

inductive GeneratedValueError where
  | truncated
  | unknownType
  | cdr
  deriving DecidableEq, Repr

def primitiveScalarsTypeName : String := "rclweb_cdr_interfaces/msg/PrimitiveScalars"

def collectionsTypeName : String := "rclweb_cdr_interfaces/msg/Collections"

def nestedSampleTypeName : String := "rclweb_cdr_interfaces/msg/NestedSample"

def echoNestedRequestTypeName : String := "rclweb_cdr_interfaces/srv/EchoNested_Request"

def echoNestedResponseTypeName : String := "rclweb_cdr_interfaces/srv/EchoNested_Response"

def measureSequenceGoalTypeName : String := "rclweb_cdr_interfaces/action/MeasureSequence_Goal"

def measureSequenceResultTypeName : String := "rclweb_cdr_interfaces/action/MeasureSequence_Result"

def measureSequenceFeedbackTypeName : String :=
  "rclweb_cdr_interfaces/action/MeasureSequence_Feedback"

def GeneratedMessage.typeName : GeneratedMessage → String
  | primitiveScalars _ => primitiveScalarsTypeName
  | collections _ => collectionsTypeName
  | nestedSample _ => nestedSampleTypeName
  | echoNestedRequest _ => echoNestedRequestTypeName
  | echoNestedResponse _ => echoNestedResponseTypeName
  | measureSequenceGoal _ => measureSequenceGoalTypeName
  | measureSequenceResult _ => measureSequenceResultTypeName
  | measureSequenceFeedback _ => measureSequenceFeedbackTypeName

/-! ## Decode bodies -/

def decodeTime (_n : CdrNesting) : CdrRead Time := do
  let sec ← readI32
  let nanosec ← readU32
  pure ⟨sec, nanosec⟩

def decodePrimitiveScalars (_n : CdrNesting) : CdrRead PrimitiveScalars := do
  let boolValue ← readBool
  let byteValue ← readU8
  let charValue ← readU8
  let float32Value ← readF32
  let float64Value ← readF64
  let int8Value ← readI8
  let uint8Value ← readU8
  let int16Value ← readI16
  let uint16Value ← readU16
  let int32Value ← readI32
  let uint32Value ← readU32
  let int64Value ← readI64
  let uint64Value ← readU64
  let stringValue ← readString none
  let wstringValue ← readWstring none
  pure { boolValue, byteValue, charValue, float32Value, float64Value, int8Value, uint8Value,
         int16Value, uint16Value, int32Value, uint32Value, int64Value, uint64Value, stringValue,
         wstringValue }

def decodeCollections (_n : CdrNesting) : CdrRead Collections := do
  let x ← readI32
  let y ← readI32
  let z ← readI32
  let f64Count ← readSequenceLength (some 4)
  let boundedF64 ← repeated readF64 f64Count.toNat
  let bytesValue ← readByteSequence none
  let boundedString ← readString (some 16)
  let boundedWstring ← readWstring (some 16)
  pure { fixedI32 := (x, y, z), boundedF64, bytesValue := bytesValue.bytes, boundedString,
         boundedWstring }

def decodeNestedSample (current : CdrNesting) : CdrRead NestedSample := do
  let timeN ← CdrReader.enterNested current
  let stamp ← decodeTime timeN
  let scalarsN ← CdrReader.enterNested current
  let scalars ← decodePrimitiveScalars scalarsN
  let collN ← CdrReader.enterNested current
  let collections ← decodeCollections collN
  pure ⟨stamp, scalars, collections⟩

/-! ## Encode bodies -/

def encodeTime (v : Time) (_n : CdrNesting) : CdrWrite Unit := do
  writeI32 v.sec
  writeU32 v.nanosec

def encodePrimitiveScalars (v : PrimitiveScalars) (_n : CdrNesting) : CdrWrite Unit := do
  writeBool v.boolValue
  writeU8 v.byteValue
  writeU8 v.charValue
  writeF32 v.float32Value
  writeF64 v.float64Value
  writeI8 v.int8Value
  writeU8 v.uint8Value
  writeI16 v.int16Value
  writeU16 v.uint16Value
  writeI32 v.int32Value
  writeU32 v.uint32Value
  writeI64 v.int64Value
  writeU64 v.uint64Value
  writeString v.stringValue none
  writeWstring v.wstringValue none

def encodeCollections (v : Collections) (_n : CdrNesting) : CdrWrite Unit := do
  writeI32 v.fixedI32.1
  writeI32 v.fixedI32.2.1
  writeI32 v.fixedI32.2.2
  writeSequenceLength (UInt32.ofNat v.boundedF64.length) (some 4)
  forEach writeF64 v.boundedF64
  writeByteSequence v.bytesValue none
  writeString v.boundedString (some 16)
  writeWstring v.boundedWstring (some 16)

def encodeNestedSample (v : NestedSample) (current : CdrNesting) : CdrWrite Unit := do
  let timeN ← CdrWriter.enterNested current
  encodeTime v.stamp timeN
  let scalarsN ← CdrWriter.enterNested current
  encodePrimitiveScalars v.scalars scalarsN
  let collN ← CdrWriter.enterNested current
  encodeCollections v.collections collN

namespace PrimitiveScalars

def encode (v : PrimitiveScalars) (endian : CdrEndian) : Except CdrError (List UInt8) :=
  encodeWith endian (encodePrimitiveScalars v)

end PrimitiveScalars

namespace Collections

def encode (v : Collections) (endian : CdrEndian) : Except CdrError (List UInt8) :=
  encodeWith endian (encodeCollections v)

end Collections

namespace NestedSample

def encode (v : NestedSample) (endian : CdrEndian) : Except CdrError (List UInt8) :=
  encodeWith endian (encodeNestedSample v)

end NestedSample

def encodeRequest (v : EchoNestedRequest) (endian : CdrEndian) : Except CdrError (List UInt8) :=
  encodeWith endian fun root => do
    let n ← CdrWriter.enterNested root
    encodeNestedSample v.input n

def encodeResponse (v : EchoNestedResponse) (endian : CdrEndian) : Except CdrError (List UInt8) :=
  encodeWith endian fun root => do
    let n ← CdrWriter.enterNested root
    encodeNestedSample v.output n
    writeBool v.accepted

def encodeGoal (v : MeasureSequenceGoal) (endian : CdrEndian) : Except CdrError (List UInt8) :=
  encodeWith endian fun root => do
    let n ← CdrWriter.enterNested root
    encodeCollections v.target n

def encodeResult (v : MeasureSequenceResult) (endian : CdrEndian) :
    Except CdrError (List UInt8) :=
  encodeWith endian fun root => do
    let n ← CdrWriter.enterNested root
    encodeNestedSample v.result n

def encodeFeedback (v : MeasureSequenceFeedback) (endian : CdrEndian) :
    Except CdrError (List UInt8) :=
  encodeWith endian fun root => do
    writeF32 v.progress
    let n ← CdrWriter.enterNested root
    encodeNestedSample v.sample n

/-! ## The dispatch -/

/-- The completion of a live sample: everything read, or a zero tail of 4 or 12 bytes. -/
def decodeLive {α : Type} (bytes : List UInt8) (body : CdrNesting → CdrRead α) :
    Except GeneratedValueError α :=
  match openDefault bytes with
  | .error _ => .error .cdr
  | .ok r =>
    match body .root r with
    | .error _ _ => .error .cdr
    | .ok v r =>
      let rem := r.remaining
      let tail := if rem = 0 ∨ rem = 4 ∨ rem = 12 then rem else 0
      match ensureCompleteWithZeroTail tail r with
      | .error _ _ => .error .cdr
      | .ok _ _ => .ok v

/-- **CDR to generated message**, for a live sample. -/
def decodeGeneratedCdr (typeName : String) (bytes : List UInt8) :
    Except GeneratedValueError GeneratedMessage :=
  if typeName = primitiveScalarsTypeName then
    .primitiveScalars <$> decodeLive bytes decodePrimitiveScalars
  else if typeName = collectionsTypeName then
    .collections <$> decodeLive bytes decodeCollections
  else if typeName = nestedSampleTypeName then
    .nestedSample <$> decodeLive bytes decodeNestedSample
  else if typeName = echoNestedRequestTypeName then
    .echoNestedRequest <$> decodeLive bytes fun root => do
      let n ← CdrReader.enterNested root
      let input ← decodeNestedSample n
      pure ⟨input⟩
  else if typeName = echoNestedResponseTypeName then
    .echoNestedResponse <$> decodeLive bytes fun root => do
      let n ← CdrReader.enterNested root
      let output ← decodeNestedSample n
      let accepted ← readBool
      pure ⟨output, accepted⟩
  else if typeName = measureSequenceGoalTypeName then
    .measureSequenceGoal <$> decodeLive bytes fun root => do
      let n ← CdrReader.enterNested root
      let target ← decodeCollections n
      pure ⟨target⟩
  else if typeName = measureSequenceResultTypeName then
    .measureSequenceResult <$> decodeLive bytes fun root => do
      let n ← CdrReader.enterNested root
      let result ← decodeNestedSample n
      pure ⟨result⟩
  else if typeName = measureSequenceFeedbackTypeName then
    .measureSequenceFeedback <$> decodeLive bytes fun root => do
      let progress ← readF32
      let n ← CdrReader.enterNested root
      let sample ← decodeNestedSample n
      pure ⟨progress, sample⟩
  else
    .error .unknownType

/-- **Generated message to little-endian CDR.** -/
def encodeGeneratedCdr : GeneratedMessage → Except CdrError (List UInt8)
  | .primitiveScalars v => v.encode .little
  | .collections v => v.encode .little
  | .nestedSample v => v.encode .little
  | .echoNestedRequest v => encodeRequest v .little
  | .echoNestedResponse v => encodeResponse v .little
  | .measureSequenceGoal v => encodeGoal v .little
  | .measureSequenceResult v => encodeResult v .little
  | .measureSequenceFeedback v => encodeFeedback v .little

end Types
end Rclweb
