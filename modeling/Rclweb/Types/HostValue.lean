import Rclweb.Library.TextDecoder
import Rclweb.Types.Cursor
import Rclweb.Types.GeneratedFields

/-!
# The packed layout of generated messages

Generated messages cross between the browser's objects and the engine in a packed little-endian
layout that is not CDR: the fields in order without padding, and a text as a 16-bit length and its
UTF-8 bytes.  The engine and the browser have the same writers and the same readers, but for what
they do with bytes that are no text: the engine refuses them and the browser replaces them.

`decodePacked_ok_iff` says which bytes a reader takes for a message.
-/

namespace Rclweb

open BigEndian Attempts Cdr

namespace Types

/-! ## Writers -/

/-- The low-order bytes of a number (`to_le_bytes`). -/
def le (k n : ℕ) : List UInt8 := CdrEndian.little.toBytes k n

/-- A text behind its length, which is written modulo `2 ^ 16`. -/
def writeU16Str (value : String) : List UInt8 := le 2 (utf8 value).length ++ utf8 value

def writePrimitiveScalars (v : PrimitiveScalars) : List UInt8 :=
  le 1 (if v.boolValue then 1 else 0) ++ le 1 v.byteValue.toNat ++ le 1 v.charValue.toNat ++
    le 4 v.float32Value.toNat ++ le 8 v.float64Value.toNat ++ le 1 v.int8Value.toUInt8.toNat ++
    le 1 v.uint8Value.toNat ++ le 2 v.int16Value.toUInt16.toNat ++ le 2 v.uint16Value.toNat ++
    le 4 v.int32Value.toUInt32.toNat ++ le 4 v.uint32Value.toNat ++
    le 8 v.int64Value.toUInt64.toNat ++ le 8 v.uint64Value.toNat ++ writeU16Str v.stringValue ++
    writeU16Str v.wstringValue

def writeCollections (v : Collections) : List UInt8 :=
  le 4 v.fixedI32.1.toUInt32.toNat ++ le 4 v.fixedI32.2.1.toUInt32.toNat ++
    le 4 v.fixedI32.2.2.toUInt32.toNat ++ le 4 (UInt32.ofNat v.boundedF64.length).toNat ++
    v.boundedF64.flatMap (fun x => le 8 x.toNat) ++ le 4 v.bytesValue.length ++ v.bytesValue ++
    writeU16Str v.boundedString ++ writeU16Str v.boundedWstring

def writeNestedSample (v : NestedSample) : List UInt8 :=
  le 4 v.stamp.sec.toUInt32.toNat ++ le 4 v.stamp.nanosec.toNat ++
    writePrimitiveScalars v.scalars ++ writeCollections v.collections

def writeEchoNestedResponse (v : EchoNestedResponse) : List UInt8 :=
  writeNestedSample v.output ++ le 1 (if v.accepted then 1 else 0)

def writeMeasureSequenceFeedback (v : MeasureSequenceFeedback) : List UInt8 :=
  le 4 v.progress.toNat ++ writeNestedSample v.sample

/-- **Generated message to packed bytes.** -/
def encodeHostValue : GeneratedMessage → List UInt8
  | .primitiveScalars v => writePrimitiveScalars v
  | .collections v => writeCollections v
  | .nestedSample v => writeNestedSample v
  | .echoNestedRequest v => writeNestedSample v.input
  | .echoNestedResponse v => writeEchoNestedResponse v
  | .measureSequenceGoal v => writeCollections v.target
  | .measureSequenceResult v => writeNestedSample v.result
  | .measureSequenceFeedback v => writeMeasureSequenceFeedback v

/-! ## Readers -/

section Readers

variable {ε : Type} (text : List UInt8 → Option String) (e : ε)

/-- A text, as `text` decodes its bytes. -/
def readU16Str : EStateM ε Cursor String := do
  let len ← Cursor.u16 e
  let raw ← Cursor.take len.toNat e
  orFail (text raw) e

/-- Any byte but zero is true. -/
def readFlag : EStateM ε Cursor Bool := (· != 0) <$> Cursor.u8 e

def readPrimitiveScalars : EStateM ε Cursor PrimitiveScalars := do
  Cursor.need 45 e
  let boolValue ← readFlag e
  let byteValue ← Cursor.u8 e
  let charValue ← Cursor.u8 e
  let float32Value ← Cursor.u32 e
  let float64Value ← Cursor.u64 e
  let int8Value ← Cursor.i8 e
  let uint8Value ← Cursor.u8 e
  let int16Value ← Cursor.i16 e
  let uint16Value ← Cursor.u16 e
  let int32Value ← Cursor.i32 e
  let uint32Value ← Cursor.u32 e
  let int64Value ← Cursor.i64 e
  let uint64Value ← Cursor.u64 e
  let stringValue ← readU16Str text e
  let wstringValue ← readU16Str text e
  pure { boolValue, byteValue, charValue, float32Value, float64Value, int8Value, uint8Value,
         int16Value, uint16Value, int32Value, uint32Value, int64Value, uint64Value, stringValue,
         wstringValue }

def readCollections : EStateM ε Cursor Collections := do
  Cursor.need 12 e
  let x ← Cursor.i32 e
  let y ← Cursor.i32 e
  let z ← Cursor.i32 e
  let f64Len ← Cursor.u32 e
  Cursor.need (f64Len.toNat * 8) e
  let boundedF64 ← repeated (Cursor.u64 e) f64Len.toNat
  let bytesLen ← Cursor.u32 e
  let bytesValue ← Cursor.take bytesLen.toNat e
  let boundedString ← readU16Str text e
  let boundedWstring ← readU16Str text e
  pure { fixedI32 := (x, y, z), boundedF64, bytesValue, boundedString, boundedWstring }

def readNestedSample : EStateM ε Cursor NestedSample := do
  Cursor.need 8 e
  let sec ← Cursor.i32 e
  let nanosec ← Cursor.u32 e
  let scalars ← readPrimitiveScalars text e
  let collections ← readCollections text e
  pure ⟨⟨sec, nanosec⟩, scalars, collections⟩

def readEchoNestedResponse : EStateM ε Cursor EchoNestedResponse := do
  let output ← readNestedSample text e
  let accepted ← readFlag e
  pure ⟨output, accepted⟩

def readMeasureSequenceFeedback : EStateM ε Cursor MeasureSequenceFeedback := do
  let progress ← Cursor.u32 e
  let sample ← readNestedSample text e
  pure ⟨progress, sample⟩

/-- The reader of a type. -/
def readHostValue (unknown : ε) (typeName : String) : EStateM ε Cursor GeneratedMessage :=
  if typeName = primitiveScalarsTypeName then
    .primitiveScalars <$> readPrimitiveScalars text e
  else if typeName = collectionsTypeName then
    .collections <$> readCollections text e
  else if typeName = nestedSampleTypeName then
    .nestedSample <$> readNestedSample text e
  else if typeName = echoNestedRequestTypeName then
    (fun input => .echoNestedRequest ⟨input⟩) <$> readNestedSample text e
  else if typeName = echoNestedResponseTypeName then
    .echoNestedResponse <$> readEchoNestedResponse text e
  else if typeName = measureSequenceGoalTypeName then
    (fun target => .measureSequenceGoal ⟨target⟩) <$> readCollections text e
  else if typeName = measureSequenceResultTypeName then
    (fun result => .measureSequenceResult ⟨result⟩) <$> readNestedSample text e
  else if typeName = measureSequenceFeedbackTypeName then
    .measureSequenceFeedback <$> readMeasureSequenceFeedback text e
  else
    throw unknown

/-- A whole byte string, with nothing behind the message. -/
def decodePacked (unknown trailing : ε) (typeName : String) (bytes : List UInt8) :
    Except ε GeneratedMessage :=
  match readHostValue text e unknown typeName ⟨bytes, 0⟩ with
  | .error e _ => .error e
  | .ok msg c => if c.o ≠ bytes.length then .error trailing else .ok msg

end Readers

/-- **Packed bytes to generated message**, in the engine. -/
def decodeHostValue : String → List UInt8 → Except GeneratedValueError GeneratedMessage :=
  decodePacked ofUtf8? .truncated .unknownType .truncated

end Types

namespace Browser

open Rclweb.Types

/-- A browser's object of a type: `none` is the error for an object of another type. -/
def encodeGeneratedHostValue (typeName : String) (message : GeneratedMessage) :
    Option (List UInt8) :=
  if message.typeName = typeName then some (encodeHostValue message) else none

/-- **Packed bytes to generated message**, in the browser; an error is what is thrown. -/
def decodeGeneratedHostValue (typeName : String) (bytes : List UInt8) :
    Except String GeneratedMessage :=
  decodePacked (fun raw => some (TextDecoder.decode raw)) "generated host value truncated"
    ("unsupported generated type " ++ typeName) "generated host value has trailing bytes"
    typeName bytes

end Browser
end Rclweb
