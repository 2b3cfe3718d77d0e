import Rclweb.Library.Scan
import Rclweb.Types.HostValue

/-!
# Packed values in the engine's memory

`decode_host_value` as the machine runs it: offsets are machine words, numbers are taken off
slices, and memory for the numbers of a collection is asked for at once.  The product of their
count with eight stays at the largest word.
-/

namespace Rclweb

open Scan Cdr

namespace Types
namespace Scanned

/-- The text of the source's only error for bytes that do not fit the layout. -/
abbrev truncated : GeneratedValueError := .truncated

/-! ## Reads behind a check -/

/-- The number on a slice, and the offset behind it. -/
def number (w : ℕ) : Scan GeneratedValueError ℕ := do
  let raw ← slice w
  advance w
  pure (CdrEndian.little.ofBytes raw)

def u8 : Scan GeneratedValueError UInt8 := do
  let b ← byteAt 0
  advance 1
  pure b

def u16 : Scan GeneratedValueError UInt16 := UInt16.ofNat <$> number 2

def u32 : Scan GeneratedValueError UInt32 := UInt32.ofNat <$> number 4

def u64 : Scan GeneratedValueError UInt64 := UInt64.ofNat <$> number 8

def i8 : Scan GeneratedValueError Int8 := UInt8.toInt8 <$> u8

def i16 : Scan GeneratedValueError Int16 := UInt16.toInt16 <$> u16

def i32 : Scan GeneratedValueError Int32 := UInt32.toInt32 <$> u32

def i64 : Scan GeneratedValueError Int64 := UInt64.toInt64 <$> u64

def flag : Scan GeneratedValueError Bool := (· != 0) <$> u8

/-! ## Checked reads -/

def readU16 : Scan GeneratedValueError UInt16 := do
  require 2 truncated
  u16

def readU32 : Scan GeneratedValueError UInt32 := do
  require 4 truncated
  u32

def readU16Str : Scan GeneratedValueError String := do
  let len ← readU16
  require len.toNat truncated
  let raw ← slice len.toNat
  let s ← text raw truncated
  advance len.toNat
  pure s

/-! ## Messages -/

def readPrimitiveScalars : Scan GeneratedValueError PrimitiveScalars := do
  require 45 truncated
  let boolValue ← flag
  let byteValue ← u8
  let charValue ← u8
  let float32Value ← u32
  let float64Value ← u64
  let int8Value ← i8
  let uint8Value ← u8
  let int16Value ← i16
  let uint16Value ← u16
  let int32Value ← i32
  let uint32Value ← u32
  let int64Value ← i64
  let uint64Value ← u64
  let stringValue ← readU16Str
  let wstringValue ← readU16Str
  pure { boolValue, byteValue, charValue, float32Value, float64Value, int8Value, uint8Value,
         int16Value, uint16Value, int32Value, uint32Value, int64Value, uint64Value, stringValue,
         wstringValue }

/-- Counted numbers of eight bytes. -/
def readF64s : Scan GeneratedValueError (List UInt64) := do
  let f64Len ← readU32
  requireRecords f64Len.toNat 8 truncated
  reserve f64Len.toNat 8
  Scan.repeated (fun _ => u64) 0 f64Len.toNat

/-- Counted bytes. -/
def readByteSequence : Scan GeneratedValueError (List UInt8) := do
  let bytesLen ← readU32
  require bytesLen.toNat truncated
  let bytesValue ← slice bytesLen.toNat
  advance bytesLen.toNat
  pure bytesValue

def readCollections : Scan GeneratedValueError Collections := do
  require 12 truncated
  let x ← i32
  let y ← i32
  let z ← i32
  let boundedF64 ← readF64s
  let bytesValue ← readByteSequence
  let boundedString ← readU16Str
  let boundedWstring ← readU16Str
  pure { fixedI32 := (x, y, z), boundedF64, bytesValue, boundedString, boundedWstring }

def readNestedSample : Scan GeneratedValueError NestedSample := do
  require 8 truncated
  let sec ← i32
  let nanosec ← u32
  let scalars ← readPrimitiveScalars
  let collections ← readCollections
  pure ⟨⟨sec, nanosec⟩, scalars, collections⟩

def readEchoNestedResponse : Scan GeneratedValueError EchoNestedResponse := do
  let output ← readNestedSample
  requireLeft truncated
  let accepted ← flag
  pure ⟨output, accepted⟩

def readMeasureSequenceFeedback : Scan GeneratedValueError MeasureSequenceFeedback := do
  require 4 truncated
  let progress ← u32
  let sample ← readNestedSample
  pure ⟨progress, sample⟩

/-- The reader of a type. -/
def readHostValue (typeName : String) : Scan GeneratedValueError GeneratedMessage :=
  if typeName = primitiveScalarsTypeName then
    .primitiveScalars <$> readPrimitiveScalars
  else if typeName = collectionsTypeName then
    .collections <$> readCollections
  else if typeName = nestedSampleTypeName then
    .nestedSample <$> readNestedSample
  else if typeName = echoNestedRequestTypeName then
    (fun input => .echoNestedRequest ⟨input⟩) <$> readNestedSample
  else if typeName = echoNestedResponseTypeName then
    .echoNestedResponse <$> readEchoNestedResponse
  else if typeName = measureSequenceGoalTypeName then
    (fun target => .measureSequenceGoal ⟨target⟩) <$> readCollections
  else if typeName = measureSequenceResultTypeName then
    (fun result => .measureSequenceResult ⟨result⟩) <$> readNestedSample
  else if typeName = measureSequenceFeedbackTypeName then
    .measureSequenceFeedback <$> readMeasureSequenceFeedback
  else
    fail .unknownType

/-- **Packed bytes to generated message**, on a machine (`decode_host_value`). -/
def decodeHostValue (typeName : String) : Scan GeneratedValueError GeneratedMessage := do
  let msg ← readHostValue typeName
  requireEnd truncated
  pure msg

end Scanned
end Types
end Rclweb
