import Rclweb.Cdr.Limits

/-!
# The bounded CDR1 stream writer

Every write computes padding and size first and changes the buffer only when the whole field
fits the capacity.  An operation is an `EStateM`: a failed one leaves the writer it failed in.
-/

namespace Rclweb

open BigEndian Attempts

namespace Cdr

/-- **A CDR1 writer into an owned buffer.** -/
structure CdrWriter where
  buf : List UInt8
  capacity : ℕ
  limits : CdrLimits
  endian : CdrEndian
  representation : UInt16
  options : UInt16
  deriving DecidableEq, Repr

/-- An operation of the writer. -/
abbrev CdrWrite := EStateM CdrError CdrWriter

/-- True when `slot` is an accepted legacy wstring Unicode scalar. -/
def isAcceptedWstringScalar (slot : UInt32) : Bool :=
  slot ≤ 0x0000D7FF || (0x0000E000 ≤ slot && slot ≤ 0x0010FFFF)

namespace CdrWriter

/-- A writer with the canonical header already written (options `0x0000`). -/
def new (endian : CdrEndian) (limits : CdrLimits) : Except CdrError CdrWriter := do
  limits.validate
  let capacity := writerCapacity limits
  if capacity < headerLength then
    throw (.boundsExceeded 0 headerLength limits.maxTemporaryAllocation)
  let buf : List UInt8 :=
    match endian with
    | .little => [0x00, 0x01, 0x00, 0x00]
    | .big => [0x00, 0x00, 0x00, 0x00]
  return ⟨buf, capacity, limits, endian, endian.representation, 0⟩

def newDefault (endian : CdrEndian) : Except CdrError CdrWriter := new endian .defaults

/-- Absolute write cursor. -/
def position (w : CdrWriter) : ℕ := w.buf.length

/-- Bytes remaining until the capacity. -/
def remainingCapacity (w : CdrWriter) : ℕ := w.capacity - w.buf.length

/-- Enters one nested aggregate.  Position and bytes stay. -/
def enterNested (parent : CdrNesting) : CdrWrite CdrNesting := do
  let w ← get
  let next := parent.depth + 1
  let maxD := w.limits.maxNestingDepth
  refuse (maxD < next) (.boundsExceeded w.position next maxD)
  pure ⟨next⟩

/-- Appends bytes to the buffer. -/
def emit (bytes : List UInt8) : CdrWrite Unit := modify fun w => { w with buf := w.buf ++ bytes }

/-- Pads to an alignment once padding and field fit the capacity. -/
def alignAndReserve (align size : ℕ) : CdrWrite Unit := do
  let w ← get
  let fieldStart := w.position
  let pad := paddingFor fieldStart align
  let remCap := w.remainingCapacity
  let needed ← orFail (checkedAddUsize pad size) (.lengthOverflow fieldStart 0 remCap)
  let stop ← orFail (checkedAddUsize fieldStart needed) (.lengthOverflow fieldStart 0 remCap)
  refuse (w.capacity < stop) (.boundsExceeded fieldStart needed remCap)
  emit (List.replicate pad 0)

/-- A number of `k` bytes in stream order, without alignment (`write_u32_raw` for `k = 4`). -/
def writeRaw (k n : ℕ) : CdrWrite Unit := do
  let w ← get
  emit (w.endian.toBytes k n)

/-- A number of `k` bytes at alignment `k`. -/
def writeUnsigned (k n : ℕ) : CdrWrite Unit := do
  alignAndReserve k k
  writeRaw k n

def writeU8 (value : UInt8) : CdrWrite Unit := writeUnsigned 1 value.toNat

def writeU16 (value : UInt16) : CdrWrite Unit := writeUnsigned 2 value.toNat

def writeU32 (value : UInt32) : CdrWrite Unit := writeUnsigned 4 value.toNat

def writeU64 (value : UInt64) : CdrWrite Unit := writeUnsigned 8 value.toNat

/-- A CDR boolean is `0` or `1`. -/
def writeBool (value : Bool) : CdrWrite Unit := writeU8 (if value then 1 else 0)

def writeI8 (value : Int8) : CdrWrite Unit := writeU8 value.toUInt8

def writeI16 (value : Int16) : CdrWrite Unit := writeU16 value.toUInt16

def writeI32 (value : Int32) : CdrWrite Unit := writeU32 value.toUInt32

def writeI64 (value : Int64) : CdrWrite Unit := writeU64 value.toUInt64

/-- An IEEE-754 binary32, given by its bit pattern. -/
def writeF32 (bits : UInt32) : CdrWrite Unit := writeU32 bits

/-- An IEEE-754 binary64, given by its bit pattern. -/
def writeF64 (bits : UInt64) : CdrWrite Unit := writeU64 bits

def writeChar8 (value : UInt8) : CdrWrite Unit := writeU8 value

def writeChar16 (value : UInt16) : CdrWrite Unit := writeU16 value

/-- Raw bytes, unaligned. -/
def writeBytes (data : List UInt8) : CdrWrite Unit := do
  alignAndReserve 1 data.length
  emit data

/-- Largest UTF-8 payload that fits the field, `-1` when not even an empty string does. -/
def maxPayloadForWriter (fieldStart remCap : ℕ) : ℤ :=
  let pad := paddingFor fieldStart 4
  if remCap < pad then -1
  else if remCap - pad < 5 then -1
  else ((remCap - pad - 5 : ℕ) : ℤ)

/-- The capacity error of a string, for the least payload that does not fit. -/
def capacityBoundsError (fieldStart remCap pad minPayload : ℕ) : CdrError :=
  match checkedAddUsize minPayload 1 with
  | none => .lengthOverflow fieldStart 0 remCap
  | some wire =>
    match checkedAddUsize 4 wire with
    | none => .lengthOverflow fieldStart 0 remCap
    | some body =>
      match checkedAddUsize pad body with
      | none => .lengthOverflow fieldStart 0 remCap
      | some needed => .boundsExceeded fieldStart needed remCap

/-- The count of slots that fit the field, `-1` when not even an empty wstring does. -/
def maxScalarsForWriter (fieldStart remCap : ℕ) : ℤ :=
  let pad := paddingFor fieldStart 4
  if remCap < pad then -1
  else if remCap - pad < 4 then -1
  else (((remCap - pad - 4) / 4 : ℕ) : ℤ)

/-- `a * b` when the host's `usize` holds it. -/
def checkedMulUsize (a b : ℕ) : Option ℕ := if a * b < 2 ^ 64 then some (a * b) else none

/-- The capacity error of a wstring, for the least count that does not fit. -/
def wstringCapacityBoundsError (fieldStart remCap pad minScalars : ℕ) : CdrError :=
  match checkedMulUsize minScalars 4 with
  | none => .lengthOverflow fieldStart 0 remCap
  | some payload =>
    match checkedAddUsize 4 payload with
    | none => .lengthOverflow fieldStart 0 remCap
    | some body =>
      match checkedAddUsize pad body with
      | none => .lengthOverflow fieldStart 0 remCap
      | some needed => .boundsExceeded fieldStart needed remCap

/-- The check of a payload against the space left for it. -/
def checkPayload (fieldStart remCap pad payloadLen : ℕ) : CdrWrite Unit :=
  let capMax := maxPayloadForWriter fieldStart remCap
  if capMax < 0 then
    refuse (0 < payloadLen) (capacityBoundsError fieldStart remCap pad 1)
  else
    refuse (capMax.toNat < payloadLen)
      (capacityBoundsError fieldStart remCap pad (capMax.toNat + 1))

/-- **A CDR1 UTF-8 string**: byte count with the final NUL, payload, NUL. -/
def writeString (value : String) (maxBytes : Option UInt32) : CdrWrite Unit := do
  let w ← get
  let fieldStart := w.position
  let remCap := w.remainingCapacity
  let pad := paddingFor fieldStart 4
  let payloadLen := (utf8 value).length
  checkBound (typeBoundCeiling maxBytes) payloadLen fieldStart
  checkPayload fieldStart remCap pad payloadLen
  let wireLen ← orFail (checkedAddUsize payloadLen 1) (.lengthOverflow fieldStart 0 remCap)
  let bodySize ← orFail (checkedAddUsize 4 wireLen) (.lengthOverflow fieldStart 0 remCap)
  alignAndReserve 4 bodySize
  -- `u32::try_from(wire_len)`
  refuse (2 ^ 32 ≤ wireLen) (.lengthOverflow fieldStart 0 remCap)
  writeRaw 4 wireLen
  emit (utf8 value)
  emit [0]

/-- The loop that counts the slots of a wstring and stops at the first one refused. -/
def countScalars (fieldStart remCap pad : ℕ) (typeMax : Option ℕ) (capMax : ℤ) :
    List Char → ℕ → CdrWrite ℕ
  | [], count => pure count
  | ch :: chars, count => do
    refuse (isAcceptedWstringScalar ch.val = false) (.invalidWstringScalar fieldStart remCap)
    let nextCount := count + 1
    checkBound typeMax nextCount fieldStart
    refuse (capMax < 0 ∨ capMax.toNat < nextCount)
      (wstringCapacityBoundsError fieldStart remCap pad
        (if capMax < 0 then 1 else capMax.toNat + 1))
    countScalars fieldStart remCap pad typeMax capMax chars nextCount

/-- The slots of a wstring, one number of four bytes each. -/
def writeSlots : List Char → CdrWrite Unit
  | [] => pure ()
  | ch :: chars => do
    writeRaw 4 ch.val.toNat
    writeSlots chars

/-- **A ROS 2 legacy wstring**: slot count, then one 32-bit slot for each Unicode scalar. -/
def writeWstring (value : String) (maxScalars : Option UInt32) : CdrWrite Unit := do
  let w ← get
  let fieldStart := w.position
  let remCap := w.remainingCapacity
  let pad := paddingFor fieldStart 4
  let typeMax := typeBoundCeiling maxScalars
  let capMax := maxScalarsForWriter fieldStart remCap
  let count ← countScalars fieldStart remCap pad typeMax capMax value.toList 0
  let payload ← orFail (checkedMulUsize count 4) (.lengthOverflow fieldStart 0 remCap)
  let bodySize ← orFail (checkedAddUsize 4 payload) (.lengthOverflow fieldStart 0 remCap)
  alignAndReserve 4 bodySize
  refuse (2 ^ 32 ≤ count) (.lengthOverflow fieldStart 0 remCap)
  writeRaw 4 count
  writeSlots value.toList

/-- An aligned `UInt32` sequence element count. -/
def writeSequenceLength (length : UInt32) (maxElements : Option UInt32) : CdrWrite Unit := do
  let w ← get
  let fieldStart := w.position
  checkBound (maxElements.map UInt32.toNat) length.toNat fieldStart
  let maxStream := w.limits.maxStreamBytes
  refuse (maxStream < length.toNat) (.boundsExceeded fieldStart length.toNat maxStream)
  alignAndReserve 4 4
  writeRaw 4 length.toNat

/-- **A CDR sequence of octets**: count, then the octets. -/
def writeByteSequence (value : List UInt8) (maxElements : Option UInt32) : CdrWrite Unit := do
  let w ← get
  let fieldStart := w.position
  let remCap := w.remainingCapacity
  let n := value.length
  checkBound (maxElements.map UInt32.toNat) n fieldStart
  let maxStream := w.limits.maxStreamBytes
  refuse (maxStream < n) (.boundsExceeded fieldStart n maxStream)
  let bodySize ← orFail (checkedAddUsize 4 n) (.lengthOverflow fieldStart 0 remCap)
  alignAndReserve 4 bodySize
  refuse (2 ^ 32 ≤ n) (.lengthOverflow fieldStart 0 remCap)
  writeRaw 4 n
  emit value

/-- One write for each element, in order. -/
def forEach {α : Type} (write : α → CdrWrite Unit) : List α → CdrWrite Unit
  | [] => pure ()
  | x :: xs => do
    write x
    forEach write xs

/-- A fresh writer with default limits, the encode body, and its bytes. -/
def encodeWith (endian : CdrEndian) (body : CdrNesting → CdrWrite Unit) :
    Except CdrError (List UInt8) := do
  let w ← newDefault endian
  match body .root w with
  | .ok _ w => .ok w.buf
  | .error e _ => .error e

end CdrWriter

end Cdr
end Rclweb
