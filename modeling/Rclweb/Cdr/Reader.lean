import Rclweb.Cdr.Writer

/-!
# The bounded CDR1 stream reader

A reader is the input, a cursor, the ceilings and the header.  A failed read puts the cursor
back to where the field started.  Borrowed views are spans: where they start in the input, and
their bytes.
-/

namespace Rclweb

open BigEndian Attempts

namespace Cdr

/-- **The parsed encapsulation header.** -/
structure CdrHeader where
  representation : UInt16
  options : UInt16
  endian : CdrEndian
  deriving DecidableEq, Repr

/-- **A CDR1 reader over a borrowed input view.** -/
structure CdrReader where
  bytes : List UInt8
  offset : ℕ
  limits : CdrLimits
  header : CdrHeader
  deriving DecidableEq, Repr

/-- A borrowed view of the input. -/
structure Span where
  start : ℕ
  bytes : List UInt8
  deriving DecidableEq, Repr

/-- An operation of the reader. -/
abbrev CdrRead := EStateM CdrError CdrReader

namespace CdrReader

/-- Opens a reader behind the header. -/
def openWith (bytes : List UInt8) (limits : CdrLimits) : Except CdrError CdrReader := do
  limits.validate
  let len := bytes.length
  if limits.maxStreamBytes < len then
    throw (.boundsExceeded 0 len limits.maxStreamBytes)
  match bytes with
  | b₀ :: b₁ :: b₂ :: b₃ :: _ =>
    let representation := UInt16.ofNat (BigEndian.ofBytes [b₀, b₁])
    let options := UInt16.ofNat (BigEndian.ofBytes [b₂, b₃])
    if representation = representationCdrLe then
      pure ⟨bytes, bodyOrigin, limits, ⟨representation, options, .little⟩⟩
    else if representation = representationCdrBe then
      pure ⟨bytes, bodyOrigin, limits, ⟨representation, options, .big⟩⟩
    else
      throw (.unsupportedRepresentation 0 len)
  | _ => throw (.invalidEncapsulation 0 headerLength len)

def openDefault (bytes : List UInt8) : Except CdrError CdrReader := openWith bytes .defaults

/-- Bytes from the cursor to the end of the input. -/
def remaining (r : CdrReader) : ℕ := r.bytes.length - r.offset

def endian (r : CdrReader) : CdrEndian := r.header.endian

/-- The input from the cursor on. -/
def unread (r : CdrReader) : List UInt8 := r.bytes.drop r.offset

/-- The `n` bytes of the input at a position. -/
def slice (r : CdrReader) (pos n : ℕ) : List UInt8 := (r.bytes.drop pos).take n

/-- The `UInt32` at a position, in stream order. -/
def readU32At (r : CdrReader) (pos : ℕ) : UInt32 := UInt32.ofNat (r.endian.ofBytes (r.slice pos 4))

/-- Enters one nested aggregate.  The cursor stays. -/
def enterNested (parent : CdrNesting) : CdrRead CdrNesting := do
  let r ← get
  let next := parent.depth + 1
  let maxD := r.limits.maxNestingDepth
  refuse (maxD < next) (.boundsExceeded r.offset next maxD)
  pure ⟨next⟩

/-- Puts the cursor at a position. -/
def seek (offset : ℕ) : CdrRead Unit := modify fun r => { r with offset }

/-- Puts the cursor back and fails when the condition holds. -/
def rejectIf (c : Prop) [Decidable c] (fieldStart : ℕ) (e : CdrError) : CdrRead Unit :=
  if c then do
    seek fieldStart
    throw e
  else pure ()

/-- The value of an option; its absence puts the cursor back and fails. -/
def orReject {α : Type} (o : Option α) (fieldStart : ℕ) (e : CdrError) : CdrRead α :=
  match o with
  | some a => pure a
  | none => do
    seek fieldStart
    throw e

/-- The padding of a field, once padding and field are there. -/
def preflight (fieldStart align size : ℕ) : CdrRead ℕ := do
  let r ← get
  let pad := paddingFor fieldStart align
  let rem := r.bytes.length - fieldStart
  let needed ← orReject (checkedAddUsize pad size) fieldStart (.lengthOverflow fieldStart 0 rem)
  rejectIf (0 < pad ∧ rem < pad) fieldStart (.alignmentOverflow fieldStart pad rem)
  rejectIf (rem < needed) fieldStart (.truncated fieldStart needed rem)
  pure pad

/-- Skips the padding of a field. -/
def alignTo (align size : ℕ) : CdrRead Unit := do
  let r ← get
  let pad ← preflight r.offset align size
  seek (r.offset + pad)

/-- A number of `k` bytes at alignment `k`. -/
def readUnsigned (k : ℕ) : CdrRead ℕ := do
  alignTo k k
  let r ← get
  seek (r.offset + k)
  pure (r.endian.ofBytes (r.slice r.offset k))

def readU8 : CdrRead UInt8 := UInt8.ofNat <$> readUnsigned 1

def readU16 : CdrRead UInt16 := UInt16.ofNat <$> readUnsigned 2

def readU32 : CdrRead UInt32 := UInt32.ofNat <$> readUnsigned 4

def readU64 : CdrRead UInt64 := UInt64.ofNat <$> readUnsigned 8

/-- A CDR boolean: `0` is false, `1` is true. -/
def readBool : CdrRead Bool := do
  let r ← get
  let b ← readU8
  rejectIf (b ≠ 0 ∧ b ≠ 1) r.offset (.invalidBoolean r.offset r.remaining)
  pure (b == 1)

def readI8 : CdrRead Int8 := UInt8.toInt8 <$> readU8

def readI16 : CdrRead Int16 := UInt16.toInt16 <$> readU16

def readI32 : CdrRead Int32 := UInt32.toInt32 <$> readU32

def readI64 : CdrRead Int64 := UInt64.toInt64 <$> readU64

/-- The bit pattern of an IEEE-754 binary32. -/
def readF32 : CdrRead UInt32 := readU32

/-- The bit pattern of an IEEE-754 binary64. -/
def readF64 : CdrRead UInt64 := readU64

def readChar8 : CdrRead UInt8 := readU8

def readChar16 : CdrRead UInt16 := readU16

/-- `n` raw bytes as a borrowed view, unaligned. -/
def readBytes (n : ℕ) : CdrRead Span := do
  alignTo 1 n
  let r ← get
  seek (r.offset + n)
  pure ⟨r.offset, r.slice r.offset n⟩

/-- **A CDR1 UTF-8 string.**  Twice the payload is charged to the temporary allocation, the
worst case of UTF-16 storage. -/
def readString (maxBytes : Option UInt32) : CdrRead String := do
  let r ← get
  let fieldStart := r.offset
  let remAtStart := r.remaining
  let maxStream := r.limits.maxStreamBytes
  let pad ← preflight fieldStart 4 4
  let lenPos := fieldStart + pad
  let len := (r.readU32At lenPos).toNat
  rejectIf (len = 0) fieldStart (.missingStringTerminator fieldStart 1 remAtStart)
  let payload := len - 1
  rejectIf (¬ WithinBound maxBytes payload) fieldStart
    (.boundsExceeded fieldStart (sizeFieldU64 payload)
      (sizeFieldU64 ((typeBoundCeiling maxBytes).getD 0)))
  rejectIf (maxStream < len) fieldStart (.lengthOverflow fieldStart len maxStream)
  let headerAndPad ← orReject (checkedAddUsize pad 4) fieldStart
    (.lengthOverflow fieldStart 0 remAtStart)
  let totalNeeded ← orReject (checkedAddUsize headerAndPad len) fieldStart
    (.lengthOverflow fieldStart 0 remAtStart)
  rejectIf (remAtStart < totalNeeded) fieldStart (.truncated fieldStart totalNeeded remAtStart)
  let worst := payload * 2
  let tempCap := r.limits.maxTemporaryAllocation
  rejectIf (tempCap < worst) fieldStart (.boundsExceeded fieldStart worst tempCap)
  let dataStart := lenPos + 4
  let span := r.slice dataStart len
  rejectIf (span.getLast? ≠ some 0) fieldStart (.missingStringTerminator fieldStart len remAtStart)
  let s ← orReject (ofUtf8? (span.take payload)) fieldStart (.invalidUtf8 fieldStart len remAtStart)
  seek (dataStart + len)
  pure s

/-- The scalars of `count` slots from a position, when all are accepted. -/
def readSlots (r : CdrReader) : ℕ → ℕ → Option (List Char)
  | _, 0 => some []
  | pos, count + 1 =>
    let slot := r.readU32At pos
    if isAcceptedWstringScalar slot then
      (r.readSlots (pos + 4) count).map (Char.ofNat slot.toNat :: ·)
    else none

/-- **A ROS 2 legacy wstring.** -/
def readWstring (maxScalars : Option UInt32) : CdrRead String := do
  let r ← get
  let fieldStart := r.offset
  let remAtStart := r.remaining
  let maxStream := r.limits.maxStreamBytes
  let pad ← preflight fieldStart 4 4
  let countPos := fieldStart + pad
  let count := (r.readU32At countPos).toNat
  rejectIf (¬ WithinBound maxScalars count) fieldStart
    (.boundsExceeded fieldStart (sizeFieldU64 count)
      (sizeFieldU64 ((typeBoundCeiling maxScalars).getD 0)))
  let payload := count * 4
  rejectIf (maxStream < payload) fieldStart (.lengthOverflow fieldStart payload maxStream)
  let headerAndPad ← orReject (checkedAddUsize pad 4) fieldStart
    (.lengthOverflow fieldStart 0 remAtStart)
  let totalNeeded ← orReject (checkedAddUsize headerAndPad payload) fieldStart
    (.lengthOverflow fieldStart 0 remAtStart)
  rejectIf (remAtStart < totalNeeded) fieldStart (.truncated fieldStart totalNeeded remAtStart)
  let tempCap := r.limits.maxTemporaryAllocation
  rejectIf (tempCap < payload) fieldStart (.boundsExceeded fieldStart payload tempCap)
  let dataStart := countPos + 4
  let out ← orReject (r.readSlots dataStart count) fieldStart
    (.invalidWstringScalar fieldStart remAtStart)
  seek (dataStart + payload)
  pure (String.ofList out)

/-- The checked count of a sequence at the cursor, with the position behind it.  The cursor
stays. -/
def sequenceCount (maxElements : Option UInt32) : CdrRead (UInt32 × ℕ) := do
  let r ← get
  let fieldStart := r.offset
  let maxStream := r.limits.maxStreamBytes
  let pad ← preflight fieldStart 4 4
  let countPos := fieldStart + pad
  let count := r.readU32At countPos
  rejectIf (¬ WithinBound maxElements count.toNat) fieldStart
    (.boundsExceeded fieldStart (sizeFieldU64 count.toNat)
      (sizeFieldU64 ((typeBoundCeiling maxElements).getD 0)))
  let maxStreamU := min maxStream (2 ^ 32 - 1)
  rejectIf (maxStreamU < count.toNat) fieldStart
    (.boundsExceeded fieldStart (sizeFieldU64 count.toNat) maxStream)
  pure (count, countPos + 4)

/-- An aligned `UInt32` sequence element count. -/
def readSequenceLength (maxElements : Option UInt32) : CdrRead UInt32 := do
  let (count, dataStart) ← sequenceCount maxElements
  seek dataStart
  pure count

/-- **A CDR sequence of octets as a borrowed view.** -/
def readByteSequence (maxElements : Option UInt32) : CdrRead Span := do
  let r ← get
  let fieldStart := r.offset
  let remAtStart := r.remaining
  let (count, dataStart) ← sequenceCount maxElements
  let headerAndPad := dataStart - fieldStart
  let totalNeeded ← orReject (checkedAddUsize headerAndPad count.toNat) fieldStart
    (.lengthOverflow fieldStart 0 remAtStart)
  rejectIf (remAtStart < totalNeeded) fieldStart (.truncated fieldStart totalNeeded remAtStart)
  seek (dataStart + count.toNat)
  pure ⟨dataStart, r.slice dataStart count.toNat⟩

/-- Strict completion: a fully consumed stream. -/
def ensureComplete : CdrRead Unit := do
  let r ← get
  refuse (0 < r.remaining) (.trailingData r.offset r.remaining)

/-- Top-level completion with a declared all-zero tail.  The exact end is always complete. -/
def ensureCompleteWithZeroTail (expectedTailBytes : ℕ) : CdrRead Unit := do
  let r ← get
  let rem := r.remaining
  let maxStream := r.limits.maxStreamBytes
  refuse (maxStream < expectedTailBytes) (.boundsExceeded r.offset expectedTailBytes maxStream)
  if rem = 0 then
    pure ()
  else
    refuse (rem ≠ expectedTailBytes) (.trailingData r.offset rem)
    refuse ((r.slice r.offset rem).any (· != 0)) (.trailingData r.offset rem)
    seek (r.offset + rem)

end CdrReader

end Cdr
end Rclweb
