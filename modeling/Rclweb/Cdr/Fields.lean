import Rclweb.Library.Aligned
import Rclweb.Cdr.Reader

/-!
# The fields of a stream

A field is one typed write, with its bound; its kind is the read that matches it.  What a field
is on the wire is its alignment and its body.  The two specifications below say of every kind of
field that writing appends zero padding and the body, and that reading takes padding of any
content and the body.
-/

namespace Rclweb

open BigEndian Attempts

namespace Cdr

/-- **One typed write**: a value and the bound it is written under.  Floats are bit patterns. -/
inductive CdrField where
  | u8 (v : UInt8)
  | u16 (v : UInt16)
  | u32 (v : UInt32)
  | u64 (v : UInt64)
  | i8 (v : Int8)
  | i16 (v : Int16)
  | i32 (v : Int32)
  | i64 (v : Int64)
  | bool (v : Bool)
  | f32 (bits : UInt32)
  | f64 (bits : UInt64)
  | char8 (v : UInt8)
  | char16 (v : UInt16)
  | bytes (data : List UInt8)
  | string (value : String) (maxBytes : Option UInt32)
  | wstring (value : String) (maxScalars : Option UInt32)
  | sequenceLength (length : UInt32) (maxElements : Option UInt32)
  | byteSequence (value : List UInt8) (maxElements : Option UInt32)
  deriving DecidableEq, Repr

/-- **One typed read**: its type, with the byte count or the bound it is made with. -/
inductive CdrFieldKind where
  | u8
  | u16
  | u32
  | u64
  | i8
  | i16
  | i32
  | i64
  | bool
  | f32
  | f64
  | char8
  | char16
  | bytes (n : ℕ)
  | string (maxBytes : Option UInt32)
  | wstring (maxScalars : Option UInt32)
  | sequenceLength (maxElements : Option UInt32)
  | byteSequence (maxElements : Option UInt32)
  deriving DecidableEq, Repr

namespace CdrField

/-- The read that matches a write: same type, bound and byte count. -/
def kind : CdrField → CdrFieldKind
  | u8 _ => .u8
  | u16 _ => .u16
  | u32 _ => .u32
  | u64 _ => .u64
  | i8 _ => .i8
  | i16 _ => .i16
  | i32 _ => .i32
  | i64 _ => .i64
  | bool _ => .bool
  | f32 _ => .f32
  | f64 _ => .f64
  | char8 _ => .char8
  | char16 _ => .char16
  | bytes data => .bytes data.length
  | string _ maxBytes => .string maxBytes
  | wstring _ maxScalars => .wstring maxScalars
  | sequenceLength _ maxElements => .sequenceLength maxElements
  | byteSequence _ maxElements => .byteSequence maxElements

/-- The write of a field. -/
def write : CdrField → CdrWrite Unit
  | u8 v => CdrWriter.writeU8 v
  | u16 v => CdrWriter.writeU16 v
  | u32 v => CdrWriter.writeU32 v
  | u64 v => CdrWriter.writeU64 v
  | i8 v => CdrWriter.writeI8 v
  | i16 v => CdrWriter.writeI16 v
  | i32 v => CdrWriter.writeI32 v
  | i64 v => CdrWriter.writeI64 v
  | bool v => CdrWriter.writeBool v
  | f32 bits => CdrWriter.writeF32 bits
  | f64 bits => CdrWriter.writeF64 bits
  | char8 v => CdrWriter.writeChar8 v
  | char16 v => CdrWriter.writeChar16 v
  | bytes data => CdrWriter.writeBytes data
  | string value maxBytes => CdrWriter.writeString value maxBytes
  | wstring value maxScalars => CdrWriter.writeWstring value maxScalars
  | sequenceLength length maxElements => CdrWriter.writeSequenceLength length maxElements
  | byteSequence value maxElements => CdrWriter.writeByteSequence value maxElements

end CdrField

/-- The read of a kind, with the value it returns as a field. -/
def CdrFieldKind.read : CdrFieldKind → CdrRead CdrField
  | u8 => .u8 <$> CdrReader.readU8
  | u16 => .u16 <$> CdrReader.readU16
  | u32 => .u32 <$> CdrReader.readU32
  | u64 => .u64 <$> CdrReader.readU64
  | i8 => .i8 <$> CdrReader.readI8
  | i16 => .i16 <$> CdrReader.readI16
  | i32 => .i32 <$> CdrReader.readI32
  | i64 => .i64 <$> CdrReader.readI64
  | bool => .bool <$> CdrReader.readBool
  | f32 => .f32 <$> CdrReader.readF32
  | f64 => .f64 <$> CdrReader.readF64
  | char8 => .char8 <$> CdrReader.readChar8
  | char16 => .char16 <$> CdrReader.readChar16
  | bytes n => (fun span => .bytes span.bytes) <$> CdrReader.readBytes n
  | string maxBytes => (.string · maxBytes) <$> CdrReader.readString maxBytes
  | wstring maxScalars => (.wstring · maxScalars) <$> CdrReader.readWstring maxScalars
  | sequenceLength maxElements =>
    (.sequenceLength · maxElements) <$> CdrReader.readSequenceLength maxElements
  | byteSequence maxElements =>
    (fun span => .byteSequence span.bytes maxElements) <$> CdrReader.readByteSequence maxElements

namespace CdrField

/-! ## The wire form -/

/-- The alignment of a field. -/
def align : CdrField → ℕ
  | u8 _ | i8 _ | bool _ | char8 _ | bytes _ => 1
  | u16 _ | i16 _ | char16 _ => 2
  | u32 _ | i32 _ | f32 _ | string .. | wstring .. | sequenceLength .. | byteSequence .. => 4
  | u64 _ | i64 _ | f64 _ => 8

/-- The slots of a text, one 32-bit number for each Unicode scalar. -/
def slots (endian : CdrEndian) (chars : List Char) : List UInt8 :=
  chars.flatMap fun ch => endian.toBytes 4 ch.val.toNat

/-- **The bytes of a field**, behind its padding. -/
def body (endian : CdrEndian) : CdrField → List UInt8
  | u8 v | char8 v => endian.toBytes 1 v.toNat
  | u16 v | char16 v => endian.toBytes 2 v.toNat
  | u32 v | f32 v => endian.toBytes 4 v.toNat
  | u64 v | f64 v => endian.toBytes 8 v.toNat
  | i8 v => endian.toBytes 1 v.toUInt8.toNat
  | i16 v => endian.toBytes 2 v.toUInt16.toNat
  | i32 v => endian.toBytes 4 v.toUInt32.toNat
  | i64 v => endian.toBytes 8 v.toUInt64.toNat
  | bool v => endian.toBytes 1 (if v then 1 else 0)
  | bytes data => data
  | string value _ => endian.toBytes 4 ((utf8 value).length + 1) ++ (utf8 value ++ [0])
  | wstring value _ => endian.toBytes 4 value.toList.length ++ slots endian value.toList
  | sequenceLength length _ => endian.toBytes 4 length.toNat
  | byteSequence value _ => endian.toBytes 4 value.length ++ value

/-- The size of a field, behind its padding. -/
def width : CdrField → ℕ
  | u8 _ | char8 _ | i8 _ | bool _ => 1
  | u16 _ | char16 _ | i16 _ => 2
  | u32 _ | f32 _ | i32 _ | sequenceLength .. => 4
  | u64 _ | f64 _ | i64 _ => 8
  | bytes data => data.length
  | string value _ => 4 + ((utf8 value).length + 1)
  | wstring value _ => 4 + value.toList.length * 4
  | byteSequence value _ => 4 + value.length

@[simp] theorem length_slots (endian : CdrEndian) (chars : List Char) :
    (slots endian chars).length = chars.length * 4 := by
  simp [slots, List.length_flatMap]

@[simp] theorem length_body (endian : CdrEndian) (f : CdrField) :
    (f.body endian).length = f.width := by
  cases f <;> simp [body, width]

theorem align_pos (f : CdrField) : 0 < f.align := by
  cases f <;> simp [align]

/-- The padding in front of a field at a position. -/
def padding (pos : ℕ) (f : CdrField) : ℕ := paddingFor pos f.align

/-- The payload bytes of a string or wide string field, and none of any other. -/
def stringPayload : CdrField → ℕ
  | string value _ => (utf8 value).length
  | wstring value _ => value.toList.length * 4
  | _ => 0

/-- **What the writer asks of a field**, apart from the space it takes. -/
def Writable (limits : CdrLimits) : CdrField → Prop
  | string value maxBytes => WithinBound maxBytes (utf8 value).length
  | wstring value maxScalars => WithinBound maxScalars value.toList.length
  | sequenceLength length maxElements =>
    WithinBound maxElements length.toNat ∧ length.toNat ≤ limits.maxStreamBytes
  | byteSequence value maxElements =>
    WithinBound maxElements value.length ∧ value.length ≤ limits.maxStreamBytes
  | _ => True

/-- **What the reader asks of a field**, apart from its being there. -/
def Readable (limits : CdrLimits) : CdrField → Prop
  | string value maxBytes =>
    WithinBound maxBytes (utf8 value).length ∧
      (utf8 value).length + 1 ≤ limits.maxStreamBytes ∧
        (utf8 value).length * 2 ≤ limits.maxTemporaryAllocation
  | wstring value maxScalars =>
    WithinBound maxScalars value.toList.length ∧
      value.toList.length * 4 ≤ limits.maxStreamBytes ∧
        value.toList.length * 4 ≤ limits.maxTemporaryAllocation
  | sequenceLength length maxElements =>
    WithinBound maxElements length.toNat ∧ length.toNat ≤ limits.maxStreamBytes
  | byteSequence value maxElements =>
    WithinBound maxElements value.length ∧ value.length ≤ limits.maxStreamBytes
  | _ => True

end CdrField

end Cdr
end Rclweb
