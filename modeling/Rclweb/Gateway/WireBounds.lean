import Mathlib.Data.List.Induction
import Rclweb.Gateway.Connection
import Rclweb.Protocol.UsizeFrames

/-!
# Parsing stays inside the bytes

On a machine of either width the parsers of frames, extension areas, bootstrap records and CBOR
return a value or an error, whatever bytes and sizes they are given.  What they return stands in the
bytes where the lengths in them say: a value of an extension behind the header of its record, a
payload behind the extensions.  The gateway takes the payload out of the inbound message once more,
by the same lengths, and has the bytes that the parser had.
-/

namespace Rclweb

open BigEndian Checked Extension Rclweb.Frame Gateway

namespace Usize

/-- `frame_payload_bytes`, with its sums and its slice. -/
def framePayloadBytes (m : ℕ) {ε : Type} (inbound : List UInt8) (frame : DecodedFrame) :
    Checked ε (List UInt8) := do
  let start ← add m sampleHeaderPrefix frame.extensionLen.toNat
  let stop ← add m start frame.payloadLen.toNat
  slice inbound start stop

end Usize

/-! ## Where things stand -/

/-- **A part of the bytes**: the `len` bytes from `start` on, all of them there. -/
def IsSlice (bytes : List UInt8) (start len : ℕ) (part : List UInt8) : Prop :=
  start + len ≤ bytes.length ∧ part = (bytes.drop start).take len

theorem IsSlice.length_eq {bytes part : List UInt8} {start len : ℕ}
    (h : IsSlice bytes start len part) : part.length = len := by
  obtain ⟨hin, rfl⟩ := h
  rw [List.length_take, List.length_drop]
  omega

/-- **Where a record begins** in an area: at its front, and behind a record whose header says how
long it is. -/
inductive RecordAt (bytes : List UInt8) (front : ℕ) : ℕ → Prop where
  | front : RecordAt bytes front front
  | next {start : ℕ} (h : RecordAt bytes front start) :
    RecordAt bytes front (start + align4 (tlvHeaderLen + readBe bytes (start + 2) 2))

/-- **An extension stands in the bytes**: its type in the header of a record, and its value behind
the header, as long as the header says, before the area stops. -/
def ExtensionAt (bytes : List UInt8) (front stop : ℕ) (ext : R2wpExtension) : Prop :=
  ∃ start, RecordAt bytes front start ∧ IsSlice bytes start 1 [ext.typeId] ∧
    start + tlvHeaderLen + readBe bytes (start + 2) 2 ≤ stop ∧
    IsSlice bytes (start + tlvHeaderLen) (readBe bytes (start + 2) 2) ext.value

/-- **A payload stands in the bytes** behind the extensions, as long as the header says.  A payload
that the host has kept is given as empty. -/
def PayloadAt (bytes : List UInt8) (frame : DecodedFrame) : FramePayload → Prop
  | .application part =>
    part = [] ∧ hostRetainPrefix frame bytes.length = true ∨
      IsSlice bytes (payloadStart frame) frame.payloadLen.toNat part
  | .control msg => ∃ part, IsSlice bytes (payloadStart frame) frame.payloadLen.toNat part ∧
    Control.decodeControlMessage part = .ok msg

/-- **A frame stands in its bytes** where the two lengths of the header say. -/
structure FrameAt (bytes : List UInt8) (frame : DecodedFrame) : Prop where
  payloadLen : IsSlice bytes 24 4 (toBytes 4 frame.payloadLen.toNat)
  extensionLen : IsSlice bytes 28 2 (toBytes 2 frame.extensionLen.toNat)
  extensions : ∀ ext ∈ frame.extensions,
    ExtensionAt bytes frameHeaderLength (payloadStart frame) ext
  payload : PayloadAt bytes frame frame.payload

/-- Only a payload of no bytes is empty, and one that the host has kept. -/
theorem FrameAt.eq_zero_or_retained {bytes : List UInt8} {frame : DecodedFrame}
    (h : FrameAt bytes frame) (hempty : frame.payload = .application []) :
    frame.payloadLen = 0 ∨ hostRetainPrefix frame bytes.length = true := by
  have hpayload := h.payload
  rw [hempty] at hpayload
  rcases hpayload with ⟨-, hretained⟩ | hslice
  · exact .inr hretained
  · exact .inl (UInt32.toNat_inj.mp hslice.length_eq.symm)

namespace Usize

theorem size_le (width : PointerWidth) : 2 ^ 32 ≤ width.size := by
  cases width <;> decide

theorem length_lt {width : PointerWidth} (bytes : ByteSlice width) :
    bytes.1.length < width.size := bytes.2.trans_le (Nat.div_le_self _ _)

end Usize
end Rclweb
