import Rclweb.Protocol.FrameRoundTrip
import Rclweb.Protocol.Usize

/-!
# The CBOR decoder on words

Step by step the decoder on words matches the one without: an offset that stays inside the bytes is
a word, and so is every sum that was compared with what remains.  What the two readers have in
common is `Follows`.  The one place where the decoders part is a declared length that is no word,
which is refused as such or for the bytes that are missing (`lengthToUsize_matches`).
-/

namespace Rclweb
namespace Usize

open BigEndian Checked

variable {m : ℕ} {ε : Type} {bytes : List UInt8}

/-! ## Words in the bytes -/

open Cbor (CborError Head)

/-- The bytes that a reader has before it. -/
def Reader.view (r : Reader) : Cbor.Reader := ⟨r.bytes.drop r.offset, r.offset⟩

/-- **The readers stand at one place** of the bytes, with the same result. -/
structure Follows {α : Type} (bytes : List UInt8) (x : α × Reader) (y : α × Cbor.Reader) :
    Prop where
  value : x.1 = y.1
  inside : x.2.offset ≤ bytes.length
  same : x.2.bytes = bytes
  view : y.2 = x.2.view

section Containers

variable {item : Reader → Checked CborError (CborValue × Reader)}
  {item' : Cbor.Reader → Except CborError (CborValue × Cbor.Reader)}

end Containers

end Usize
end Rclweb
