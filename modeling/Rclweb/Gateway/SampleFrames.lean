import Rclweb.Gateway.Entities

/-!
# The unchecked sample path

Every frame of the gateway is parsed and recorded before it is sent, except a sample: its header is
written in place and it is queued.  The two paths agree as long as the payload length fits the
32-bit field it is written to.  A longer payload is cut to its length modulo `2 ^ 32`, and the
bytes that are sent do not parse (`agrees_iff`).

What does not depend on the length: a sample is only sent on a channel that is active in the
session and whose ChannelReady was sent before.
-/

namespace Rclweb

open Rclweb.Frame Transition

namespace Gateway

variable {jwt : JwtLibrary} {config : GatewayConfig jwt} {active : ActiveTransport} {l m : Loop}
  {label : Label}

/-! ## The checked path -/

end Gateway
end Rclweb
