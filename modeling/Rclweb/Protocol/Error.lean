import Mathlib.Data.Nat.Notation

/-!
# The stable error surface

Every rejection of the wire protocol is one record with a registry code and name, a
stable reason token, the byte offset it points at, the validation plane and the step of
the published receiver order.  The constructors carry the code and the name; the call
sites of the other modules supply reason, offset and step.
-/

namespace Rclweb

/-- **A receiver validation failure**, with the plain fields two implementations are
compared by. -/
structure ProtocolError where
  code : ℕ
  name : String
  reason : String
  offset : ℕ
  plane : String
  step : ℕ
  deriving DecidableEq, Repr

namespace ProtocolError

def bootstrap (code : ℕ) (name reason : String) (offset step : ℕ) : ProtocolError :=
  ⟨code, name, reason, offset, "bootstrap", step⟩

def selectedFrame (code : ℕ) (name reason : String) (offset step : ℕ) : ProtocolError :=
  ⟨code, name, reason, offset, "selected_frame", step⟩

def malformedBootstrap (reason : String) (offset step : ℕ) : ProtocolError :=
  bootstrap 1 "malformed_bootstrap" reason offset step

def unsupportedVersionBootstrap (reason : String) (offset step : ℕ) : ProtocolError :=
  bootstrap 4 "unsupported_version" reason offset step

def messageTooLargeBootstrap (reason : String) (offset step : ℕ) : ProtocolError :=
  bootstrap 24 "message_too_large" reason offset step

/-- Bootstrap-plane protocol violation (registry code 25). -/
def protocolViolationBootstrap (reason : String) (offset step : ℕ) : ProtocolError :=
  bootstrap 25 "protocol_violation" reason offset step

def malformedFrame (reason : String) (offset step : ℕ) : ProtocolError :=
  selectedFrame 3 "malformed_frame" reason offset step

def unsupportedVersionFrame (reason : String) (offset step : ℕ) : ProtocolError :=
  selectedFrame 4 "unsupported_version" reason offset step

def unsupportedOpcode (reason : String) (offset step : ℕ) : ProtocolError :=
  selectedFrame 5 "unsupported_opcode" reason offset step

def unsupportedFlags (reason : String) (offset step : ℕ) : ProtocolError :=
  selectedFrame 6 "unsupported_flags" reason offset step

def unsupportedExtension (reason : String) (offset step : ℕ) : ProtocolError :=
  selectedFrame 22 "unsupported_extension" reason offset step

def invalidControl (reason : String) (offset step : ℕ) : ProtocolError :=
  selectedFrame 23 "invalid_control" reason offset step

def messageTooLargeFrame (reason : String) (offset step : ℕ) : ProtocolError :=
  selectedFrame 24 "message_too_large" reason offset step

def protocolViolation (reason : String) (offset step : ℕ) : ProtocolError :=
  selectedFrame 25 "protocol_violation" reason offset step

/-- Selected-frame step 17: ready-required control or data before ready. -/
def sessionNotReady (reason : String) (offset : ℕ) : ProtocolError :=
  selectedFrame 27 "session_not_ready" reason offset 17

/-- Selected-frame step 20: data on a failed, closed or never-opened channel. -/
def unknownChannel (reason : String) (offset : ℕ) : ProtocolError :=
  selectedFrame 7 "unknown_channel" reason offset 20

def clockUnavailable (reason : String) (offset step : ℕ) : ProtocolError :=
  selectedFrame 28 "clock_unavailable" reason offset step

end ProtocolError

/-- A computation succeeds when its parts do. -/
theorem bind_eq_ok {α β ε : Type} {x : Except ε α} {f : α → Except ε β} {b : β} :
    (x >>= f) = .ok b ↔ ∃ a, x = .ok a ∧ f a = .ok b := by
  cases x with
  | error e => simp [bind, Except.bind]
  | ok a => simp [bind, Except.bind]

/-- A computation fails when one of its parts does. -/
theorem bind_eq_error {ε α β : Type} {x : Except ε α} {f : α → Except ε β} {e : ε} :
    (x >>= f) = .error e ↔ x = .error e ∨ ∃ a, x = .ok a ∧ f a = .error e := by
  cases x with
  | error e' => simp [bind, Except.bind]
  | ok a => simp [bind, Except.bind]

end Rclweb
