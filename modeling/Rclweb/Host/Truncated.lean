import Rclweb.Host.Retain
import Rclweb.Library.Raises

/-!
# Truncated frames

A frame whose bytes end behind its extensions, although the header declares a payload, is what
the host hands over when it keeps a body.  When it arrives like this on the wire, nobody has the
body.  `refused_iff` says when the engine refuses it as a malformed frame: for an application
opcode it does so only when something else is malformed.
-/

namespace Rclweb

open Rclweb.Frame Control Engine Engine.Turn ClientEngine

/-! ## No other error is a malformed frame -/

/-- The error closes the engine under another code than a malformed frame. -/
def ProtocolError.Otherwise (err : ProtocolError) : Prop := UInt8.ofNat err.code ≠ 3

namespace Bootstrap

open ProtocolError

/-- A bootstrap record that breaks the rules. -/
theorem otherwise_malformed {α : Type} {reason : String} {offset step : ℕ} :
    Raises Otherwise (.error (malformedBootstrap reason offset step) : Except ProtocolError α) :=
  Raises.error (show UInt8.ofNat 1 ≠ 3 by decide)

theorem raises_asMap {value : CborValue} {offset : ℕ} : Raises Otherwise (asMap value offset) := by
  cases value with
  | map m => exact Raises.ok m
  | _ => exact otherwise_malformed

theorem raises_requireExactKeys {map : Entries} {required optional : List UInt64} {offset : ℕ} :
    Raises Otherwise (requireExactKeys map required optional offset) :=
  Raises.ite (fun _ => otherwise_malformed) fun _ =>
    Raises.ite (fun _ => otherwise_malformed) fun _ => Raises.ok ()

theorem raises_asBool {value : CborValue} {offset : ℕ} :
    Raises Otherwise (asBool value offset) := by
  cases value with
  | bool b => exact Raises.ok b
  | _ => exact otherwise_malformed

theorem raises_asUintRange {value : CborValue} {offset min max : ℕ} :
    Raises Otherwise (asUintRange value offset min max) := by
  cases value with
  | unsigned v =>
    exact Raises.ite (fun _ => otherwise_malformed) fun _ => Raises.ok _
  | negative v =>
    exact Raises.ite (fun _ => otherwise_malformed) fun _ => Raises.ok _
  | _ => exact otherwise_malformed

theorem raises_asText {value : CborValue} {offset : ℕ} :
    Raises Otherwise (asText value offset) := by
  cases value with
  | text t => exact Raises.ite (fun _ => otherwise_malformed) fun _ => Raises.ok t
  | _ => exact otherwise_malformed

theorem raises_asArray {value : CborValue} {offset : ℕ} :
    Raises Otherwise (asArray value offset) := by
  cases value with
  | array a => exact Raises.ok a
  | _ => exact otherwise_malformed

theorem raises_optional {α : Type} {map : Entries} {key : UInt64}
    {decode : CborValue → Except ProtocolError α} (h : ∀ v, Raises Otherwise (decode v)) :
    Raises Otherwise (optional map key decode) := by
  unfold optional
  cases map.lookup key with
  | some v => exact (h v).map some
  | none => exact Raises.ok none

theorem raises_decodeTransport {value : CborValue} {offset : ℕ} :
    Raises Otherwise (decodeTransport value offset) :=
  raises_asMap.bind fun _ => raises_requireExactKeys.bind fun _ =>
    raises_asBool.bind fun _ => raises_asBool.bind fun _ =>
      (raises_optional fun _ => raises_asUintRange.map _).bind fun _ => Raises.ok _

theorem raises_decodeBuffer {value : CborValue} {offset : ℕ} :
    Raises Otherwise (decodeBuffer value offset) :=
  raises_asMap.bind fun _ => raises_requireExactKeys.bind fun _ =>
    raises_asBool.bind fun _ => raises_asBool.bind fun _ => Raises.ok _

theorem raises_decodeVersions {offset : ℕ} {els : List CborValue} {seen : List UInt8} :
    Raises Otherwise (decodeVersions offset seen els) := by
  induction els generalizing seen with
  | nil => exact Raises.ok _
  | cons el els ih =>
    exact (raises_asUintRange.map _).bind fun _ =>
      Raises.ite (fun _ => otherwise_malformed) fun _ => ih.bind fun _ => Raises.ok _

theorem raises_decodeWireVersions {value : CborValue} {offset : ℕ} :
    Raises Otherwise (decodeWireVersions value offset) :=
  raises_asArray.bind fun _ =>
    Raises.ite (fun _ => otherwise_malformed) fun _ => raises_decodeVersions

theorem raises_decodeCapabilityIds {offset : ℕ} {els : List CborValue} {prev : Option UInt16} :
    Raises Otherwise (decodeCapabilityIds offset prev els) := by
  induction els generalizing prev with
  | nil => exact Raises.ok _
  | cons el els ih =>
    exact raises_asUintRange.bind fun _ =>
      Raises.ite (fun _ => otherwise_malformed) fun _ =>
        Raises.ite (fun _ => otherwise_malformed) fun _ =>
          ih.bind fun _ => Raises.ok _

theorem raises_decodeExtensionCapabilities {value : CborValue} {offset : ℕ} :
    Raises Otherwise (decodeExtensionCapabilities value offset) :=
  raises_asArray.bind fun _ =>
    Raises.ite (fun _ => otherwise_malformed) fun _ => raises_decodeCapabilityIds

theorem raises_decodeRequestedLimits {value : CborValue} {offset : ℕ} :
    Raises Otherwise (decodeRequestedLimits value offset) :=
  raises_asMap.bind fun _ => raises_requireExactKeys.bind fun _ =>
    (raises_optional fun _ => raises_asUintRange.map _).bind fun _ =>
      (raises_optional fun _ => raises_asUintRange.map _).bind fun _ =>
        (raises_optional fun _ => raises_asUintRange.map _).bind fun _ =>
          (raises_optional fun _ => raises_asUintRange.map _).bind fun _ => Raises.ok _

theorem raises_decodeEffectiveLimits {value : CborValue} {offset : ℕ} :
    Raises Otherwise (decodeEffectiveLimits value offset) :=
  raises_asMap.bind fun _ => raises_requireExactKeys.bind fun _ =>
    raises_asUintRange.bind fun _ => raises_asUintRange.bind fun _ =>
      raises_asUintRange.bind fun _ => raises_asUintRange.bind fun _ => Raises.ok _

theorem raises_decodeClientHello {value : CborValue} {offset : ℕ} :
    Raises Otherwise (decodeClientHello value offset) :=
  raises_asMap.bind fun _ => raises_requireExactKeys.bind fun _ =>
    raises_decodeWireVersions.bind fun _ => raises_decodeTransport.bind fun _ =>
      raises_decodeBuffer.bind fun _ => raises_decodeRequestedLimits.bind fun _ =>
        raises_decodeExtensionCapabilities.bind fun _ => Raises.ok _

theorem raises_decodeServerHello {value : CborValue} {offset : ℕ} :
    Raises Otherwise (decodeServerHello value offset) :=
  raises_asMap.bind fun _ => raises_requireExactKeys.bind fun _ =>
    (raises_asUintRange.map _).bind fun _ =>
      Raises.ite (fun _ => otherwise_malformed) fun _ =>
        raises_decodeTransport.bind fun _ => raises_decodeBuffer.bind fun _ =>
          raises_decodeEffectiveLimits.bind fun _ =>
            raises_decodeExtensionCapabilities.bind fun _ => Raises.ok _

theorem raises_decodeBootstrapError {value : CborValue} {offset : ℕ} :
    Raises Otherwise (decodeBootstrapError value offset) :=
  raises_asMap.bind fun _ => raises_requireExactKeys.bind fun _ =>
    raises_asUintRange.bind fun _ =>
      Raises.ite (fun _ => otherwise_malformed) fun _ =>
        (raises_optional fun _ => raises_asText).bind fun _ =>
          (raises_optional fun _ => raises_asText).bind fun _ => Raises.ok _

/-- **No bootstrap record is a malformed frame.** -/
theorem raises_parseBootstrap (bytes : List UInt8) :
    Raises Otherwise (parseBootstrap bytes) := by
  unfold parseBootstrap
  refine Raises.ite (fun _ => otherwise_malformed) fun _ =>
    Raises.ite (fun _ => otherwise_malformed) fun _ =>
    Raises.ite (fun _ => Raises.error (show UInt8.ofNat 4 ≠ 3 by decide)) fun _ =>
    Raises.ite (fun _ => otherwise_malformed) fun _ =>
    Raises.ite (fun _ => otherwise_malformed) fun _ =>
    Raises.ite (fun _ => Raises.error (show UInt8.ofNat 24 ≠ 3 by decide)) fun _ =>
    Raises.ite (fun _ => otherwise_malformed) fun _ => ?_
  cases Cbor.decodeDeterministicCbor (bytes.drop bootstrapPrefixLength) with
  | error e => exact otherwise_malformed
  | ok value =>
    exact Raises.ite (fun _ => raises_decodeClientHello.map _) fun _ =>
      Raises.ite (fun _ => raises_decodeServerHello.map _) fun _ =>
        Raises.ite (fun _ => raises_decodeBootstrapError.map _) fun _ => otherwise_malformed

end Bootstrap

namespace Frame

open ProtocolError

variable {h : DecodedFrame} {opts : FrameOptions}

theorem otherwise_violation {α : Type} {reason : String} {offset step : ℕ} :
    Raises Otherwise (.error (protocolViolation reason offset step) : Except ProtocolError α) :=
  Raises.error (show UInt8.ofNat 25 ≠ 3 by decide)

theorem otherwise_flags {α : Type} {reason : String} {offset step : ℕ} :
    Raises Otherwise (.error (unsupportedFlags reason offset step) : Except ProtocolError α) :=
  Raises.error (show UInt8.ofNat 6 ≠ 3 by decide)

theorem otherwise_tooLarge {α : Type} {reason : String} {offset step : ℕ} :
    Raises Otherwise (.error (messageTooLargeFrame reason offset step) : Except ProtocolError α) :=
  Raises.error (show UInt8.ofNat 24 ≠ 3 by decide)

theorem raises_checkLengths : Raises Otherwise (checkLengths h opts) :=
  Raises.ite (fun _ => Raises.error (show UInt8.ofNat 4 ≠ 3 by decide)) fun _ =>
    Raises.ite (fun _ => otherwise_tooLarge) fun _ =>
      Raises.ite (fun _ => otherwise_tooLarge) fun _ =>
        Raises.ite (fun _ => otherwise_tooLarge) fun _ => Raises.ok ()

theorem raises_checkFlags : Raises Otherwise (checkFlags h) :=
  Raises.ite (fun _ => otherwise_flags) fun _ => Raises.ite (fun _ => otherwise_flags) fun _ =>
    Raises.ite (fun _ => otherwise_flags) fun _ => Raises.ite (fun _ => otherwise_flags) fun _ =>
      Raises.ite (fun _ => otherwise_flags) fun _ => Raises.ok ()

theorem raises_checkChannelClass : Raises Otherwise (checkChannelClass h) :=
  Raises.ite (fun _ => otherwise_violation) fun _ =>
    Raises.ite (fun _ => otherwise_violation) fun _ =>
      Raises.ite (fun _ => otherwise_violation) fun _ =>
        Raises.ite (fun _ => otherwise_violation) fun _ => Raises.ok ()

theorem raises_checkClock : Raises Otherwise (checkClock h opts) :=
  Raises.ite (fun _ => otherwise_violation) fun _ =>
    Raises.ite (fun _ => otherwise_violation) fun _ =>
      Raises.ite (fun _ => Raises.error (show UInt8.ofNat 28 ≠ 3 by decide)) fun _ => Raises.ok ()

theorem raises_checkTrace {extensions : List R2wpExtension} :
    Raises Otherwise (checkTrace h extensions) :=
  Raises.ite (fun _ => otherwise_violation) fun _ => Raises.ok ()

end Frame

namespace Session

open ProtocolError Transition

variable {s : SessionState} {frame : DecodedFrame} {sender : Role}

theorem raises_reject_violation {reason : String} {offset step : ℕ} :
    Raises Otherwise (reject s (protocolViolation reason offset step)).1 :=
  otherwise_violation

theorem raises_reject_notReady {reason : String} {offset : ℕ} :
    Raises Otherwise (reject s (sessionNotReady reason offset)).1 :=
  Raises.error (show UInt8.ofNat 27 ≠ 3 by decide)

theorem raises_applyDataChannelGates {id : UInt32} :
    Raises Otherwise (applyDataChannelGates s id) := by
  unfold applyDataChannelGates
  cases s.channels.state id with
  | active => exact Raises.ok ()
  | pending => exact otherwise_violation
  | _ => exact Raises.error (show UInt8.ofNat 7 ≠ 3 by decide)

theorem raises_applyRosSample : Raises Otherwise (applyRosSample s frame sender).1 := by
  unfold applyRosSample
  split
  · exact raises_reject_notReady
  split
  · next e hgates => exact Raises.error (raises_applyDataChannelGates e hgates)
  dsimp only
  split
  · exact raises_reject_violation
  · exact Raises.ok _

theorem raises_checkOperationStream : Raises Otherwise (checkOperationStream frame) := by
  unfold checkOperationStream
  dsimp only
  have hreliable : Raises Otherwise
      (if reliableRequired frame.opcode && frame.flags &&& flagRosReliable == 0 then
        .error (.protocolViolation "service_action_requires_reliable" 0 25)
      else .ok () : Except ProtocolError Unit) :=
    Raises.ite (fun _ => otherwise_violation) fun _ => Raises.ok ()
  refine Raises.ite (fun _ => ?_) fun _ => hreliable
  cases Transition.frameOperationId frame with
  | none => exact otherwise_violation
  | some opid => exact Raises.ite (fun _ => otherwise_violation) fun _ => hreliable

theorem raises_applyServiceActionFrame :
    Raises Otherwise (applyServiceActionFrame s frame sender).1 := by
  unfold applyServiceActionFrame
  split
  · exact raises_reject_notReady
  split
  · next e hgates => exact Raises.error (raises_applyDataChannelGates e hgates)
  dsimp only
  split
  · exact raises_reject_violation
  split
  · exact raises_reject_violation
  split
  · next e hstream => exact Raises.error (raises_checkOperationStream e hstream)
  · exact Raises.ok _

theorem raises_applyParkedFrame : Raises Otherwise (applyParkedFrame s frame).1 := by
  unfold applyParkedFrame
  split
  · exact raises_reject_notReady
  split
  · next e hgates => exact Raises.error (raises_applyDataChannelGates e hgates)
  · exact raises_reject_violation

theorem raises_ingestBootstrap (s : Session) (record : BootstrapRecord) :
    Raises Otherwise (s.ingestBootstrap record).1 := by
  have hreject {s : SessionState} {reason : String} {offset step : ℕ} :
      Raises Otherwise (reject s (protocolViolationBootstrap reason offset step)).1 :=
    Raises.error (show UInt8.ofNat 25 ≠ 3 by decide)
  show Raises Otherwise (applyBootstrap s.inner record s.inner.role.peer).1
  unfold applyBootstrap
  split
  · exact hreject
  split
  · exact hreject
  cases record with
  | clientHello hello =>
    dsimp only
    split_ifs
    · exact hreject
    · exact hreject
    · exact Raises.ok _
  | serverHello hello =>
    dsimp only
    split_ifs
    · exact hreject
    · exact hreject
    · exact Raises.ok _
  | bootstrapError error =>
    dsimp only
    split_ifs
    · exact hreject
    · exact hreject
    · exact Raises.ok _

/-- **No session refuses an application frame as malformed.** -/
theorem raises_ingestFrame (s : Session) (h : frame.opcode ≠ opcodeControlCbor) :
    Raises Otherwise (s.ingestFrame frame).1 := by
  show Raises Otherwise (applyFrame s.inner frame s.inner.role.peer).1
  unfold applyFrame
  rw [if_neg h]
  split
  · exact raises_reject_violation
  split
  · exact raises_reject_violation
  split
  · exact raises_applyRosSample
  split
  · exact raises_applyServiceActionFrame
  · exact raises_applyParkedFrame

end Session

namespace Host

open ProtocolError

/-! ## Truncated frames -/

/-- **A frame whose bytes end behind its extensions** although its header declares a payload. -/
def Truncated (bytes : List UInt8) : Prop :=
  r2wpHeaderLen ≤ bytes.length ∧ bytes.length = payloadStart (readHeader bytes) ∧
    0 < (readHeader bytes).payloadLen.toNat

/-- The engine closes over a malformed frame. -/
def RefusedAsMalformed (lib : Library) (e : ClientEngine) (bufferId : UInt32)
    (bytes : List UInt8) : Prop :=
  ∃ reason phase, (e.poll lib true [.wsBytes bufferId bytes]).2.events =
    [.error 3 reason, .closed phase]

/-- The extension area is malformed, other than too large or critical. -/
def structuralFault (h : DecodedFrame) (bytes : List UInt8) : Bool :=
  match parseExtensions h bytes with
  | .error err => UInt8.ofNat err.code == 3
  | .ok _ => false

/-- **Whether the engine refuses a truncated frame as malformed.** -/
def refuses (e : ClientEngine) (bytes : List UInt8) : Bool :=
  let h := readHeader bytes
  !e.closed && e.session.phase.inSelectedPlane && (checkLengths h defaultOptions).isOk &&
    (!opcodeAllowsHostRetain h.opcode ||
      (checkFlags h).isOk && (checkChannelClass h).isOk && (checkClock h defaultOptions).isOk &&
        structuralFault h bytes)

variable {e : ClientEngine} {bytes : List UInt8}

/-- The events of a poll turn with one message. -/
theorem events_poll (lib : Library) (bufferId : UInt32) (hopen : e.closed = false) :
    (e.poll lib true [.wsBytes bufferId bytes]).2.events =
      (handled lib e bufferId bytes).outcome.events := by
  have hphase : (Turn.retain ⟨e, {}⟩ bufferId bytes).2.engine.session.phase = e.session.phase :=
    congrArg (fun l => l.session.phase) (link_retain ⟨e, {}⟩ bufferId bytes)
  rw [poll_singleton lib true e (.wsBytes bufferId bytes) hopen]
  show (handleWsBytes lib true ⟨e, {}⟩ bufferId bytes).outcome.events = _
  unfold handleWsBytes handled
  dsimp only
  rw [hphase]
  rfl

/-- The events of a failure. -/
theorem events_failProtocol (t : Turn) (hnone : t.outcome.events = []) (err : ProtocolError) :
    (t.failProtocol err).outcome.events =
      [.error (UInt8.ofNat err.code) err.reason, .closed t.engine.session.phase] := by
  show (t.outcome.events ++ [_]) ++ [_] = _
  rw [hnone]
  rfl

/-- A bootstrap record is not refused as a malformed frame. -/
theorem bootstrap_not_malformed (t : Turn) (hnone : t.outcome.events = []) (reason : String)
    (phase : SessionPhase) :
    (t.handleBootstrap bytes).outcome.events ≠ [.error 3 reason, .closed phase] := by
  have hfails {err : ProtocolError} (herr : err.Otherwise) :
      (t.failProtocol err).outcome.events ≠ [.error 3 reason, .closed phase] := by
    rw [events_failProtocol t hnone]
    intro h
    injection h with h
    injection h with h
    exact herr h
  unfold handleBootstrap
  cases hparse : Bootstrap.parseBootstrap bytes with
  | error err => exact hfails (Bootstrap.raises_parseBootstrap bytes err hparse)
  | ok record =>
    dsimp only
    split
    · next err session hingest =>
      have hraises := Session.raises_ingestBootstrap t.engine.session record err
      rw [hingest] at hraises
      exact hfails (hraises rfl)
    · split_ifs
      · show (t.outcome.events ++ [_]) ++ [_] ≠ _
        rw [hnone]
        intro h
        injection h with h
        injection h with h
        exact absurd h (by decide)
      · show t.outcome.events ++ [_] ≠ _
        rw [hnone]
        exact nofun
      · show t.outcome.events ≠ _
        rw [hnone]
        exact nofun

theorem events_retain (bufferId : UInt32) :
    (Turn.retain ⟨e, {}⟩ bufferId bytes).2.outcome.events = [] := by
  unfold retain
  dsimp only
  split_ifs <;> rfl

/-- A parse error shows as its code. -/
theorem refused_iff_of_parse_error (lib : Library) (bufferId : UInt32) {err : ProtocolError}
    (hopen : e.closed = false) (hplane : e.session.phase.inSelectedPlane = true)
    (hparse : parseFrameDeclared bytes (retainDeclaredLen bytes) defaultOptions = .error err) :
    RefusedAsMalformed lib e bufferId bytes ↔ UInt8.ofNat err.code = 3 := by
  have hhandled : handled lib e bufferId bytes =
      (Turn.retain ⟨e, {}⟩ bufferId bytes).2.failProtocol err := by
    unfold handled
    dsimp only
    rw [if_pos hplane, handleFrame]
    dsimp only
    rw [hparse]
  unfold RefusedAsMalformed
  rw [events_poll lib bufferId hopen, hhandled, events_failProtocol _ (events_retain bufferId)]
  constructor
  · rintro ⟨reason, phase, h⟩
    injection h with h
    injection h
  · intro hcode
    rw [hcode]
    exact ⟨_, _, rfl⟩

theorem verdict_of_events {v : Verdict} {phase phase' : SessionPhase} {leaseId : UInt32}
    {code : UInt8} {reason : String}
    (h : v.events phase leaseId = [.error code reason, .closed phase']) :
    v = .fails code reason := by
  cases v with
  | fails code' message =>
    injection h with h
    injection h with hcode hmessage
    rw [hcode, hmessage]
  | ignored => cases h
  | leased event =>
    injection h with _ h
    cases h

/-- An application frame that parses is not refused as malformed. -/
theorem not_refused_of_parse (lib : Library) (bufferId : UInt32) {frame : DecodedFrame}
    (hopen : e.closed = false) (hplane : e.session.phase.inSelectedPlane = true)
    (hparse : parseFrameDeclared bytes (retainDeclaredLen bytes) defaultOptions = .ok frame)
    (hcontrol : frame.opcode ≠ opcodeControlCbor) :
    ¬ RefusedAsMalformed lib e bufferId bytes := by
  rintro ⟨reason, phase, h⟩
  obtain ⟨hevents, -⟩ := poll_settled lib true bufferId bytes _ frame hopen
    (handles_application lib bufferId hplane hparse hcontrol)
  have hraises := Session.raises_ingestFrame e.session hcontrol
  have hverdict := verdict_of_events (hevents.symm.trans h)
  have hcode {message : String} : Verdict.fails 25 message ≠ .fails 3 reason := by
    intro h
    injection h with h
    exact absurd h (by decide)
  unfold verdict at hverdict
  split at hverdict
  · next err herr =>
    injection hverdict with h
    exact hraises err herr h
  split_ifs at hverdict
  · unfold sampleVerdict at hverdict
    split at hverdict
    · exact hcode hverdict
    · cases hverdict
  · unfold operationVerdict at hverdict
    split at hverdict
    · exact hcode hverdict
    split at hverdict
    · cases hverdict
    split at hverdict
    · exact hcode hverdict
    · cases hverdict

/-- The size a truncated frame is taken to have is the one it declares. -/
theorem Truncated.declared (h : Truncated bytes) : retainDeclaredLen bytes =
    payloadStart (readHeader bytes) + (readHeader bytes).payloadLen.toNat := by
  obtain ⟨hlong, hlength, -⟩ := h
  rw [payloadStart, toNat_readHeader_extensionLen] at hlength ⊢
  rw [toNat_readHeader_payloadLen]
  have hlong' : ¬ bytes.length < frameHeaderLength := not_lt.mpr hlong
  unfold retainDeclaredLen
  rw [if_neg hlong']
  exact if_pos (.inr hlength)

/-- **How a truncated frame is parsed.** -/
theorem Truncated.parse (h : Truncated bytes) :
    let header := readHeader bytes
    parseFrameDeclared bytes (retainDeclaredLen bytes) defaultOptions =
      (do
        checkLengths header defaultOptions
        if opcodeAllowsHostRetain header.opcode then
          checkFlags header
          checkChannelClass header
          checkClock header defaultOptions
          let extensions ← parseExtensions header bytes
          checkTrace header extensions
          return { header with extensions := extensions, payload := .application [] }
        else .error (.malformedFrame "exact_total_mismatch" 0 4)) := by
  intro header
  have hdeclared := h.declared
  obtain ⟨hlong, hlength, hpos⟩ := h
  have hlong' : ¬ bytes.length < frameHeaderLength := not_lt.mpr hlong
  unfold parseFrameDeclared
  rw [if_neg hlong']
  show (checkLengths header defaultOptions >>= _) = (checkLengths header defaultOptions >>= _)
  cases checkLengths header defaultOptions with
  | error err => rfl
  | ok _ =>
  have htotal : checkTotal header bytes.length (retainDeclaredLen bytes) =
      if opcodeAllowsHostRetain header.opcode then .ok ()
      else .error (.malformedFrame "exact_total_mismatch" 0 4) := by
    have hkept : hostRetainPrefix header bytes.length = opcodeAllowsHostRetain header.opcode := by
      simp [hostRetainPrefix, hlength, hpos, header]
    unfold checkTotal
    rw [hkept]
    dsimp only
    rw [if_neg (not_not.mpr hdeclared)]
    cases opcodeAllowsHostRetain header.opcode with
    | true => exact if_neg (by simp)
    | false =>
      have hshort : bytes.length ≠ payloadStart header + header.payloadLen.toNat := by
        show bytes.length ≠ payloadStart (readHeader bytes) + (readHeader bytes).payloadLen.toNat
        omega
      exact if_pos ⟨hshort, rfl⟩
  show (checkTotal header bytes.length (retainDeclaredLen bytes) >>= _) = _
  rw [htotal]
  by_cases hallows : opcodeAllowsHostRetain header.opcode = true
  swap
  · rw [Bool.not_eq_true] at hallows
    rw [hallows]
    rfl
  have hopcode : checkOpcode header defaultOptions = .ok () := by
    have hassigned : isAssignedOpcode header.opcode = true := by
      rw [opcodeAllowsHostRetain, Bool.and_eq_true, decide_eq_true_eq, decide_eq_true_eq] at hallows
      rw [isAssignedOpcode, Bool.and_eq_true, decide_eq_true_eq, decide_eq_true_eq]
      exact ⟨UInt8.le_trans (by decide) hallows.1, hallows.2⟩
    exact if_pos hassigned
  have hpayload : parsePayload header bytes = .ok (.application []) := by
    unfold parsePayload
    dsimp only
    rw [if_neg (ne_control_of_allows hallows), if_pos]
    simp [hostRetainPrefix, hlength, hpos, hallows, header]
  rw [if_pos hallows]
  show (checkOpcode header defaultOptions >>= _) = _
  rw [hopcode, hpayload, hallows]
  rfl

/-- **When a truncated frame is refused.** -/
theorem refused_iff (lib : Library) (bufferId : UInt32) (h : Truncated bytes) :
    RefusedAsMalformed lib e bufferId bytes ↔ refuses e bytes = true := by
  by_cases hclosed : e.closed = true
  · refine iff_of_false ?_ (by simp [refuses, hclosed])
    have hpoll : e.poll lib true [.wsBytes bufferId bytes] =
        (e, { events := [.closed e.session.phase] }) := if_pos hclosed
    rintro ⟨reason, phase, hevents⟩
    rw [hpoll] at hevents
    injection hevents with _ hevents
    cases hevents
  have hopen : e.closed = false := Bool.eq_false_iff.mpr hclosed
  by_cases hplane : e.session.phase.inSelectedPlane = true
  swap
  · refine iff_of_false ?_ (by simp [refuses, hplane])
    rintro ⟨reason, phase, hevents⟩
    rw [events_poll lib bufferId hopen, handled, if_neg hplane] at hevents
    exact bootstrap_not_malformed _ (events_retain bufferId) reason phase hevents
  have hparse := h.parse
  have herror {err : ProtocolError} (hparse : parseFrameDeclared bytes (retainDeclaredLen bytes)
      defaultOptions = .error err) := refused_iff_of_parse_error lib bufferId hopen hplane hparse
  unfold refuses
  rw [hopen, hplane]
  dsimp only at hparse ⊢
  cases hlengths : checkLengths (readHeader bytes) defaultOptions with
  | error err =>
    rw [hlengths] at hparse
    rw [herror hparse]
    exact iff_of_false (raises_checkLengths err hlengths) (by simp [Except.isOk, Except.toBool])
  | ok _ =>
  rw [hlengths] at hparse
  by_cases hallows : opcodeAllowsHostRetain (readHeader bytes).opcode = true
  swap
  · rw [Bool.not_eq_true] at hallows
    rw [hallows] at hparse ⊢
    exact iff_of_true ((herror hparse).mpr rfl) rfl
  rw [hallows] at hparse ⊢
  cases hflags : checkFlags (readHeader bytes) with
  | error err =>
    rw [hflags] at hparse
    rw [herror hparse]
    exact iff_of_false (raises_checkFlags err hflags) (by simp [Except.isOk, Except.toBool])
  | ok _ =>
  rw [hflags] at hparse
  cases hclass : checkChannelClass (readHeader bytes) with
  | error err =>
    rw [hclass] at hparse
    rw [herror hparse]
    exact iff_of_false (raises_checkChannelClass err hclass) (by simp [Except.isOk, Except.toBool])
  | ok _ =>
  rw [hclass] at hparse
  cases hclock : checkClock (readHeader bytes) defaultOptions with
  | error err =>
    rw [hclock] at hparse
    rw [herror hparse]
    exact iff_of_false (raises_checkClock err hclock) (by simp [Except.isOk, Except.toBool])
  | ok _ =>
  rw [hclock] at hparse
  unfold structuralFault
  cases hextensions : parseExtensions (readHeader bytes) bytes with
  | error err =>
    rw [hextensions] at hparse
    rw [herror hparse]
    simp [Except.isOk, Except.toBool]
  | ok extensions =>
  rw [hextensions] at hparse
  refine iff_of_false ?_ (by simp [Except.isOk, Except.toBool])
  change _ = (checkTrace (readHeader bytes) extensions >>= _) at hparse
  cases htrace : checkTrace (readHeader bytes) extensions with
  | error err =>
    rw [htrace] at hparse
    rw [herror hparse]
    exact raises_checkTrace err htrace
  | ok _ =>
    rw [htrace] at hparse
    exact not_refused_of_parse lib bufferId hopen hplane hparse (ne_control_of_allows hallows)

/-! ## Host-retained payloads -/

/-- **Polled with `n` bytes the engine ends as polled with all**, but for the bytes it holds; the
payload of an event has the length of the rest. -/
def Invisible (lib : Library) (e : ClientEngine) (bufferId : UInt32) (bytes : List UInt8)
    (n : ℕ) : Prop :=
  let short := e.poll lib true [.wsBytes bufferId (bytes.take n)]
  let whole := e.poll lib true [.wsBytes bufferId bytes]
  short.1 = { whole.1 with retained := short.1.retained } ∧
    short.2.events = whole.2.events ∧ short.2.outbound = whole.2.outbound ∧
    short.2.nextDeadlineMs = whole.2.nextDeadlineMs ∧
    ∀ event ∈ short.2.events, ∀ leaseId, event.lease? = some leaseId →
      short.1.leasePayloadAbi leaseId = .host (UInt32.ofNat (bytes.length - n)) ∧
      whole.1.leasePayloadAbi leaseId = .view (bytes.drop n)

/-- **Header-prefix ingest**: invisible whenever the host chooses it, and a truncated frame that
arrives on the wire is refused as malformed exactly when `refuses` says so. -/
theorem prefix_ingest (lib : Library) (e : ClientEngine) (bufferId : UInt32)
    (bytes : List UInt8) :
    (∀ n, hostRetainPrefixLen bytes = some n → Invisible lib e bufferId bytes n) ∧
      (Truncated bytes →
        (RefusedAsMalformed lib e bufferId bytes ↔ refuses e bytes = true)) :=
  ⟨fun _ h => poll_take lib bufferId h, refused_iff lib bufferId⟩

/-- The host keeps the three bytes of a sample of the subscription. -/
theorem prefix_ingest_of_sample :
    Invisible Pair.noLibrary (run Pair.noLibrary true {} subscription) 0 sampleBytes 32 :=
  (prefix_ingest Pair.noLibrary (run Pair.noLibrary true {} subscription) 0 sampleBytes).1 32
    (by decide +kernel)

/-- The header of a sample of the subscription, which declares five bytes of payload. -/
def truncatedSample : List UInt8 :=
  [0, 2, 0, 1, 0, 0, 0, 1, 0, 0, 0, 0, 0, 0, 0, 0, 0, 0, 0, 0, 0, 0, 0, 0, 0, 0, 0, 5, 0, 0, 2, 0]

/-- A truncated sample is emitted, with a host-backed payload that nobody has. -/
theorem truncated_sample_emitted :
    ¬ ∀ polls bytes, Truncated bytes →
      RefusedAsMalformed Pair.noLibrary (run Pair.noLibrary true {} polls) 0 bytes := by
  intro h
  obtain ⟨reason, phase, hevents⟩ := h subscription truncatedSample
    ⟨by decide +kernel, by decide +kernel, by decide +kernel⟩
  have hsample : ((run Pair.noLibrary true {} subscription).poll Pair.noLibrary true
      [.wsBytes 0 truncatedSample]).2.events = [.sample 1 1 0 0 none] := by
    decide +kernel
  rw [hsample] at hevents
  cases hevents

end Host
end Rclweb
