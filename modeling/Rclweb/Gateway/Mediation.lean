import Rclweb.Gateway.Invariant

/-!
# Complete mediation

A client reaches the backend only through the checks.  When an entity is created, an Authenticate
was taken that is allowed, its SessionReady was sent, and an enforced policy has a rule that
matches its subject, the operation and the name.  The subject is fixed from then on.  Every other
operation is on an entity that was created for the channel of the message being handled, with the
kind the operation belongs to.
-/

namespace Rclweb
namespace Gateway

variable {jwt : JwtLibrary} {config : GatewayConfig jwt} {active : ActiveTransport}
  {received : List (List UInt8)} {l m : Loop} {label : Label}

/-- What an enforced policy that admits an operation says. -/
theorem rule_of_aclAdmits {subject : String} {kind : OperationKind} {topic : String}
    (h : aclAdmits config subject kind topic = true) (henforce : config.aclMode = .enforce) :
    ∃ policy, config.acl = some policy ∧ ∃ rule ∈ policy.rules,
      rule.admits subject (.fromKind kind) topic = true := by
  rw [aclAdmits, henforce] at h
  obtain ⟨policy, hpolicy, hallow⟩ := (Option.any_eq_true _ _).mp h
  exact ⟨policy, hpolicy, List.any_eq_true.mp hallow⟩

/-- **The subject of a ready connection does not change.** -/
theorem Loop.Sound.subject (h : l.Sound config received) (hstep : Step config active l label m)
    (hready : l.conn.session.phase = .ready) : m.conn.subject = l.conn.subject := by
  have hfixed : l.conn.subject ∈ l.conn.fixedSubject :=
    ConnState.mem_fixedSubject.mpr ⟨hready, rfl⟩
  have hfinish (k : Loop) (t : Turn) : (k.finish t).conn = t.conn := by
    unfold Loop.finish
    split_ifs <;> rfl
  cases hstep with
  | arrive | offerSample | offerRequest | offerAction | recv | recvEnd | answer | destroyed
  | tornDown => rfl
  | finish t hphase =>
    obtain ⟨-, bytes, -, hdone⟩ := h.handling hphase
    have hconn : (l.finishInbound t).conn = t.conn := by
      unfold Loop.finishInbound
      split_ifs <;> exact hfinish l t
    rw [hconn]
    exact hdone.subject _ hfixed
  | finishFailed t n hphase =>
    obtain ⟨-, bytes, -, hdone⟩ := h.handling hphase
    exact hdone.subject _ hfixed
  | sample sample rest conn queue _ _ hadmitted | sampleFailed sample rest conn queue _ _ _ hadmitted =>
    have hkeeps := l.conn.keeps_admitSample l.writeQueue sample
    rw [hadmitted] at hkeeps
    exact hkeeps.subject
  | request request rest _ _ =>
    rw [hfinish]
    exact (l.conn.keeps_pushServiceRequest request).subject
  | requestFailed request => exact (l.conn.keeps_pushServiceRequest request).subject
  | action action rest _ _ =>
    rw [hfinish]
    exact (l.conn.keeps_pushActionInbound action).subject
  | actionFailed action => exact (l.conn.keeps_pushActionInbound action).subject

/-- **Complete mediation**, at every moment of every run: whenever an entity is to be created, an
allowed Authenticate was taken and its SessionReady sent, and an enforced policy has a rule for its
subject, the operation and the name; the subject of a ready connection never changes; and whatever
else is asked of an entity comes from a message on the channel the entity was created for, with
the kind it was created with. -/
theorem mediated (h : Receives config active received l) :
    (∀ kind spec, l.Asks (.create kind spec) → ∃ subject,
      (∃ b ∈ received, Allows config subject b) ∧ (∃ b ∈ l.sent, IsSessionReady b) ∧
        (config.aclMode = .enforce → ∃ policy, config.acl = some policy ∧
          ∃ rule ∈ policy.rules, rule.admits subject (.fromKind kind) spec.topic = true)) ∧
    (∀ label m, Step config active l label m → l.conn.session.phase = .ready →
      m.conn.subject = l.conn.subject) ∧
    ∀ op, l.Asks op → ∀ entity ∈ op.entity?, ∀ kind ∈ op.kind?, ∃ bytes frame spec,
      received.getLast? = some bytes ∧ Frame.parseFrame bytes Frame.defaultOptions = .ok frame ∧
        spec.channelId = frame.channelId ∧ creation kind spec entity ∈ l.history := by
  have hsound := sound_of_receives h
  refine ⟨fun kind spec hop => ?_, fun label m hstep hready => hsound.subject hstep hready,
    fun op hop entity hentity kind hkind => ?_⟩
  · rcases hsound.asks hop with ⟨bytes, -, hmay⟩ | ⟨entity, hdestroy, -⟩
    · obtain ⟨subject, hallows, hsession, hadmits⟩ := hmay.mediated kind spec rfl
      exact ⟨subject, hallows, hsession, fun henforce => rule_of_aclAdmits hadmits henforce⟩
    · cases hdestroy
  · rcases hsound.asks hop with ⟨bytes, hlast, hmay⟩ | ⟨e, rfl, -⟩
    · obtain ⟨frame, spec, hparse, hid, hmem⟩ := hmay.owned entity hentity kind hkind
      exact ⟨bytes, frame, spec, hlast, hparse, hid, hmem⟩
    · cases hkind

/-- A loop that waits for the answer to a service call. -/
def Loop.isCalling (l : Loop) : Bool :=
  match l.phase with
  | .handling (.await (.call _ _ _) _) => true
  | _ => false

/-- A service call is on an entity that was created for its channel. -/
theorem mediated_of_call :
    ∃ received l, Receives sampleConfig .binaryWebSocket received l ∧
      ∃ entity opid payload, l.Asks (.call entity opid payload) ∧
        ∃ bytes frame spec, received.getLast? = some bytes ∧
          Frame.parseFrame bytes Frame.defaultOptions = .ok frame ∧
            spec.channelId = frame.channelId ∧
              creation .serviceClient spec entity ∈ l.history := by
  obtain ⟨l, hreach, hcheck⟩ := reachable_of_scripted
    (opened 2 ++
      [Move.arrive (clientOperation Frame.opcodeServiceRequest (sampleOpid 9) 0), Move.recv])
    Loop.isCalling (by decide +kernel)
  obtain ⟨received, hreceives⟩ := exists_receives hreach
  unfold Loop.isCalling at hcheck
  split at hcheck
  · next entity opid payload next hphase =>
    have hasks : l.Asks (.call entity opid payload) := .inl ⟨next, hphase⟩
    exact ⟨received, l, hreceives, entity, opid, payload, hasks,
      (mediated hreceives).2.2 _ hasks entity rfl .serviceClient rfl⟩
  · cases hcheck

end Gateway
end Rclweb
