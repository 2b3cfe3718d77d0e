import Rclweb.Session.Conflict
import Rclweb.Session.Refinement
import Rclweb.Session.TwoPeer

/-!
# What two sessions agree on

The views of the two sessions and the acts of the messages in flight form a pair of
replicas (`TwoPeer.toPair`), and every step of the system without failure is a move of that
pair (`toPair_step`), so the theorems of the replica library speak about the sessions.

* When nobody sends a message that clashes with one in flight towards it, every message in
  flight is accepted when it arrives (`ingest_ok_of_reaches`).
* When no call fails, and no channel Error of the server crosses the OpenChannel of its
  channel, the two sessions agree whenever both queues are empty (`agree_of_reaches`).
-/

namespace Rclweb

open Rclweb.Frame Control Transition

/-! ## A message is an act its sender may send -/

namespace Act

theorem sentBy_ite {c : Prop} [Decidable c] {a b : Act} {r : Role}
    (ha : c → a.sentBy r = true) (hb : b.sentBy r = true) :
    (if c then a else b).sentBy r = true := by
  split
  · next h => exact ha h
  · exact hb

theorem ofError_sentBy (msg : ControlMessage) (r : Role) : (ofError msg).sentBy r = true := by
  unfold ofError
  cases (fieldUint msg fieldChannelId).map UInt64.toUInt32 <;>
    simp only [ofOperationError, ofScopedError] <;> split_ifs <;> rfl

theorem ofOpenChannel_sentBy (msg : ControlMessage) :
    (ofOpenChannel msg).sentBy .client = true := by
  unfold ofOpenChannel
  split
  · split_ifs
    · rfl
    · split <;> rfl
  · rfl

theorem ofChannelReady_sentBy (msg : ControlMessage) :
    (ofChannelReady msg).sentBy .server = true := by
  unfold ofChannelReady
  split
  · split_ifs
    · rfl
    · split <;> rfl
  · rfl

theorem ofCloseChannel_sentBy (msg : ControlMessage) (r : Role) :
    (ofCloseChannel msg).sentBy r = true := by
  unfold ofCloseChannel
  split <;> rfl

theorem ofGraphSnapshot_sentBy (msg : ControlMessage) :
    (ofGraphSnapshot msg).sentBy .server = true := by
  unfold ofGraphSnapshot
  split <;> rfl

theorem ofGraphDelta_sentBy (msg : ControlMessage) :
    (ofGraphDelta msg).sentBy .server = true := by
  unfold ofGraphDelta
  split <;> rfl

/-- A control message that is not refused for its direction comes from its sender. -/
theorem sender_eq {kind : UInt8} {sender r : Role} (h : ¬ wrongSender kind sender = true)
    (hr : controlSender kind = some r) : sender = r := by
  have hsender : r = sender := by simpa [wrongSender, hr] using h
  exact hsender.symm

theorem ofControl_sentBy (sender : Role) (msg : ControlMessage) :
    (ofControl sender msg).sentBy sender = true := by
  unfold ofControl
  by_cases hw : wrongSender msg.kind sender = true
  · simp [hw, sentBy, ReadyAct.sentBy]
  rw [if_neg hw]
  have hfrom : ∀ {kind : UInt8} {r : Role}, msg.kind = kind → controlSender kind = some r →
      sender = r := fun hk hr => sender_eq hw (hk ▸ hr)
  refine sentBy_ite (fun h => ?_) (sentBy_ite (fun h => ?_) (sentBy_ite (fun _ => ?_)
    (sentBy_ite (fun h => ?_) (sentBy_ite (fun h => ?_) (sentBy_ite (fun _ => ?_)
    (sentBy_ite (fun _ => rfl) (sentBy_ite (fun h => ?_) (sentBy_ite (fun h => ?_)
    (sentBy_ite (fun _ => rfl) rfl)))))))))
  · rw [hfrom h (r := .client) rfl]; rfl
  · rw [hfrom h (r := .server) rfl]; rfl
  · exact ofError_sentBy msg sender
  · rw [hfrom h (r := .client) rfl]
    exact ofOpenChannel_sentBy msg
  · rw [hfrom h (r := .server) rfl]
    exact ofChannelReady_sentBy msg
  · exact ofCloseChannel_sentBy msg sender
  · rw [hfrom h (r := .server) rfl]
    exact ofGraphSnapshot_sentBy msg
  · rw [hfrom h (r := .server) rfl]
    exact ofGraphDelta_sentBy msg

/-- **A message is classified as an act its sender may send.** -/
theorem classify_sentBy (sender : Role) (m : Message) : (classify sender m).sentBy sender = true := by
  cases m with
  | bootstrap record => cases record <;> cases sender <;> rfl
  | frame frame =>
    show (ofFrame sender frame).sentBy sender = true
    unfold ofFrame
    refine sentBy_ite (fun _ => ?_) (sentBy_ite (fun _ => ?_) (sentBy_ite (fun _ => ?_) rfl))
    · cases frame.payload with
      | control msg => exact ofControl_sentBy sender msg
      | application b => rfl
    · simp [sentBy, ReadyAct.sentBy, ChannelAct.sentBy]
    · unfold ofStream
      cases checkOperationStream frame <;> simp [sentBy, ReadyAct.sentBy, ChannelAct.sentBy]

end Act

namespace TwoPeer

/-! ## The pair of replicas -/

def view (p : TwoPeer) (r : Role) : View := (p.session r).inner.view

/-- The acts on their way to the peer `r`. -/
def acts (p : TwoPeer) (r : Role) : List SentAct :=
  (p.inbox r).map fun m => (r.peer, Act.classify r.peer m)

/-- The system as a pair of replicas, the client on the left. -/
def toPair (p : TwoPeer) : Replica.Pair View SentAct :=
  ⟨p.view .client, p.view .server, p.acts .server, p.acts .client⟩

/-- Each session keeps the role it was created with. -/
def RolesKept (p : TwoPeer) : Prop := ∀ r, (p.session r).inner.role = r

theorem recordSend_ok {s s' : Session} {m : Message} {f : SessionEffects}
    (h : s.recordSend m = (.ok f, s')) :
    s.inner.view.step (Act.classify s.inner.role m) = some s'.inner.view ∧
      s'.inner.role = s.inner.role := by
  have href := Session.apply_refines s.inner m s.inner.role
  rw [Session.recordSend_eq] at h
  simp only [Session.ofOutcome, Prod.mk.injEq] at h
  obtain ⟨hres, rfl⟩ := h
  simpa [Refines, hres] using href

theorem ingest_ok {s s' : Session} {m : Message} {f : SessionEffects}
    (h : s.ingest m = (.ok f, s')) :
    s.inner.view.step (Act.classify s.inner.role.peer m) = some s'.inner.view ∧
      s'.inner.role = s.inner.role := by
  have href := Session.apply_refines s.inner m s.inner.role.peer
  rw [Session.ingest_eq] at h
  simp only [Session.ofOutcome, Prod.mk.injEq] at h
  obtain ⟨hres, rfl⟩ := h
  simpa [Refines, hres] using href

/-- A failed ingest leaves the session alone, and its view refuses the act. -/
theorem ingest_error {s s' : Session} {m : Message} {e : ProtocolError}
    (h : s.ingest m = (.error e, s')) :
    s.inner.view.step (Act.classify s.inner.role.peer m) = none ∧ s' = s := by
  have href := Session.apply_refines s.inner m s.inner.role.peer
  rw [Session.ingest_eq] at h
  simp only [Session.ofOutcome, Prod.mk.injEq] at h
  obtain ⟨hres, rfl⟩ := h
  obtain ⟨hv, hs⟩ : _ ∧ _ := by simpa [Refines, hres] using href
  exact ⟨hv, by rw [hs]⟩

/-! ## Every step is a move -/

variable {p q : TwoPeer} {may : TwoPeer → Role → Message → Prop}
  {accepts : Except ProtocolError SessionEffects → Prop}

theorem RolesKept.initial : RolesKept initial := fun _ => rfl

theorem RolesKept.update {r : Role} {s : Session} (h : RolesKept p)
    (hs : s.inner.role = (p.session r).inner.role) (r' : Role) :
    (Function.update p.session r s r').inner.role = r' := by
  by_cases hr : r' = r
  · subst hr
    simp [hs, h r']
  · simp [hr, h r']

theorem RolesKept.step (h : RolesKept p) (hstep : Step may accepts p q) : RolesKept q := by
  cases hstep with
  | send _ hs => exact h.update (recordSend_ok hs).2
  | @deliver r m rest res s _ hs _ =>
    cases res with
    | ok f => exact h.update (ingest_ok hs).2
    | error e => exact h.update (by rw [(ingest_error hs).2])

theorem acts_sent (p : TwoPeer) (r r' : Role) (m : Message) (s : Session) :
    (p.sent r m s).acts r' =
      if r' = r.peer then p.acts r' ++ [(r, Act.classify r m)] else p.acts r' := by
  by_cases h : r' = r.peer
  · subst h
    simp [acts, sent]
  · simp [acts, sent, h]

theorem acts_received {r : Role} {m : Message} {rest : List Message} (s : Session)
    (h : p.inbox r = m :: rest) :
    p.acts r = (r.peer, Act.classify r.peer m) :: (p.received r rest s).acts r := by
  simp [acts, received, h]

theorem acts_received_of_ne (p : TwoPeer) {r r' : Role} (rest : List Message) (s : Session)
    (h : r' ≠ r) : (p.received r rest s).acts r' = p.acts r' := by
  simp [acts, received, h]

theorem view_sent (p : TwoPeer) (r r' : Role) (m : Message) (s : Session) :
    (p.sent r m s).view r' = if r' = r then s.inner.view else p.view r' := by
  by_cases h : r' = r <;> simp [view, sent, h]

theorem view_received (p : TwoPeer) (r r' : Role) (rest : List Message) (s : Session) :
    (p.received r rest s).view r' = if r' = r then s.inner.view else p.view r' := by
  by_cases h : r' = r <;> simp [view, received, h]

/-- **A step without failure is a move of the pair of replicas.** -/
theorem toPair_step {mayAct : View → SentAct → List SentAct → Prop} (hroles : RolesKept p)
    (hmay : ∀ {r m}, may p r m → mayAct (p.view r) (r, Act.classify r m) (p.acts r))
    (hstep : Step may isOk p q) :
    Replica.Pair.Move View.sentStep mayAct p.toPair q.toPair := by
  cases hstep with
  | @send r m f s hm hs =>
    have hv := (recordSend_ok hs).1
    rw [hroles r] at hv
    cases r with
    | client =>
      simp only [toPair, view_sent, acts_sent, Role.peer, if_true, reduceCtorEq, if_false]
      exact .sendLeft (hmay hm) hv
    | server =>
      simp only [toPair, view_sent, acts_sent, Role.peer, if_true, reduceCtorEq, if_false]
      exact .sendRight (hmay hm) hv
  | @deliver r m rest res s hbox hs hok =>
    cases res with
    | error e => exact hok.elim
    | ok f =>
      have hv := (ingest_ok hs).1
      rw [hroles r] at hv
      cases r with
      | client =>
        simp only [toPair, view_received, acts_received s hbox, if_true, reduceCtorEq, if_false,
          acts_received_of_ne p rest s (show Role.server ≠ .client by decide)]
        exact .recvLeft hv
      | server =>
        simp only [toPair, view_received, acts_received s hbox, if_true, reduceCtorEq, if_false,
          acts_received_of_ne p rest s (show Role.client ≠ .server by decide)]
        exact .recvRight hv

/-- The peers start as two copies of one view. -/
theorem toPair_initial : initial.toPair = ⟨View.initial, View.initial, [], []⟩ := rfl

/-- **A run without failure is a run of the pair of replicas.** -/
theorem toPair_reaches {mayAct : View → SentAct → List SentAct → Prop}
    (hmay : ∀ {p r m}, may p r m → mayAct (p.view r) (r, Act.classify r m) (p.acts r))
    (h : Reaches may isOk p) :
    Relation.ReflTransGen (Replica.Pair.Move View.sentStep mayAct)
      ⟨View.initial, View.initial, [], []⟩ p.toPair ∧ RolesKept p := by
  induction h with
  | refl => exact ⟨.refl, RolesKept.initial⟩
  | tail _ hstep ih => exact ⟨ih.1.tail (toPair_step ih.2 hmay hstep), ih.2.step hstep⟩

/-! ## Crossing messages -/

/-- Peer `r` is about to send `m` while a message it clashes with is in flight towards it. -/
def Crossing (p : TwoPeer) (r : Role) (m : Message) : Prop :=
  ∃ n ∈ p.inbox r, (p.view r).clash (Act.classify r m) (Act.classify r.peer n) = true

/-- Peer `r` is about to send `m` while a channel Error of the server and the OpenChannel of
that channel cross. -/
def CrossesOpening (p : TwoPeer) (r : Role) (m : Message) : Prop :=
  ∃ n ∈ p.inbox r, (Act.classify r m).crossesOpening (Act.classify r.peer n) = true

instance (p : TwoPeer) (r : Role) (m : Message) : Decidable (p.Crossing r m) :=
  inferInstanceAs (Decidable (∃ n ∈ p.inbox r, _ = true))

instance (p : TwoPeer) (r : Role) (m : Message) : Decidable (p.CrossesOpening r m) :=
  inferInstanceAs (Decidable (∃ n ∈ p.inbox r, _ = true))

theorem opposite (r : Role) (m n : Message) :
    View.Opposite (r, Act.classify r m) (r.peer, Act.classify r.peer n) :=
  ⟨Role.ne_peer r, Act.classify_sentBy r m, Act.classify_sentBy r.peer n⟩

theorem free_of_not_crossing {r : Role} {m : Message} (h : ¬ p.Crossing r m) :
    View.FreeOfAll (p.view r) (r, Act.classify r m) (p.acts r) := by
  intro b hb
  obtain ⟨n, hn, rfl⟩ := List.mem_map.mp hb
  refine ⟨opposite r m n, ?_⟩
  by_contra hclash
  exact h ⟨n, hn, by simpa using hclash⟩

theorem mayCross_of_not_crossesOpening {r : Role} {m : Message} (h : ¬ p.CrossesOpening r m) :
    View.MayCrossAll (p.view r) (r, Act.classify r m) (p.acts r) := by
  intro b hb
  obtain ⟨n, hn, rfl⟩ := List.mem_map.mp hb
  refine ⟨opposite r m n, ?_⟩
  by_contra hopen
  exact h ⟨n, hn, by simpa using hopen⟩

/-- What is in flight in a sound pair is accepted by the session it is bound for. -/
theorem ingest_of_sound (hroles : RolesKept p) (hsound : Replica.Pair.Sound View.sentStep p.toPair)
    {r : Role} {m : Message} {rest : List Message} (hbox : p.inbox r = m :: rest) :
    ∃ f s, (p.session r).ingest m = (.ok f, s) := by
  have hstep : ∃ w, (p.session r).inner.view.step (Act.classify r.peer m) = some w := by
    have hacts := acts_received (p.session r) hbox
    cases r with
    | client =>
      have hswap := hsound.swap
      simp only [Replica.Pair.swap, toPair, hacts] at hswap
      obtain ⟨w, hw, -⟩ := hswap.recv
      exact ⟨w, hw⟩
    | server =>
      simp only [toPair, hacts] at hsound
      obtain ⟨w, hw, -⟩ := hsound.recv
      exact ⟨w, hw⟩
  obtain ⟨w, hw⟩ := hstep
  rcases hres : (p.session r).ingest m with ⟨res, s⟩
  cases res with
  | ok f => exact ⟨f, s, rfl⟩
  | error e =>
    have hnone := (ingest_error hres).1
    rw [hroles r, hw] at hnone
    simp at hnone

/-- Runs without crossing sends keep the grid of histories. -/
theorem sound_of_reaches (h : Reaches (fun p r m => ¬ p.Crossing r m) isOk p) :
    Replica.Pair.Sound View.sentStep p.toPair :=
  (Replica.Pair.sound_refl View.initial).reach View.commutes (fun hfree => hfree)
    (toPair_reaches free_of_not_crossing h).1

/-- In a run without crossing sends no ingest has failed. -/
theorem reaches_isOk (h : Reaches (fun p r m => ¬ p.Crossing r m) anyResult p) :
    Reaches (fun p r m => ¬ p.Crossing r m) isOk p := by
  induction h with
  | refl => exact .refl
  | tail _ hstep ih =>
    have hroles := (toPair_reaches free_of_not_crossing ih).2
    cases hstep with
    | send hm hs => exact ih.tail (.send hm hs)
    | deliver hbox hs _ =>
      obtain ⟨f, s', hok⟩ := ingest_of_sound hroles (sound_of_reaches ih) hbox
      obtain ⟨rfl, rfl⟩ : _ = Except.ok f ∧ _ = s' := by simpa [hs] using hok
      exact ih.tail (.deliver hbox hs trivial)

/-- **What one peer may send the other may receive**, as long as no peer sends a message that
clashes with one in flight towards it. -/
theorem ingest_ok_of_reaches (p : TwoPeer)
    (h : Reaches (fun p r m => ¬ p.Crossing r m) anyResult p) (r : Role) (m : Message)
    (rest : List Message) (hbox : p.inbox r = m :: rest) :
    ∃ f s, (p.session r).ingest m = (.ok f, s) :=
  ingest_of_sound (toPair_reaches free_of_not_crossing (reaches_isOk h)).2
    (sound_of_reaches (reaches_isOk h)) hbox

/-- A sample that meets a CloseChannel of its channel on the way is refused, so not every
message a session may send is one its peer may receive. -/
theorem not_ingest_ok_of_crossing :
    ¬ ∀ p, Reaches everySend anyResult p → ∀ r m rest, p.inbox r = m :: rest →
      ∃ f s, (p.session r).ingest m = (.ok f, s) := by
  intro h
  obtain ⟨p, hrun, hbox, hres⟩ : ∃ p,
      run everySend anyResult (subscribed ++
        [Move.send .server (rosSample 1), Move.send .client (closeChannel 1)]) initial = some p ∧
      p.inbox .client = [rosSample 1] ∧
      ((p.session .client).ingest (rosSample 1)).1 =
        .error (.unknownChannel "data_on_inactive_channel" 0) := ⟨_, rfl, rfl, rfl⟩
  obtain ⟨f, s, hok⟩ := h p (reaches_of_run hrun) .client (rosSample 1) [] hbox
  rw [hok] at hres
  contradiction

/-- The sample on its own is accepted. -/
theorem ingest_ok_of_sample :
    ∃ p, run (fun p r m => ¬ p.Crossing r m) anyResult
        (subscribed ++ [Move.send .server (rosSample 1)]) initial = some p ∧
      ∃ f s, (p.session .client).ingest (rosSample 1) = (.ok f, s) := by
  obtain ⟨p, hrun, hbox⟩ : ∃ p, run (fun p r m => ¬ p.Crossing r m) anyResult
      (subscribed ++ [Move.send .server (rosSample 1)]) initial = some p ∧
      p.inbox .client = [rosSample 1] := ⟨_, rfl, rfl⟩
  exact ⟨p, hrun, ingest_ok_of_reaches p (reaches_of_run hrun) .client (rosSample 1) [] hbox⟩

/-- **The two sessions agree at quiescence**, as long as no channel Error crosses the
OpenChannel of its channel. -/
theorem agree_of_reaches (p : TwoPeer)
    (h : Reaches (fun p r m => ¬ p.CrossesOpening r m) isOk p) (hempty : ∀ r, p.inbox r = []) :
    (p.session .client).phase = (p.session .server).phase ∧
      (∀ id, (p.session .client).channelState id = (p.session .server).channelState id ∧
        (p.session .client).operationKind id = (p.session .server).operationKind id) ∧
      (p.session .client).graphGeneration = (p.session .server).graphGeneration ∧
      (p.session .client).selectedWireVersion = (p.session .server).selectedWireVersion := by
  have hmoves := (toPair_reaches mayCross_of_not_crossesOpening h).1
  have heq : p.view .client = p.view .server :=
    Replica.Pair.eq_of_quiescent View.laws (fun hcross => hcross) hmoves
      (by simp [toPair, acts, hempty]) (by simp [toPair, acts, hempty])
  have hchannel := congrFun (congrArg View.channel heq)
  refine ⟨congrArg View.phase heq, fun id => ⟨?_, ?_⟩, congrArg View.graph heq,
    congrArg View.version heq⟩
  · simp only [Session.channelState, SessionState.state_eq]
    exact congrArg (fun c => (Option.map Prod.fst c).getD .unused) (hchannel id)
  · have hkind : ∀ r, (p.session r).operationKind id = ((p.view r).channel id).map Prod.snd := by
      intro r
      cases hget : (p.session r).inner.channels.get id <;>
        simp [Session.operationKind, view, SessionState.view, hget, SessionState.entryView]
    rw [hkind, hkind, hchannel id]

/-- A channel Error that meets the OpenChannel of its channel on the way leaves the channel
failed at the client and pending at the server. -/
theorem not_agree_of_crossesOpening :
    ¬ ∀ p, Reaches everySend isOk p → (∀ r, p.inbox r = []) →
      (p.session .client).phase = (p.session .server).phase ∧
      (∀ id, (p.session .client).channelState id = (p.session .server).channelState id ∧
        (p.session .client).operationKind id = (p.session .server).operationKind id) ∧
      (p.session .client).graphGeneration = (p.session .server).graphGeneration ∧
      (p.session .client).selectedWireVersion = (p.session .server).selectedWireVersion := by
  intro h
  obtain ⟨p, hrun, hempty, hclient, hserver⟩ : ∃ p,
      run everySend isOk (handshake ++ [Move.send .server (channelError 1),
        Move.send .client (openChannel 1), .deliver .server, .deliver .client]) initial = some p ∧
      (∀ r, p.inbox r = []) ∧ (p.session .client).channelState 1 = .failed ∧
      (p.session .server).channelState 1 = .pending :=
    ⟨_, rfl, by intro r; cases r <;> rfl, rfl, rfl⟩
  have heq := ((h p (reaches_of_run hrun) hempty).2.1 1).1
  rw [hclient, hserver] at heq
  contradiction

/-- After a channel was opened and answered both peers hold it active. -/
theorem agree_of_subscribed :
    ∃ p, run (fun p r m => ¬ p.CrossesOpening r m) isOk subscribed initial = some p ∧
      (p.session .client).phase = (p.session .server).phase ∧
      (∀ id, (p.session .client).channelState id = (p.session .server).channelState id ∧
        (p.session .client).operationKind id = (p.session .server).operationKind id) ∧
      (p.session .client).graphGeneration = (p.session .server).graphGeneration ∧
      (p.session .client).selectedWireVersion = (p.session .server).selectedWireVersion := by
  obtain ⟨p, hrun, hempty⟩ : ∃ p, run (fun p r m => ¬ p.CrossesOpening r m) isOk subscribed
      initial = some p ∧ ∀ r, p.inbox r = [] := ⟨_, rfl, by intro r; cases r <;> rfl⟩
  exact ⟨p, hrun, agree_of_reaches p (reaches_of_run hrun) hempty⟩

end TwoPeer
end Rclweb
