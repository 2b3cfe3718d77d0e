import Mathlib.Order.Bounds.Basic
import Rclweb.Gateway.Invariant
import Rclweb.Gateway.Queued

/-!
# Limits

Each limit of a ServerHello is the least of what the client requested, what is configured and what
the protocol allows (`Negotiated`).  After the hello the limits play no part.  What bounds a
connection from then on is independent of them: the protocol bounds every frame and every payload
that is handed to the backend, and the configured write queue bounds every sample (`Within`).
SessionReady announces the configured numbers.
-/

namespace Rclweb

open Rclweb.Frame Control

namespace Gateway

variable {jwt : JwtLibrary} {config : GatewayConfig jwt} {active : ActiveTransport}
  {received : List (List UInt8)} {l m : Loop} {label : Label}

/-! ## The limits of a hello -/

/-- The least of a number that may be requested and two that are given. -/
theorem isLeast_min_getD (requested : Option ℕ) (hard ceiling : ℕ) :
    IsLeast {n | requested = some n ∨ n = hard ∨ n = ceiling}
      (min (min (requested.getD hard) hard) ceiling) := by
  constructor
  · cases requested with
    | none =>
      rw [Option.getD_none, min_self]
      rcases min_choice hard ceiling with h | h <;> simp [h]
    | some n =>
      rw [Option.getD_some]
      rcases min_choice (min n hard) ceiling with h | h
      · rw [h]
        rcases min_choice n hard with h | h <;> simp [h]
      · simp [h]
  · rintro n (rfl | rfl | rfl)
    · rw [Option.getD_some, min_assoc]
      exact min_le_left _ _
    · rw [min_right_comm]
      exact min_le_right _ _
    · exact min_le_right _ _

theorem toNat_effectiveLimit32 (requested : Option UInt32) (hard ceiling : UInt32) :
    (effectiveLimit requested hard ceiling).toNat =
      min (min ((requested.map UInt32.toNat).getD hard.toNat) hard.toNat) ceiling.toNat := by
  have hmin (a b : UInt32) : (min a b).toNat = min a.toNat b.toNat := by
    show (if a ≤ b then a else b).toNat = _
    split_ifs with h
    · exact (min_eq_left (UInt32.le_iff_toNat_le.mp h)).symm
    · exact (min_eq_right (not_le.mp (mt UInt32.le_iff_toNat_le.mpr h)).le).symm
  rw [effectiveLimit, hmin, hmin]
  cases requested <;> rfl

theorem toNat_effectiveLimit64 (requested : Option UInt64) (hard ceiling : UInt64) :
    (effectiveLimit requested hard ceiling).toNat =
      min (min ((requested.map UInt64.toNat).getD hard.toNat) hard.toNat) ceiling.toNat := by
  have hmin (a b : UInt64) : (min a b).toNat = min a.toNat b.toNat := by
    show (if a ≤ b then a else b).toNat = _
    split_ifs with h
    · exact (min_eq_left (UInt64.le_iff_toNat_le.mp h)).symm
    · exact (min_eq_right (not_le.mp (mt UInt64.le_iff_toNat_le.mpr h)).le).symm
  rw [effectiveLimit, hmin, hmin]
  cases requested <;> rfl

/-- A limit is the least of what is requested, if anything is, configured and allowed. -/
abbrev LeastOf (requested : Option ℕ) (hard ceiling limit : ℕ) : Prop :=
  IsLeast {n | requested = some n ∨ n = hard ∨ n = ceiling} limit

/-- **The limits that are negotiated for a ClientHello.** -/
structure Negotiated (config : GatewayConfig jwt) (requested : RequestedLimits)
    (limits : EffectiveLimits) : Prop where
  maxChannels : LeastOf (requested.maxChannels.map UInt32.toNat) config.maxChannels.toNat
    maxChannelsCeiling.toNat limits.maxChannels.toNat
  maxSessionBytes : LeastOf (requested.maxSessionBytes.map UInt64.toNat)
    config.maxSessionBytes.toNat maxSessionBytesCeiling.toNat limits.maxSessionBytes.toNat
  maxMessageBytes : LeastOf (requested.maxMessageBytes.map UInt32.toNat)
    config.maxMessageBytes.toNat maxMessageBytesCeiling.toNat limits.maxMessageBytes.toNat
  maxControlPayloadBytes : LeastOf (requested.maxControlPayloadBytes.map UInt32.toNat)
    config.maxControlPayloadBytes.toNat maxControlPayloadBytesCeiling.toNat
    limits.maxControlPayloadBytes.toNat

theorem negotiated_of_negotiateServerHello {hello : ClientHello} {serverHello : ServerHello}
    (h : negotiateServerHello hello config active = .ok serverHello) :
    Negotiated config hello.requestedLimits serverHello.effectiveLimits := by
  unfold negotiateServerHello at h
  dsimp only at h
  split_ifs at h
  obtain rfl := Except.ok.inj h
  constructor
  · rw [LeastOf, toNat_effectiveLimit32]
    exact isLeast_min_getD _ _ _
  · rw [LeastOf, toNat_effectiveLimit64]
    exact isLeast_min_getD _ _ _
  · rw [LeastOf, toNat_effectiveLimit32]
    exact isLeast_min_getD _ _ _
  · rw [LeastOf, toNat_effectiveLimit32]
    exact isLeast_min_getD _ _ _

/-! ## What is sent -/

/-- A SessionReady holds the configured budgets. -/
def AnnouncesBudgets (config : GatewayConfig jwt) (message : CborValue) : Prop :=
  ∀ raw, message = .map raw → raw.lookup 1 = some (.unsigned 2) →
    raw.lookup 12 = some (effectiveBudgetsMap config.maxChannels.toUInt64 config.maxSessionBytes
      config.maxMessageBytes.toUInt64)

theorem Builds.announcesBudgets {message : CborValue} (h : Builds config message) :
    AnnouncesBudgets config message := by
  intro raw hmessage hkind
  have hother (entries : List (UInt64 × CborValue)) (k : UInt64)
      (hraw : CborValue.map entries = .map raw)
      (hk : entries.lookup 1 = some (.unsigned k)) (hne : k ≠ 2) : False := by
    obtain rfl := CborValue.map.inj hraw
    rw [hk] at hkind
    exact hne (CborValue.unsigned.inj (Option.some.inj hkind))
  cases h with
  | sessionReady => exact CborValue.map.inj hmessage ▸ rfl
  | graphSnapshot => exact (hother _ 3 hmessage rfl (by decide)).elim
  | graphDelta => exact (hother _ 4 hmessage rfl (by decide)).elim
  | channelReady kind correlation channelId priority qos =>
    obtain ⟨field, hfield⟩ :=
      Turn.channelReadyOf_eq config kind correlation channelId priority qos
    exact (hother _ 9 (hfield.symm.trans hmessage) rfl (by decide)).elim
  | channelReadyError => exact (hother _ 9 hmessage rfl (by decide)).elim
  | heartbeat => exact (hother _ 12 hmessage rfl (by decide)).elim
  | sessionError => exact (hother _ 15 hmessage rfl (by decide)).elim
  | channelError => exact (hother _ 15 hmessage rfl (by decide)).elim

/-- The configured bound of the bytes that wait in the write queue. -/
def queueBytes (config : GatewayConfig jwt) : ℕ := max config.sampleQueueMaxBytes.toNat 1

/-- **A message within the bounds of a connection** that took the given messages. -/
inductive Within (config : GatewayConfig jwt) (received : List (List UInt8)) : List UInt8 → Prop
  | serverHello {record bytes : List UInt8} {hello : ClientHello} {serverHello : ServerHello} :
      record ∈ received → Bootstrap.parseBootstrap record = .ok (.clientHello hello) →
        Encode.encodeServerHello serverHello = .ok bytes →
          Negotiated config hello.requestedLimits serverHello.effectiveLimits →
            Within config received bytes
  | bootstrapError {err : BootstrapErrorRecord} {bytes : List UInt8} :
      Encode.encodeBootstrapError err = .ok bytes → Within config received bytes
  | control {message : CborValue} {sequence : UInt64} {bytes : List UInt8} {frame : DecodedFrame} :
      Encode.encodeControlFrame 0 sequence message = .ok bytes →
        AnnouncesBudgets config message → parseFrame bytes defaultOptions = .ok frame →
          frame.payloadLen.toNat ≤ controlPayloadMaxBytes → Within config received bytes
  | operation {bytes : List UInt8} {frame : DecodedFrame} :
      parseFrame bytes defaultOptions = .ok frame → frame.opcode ≠ opcodeControlCbor →
        frame.payloadLen.toNat ≤ framePayloadMaxBytes → Within config received bytes
  | sample {bytes : List UInt8} :
      IsSample bytes → bytes.length ≤ queueBytes config → Within config received bytes

/-- More was received. -/
theorem Within.mono {received' : List (List UInt8)} {bytes : List UInt8}
    (h : Within config received bytes) (hsub : received ⊆ received') :
    Within config received' bytes := by
  cases h with
  | serverHello hmem hparse hbytes hnegotiated =>
    exact .serverHello (hsub hmem) hparse hbytes hnegotiated
  | bootstrapError hbytes => exact .bootstrapError hbytes
  | control hbytes hbudgets hparse hlen => exact .control hbytes hbudgets hparse hlen
  | operation hparse hopcode hlen => exact .operation hparse hopcode hlen
  | sample hsample hlen => exact .sample hsample hlen

theorem Queued.within {bytes : List UInt8} (h : Queued config active received bytes) :
    Within config received bytes := by
  cases h with
  | serverHello hmem hparse hnegotiate hbytes =>
    exact .serverHello hmem hparse hbytes (negotiated_of_negotiateServerHello hnegotiate)
  | bootstrapError hbytes => exact .bootstrapError hbytes
  | @control message sequence _ frame hbuilds hbytes hparse =>
    obtain ⟨msg, payloadLen, -, hframe⟩ := sendable_of_parse hbytes hparse
    have hopcode : frame.opcode = opcodeControlCbor := by rw [hframe]; rfl
    exact .control hbytes hbuilds.announcesBudgets hparse
      ((Turn.payloadLen_of_parse hparse).2 hopcode)
  | @operation header _ _ _ frame hopcode hbytes hparse =>
    obtain ⟨_, _, rfl⟩ := header_of_parse hbytes hparse
    refine .operation hparse ?_ (Turn.payloadLen_of_parse hparse).1
    intro heq
    exact hopcode (List.mem_cons.mpr (.inl heq))

/-! ## The write queue -/

namespace SampleWriteQueue

theorem maxBytes_evict (q : SampleWriteQueue) (len fuel : ℕ) :
    (q.evict len fuel).maxBytes = q.maxBytes := by
  induction fuel generalizing q with
  | zero => rfl
  | succ fuel ih =>
    unfold evict
    split_ifs
    · rfl
    · cases h : q.items with
      | nil =>
        have hnone : q.popFrontRaw = none := by simp only [popFrontRaw, h]
        rw [hnone]
      | cons f rest =>
        rw [popFrontRaw_cons h]
        exact ih _

theorem length_le_of_canFit {q : SampleWriteQueue} {n : ℕ} (h : q.canFit n = true) :
    n ≤ q.maxBytes := by
  simp only [canFit, Bool.and_eq_true, decide_eq_true_eq] at h
  exact h.1.1

/-- **Everything that waits** is a sample that fits the queue. -/
def Fits (q : SampleWriteQueue) : Prop :=
  ∀ f ∈ q.items, IsSample f.bytes ∧ f.bytes.length ≤ q.maxBytes

variable {q : SampleWriteQueue}

theorem Fits.push (h : q.Fits) (channelId : UInt32) (reliable : Bool) {frame : List UInt8}
    (hsample : IsSample frame) (hlen : frame.length ≤ q.maxBytes) :
    (q.push channelId reliable frame).Fits := by
  intro f hf
  rcases List.mem_append.mp hf with hf | hf
  · exact h f hf
  · exact List.mem_singleton.mp hf ▸ ⟨hsample, hlen⟩

theorem Fits.admitBestEffort (h : q.Fits) (channelId : UInt32) {frame : List UInt8}
    (hsample : IsSample frame) :
    (q.admitBestEffort channelId frame).Fits ∧
      (q.admitBestEffort channelId frame).maxBytes = q.maxBytes := by
  have hmax := q.maxBytes_evict frame.length q.items.length
  obtain ⟨n, hitems, -⟩ := q.evict_spec frame.length q.items.length
  have hevict : (q.evict frame.length q.items.length).Fits := by
    intro f hf
    rw [hitems] at hf
    rw [hmax]
    exact h f (List.mem_of_mem_drop hf)
  unfold SampleWriteQueue.admitBestEffort
  dsimp only
  split_ifs with hlong hfit
  · exact ⟨h, rfl⟩
  · exact ⟨hevict.push channelId false hsample (length_le_of_canFit hfit), hmax⟩
  · exact ⟨hevict, hmax⟩

/-- **Admitting a sample** keeps the bound of the queue. -/
theorem Fits.admitSample (h : q.Fits) {conn conn' : ConnState} {queue : SampleWriteQueue}
    {sample : SubscriptionSample} (hadmitted : conn.admitSample q sample = (conn', queue)) :
    queue.Fits ∧ queue.maxBytes = q.maxBytes := by
  rcases conn.admitSample_cases q sample with heq | ⟨runtime, -, -, hframe, hroom, heq⟩
  · rw [heq] at hadmitted
    obtain rfl := (Prod.mk.inj hadmitted).2
    exact ⟨h, rfl⟩
  · rw [heq] at hadmitted
    obtain rfl := (Prod.mk.inj hadmitted).2
    have hsample : IsSample (runtime.frameBytes sample) := by
      rw [IsSample, ChannelRuntime.frameBytes, readHeader_headerBytes]
      rfl
    split_ifs with hreliable
    · refine ⟨h.push _ _ hsample ?_, rfl⟩
      rw [length_frameBytes runtime hframe]
      exact length_le_of_canFit (hroom hreliable)
    · exact h.admitBestEffort _ hsample

end SampleWriteQueue

/-! ## Runs -/

namespace Loop

/-- **The bounds of a run**: what was sent and what waits is within them, and a handler that is
running relays. -/
structure Bounded (config : GatewayConfig jwt) (active : ActiveTransport)
    (received : List (List UInt8)) (l : Loop) : Prop where
  sent : ∀ b ∈ l.sent, Within config received b
  fits : l.writeQueue.Fits
  maxBytes : l.writeQueue.maxBytes = queueBytes config
  handling : ∀ task, l.phase = .handling task → Relays config active received l.history task

namespace Bounded

variable (h : Bounded config active received l)
include h

/-- What waits may be sent. -/
theorem within_waiting {queue : SampleWriteQueue} (hfits : queue.Fits)
    (hmax : queue.maxBytes = l.writeQueue.maxBytes) :
    ∀ b ∈ queue.items.map (·.bytes), Within config received b := by
  intro b hb
  obtain ⟨f, hf, rfl⟩ := List.mem_map.mp hb
  obtain ⟨hsample, hlen⟩ := hfits f hf
  exact .sample hsample (hlen.trans (hmax.trans h.maxBytes).le)

theorem within_append {new : List (List UInt8)} (hnew : ∀ b ∈ new, Within config received b) :
    ∀ b ∈ l.sent ++ new, Within config received b := fun b hb =>
  (List.mem_append.mp hb).elim (h.sent b) (hnew b)

/-- The transport failed. -/
theorem sendFailed {conn : ConnState} {messages : List (List UInt8)}
    (hmessages : ∀ b ∈ messages, Within config received b) (n : ℕ) :
    Bounded config active received (l.sendFailed conn messages n) where
  sent := h.within_append fun b hb => hmessages b (List.mem_of_mem_take hb)
  fits := h.fits
  maxBytes := h.maxBytes
  handling task hphase := by cases hphase

/-- A branch is over. -/
theorem finish {t : Turn} (hqueues : t.Queues config active received) :
    Bounded config active received (l.finish t) := by
  have hsent := h.within_append fun b hb => (hqueues b hb).within
  unfold Loop.finish
  dsimp only
  split_ifs
  · exact ⟨hsent, h.fits, h.maxBytes, fun task hphase => by cases hphase⟩
  · exact ⟨hsent, h.fits, h.maxBytes, fun task hphase => by cases hphase⟩

theorem flush (hphase : ∀ task, l.phase ≠ .handling task) :
    Bounded config active received l.flush where
  sent := h.within_append (h.within_waiting h.fits rfl)
  fits f hf := by cases hf
  maxBytes := h.maxBytes
  handling task htask := absurd htask (hphase task)

/-- **Every step but taking a message** keeps the bounds. -/
theorem step (hstep : Step config active l label m) (hlabel : label ≠ .recv) :
    Bounded config active received m := by
  cases hstep with
  | arrive | offerSample | offerRequest | offerAction =>
    exact ⟨h.sent, h.fits, h.maxBytes, h.handling⟩
  | recv => exact absurd rfl hlabel
  | recvEnd hphase => exact ⟨h.sent, h.fits, h.maxBytes, fun task hphase => by cases hphase⟩
  | answer op next answer hphase =>
    refine ⟨h.sent, h.fits, h.maxBytes, fun task htask => ?_⟩
    obtain rfl := Phase.handling.inj htask
    exact (h.handling _ hphase).2 answer trivial
  | finish t hphase =>
    have hfinish := h.finish (h.handling _ hphase)
    unfold Loop.finishInbound
    split_ifs with hclose
    · exact hfinish
    · refine hfinish.flush fun task htask => ?_
      unfold Loop.finish at htask
      rw [if_neg hclose] at htask
      cases htask
  | finishFailed t n hphase =>
    refine h.sendFailed (fun b hb => ?_) n
    rcases List.mem_append.mp hb with hb | hb
    · exact (h.handling _ hphase b hb).within
    · split_ifs at hb
      · cases hb
      · exact h.within_waiting h.fits rfl b hb
  | sample sample rest conn queue hphase _ hadmitted =>
    obtain ⟨hfits, hmax⟩ := h.fits.admitSample hadmitted
    have hnext : Bounded config active received
        { l with samples := rest, conn := conn, writeQueue := queue } :=
      ⟨h.sent, hfits, hmax.trans h.maxBytes, h.handling⟩
    refine hnext.flush fun task htask => ?_
    rw [hphase] at htask
    cases htask
  | sampleFailed sample rest conn queue n hphase _ hadmitted =>
    obtain ⟨hfits, hmax⟩ := h.fits.admitSample hadmitted
    have hnext : Bounded config active received { l with samples := rest, writeQueue := queue } :=
      ⟨h.sent, hfits, hmax.trans h.maxBytes, h.handling⟩
    exact hnext.sendFailed (h.within_waiting hfits hmax) n
  | request request rest hphase _ =>
    have hnext : Bounded config active received { l with requests := rest } :=
      ⟨h.sent, h.fits, h.maxBytes, h.handling⟩
    exact hnext.finish (l.conn.queues_pushInbound _ _ (by decide) _ _)
  | requestFailed request rest n hphase _ =>
    have hnext : Bounded config active received { l with requests := rest } :=
      ⟨h.sent, h.fits, h.maxBytes, h.handling⟩
    exact hnext.sendFailed (fun b hb =>
      (l.conn.queues_pushInbound _ _ (by decide) _ _ b hb : Queued config active _ b).within) n
  | action action rest hphase _ =>
    have hnext : Bounded config active received { l with actions := rest } :=
      ⟨h.sent, h.fits, h.maxBytes, h.handling⟩
    exact hnext.finish (l.conn.queues_pushInbound _ _ (by split <;> decide) _ _)
  | actionFailed action rest n hphase _ =>
    have hnext : Bounded config active received { l with actions := rest } :=
      ⟨h.sent, h.fits, h.maxBytes, h.handling⟩
    exact hnext.sendFailed (fun b hb =>
      (l.conn.queues_pushInbound _ _ (by split <;> decide) _ _ b hb :
        Queued config active _ b).within) n
  | destroyed op next answer hphase =>
    exact ⟨h.sent, h.fits, h.maxBytes, fun task hphase => by cases hphase⟩
  | tornDown hphase => exact ⟨h.sent, h.fits, h.maxBytes, fun task hphase => by cases hphase⟩

/-- **Taking a message** starts a handler that relays. -/
theorem recv (bytes : List UInt8) (rest : List (List UInt8)) (sessionId : ByteArrayOf 32) :
    Bounded config active (received ++ [bytes])
      { l with
        inbound := rest
        phase := .handling (l.conn.handleInbound config active sessionId bytes) } where
  sent b hb := (h.sent b hb).mono (List.subset_append_left _ _)
  fits := h.fits
  maxBytes := h.maxBytes
  handling task htask := by
    obtain rfl := Phase.handling.inj htask
    exact l.conn.relays_handleInbound
      (List.mem_append_right _ (List.mem_singleton.mpr rfl)) sessionId

end Bounded
end Loop

end Gateway
end Rclweb
