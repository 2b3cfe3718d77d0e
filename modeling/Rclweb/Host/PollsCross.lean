import Rclweb.Host.PollCodecRoundTrip

/-!
# Poll results cross the boundary

The host reads every outcome back whose counts and message lengths fit their fields, with texts as
a `TextDecoder` reads them: a text that begins with a byte order mark loses it
(`poll_results_cross`).

The second decoder gives what the general one would have given, and it only ever sees one sample
without text.
-/

namespace Rclweb

open Engine LittleEndian ByteReader TextDecoder

namespace Host

section

variable (payloadView : UInt32 → UInt32 × UInt32)

/-! ## The header -/

theorem natAt_append {p r : List UInt8} {offset : ℕ} (h : p.length = offset) (k n : ℕ) :
    natAt k (p ++ (toBytes k n ++ r)) offset = n % 256 ^ k := by
  rw [natAt, List.drop_left' h, List.take_left' (length_toBytes k n), ofBytes_toBytes]

theorem natAt_u16 {p r : List UInt8} (offset : ℕ) (h : p.length = offset) (n : ℕ) :
    natAt 2 (p ++ (writeU16 n ++ r)) offset = n % 2 ^ 16 :=
  natAt_append h 2 n

theorem natAt_u32 {p r : List UInt8} (offset : ℕ) (h : p.length = offset) (n : ℕ) :
    natAt 4 (p ++ (writeU32 n ++ r)) offset = n % 2 ^ 32 :=
  natAt_append h 4 n

theorem natAt_u64 {p r : List UInt8} (offset : ℕ) (h : p.length = offset) (n : ℕ) :
    natAt 8 (p ++ (writeU64 n ++ r)) offset = n % 2 ^ 64 :=
  natAt_append h 8 n

/-- The records of a result, behind its header. -/
def encodeRecords (outcome : PollOutcome) : List UInt8 :=
  outcome.outbound.flatMap encodeOutbound ++
    (outcome.events.flatMap (encodeAppEvent payloadView) ++
      outcome.releasedBuffers.flatMap encodeReleased)

/-- Twenty-eight bytes, and the records. -/
theorem exists_header (outcome : PollOutcome) : ∃ header : List UInt8, header.length = 28 ∧
    encodePollResult payloadView outcome = header ++ encodeRecords payloadView outcome := by
  refine ⟨writeU32 resultMagic ++ writeU16 layoutVersion ++ writeU16 0 ++
    writeU32 outcome.outbound.length ++ writeU32 outcome.events.length ++
    writeU32 outcome.releasedBuffers.length ++ writeDeadline outcome.nextDeadlineMs, ?_, ?_⟩
  · cases outcome.nextDeadlineMs <;> simp [writeU16, writeU32, writeU64, writeDeadline]
  · simp only [encodePollResult, encodeRecords, List.append_assoc]

theorem natAt_magic (outcome : PollOutcome) :
    natAt 4 (encodePollResult payloadView outcome) 0 = resultMagic := by
  simp only [encodePollResult, List.append_assoc]
  exact natAt_u32 (p := []) 0 rfl resultMagic

theorem natAt_version (outcome : PollOutcome) :
    natAt 2 (encodePollResult payloadView outcome) 4 = layoutVersion := by
  simp only [encodePollResult, List.append_assoc]
  exact natAt_u16 (p := writeU32 resultMagic) 4 rfl layoutVersion

theorem natAt_outboundCount (outcome : PollOutcome) :
    natAt 4 (encodePollResult payloadView outcome) 8 = outcome.outbound.length % 2 ^ 32 := by
  have h := fun r => natAt_u32 (r := r)
    (p := writeU32 resultMagic ++ writeU16 layoutVersion ++ writeU16 0) 8 rfl
    outcome.outbound.length
  simpa only [encodePollResult, List.append_assoc] using h _

theorem natAt_eventCount (outcome : PollOutcome) :
    natAt 4 (encodePollResult payloadView outcome) 12 = outcome.events.length % 2 ^ 32 := by
  have h := fun r => natAt_u32 (r := r)
    (p := writeU32 resultMagic ++ writeU16 layoutVersion ++ writeU16 0 ++
      writeU32 outcome.outbound.length) 12 rfl outcome.events.length
  simpa only [encodePollResult, List.append_assoc] using h _

theorem natAt_releasedCount (outcome : PollOutcome) :
    natAt 4 (encodePollResult payloadView outcome) 16 =
      outcome.releasedBuffers.length % 2 ^ 32 := by
  have h := fun r => natAt_u32 (r := r)
    (p := writeU32 resultMagic ++ writeU16 layoutVersion ++ writeU16 0 ++
      writeU32 outcome.outbound.length ++ writeU32 outcome.events.length) 16 rfl
    outcome.releasedBuffers.length
  simpa only [encodePollResult, List.append_assoc] using h _

/-- The deadline of a result: minus one stands for none. -/
theorem deadlineOf_encode {outcome : PollOutcome}
    (h : ∀ ms ∈ outcome.nextDeadlineMs, ms.toNat < 2 ^ 63) :
    deadlineOf (natAt 8 (encodePollResult payloadView outcome) 20) =
      outcome.nextDeadlineMs.map fun ms => (ms.toNat : ℤ) := by
  have hat := fun n r => natAt_u64 (r := r)
    (p := writeU32 resultMagic ++ writeU16 layoutVersion ++ writeU16 0 ++
      writeU32 outcome.outbound.length ++ writeU32 outcome.events.length ++
      writeU32 outcome.releasedBuffers.length) 20 rfl n
  cases hdeadline : outcome.nextDeadlineMs with
  | none =>
    have hnat : natAt 8 (encodePollResult payloadView outcome) 20 =
        0xffffffffffffffff % 2 ^ 64 := by
      simpa only [encodePollResult, hdeadline, writeDeadline, List.append_assoc] using
        hat 0xffffffffffffffff _
    rw [hnat]
    decide
  | some ms =>
    have hms := h ms hdeadline
    have hnat : natAt 8 (encodePollResult payloadView outcome) 20 = ms.toNat % 2 ^ 64 := by
      simpa only [encodePollResult, hdeadline, writeDeadline, List.append_assoc] using
        hat ms.toNat _
    have hmod : ms.toNat % 2 ^ 64 = ms.toNat := Nat.mod_eq_of_lt (by omega)
    rw [hnat, hmod, deadlineOf, asIntN_of_lt hms, if_neg (by omega)]
    rfl

/-! ## The records -/

/-- **The counts and the lengths of the messages fit their fields.** -/
structure Fits (outcome : PollOutcome) : Prop where
  outboundCount : outcome.outbound.length < 2 ^ 32
  eventCount : outcome.events.length < 2 ^ 32
  releasedCount : outcome.releasedBuffers.length < 2 ^ 32
  outboundLength : ∀ msg ∈ outcome.outbound, msg.bytes.length < 2 ^ 32

/-- The texts of an outcome fit 16 bits, and its operation ids have 16 bytes. -/
structure WellFormed (outcome : PollOutcome) : Prop where
  textLength : ∀ event ∈ outcome.events, ∀ s ∈ textsOf event, (BigEndian.utf8 s).length < 2 ^ 16
  operationId : ∀ event ∈ outcome.events, ∀ e, operationOf event = some e →
    e.operationId.length = 16
  deadline : ∀ ms ∈ outcome.nextDeadlineMs, ms.toNat < 2 ^ 63

theorem reads_records {outcome : PollOutcome} (hwf : WellFormed outcome) (hfits : Fits outcome)
    (nextDeadlineMs : Option ℤ) :
    Reads (readRecords outcome.outbound.length outcome.events.length
        outcome.releasedBuffers.length nextDeadlineMs)
      (encodeRecords payloadView outcome)
      { shown withoutMark payloadView outcome with nextDeadlineMs } :=
  (reads_repeated fun msg hmsg => reads_outbound (hfits.outboundLength msg hmsg)).bind
    ((reads_repeated fun event hevent => reads_event payloadView
      (hwf.textLength event hevent) (hwf.operationId event hevent)).bind
      (reads_repeated fun released _ => reads_released released).last)

/-- **The general decoder reads an outcome back**, its texts without their byte order marks. -/
theorem decodeGeneral_encode {outcome : PollOutcome} (hwf : WellFormed outcome)
    (hfits : Fits outcome) : decodeGeneral (encodePollResult payloadView outcome) =
      .ok (shown withoutMark payloadView outcome) := by
  obtain ⟨header, hlen, heq⟩ := exists_header payloadView outcome
  have hread := reads_records payloadView hwf hfits
    (outcome.nextDeadlineMs.map fun ms => (ms.toNat : ℤ)) []
  rw [List.append_nil] at hread
  have hout : outcome.outbound.length % 2 ^ 32 = outcome.outbound.length :=
    Nat.mod_eq_of_lt hfits.outboundCount
  have hevents : outcome.events.length % 2 ^ 32 = outcome.events.length :=
    Nat.mod_eq_of_lt hfits.eventCount
  have hreleased : outcome.releasedBuffers.length % 2 ^ 32 = outcome.releasedBuffers.length :=
    Nat.mod_eq_of_lt hfits.releasedCount
  rw [decodeGeneral, natAt_outboundCount, natAt_eventCount, natAt_releasedCount,
    deadlineOf_encode payloadView hwf.deadline, hout, hevents, hreleased, heq,
    List.drop_left' hlen, hread]
  rfl

/-- The parts of a result are as many as the header says, and no message is longer than its
length says. -/
theorem yields_records (outboundCount eventCount releasedCount : ℕ) (nextDeadlineMs : Option ℤ) :
    Yields (readRecords outboundCount eventCount releasedCount nextDeadlineMs) fun poll =>
      (poll.outbound.length = outboundCount ∧ ∀ msg ∈ poll.outbound, msg.2.length < 2 ^ 32) ∧
        poll.events.length = eventCount ∧ poll.released.length = releasedCount := by
  have hout : Yields readOutbound fun msg => msg.2.length < 2 ^ 32 :=
    Yields.after fun _ => Yields.after fun _ => (yields_nat 4).bind fun _ hlen =>
      (yields_take _).bind fun _ hpayload => yields_pure (lt_of_le_of_lt hpayload hlen)
  refine (yields_repeated hout outboundCount).bind fun outbound houtbound => ?_
  refine (yields_repeated (yields_trivial readEvent) eventCount).bind fun events hevents => ?_
  refine (yields_repeated (yields_trivial readReleased) releasedCount).bind fun _ hreleased => ?_
  exact yields_pure ⟨houtbound, hevents.1, hreleased.1⟩

/-- What arrives unchanged fits. -/
theorem fits_of_decodeGeneral {f : String → String} {outcome : PollOutcome}
    (h : decodeGeneral (encodePollResult payloadView outcome) =
      .ok (shown f payloadView outcome)) : Fits outcome := by
  rw [decodeGeneral, natAt_outboundCount, natAt_eventCount, natAt_releasedCount] at h
  cases hread : readRecords (outcome.outbound.length % 2 ^ 32) (outcome.events.length % 2 ^ 32)
      (outcome.releasedBuffers.length % 2 ^ 32)
      (deadlineOf (natAt 8 (encodePollResult payloadView outcome) 20))
      ((encodePollResult payloadView outcome).drop 28) with
  | error e =>
    rw [hread] at h
    cases h
  | ok r =>
    rw [hread] at h
    have hpoll : r.1 = shown f payloadView outcome := by
      injection h
    obtain ⟨⟨hout, hlengths⟩, hevents, hreleased⟩ := yields_records _ _ _ _ _ r.1 r.2 hread
    rw [hpoll] at hout hlengths hevents hreleased
    simp only [shown, List.length_map] at hout hevents hreleased
    refine ⟨?_, ?_, ?_, ?_⟩
    · rw [hout]
      exact Nat.mod_lt _ (by norm_num)
    · rw [hevents]
      exact Nat.mod_lt _ (by norm_num)
    · rw [hreleased]
      exact Nat.mod_lt _ (by norm_num)
    · intro msg hmsg
      exact hlengths _ (List.mem_map_of_mem hmsg)

/-! ## The second decoder -/

/-- A number at an offset. -/
theorem bind_nat_drop {β : Type} (k n : ℕ) (bytes : List UInt8) (f : ℕ → ByteReader String β) :
    (nat k >>= f) (bytes.drop n) = f (natAt k bytes n) (bytes.drop (n + k)) := by
  refine bind_of_ok ?_
  rw [nat, List.drop_drop, natAt]

/-- A sample without text, at an offset. -/
theorem readSample_drop {n : ℕ} {bytes : List UInt8} (h : asIntN 4 (natAt 4 bytes (n + 32)) < 0) :
    readSample (bytes.drop n) = .ok (.sample (natAt 4 bytes n) (natAt 4 bytes (n + 4))
      (natAt 8 bytes (n + 8)) (asIntN 8 (natAt 8 bytes (n + 16))) (natAt 4 bytes (n + 24))
      (natAt 4 bytes (n + 28)) none, bytes.drop (n + 36)) := by
  have hsign : ¬ 0 ≤ asIntN 4 (natAt 4 bytes (n + 32)) := by omega
  rw [readSample, bind_nat_drop, bind_nat_drop, bind_nat_drop, bind_nat_drop, bind_nat_drop,
    bind_nat_drop, bind_nat_drop, if_neg hsign]
  rfl

/-- **On every buffer it takes the second decoder gives what the general one gives.** -/
theorem decodeGeneral_of_isSingleSample {bytes : List UInt8} (h : isSingleSample bytes = true) :
    decodeGeneral bytes = .ok (decodeSingleSample bytes) := by
  simp only [isSingleSample, Bool.and_eq_true, beq_iff_eq, decide_eq_true_eq] at h
  obtain ⟨⟨⟨⟨⟨hout, hevents⟩, hreleased⟩, -⟩, hkind⟩, hsign⟩ := h
  have hpadded : padded (bytes.drop 28) = .ok (some appSample, bytes.drop 32) := by
    have hbyte : (byte : ByteReader String _) (bytes.drop 28) =
        .ok (some appSample, bytes.drop 29) := by
      rw [byte, List.head?_drop, hkind, List.drop_drop]
    have hskip : (skip 3 : ByteReader String _) (bytes.drop 29) = .ok ((), bytes.drop 32) := by
      rw [skip, List.drop_drop]
    rw [padded, bind_of_ok hbyte, bind_of_ok hskip]
    rfl
  have hevent : readEvent (bytes.drop 28) = readSample (bytes.drop 32) := by
    rw [readEvent, bind_of_ok hpadded]
    rfl
  rw [readSample_drop hsign] at hevent
  have hone : repeated readEvent 1 (bytes.drop 28) = .ok (_, bytes.drop 68) := bind_of_ok hevent
  have hnone : repeated readOutbound 0 (bytes.drop 28) = .ok ([], bytes.drop 28) := rfl
  rw [decodeGeneral, hout, hevents, hreleased, readRecords, bind_of_ok hnone, bind_of_ok hone]
  rfl

/-- Every record has its kind and at least one more word. -/
theorem length_encodeAppEvent (event : AppEvent) :
    8 ≤ (encodeAppEvent payloadView event).length := by
  cases event
  all_goals
    simp [encodeAppEvent, encodeLeasedOpidEvent, writePadded, writeU16, writeU32, writeU64,
      writeText16, writeText32]
  omega

theorem le_length_flatMap {α : Type} {f : α → List UInt8} {k : ℕ} (items : List α)
    (h : ∀ a, k ≤ (f a).length) : k * items.length ≤ (items.flatMap f).length := by
  induction items with
  | nil => simp
  | cons a items ih =>
    have ha := h a
    rw [List.flatMap_cons, List.length_append, List.length_cons, Nat.mul_succ]
    omega

/-- A record that names its kind as a sample is one. -/
theorem exists_sample_of_kind {event : AppEvent}
    (h : (encodeAppEvent payloadView event)[0]? = some appSample) :
    ∃ channelId leaseId sequence sourceTimeNs stringData,
      event = .sample channelId leaseId sequence sourceTimeNs stringData := by
  cases event
  case sample channelId leaseId sequence sourceTimeNs stringData =>
    exact ⟨channelId, leaseId, sequence, sourceTimeNs, stringData, rfl⟩
  all_goals
    rw [encodeAppEvent] at h
    try rw [encodeLeasedOpidEvent] at h
    exact absurd h (by simp [writePadded]; decide)

/-- A sample's record is forty bytes, with its text behind them. -/
theorem encodeAppEvent_sample (channelId leaseId : UInt32) (sequence : UInt64)
    (sourceTimeNs : Int64) (stringData : Option String) :
    ∃ fields : List UInt8, fields.length = 36 ∧
      encodeAppEvent payloadView (.sample channelId leaseId sequence sourceTimeNs stringData) =
        fields ++ writeStringData stringData := by
  refine ⟨_, ?_, rfl⟩
  simp [writePadded, writeU32, writeU64]

/-- **The second decoder gets one sample without text, and nothing else.** -/
theorem isSingleSample_encode_iff (outcome : PollOutcome) :
    isSingleSample (encodePollResult payloadView outcome) = true ↔
      ∃ channelId leaseId sequence sourceTimeNs, outcome.outbound = [] ∧
        outcome.events = [.sample channelId leaseId sequence sourceTimeNs none] ∧
        outcome.releasedBuffers = [] := by
  obtain ⟨header, hheader, heq⟩ := exists_header payloadView outcome
  have hoc := natAt_outboundCount payloadView outcome
  have hec := natAt_eventCount payloadView outcome
  have hrc := natAt_releasedCount payloadView outcome
  simp only [isSingleSample, Bool.and_eq_true, beq_iff_eq, decide_eq_true_eq]
  constructor
  · rintro ⟨⟨⟨⟨⟨hout, hevents⟩, hreleased⟩, hlen⟩, hkind⟩, hsign⟩
    rw [hoc] at hout
    rw [hec] at hevents
    rw [hrc] at hreleased
    have hlen' : (encodeRecords payloadView outcome).length = 40 := by
      rw [heq, List.length_append, hheader] at hlen
      omega
    have hsum := hlen'
    rw [encodeRecords, List.length_append, List.length_append] at hsum
    have hle₁ := le_length_flatMap (k := 12) (f := encodeOutbound) outcome.outbound fun msg => by
      simp [encodeOutbound, writeU32]
      omega
    have hle₂ := le_length_flatMap (k := 8) outcome.events (length_encodeAppEvent payloadView)
    have hle₃ := le_length_flatMap (k := 8) (f := encodeReleased) outcome.releasedBuffers
      fun released => by simp [encodeReleased, writeU32]
    have hnone : outcome.outbound = [] := List.length_eq_zero_iff.mp (by omega)
    have hnone' : outcome.releasedBuffers = [] := List.length_eq_zero_iff.mp (by omega)
    have hlength : outcome.events.length = 1 := by omega
    obtain ⟨event, hone⟩ := List.length_eq_one_iff.mp hlength
    have hrecords : encodeRecords payloadView outcome = encodeAppEvent payloadView event := by
      simp [encodeRecords, hnone, hnone', hone]
    rw [hrecords] at heq hlen'
    rw [heq, List.getElem?_append_right (by omega), hheader] at hkind
    obtain ⟨channelId, leaseId, sequence, sourceTimeNs, stringData, rfl⟩ :=
      exists_sample_of_kind payloadView hkind
    obtain ⟨fields, hfields, hsample⟩ :=
      encodeAppEvent_sample payloadView channelId leaseId sequence sourceTimeNs stringData
    refine ⟨channelId, leaseId, sequence, sourceTimeNs, hnone, ?_, hnone'⟩
    cases stringData with
    | none => exact hone
    | some s =>
      rw [hsample, List.length_append, writeStringData, writeText32, List.length_append, writeU32,
        length_toBytes] at hlen'
      have hzero : (BigEndian.utf8 s).length = 0 := by omega
      rw [heq, hsample, writeStringData, writeText32, hzero, ← List.append_assoc,
        natAt_u32 64 (by rw [List.length_append]; omega)] at hsign
      exact absurd hsign (by decide)
  · rintro ⟨channelId, leaseId, sequence, sourceTimeNs, hout, hevents, hreleased⟩
    obtain ⟨fields, hfields, hsample⟩ :=
      encodeAppEvent_sample payloadView channelId leaseId sequence sourceTimeNs none
    have hrecords : encodeRecords payloadView outcome = fields ++ writeU32 0xffffffff := by
      have hone : encodeRecords payloadView outcome = encodeAppEvent payloadView
          (.sample channelId leaseId sequence sourceTimeNs none) := by
        simp [encodeRecords, hout, hevents, hreleased]
      rw [hone, hsample]
      rfl
    rw [hoc, hec, hrc, hout, hevents, hreleased]
    have hlen : (header ++ fields).length = 64 := by rw [List.length_append]; omega
    have hbytes : encodePollResult payloadView outcome =
        (header ++ fields) ++ (writeU32 0xffffffff ++ []) := by
      rw [heq, hrecords, List.append_assoc, List.append_nil]
    refine ⟨⟨⟨⟨⟨rfl, rfl⟩, rfl⟩, ?_⟩, ?_⟩, ?_⟩
    · rw [hbytes, List.length_append, hlen]
      rfl
    · have hkind : (encodeAppEvent payloadView
          (.sample channelId leaseId sequence sourceTimeNs none))[0]? = some appSample := rfl
      rw [hsample, List.getElem?_append_left (by omega)] at hkind
      rw [hbytes, List.getElem?_append_left (by omega), List.getElem?_append_right (by omega),
        hheader]
      exact hkind
    · rw [hbytes, natAt_u32 64 hlen]
      decide

/-! ## The whole result -/

/-- What is encoded passes the checks of the header, and either decoder does. -/
theorem decodePollResult_encode (outcome : PollOutcome) :
    decodePollResult (encodePollResult payloadView outcome) =
      decodeGeneral (encodePollResult payloadView outcome) := by
  obtain ⟨header, hheader, heq⟩ := exists_header payloadView outcome
  have hlen : ¬ (encodePollResult payloadView outcome).length < 28 := by
    rw [heq, List.length_append]
    omega
  rw [decodePollResult, if_neg hlen, if_neg (not_not_intro (natAt_magic payloadView outcome)),
    if_neg (not_not_intro (natAt_version payloadView outcome))]
  split_ifs with hsingle
  · rw [decodeGeneral_of_isSingleSample hsingle]
  · rfl

/-- An event is shown as it is when none of its texts begins with a byte order mark. -/
theorem shownEvent_withoutMark_eq_iff (event : AppEvent) :
    shownEvent withoutMark payloadView event = shownEvent id payloadView event ↔
      ∀ s ∈ textsOf event, withoutMark s = s := by
  cases event
  case sample channelId leaseId sequence sourceTimeNs stringData =>
    cases stringData <;> simp [shownEvent, textsOf]
  all_goals simp [shownEvent, textsOf]

/-- **Poll results cross the boundary unchanged exactly when no text begins with a byte order
mark**, counts and message lengths being representable; the second decoder gives what the first
would, and is used for a sample without text alone. -/
theorem poll_results_cross (outcome : PollOutcome) (hwf : WellFormed outcome) :
    (decodePollResult (encodePollResult payloadView outcome) =
        .ok (shown id payloadView outcome) ↔
      Fits outcome ∧ ∀ event ∈ outcome.events, ∀ s ∈ textsOf event,
        s.toList.head? ≠ some byteOrderMark) ∧
    (isSingleSample (encodePollResult payloadView outcome) = true ↔
      ∃ channelId leaseId sequence sourceTimeNs, outcome.outbound = [] ∧
        outcome.events = [.sample channelId leaseId sequence sourceTimeNs none] ∧
        outcome.releasedBuffers = []) ∧
    ∀ bytes, isSingleSample bytes = true →
      decodeGeneral bytes = .ok (decodeSingleSample bytes) := by
  refine ⟨?_, isSingleSample_encode_iff payloadView outcome,
    fun bytes h => decodeGeneral_of_isSingleSample h⟩
  have hmarks : shown withoutMark payloadView outcome = shown id payloadView outcome ↔
      ∀ event ∈ outcome.events, ∀ s ∈ textsOf event, s.toList.head? ≠ some byteOrderMark := by
    rw [shown, shown, DecodedPoll.mk.injEq]
    simp only [true_and, and_true, List.map_inj_left, shownEvent_withoutMark_eq_iff,
      withoutMark_eq_self_iff]
  rw [decodePollResult_encode]
  constructor
  · intro h
    have hfits := fits_of_decodeGeneral payloadView h
    rw [decodeGeneral_encode payloadView hwf hfits, Except.ok.injEq] at h
    exact ⟨hfits, hmarks.mp h⟩
  · rintro ⟨hfits, hunmarked⟩
    rw [decodeGeneral_encode payloadView hwf hfits, hmarks.mpr hunmarked]

end

/-- A heartbeat and a subscription, a message to send, a released buffer and a deadline. -/
theorem poll_results_cross_of_subscribed :
    decodePollResult (encodePollResult (fun _ => (0, 0))
        { outbound := [⟨3, [1, 2]⟩], events := [.heartbeat 7, .subscribed 1 "/chatter" "std_msgs"],
          releasedBuffers := [⟨3, 2⟩], nextDeadlineMs := some 5000 }) =
      .ok (shown id (fun _ => (0, 0))
        { outbound := [⟨3, [1, 2]⟩], events := [.heartbeat 7, .subscribed 1 "/chatter" "std_msgs"],
          releasedBuffers := [⟨3, 2⟩], nextDeadlineMs := some 5000 }) := by
  refine (poll_results_cross (fun _ => (0, 0)) _ ⟨?_, ?_, ?_⟩).1.mpr ⟨⟨?_, ?_, ?_, ?_⟩, ?_⟩
  · decide
  · simp [operationOf]
  · simp
  · decide
  · decide
  · decide
  · decide
  · decide

/-- A topic that begins with a byte order mark arrives without it. -/
theorem not_poll_results_cross :
    decodePollResult (encodePollResult (fun _ => (0, 0))
        { events := [.subscribed 1 "\ufeffa" "t"] }) ≠
      .ok (shown id (fun _ => (0, 0)) { events := [.subscribed 1 "\ufeffa" "t"] }) := by
  rw [decodePollResult_encode, decodeGeneral_encode]
  · decide
  · exact ⟨by decide, by simp [operationOf], by simp⟩
  · exact ⟨by decide, by decide, by decide, by decide⟩

end Host
end Rclweb
