import Rclweb.Host.Leases
import Rclweb.Host.Truncated

/-!
# The sample fast path

A complete `ROS_SAMPLE` without extensions is delivered by the host on five header fields; the
engine, were it asked, would parse the frame and consult the session.  The engine is not on this
data plane, so nothing of its verdict reaches the fast path: `fast_path` says what the two have
in common and when they agree.
-/

namespace Rclweb

open Rclweb.Frame Control Engine Engine.Turn ClientEngine

namespace Host

open HostState

/-- The fast path delivers a sample of channel `c` with payload `p`. -/
def FastDelivers (s : HostState) (handle : UInt32) (bytes : List UInt8) (c : ℕ)
    (p : List UInt8) : Prop :=
  ∃ event s', s.tryPinHostSample handle bytes = some (event, s') ∧ event.channelId = c ∧
    event.hostPayload = some p

/-- The engine would deliver a sample of channel `c` with payload `p`. -/
def EngineDelivers (lib : Library) (e : ClientEngine) (bytes : List UInt8) (c : ℕ)
    (p : List UInt8) : Prop :=
  ∃ channelId leaseId sequence sourceTimeNs text,
    .sample channelId leaseId sequence sourceTimeNs text ∈
      (e.poll lib true [.wsBytes 0 bytes]).2.events ∧
    channelId.toNat = c ∧
    (e.poll lib true [.wsBytes 0 bytes]).1.leasePayloadView leaseId = some p

/-- **Whether the engine takes a complete sample**: limits, flags, channel class, priority, clock
and trace flag of the header, and the session. -/
def takesSample (e : ClientEngine) (bytes : List UInt8) : Bool :=
  let h := readHeader bytes
  !e.closed && e.session.phase.inSelectedPlane && (checkLengths h defaultOptions).isOk &&
    (checkFlags h).isOk && (checkChannelClass h).isOk && (checkClock h defaultOptions).isOk &&
    (checkTrace h []).isOk && (e.session.ingestFrame h).1.isOk

variable {e : ClientEngine} {bytes : List UInt8}

theorem readBe_two {offset : ℕ} (h : offset + 2 ≤ bytes.length) :
    readBe bytes offset 2 =
      (bytes.getD offset 0).toNat * 256 + (bytes.getD (offset + 1) 0).toNat := by
  have hfirst : offset < bytes.length := by omega
  have hsecond : offset + 1 < bytes.length := by omega
  have hdrop : bytes.drop offset =
      bytes[offset] :: bytes[offset + 1] :: bytes.drop (offset + 1 + 1) := by
    rw [List.drop_eq_getElem_cons hfirst, List.drop_eq_getElem_cons hsecond]
  rw [readBe, hdrop, List.getD_eq_getElem?_getD, List.getD_eq_getElem?_getD,
    List.getElem?_eq_getElem hfirst, List.getElem?_eq_getElem hsecond]
  simp only [List.take_succ_cons, List.take_zero, BigEndian.ofBytes, List.foldl_cons,
    List.foldl_nil, Option.getD_some, Nat.zero_mul, Nat.zero_add]

/-- What the fast path looks at. -/
theorem header_of_complete (h : isCompleteNoExtRosSample bytes = true) :
    (readHeader bytes).opcode = Frame.opcodeRosSample ∧ (readHeader bytes).extensionLen = 0 ∧
      hostRetainPrefixLen bytes = some r2wpHeaderLen := by
  unfold isCompleteNoExtRosSample at h
  split_ifs at h with hshort hopcode hext
  rw [not_or, not_not, not_not] at hopcode hext
  dsimp only at h
  rw [Bool.and_eq_true, bne_iff_ne, beq_iff_eq] at h
  have hlong : 32 ≤ bytes.length := not_lt.mp hshort
  have hsample : (readHeader bytes).opcode = Frame.opcodeRosSample :=
    (readBe_one bytes 1).trans hopcode.2
  have hzero : readBe bytes 28 2 = 0 := by
    rw [readBe_two (by omega), hext.1, hext.2]
    rfl
  have hextension : (readHeader bytes).extensionLen.toNat = 0 := by
    rw [toNat_readHeader_extensionLen, hzero]
  refine ⟨hsample, UInt16.toNat_inj.mp hextension, hostRetainPrefixLen_eq_some_iff.mpr
    ⟨(readBe_one bytes 0).trans hopcode.1, ?_, ?_, ?_, ?_⟩⟩
  · rw [hsample]
    decide
  · rw [toNat_readHeader_payloadLen]
    exact Nat.pos_of_ne_zero h.1
  · rw [payloadStart, hextension]
    rfl
  · rw [toNat_readHeader_payloadLen]
    exact h.2.symm

/-- The fast path delivers the bytes behind the header to the channel of the header. -/
theorem fastDelivers_iff {s : HostState} {handle : UInt32} {c : ℕ} {p : List UInt8}
    (h : isCompleteNoExtRosSample bytes = true) :
    FastDelivers s handle bytes c p ↔
      c = (readHeader bytes).channelId.toNat ∧ p = bytes.drop r2wpHeaderLen := by
  have hchannel : (readHeader bytes).channelId.toNat = readU32BE bytes 4 := by
    rw [readHeader, UInt32.toNat_ofNat', Nat.mod_eq_of_lt]
    · rfl
    · exact (readBe_lt bytes 4 4).trans_eq (by norm_num)
  unfold FastDelivers tryPinHostSample
  rw [h, hchannel]
  constructor
  · rintro ⟨event, s', hpin, rfl, hpayload⟩
    obtain ⟨rfl, -⟩ := Prod.mk.inj (Option.some.inj hpin)
    exact ⟨rfl, (Option.some.inj hpayload).symm⟩
  · rintro ⟨rfl, rfl⟩
    exact ⟨_, _, rfl, rfl, rfl⟩

/-- **How a complete sample is parsed.** -/
theorem parse_of_complete (h : isCompleteNoExtRosSample bytes = true) :
    let header := readHeader bytes
    parseFrameDeclared bytes bytes.length defaultOptions =
      (do
        checkLengths header defaultOptions
        checkFlags header
        checkChannelClass header
        checkClock header defaultOptions
        checkTrace header []
        return { header with
          extensions := [], payload := .application (bytes.drop r2wpHeaderLen) }) := by
  intro header
  obtain ⟨hopcode, hextension, hretain⟩ := header_of_complete h
  obtain ⟨-, hallows, hpos, hstart, hlength⟩ := hostRetainPrefixLen_eq_some_iff.mp hretain
  have hlong : ¬ bytes.length < frameHeaderLength := by
    show ¬ bytes.length < 32
    have : r2wpHeaderLen = 32 := rfl
    omega
  have htotal : checkTotal header bytes.length bytes.length = .ok () := by
    have hexpected : bytes.length = payloadStart header + header.payloadLen.toNat := by
      rw [hlength, hstart]
    unfold checkTotal
    dsimp only
    rw [if_neg (not_not.mpr hexpected), if_neg (fun hc => hc.1 hexpected)]
  have hassigned : checkOpcode header defaultOptions = .ok () := by
    unfold checkOpcode
    rw [show header.opcode = Frame.opcodeRosSample from hopcode]
    rfl
  have hextensions : parseExtensions header bytes = .ok [] := by
    unfold parseExtensions
    rw [show header.extensionLen = 0 from hextension]
    rfl
  have hpayload : parsePayload header bytes =
      .ok (.application (bytes.drop r2wpHeaderLen)) := by
    have hwhole : hostRetainPrefix header bytes.length = false := by
      rw [hostRetainPrefix, beq_false_of_ne, Bool.false_and, Bool.false_and]
      show bytes.length ≠ payloadStart (readHeader bytes)
      omega
    unfold parsePayload
    dsimp only
    rw [if_neg (ne_control_of_allows hallows), hwhole, if_neg Bool.false_ne_true,
      List.take_of_length_le]
    · rw [show payloadStart header = r2wpHeaderLen from hstart.symm]
    · have hrest : bytes.length - payloadStart header = header.payloadLen.toNat := by
        show bytes.length - payloadStart (readHeader bytes) = (readHeader bytes).payloadLen.toNat
        omega
      rw [List.length_drop, hrest]
  unfold parseFrameDeclared
  rw [if_neg hlong]
  show (checkLengths header defaultOptions >>= _) = (checkLengths header defaultOptions >>= _)
  cases checkLengths header defaultOptions with
  | error err => rfl
  | ok _ =>
  show (checkTotal header bytes.length bytes.length >>= _) = _
  rw [htotal]
  show (checkOpcode header defaultOptions >>= _) = _
  rw [hassigned, hextensions, hpayload]
  rfl

/-! ## The engine's verdict -/

/-- What the engine makes of a complete sample it takes. -/
def soundFrame (bytes : List UInt8) : DecodedFrame :=
  { readHeader bytes with
    extensions := [], payload := .application (bytes.drop r2wpHeaderLen) }

theorem isOk_seq {ε β : Type} (x : Except ε Unit) (y : Except ε β) :
    (x >>= fun _ => y).isOk = (x.isOk && y.isOk) := by
  cases x <;> rfl

/-- The checks of `takesSample` on the header are those of the parser. -/
theorem takesSample_eq (h : isCompleteNoExtRosSample bytes = true) :
    takesSample e bytes = (!e.closed && e.session.phase.inSelectedPlane &&
      (parseFrameDeclared bytes bytes.length defaultOptions).isOk &&
      (e.session.ingestFrame (soundFrame bytes)).1.isOk) := by
  obtain ⟨hopcode, -, -⟩ := header_of_complete h
  have hingest : e.session.ingestFrame (soundFrame bytes) =
      e.session.ingestFrame (readHeader bytes) :=
    ingestFrame_payload e.session (.application (bytes.drop r2wpHeaderLen))
      (by rw [hopcode]; decide)
  have hpure (frame : DecodedFrame) :
      (pure frame : Except ProtocolError DecodedFrame).isOk = true := rfl
  rw [parse_of_complete h, hingest]
  simp only [takesSample, isOk_seq, hpure, Bool.and_assoc, Bool.and_true]

theorem frame_of_complete {frame : DecodedFrame} (h : isCompleteNoExtRosSample bytes = true)
    (hparse : parseFrameDeclared bytes bytes.length defaultOptions = .ok frame) :
    frame = soundFrame bytes := by
  rw [parse_of_complete h] at hparse
  simp only [bind_eq_ok] at hparse
  obtain ⟨_, -, _, -, _, -, _, -, _, -, hframe⟩ := hparse
  exact (Except.ok.inj hframe).symm

/-- No sample is delivered by an engine that closes. -/
theorem not_engineDelivers_of_fails (lib : Library) {c : ℕ} {p : List UInt8} (code : UInt8)
    (message : String) (frame : DecodedFrame) (hopen : e.closed = false)
    (hhandled : handled lib e 0 bytes = (Turn.retain ⟨e, {}⟩ 0 bytes).2.settle
      (.fails code message) (Turn.retain ⟨e, {}⟩ 0 bytes).1 frame) :
    ¬ EngineDelivers lib e bytes c p := by
  rintro ⟨channelId, leaseId, sequence, sourceTimeNs, text, hmem, -⟩
  obtain ⟨hevents, -⟩ := poll_settled lib true 0 bytes _ frame hopen hhandled
  rw [hevents] at hmem
  rcases List.mem_cons.mp hmem with hmem | hmem
  · cases hmem
  · cases List.mem_singleton.mp hmem

/-- **The engine delivers the complete samples it takes**, as the fast path does, and no others. -/
theorem engineDelivers_iff (lib : Library) {c : ℕ} {p : List UInt8}
    (h : isCompleteNoExtRosSample bytes = true) :
    EngineDelivers lib e bytes c p ↔
      takesSample e bytes = true ∧ c = (readHeader bytes).channelId.toNat ∧
        p = bytes.drop r2wpHeaderLen := by
  obtain ⟨hopcode, -, hretain⟩ := header_of_complete h
  obtain ⟨hversion, hallows, hpos, hstart, hlength⟩ := hostRetainPrefixLen_eq_some_iff.mp hretain
  have hdeclared := (retain_declared_of_prefixLen hretain).2
  rw [takesSample_eq h]
  by_cases hclosed : e.closed = true
  · refine iff_of_false ?_ (by simp [hclosed])
    rintro ⟨channelId, leaseId, sequence, sourceTimeNs, text, hmem, -⟩
    have hpoll : e.poll lib true [.wsBytes 0 bytes] =
        (e, { events := [.closed e.session.phase] }) := if_pos hclosed
    rw [hpoll] at hmem
    cases List.mem_singleton.mp hmem
  have hopen : e.closed = false := Bool.eq_false_iff.mpr hclosed
  by_cases hplane : e.session.phase.inSelectedPlane = true
  swap
  · refine iff_of_false ?_ (by simp [hplane])
    refine not_engineDelivers_of_fails lib 1 "bad_magic" (readHeader bytes) hopen ?_
    unfold handled
    dsimp only
    rw [if_neg hplane]
    exact handleBootstrap_of_not_magic _ (by omega) ((readBe_one bytes 0).symm.trans hversion)
  rw [hopen, hplane]
  cases hparse : parseFrameDeclared bytes bytes.length defaultOptions with
  | error err =>
    refine iff_of_false ?_ (by simp [Except.isOk, Except.toBool])
    refine not_engineDelivers_of_fails lib (UInt8.ofNat err.code) err.reason (readHeader bytes)
      hopen ?_
    unfold handled
    dsimp only
    rw [if_pos hplane, handleFrame, hdeclared]
    dsimp only
    rw [hparse]
    rfl
  | ok frame =>
  obtain rfl := frame_of_complete h hparse
  have hcontrol : (soundFrame bytes).opcode ≠ opcodeControlCbor := ne_control_of_allows hallows
  rw [← hdeclared] at hparse
  have hhandled := handles_application lib 0 hplane hparse hcontrol
  have hinside : payloadOutOfBounds (soundFrame bytes) (retainDeclaredLen bytes) = false := by
    rw [hdeclared]
    refine decide_eq_false ?_
    show ¬ bytes.length < payloadStart (readHeader bytes) + (readHeader bytes).payloadLen.toNat
    omega
  have hsample : (soundFrame bytes).opcode = Frame.opcodeRosSample := hopcode
  cases hingest : (e.session.ingestFrame (soundFrame bytes)).1 with
  | error err =>
    have hverdict : verdict e.session (soundFrame bytes) (retainDeclaredLen bytes) =
        .fails (UInt8.ofNat err.code) err.reason := by
      unfold verdict
      rw [hingest]
    rw [hverdict] at hhandled
    exact iff_of_false (not_engineDelivers_of_fails lib _ _ _ hopen hhandled)
      (by simp [Except.isOk, Except.toBool])
  | ok effects =>
    have hverdict : verdict e.session (soundFrame bytes) (retainDeclaredLen bytes) =
        .leased fun id => .sample (readHeader bytes).channelId id
          (readHeader bytes).sequence (readHeader bytes).sourceTimeNs none := by
      unfold verdict sampleVerdict
      rw [hingest]
      dsimp only
      rw [if_pos hsample, hinside]
      rfl
    obtain ⟨hevents, -⟩ := poll_settled lib true 0 bytes _ _ hopen hhandled
    obtain ⟨q, hq, hview⟩ := denotes_of_poll lib 0 hopen hplane hparse hcontrol hverdict
    obtain rfl := FramePayload.application.inj hq
    have hpayload : (e.poll lib true [.wsBytes 0 bytes]).1.leasePayloadView e.nextLeaseId =
        some (bytes.drop r2wpHeaderLen) := by
      rcases hview with ⟨-, hview, -⟩ | ⟨hempty, -⟩
      · exact hview
      · have := congrArg List.length hempty
        rw [List.length_drop, List.length_nil] at this
        omega
    rw [hverdict] at hevents
    simp only [Bool.not_false, Bool.true_and, Except.isOk, Except.toBool]
    constructor
    · rintro ⟨channelId, leaseId, sequence, sourceTimeNs, text, hmem, rfl, hview⟩
      rw [hevents] at hmem
      obtain ⟨rfl, rfl, -⟩ := AppEvent.sample.inj (List.mem_singleton.mp hmem)
      rw [hpayload] at hview
      exact ⟨trivial, rfl, (Option.some.inj hview).symm⟩
    · rintro ⟨-, rfl, rfl⟩
      refine ⟨_, e.nextLeaseId, (readHeader bytes).sequence, (readHeader bytes).sourceTimeNs, none,
        ?_, rfl, hpayload⟩
      rw [hevents]
      exact List.mem_singleton_self _

/-- **The fast path delivers every complete sample**, whatever the session; the engine would
deliver the same or nothing, and they agree exactly on the samples the engine takes. -/
theorem fast_path (lib : Library) (e : ClientEngine) (s : HostState) (handle : UInt32)
    (bytes : List UInt8) (h : isCompleteNoExtRosSample bytes = true) :
    (∀ c p, FastDelivers s handle bytes c p ↔
      c = (readHeader bytes).channelId.toNat ∧ p = bytes.drop r2wpHeaderLen) ∧
    (∀ c p, EngineDelivers lib e bytes c p → FastDelivers s handle bytes c p) ∧
    ((∀ c p, FastDelivers s handle bytes c p ↔ EngineDelivers lib e bytes c p) ↔
      takesSample e bytes = true) := by
  refine ⟨fun c p => fastDelivers_iff h, fun c p hengine => ?_, fun hagree => ?_, fun htakes c p => ?_⟩
  · exact (fastDelivers_iff h).mpr ((engineDelivers_iff lib h).mp hengine).2
  · have hfast := (@fastDelivers_iff bytes s handle _ _ h).mpr ⟨rfl, rfl⟩
    exact ((engineDelivers_iff lib h).mp ((hagree _ _).mp hfast)).1
  · rw [fastDelivers_iff h, engineDelivers_iff lib h]
    exact ⟨fun hcp => ⟨htakes, hcp⟩, And.right⟩

/-- The sample of the subscription is delivered by both. -/
theorem fast_path_of_sample :
    FastDelivers {} 1 sampleBytes 1 [1, 2, 3] ∧
      EngineDelivers Pair.noLibrary (run Pair.noLibrary true {} subscription) sampleBytes 1
        [1, 2, 3] := by
  have hfast : FastDelivers {} 1 sampleBytes 1 [1, 2, 3] := ⟨_, _, rfl, rfl, rfl⟩
  have hagree := (fast_path Pair.noLibrary (run Pair.noLibrary true {} subscription) {} 1
    sampleBytes (by decide +kernel)).2.2.mpr (by decide +kernel)
  exact ⟨hfast, (hagree 1 [1, 2, 3]).mp hfast⟩

/-- Before any handshake the fast path delivers a sample that the engine would not. -/
theorem not_fast_path_of_new :
    ¬ ∀ polls bytes, isCompleteNoExtRosSample bytes = true →
      ∀ c p, FastDelivers {} 1 bytes c p ↔
        EngineDelivers Pair.noLibrary (run Pair.noLibrary true {} polls) bytes c p := by
  intro h
  obtain ⟨channelId, leaseId, sequence, sourceTimeNs, text, hmem, -⟩ :=
    (h [] sampleBytes (by decide +kernel) 1 [1, 2, 3]).mp ⟨_, _, rfl, rfl, rfl⟩
  have hevents : ((run Pair.noLibrary true {} []).poll Pair.noLibrary true
      [.wsBytes 0 sampleBytes]).2.events =
        [.error 1 "bad_magic", .closed .awaitClientHello] := by
    decide +kernel
  rw [hevents] at hmem
  rcases List.mem_cons.mp hmem with hmem | hmem
  · cases hmem
  · cases List.mem_singleton.mp hmem

end Host
end Rclweb
