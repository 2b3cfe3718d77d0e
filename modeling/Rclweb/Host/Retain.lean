import Rclweb.Engine.Application

/-!
# Host-retained payloads

The browser host looks at the header of an inbound message before the engine does.  Of an
application frame it hands over the header and the extensions only, and keeps the body: the
engine is told the length of the payload and leases it without having it.

`poll_take` says that the engine cannot be told apart by which of the two it was given.  The
converse is where the design leaks: a message that *ends* behind its extensions looks the same,
and `refused_iff` says when it is refused.
-/

namespace Rclweb

open Rclweb.Frame Control Engine Engine.Turn ClientEngine

namespace Host

def r2wpHeaderLen : ℕ := 32

/-- A big-endian `u32` of a message. -/
def readU32BE (bytes : List UInt8) (offset : ℕ) : ℕ := readBe bytes offset 4

/-- **The bytes of an application frame to copy into the engine**; `none` when the message must be
copied in full. -/
def hostRetainPrefixLen (bytes : List UInt8) : Option ℕ :=
  if bytes.length < r2wpHeaderLen then none
  else if bytes.getD 0 0 ≠ 0 then none
  else
    let opcode := bytes.getD 1 0
    if opcode < 2 ∨ 12 < opcode then none
    else
      let payloadLen := readU32BE bytes 24
      let extLen := readBe bytes 28 2
      let front := r2wpHeaderLen + extLen
      if payloadLen = 0 then none
      else if front + payloadLen ≠ bytes.length then none
      else some front

/-! ## The header of what is handed over -/

theorem readBe_take {bytes : List UInt8} {n offset width : ℕ} (h : offset + width ≤ n) :
    readBe (bytes.take n) offset width = readBe bytes offset width := by
  rw [readBe, readBe, List.drop_take, List.take_take, Nat.min_eq_left (by omega)]

theorem readHeader_take {bytes : List UInt8} {n : ℕ} (h : r2wpHeaderLen ≤ n) :
    readHeader (bytes.take n) = readHeader bytes := by
  have h' : 32 ≤ n := h
  unfold readHeader
  simp only [readBe_take (show 0 + 1 ≤ n by omega), readBe_take (show 1 + 1 ≤ n by omega),
    readBe_take (show 2 + 2 ≤ n by omega), readBe_take (show 4 + 4 ≤ n by omega),
    readBe_take (show 8 + 8 ≤ n by omega), readBe_take (show 16 + 8 ≤ n by omega),
    readBe_take (show 24 + 4 ≤ n by omega), readBe_take (show 28 + 2 ≤ n by omega),
    readBe_take (show 30 + 1 ≤ n by omega), readBe_take (show 31 + 1 ≤ n by omega)]

/-- **What the host looks at** before it keeps a body. -/
theorem hostRetainPrefixLen_eq_some_iff {bytes : List UInt8} {n : ℕ} :
    hostRetainPrefixLen bytes = some n ↔
      (readHeader bytes).version = 0 ∧ opcodeAllowsHostRetain (readHeader bytes).opcode = true ∧
        0 < (readHeader bytes).payloadLen.toNat ∧ n = payloadStart (readHeader bytes) ∧
        bytes.length = n + (readHeader bytes).payloadLen.toNat := by
  have hversion : (readHeader bytes).version = bytes.getD 0 0 := readBe_one bytes 0
  have hopcode : (readHeader bytes).opcode = bytes.getD 1 0 := readBe_one bytes 1
  have hallows : opcodeAllowsHostRetain (bytes.getD 1 0) = true ↔
      ¬ (bytes.getD 1 0 < 2 ∨ 12 < bytes.getD 1 0) := by
    rw [opcodeAllowsHostRetain, Bool.and_eq_true, decide_eq_true_eq, decide_eq_true_eq, not_or,
      UInt8.not_lt, UInt8.not_lt]
    rfl
  rw [hversion, hopcode, hallows, payloadStart, toNat_readHeader_extensionLen,
    toNat_readHeader_payloadLen, show readBe bytes 24 4 = readU32BE bytes 24 from rfl,
    show frameHeaderLength = r2wpHeaderLen from rfl]
  unfold hostRetainPrefixLen
  dsimp only
  by_cases hshort : bytes.length < r2wpHeaderLen
  · rw [if_pos hshort]
    refine iff_of_false (by simp) ?_
    rintro ⟨-, -, -, hn, hlen⟩
    omega
  rw [if_neg hshort]
  by_cases hv : bytes.getD 0 0 = 0
  swap
  · rw [if_pos hv]
    exact iff_of_false (by simp) fun h => hv h.1
  rw [if_neg (not_not.mpr hv)]
  by_cases ho : bytes.getD 1 0 < 2 ∨ 12 < bytes.getD 1 0
  · rw [if_pos ho]
    exact iff_of_false (by simp) fun h => h.2.1 ho
  rw [if_neg ho]
  by_cases hzero : readU32BE bytes 24 = 0
  · rw [if_pos hzero]
    exact iff_of_false (by simp) fun h => h.2.2.1.ne' hzero
  rw [if_neg hzero]
  by_cases htotal : r2wpHeaderLen + readBe bytes 28 2 + readU32BE bytes 24 = bytes.length
  · rw [if_neg (not_not.mpr htotal), Option.some.injEq]
    exact ⟨fun hn => ⟨hv, ho, Nat.pos_of_ne_zero hzero, hn.symm, by omega⟩,
      fun h => h.2.2.2.1.symm⟩
  · rw [if_pos htotal]
    refine iff_of_false (by simp) ?_
    rintro ⟨-, -, -, hn, hlen⟩
    refine htotal ?_
    rw [hlen, hn]

theorem ne_control_of_allows {opcode : UInt8} (h : opcodeAllowsHostRetain opcode = true) :
    opcode ≠ opcodeControlCbor := by
  rintro rfl
  exact absurd h (by decide)

/-- The engine takes either as a frame of the declared size. -/
theorem retain_declared_of_prefixLen {bytes : List UInt8} {n : ℕ}
    (h : hostRetainPrefixLen bytes = some n) :
    retainDeclaredLen (bytes.take n) = bytes.length ∧ retainDeclaredLen bytes = bytes.length := by
  obtain ⟨-, -, hpos, hn, hlen⟩ := hostRetainPrefixLen_eq_some_iff.mp h
  rw [payloadStart, toNat_readHeader_extensionLen] at hn
  rw [toNat_readHeader_payloadLen] at hpos hlen
  have hlength : (bytes.take n).length = n := List.length_take_of_le (by omega)
  have hheader : frameHeaderLength = 32 := rfl
  unfold retainDeclaredLen
  simp only [hlength, readBe_take (show 28 + 2 ≤ n by omega),
    readBe_take (show 24 + 4 ≤ n by omega)]
  constructor <;> split_ifs <;> omega

/-- A parsed frame has the header of its bytes. -/
theorem exists_of_parse {bytes : List UInt8} {declaredTotal : ℕ} {opts : FrameOptions}
    {frame : DecodedFrame} (h : parseFrameDeclared bytes declaredTotal opts = .ok frame) :
    ∃ extensions payload,
      frame = { readHeader bytes with extensions := extensions, payload := payload } := by
  unfold parseFrameDeclared at h
  split_ifs at h
  simp only [bind_eq_ok] at h
  obtain ⟨_, -, _, -, _, -, _, -, _, -, _, -, extensions, -, _, -, payload, -, hframe⟩ := h
  exact ⟨extensions, payload, (Except.ok.inj hframe).symm⟩

/-- **Header and extensions parse as the whole message does**, but for the payload. -/
theorem parse_take {bytes : List UInt8} {n : ℕ} (opts : FrameOptions)
    (h : hostRetainPrefixLen bytes = some n) :
    parseFrameDeclared (bytes.take n) bytes.length opts =
      (parseFrameDeclared bytes bytes.length opts).map
        fun frame => { frame with payload := .application [] } := by
  obtain ⟨-, hallows, hpos, hn, hlen⟩ := hostRetainPrefixLen_eq_some_iff.mp h
  have hstart : payloadStart (readHeader bytes) =
      frameHeaderLength + (readHeader bytes).extensionLen.toNat := rfl
  have hlong : frameHeaderLength ≤ n := by omega
  have hlength : (bytes.take n).length = n := List.length_take_of_le (by omega)
  have hheader : readHeader (bytes.take n) = readHeader bytes := readHeader_take hlong
  have hkept : hostRetainPrefix (readHeader bytes) n = true := by
    simp [hostRetainPrefix, hn, hpos, hallows]
  have hwhole : hostRetainPrefix (readHeader bytes) bytes.length = false := by
    rw [hostRetainPrefix, ← hn, beq_false_of_ne (by omega), Bool.false_and, Bool.false_and]
  have htotal : checkTotal (readHeader bytes) n bytes.length = .ok () := by
    unfold checkTotal
    dsimp only
    rw [if_neg (by omega), if_neg (by simp [hkept])]
  have htotal' : checkTotal (readHeader bytes) bytes.length bytes.length = .ok () := by
    unfold checkTotal
    dsimp only
    rw [if_neg (by omega), if_neg (by omega)]
  have hextensions : parseExtensions (readHeader bytes) (bytes.take n) =
      parseExtensions (readHeader bytes) bytes := by
    unfold parseExtensions
    rw [List.drop_take, List.take_take,
      Nat.min_eq_left (show _ ≤ n - frameHeaderLength by omega)]
  have hcontrol := ne_control_of_allows hallows
  have hpayload : parsePayload (readHeader bytes) (bytes.take n) = .ok (.application []) := by
    unfold parsePayload
    dsimp only
    rw [if_neg hcontrol, hlength, hkept, if_pos rfl]
  have hpayload' : parsePayload (readHeader bytes) bytes = .ok (.application
      ((bytes.drop (payloadStart (readHeader bytes))).take
        (readHeader bytes).payloadLen.toNat)) := by
    unfold parsePayload
    dsimp only
    rw [if_neg hcontrol, hwhole, if_neg Bool.false_ne_true]
  unfold parseFrameDeclared
  rw [if_neg (by omega), if_neg (by omega), hheader, hlength]
  dsimp only
  rw [htotal, htotal', hextensions, hpayload, hpayload']
  cases checkLengths (readHeader bytes) opts with
  | error err => rfl
  | ok _ =>
  cases checkOpcode (readHeader bytes) opts with
  | error err => rfl
  | ok _ =>
  cases checkFlags (readHeader bytes) with
  | error err => rfl
  | ok _ =>
  cases checkChannelClass (readHeader bytes) with
  | error err => rfl
  | ok _ =>
  cases checkClock (readHeader bytes) opts with
  | error err => rfl
  | ok _ =>
  cases parseExtensions (readHeader bytes) bytes with
  | error err => rfl
  | ok extensions =>
  show (checkTrace (readHeader bytes) extensions >>= _) =
    Except.map _ (checkTrace (readHeader bytes) extensions >>= _)
  cases checkTrace (readHeader bytes) extensions with
  | error err => rfl
  | ok _ => rfl

/-! ## What the engine makes of it -/

/-- What is done with retained bytes. -/
def handled (lib : Library) (e : ClientEngine) (bufferId : UInt32) (bytes : List UInt8) : Turn :=
  let r := Turn.retain ⟨e, {}⟩ bufferId bytes
  if e.session.phase.inSelectedPlane then handleFrame lib true r.2 r.1 bytes
  else r.2.handleBootstrap bytes

/-- Bytes that do not begin with the magic are no bootstrap record. -/
theorem handleBootstrap_of_not_magic (t : Turn) {bytes : List UInt8}
    (hlong : r2wpHeaderLen ≤ bytes.length) (hfirst : bytes.getD 0 0 = 0) :
    t.handleBootstrap bytes = t.fail 1 "bad_magic" := by
  have hmagic : bytes.take 4 ≠ Bootstrap.magic := by
    intro h
    have hzero := congrArg (fun l : List UInt8 => l.getD 0 0) h
    rw [List.getD_eq_getElem?_getD, List.getElem?_take_of_lt (by omega),
      ← List.getD_eq_getElem?_getD, hfirst] at hzero
    exact absurd hzero (by decide)
  have hparse : Bootstrap.parseBootstrap bytes = .error (.malformedBootstrap "bad_magic" 0 2) := by
    have hlong' : 32 ≤ bytes.length := hlong
    unfold Bootstrap.parseBootstrap
    rw [if_neg, if_pos hmagic]
    show ¬ bytes.length < 12
    omega
  unfold handleBootstrap
  rw [hparse]
  rfl

variable {e : ClientEngine} {bytes : List UInt8} {n : ℕ}

/-- **One verdict** on what is handed over and on the whole message. -/
theorem handled_take (lib : Library) (bufferId : UInt32)
    (h : hostRetainPrefixLen bytes = some n) :
    ∃ v frame,
      handled lib e bufferId (bytes.take n) =
        (Turn.retain ⟨e, {}⟩ bufferId (bytes.take n)).2.settle v
          (Turn.retain ⟨e, {}⟩ bufferId (bytes.take n)).1 frame ∧
      handled lib e bufferId bytes =
        (Turn.retain ⟨e, {}⟩ bufferId bytes).2.settle v
          (Turn.retain ⟨e, {}⟩ bufferId bytes).1 frame ∧
      ∀ event, v = .leased event → e.session.phase.inSelectedPlane = true ∧
        parseFrameDeclared bytes bytes.length defaultOptions = .ok frame ∧
        frame.opcode ≠ opcodeControlCbor ∧ verdict e.session frame bytes.length = .leased event := by
  obtain ⟨hversion, hallows, hpos, hn, hlen⟩ := hostRetainPrefixLen_eq_some_iff.mp h
  obtain ⟨htake, hwhole⟩ := retain_declared_of_prefixLen h
  have hlong : r2wpHeaderLen ≤ n := by
    rw [hn]
    exact Nat.le_add_right ..
  by_cases hplane : e.session.phase.inSelectedPlane = true
  · have hparse := parse_take defaultOptions h
    cases hframe : parseFrameDeclared bytes bytes.length defaultOptions with
    | error err =>
      rw [hframe] at hparse
      refine ⟨.fails (UInt8.ofNat err.code) err.reason, readHeader bytes, ?_, ?_, by rintro _ ⟨⟩⟩
      · unfold handled
        dsimp only
        rw [if_pos hplane, handleFrame, htake]
        dsimp only
        rw [hparse]
        rfl
      · unfold handled
        dsimp only
        rw [if_pos hplane, handleFrame, hwhole]
        dsimp only
        rw [hframe]
        rfl
    | ok frame =>
      rw [hframe] at hparse
      have hcontrol : frame.opcode ≠ opcodeControlCbor := by
        obtain ⟨_, _, rfl⟩ := exists_of_parse hframe
        exact ne_control_of_allows hallows
      refine ⟨verdict e.session frame bytes.length, frame, ?_, ?_,
        fun event hevent => ⟨hplane, rfl, hcontrol, hevent⟩⟩
      · have hsame := verdict_payload e.session (.application []) bytes.length hcontrol
        rw [← hsame, ← htake]
        exact handles_application lib bufferId hplane (by rw [htake, hparse]; rfl) hcontrol
      · rw [← hwhole]
        exact handles_application lib bufferId hplane (by rw [hwhole, hframe]) hcontrol
  · have hfirst : bytes.getD 0 0 = 0 := (readBe_one bytes 0).symm.trans hversion
    refine ⟨.fails 1 "bad_magic", readHeader bytes, ?_, ?_, by rintro _ ⟨⟩⟩
    · unfold handled
      dsimp only
      rw [if_neg hplane]
      refine handleBootstrap_of_not_magic _ ?_ ?_
      · rw [List.length_take_of_le (by omega)]
        exact hlong
      · have hlong' : 32 ≤ n := hlong
        rw [← readBe_one, readBe_take (by omega), readBe_one]
        exact hfirst
    · unfold handled
      dsimp only
      rw [if_neg hplane]
      exact handleBootstrap_of_not_magic _ (by omega) hfirst

/-- The payload the engine leases: its length, or all of it. -/
theorem abi_of_take (lib : Library) (bufferId : UInt32) {frame : DecodedFrame}
    {event : UInt32 → AppEvent} (h : hostRetainPrefixLen bytes = some n) (hopen : e.closed = false)
    (hplane : e.session.phase.inSelectedPlane = true)
    (hparse : parseFrameDeclared bytes bytes.length defaultOptions = .ok frame)
    (hcontrol : frame.opcode ≠ opcodeControlCbor)
    (hverdict : verdict e.session frame bytes.length = .leased event) :
    (e.poll lib true [.wsBytes bufferId (bytes.take n)]).1.leasePayloadAbi e.nextLeaseId =
        .host (UInt32.ofNat (bytes.length - n)) ∧
      (e.poll lib true [.wsBytes bufferId bytes]).1.leasePayloadAbi e.nextLeaseId =
        .view (bytes.drop n) := by
  obtain ⟨-, -, hpos, hn, hlen⟩ := hostRetainPrefixLen_eq_some_iff.mp h
  obtain ⟨htake, hwhole⟩ := retain_declared_of_prefixLen h
  have hshort : parseFrameDeclared (bytes.take n) (retainDeclaredLen (bytes.take n))
      defaultOptions = .ok { frame with payload := .application [] } := by
    rw [htake, parse_take defaultOptions h, hparse]
    rfl
  have hverdict' : verdict e.session { frame with payload := .application [] }
      (retainDeclaredLen (bytes.take n)) = .leased event := by
    rw [htake, verdict_payload _ _ _ hcontrol]
    exact hverdict
  obtain ⟨extensions, payload, hframe⟩ := exists_of_parse hparse
  have hstart : payloadStart frame = n := by
    rw [hn, hframe]
    rfl
  have hpayloadLen : frame.payloadLen = (readHeader bytes).payloadLen := by rw [hframe]
  have hlength : bytes.length - n = frame.payloadLen.toNat := by
    rw [hpayloadLen]
    omega
  rw [← hwhole] at hparse hverdict
  obtain ⟨p, hp, hp'⟩ := denotes_of_poll lib bufferId hopen hplane hshort hcontrol hverdict'
  obtain ⟨q, hq, hq'⟩ := denotes_of_poll lib bufferId hopen hplane hparse hcontrol hverdict
  constructor
  · obtain rfl : [] = p := FramePayload.application.inj hp
    rcases hp' with ⟨hempty, -⟩ | ⟨-, -, -, habi⟩
    · rw [List.length_nil, hpayloadLen] at hempty
      omega
    · rw [habi, hlength, UInt32.ofNat_toNat]
  · rcases payload_of_parseDeclared hparse hcontrol with ⟨-, hbody⟩ | ⟨hexact, -⟩
    · obtain rfl := FramePayload.application.inj (hq.symm.trans hbody)
      rw [hstart, ← hlength, ← List.length_drop, List.take_length] at hq'
      rcases hq' with ⟨-, -, habi⟩ | ⟨hempty, -⟩
      · exact habi
      · have := congrArg List.length hempty
        rw [List.length_drop, List.length_nil] at this
        omega
    · omega

/-- **Host-retained payloads are invisible to the engine.**  Polled with header and extensions,
it ends as when polled with the whole message, but for the bytes it holds; a payload it leases
has the length of the body. -/
theorem poll_take (lib : Library) (bufferId : UInt32) (h : hostRetainPrefixLen bytes = some n) :
    let short := e.poll lib true [.wsBytes bufferId (bytes.take n)]
    let whole := e.poll lib true [.wsBytes bufferId bytes]
    short.1 = { whole.1 with retained := short.1.retained } ∧
      short.2.events = whole.2.events ∧ short.2.outbound = whole.2.outbound ∧
      short.2.nextDeadlineMs = whole.2.nextDeadlineMs ∧
      ∀ event ∈ short.2.events, ∀ leaseId, event.lease? = some leaseId →
        short.1.leasePayloadAbi leaseId = .host (UInt32.ofNat (bytes.length - n)) ∧
        whole.1.leasePayloadAbi leaseId = .view (bytes.drop n) := by
  intro short whole
  by_cases hclosed : e.closed = true
  · have hpoll (bytes : List UInt8) : e.poll lib true [.wsBytes bufferId bytes] =
        (e, { events := [.closed e.session.phase] }) := if_pos hclosed
    rw [show short = _ from hpoll _, show whole = _ from hpoll _]
    refine ⟨rfl, rfl, rfl, rfl, fun event hevent leaseId hlease => ?_⟩
    rw [List.mem_singleton.mp hevent] at hlease
    cases hlease
  have hopen : e.closed = false := Bool.eq_false_iff.mpr hclosed
  obtain ⟨v, frame, hshort, hwhole, hleased⟩ := @handled_take e bytes n lib bufferId h
  obtain ⟨hid, hretain⟩ := retain_bytes ⟨e, {}⟩ bufferId (bytes.take n) bytes
  obtain ⟨hevents, houtbound, hdeadline, kept, hengine, -⟩ :=
    poll_settled lib true bufferId (bytes.take n) v frame hopen hshort
  obtain ⟨hevents', houtbound', hdeadline', kept', hengine', -⟩ :=
    poll_settled lib true bufferId bytes v frame hopen hwhole
  have hsame : short.2.events = whole.2.events := hevents.trans hevents'.symm
  refine ⟨?_, hsame, houtbound.trans houtbound'.symm, hdeadline.trans hdeadline'.symm, ?_⟩
  · rw [show short.1 = _ from hengine, show whole.1 = _ from hengine', hid, hretain]
    cases v <;> rfl
  · intro event hevent leaseId hlease
    rw [show short.2.events = _ from hevents] at hevent
    cases v with
    | fails code message =>
      rcases List.mem_cons.mp hevent with rfl | hevent
      · cases hlease
      · rw [List.mem_singleton.mp hevent] at hlease
        cases hlease
    | ignored => cases hevent
    | leased event' =>
      obtain ⟨hplane, hparse, hcontrol, hverdict⟩ := hleased event' rfl
      rw [List.mem_singleton.mp hevent, lease?_of_verdict hverdict] at hlease
      obtain rfl := Option.some.inj hlease
      exact abi_of_take lib bufferId h hopen hplane hparse hcontrol hverdict

end Host
end Rclweb
