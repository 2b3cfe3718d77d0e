import Rclweb.Host.PollCodec

/-!
# Poll results cross the boundary

What the host reads of an encoded outcome is the outcome, with texts as a `TextDecoder` reads
them: without a leading byte order mark.
-/

namespace Rclweb

open Engine LittleEndian ByteReader TextDecoder

namespace Host

/-! ## What the host should see -/

section

variable (f : String → String) (payloadView : UInt32 → UInt32 × UInt32)

def shownOperation (event : OperationEvent) : BrowserOperation where
  channelId := event.channelId.toNat
  operationId := event.operationId
  leaseId := event.leaseId.toNat
  sequence := event.sequence.toNat
  payloadPtr := (payloadView event.leaseId).1.toNat
  payloadLen := (payloadView event.leaseId).2.toNat

/-- **An event as the host sees it**, its texts through `f`. -/
def shownEvent : AppEvent → BrowserEvent
  | .bootstrapComplete selectedWireVersion => .bootstrapComplete (some selectedWireVersion)
  | .sessionReady supportRow domainId gatewayInstanceId =>
    .sessionReady (some domainId) (f supportRow) (f gatewayInstanceId)
  | .subscribed channelId topic typeName => .subscribed channelId.toNat (f topic) (f typeName)
  | .subscribeFailed channelId code message =>
    .subscribeFailed channelId.toNat (some code) (f message)
  | .published channelId topic typeName qosReliability =>
    .published channelId.toNat (f topic) (f typeName) (some qosReliability)
  | .publishFailed channelId code message => .publishFailed channelId.toNat (some code) (f message)
  | .sample channelId leaseId sequence sourceTimeNs stringData =>
    .sample channelId.toNat leaseId.toNat sequence.toNat sourceTimeNs.toInt
      (payloadView leaseId).1.toNat (payloadView leaseId).2.toNat (stringData.map f)
  | .heartbeat counter => .heartbeat counter.toNat
  | .error code message => .error (some code) (f message)
  | .closed phase => .closed (some (phaseToU8 phase))
  | .serviceReady channelId name typeName client =>
    .serviceReady channelId.toNat (f name) (f typeName) client
  | .serviceFailed channelId code message => .serviceFailed channelId.toNat (some code) (f message)
  | .serviceRequest event => .serviceRequest (shownOperation payloadView event)
  | .serviceResponse event => .serviceResponse (shownOperation payloadView event)
  | .actionReady channelId name typeName client =>
    .actionReady channelId.toNat (f name) (f typeName) client
  | .actionFailed channelId code message => .actionFailed channelId.toNat (some code) (f message)
  | .actionGoal event => .actionGoal (shownOperation payloadView event)
  | .actionFeedback event => .actionFeedback (shownOperation payloadView event)
  | .actionResult event => .actionResult (shownOperation payloadView event)
  | .actionStatus event => .actionStatus (shownOperation payloadView event)
  | .graphSnapshot generation nodesJson endpointsJson =>
    .graphSnapshot generation.toNat (f nodesJson) (f endpointsJson)
  | .graphDelta generation => .graphDelta generation.toNat
  | .operationCancelled channelId code message =>
    .operationCancelled channelId.toNat (some code) (f message)

/-- **A poll outcome as the host sees it**, its texts through `f`. -/
def shown (outcome : PollOutcome) : DecodedPoll where
  outbound := outcome.outbound.map fun msg => (msg.bufferId.toNat, msg.bytes)
  events := outcome.events.map (shownEvent f payloadView)
  released := outcome.releasedBuffers.map fun r => (r.bufferId.toNat, r.len.toNat)
  nextDeadlineMs := outcome.nextDeadlineMs.map fun ms => (ms.toNat : ℤ)

end

/-- The texts of an event. -/
def textsOf : AppEvent → List String
  | .sessionReady supportRow _ gatewayInstanceId => [supportRow, gatewayInstanceId]
  | .subscribed _ topic typeName => [topic, typeName]
  | .published _ topic typeName _ => [topic, typeName]
  | .serviceReady _ name typeName _ => [name, typeName]
  | .actionReady _ name typeName _ => [name, typeName]
  | .subscribeFailed _ _ message => [message]
  | .publishFailed _ _ message => [message]
  | .error _ message => [message]
  | .serviceFailed _ _ message => [message]
  | .actionFailed _ _ message => [message]
  | .operationCancelled _ _ message => [message]
  | .sample _ _ _ _ stringData => stringData.toList
  | .graphSnapshot _ nodesJson endpointsJson => [nodesJson, endpointsJson]
  | _ => []

/-- The operation an event is about. -/
def operationOf : AppEvent → Option OperationEvent
  | .serviceRequest event => some event
  | .serviceResponse event => some event
  | .actionGoal event => some event
  | .actionFeedback event => some event
  | .actionResult event => some event
  | .actionStatus event => some event
  | _ => none

/-! ## Reading the parts of a record -/

theorem reads_padded (b : UInt8) : Reads padded (writePadded b) (some b) := by
  have hskip : Reads (skip 3 : ByteReader String _) [0, 0, 0] () := reads_skip rfl
  exact (reads_byte b).bind hskip.last

theorem reads_u16 {n : ℕ} (h : n < 2 ^ 16) : Reads (nat 2 : ByteReader String ℕ) (writeU16 n) n :=
  reads_nat h

theorem reads_u32 {n : ℕ} (h : n < 2 ^ 32) : Reads (nat 4 : ByteReader String ℕ) (writeU32 n) n :=
  reads_nat h

theorem reads_u64 {n : ℕ} (h : n < 2 ^ 64) : Reads (nat 8 : ByteReader String ℕ) (writeU64 n) n :=
  reads_nat h

theorem reads_text16 {s : String} (h : (BigEndian.utf8 s).length < 2 ^ 16) :
    Reads text16 (writeText16 s) (withoutMark s) := by
  rw [← decode_utf8]
  exact (reads_u16 h).bind (reads_take rfl).last

theorem reads_text32 {s : String} (h : (BigEndian.utf8 s).length < 2 ^ 32) :
    Reads text32 (writeText32 s) (withoutMark s) := by
  rw [← decode_utf8]
  exact (reads_u32 h).bind (reads_take rfl).last

/-! ## Reading an event -/

section

variable (payloadView : UInt32 → UInt32 × UInt32)

theorem reads_operation {event : OperationEvent} (hid : event.operationId.length = 16) :
    Reads readOperation (writeU32 event.channelId.toNat ++ (event.operationId ++
      (writeU32 event.leaseId.toNat ++ (writeU64 event.sequence.toNat ++
        (writeU32 (payloadView event.leaseId).1.toNat ++
          writeU32 (payloadView event.leaseId).2.toNat)))))
      (shownOperation payloadView event) :=
  (reads_u32 event.channelId.toNat_lt).bind ((reads_take hid).bind
    ((reads_u32 event.leaseId.toNat_lt).bind ((reads_u64 event.sequence.toNat_lt).bind
      ((reads_u32 (UInt32.toNat_lt _)).bind (reads_u32 (UInt32.toNat_lt _)).last))))

theorem reads_failure (f : ℕ → Option UInt8 → String → BrowserEvent) (channelId : UInt32)
    (code : UInt8) {message : String} (h : (BigEndian.utf8 message).length < 2 ^ 16) :
    Reads (readFailure f)
      (writeU32 channelId.toNat ++ (writePadded code ++ writeText16 message))
      (f channelId.toNat (some code) (withoutMark message)) :=
  (reads_u32 channelId.toNat_lt).bind ((reads_padded code).bind (reads_text16 h).last)

theorem reads_ready (f : ℕ → String → String → Bool → BrowserEvent) (channelId : UInt32)
    (client : Bool) {name typeName : String} (hname : (BigEndian.utf8 name).length < 2 ^ 16)
    (htype : (BigEndian.utf8 typeName).length < 2 ^ 16) :
    Reads (readReady f)
      (writeU32 channelId.toNat ++ (writePadded client.toUInt8 ++
        (writeText16 name ++ writeText16 typeName)))
      (f channelId.toNat (withoutMark name) (withoutMark typeName) client) := by
  have hclient : (some client.toUInt8 != some 0) = client := by
    cases client <;> rfl
  have hread : Reads (readReady f)
      (writeU32 channelId.toNat ++ (writePadded client.toUInt8 ++
        (writeText16 name ++ writeText16 typeName)))
      (f channelId.toNat (withoutMark name) (withoutMark typeName)
        (some client.toUInt8 != some 0)) :=
    (reads_u32 channelId.toNat_lt).bind ((reads_padded _).bind
      ((reads_text16 hname).bind (reads_text16 htype).last))
  rwa [hclient] at hread

theorem asIntN_of_lt {k n : ℕ} (h : n < 2 ^ (8 * k - 1)) : asIntN k n = n := if_pos h

/-- The number of a 64-bit integer's bit pattern, read as signed. -/
theorem asIntN_toUInt64 (t : Int64) : asIntN 8 t.toUInt64.toNat = t.toInt := by
  have hbits : t.toInt = t.toUInt64.toBitVec.toInt := rfl
  have hlt : t.toUInt64.toNat < 2 ^ 64 := t.toUInt64.toNat_lt
  have hnat : t.toUInt64.toBitVec.toNat = t.toUInt64.toNat := rfl
  rw [hbits, BitVec.toInt_eq_toNat_cond, hnat, asIntN]
  split_ifs <;> omega

/-- The text of a sample: a length, whose sign says whether there is one, and the bytes. -/
theorem reads_stringData {stringData : Option String}
    (h : ∀ s ∈ stringData, (BigEndian.utf8 s).length < 2 ^ 16)
    (g : Option String → BrowserEvent) :
    Reads (do
        let stringLen ← nat 4
        if 0 ≤ asIntN 4 stringLen then
          let bytes ← take stringLen
          pure (g (some (TextDecoder.decode bytes)))
        else
          pure (g none) : ByteReader String BrowserEvent)
      (writeStringData stringData) (g (stringData.map withoutMark)) := by
  cases stringData with
  | none =>
    have hlen := reads_u32 (n := 0xffffffff) (by norm_num)
    have hsign : ¬ 0 ≤ asIntN 4 0xffffffff := by decide
    rw [writeStringData, ← List.append_nil (writeU32 _)]
    refine hlen.bind ?_
    rw [if_neg hsign]
    exact reads_pure _
  | some s =>
    have hs := h s rfl
    have hlen := reads_u32 (n := (BigEndian.utf8 s).length) (by omega)
    have hsign : 0 ≤ asIntN 4 (BigEndian.utf8 s).length := by
      rw [asIntN_of_lt (by omega)]
      omega
    rw [writeStringData, Option.map_some, ← decode_utf8]
    refine hlen.bind ?_
    rw [if_pos hsign]
    exact (reads_take rfl).last

theorem reads_sample (channelId leaseId : UInt32) (sequence : UInt64) (sourceTimeNs : Int64)
    {stringData : Option String} (h : ∀ s ∈ stringData, (BigEndian.utf8 s).length < 2 ^ 16) :
    Reads readSample (writeU32 channelId.toNat ++ (writeU32 leaseId.toNat ++
      (writeU64 sequence.toNat ++ (writeU64 sourceTimeNs.toUInt64.toNat ++
        (writeU32 (payloadView leaseId).1.toNat ++ (writeU32 (payloadView leaseId).2.toNat ++
          writeStringData stringData))))))
      (shownEvent withoutMark payloadView
        (.sample channelId leaseId sequence sourceTimeNs stringData)) := by
  rw [shownEvent, ← asIntN_toUInt64]
  exact (reads_u32 channelId.toNat_lt).bind ((reads_u32 leaseId.toNat_lt).bind
    ((reads_u64 sequence.toNat_lt).bind ((reads_u64 (UInt64.toNat_lt _)).bind
      ((reads_u32 (UInt32.toNat_lt _)).bind ((reads_u32 (UInt32.toNat_lt _)).bind
        (reads_stringData h _))))))

/-- **An event is read back**, its texts without their byte order marks. -/
theorem reads_event {event : AppEvent}
    (htexts : ∀ s ∈ textsOf event, (BigEndian.utf8 s).length < 2 ^ 16)
    (hid : ∀ e, operationOf event = some e → e.operationId.length = 16) :
    Reads readEvent (encodeAppEvent payloadView event)
      (shownEvent withoutMark payloadView event) := by
  have hkind := fun kind => reads_padded kind
  cases event with
  | bootstrapComplete selectedWireVersion => exact (hkind _).bind (reads_padded _).last
  | sessionReady supportRow domainId gatewayInstanceId =>
    have hrow := htexts supportRow (by simp [textsOf])
    have hgateway := htexts gatewayInstanceId (by simp [textsOf])
    simp only [encodeAppEvent, List.append_assoc]
    exact (hkind _).bind ((reads_padded _).bind
      ((reads_text16 hrow).bind (reads_text16 hgateway).last))
  | subscribed channelId topic typeName =>
    have htopic := htexts topic (by simp [textsOf])
    have htype := htexts typeName (by simp [textsOf])
    simp only [encodeAppEvent, List.append_assoc]
    exact (hkind _).bind ((reads_u32 channelId.toNat_lt).bind
      ((reads_text16 htopic).bind (reads_text16 htype).last))
  | published channelId topic typeName qosReliability =>
    have htopic := htexts topic (by simp [textsOf])
    have htype := htexts typeName (by simp [textsOf])
    simp only [encodeAppEvent, List.append_assoc]
    exact (hkind _).bind ((reads_u32 channelId.toNat_lt).bind ((reads_padded _).bind
      ((reads_text16 htopic).bind (reads_text16 htype).last)))
  | subscribeFailed channelId code message | publishFailed channelId code message
  | serviceFailed channelId code message | actionFailed channelId code message
  | operationCancelled channelId code message =>
    have hmessage := htexts message (by simp [textsOf])
    simp only [encodeAppEvent, List.append_assoc]
    exact (hkind _).bind (reads_failure _ channelId code hmessage)
  | sample channelId leaseId sequence sourceTimeNs stringData =>
    simp only [encodeAppEvent, List.append_assoc]
    exact (hkind _).bind (reads_sample payloadView channelId leaseId sequence sourceTimeNs
      fun s hs => htexts s (Option.mem_toList.mpr hs))
  | heartbeat counter => exact (hkind _).bind (reads_u64 counter.toNat_lt).last
  | error code message =>
    have hmessage := htexts message (by simp [textsOf])
    simp only [encodeAppEvent, List.append_assoc]
    exact (hkind _).bind ((reads_padded _).bind (reads_text16 hmessage).last)
  | closed phase => exact (hkind _).bind (reads_padded _).last
  | serviceReady channelId name typeName client | actionReady channelId name typeName client =>
    have hname := htexts name (by simp [textsOf])
    have htype := htexts typeName (by simp [textsOf])
    simp only [encodeAppEvent, List.append_assoc]
    exact (hkind _).bind (reads_ready _ channelId client hname htype)
  | serviceRequest event | serviceResponse event | actionGoal event | actionFeedback event
  | actionResult event | actionStatus event =>
    simp only [encodeAppEvent, encodeLeasedOpidEvent, List.append_assoc]
    exact (hkind _).bind (reads_operation payloadView (hid event rfl)).last
  | graphSnapshot generation nodesJson endpointsJson =>
    have hnodes := htexts nodesJson (by simp [textsOf])
    have hendpoints := htexts endpointsJson (by simp [textsOf])
    simp only [encodeAppEvent, List.append_assoc]
    exact (hkind _).bind ((reads_u64 generation.toNat_lt).bind
      ((reads_text32 (by omega)).bind (reads_text32 (by omega)).last))
  | graphDelta generation => exact (hkind _).bind (reads_u64 generation.toNat_lt).last

theorem reads_outbound {msg : OutboundMessage} (h : msg.bytes.length < 2 ^ 32) :
    Reads readOutbound (encodeOutbound msg) (msg.bufferId.toNat, msg.bytes) := by
  simp only [encodeOutbound, List.append_assoc]
  exact (reads_u32 msg.bufferId.toNat_lt).bind ((reads_u32 (by norm_num)).bind
    ((reads_u32 h).bind (reads_take rfl).last))

theorem reads_released (released : ReleasedBuffer) :
    Reads readReleased (encodeReleased released) (released.bufferId.toNat, released.len.toNat) :=
  (reads_u32 released.bufferId.toNat_lt).bind (reads_u32 released.len.toNat_lt).last

end

end Host
end Rclweb
