import Rclweb.Host.Batch
import Rclweb.Host.PollCodec
import Rclweb.Library.ScanLayout

/-!
# Host batches round trip

What `encode_host_batch_inline` writes: the header, and the events with their payloads in them.
Lengths are cut to the width of their fields, and a queue depth stays at the largest one a field
holds; `EventFits` are the events for which nothing is cut.

The engine reads off a batch the events it was written from, exactly when they fit
(`batch_roundTrips_iff`).
-/

namespace Rclweb

open Engine Scan

namespace Host
namespace Batch

def flag (b : Bool) : UInt8 := if b then 1 else 0

def writeI32 (n : Int32) : List UInt8 := writeU32 n.toUInt32.toNat

/-- What stands behind the id of a topic command. -/
def topicBody (options : TopicOptions) : List UInt8 :=
  List.flatten [options.correlation.1, writeU32 options.channelId.toNat,
    [options.qosReliability, options.domainId] ++ writeU16 (min options.qosDepth.toNat 65535),
    writeU16 (BigEndian.utf8 options.topic).length, BigEndian.utf8 options.topic,
    writeU16 (BigEndian.utf8 options.typeName).length, BigEndian.utf8 options.typeName]

def endpointBody (options : EndpointOptions) : List UInt8 :=
  List.flatten [options.correlation.1, writeU32 options.channelId.toNat,
    [flag options.client, options.domainId, 0, 0],
    writeU16 (BigEndian.utf8 options.name).length, BigEndian.utf8 options.name,
    writeU16 (BigEndian.utf8 options.typeName).length, BigEndian.utf8 options.typeName]

def opidBody (channelId : UInt32) (operationId : OperationId) (payload : List UInt8) :
    List UInt8 :=
  List.flatten [writeU32 channelId.toNat, operationId.1, writeU32 payload.length, payload]

def encodePointField (field : PointField) : List UInt8 :=
  List.flatten [writeU16 (BigEndian.utf8 field.name).length ++ BigEndian.utf8 field.name,
    writeU32 field.offset.toNat, [field.datatype], writeU32 field.count.toNat]

def pointCloud2Body (channelId : UInt32) (view : PointCloud2View) : List UInt8 :=
  List.flatten [writeU32 channelId.toNat, writeU32 view.height.toNat, writeU32 view.width.toNat,
    writeU32 view.pointStep.toNat, writeU32 view.rowStep.toNat,
    [flag view.isBigendian, flag view.isDense, 0, 0], writeI32 view.header.stampSec,
    writeU32 view.header.stampNanosec.toNat,
    writeU16 (BigEndian.utf8 view.header.frameId).length ++ BigEndian.utf8 view.header.frameId,
    writeU32 view.fields.length ++ view.fields.flatMap encodePointField,
    writeU32 view.data.length, view.data]

def encodeOpenServiceOrAction (cmd : UInt8) (options : EndpointOptions) : List UInt8 :=
  writePadded cmd ++ endpointBody options

def encodeOpidPayload (cmd : UInt8) (channelId : UInt32) (operationId : OperationId)
    (payload : List UInt8) : List UInt8 :=
  writePadded cmd ++ opidBody channelId operationId payload

def encodeCommand : AppCommand → List UInt8
  | .start transferable webtransport =>
    writePadded 1 ++ [flag transferable, flag webtransport, 0, 0]
  | .authenticate correlation scheme token =>
    writePadded 2 ++ List.flatten [correlation.1, writeU16 (BigEndian.utf8 scheme).length,
      BigEndian.utf8 scheme, writeU16 token.length, token]
  | .subscribe options => writePadded 3 ++ topicBody options
  | .publish options => writePadded 6 ++ topicBody options
  | .sendSample channelId stringData =>
    writePadded 7 ++ List.flatten [writeU32 channelId.toNat,
      writeU32 (BigEndian.utf8 stringData).length, BigEndian.utf8 stringData]
  | .openService options => encodeOpenServiceOrAction 8 options
  | .openAction options => encodeOpenServiceOrAction 11 options
  | .callService channelId operationId request => encodeOpidPayload 9 channelId operationId request
  | .sendServiceResponse channelId operationId response =>
    encodeOpidPayload 10 channelId operationId response
  | .sendActionGoal channelId operationId goal => encodeOpidPayload 12 channelId operationId goal
  | .cancelAction channelId operationId =>
    writePadded 13 ++ (writeU32 channelId.toNat ++ operationId.1)
  | .sendActionFeedback channelId operationId feedback =>
    encodeOpidPayload 14 channelId operationId feedback
  | .sendActionResult channelId operationId result =>
    encodeOpidPayload 15 channelId operationId result
  | .sendActionStatus channelId operationId status =>
    encodeOpidPayload 16 channelId operationId status
  | .sendPointCloud2 channelId view => writePadded 17 ++ pointCloud2Body channelId view
  | .sendGenerated channelId typeName value =>
    writePadded 18 ++ List.flatten [writeU32 channelId.toNat,
      writeU16 (BigEndian.utf8 typeName).length ++ BigEndian.utf8 typeName, writeU32 value.length,
      value]
  | .unsubscribe correlation channelId =>
    writePadded 4 ++ (correlation.1 ++ writeU32 channelId.toNat)
  | .close => writePadded 5

def encodeEvent : HostEvent → List UInt8
  | .wsBytes bufferId bytes =>
    writePadded 1 ++ ((writeU32 bufferId.toNat ++ (writeU32 0 ++ writeU32 bytes.length)) ++ bytes)
  | .timer nowMs => writePadded 2 ++ writeU64 nowMs.toNat
  | .command cmd => writePadded 3 ++ encodeCommand cmd
  | .releaseLease leaseId => writePadded 4 ++ writeU32 leaseId.toNat

end Batch

open Batch

/-- The header of a batch with `count` events. -/
def batchHeader (count : ℕ) : List UInt8 :=
  writeU32 batchMagic ++ (writeU16 batchLayoutVersion ++ (writeU16 flagInlineWsBytes ++
    writeU32 count))

/-- **`encode_host_batch_inline`.** -/
def encodeHostBatchInline (events : List HostEvent) : List UInt8 :=
  batchHeader events.length ++ events.flatMap encodeEvent

/-! ## What fits -/

/-- A text whose length is a number of 16 bits. -/
def Fits16 (s : String) : Prop := (BigEndian.utf8 s).length < 2 ^ 16

def CommandFits : AppCommand → Prop
  | .authenticate _ scheme token => Fits16 scheme ∧ token.length < 2 ^ 16
  | .subscribe options | .publish options =>
    Fits16 options.topic ∧ Fits16 options.typeName ∧ options.qosDepth.toNat < 2 ^ 16
  | .sendSample _ stringData => (BigEndian.utf8 stringData).length < 2 ^ 32
  | .sendPointCloud2 _ view => Fits16 view.header.frameId ∧ view.fields.length < 2 ^ 32 ∧
    (∀ field ∈ view.fields, Fits16 field.name) ∧ view.data.length < 2 ^ 32
  | .sendGenerated _ typeName value => Fits16 typeName ∧ value.length < 2 ^ 32
  | .openService options | .openAction options => Fits16 options.name ∧ Fits16 options.typeName
  | .callService _ _ payload | .sendServiceResponse _ _ payload | .sendActionGoal _ _ payload
  | .sendActionFeedback _ _ payload | .sendActionResult _ _ payload
  | .sendActionStatus _ _ payload => payload.length < 2 ^ 32
  | .start _ _ | .cancelAction _ _ | .unsubscribe _ _ | .close => True

/-- **The events whose lengths are numbers of their fields.** -/
def EventFits : HostEvent → Prop
  | .wsBytes _ bytes => bytes.length < 2 ^ 32
  | .command cmd => CommandFits cmd
  | .timer _ | .releaseLease _ => True

namespace Batch

/-! ## Reading the parts -/

theorem length_writeU16 (n : ℕ) : (writeU16 n).length = 2 := LittleEndian.length_toBytes 2 n

theorem length_writeU32 (n : ℕ) : (writeU32 n).length = 4 := LittleEndian.length_toBytes 4 n

theorem length_writeU64 (n : ℕ) : (writeU64 n).length = 8 := LittleEndian.length_toBytes 8 n

theorem length_writePadded (b : UInt8) : (writePadded b).length = 4 := rfl

theorem take_toBytes (w n : ℕ) (rest : List UInt8) :
    (LittleEndian.toBytes w n ++ rest).take w = LittleEndian.toBytes w n := by
  rw [List.take_append_of_le_length (LittleEndian.length_toBytes w n).ge,
    List.take_of_length_le (LittleEndian.length_toBytes w n).le]

theorem scans_readNumber {w n : ℕ} (h : n < 256 ^ w) :
    Scans (readNumber w) (LittleEndian.toBytes w n) n := by
  refine Scans.numberAt h ?_ (.finish (LittleEndian.length_toBytes w n) n)
  rw [List.drop_zero, List.take_of_length_le (LittleEndian.length_toBytes w n).le]

theorem scans_readU8 (b : UInt8) : Scans readU8 [b] b := .byteAt rfl (.finish rfl b)

theorem scans_readU16 {n : ℕ} (h : n < 2 ^ 16) :
    Scans readU16 (writeU16 n) (UInt16.ofNat n) := (scans_readNumber h).map _

theorem scans_length32 {n : ℕ} (h : n < 2 ^ 32) :
    Scans readU32 (writeU32 n) (UInt32.ofNat n) := (scans_readNumber h).map _

theorem scans_readU32 (n : UInt32) : Scans readU32 (writeU32 n.toNat) n := by
  have h := scans_length32 n.toNat_lt
  rwa [UInt32.ofNat_toNat] at h

theorem scans_readI32 (n : Int32) : Scans readI32 (writeI32 n) n :=
  (scans_readU32 n.toUInt32).map UInt32.toInt32

theorem scans_readU64 (n : UInt64) : Scans readU64 (writeU64 n.toNat) n := by
  have h := (scans_readNumber (w := 8) n.toNat_lt).map UInt64.ofNat
  rwa [UInt64.ofNat_toNat] at h

theorem scans_readArray16 (x : ByteArrayOf 16) : Scans readArray16 x.1 x :=
  .array x (.finish x.2 x)

theorem scans_readText (s : String) :
    Scans (readText (BigEndian.utf8 s).length) (BigEndian.utf8 s) s :=
  .slice rfl (scans_text.bind (.finish rfl s))

theorem scans_readBytes (bytes : List UInt8) : Scans (readBytes bytes.length) bytes bytes :=
  .require le_rfl (.slice rfl (.finish rfl bytes))

theorem scans_readCheckedText (s : String) :
    Scans (readCheckedText (BigEndian.utf8 s).length) (BigEndian.utf8 s) s :=
  .require le_rfl (scans_readText s)

theorem toNat_length16 {n : ℕ} (h : n < 2 ^ 16) : (UInt16.ofNat n).toNat = n :=
  UInt16.toNat_ofNat_of_lt' h

theorem toNat_length32 {n : ℕ} (h : n < 2 ^ 32) : (UInt32.ofNat n).toNat = n :=
  UInt32.toNat_ofNat_of_lt' h

theorem scans_readU16String {s : String} (h : Fits16 s) :
    Scans readU16String (writeU16 (BigEndian.utf8 s).length ++ BigEndian.utf8 s) s := by
  refine .require (by simp [length_writeU16]) ((scans_readU16 h).bind ?_)
  rw [toNat_length16 h]
  exact .require le_rfl (scans_readText s)

theorem flag_bne (b : Bool) : (flag b != 0) = b := by cases b <;> rfl

/-! ## Commands -/

theorem scans_decodeTopicOptions {options : TopicOptions} (htopic : Fits16 options.topic)
    (htype : Fits16 options.typeName) (hdepth : options.qosDepth.toNat < 2 ^ 16) :
    Scans decodeTopicOptions (topicBody options) options := by
  obtain ⟨correlation, channelId, topic, typeName, reliability, depth, domainId⟩ := options
  dsimp only at htopic htype hdepth
  have hmin : min depth.toNat 65535 = depth.toNat := min_eq_left (by omega)
  unfold topicBody
  dsimp only
  rw [hmin]
  refine .require (by simp [correlation.2, length_writeU16, length_writeU32]; omega) ?_
  refine (scans_readArray16 correlation).bind ((scans_readU32 channelId).bind ?_)
  refine .byteAt rfl (.byteAt rfl (.numberAt hdepth (take_toBytes 2 depth.toNat _) ?_))
  refine .advance rfl ((scans_readU16 htopic).bind ?_)
  rw [toNat_length16 htopic]
  refine .require (by simp [length_writeU16]) ((scans_readText topic).bind ?_)
  refine (scans_readU16 htype).bind ?_
  rw [toNat_length16 htype]
  refine .require (by simp) ((scans_readText typeName).bind ?_)
  rw [UInt32.ofNat_toNat]
  exact scans_pure _

theorem scans_decodeEndpointOptions {options : EndpointOptions} (hname : Fits16 options.name)
    (htype : Fits16 options.typeName) :
    Scans decodeEndpointOptions (endpointBody options) options := by
  obtain ⟨correlation, channelId, name, typeName, domainId, client⟩ := options
  dsimp only at hname htype
  unfold endpointBody
  dsimp only
  refine .require (by simp [correlation.2, length_writeU16, length_writeU32]; omega) ?_
  refine (scans_readArray16 correlation).bind ((scans_readU32 channelId).bind ?_)
  refine .byteAt rfl (.byteAt rfl (.advance rfl ((scans_readU16 hname).bind ?_)))
  rw [toNat_length16 hname]
  refine .require (by simp [length_writeU16]) ((scans_readText name).bind ?_)
  refine (scans_readU16 htype).bind ?_
  rw [toNat_length16 htype]
  refine .require (by simp) ((scans_readText typeName).bind ?_)
  rw [flag_bne]
  exact scans_pure _

theorem scans_decodeAuthenticate {correlation : ByteArrayOf 16} {scheme : String}
    {token : List UInt8} (hscheme : Fits16 scheme) (htoken : token.length < 2 ^ 16) :
    Scans decodeAuthenticate (List.flatten [correlation.1,
      writeU16 (BigEndian.utf8 scheme).length, BigEndian.utf8 scheme, writeU16 token.length,
      token]) (.authenticate correlation scheme token) := by
  refine .require (by simp [correlation.2, length_writeU16]; omega) ?_
  refine (scans_readArray16 correlation).bind ((scans_readU16 hscheme).bind ?_)
  rw [toNat_length16 hscheme]
  refine .require (by simp [length_writeU16]) ((scans_readText scheme).bind ?_)
  refine (scans_readU16 htoken).bind ?_
  rw [toNat_length16 htoken]
  exact (scans_readBytes token).bind (scans_pure _)

theorem scans_decodeSendSample {channelId : UInt32} {stringData : String}
    (h : (BigEndian.utf8 stringData).length < 2 ^ 32) :
    Scans decodeSendSample (List.flatten [writeU32 channelId.toNat,
      writeU32 (BigEndian.utf8 stringData).length, BigEndian.utf8 stringData])
      (.sendSample channelId stringData) := by
  refine .require (by simp [length_writeU32]; omega) ?_
  refine (scans_readU32 channelId).bind ((scans_length32 h).bind ?_)
  rw [toNat_length32 h]
  exact (scans_readCheckedText stringData).bind (scans_pure _)

theorem scans_decodeOpidPayload {channelId : UInt32} {operationId : OperationId}
    {payload : List UInt8} (h : payload.length < 2 ^ 32) :
    Scans decodeOpidPayload (opidBody channelId operationId payload)
      (channelId, operationId, payload) := by
  refine .require (by simp [opidBody, operationId.2, length_writeU32]; omega) ?_
  refine (scans_readU32 channelId).bind ((scans_readArray16 operationId).bind ?_)
  refine (scans_length32 h).bind ?_
  rw [toNat_length32 h]
  exact (scans_readBytes payload).bind (scans_pure _)

theorem scans_decodePointField {field : PointField} (h : Fits16 field.name) :
    Scans decodePointField (encodePointField field) field := by
  refine (scans_readU16String h).bind (.require (by simp [length_writeU32]) ?_)
  refine (scans_readU32 field.offset).bind ((scans_readU8 field.datatype).bind ?_)
  exact (scans_readU32 field.count).bind (scans_pure _)

theorem length_encodePointField (field : PointField) : 11 ≤ (encodePointField field).length := by
  simp [encodePointField, length_writeU16, length_writeU32]
  omega

theorem length_flatMap_encodePointField (fields : List PointField) :
    fields.length * 11 ≤ (fields.flatMap encodePointField).length := by
  induction fields with
  | nil => exact Nat.zero_le _
  | cons field fields ih =>
    have hfield := length_encodePointField field
    rw [List.flatMap_cons, List.length_append, List.length_cons]
    omega

theorem scans_decodePointFields {fields : List PointField} (hcount : fields.length < 2 ^ 32)
    (h : ∀ field ∈ fields, Fits16 field.name) :
    Scans decodePointFields (writeU32 fields.length ++ fields.flatMap encodePointField) fields := by
  refine .require (by simp [length_writeU32]) ((scans_length32 hcount).bind ?_)
  rw [toNat_length32 hcount]
  refine .reserve (length_flatMap_encodePointField fields) ?_
  exact scans_repeated (fun field hfield _ => scans_decodePointField (h field hfield)) 0

theorem scans_decodeSendPointCloud2 {channelId : UInt32} {view : PointCloud2View}
    (h : CommandFits (.sendPointCloud2 channelId view)) :
    Scans decodeSendPointCloud2 (pointCloud2Body channelId view)
      (.sendPointCloud2 channelId view) := by
  obtain ⟨hframe, hcount, hfields, hdata⟩ := h
  refine .require (by simp [pointCloud2Body, length_writeU16, length_writeU32, writeI32]; omega) ?_
  refine (scans_readU32 channelId).bind ((scans_readU32 view.height).bind ?_)
  refine (scans_readU32 view.width).bind ((scans_readU32 view.pointStep).bind ?_)
  refine (scans_readU32 view.rowStep).bind (.byteAt rfl (.byteAt rfl (.advance rfl ?_)))
  refine (scans_readI32 view.header.stampSec).bind ((scans_readU32 _).bind ?_)
  refine (scans_readU16String hframe).bind ?_
  rw [flag_bne, flag_bne]
  refine (scans_decodePointFields hcount hfields).bind ?_
  refine .require (by simp [length_writeU32]) ((scans_length32 hdata).bind ?_)
  rw [toNat_length32 hdata]
  exact (scans_readBytes view.data).bind (scans_pure _)

theorem scans_decodeSendGenerated {channelId : UInt32} {typeName : String} {value : List UInt8}
    (htype : Fits16 typeName) (hvalue : value.length < 2 ^ 32) :
    Scans decodeSendGenerated (List.flatten [writeU32 channelId.toNat,
      writeU16 (BigEndian.utf8 typeName).length ++ BigEndian.utf8 typeName, writeU32 value.length,
      value]) (.sendGenerated channelId typeName value) := by
  refine .require (by simp [length_writeU16, length_writeU32]; omega) ?_
  refine (scans_readU32 channelId).bind ((scans_readU16String htype).bind ?_)
  refine .require (by simp [length_writeU32]) ((scans_length32 hvalue).bind ?_)
  rw [toNat_length32 hvalue]
  exact (scans_readBytes value).bind (scans_pure _)

theorem scans_decodeStart (transferable webtransport : Bool) :
    Scans decodeStart [flag transferable, flag webtransport, 0, 0]
      (.start transferable webtransport) := by
  refine .require (by simp) (.byteAt rfl (.byteAt rfl ?_))
  rw [flag_bne, flag_bne]
  exact .finish rfl _

theorem scans_decodeCancelAction (channelId : UInt32) (operationId : OperationId) :
    Scans decodeCancelAction (writeU32 channelId.toNat ++ operationId.1)
      (.cancelAction channelId operationId) := by
  refine .require (by simp [operationId.2, length_writeU32]) ((scans_readU32 channelId).bind ?_)
  exact (scans_readArray16 operationId).last (scans_pure _)

theorem scans_decodeUnsubscribe (correlation : ByteArrayOf 16) (channelId : UInt32) :
    Scans decodeUnsubscribe (correlation.1 ++ writeU32 channelId.toNat)
      (.unsubscribe correlation channelId) := by
  refine .require (by simp [correlation.2, length_writeU32]) ?_
  exact (scans_readArray16 correlation).bind ((scans_readU32 channelId).last (scans_pure _))

/-- A command behind its id. -/
theorem scans_commandEvent {id : UInt8} {body : List UInt8} {cmd : AppCommand}
    (h : Scans (decodeCommand id) body cmd) :
    Scans decodeCommandEvent (writePadded id ++ body) (.command cmd) := by
  refine .require (by simp [length_writePadded]) (.byteAt rfl (.advance rfl ?_))
  exact h.last (scans_pure _)

/-- **The command that was written is read.** -/
theorem scans_decodeCommandEvent {cmd : AppCommand} (h : CommandFits cmd) :
    Scans decodeCommandEvent (encodeCommand cmd) (.command cmd) := by
  cases cmd with
  | start transferable webtransport =>
    exact scans_commandEvent (scans_decodeStart transferable webtransport)
  | authenticate correlation scheme token =>
    exact scans_commandEvent (scans_decodeAuthenticate h.1 h.2)
  | subscribe options =>
    exact scans_commandEvent ((scans_decodeTopicOptions h.1 h.2.1 h.2.2).map _)
  | publish options =>
    exact scans_commandEvent ((scans_decodeTopicOptions h.1 h.2.1 h.2.2).map _)
  | sendSample channelId stringData => exact scans_commandEvent (scans_decodeSendSample h)
  | sendPointCloud2 channelId view => exact scans_commandEvent (scans_decodeSendPointCloud2 h)
  | sendGenerated channelId typeName value =>
    exact scans_commandEvent (scans_decodeSendGenerated h.1 h.2)
  | openService options =>
    exact scans_commandEvent ((scans_decodeEndpointOptions h.1 h.2).map _)
  | openAction options => exact scans_commandEvent ((scans_decodeEndpointOptions h.1 h.2).map _)
  | callService channelId operationId request =>
    exact scans_commandEvent ((scans_decodeOpidPayload h).map _)
  | sendServiceResponse channelId operationId response =>
    exact scans_commandEvent ((scans_decodeOpidPayload h).map _)
  | sendActionGoal channelId operationId goal =>
    exact scans_commandEvent ((scans_decodeOpidPayload h).map _)
  | cancelAction channelId operationId =>
    exact scans_commandEvent (scans_decodeCancelAction channelId operationId)
  | sendActionFeedback channelId operationId feedback =>
    exact scans_commandEvent ((scans_decodeOpidPayload h).map _)
  | sendActionResult channelId operationId result =>
    exact scans_commandEvent ((scans_decodeOpidPayload h).map _)
  | sendActionStatus channelId operationId status =>
    exact scans_commandEvent ((scans_decodeOpidPayload h).map _)
  | unsubscribe correlation channelId =>
    exact scans_commandEvent (scans_decodeUnsubscribe correlation channelId)
  | close => exact scans_commandEvent (scans_pure _)

/-! ## Events -/

theorem scans_decodeWsBytes {resolveWs : ResolveWs} {i : ℕ} {bufferId : UInt32}
    {bytes : List UInt8} (h : bytes.length < 2 ^ 32) :
    Scans (decodeWsBytes true resolveWs i)
      ((writeU32 bufferId.toNat ++ (writeU32 0 ++ writeU32 bytes.length)) ++ bytes)
      (.wsBytes bufferId bytes) := by
  refine .require (by simp [length_writeU32]; omega) ?_
  refine .numberAt bufferId.toNat_lt rfl (.numberAt (by decide : 0 < 256 ^ 4) rfl ?_)
  refine .numberAt h rfl (.advance rfl ?_)
  rw [UInt32.ofNat_toNat, toNat_length32 h]
  exact (scans_readBytes bytes).last (scans_pure _)

/-- **The event that was written is read.** -/
theorem scans_decodeEvent {resolveWs : ResolveWs} {event : HostEvent} (h : EventFits event)
    (i : ℕ) : Scans (decodeEvent true resolveWs i) (encodeEvent event) event := by
  cases event with
  | wsBytes bufferId bytes =>
    exact .require (by simp [encodeEvent, length_writePadded])
      (.byteAt rfl (.advance rfl (scans_decodeWsBytes h)))
  | timer nowMs =>
    refine .require (by simp [encodeEvent, length_writePadded]) (.byteAt rfl (.advance rfl ?_))
    exact .require (length_writeU64 _).ge ((scans_readU64 nowMs).last (scans_pure _))
  | command cmd =>
    exact .require (by simp [encodeEvent, length_writePadded])
      (.byteAt rfl (.advance rfl (scans_decodeCommandEvent h)))
  | releaseLease leaseId =>
    refine .require (by simp [encodeEvent, length_writePadded]) (.byteAt rfl (.advance rfl ?_))
    exact .require (length_writeU32 _).ge ((scans_readU32 leaseId).last (scans_pure _))

theorem length_encodeCommand (cmd : AppCommand) : 4 ≤ (encodeCommand cmd).length := by
  cases cmd <;> simp [encodeCommand, encodeOpenServiceOrAction, encodeOpidPayload,
    length_writePadded]

theorem length_encodeEvent (event : HostEvent) : 8 ≤ (encodeEvent event).length := by
  cases event with
  | wsBytes bufferId bytes => simp [encodeEvent, length_writePadded, length_writeU32]; omega
  | timer nowMs => simp [encodeEvent, length_writePadded, length_writeU64]
  | command cmd =>
    have hcmd := length_encodeCommand cmd
    simp [encodeEvent, length_writePadded]
    omega
  | releaseLease leaseId => simp [encodeEvent, length_writePadded, length_writeU32]

theorem length_flatMap_encodeEvent (events : List HostEvent) :
    events.length * 8 ≤ (events.flatMap encodeEvent).length := by
  induction events with
  | nil => exact Nat.zero_le _
  | cons event events ih =>
    have hevent := length_encodeEvent event
    rw [List.flatMap_cons, List.length_append, List.length_cons]
    omega

theorem length_batchHeader (count : ℕ) : (batchHeader count).length = 12 := by
  simp [batchHeader, length_writeU16, length_writeU32]

theorem length_encodeHostBatchInline (events : List HostEvent) :
    12 ≤ (encodeHostBatchInline events).length := by
  rw [encodeHostBatchInline, List.length_append, length_batchHeader]
  omega

/-- **The events that were written are read.** -/
theorem scans_decodeHostBatch {resolveWs : ResolveWs} {events : List HostEvent}
    (hcount : events.length < 2 ^ 32) (h : ∀ event ∈ events, EventFits event) :
    Scans (decodeHostBatch resolveWs) (encodeHostBatchInline events) events := by
  refine .require (length_encodeHostBatchInline events) ?_
  refine .numberAt (by decide : batchMagic < 256 ^ 4) rfl ?_
  rw [if_neg (not_not.mpr rfl)]
  refine .numberAt (by decide : batchLayoutVersion < 256 ^ 2) rfl ?_
  rw [if_neg (not_not.mpr rfl)]
  refine .numberAt (by decide : flagInlineWsBytes < 256 ^ 2) rfl (.numberAt hcount rfl ?_)
  refine .advance rfl (.reserve (length_flatMap_encodeEvent events) ?_)
  exact scans_repeated (fun event hevent i => scans_decodeEvent (h event hevent) i) 0

/-! ## Whatever is read fits -/

theorem gives_readText (n : ℕ) :
    Gives (readText n) fun s => (BigEndian.utf8 s).length ≤ n :=
  gives_slice.bind fun raw hraw => gives_text.bind fun s hs => .after fun _ =>
    gives_pure (by rwa [hs])

theorem gives_readBytes (n : ℕ) : Gives (readBytes n) fun raw => raw.length ≤ n :=
  .after fun _ => gives_slice.bind fun _ hraw => .after fun _ => gives_pure hraw

theorem gives_readText16 (len : UInt16) : Gives (readText len.toNat) Fits16 :=
  fun m bytes o s o' h => (gives_readText len.toNat m bytes o s o' h).trans_lt len.toNat_lt

theorem gives_readText32 (len : UInt32) :
    Gives (readCheckedText len.toNat) fun s => (BigEndian.utf8 s).length < 2 ^ 32 :=
  .after fun _ m bytes o s o' h =>
    (gives_readText len.toNat m bytes o s o' h).trans_lt len.toNat_lt

theorem gives_readBytes16 (len : UInt16) :
    Gives (readBytes len.toNat) fun raw => raw.length < 2 ^ 16 :=
  fun m bytes o s o' h => (gives_readBytes len.toNat m bytes o s o' h).trans_lt len.toNat_lt

theorem gives_readBytes32 (len : UInt32) :
    Gives (readBytes len.toNat) fun raw => raw.length < 2 ^ 32 :=
  fun m bytes o s o' h => (gives_readBytes len.toNat m bytes o s o' h).trans_lt len.toNat_lt

theorem gives_readU16String : Gives readU16String Fits16 :=
  .after fun _ => .after fun len => .after fun _ => gives_readText16 len

theorem gives_decodeTopicOptions : Gives decodeTopicOptions fun options =>
    Fits16 options.topic ∧ Fits16 options.typeName ∧ options.qosDepth.toNat < 2 ^ 16 := by
  refine .after fun _ => .after fun _ => .after fun _ => .after fun _ => .after fun _ => ?_
  refine gives_numberAt.bind fun depth hdepth => .after fun _ => .after fun len => ?_
  refine .after fun _ => (gives_readText16 len).bind fun topic htopic => .after fun len => ?_
  refine .after fun _ => (gives_readText16 len).bind fun typeName htype => gives_pure ?_
  exact ⟨htopic, htype, (toNat_length32 (hdepth.trans (by decide))).trans_lt hdepth⟩

theorem gives_decodeEndpointOptions : Gives decodeEndpointOptions fun options =>
    Fits16 options.name ∧ Fits16 options.typeName := by
  refine .after fun _ => .after fun _ => .after fun _ => .after fun _ => .after fun _ => ?_
  refine .after fun _ => .after fun len => .after fun _ => ?_
  refine (gives_readText16 len).bind fun name hname => .after fun len => .after fun _ => ?_
  exact (gives_readText16 len).bind fun typeName htype => gives_pure ⟨hname, htype⟩

theorem gives_decodeOpidPayload :
    Gives decodeOpidPayload fun frame => frame.2.2.length < 2 ^ 32 :=
  .after fun _ => .after fun _ => .after fun _ => .after fun len =>
    (gives_readBytes32 len).bind fun _ h => gives_pure h

theorem gives_decodePointFields : Gives decodePointFields fun fields =>
    fields.length < 2 ^ 32 ∧ ∀ field ∈ fields, Fits16 field.name := by
  have hfield : Gives decodePointField fun field => Fits16 field.name :=
    gives_readU16String.bind fun _ h => .after fun _ => .after fun _ => .after fun _ =>
      .after fun _ => gives_pure h
  refine .after fun _ => .after fun count => .after fun _ => ?_
  intro m bytes o fields o' h
  obtain ⟨hlength, hfields⟩ := gives_repeated (fun _ => hfield) 0 count.toNat m bytes o fields o' h
  exact ⟨hlength ▸ count.toNat_lt, hfields⟩

theorem gives_decodeSendPointCloud2 : Gives decodeSendPointCloud2 CommandFits := by
  refine .after fun _ => .after fun _ => .after fun _ => .after fun _ => .after fun _ => ?_
  refine .after fun _ => .after fun _ => .after fun _ => .after fun _ => .after fun _ => ?_
  refine .after fun _ => gives_readU16String.bind fun _ hframe => ?_
  refine gives_decodePointFields.bind fun _ hfields => .after fun _ => .after fun len => ?_
  exact (gives_readBytes32 len).bind fun _ hdata =>
    gives_pure ⟨hframe, hfields.1, hfields.2, hdata⟩

theorem gives_decodeCommand (id : UInt8) : Gives (decodeCommand id) CommandFits := by
  unfold decodeCommand
  split
  · exact .after fun _ => .after fun _ => .after fun _ => .after fun _ => gives_pure trivial
  · refine .after fun _ => .after fun _ => .after fun len => .after fun _ => ?_
    refine (gives_readText16 len).bind fun _ hscheme => .after fun len => ?_
    exact (gives_readBytes16 len).bind fun _ htoken => gives_pure ⟨hscheme, htoken⟩
  · exact gives_decodeTopicOptions.map fun _ h => h
  · exact .after fun _ => .after fun _ => .after fun _ => gives_pure trivial
  · exact gives_pure trivial
  · exact gives_decodeTopicOptions.map fun _ h => h
  · exact .after fun _ => .after fun _ => .after fun len =>
      (gives_readText32 len).bind fun _ h => gives_pure h
  · exact gives_decodeEndpointOptions.map fun _ h => h
  · exact gives_decodeOpidPayload.map fun _ h => h
  · exact gives_decodeOpidPayload.map fun _ h => h
  · exact gives_decodeEndpointOptions.map fun _ h => h
  · exact gives_decodeOpidPayload.map fun _ h => h
  · exact .after fun _ => .after fun _ => .after fun _ => gives_pure trivial
  · exact gives_decodeOpidPayload.map fun _ h => h
  · exact gives_decodeOpidPayload.map fun _ h => h
  · exact gives_decodeOpidPayload.map fun _ h => h
  · exact gives_decodeSendPointCloud2
  · refine .after fun _ => .after fun _ => gives_readU16String.bind fun _ htype => ?_
    exact .after fun _ => .after fun len => (gives_readBytes32 len).bind fun _ hvalue =>
      gives_pure ⟨htype, hvalue⟩
  · exact gives_fail

/-- **Whatever is read of an inline batch fits.** -/
theorem gives_decodeEvent (resolveWs : ResolveWs) (i : ℕ) :
    Gives (decodeEvent true resolveWs i) EventFits := by
  refine .after fun _ => .after fun kind => .after fun _ => ?_
  split
  · refine .after fun _ => .after fun _ => .after fun _ => .after fun len => .after fun _ => ?_
    exact (gives_readBytes32 (UInt32.ofNat len)).bind fun _ h => gives_pure h
  · exact .after fun _ => .after fun _ => gives_pure trivial
  · exact .after fun _ => .after fun id => .after fun _ =>
      (gives_decodeCommand id).bind fun _ h => gives_pure h
  · exact .after fun _ => .after fun _ => gives_pure trivial
  · exact gives_fail

/-- The header is read in any case; of the count, 32 bits. -/
theorem outcome_decodeHostBatch {resolveWs : ResolveWs} {events : List HostEvent} {m : ℕ}
    (hroom : Room m (encodeHostBatchInline events).length) :
    (decodeHostBatch resolveWs m (encodeHostBatchInline events) 0).outcome =
      (repeated (decodeEvent true resolveWs) 0 (events.length % 2 ^ 32) m
        (encodeHostBatchInline events) 12).outcome := by
  have hlength := length_encodeHostBatchInline events
  have hcount : ((encodeHostBatchInline events).drop 8).take 4 =
      LittleEndian.toBytes 4 (events.length % 2 ^ 32) := by
    have hcut : LittleEndian.toBytes 4 (events.length % 2 ^ 32) =
        LittleEndian.toBytes 4 events.length := LittleEndian.toBytes_mod 4 _
    rw [hcut]
    rfl
  have hlt : events.length % 2 ^ 32 < 256 ^ 4 := Nat.mod_lt _ (by decide)
  have hadvance : (advance 12 m (encodeHostBatchInline events) 0 : Run BatchError Unit).outcome =
      .ok () 12 := by
    unfold advance
    rw [Nat.zero_add, hroom.wrap hlength]
  unfold decodeHostBatch
  rw [need, outcome_bind (outcome_require_start hroom hlength _),
    outcome_bind (outcome_numberAt_start hroom (by decide : batchMagic < 256 ^ 4) rfl),
    if_neg (not_not.mpr rfl),
    outcome_bind (outcome_numberAt_start hroom (by decide : batchLayoutVersion < 256 ^ 2) rfl),
    if_neg (not_not.mpr rfl),
    outcome_bind (outcome_numberAt_start hroom (by decide : flagInlineWsBytes < 256 ^ 2) rfl),
    outcome_bind (outcome_numberAt_start hroom hlt hcount), outcome_bind hadvance]
  rfl

end Batch

open Batch

/-- **A batch round trips exactly when its events fit**, on every machine that can hold it. -/
theorem batch_roundTrips_iff (resolveWs : ResolveWs) (events : List HostEvent) {m : ℕ}
    (hroom : Room m (encodeHostBatchInline events).length) :
    (decodeHostBatch resolveWs m (encodeHostBatchInline events) 0).outcome.result =
        some (.ok events) ↔
      events.length < 2 ^ 32 ∧ ∀ event ∈ events, EventFits event := by
  constructor
  · intro h
    rw [outcome_decodeHostBatch hroom] at h
    have hgives := gives_repeated (gives_decodeEvent resolveWs) 0 (events.length % 2 ^ 32) m
      (encodeHostBatchInline events) 12
    cases houtcome : (repeated (decodeEvent true resolveWs) 0 (events.length % 2 ^ 32) m
      (encodeHostBatchInline events) 12).outcome with
    | ok read o =>
      rw [houtcome] at h
      cases h
      obtain ⟨hcount, hfits⟩ := hgives events o houtcome
      exact ⟨hcount ▸ Nat.mod_lt _ (by decide), hfits⟩
    | err e =>
      rw [houtcome] at h
      cases h
    | fault f =>
      rw [houtcome] at h
      cases h
  · rintro ⟨hcount, hfits⟩
    exact ((scans_decodeHostBatch hcount hfits).run hroom).1

theorem batch_roundTrips_timer :
    (decodeHostBatch (fun _ _ _ _ => .error .badKind) word32 (encodeHostBatchInline [.timer 5])
      0).outcome.result = some (.ok [.timer 5]) :=
  (batch_roundTrips_iff _ [.timer 5] (.inr (by decide))).mpr
    ⟨by decide, List.forall_mem_singleton.mpr trivial⟩

end Host
end Rclweb
