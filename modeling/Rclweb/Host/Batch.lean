import Rclweb.Engine.Types
import Rclweb.Library.Scan

/-!
# Host batches in the engine's memory

The host hands the engine its events in one flat buffer, and the engine takes it apart with offsets
that are machine words: a header with a count, then the events, and behind the header of a command
event the fields of the command.  Every length and every count is the host's word, up to 32 bits
wide.

The least record of an event is a header and four bytes, and that of a point field is an empty name
and nine bytes.
-/

namespace Rclweb

open Engine Scan

namespace Host

/-- Why a batch is refused. -/
inductive BatchError where
  | truncated
  | badMagic
  | badVersion
  | badKind
  | limit
  deriving DecidableEq, Repr

def batchMagic : ℕ := 0x52434c42
def batchLayoutVersion : ℕ := 1
def flagInlineWsBytes : ℕ := 1

namespace Batch

/-! ## Reads -/

/-- Bytes are there, or the batch is truncated. -/
def need (n : ℕ) : Scan BatchError Unit := require n .truncated

def readU8 : Scan BatchError UInt8 := do
  let b ← byteAt 0
  advance 1
  pure b

/-- A number of `w` bytes, and the offset behind it. -/
def readNumber (w : ℕ) : Scan BatchError ℕ := do
  let n ← numberAt w 0
  advance w
  pure n

def readU16 : Scan BatchError UInt16 := UInt16.ofNat <$> readNumber 2

def readU32 : Scan BatchError UInt32 := UInt32.ofNat <$> readNumber 4

def readI32 : Scan BatchError Int32 := UInt32.toInt32 <$> readU32

def readU64 : Scan BatchError UInt64 := UInt64.ofNat <$> readNumber 8

def readArray16 : Scan BatchError (ByteArrayOf 16) := do
  let raw ← array 16
  advance 16
  pure raw

/-- The text on a slice, and the offset behind it. -/
def readText (n : ℕ) : Scan BatchError String := do
  let raw ← slice n
  let s ← text raw .badKind
  advance n
  pure s

/-- Checked bytes of a length, and the offset behind them. -/
def readBytes (n : ℕ) : Scan BatchError (List UInt8) := do
  need n
  let raw ← slice n
  advance n
  pure raw

def readU16String : Scan BatchError String := do
  need 2
  let len ← readU16
  need len.toNat
  readText len.toNat

/-- The text of a 32-bit length. -/
def readCheckedText (n : ℕ) : Scan BatchError String := do
  need n
  readText n

/-! ## Commands -/

/-- The settings of a topic command (`CMD_SUBSCRIBE`, `CMD_PUBLISH`). -/
def decodeTopicOptions : Scan BatchError TopicOptions := do
  need (16 + 4 + 4 + 2)
  let correlation ← readArray16
  let channelId ← readU32
  let qosReliability ← byteAt 0
  let domainId ← byteAt 1
  let qosDepth ← numberAt 2 2
  advance 4
  let topicLen ← readU16
  need (topicLen.toNat + 2)
  let topic ← readText topicLen.toNat
  let typeLen ← readU16
  need typeLen.toNat
  let typeName ← readText typeLen.toNat
  pure { correlation, channelId, topic, typeName, qosReliability,
         qosDepth := UInt32.ofNat qosDepth, domainId }

/-- The settings of a service or action command (`CMD_OPEN_SERVICE`, `CMD_OPEN_ACTION`). -/
def decodeEndpointOptions : Scan BatchError EndpointOptions := do
  need (16 + 4 + 4 + 2)
  let correlation ← readArray16
  let channelId ← readU32
  let client ← byteAt 0
  let domainId ← byteAt 1
  advance 4
  let nameLen ← readU16
  need (nameLen.toNat + 2)
  let name ← readText nameLen.toNat
  let typeLen ← readU16
  need typeLen.toNat
  let typeName ← readText typeLen.toNat
  pure { correlation, channelId, name, typeName, domainId, client := client != 0 }

def decodeAuthenticate : Scan BatchError AppCommand := do
  need (16 + 2)
  let correlation ← readArray16
  let schemeLen ← readU16
  need (schemeLen.toNat + 2)
  let scheme ← readText schemeLen.toNat
  let tokenLen ← readU16
  let token ← readBytes tokenLen.toNat
  pure (.authenticate correlation scheme token)

def decodeSendSample : Scan BatchError AppCommand := do
  need (4 + 4)
  let channelId ← readU32
  let stringLen ← readU32
  let stringData ← readCheckedText stringLen.toNat
  pure (.sendSample channelId stringData)

/-- A frame of an operation: channel, operation id and payload. -/
def decodeOpidPayload : Scan BatchError (UInt32 × OperationId × List UInt8) := do
  need (4 + 16 + 4)
  let channelId ← readU32
  let operationId ← readArray16
  let len ← readU32
  let payload ← readBytes len.toNat
  pure (channelId, operationId, payload)

def decodePointField : Scan BatchError PointField := do
  let name ← readU16String
  need 9
  let offset ← readU32
  let datatype ← readU8
  let count ← readU32
  pure { name, offset, datatype, count }

/-- The fields of a point cloud, for which memory is asked at once. -/
def decodePointFields : Scan BatchError (List PointField) := do
  need 4
  let fieldCount ← readU32
  reserve fieldCount.toNat 11
  repeated (fun _ => decodePointField) 0 fieldCount.toNat

def decodeSendPointCloud2 : Scan BatchError AppCommand := do
  need 34
  let channelId ← readU32
  let height ← readU32
  let width ← readU32
  let pointStep ← readU32
  let rowStep ← readU32
  let isBigendian ← byteAt 0
  let isDense ← byteAt 1
  advance 4
  let stampSec ← readI32
  let stampNanosec ← readU32
  let frameId ← readU16String
  let fields ← decodePointFields
  need 4
  let dataLen ← readU32
  let data ← readBytes dataLen.toNat
  pure (.sendPointCloud2 channelId
    { header := { stampSec, stampNanosec, frameId }, height, width, fields,
      isBigendian := isBigendian != 0, pointStep, rowStep, data, isDense := isDense != 0 })

def decodeSendGenerated : Scan BatchError AppCommand := do
  need (4 + 2)
  let channelId ← readU32
  let typeName ← readU16String
  need 4
  let valueLen ← readU32
  let value ← readBytes valueLen.toNat
  pure (.sendGenerated channelId typeName value)

def decodeStart : Scan BatchError AppCommand := do
  need 4
  let transferable ← byteAt 0
  let webtransport ← byteAt 1
  advance 4
  pure (.start (transferable != 0) (webtransport != 0))

def decodeCancelAction : Scan BatchError AppCommand := do
  need (4 + 16)
  let channelId ← readU32
  let operationId ← readArray16
  pure (.cancelAction channelId operationId)

def decodeUnsubscribe : Scan BatchError AppCommand := do
  need (16 + 4)
  let correlation ← readArray16
  let channelId ← readU32
  pure (.unsubscribe correlation channelId)

/-- **The command behind a command event's header.** -/
def decodeCommand (cmd : UInt8) : Scan BatchError AppCommand :=
  match cmd with
  | 1 => decodeStart
  | 2 => decodeAuthenticate
  | 3 => .subscribe <$> decodeTopicOptions
  | 4 => decodeUnsubscribe
  | 5 => pure .close
  | 6 => .publish <$> decodeTopicOptions
  | 7 => decodeSendSample
  | 8 => .openService <$> decodeEndpointOptions
  | 9 => (fun (c, id, payload) => .callService c id payload) <$> decodeOpidPayload
  | 10 => (fun (c, id, payload) => .sendServiceResponse c id payload) <$> decodeOpidPayload
  | 11 => .openAction <$> decodeEndpointOptions
  | 12 => (fun (c, id, payload) => .sendActionGoal c id payload) <$> decodeOpidPayload
  | 13 => decodeCancelAction
  | 14 => (fun (c, id, payload) => .sendActionFeedback c id payload) <$> decodeOpidPayload
  | 15 => (fun (c, id, payload) => .sendActionResult c id payload) <$> decodeOpidPayload
  | 16 => (fun (c, id, payload) => .sendActionStatus c id payload) <$> decodeOpidPayload
  | 17 => decodeSendPointCloud2
  | 18 => decodeSendGenerated
  | _ => fail .badKind

/-! ## Events -/

/-- **Where the bytes of a message are** that the batch names by buffer, pointer and length: the
answer to the request of the event at a place of the batch. -/
abbrev ResolveWs := ℕ → (bufferId ptr len : UInt32) → Except BatchError (List UInt8)

def decodeWsBytes (inlineWs : Bool) (resolveWs : ResolveWs) (i : ℕ) :
    Scan BatchError HostEvent := do
  need 12
  let bufferId ← numberAt 4 0
  let ptr ← numberAt 4 4
  let len ← numberAt 4 8
  advance 12
  let payload ←
    if inlineWs then readBytes (UInt32.ofNat len).toNat
    else lift (resolveWs i (UInt32.ofNat bufferId) (UInt32.ofNat ptr) (UInt32.ofNat len))
  pure (.wsBytes (UInt32.ofNat bufferId) payload)

def decodeTimer : Scan BatchError HostEvent := do
  need 8
  let nowMs ← readU64
  pure (.timer nowMs)

def decodeCommandEvent : Scan BatchError HostEvent := do
  need 4
  let cmd ← byteAt 0
  advance 4
  let command ← decodeCommand cmd
  pure (.command command)

def decodeRelease : Scan BatchError HostEvent := do
  need 4
  let leaseId ← readU32
  pure (.releaseLease leaseId)

/-- The event at a place of the batch. -/
def decodeEvent (inlineWs : Bool) (resolveWs : ResolveWs) (i : ℕ) : Scan BatchError HostEvent := do
  need 4
  let kind ← byteAt 0
  advance 4
  match kind with
  | 1 => decodeWsBytes inlineWs resolveWs i
  | 2 => decodeTimer
  | 3 => decodeCommandEvent
  | 4 => decodeRelease
  | _ => fail .badKind

end Batch

open Batch

/-- **The host's events off a batch** (`decode_host_batch`). -/
def decodeHostBatch (resolveWs : ResolveWs) : Scan BatchError (List HostEvent) := do
  need 12
  let magic ← numberAt 4 0
  if magic ≠ batchMagic then
    fail .badMagic
  else
    let version ← numberAt 2 4
    if version ≠ batchLayoutVersion then
      fail .badVersion
    else
      let flags ← numberAt 2 6
      let count ← numberAt 4 8
      advance 12
      reserve count 8
      repeated (decodeEvent (flags &&& flagInlineWsBytes != 0) resolveWs) 0 count

end Host
end Rclweb
