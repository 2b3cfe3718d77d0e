import Rclweb.Protocol.Error
import Rclweb.Protocol.Schema

/-!
# Control messages

The fifteen assigned control kinds, the closed shape of each, and the decoder of a
`CONTROL_CBOR` payload.  A `ControlMessage` keeps the validated fields in ascending key
order, as the source's ordered map does.
-/

namespace Rclweb

/-- **A validated control message**: its kind and its closed field map. -/
structure ControlMessage where
  kind : UInt8
  fields : List (UInt64 × CborValue)
  deriving Repr, Inhabited

namespace ControlMessage

/-- The value of one field. -/
def get (msg : ControlMessage) (key : UInt64) : Option CborValue := msg.fields.lookup key

end ControlMessage

namespace Control

/-- Fixed v0 contract: `absolute_limits.control_payload_max_bytes`. -/
def controlPayloadMaxBytes : ℕ := 1048576

def kindAuthenticate : UInt8 := 1
def kindSessionReady : UInt8 := 2
def kindGraphSnapshot : UInt8 := 3
def kindGraphDelta : UInt8 := 4
def kindSchemaRequest : UInt8 := 5
def kindSchemaAdvertise : UInt8 := 6
def kindSchemaResponse : UInt8 := 7
def kindOpenChannel : UInt8 := 8
def kindChannelReady : UInt8 := 9
def kindCloseChannel : UInt8 := 10
def kindClockSync : UInt8 := 11
def kindHeartbeat : UInt8 := 12
def kindSessionResume : UInt8 := 13
def kindSessionResumeResult : UInt8 := 14
def kindError : UInt8 := 15

def domainIdMax : ℕ := 232
def domainIdsMax : ℕ := 233
def capIdMax : ℕ := 65535
def capIdsMax : ℕ := 64
def graphNodesMax : ℕ := 65535
def graphEndpointsMax : ℕ := 65535
def graphDeltaOpsMax : ℕ := 1024
def sourceBundleMax : ℕ := 4096
def aliveChannelsMax : ℕ := 65535
def channelAcksMax : ℕ := 65535
def channelResultsMax : ℕ := 65535
def credMax : ℕ := 65535
def descMax : ℕ := 1048576
def contentMax : ℕ := 1048576

def appChannelId : Schema := u 1 uint32Max
def domainId : Schema := u 0 domainIdMax
def capabilityId : Schema := u 1 capIdMax
def text4k : Schema := text 0 utf8TextMax
def textNonempty : Schema := text 1 utf8TextMax
def bytes16 : Schema := bytes 16 16
def bytes32 : Schema := bytes 32 32
def bytesCred : Schema := bytes 1 credMax
def bytesDesc : Schema := bytes 1 descMax
def bytesContent : Schema := bytes 0 contentMax
def wireErrorCode : Schema := u 1 28
def retryClass : Schema := u 0 3
def closeReason : Schema := u 1 6
def priorityId : Schema := u 0 4
def clockId : Schema := u 0 4
def supportRowId : Schema := textOneOf ["H-FT", "H-CY", "H-ZN", "J-FT", "J-CY", "J-ZN"]
def rosDistro : Schema := textOneOf ["humble", "jazzy"]
def rmwIdentifier : Schema :=
  textOneOf ["rmw_fastrtps_cpp", "rmw_cyclonedds_cpp", "rmw_zenoh_cpp"]
def payloadEncodingCdr : Schema := u 1 2
def sourceEntryEncoding : Schema := u 1 5

def budgets : Schema := map [
  (1, opt uint32), (2, opt uint64), (3, opt uint32), (4, opt uint64), (5, opt uint32),
  (6, opt uint64)]

/-- The error body of a response, whose scope is fixed by where it stands. -/
def errorBody (scope : ℕ) : Schema := map [
  (48, req wireErrorCode), (49, req (.constU64 scope)), (50, opt retryClass),
  (51, opt text4k), (52, opt text4k)]

def errorBodySession : Schema := errorBody 0
def errorBodyChannel : Schema := errorBody 1

def transportCaps : Schema := map [(1, req .bool), (2, req .bool), (3, opt uint32)]
def bufferCaps : Schema := map [(1, req .bool), (2, req .bool)]
def capabilityIdList : Schema := arr 0 capIdsMax capabilityId (some .uniqueAscendingUint)

def negotiatedCaps : Schema := map [
  (1, req transportCaps), (2, req bufferCaps), (3, req capabilityIdList)]

def sourceBundleEntry : Schema := map [
  (1, req textNonempty), (2, req sourceEntryEncoding), (3, req bytesContent)]

def graphNode : Schema := map [
  (55, req bytes16), (1, req textNonempty), (2, opt text4k), (9, req domainId)]

def graphEndpoint : Schema := .union [
  map [
    (56, req bytes16), (55, req bytes16), (1, req textNonempty), (2, req (u 0 3)),
    (3, req textNonempty), (4, req .identity), (5, req payloadEncodingCdr), (6, req uint64),
    (7, req .qos), (9, req domainId), (8, opt supportRowId)],
  map [
    (56, req bytes16), (55, req bytes16), (1, req textNonempty), (2, req (oneOf 4 5)),
    (3, req textNonempty), (4, req .identity), (5, req payloadEncodingCdr), (6, req uint64),
    (58, req .actionQos), (9, req domainId), (8, opt supportRowId)]]

def graphDeltaOp : Schema := .union [
  map [(1, req (.constU64 0)), (2, req graphNode)],
  map [(1, req (.constU64 1)), (55, req bytes16)],
  map [(1, req (.constU64 2)), (3, req graphEndpoint)],
  map [(1, req (.constU64 3)), (56, req bytes16)]]

def channelAck : Schema := map [(1, req appChannelId), (2, req uint64)]

def channelResumeResult : Schema := .union [
  map [(1, req appChannelId), (2, req (.constU64 0)), (3, req uint64)],
  map [(1, req appChannelId), (2, req (.constU64 1)), (3, req (.constU64 0))],
  map [(1, req appChannelId), (2, req (.constU64 1))],
  map [(1, req appChannelId), (2, req (.constU64 2))],
  map [(1, req appChannelId), (2, req (.constU64 3)), (15, req errorBodyChannel)]]

/-! ## The shape of each kind -/

def authenticateSchema : Schema := map [
  (1, req (.constU64 1)), (2, req bytes16), (16, req textNonempty), (17, req bytesCred)]

def sessionReadySchema : Schema := map [
  (1, req (.constU64 2)), (2, req bytes16), (7, req textNonempty), (8, req supportRowId),
  (10, req (arr 1 domainIdsMax domainId (some .uniqueAscendingUint))),
  (13, req textNonempty), (12, req budgets), (18, req rosDistro), (19, req rmwIdentifier),
  (20, req textNonempty), (21, req textNonempty), (53, req bytes32), (54, req negotiatedCaps)]

def graphSnapshotSchema : Schema := map [
  (1, req (.constU64 3)), (2, req bytes16), (14, req uint64), (7, req textNonempty),
  (8, req supportRowId), (22, req (arr 0 graphNodesMax graphNode (some .graphNodesSorted))),
  (23, req (arr 0 graphEndpointsMax graphEndpoint (some .graphEndpointsSorted)))]

def graphDeltaSchema : Schema := map [
  (1, req (.constU64 4)), (2, req bytes16), (14, req uint64), (24, req uint64),
  (7, req textNonempty), (8, req supportRowId),
  (25, req (arr 1 graphDeltaOpsMax graphDeltaOp none))]

def schemaRequestSchema : Schema := map [
  (1, req (.constU64 5)), (2, req bytes16), (4, req textNonempty), (3, req .identity)]

/-- The body `SchemaAdvertise` and a successful `SchemaResponse` share. -/
def schemaDescription (kind : ℕ) : Schema := map [
  (1, req (.constU64 kind)), (2, req bytes16), (4, req textNonempty), (3, req .identity),
  (5, req payloadEncodingCdr), (6, req uint64), (26, req bytesDesc),
  (27, opt (arr 0 sourceBundleMax sourceBundleEntry none)), (28, opt uint64),
  (8, opt supportRowId)]

def schemaResponseSchema : Schema := .union [
  schemaDescription 7,
  map [
    (1, req (.constU64 7)), (2, req bytes16), (4, req textNonempty), (3, req .identity),
    (15, req errorBodySession)]]

/-- OpenChannel of a ROS operation, with the field its quality of service stands under. -/
def openRos (kinds : Schema) (qosKey : UInt64) (qosShape : Schema) : Schema := map [
  (1, req (.constU64 8)), (2, req bytes16), (29, req appChannelId), (30, req kinds),
  (31, req textNonempty), (4, req textNonempty), (3, req .identity),
  (5, req payloadEncodingCdr), (6, req uint64), (qosKey, req qosShape), (32, req priorityId),
  (12, req budgets), (9, req domainId), (8, req supportRowId)]

def openTopic : Schema := openRos (oneOf 0 1) 11 .qos
def openService : Schema := openRos (oneOf 2 3) 11 .qos
def openAction : Schema := openRos (oneOf 4 5) 58 .actionQos

def openMedia : Schema := map [
  (1, req (.constU64 8)), (2, req bytes16), (29, req appChannelId), (30, req (.constU64 6)),
  (31, req textNonempty), (5, req (oneOf 3 4)), (32, req priorityId), (12, req budgets),
  (9, opt domainId), (8, opt supportRowId)]

def openRecording : Schema := map [
  (1, req (.constU64 8)), (2, req bytes16), (29, req appChannelId), (30, req (.constU64 7)),
  (31, req textNonempty), (5, req (oneOf 5 6)), (32, req priorityId), (12, req budgets)]

def openAsset : Schema := map [
  (1, req (.constU64 8)), (2, req bytes16), (29, req appChannelId), (30, req (.constU64 8)),
  (31, req textNonempty), (5, req (.constU64 6)), (32, req priorityId), (12, req budgets)]

def openChannelSchema : Schema :=
  .union [openTopic, openService, openAction, openMedia, openRecording, openAsset]

/-- A successful ChannelReady; `qosField` is its effective quality of service, if any. -/
def channelReadySuccess (qosField : List (UInt64 × Bool × Schema)) : Schema := map ([
  (1, req (.constU64 9)), (2, req bytes16), (29, req appChannelId), (33, req (oneOf 0 2)),
  (12, req budgets), (59, req priorityId)] ++ qosField ++ [
  (6, opt uint64), (14, opt uint64), (9, opt domainId), (8, opt supportRowId)])

def channelReadyFailure : Schema := map [
  (1, req (.constU64 9)), (2, req bytes16), (29, req appChannelId), (33, req (oneOf 1 3)),
  (15, req errorBodyChannel)]

def channelReadySchema : Schema := .union [
  channelReadySuccess [(57, req .effectiveQos)],
  channelReadySuccess [(60, req .effectiveServiceQos)],
  channelReadySuccess [(58, req .effectiveActionQos)],
  channelReadySuccess [],
  channelReadyFailure]

def closeChannelSchema : Schema := map [
  (1, req (.constU64 10)), (2, req bytes16), (29, req appChannelId), (34, req closeReason),
  (35, opt uint64)]

def clockSyncSchema : Schema := map [
  (1, req (.constU64 11)), (2, req bytes16), (36, req clockId), (37, req .int64),
  (38, opt uint64), (39, opt .int64)]

def heartbeatSchema : Schema := map [
  (1, req (.constU64 12)), (2, req bytes16), (40, req uint64),
  (41, opt (arr 0 aliveChannelsMax appChannelId (some .uniqueAscendingUint)))]

def sessionResumeSchema : Schema := map [
  (1, req (.constU64 13)), (2, req bytes16), (42, req bytes32), (43, req (.constU64 0)),
  (44, req negotiatedCaps), (7, req textNonempty), (8, req supportRowId), (14, req uint64),
  (6, req uint64), (13, req textNonempty),
  (45, req (arr 0 channelAcksMax channelAck (some .uniqueAscendingChannelId))),
  (16, req textNonempty), (17, req bytesCred)]

def sessionResumeResultSchema : Schema := .union [
  map [
    (1, req (.constU64 14)), (2, req bytes16), (46, req (.constBool true)),
    (47, req (arr 0 channelResultsMax channelResumeResult (some .uniqueAscendingChannelId)))],
  map [
    (1, req (.constU64 14)), (2, req bytes16), (46, req (.constBool false)),
    (15, req errorBodySession)]]

/-- The flat Error of one scope; the channel and operation scopes name a channel. -/
def errorOfScope (scope : ℕ) (channel : List (UInt64 × Bool × Schema)) : Schema := map ([
  (1, req (.constU64 15)), (2, req bytes16), (48, req wireErrorCode),
  (49, req (.constU64 scope))] ++ channel ++ [
  (50, opt retryClass), (51, opt text4k), (52, opt text4k)])

def errorSchema : Schema := .union [
  errorOfScope 0 [],
  errorOfScope 1 [(29, req appChannelId)],
  errorOfScope 2 [(29, req appChannelId)],
  errorOfScope 3 []]

def kindSchema (kind : UInt8) : Option Schema :=
  match kind.toNat with
  | 1 => some authenticateSchema
  | 2 => some sessionReadySchema
  | 3 => some graphSnapshotSchema
  | 4 => some graphDeltaSchema
  | 5 => some schemaRequestSchema
  | 6 => some (schemaDescription 6)
  | 7 => some schemaResponseSchema
  | 8 => some openChannelSchema
  | 9 => some channelReadySchema
  | 10 => some closeChannelSchema
  | 11 => some clockSyncSchema
  | 12 => some heartbeatSchema
  | 13 => some sessionResumeSchema
  | 14 => some sessionResumeResultSchema
  | 15 => some errorSchema
  | _ => none

/-! ## Whole messages -/

/-- The distribution and middleware a support row stands for. -/
def supportRowTriple (row : String) : Option (String × String) :=
  [("H-FT", "humble", "rmw_fastrtps_cpp"), ("H-CY", "humble", "rmw_cyclonedds_cpp"),
    ("H-ZN", "humble", "rmw_zenoh_cpp"), ("J-FT", "jazzy", "rmw_fastrtps_cpp"),
    ("J-CY", "jazzy", "rmw_cyclonedds_cpp"), ("J-ZN", "jazzy", "rmw_zenoh_cpp")].lookup row

def textField (fields : List (UInt64 × CborValue)) (key : UInt64) :
    Except ControlError String :=
  match fields.lookup key with
  | some (.text t) => .ok t
  | _ => .error (fail "wrong_type")

def assertSessionReadyTriple (fields : List (UInt64 × CborValue)) : Except ControlError Unit := do
  let row ← textField fields 8
  let distro ← textField fields 18
  let rmw ← textField fields 19
  match supportRowTriple row with
  | none => .error (fail "enum_violation")
  | some (expDistro, expRmw) =>
    if distro ≠ expDistro ∨ rmw ≠ expRmw then .error (fail "support_row_mismatch") else .ok ()

/-- OpenChannel is checked against the variant its operation kind selects. -/
def validateOpenChannel (value : CborValue) : Except ControlError CborValue := do
  let raw ← mapFromValue value
  let clsV ← getOr raw 30 "missing_key"
  let cls ← asUint clsV 0 8
  match cls with
  | 0 | 1 => validateSchema openTopic value
  | 2 | 3 => validateSchema openService value
  | 4 | 5 => validateSchema openAction value
  | 6 => validateSchema openMedia value
  | 7 => validateSchema openRecording value
  | 8 => validateSchema openAsset value
  | _ => .error (fail "enum_violation")

/-- The shape check of a message of a kind. -/
def validateKind (kind : UInt8) (schema : Schema) (value : CborValue) :
    Except ControlError CborValue :=
  if kind = kindOpenChannel then validateOpenChannel value else validateSchema schema value

/-- **Validate a decoded map as a control message.** -/
def validateControlMessage (value : CborValue) : Except ControlError ControlMessage := do
  let raw ← mapFromValue value
  let kindV ← getOr raw 1 "missing_key"
  let kind := UInt8.ofNat (← asUint kindV 0 255)
  match kindSchema kind with
  | none => .error (fail "unassigned_kind")
  | some schema =>
    let validated ← validateKind kind schema value
    match validated with
    | .map fields => do
      if kind = kindSessionReady then assertSessionReadyTriple fields
      return ⟨kind, fields⟩
    | _ => .error (fail "wrong_type")

/-- **Decode and fully validate a control payload.** -/
def decodeControlMessage (bytes : List UInt8) : Except ControlError ControlMessage :=
  if bytes.length > controlPayloadMaxBytes then .error ⟨"payload_too_large", 0⟩
  else
    match Cbor.decodeDeterministicCbor bytes with
    | .error e => .error ⟨"cbor_profile", e.offset⟩
    | .ok decoded => validateControlMessage decoded

/-- A control error on the selected-frame surface. -/
def mapControlError (err : ControlError) (payloadBase : ℕ) : ProtocolError :=
  if err.reason = "payload_too_large" then
    .messageTooLargeFrame "control_payload_too_large" 24 3
  else .invalidControl "invalid_control" (payloadBase + err.offset) 16

end Control
end Rclweb
