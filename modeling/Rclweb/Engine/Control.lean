import Rclweb.Engine.Types

/-!
# Control messages of the client

The maps the engine sends: authentication, the three forms of OpenChannel, CloseChannel and
heartbeats.
-/

namespace Rclweb
namespace Engine

/-- Demo schema hash for types outside the corpus on Jazzy rows. -/
def demoSchemaHash : String :=
  "RIHS01_aaaaaaaaaaaaaaaaaaaaaaaaaaaaaaaaaaaaaaaaaaaaaaaaaaaaaaaaaaaaaaaa"

/-- Demo value for types outside the corpus on Humble rows. -/
def demoBundleHash : String :=
  "aaaaaaaaaaaaaaaaaaaaaaaaaaaaaaaaaaaaaaaaaaaaaaaaaaaaaaaaaaaaaaaa"

def schemeRep2011Rihs : String := "rep2011-rihs"
def schemeRclwebSchemaV1 : String := "rclweb-schema-v1"

def zeroCorrelation : ByteArrayOf 16 := ⟨List.replicate 16 0, List.length_replicate⟩

/-- `starts_with('H')`. -/
def isHumbleRow (supportRowId : String) : Bool := supportRowId.toList.head? == some 'H'

def schemaSchemeForSupportRow (supportRowId : String) : String :=
  if isHumbleRow supportRowId then schemeRclwebSchemaV1 else schemeRep2011Rihs

def resolveOpenSchemaIdentity (lib : Library) (typeName supportRowId : String) :
    String × String :=
  match lib.schemaIdentityForType typeName (schemaSchemeForSupportRow supportRowId) with
  | some identity => identity
  | none =>
    if isHumbleRow supportRowId then (schemeRclwebSchemaV1, demoBundleHash)
    else (schemeRep2011Rihs, demoSchemaHash)

def authenticate (correlation : ByteArrayOf 16) (scheme : String) (token : List UInt8) :
    CborValue :=
  .map [(1, .unsigned 1), (2, .bytes correlation.1), (16, .text scheme), (17, .bytes token)]

def defaultQosDepth : UInt32 := 5

/-- The reliability a topic command asks for, last `depth` samples, all else default. -/
def keepLastQos (reliability depth : UInt64) : CborValue :=
  .map [(1, .unsigned reliability), (2, .unsigned 0), (3, .unsigned 1), (4, .unsigned depth)]

/-- The body the three forms of OpenChannel share. -/
def openChannel (lib : Library) (correlation : ByteArrayOf 16) (channelId : UInt32)
    (operationKind : UInt64) (name typeName : String) (qos : UInt64 × CborValue)
    (domainId : UInt8) (supportRowId : String) : CborValue :=
  let (scheme, value) := resolveOpenSchemaIdentity lib typeName supportRowId
  .map [
    (1, .unsigned 8), (2, .bytes correlation.1), (29, .unsigned channelId.toUInt64),
    (30, .unsigned operationKind), (31, .text name), (4, .text typeName),
    (3, .map [(1, .text scheme), (2, .text value)]), (5, .unsigned 1), (6, .unsigned 0), qos,
    (32, .unsigned 2), (12, .map []), (9, .unsigned domainId.toUInt64), (8, .text supportRowId)]

def openTopic (lib : Library) (correlation : ByteArrayOf 16) (channelId : UInt32)
    (operationKind : UInt64) (topic typeName : String) (qosReliability : UInt64)
    (qosDepth : UInt32) (domainId : UInt8) (supportRowId : String) : CborValue :=
  openChannel lib correlation channelId operationKind topic typeName
    (11, keepLastQos qosReliability (max qosDepth 1).toUInt64) domainId supportRowId

def openService (lib : Library) (options : EndpointOptions) (supportRowId : String) : CborValue :=
  openTopic lib options.correlation options.channelId (if options.client then 2 else 3)
    options.name options.typeName 1 defaultQosDepth options.domainId supportRowId

/-- Five profiles, each reliable and keep-last. -/
def actionQos : CborValue :=
  let qos := keepLastQos 1 defaultQosDepth.toUInt64
  .map [(1, qos), (2, qos), (3, qos), (4, qos), (5, qos)]

def openAction (lib : Library) (options : EndpointOptions) (supportRowId : String) : CborValue :=
  openChannel lib options.correlation options.channelId (if options.client then 4 else 5)
    options.name options.typeName (58, actionQos) options.domainId supportRowId

def closeChannel (correlation : ByteArrayOf 16) (channelId : UInt32) : CborValue :=
  .map [(1, .unsigned 10), (2, .bytes correlation.1), (29, .unsigned channelId.toUInt64),
    (34, .unsigned 1)]

def heartbeat (counter : UInt64) : CborValue :=
  .map [(1, .unsigned 12), (2, .bytes zeroCorrelation.1), (40, .unsigned counter)]

end Engine
end Rclweb
