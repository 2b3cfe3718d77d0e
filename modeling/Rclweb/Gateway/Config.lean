import Rclweb.Session.Channel

/-!
# Gateway configuration, authentication and access control

What a gateway process is configured with, how it decides on an Authenticate, and how an
access policy decides on an OpenChannel.  Decoding and checking a JSON web token is the
business of a library the gateway links; here it is the record `JwtLibrary`.
-/

namespace Rclweb
namespace Gateway

/-- **The six adapter rows** a gateway process can be bound to. -/
inductive SupportRow where
  | jFt
  | jCy
  | jZn
  | hFt
  | hCy
  | hZn
  deriving DecidableEq, Repr

namespace SupportRow

def id : SupportRow → String
  | jFt => "J-FT"
  | jCy => "J-CY"
  | jZn => "J-ZN"
  | hFt => "H-FT"
  | hCy => "H-CY"
  | hZn => "H-ZN"

def rosDistro : SupportRow → String
  | jFt | jCy | jZn => "jazzy"
  | hFt | hCy | hZn => "humble"

def rmwIdentifier : SupportRow → String
  | jFt | hFt => "rmw_fastrtps_cpp"
  | jCy | hCy => "rmw_cyclonedds_cpp"
  | jZn | hZn => "rmw_zenoh_cpp"

/-- `id.starts_with('H')`. -/
def isHumble : SupportRow → Bool
  | hFt | hCy | hZn => true
  | _ => false

def schemaScheme (row : SupportRow) : String :=
  if row.isHumble then "rclweb-schema-v1" else "rep2011-rihs"

end SupportRow

/-- Which transport carries the session. -/
inductive ActiveTransport where
  | binaryWebSocket
  | webTransportHttp3
  deriving DecidableEq, Repr

/-! ## Access control -/

/-- Operation kinds in policy vocabulary. -/
inductive AclOperation where
  | subscribe
  | publish
  | serviceClient
  | serviceServer
  | actionClient
  | actionServer
  deriving DecidableEq, Repr

def AclOperation.fromKind : OperationKind → AclOperation
  | .topicSubscribe => subscribe
  | .topicPublish => publish
  | .serviceClient => serviceClient
  | .serviceServer => serviceServer
  | .actionClient => actionClient
  | .actionServer => actionServer

inductive AclMode where
  | off
  | enforce
  deriving DecidableEq, Repr

/-- One allow rule: every listed dimension has to match. -/
structure AclRule where
  subjects : List String
  operations : List AclOperation
  names : List String
  deriving DecidableEq, Repr

structure AclPolicy where
  revision : Option String
  rules : List AclRule
  deriving DecidableEq, Repr

/-- A name ending in `*` is a prefix glob. -/
def nameMatches (pattern name : String) : Bool :=
  if pattern = "*" then true
  else if pattern.toList.getLast? = some '*' then
    pattern.toList.dropLast.isPrefixOf name.toList
  else pattern == name

namespace AclRule

/-- Whether a rule admits a subject to an operation on a name. -/
def admits (rule : AclRule) (subject : String) (operation : AclOperation) (name : String) : Bool :=
  rule.operations.contains operation &&
    rule.subjects.any (fun s => s == "*" || s == subject) &&
    rule.names.any fun pattern => nameMatches pattern name

end AclRule

/-- **Default-deny evaluation**: some rule must match. -/
def AclPolicy.allow (policy : AclPolicy) (subject : String) (operation : AclOperation)
    (name : String) : Bool :=
  policy.rules.any fun rule => rule.admits subject operation name

/-! ## Authentication -/

/-- What the gateway reads of a token header. -/
structure JwtHeader where
  alg : String
  kid : Option String
  deriving DecidableEq, Repr

/-- **Token decoding**, with the keys and key sets of the library. -/
structure JwtLibrary where
  Key : Type
  Jwk : Type
  decodeHeader : String → Option JwtHeader
  fromSecret : List UInt8 → Key
  fromJwk : Jwk → Option Key
  /-- The subject of a token that is valid under a key, an issuer and an audience. -/
  decode : (token : String) → Key → (alg issuer audience : String) → Option String

structure OidcSettings (jwt : JwtLibrary) where
  issuer : String
  audience : String
  hsSecret : Option (List UInt8)
  /-- The key set, searched by key id. -/
  jwks : Option (String → Option jwt.Jwk)

inductive AuthMode where
  | off
  | oidc
  deriving DecidableEq, Repr

/-- **What a gateway process is configured with.** -/
structure GatewayConfig (jwt : JwtLibrary) where
  gatewayInstanceId : String
  supportRow : SupportRow
  domainId : UInt8
  policyRevision : String
  adapterAbiVersion : String
  maxChannels : UInt32
  maxSessionBytes : UInt64
  maxMessageBytes : UInt32
  maxControlPayloadBytes : UInt32
  sampleQueueDepth : UInt64
  sampleQueueMaxBytes : UInt64
  offerWebtransport : Bool
  authMode : AuthMode
  oidc : Option (OidcSettings jwt)
  aclMode : AclMode
  acl : Option AclPolicy

/-- The outcome of one Authenticate. -/
structure AuthResult where
  allow : Bool
  subject : String
  reason : String
  deriving DecidableEq, Repr

def authenticationFailed : UInt8 := 26
def permissionDenied : UInt8 := 12
def anonymousSubject : String := "anonymous"

variable {jwt : JwtLibrary}

def AuthResult.deny (reason : String) : AuthResult := ⟨false, "", reason⟩

def decodingKey (settings : OidcSettings jwt) (header : JwtHeader) : Option jwt.Key :=
  if header.alg = "HS256" then settings.hsSecret.map jwt.fromSecret
  else do
    let jwks ← settings.jwks
    let kid ← header.kid
    let jwk ← jwks kid
    jwt.fromJwk jwk

def verifyJwt (settings : OidcSettings jwt) (token : List UInt8) : AuthResult :=
  match BigEndian.ofUtf8? token with
  | none => .deny "token_not_utf8"
  | some token =>
    match jwt.decodeHeader token with
    | none => .deny "jwt_header"
    | some header =>
      match decodingKey settings header with
      | none => .deny "jwt_key"
      | some key =>
        match jwt.decode token key header.alg settings.issuer settings.audience with
        | some subject => ⟨true, subject, "oidc_ok"⟩
        | none => .deny "jwt_invalid"

/-- **Evaluate an Authenticate**: its token is not looked at when authentication is off. -/
def authenticate (config : GatewayConfig jwt) (token : List UInt8) : AuthResult :=
  match config.authMode with
  | .off => ⟨true, anonymousSubject, "auth_off"⟩
  | .oidc =>
    match config.oidc with
    | some settings => verifyJwt settings token
    | none => .deny "oidc_not_configured"

/-- Whether the access policy admits an OpenChannel. -/
def aclAdmits (config : GatewayConfig jwt) (subject : String) (kind : OperationKind)
    (topic : String) : Bool :=
  match config.aclMode with
  | .off => true
  | .enforce => config.acl.any fun policy => policy.allow subject (.fromKind kind) topic

end Gateway
end Rclweb
