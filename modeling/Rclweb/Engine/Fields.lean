import Rclweb.Engine.Types

/-!
# Reading control messages

What the engine reads out of an accepted control message for the host: single fields, the
body of a refused channel, and the graph as JSON text.
-/

namespace Rclweb
namespace Engine

/-- The fields of a control message. -/
abbrev Fields := List (UInt64 × CborValue)

def fieldUint (fields : Fields) (key : UInt64) : Option UInt64 :=
  match fields.lookup key with
  | some (.unsigned v) => some v
  | _ => none

def fieldText (fields : Fields) (key : UInt64) : Option String :=
  match fields.lookup key with
  | some (.text t) => some t
  | _ => none

/-- An unsigned value that fits a byte. -/
def asU8 : CborValue → Option UInt8
  | .unsigned v => if v ≤ 255 then some v.toUInt8 else none
  | _ => none

/-- The first served domain. -/
def fieldDomain (fields : Fields) : Option UInt8 :=
  match fields.lookup 10 with
  | some (.array items) => items.head?.bind asU8
  | some v => asU8 v
  | none => none

def fieldEffectiveReliability (fields : Fields) : Option UInt8 :=
  match fields.lookup 57 with
  | some (.map entries) => entries.findSome? fun e => if e.1 = 1 then asU8 e.2 else none
  | _ => none

/-- Code and message of a refused channel, with their defaults; a later entry wins. -/
def channelReadyErrorBody (fields : Fields) : UInt8 × String :=
  match fields.lookup 15 with
  | some (.map entries) =>
    entries.foldl (fun body e =>
      if e.1 = 48 then ((asU8 e.2).getD body.1, body.2)
      else if e.1 = 51 then
        match e.2 with
        | .text t => (body.1, t)
        | _ => body
      else body) (3, "channel_ready_failed")
  | _ => (3, "channel_ready_failed")

/-- The first OPERATION_ID extension, when its value has 16 bytes. -/
def frameOperationId (frame : DecodedFrame) : Option (List UInt8) :=
  match frame.extensions.find? (·.typeId == Extension.operationIdExtensionType) with
  | some ext => if ext.value.length ≠ 16 then none else some ext.value
  | none => none

/-! ## The graph as JSON -/

def hexDigit (n : ℕ) : Char := "0123456789abcdef".toList.getD n '0'

def hexEncode (bytes : List UInt8) : String :=
  String.ofList (bytes.flatMap fun b => [hexDigit (b.toNat / 16), hexDigit (b.toNat % 16)])

/-- `char::is_control`: the general category Cc. -/
def isControl (c : Char) : Bool := c.toNat < 0x20 || (0x7f ≤ c.toNat && c.toNat < 0xa0)

/-- The four hex digits after a backslash and a `u`. -/
def hex4 (n : ℕ) : List Char :=
  [hexDigit (n / 4096 % 16), hexDigit (n / 256 % 16), hexDigit (n / 16 % 16), hexDigit (n % 16)]

def jsonEscapeChar (c : Char) : List Char :=
  if c = '"' then ['\\', '"']
  else if c = '\\' then ['\\', '\\']
  else if c = '\n' then ['\\', 'n']
  else if c = '\r' then ['\\', 'r']
  else if c = '\t' then ['\\', 't']
  else if isControl c then ['\\', 'u'] ++ hex4 c.toNat
  else [c]

def jsonEscape (s : String) : String := String.ofList (s.toList.flatMap jsonEscapeChar)

def mapFieldText (entries : Fields) (key : UInt64) : String :=
  match entries.lookup key with
  | some (.text t) => t
  | _ => ""

def mapFieldHex (entries : Fields) (key : UInt64) : String :=
  match entries.lookup key with
  | some (.bytes b) => hexEncode b
  | _ => ""

def mapFieldUint (entries : Fields) (key : UInt64) : UInt64 :=
  match entries.lookup key with
  | some (.unsigned n) => n
  | _ => 0

/-- A JSON string member. -/
def jsonMember (key value : String) : String := "\"" ++ key ++ "\":\"" ++ value ++ "\""

/-- A JSON number member. -/
def jsonNumber (key : String) (value : UInt64) : String := "\"" ++ key ++ "\":" ++ toString value

def jsonObject (members : List String) : String :=
  "\x7b" ++ String.intercalate "," members ++ "\x7d"

def nodeJson : CborValue → String
  | .map entries => jsonObject [jsonMember "id" (mapFieldHex entries 55),
      jsonMember "name" (jsonEscape (mapFieldText entries 1)),
      jsonNumber "domain_id" (mapFieldUint entries 9)]
  | _ => jsonObject []

def endpointJson : CborValue → String
  | .map entries => jsonObject [jsonMember "id" (mapFieldHex entries 56),
      jsonMember "node_id" (mapFieldHex entries 55),
      jsonMember "name" (jsonEscape (mapFieldText entries 1)),
      jsonNumber "kind" (mapFieldUint entries 2),
      jsonMember "type_name" (jsonEscape (mapFieldText entries 3)),
      jsonNumber "domain_id" (mapFieldUint entries 9)]
  | _ => jsonObject []

/-- The array under a key, each item written by `write`. -/
def graphJson (fields : Fields) (key : UInt64) (write : CborValue → String) : String :=
  match fields.lookup key with
  | some (.array items) => "[" ++ String.intercalate "," (items.map write) ++ "]"
  | _ => "[]"

def graphNodesJson (fields : Fields) : String := graphJson fields 22 nodeJson

def graphEndpointsJson (fields : Fields) : String := graphJson fields 23 endpointJson

end Engine
end Rclweb
