import Mathlib.Data.Prod.Lex
import Mathlib.Data.String.Basic
import Rclweb.Engine.Fields
import Rclweb.Library.Catalogue
import Rclweb.Library.TextDecoder
import Rclweb.Protocol.Error
import Rclweb.Protocol.Schema

/-!
# The schema registry

A schema is identified by a scheme and a value: the hash of a bundle, or the hash REP-2011
prescribes.  A key adds the type, the encoding and a generation; `validateSchemeValue_ok_iff`
relates the checks on it to the check the wire makes on an OpenChannel.

A builder registers descriptors, identities, wire profiles and provenance, each in a catalogue of
its own; frozen, it is looked up before a channel opens.  An identity names a descriptor, so that
its descriptor is registered before it.  The embedded metadata is read here from the rows of its
four files.
-/

namespace Rclweb
namespace Registry

open Control (identityOk isLowerHex)

/-! ## Faults -/

inductive SchemaErrorCode where
  | invalidSchemaKey
  | schemaUnavailable
  | schemaConflict
  | schemaBoundsExceeded
  | schemaInputInvalid
  | schemaGenerationDrift
  deriving DecidableEq, Repr

namespace SchemaErrorCode

def asStr : SchemaErrorCode → String
  | invalidSchemaKey => "invalid_schema_key"
  | schemaUnavailable => "schema_unavailable"
  | schemaConflict => "schema_conflict"
  | schemaBoundsExceeded => "schema_bounds_exceeded"
  | schemaInputInvalid => "schema_input_invalid"
  | schemaGenerationDrift => "schema_generation_drift"

/-- The code on the wire of a fault that keeps a channel from opening. -/
def wireErrorCode : SchemaErrorCode → Option UInt8
  | schemaUnavailable => some 10
  | _ => none

end SchemaErrorCode

/-- **A fault of the registry.** -/
structure SchemaError where
  code : SchemaErrorCode
  field : Option String
  message : String
  needed : Option ℕ
  remaining : Option ℕ
  deriving DecidableEq, Repr

namespace SchemaError

def new (code : SchemaErrorCode) (message : String) : SchemaError :=
  ⟨code, none, message, none, none⟩

def withField (e : SchemaError) (field : String) : SchemaError := { e with field := some field }

def withSizes (e : SchemaError) (needed remaining : ℕ) : SchemaError :=
  { e with needed := some needed, remaining := some remaining }

def invalidSchemaKey (message : String) : SchemaError :=
  (new .invalidSchemaKey message).withField "schema_key"

def schemaUnavailable (message : String) : SchemaError := new .schemaUnavailable message

def schemaConflict (message : String) : SchemaError := new .schemaConflict message

def schemaBoundsExceeded (field : String) (needed remaining : ℕ) (message : String) : SchemaError :=
  ((new .schemaBoundsExceeded message).withField field).withSizes needed remaining

def schemaInputInvalid (message : String) : SchemaError := new .schemaInputInvalid message

/-- `to_string`. -/
def display (e : SchemaError) : String :=
  let text := s!"{e.code.asStr}: {e.message}"
  match e.field with
  | some field => s!"{text} ({field})"
  | none => text

end SchemaError

/-! ## Limits -/

def maxRegistryEntries : ℕ := 256
def maxSchemeChars : ℕ := 64
def maxValueChars : ℕ := 128
def maxTypeNameChars : ℕ := 256
def maxSupportRowIdChars : ℕ := 16
def encodingCdr1 : UInt8 := 1
def phase1SchemaGeneration : UInt32 := 1

def schemeRclwebSchemaV1 : String := "rclweb-schema-v1"
def schemeRep2011Rihs : String := "rep2011-rihs"

/-- A text of one character at least and `limit` characters at most. -/
def validateLength (field : String) (limit : ℕ) (s : String) : Except SchemaError Unit :=
  if s = "" ∨ limit < s.length then
    .error ((SchemaError.invalidSchemaKey
      s!"{field} length {s.length} outside 1..={limit}").withField field)
  else .ok ()

def validateTypeNameLen (typeName : String) : Except SchemaError Unit :=
  validateLength "type_name" maxTypeNameChars typeName

def validateSupportRowId (supportRowId : String) : Except SchemaError Unit :=
  validateLength "support_row_id" maxSupportRowIdChars supportRowId

/-! ## Schemes -/

/-- On the UTF-8 bytes of a text. -/
def isLowercaseHex (bytes : List UInt8) : Bool := !bytes.isEmpty && bytes.all isLowerHex

def invalidValue (message : String) : SchemaError :=
  (SchemaError.invalidSchemaKey message).withField "value"

/-- The form of a value under its scheme. -/
def validateForm (scheme value : String) : Except SchemaError Unit :=
  let bytes := BigEndian.utf8 value
  if scheme = schemeRclwebSchemaV1 then
    if bytes.length ≠ 64 ∨ isLowercaseHex bytes = false then
      .error (invalidValue "rclweb-schema-v1 value must be exactly 64 lowercase hex characters")
    else .ok ()
  else if scheme = schemeRep2011Rihs then
    if bytes.take 7 ≠ BigEndian.utf8 "RIHS01_" ∨ bytes.length ≠ 71 ∨
        isLowercaseHex (bytes.drop 7) = false then
      .error (invalidValue "rep2011-rihs value must be RIHS01_ plus 64 lowercase hex characters")
    else .ok ()
  else
    .error ((SchemaError.invalidSchemaKey s!"unsupported scheme `{scheme}`").withField "scheme")

def validateSchemeValue (scheme value : String) : Except SchemaError Unit := do
  validateLength "scheme" maxSchemeChars scheme
  validateLength "value" maxValueChars value
  validateForm scheme value

/-! ## Keys -/

/-- **A registry key.** -/
structure SchemaKey where
  scheme : String
  value : String
  typeName : String
  encoding : UInt8
  schemaGeneration : UInt32
  deriving DecidableEq, Repr

namespace SchemaKey

def validateEncoding (key : SchemaKey) : Except SchemaError Unit :=
  if key.encoding ≠ encodingCdr1 then
    .error ((SchemaError.invalidSchemaKey
      s!"encoding {key.encoding} is not Phase 1 CDR1 ({encodingCdr1})").withField "encoding")
  else .ok ()

def validateGeneration (key : SchemaKey) : Except SchemaError Unit :=
  if key.schemaGeneration ≠ phase1SchemaGeneration then
    .error ((SchemaError.invalidSchemaKey (s!"schema_generation {key.schemaGeneration} is not " ++
      s!"Phase 1 value {phase1SchemaGeneration}")).withField "schema_generation")
  else .ok ()

def validate (key : SchemaKey) : Except SchemaError Unit := do
  validateSchemeValue key.scheme key.value
  validateTypeNameLen key.typeName
  key.validateEncoding
  key.validateGeneration

/-- The key of a type under a scheme, when it passes the checks. -/
def new (scheme value typeName : String) (encoding : UInt8) (schemaGeneration : UInt32) :
    Except SchemaError SchemaKey := do
  let key : SchemaKey := ⟨scheme, value, typeName, encoding, schemaGeneration⟩
  key.validate
  return key

end SchemaKey

/-! ## What passes -/

/-- A check that answers nothing comes first. -/
theorem check_then_ok_iff {α : Type} {check : Except SchemaError Unit}
    {rest : Except SchemaError α} {a : α} :
    (check >>= fun _ => rest) = .ok a ↔ check = .ok () ∧ rest = .ok a := by
  rw [bind_eq_ok]
  constructor
  · rintro ⟨⟨⟩, h⟩
    exact h
  · exact fun h => ⟨(), h⟩

theorem check_then_error_iff {α : Type} {check : Except SchemaError Unit}
    {rest : Except SchemaError α} {e : SchemaError} :
    (check >>= fun _ => rest) = .error e ↔
      check = .error e ∨ (check = .ok () ∧ rest = .error e) := by
  rw [bind_eq_error]
  refine or_congr Iff.rfl ⟨?_, fun h => ⟨(), h⟩⟩
  rintro ⟨⟨⟩, h⟩
  exact h

/-- Checks that fail with one code, one after the other. -/
theorem check_then_code {α : Type} {check : Except SchemaError Unit}
    {rest : Except SchemaError α} {code : SchemaErrorCode}
    (hcheck : ∀ {e}, check = .error e → e.code = code)
    (hrest : ∀ {e}, rest = .error e → e.code = code) {e : SchemaError}
    (h : (check >>= fun _ => rest) = .error e) : e.code = code := by
  rcases check_then_error_iff.mp h with h | ⟨-, h⟩
  · exact hcheck h
  · exact hrest h

theorem validateLength_ok_iff {field s : String} {limit : ℕ} :
    validateLength field limit s = .ok () ↔ s ≠ "" ∧ s.length ≤ limit := by
  unfold validateLength
  split_ifs with h
  · refine iff_of_false (by simp) ?_
    rintro ⟨hne, hle⟩
    exact h.elim hne (not_lt.mpr hle)
  · exact iff_of_true rfl (by rwa [not_or, not_lt] at h)

/-- A text has at least as many bytes as characters. -/
theorem length_le_utf8 (s : String) : s.length ≤ (BigEndian.utf8 s).length := by
  have hchars : ∀ cs : List Char, cs.length ≤ (cs.flatMap String.utf8EncodeChar).length := by
    intro cs
    induction cs with
    | nil => exact le_rfl
    | cons c cs ih =>
      have hpos := c.utf8Size_pos
      rw [List.flatMap_cons, List.length_append, String.length_utf8EncodeChar, List.length_cons]
      omega
  rw [TextDecoder.utf8_eq_flatMap, ← String.length_toList]
  exact hchars s.toList

theorem utf8_length_pos {s : String} (h : 0 < (BigEndian.utf8 s).length) : s ≠ "" := by
  rintro rfl
  exact absurd h (by decide)

theorem isLowercaseHex_of_length {bytes : List UInt8} (h : bytes.length = 64) :
    isLowercaseHex bytes = bytes.all isLowerHex := by
  cases bytes with
  | nil => cases h
  | cons b bytes => rfl

theorem validateForm_ok_iff {scheme value : String} :
    validateForm scheme value = .ok () ↔ identityOk scheme value = true := by
  unfold validateForm identityOk schemeRclwebSchemaV1 schemeRep2011Rihs
  dsimp only
  by_cases hbundle : scheme = "rclweb-schema-v1"
  · subst hbundle
    have hother : "rclweb-schema-v1" ≠ "rep2011-rihs" := by decide
    rw [if_pos rfl, if_neg hother, if_pos rfl]
    by_cases hlength : (BigEndian.utf8 value).length = 64
    · rw [isLowercaseHex_of_length hlength]
      cases hhex : (BigEndian.utf8 value).all isLowerHex <;> simp [hlength]
    · simp [hlength]
  · rw [if_neg hbundle, if_neg hbundle]
    by_cases hrihs : scheme = "rep2011-rihs"
    · rw [if_pos hrihs, if_pos hrihs]
      by_cases hlength : (BigEndian.utf8 value).length = 71
      · have hdrop : ((BigEndian.utf8 value).drop 7).length = 64 := by
          rw [List.length_drop, hlength]
        rw [isLowercaseHex_of_length hdrop]
        cases hhex : ((BigEndian.utf8 value).drop 7).all isLowerHex <;>
          by_cases htake : (BigEndian.utf8 value).take 7 = BigEndian.utf8 "RIHS01_" <;>
          simp [hlength, htake]
      · simp [hlength]
    · simp [hrihs]

theorem identityOk_scheme {scheme value : String} (h : identityOk scheme value = true) :
    (scheme = schemeRclwebSchemaV1 ∧ (BigEndian.utf8 value).length = 64) ∨
      (scheme = schemeRep2011Rihs ∧ (BigEndian.utf8 value).length = 71) := by
  unfold identityOk at h
  dsimp only at h
  split_ifs at h with hrihs hbundle
  · refine .inr ⟨hrihs, ?_⟩
    simp only [Bool.and_eq_true, beq_iff_eq] at h
    exact h.1.1
  · refine .inl ⟨hbundle, ?_⟩
    simp only [Bool.and_eq_true, beq_iff_eq] at h
    exact h.1

/-- **The registry accepts the identities the wire accepts.** -/
theorem validateSchemeValue_ok_iff {scheme value : String} :
    validateSchemeValue scheme value = .ok () ↔ identityOk scheme value = true := by
  rw [validateSchemeValue, check_then_ok_iff, check_then_ok_iff, validateForm_ok_iff,
    validateLength_ok_iff, validateLength_ok_iff, ← and_assoc]
  refine and_iff_right_of_imp fun h => ?_
  have hlength := length_le_utf8 value
  rcases identityOk_scheme h with ⟨rfl, hvalue⟩ | ⟨rfl, hvalue⟩ <;>
    refine ⟨⟨by decide, by decide⟩, utf8_length_pos (by omega), ?_⟩
  · exact le_trans hlength (by rw [hvalue]; decide)
  · exact le_trans hlength (by rw [hvalue]; decide)

/-- What the checks on a key ask for. -/
structure SchemaKey.Valid (key : SchemaKey) : Prop where
  identity : identityOk key.scheme key.value = true
  typeName : key.typeName ≠ "" ∧ key.typeName.length ≤ maxTypeNameChars
  encoding : key.encoding = encodingCdr1
  schemaGeneration : key.schemaGeneration = phase1SchemaGeneration

theorem validate_ok_iff {key : SchemaKey} : key.validate = .ok () ↔ key.Valid := by
  have hencoding : key.validateEncoding = .ok () ↔ key.encoding = encodingCdr1 := by
    unfold SchemaKey.validateEncoding
    by_cases h : key.encoding = encodingCdr1 <;> simp [h]
  have hgeneration : key.validateGeneration = .ok () ↔
      key.schemaGeneration = phase1SchemaGeneration := by
    unfold SchemaKey.validateGeneration
    by_cases h : key.schemaGeneration = phase1SchemaGeneration <;> simp [h]
  rw [SchemaKey.validate, check_then_ok_iff, check_then_ok_iff, check_then_ok_iff,
    validateSchemeValue_ok_iff, validateTypeNameLen, validateLength_ok_iff, hencoding, hgeneration]
  exact ⟨fun h => ⟨h.1, h.2.1, h.2.2.1, h.2.2.2⟩,
    fun h => ⟨h.identity, h.typeName, h.encoding, h.schemaGeneration⟩⟩

/-! ## What is refused -/

theorem validateLength_code {field s : String} {limit : ℕ} {e : SchemaError}
    (h : validateLength field limit s = .error e) : e.code = .invalidSchemaKey := by
  unfold validateLength at h
  split_ifs at h
  cases h
  rfl

theorem validateForm_code {scheme value : String} {e : SchemaError}
    (h : validateForm scheme value = .error e) : e.code = .invalidSchemaKey := by
  unfold validateForm at h
  dsimp only at h
  split_ifs at h <;> cases h <;> rfl

theorem validateSchemeValue_code {scheme value : String} {e : SchemaError}
    (h : validateSchemeValue scheme value = .error e) : e.code = .invalidSchemaKey := by
  refine check_then_code validateLength_code (fun h => ?_) h
  exact check_then_code validateLength_code validateForm_code h

theorem validateEncoding_code {key : SchemaKey} {e : SchemaError}
    (h : key.validateEncoding = .error e) : e.code = .invalidSchemaKey := by
  unfold SchemaKey.validateEncoding at h
  split_ifs at h
  cases h
  rfl

theorem validateGeneration_code {key : SchemaKey} {e : SchemaError}
    (h : key.validateGeneration = .error e) : e.code = .invalidSchemaKey := by
  unfold SchemaKey.validateGeneration at h
  split_ifs at h
  cases h
  rfl

/-- A key that is refused is an invalid key. -/
theorem validate_code {key : SchemaKey} {e : SchemaError} (h : key.validate = .error e) :
    e.code = .invalidSchemaKey := by
  refine check_then_code validateSchemeValue_code (fun h => ?_) h
  refine check_then_code validateLength_code (fun h => ?_) h
  exact check_then_code validateEncoding_code validateGeneration_code h

/-! ## Rows -/

/-- The endianness of CDR on the wire. -/
inductive CdrRepresentation where
  | be
  | le
  deriving DecidableEq, Repr

namespace CdrRepresentation

def asU16 : CdrRepresentation → UInt16
  | be => 0x0000
  | le => 0x0001

def fromU16 (value : UInt16) : Except SchemaError CdrRepresentation :=
  if value = 0x0001 then .ok le
  else if value = 0x0000 then .ok be
  else .error ((SchemaError.invalidSchemaKey ("unknown cdr_representation 0x" ++
    String.ofList (Engine.hex4 value.toNat))).withField "cdr_representation")

end CdrRepresentation

/-- What a lookup answers. -/
structure LookupResult where
  typeName : String
  descriptorId : String
  zeroTailBytes : ℕ
  deriving DecidableEq, Repr

structure DescriptorRow where
  descriptorId : String
  typeName : String
  deriving DecidableEq

structure IdentityRow where
  key : SchemaKey
  descriptorId : String
  deriving DecidableEq

def IdentityRow.mapKey (row : IdentityRow) : String ×ₗ String :=
  toLex (row.key.scheme, row.key.value)

structure WireProfileRow where
  typeName : String
  supportRowId : String
  cdrRepresentation : CdrRepresentation
  zeroTailBytes : ℕ
  deriving DecidableEq

def WireProfileRow.mapKey (row : WireProfileRow) : String ×ₗ String ×ₗ ℕ :=
  toLex (row.typeName, toLex (row.supportRowId, row.cdrRepresentation.asU16.toNat))

structure ProvenanceRow where
  rihs : String
  bundleSha256 : String
  typeName : String
  deriving DecidableEq

/-! ## The builder -/

/-- **What has been registered.** -/
structure SchemaRegistryBuilder where
  descriptors : Catalogue DescriptorRow.descriptorId := ∅
  identities : Catalogue IdentityRow.mapKey := ∅
  wireProfiles : Catalogue WireProfileRow.mapKey := ∅
  provenance : Catalogue ProvenanceRow.rihs := ∅

/-- A condition, or a fault. -/
def ensure (condition : Prop) [Decidable condition] (fault : SchemaError) :
    Except SchemaError Unit :=
  if condition then .ok () else .error fault

theorem ensure_ok_iff {condition : Prop} [Decidable condition] {fault : SchemaError} :
    ensure condition fault = .ok () ↔ condition := by
  unfold ensure
  by_cases h : condition <;> simp [h]

theorem ensure_error_iff {condition : Prop} [Decidable condition] {fault e : SchemaError} :
    ensure condition fault = .error e ↔ ¬condition ∧ fault = e := by
  unfold ensure
  by_cases h : condition <;> simp [h]

section File

variable {ρ κ : Type} [LinearOrder κ] [DecidableEq ρ] {key : ρ → κ}

/-- File a row, with the faults of the registry.  Rows with one key are compared as a whole: what
the key is made of agrees in any case. -/
def fileRow (capacity : Option ℕ) (c : Catalogue key) (row : ρ) (conflict : ρ → String)
    (full : String) : Except SchemaError (Catalogue key) :=
  match c.file capacity row with
  | .ok c => .ok c
  | .error (.conflict existing) => .error (.schemaConflict (conflict existing))
  | .error (.full rows) =>
    .error (.schemaBoundsExceeded "max_registry_entries" (rows + 1) maxRegistryEntries full)

theorem fileRow_ok_iff {capacity : Option ℕ} {c c' : Catalogue key} {row : ρ}
    {conflict : ρ → String} {full : String} :
    fileRow capacity c row conflict full = .ok c' ↔ c.file capacity row = .ok c' := by
  unfold fileRow
  rcases c.file capacity row with (existing | rows) | c <;> simp

end File

namespace SchemaRegistryBuilder

def registerDescriptor (b : SchemaRegistryBuilder) (descriptorId typeName : String) :
    Except SchemaError SchemaRegistryBuilder := do
  validateTypeNameLen typeName
  ensure (descriptorId ≠ "") (.schemaInputInvalid "descriptor_id must be non-empty")
  let descriptors ← fileRow (some maxRegistryEntries) b.descriptors ⟨descriptorId, typeName⟩
    (fun existing => s!"descriptor `{descriptorId}` already maps to `{existing.typeName}`")
    "descriptor registration would exceed max_registry_entries"
  return { b with descriptors := descriptors }

def registerIdentity (b : SchemaRegistryBuilder) (key : SchemaKey) (descriptorId : String) :
    Except SchemaError SchemaRegistryBuilder := do
  key.validate
  ensure (b.descriptors.find? descriptorId).isSome
    (.schemaUnavailable s!"descriptor `{descriptorId}` is not registered")
  let identities ← fileRow (some maxRegistryEntries) b.identities ⟨key, descriptorId⟩
    (fun _ =>
      s!"identity {key.scheme}:{key.value} already registered with conflicting material")
    "identity registration would exceed max_registry_entries"
  return { b with identities := identities }

/-- There is no limit on wire profiles. -/
def registerWireProfile (b : SchemaRegistryBuilder) (typeName supportRowId : String)
    (cdrRepresentation : CdrRepresentation) (zeroTailBytes : ℕ) :
    Except SchemaError SchemaRegistryBuilder := do
  validateTypeNameLen typeName
  validateSupportRowId supportRowId
  let wireProfiles ← fileRow none b.wireProfiles
    ⟨typeName, supportRowId, cdrRepresentation, zeroTailBytes⟩
    (fun existing =>
      s!"wire profile for `{typeName}` already has zero_tail {existing.zeroTailBytes}") ""
  return { b with wireProfiles := wireProfiles }

/-- There is no limit on provenance. -/
def registerProvenance (b : SchemaRegistryBuilder) (rihs bundleSha256 typeName : String) :
    Except SchemaError SchemaRegistryBuilder := do
  validateSchemeValue schemeRep2011Rihs rihs
  validateSchemeValue schemeRclwebSchemaV1 bundleSha256
  validateTypeNameLen typeName
  let provenance ← fileRow none b.provenance ⟨rihs, bundleSha256, typeName⟩
    (fun _ => s!"provenance for `{rihs}` already maps to conflicting material") ""
  return { b with provenance := provenance }

end SchemaRegistryBuilder

/-! ## The registry -/

/-- **A frozen builder**, with a descriptor at least. -/
structure SchemaRegistry where
  descriptors : Catalogue DescriptorRow.descriptorId
  identities : Catalogue IdentityRow.mapKey
  wireProfiles : Catalogue WireProfileRow.mapKey
  provenance : Catalogue ProvenanceRow.rihs

def SchemaRegistryBuilder.freeze (b : SchemaRegistryBuilder) : Except SchemaError SchemaRegistry :=
  if b.descriptors.entries.isEmpty then
    .error (.schemaInputInvalid "cannot freeze an empty descriptor set")
  else .ok ⟨b.descriptors, b.identities, b.wireProfiles, b.provenance⟩

namespace SchemaRegistry

/-- What is found under a key, or a fault. -/
def orUnavailable {α : Type} (message : String) : Option α → Except SchemaError α
  | some a => .ok a
  | none => .error (.schemaUnavailable message)

theorem orUnavailable_ok_iff {α : Type} {message : String} {o : Option α} {a : α} :
    orUnavailable message o = .ok a ↔ o = some a := by
  cases o <;> simp [orUnavailable]

theorem orUnavailable_error_iff {α : Type} {message : String} {o : Option α} {e : SchemaError} :
    orUnavailable message o = .error e ↔ o = none ∧ .schemaUnavailable message = e := by
  cases o <;> simp [orUnavailable]

/-- **Resolve a key on a support row** to its descriptor and the zeros at the end. -/
def lookup (registry : SchemaRegistry) (key : SchemaKey) (supportRowId : String)
    (cdrRepresentation : CdrRepresentation) : Except SchemaError LookupResult := do
  key.validate
  validateSupportRowId supportRowId
  let identity ← orUnavailable s!"no identity for {key.scheme}:{key.value}"
    (registry.identities.find? (toLex (key.scheme, key.value)))
  ensure (identity.key.typeName = key.typeName ∧ identity.key.encoding = key.encoding ∧
      identity.key.schemaGeneration = key.schemaGeneration)
    (.schemaUnavailable "SchemaKey fields do not match registered identity material")
  let descriptor ← orUnavailable s!"descriptor `{identity.descriptorId}` missing"
    (registry.descriptors.find? identity.descriptorId)
  ensure (descriptor.typeName = key.typeName)
    (.schemaUnavailable "descriptor type_name does not match SchemaKey")
  let profile ← orUnavailable
    (s!"no wire profile for {key.typeName} / {supportRowId} / 0x" ++
      String.ofList (Engine.hex4 cdrRepresentation.asU16.toNat))
    (registry.wireProfiles.find?
      (toLex (key.typeName, toLex (supportRowId, cdrRepresentation.asU16.toNat))))
  return ⟨descriptor.typeName, descriptor.descriptorId, profile.zeroTailBytes⟩

/-- The first identity of a type under a scheme, in the order of the values. -/
def identityValueForType (registry : SchemaRegistry) (typeName scheme : String) :
    Except SchemaError String := do
  validateTypeNameLen typeName
  match registry.identities.rows.find? fun row =>
      row.key.typeName = typeName ∧ row.key.scheme = scheme with
  | some row => return row.key.value
  | none => throw (.schemaUnavailable s!"no {scheme} identity for `{typeName}`")

/-- The type of some descriptor. -/
def isPhase1Root (registry : SchemaRegistry) (typeName : String) : Bool :=
  registry.descriptors.rows.any (·.typeName == typeName)

/-- The bundle hash and the type of a RIHS value. -/
def provenanceForRihs (registry : SchemaRegistry) (rihs : String) : Option (String × String) :=
  (registry.provenance.find? rihs).map fun p => (p.bundleSha256, p.typeName)

end SchemaRegistry

/-! ## The embedded metadata -/

/-- `"CDR_LE"` and `"CDR_BE"`, or a number. -/
inductive CdrRepresentationJson where
  | name (s : String)
  | number (n : UInt16)

def CdrRepresentationJson.intoRep : CdrRepresentationJson → Except SchemaError CdrRepresentation
  | .name s =>
    if s = "CDR_LE" then .ok .le
    else if s = "CDR_BE" then .ok .be
    else .error ((SchemaError.invalidSchemaKey s!"unknown cdr_representation `{s}`").withField
      "cdr_representation")
  | .number n => CdrRepresentation.fromU16 n

structure IdentityJson where
  scheme : String
  value : String
  typeName : String
  encoding : UInt8
  schemaGeneration : UInt32
  descriptorId : String

structure WireProfileJson where
  typeName : String
  supportRowId : String
  cdrRepresentation : CdrRepresentationJson
  zeroTailBytes : ℕ

/-- **The rows of the four metadata files.** -/
structure Metadata where
  descriptors : List DescriptorRow
  identities : List IdentityJson
  wireProfiles : List WireProfileJson
  provenance : List ProvenanceRow

def loadDescriptors (rows : List DescriptorRow) (b : SchemaRegistryBuilder) :
    Except SchemaError SchemaRegistryBuilder :=
  rows.foldlM (fun b row => b.registerDescriptor row.descriptorId row.typeName) b

def loadIdentities (rows : List IdentityJson) (b : SchemaRegistryBuilder) :
    Except SchemaError SchemaRegistryBuilder :=
  rows.foldlM (fun b row => do
    let key ← SchemaKey.new row.scheme row.value row.typeName row.encoding row.schemaGeneration
    b.registerIdentity key row.descriptorId) b

def loadWireProfiles (rows : List WireProfileJson) (b : SchemaRegistryBuilder) :
    Except SchemaError SchemaRegistryBuilder :=
  rows.foldlM (fun b row => do
    let rep ← row.cdrRepresentation.intoRep
    b.registerWireProfile row.typeName row.supportRowId rep row.zeroTailBytes) b

def loadProvenance (rows : List ProvenanceRow) (b : SchemaRegistryBuilder) :
    Except SchemaError SchemaRegistryBuilder :=
  rows.foldlM (fun b row => b.registerProvenance row.rihs row.bundleSha256 row.typeName) b

/-- **Load the metadata and freeze.** -/
def phase1 (metadata : Metadata) : Except SchemaError SchemaRegistry := do
  let b ← loadDescriptors metadata.descriptors {}
  let b ← loadIdentities metadata.identities b
  let b ← loadWireProfiles metadata.wireProfiles b
  let b ← loadProvenance metadata.provenance b
  b.freeze

/-! ## Before a channel opens -/

/-- Scheme and value for an OpenChannel of a root; none for the other types. -/
def schemaIdentityForType (registry : SchemaRegistry) (typeName scheme : String) :
    Except SchemaError (Option (String × String)) :=
  if !registry.isPhase1Root typeName then .ok none
  else do
    let value ← registry.identityValueForType typeName scheme
    return some (scheme, value)

/-- The scheme of a support row: RIHS on those of Jazzy. -/
def schemeForRow (supportRowId : String) : String :=
  if supportRowId.toList.head? == some 'J' then schemeRep2011Rihs else schemeRclwebSchemaV1

/-- **Look a root up before its channel opens.** -/
def lookupPhase1RootForOpen (registry : SchemaRegistry) (typeName supportRowId : String)
    (cdrRepresentation : CdrRepresentation) :
    Except SchemaError (Option (LookupResult × SchemaKey)) :=
  if !registry.isPhase1Root typeName then .ok none
  else do
    let scheme := schemeForRow supportRowId
    let value ← registry.identityValueForType typeName scheme
    let key ← SchemaKey.new scheme value typeName encodingCdr1 phase1SchemaGeneration
    let result ← registry.lookup key supportRowId cdrRepresentation
    return some (result, key)

end Registry
end Rclweb
