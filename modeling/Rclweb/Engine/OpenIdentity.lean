import Rclweb.Engine.Sent
import Rclweb.Types.Registered

/-!
# The identity a channel opens with

Before a channel of a root opens, the registry is asked for the root on the support row of the
session, and the OpenChannel carries an identity of the root.  The two do not choose the scheme by
the same letter: one takes RIHS on the rows of Jazzy, the other the bundle hash on the rows of
Humble.  What is announced is what was looked up on these rows, and only on these
(`open_announces`).
-/

namespace Rclweb

open Rclweb.Frame Control Transition

namespace Registry

/-- The fault the engine reports. -/
def SchemaError.forEngine (e : SchemaError) : Engine.SchemaError :=
  ⟨e.code.wireErrorCode, e.display⟩

/-- **The library of an engine with a registry.** -/
def SchemaRegistry.library (registry : SchemaRegistry) (lib : Engine.Library) : Engine.Library :=
  { lib with
    lookupPhase1RootForOpen := fun typeName supportRowId =>
      match lookupPhase1RootForOpen registry typeName supportRowId .le with
      | .ok _ => .ok ()
      | .error e => .error e.forEngine
    schemaIdentityForType := fun typeName scheme =>
      match schemaIdentityForType registry typeName scheme with
      | .ok identity => identity
      | .error _ => none }

variable {registry : SchemaRegistry} {lib : Engine.Library} {typeName supportRowId : String}
  {result : LookupResult} {key : SchemaKey}

/-- What an answer for a root consists of. -/
theorem lookupForOpen_some {rep : CdrRepresentation}
    (h : lookupPhase1RootForOpen registry typeName supportRowId rep = .ok (some (result, key))) :
    registry.isPhase1Root typeName = true ∧
      registry.identityValueForType typeName (schemeForRow supportRowId) = .ok key.value ∧
      key.scheme = schemeForRow supportRowId ∧ key.typeName = typeName ∧ key.Valid ∧
      registry.lookup key supportRowId rep = .ok result := by
  unfold lookupPhase1RootForOpen at h
  cases hroot : registry.isPhase1Root typeName with
  | false =>
    rw [hroot] at h
    cases h
  | true =>
    rw [hroot] at h
    obtain ⟨value, hvalue, h⟩ := bind_eq_ok.mp h
    obtain ⟨key', hkey, h⟩ := bind_eq_ok.mp h
    obtain ⟨result', hlookup, h⟩ := bind_eq_ok.mp h
    obtain ⟨hvalid, heq⟩ := check_then_ok_iff.mp hkey
    cases heq
    cases h
    exact ⟨rfl, hvalue, rfl, rfl, validate_ok_iff.mp hvalid, hlookup⟩

theorem schemes_differ : schemeRep2011Rihs ≠ schemeRclwebSchemaV1 := by decide

/-- The identities of a root, as the engine asks for them. -/
theorem identity_of_root (hroot : registry.isPhase1Root typeName = true) (scheme : String) :
    (registry.library lib).schemaIdentityForType typeName scheme =
      (registry.identityValueForType typeName scheme).toOption.map
        fun value => (scheme, value) := by
  unfold SchemaRegistry.library schemaIdentityForType
  dsimp only
  rw [hroot]
  cases registry.identityValueForType typeName scheme <;> rfl

theorem identity_of_other (hroot : registry.isPhase1Root typeName = false) (scheme : String) :
    (registry.library lib).schemaIdentityForType typeName scheme = none := by
  unfold SchemaRegistry.library schemaIdentityForType
  dsimp only
  rw [hroot]
  rfl

/-- The identity of an open is one of the scheme of the row. -/
theorem resolved_scheme : (Engine.resolveOpenSchemaIdentity (registry.library lib) typeName
    supportRowId).1 = Engine.schemaSchemeForSupportRow supportRowId := by
  unfold Engine.resolveOpenSchemaIdentity
  cases hroot : registry.isPhase1Root typeName with
  | false =>
    rw [identity_of_other hroot]
    unfold Engine.schemaSchemeForSupportRow
    cases Engine.isHumbleRow supportRowId <;> rfl
  | true =>
    rw [identity_of_root hroot]
    cases registry.identityValueForType typeName
        (Engine.schemaSchemeForSupportRow supportRowId) with
    | ok value => rfl
    | error e =>
      unfold Engine.schemaSchemeForSupportRow
      cases Engine.isHumbleRow supportRowId <;> rfl

/-- The row is one of Jazzy or of Humble. -/
def NamedRow (supportRowId : String) : Prop :=
  supportRowId.toList.head? = some 'J' ∨ supportRowId.toList.head? = some 'H'

/-- The two choices of a scheme agree on the named rows. -/
theorem schemeForRow_eq_iff : Engine.schemaSchemeForSupportRow supportRowId =
    schemeForRow supportRowId ↔ NamedRow supportRowId := by
  unfold Engine.schemaSchemeForSupportRow schemeForRow Engine.isHumbleRow NamedRow
  have hschemes := schemes_differ
  cases supportRowId.toList.head? with
  | none => exact iff_of_false hschemes (by simp)
  | some c =>
    by_cases hj : c = 'J'
    · subst hj
      exact iff_of_true rfl (.inl rfl)
    · by_cases hh : c = 'H'
      · subst hh
        exact iff_of_true rfl (.inr rfl)
      · simp only [Option.some_beq_some, beq_iff_eq, hj, hh, if_false, Option.some.injEq, or_self,
          iff_false]
        exact hschemes

/-- The identity that is resolved is the one looked up on the named rows, and on no others. -/
theorem resolved_iff
    (h : lookupPhase1RootForOpen registry typeName supportRowId .le = .ok (some (result, key))) :
    Engine.resolveOpenSchemaIdentity (registry.library lib) typeName supportRowId =
      (key.scheme, key.value) ↔ NamedRow supportRowId := by
  obtain ⟨hroot, hvalue, hscheme, -⟩ := lookupForOpen_some h
  rw [← schemeForRow_eq_iff]
  constructor
  · intro heq
    have hresolved : (Engine.resolveOpenSchemaIdentity (registry.library lib) typeName
        supportRowId).1 = Engine.schemaSchemeForSupportRow supportRowId := resolved_scheme
    rw [← hresolved, heq, hscheme]
  · intro heq
    have hidentity : (registry.library lib).schemaIdentityForType typeName
        (Engine.schemaSchemeForSupportRow supportRowId) = some (key.scheme, key.value) := by
      rw [identity_of_root hroot, heq, hvalue, hscheme]
      rfl
    rw [Engine.resolveOpenSchemaIdentity, hidentity]

/-! ## What is sent -/

/-- The schema identity in a message. -/
def announced : CborValue → Option (String × String)
  | .map entries =>
    match entries.lookup 3 with
    | some (.map [(1, .text scheme), (2, .text value)]) => some (scheme, value)
    | _ => none
  | _ => none

/-- The type of a channel a command opens. -/
def opensType : Engine.AppCommand → Option String
  | .subscribe options | .publish options => some options.typeName
  | .openService options | .openAction options => some options.typeName
  | _ => none

theorem announced_openChannel (lib : Engine.Library) (correlation : ByteArrayOf 16)
    (channelId : UInt32) (kind : UInt64) (name typeName : String) (qos : UInt64 × CborValue)
    (domainId : UInt8) (row : String) :
    announced (Engine.openChannel lib correlation channelId kind name typeName qos domainId row) =
      some (Engine.resolveOpenSchemaIdentity lib typeName row) := rfl

/-- What a command that opens a channel records, on a registry. -/
theorem recordedOpen_some {t : Engine.Turn} {channelId : UInt32} {kind : Engine.PendingKind}
    {message : CborValue} {bytes : List UInt8} (hroot : registry.isPhase1Root typeName = true)
    (h : t.recordedOpen (registry.library lib) typeName channelId kind message = some bytes) :
    (∃ result key, lookupPhase1RootForOpen registry typeName t.engine.supportRowId .le =
      .ok (some (result, key))) ∧ t.recordedControl message = some bytes := by
  unfold Engine.Turn.recordedOpen Engine.Turn.schemaUnavailable SchemaRegistry.library at h
  dsimp only at h
  cases hlookup : lookupPhase1RootForOpen registry typeName t.engine.supportRowId .le with
  | error e =>
    rw [hlookup] at h
    cases h
  | ok found =>
    rw [hlookup] at h
    cases found with
    | some answer => exact ⟨⟨answer.1, answer.2, rfl⟩, h⟩
    | none =>
      -- only the types that are no roots are passed over
      unfold lookupPhase1RootForOpen at hlookup
      rw [hroot] at hlookup
      obtain ⟨value, -, hlookup⟩ := bind_eq_ok.mp hlookup
      obtain ⟨key, -, hlookup⟩ := bind_eq_ok.mp hlookup
      obtain ⟨result, -, hlookup⟩ := bind_eq_ok.mp hlookup
      cases hlookup

/-- What is announced then, if the message carries the identity that is resolved. -/
theorem announces_of_recordedOpen {t : Engine.Turn} {channelId : UInt32}
    {kind : Engine.PendingKind} {message : CborValue} {bytes : List UInt8}
    (hroot : registry.isPhase1Root typeName = true)
    (hmessage : announced message = some (Engine.resolveOpenSchemaIdentity (registry.library lib)
      typeName t.engine.supportRowId))
    (h : t.recordedOpen (registry.library lib) typeName channelId kind message = some bytes) :
    ∃ result key message,
      lookupPhase1RootForOpen registry typeName t.engine.supportRowId .le =
        .ok (some (result, key)) ∧
      t.recordedControl message = some bytes ∧
      (announced message = some (key.scheme, key.value) ↔ NamedRow t.engine.supportRowId) := by
  obtain ⟨⟨result, key, hlookup⟩, hsent⟩ := recordedOpen_some hroot h
  refine ⟨result, key, message, hlookup, hsent, ?_⟩
  rw [hmessage, Option.some.injEq, resolved_iff hlookup]

/-- **What an OpenChannel announces is what was looked up.**  A channel of a root that an engine
opens, in any state, was found in the registry, and the message that is sent carries the identity
under which it was found if the support row is named for Jazzy or Humble, and only then. -/
theorem open_announces {t : Engine.Turn} {command : Engine.AppCommand} {bytes : List UInt8}
    (hopens : opensType command = some typeName) (hroot : registry.isPhase1Root typeName = true)
    (h : t.recordedCommand (registry.library lib) command = some bytes) :
    ∃ result key message,
      lookupPhase1RootForOpen registry typeName t.engine.supportRowId .le =
        .ok (some (result, key)) ∧
      t.recordedControl message = some bytes ∧
      (announced message = some (key.scheme, key.value) ↔ NamedRow t.engine.supportRowId) := by
  cases command with
  | subscribe options =>
    cases hopens
    exact announces_of_recordedOpen hroot (announced_openChannel ..) h
  | publish options =>
    cases hopens
    exact announces_of_recordedOpen hroot (announced_openChannel ..) h
  | openService options =>
    cases hopens
    exact announces_of_recordedOpen hroot (announced_openChannel ..) h
  | openAction options =>
    cases hopens
    exact announces_of_recordedOpen hroot (announced_openChannel ..) h
  | _ => cases hopens

/-! ### A registry of one type -/

def sampleRegistry : SchemaRegistry :=
  let b := run {} [.descriptor ⟨"pkg/msg/A", "pkg/msg/A"⟩,
    .identity ⟨⟨schemeRep2011Rihs, Engine.demoSchemaHash, "pkg/msg/A", 1, 1⟩, "pkg/msg/A"⟩,
    .wireProfile ⟨"pkg/msg/A", "J-FT", .le, 4⟩]
  ⟨b.descriptors, b.identities, b.wireProfiles, b.provenance⟩

/-- An engine after the handshake. -/
def sampleTurn : Engine.Turn :=
  ⟨ClientEngine.run (sampleRegistry.library Pair.noLibrary) false {}
    (ClientEngine.subscription.take 4), {}⟩

def sampleOpen : Engine.AppCommand :=
  .subscribe ⟨Engine.zeroCorrelation, 1, "/a", "pkg/msg/A", 1, 5, 0⟩

theorem open_announces_sample : ∃ result key message,
    lookupPhase1RootForOpen sampleRegistry "pkg/msg/A" sampleTurn.engine.supportRowId .le =
      .ok (some (result, key)) ∧
    (sampleTurn.recordedControl message).isSome = true ∧
    announced message = some (key.scheme, key.value) := by
  obtain ⟨bytes, hbytes⟩ := Option.isSome_iff_exists.mp
    (show (sampleTurn.recordedCommand (sampleRegistry.library Pair.noLibrary)
      sampleOpen).isSome = true by decide +kernel)
  obtain ⟨result, key, message, hlookup, hsent, hannounced⟩ :=
    open_announces rfl (by decide +kernel) hbytes
  refine ⟨result, key, message, hlookup, ?_, hannounced.mpr (.inl (by decide +kernel))⟩
  rw [hsent]
  rfl

end Registry
end Rclweb
