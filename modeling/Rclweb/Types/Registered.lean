import Rclweb.Types.Registry

/-!
# What the registry holds

The calls of a builder in any order: `registerAll_ok_iff` says when all of them are accepted and
what is held then, `accepted` which of them count when some are refused.  A frozen builder answers
with the join of the accepted calls, and what it cannot answer is unavailable, never a descriptor
that is missing (`lookup_of_run`).

The embedded metadata is loaded by such calls.  `phase1_ok_iff` says when it loads: every row passes
its checks, every identity names a descriptor, no two rows with one key differ, and the tables are
not too large.  The registry then holds their rows, whatever order they stand in.
-/

namespace Rclweb
namespace Registry

open Control (identityOk isLowerHex)

/-! ## Calls -/

/-- **A call of the builder.** -/
inductive Registration where
  | descriptor (row : DescriptorRow)
  | identity (row : IdentityRow)
  | wireProfile (row : WireProfileRow)
  | provenance (row : ProvenanceRow)
  deriving DecidableEq

namespace Registration

def apply (b : SchemaRegistryBuilder) : Registration → Except SchemaError SchemaRegistryBuilder
  | descriptor row => b.registerDescriptor row.descriptorId row.typeName
  | identity row => b.registerIdentity row.key row.descriptorId
  | wireProfile row =>
    b.registerWireProfile row.typeName row.supportRowId row.cdrRepresentation row.zeroTailBytes
  | provenance row => b.registerProvenance row.rihs row.bundleSha256 row.typeName

/-- A name of a type. -/
def NameOk (typeName : String) : Prop := typeName ≠ "" ∧ typeName.length ≤ maxTypeNameChars

def RowIdOk (supportRowId : String) : Prop :=
  supportRowId ≠ "" ∧ supportRowId.length ≤ maxSupportRowIdChars

/-- What a call has to bring, whatever is registered. -/
def Valid : Registration → Prop
  | descriptor row => NameOk row.typeName ∧ row.descriptorId ≠ ""
  | identity row => row.key.Valid
  | wireProfile row => NameOk row.typeName ∧ RowIdOk row.supportRowId
  | provenance row => identityOk schemeRep2011Rihs row.rihs = true ∧
      identityOk schemeRclwebSchemaV1 row.bundleSha256 = true ∧ NameOk row.typeName

/-- An identity needs its descriptor. -/
def Ready (b : SchemaRegistryBuilder) : Registration → Prop
  | identity row => ∃ d ∈ b.descriptors, d.descriptorId = row.descriptorId
  | _ => True

def descriptor? : Registration → Option DescriptorRow
  | descriptor row => some row
  | _ => none

def identity? : Registration → Option IdentityRow
  | identity row => some row
  | _ => none

def wireProfile? : Registration → Option WireProfileRow
  | wireProfile row => some row
  | _ => none

def provenance? : Registration → Option ProvenanceRow
  | provenance row => some row
  | _ => none

theorem mem_descriptors {calls : List Registration} {row : DescriptorRow} :
    row ∈ calls.filterMap descriptor? ↔ descriptor row ∈ calls := by
  rw [List.mem_filterMap]
  constructor
  · rintro ⟨call, hmem, hcall⟩
    cases call <;> cases hcall
    exact hmem
  · exact fun hmem => ⟨_, hmem, rfl⟩

theorem mem_identities {calls : List Registration} {row : IdentityRow} :
    row ∈ calls.filterMap identity? ↔ identity row ∈ calls := by
  rw [List.mem_filterMap]
  constructor
  · rintro ⟨call, hmem, hcall⟩
    cases call <;> cases hcall
    exact hmem
  · exact fun hmem => ⟨_, hmem, rfl⟩

theorem mem_wireProfiles {calls : List Registration} {row : WireProfileRow} :
    row ∈ calls.filterMap wireProfile? ↔ wireProfile row ∈ calls := by
  rw [List.mem_filterMap]
  constructor
  · rintro ⟨call, hmem, hcall⟩
    cases call <;> cases hcall
    exact hmem
  · exact fun hmem => ⟨_, hmem, rfl⟩

theorem mem_provenance {calls : List Registration} {row : ProvenanceRow} :
    row ∈ calls.filterMap provenance? ↔ provenance row ∈ calls := by
  rw [List.mem_filterMap]
  constructor
  · rintro ⟨call, hmem, hcall⟩
    cases call <;> cases hcall
    exact hmem
  · exact fun hmem => ⟨_, hmem, rfl⟩

end Registration

open Registration

variable {b b' : SchemaRegistryBuilder} {call : Registration} {calls : List Registration}

theorem find?_descriptor_isSome {id : String} :
    (b.descriptors.find? id).isSome = true ↔ ∃ d ∈ b.descriptors, d.descriptorId = id := by
  rw [Option.isSome_iff_exists]
  constructor
  · rintro ⟨d, hd⟩
    obtain ⟨hkey, hmem⟩ := Catalogue.find?_eq_some_iff.mp hd
    exact ⟨d, hmem, hkey⟩
  · rintro ⟨d, hmem, hkey⟩
    exact ⟨d, Catalogue.find?_eq_some_iff.mpr ⟨hkey, hmem⟩⟩

/-! ## One call -/

section Calls

open Catalogue

/-- Each catalogue files the rows of the calls that are meant for it. -/
structure Files (b b' : SchemaRegistryBuilder) (calls : List Registration) : Prop where
  descriptors : fileAll (some maxRegistryEntries) b.descriptors (calls.filterMap descriptor?) =
    .ok b'.descriptors
  identities : fileAll (some maxRegistryEntries) b.identities (calls.filterMap identity?) =
    .ok b'.identities
  wireProfiles : fileAll none b.wireProfiles (calls.filterMap wireProfile?) = .ok b'.wireProfiles
  provenance : fileAll none b.provenance (calls.filterMap provenance?) = .ok b'.provenance

theorem files_nil : Files b b' [] ↔ b' = b := by
  constructor
  · intro h
    cases b
    cases b'
    obtain ⟨hd, hi, hw, hp⟩ := h
    cases fileAll_nil.mp hd
    cases fileAll_nil.mp hi
    cases fileAll_nil.mp hw
    cases fileAll_nil.mp hp
    rfl
  · rintro rfl
    exact ⟨fileAll_nil.mpr rfl, fileAll_nil.mpr rfl, fileAll_nil.mpr rfl, fileAll_nil.mpr rfl⟩

theorem files_append {calls' : List Registration} : Files b b' (calls ++ calls') ↔
    ∃ middle, Files b middle calls ∧ Files middle b' calls' := by
  constructor
  · rintro ⟨hd, hi, hw, hp⟩
    rw [List.filterMap_append] at hd hi hw hp
    obtain ⟨d, hd, hd'⟩ := fileAll_append.mp hd
    obtain ⟨i, hi, hi'⟩ := fileAll_append.mp hi
    obtain ⟨w, hw, hw'⟩ := fileAll_append.mp hw
    obtain ⟨p, hp, hp'⟩ := fileAll_append.mp hp
    exact ⟨⟨d, i, w, p⟩, ⟨hd, hi, hw, hp⟩, ⟨hd', hi', hw', hp'⟩⟩
  · rintro ⟨middle, ⟨hd, hi, hw, hp⟩, ⟨hd', hi', hw', hp'⟩⟩
    refine ⟨?_, ?_, ?_, ?_⟩ <;> rw [List.filterMap_append]
    · exact fileAll_append.mpr ⟨_, hd, hd'⟩
    · exact fileAll_append.mpr ⟨_, hi, hi'⟩
    · exact fileAll_append.mpr ⟨_, hw, hw'⟩
    · exact fileAll_append.mpr ⟨_, hp, hp'⟩

theorem files_descriptor {row : DescriptorRow} : Files b b' [descriptor row] ↔
    ∃ c, file (some maxRegistryEntries) b.descriptors row = .ok c ∧
      { b with descriptors := c } = b' := by
  constructor
  · intro h
    cases b'
    obtain ⟨hd, hi, hw, hp⟩ := h
    cases fileAll_nil.mp hi
    cases fileAll_nil.mp hw
    cases fileAll_nil.mp hp
    exact ⟨_, fileAll_singleton.mp hd, rfl⟩
  · rintro ⟨c, hc, rfl⟩
    exact ⟨fileAll_singleton.mpr hc, fileAll_nil.mpr rfl, fileAll_nil.mpr rfl, fileAll_nil.mpr rfl⟩

theorem files_identity {row : IdentityRow} : Files b b' [identity row] ↔
    ∃ c, file (some maxRegistryEntries) b.identities row = .ok c ∧
      { b with identities := c } = b' := by
  constructor
  · intro h
    cases b'
    obtain ⟨hd, hi, hw, hp⟩ := h
    cases fileAll_nil.mp hd
    cases fileAll_nil.mp hw
    cases fileAll_nil.mp hp
    exact ⟨_, fileAll_singleton.mp hi, rfl⟩
  · rintro ⟨c, hc, rfl⟩
    exact ⟨fileAll_nil.mpr rfl, fileAll_singleton.mpr hc, fileAll_nil.mpr rfl, fileAll_nil.mpr rfl⟩

theorem files_wireProfile {row : WireProfileRow} : Files b b' [wireProfile row] ↔
    ∃ c, file none b.wireProfiles row = .ok c ∧ { b with wireProfiles := c } = b' := by
  constructor
  · intro h
    cases b'
    obtain ⟨hd, hi, hw, hp⟩ := h
    cases fileAll_nil.mp hd
    cases fileAll_nil.mp hi
    cases fileAll_nil.mp hp
    exact ⟨_, fileAll_singleton.mp hw, rfl⟩
  · rintro ⟨c, hc, rfl⟩
    exact ⟨fileAll_nil.mpr rfl, fileAll_nil.mpr rfl, fileAll_singleton.mpr hc, fileAll_nil.mpr rfl⟩

theorem files_provenance {row : ProvenanceRow} : Files b b' [provenance row] ↔
    ∃ c, file none b.provenance row = .ok c ∧ { b with provenance := c } = b' := by
  constructor
  · intro h
    cases b'
    obtain ⟨hd, hi, hw, hp⟩ := h
    cases fileAll_nil.mp hd
    cases fileAll_nil.mp hi
    cases fileAll_nil.mp hw
    exact ⟨_, fileAll_singleton.mp hp, rfl⟩
  · rintro ⟨c, hc, rfl⟩
    exact ⟨fileAll_nil.mpr rfl, fileAll_nil.mpr rfl, fileAll_nil.mpr rfl, fileAll_singleton.mpr hc⟩

/-- **What a call comes to.** -/
theorem apply_ok_iff :
    call.apply b = .ok b' ↔ call.Valid ∧ call.Ready b ∧ Files b b' [call] := by
  have hpure : ∀ {b : SchemaRegistryBuilder}, (pure b : Except SchemaError _) = .ok b' ↔ b = b' :=
    (Except.ok.injEq ..).to_iff
  cases call with
  | descriptor row =>
    rw [apply, SchemaRegistryBuilder.registerDescriptor, check_then_ok_iff, check_then_ok_iff,
      bind_eq_ok, validateTypeNameLen, validateLength_ok_iff, ensure_ok_iff, files_descriptor,
      ← and_assoc]
    exact and_congr Iff.rfl ((exists_congr fun c => and_congr fileRow_ok_iff hpure).trans
      (iff_of_eq (true_and _)).symm)
  | identity row =>
    rw [apply, SchemaRegistryBuilder.registerIdentity, check_then_ok_iff, check_then_ok_iff,
      bind_eq_ok, validate_ok_iff, ensure_ok_iff, find?_descriptor_isSome, files_identity]
    exact and_congr Iff.rfl (and_congr Iff.rfl
      (exists_congr fun c => and_congr fileRow_ok_iff hpure))
  | wireProfile row =>
    rw [apply, SchemaRegistryBuilder.registerWireProfile, check_then_ok_iff, check_then_ok_iff,
      bind_eq_ok, validateTypeNameLen, validateSupportRowId, validateLength_ok_iff,
      validateLength_ok_iff, files_wireProfile, ← and_assoc]
    exact and_congr Iff.rfl ((exists_congr fun c => and_congr fileRow_ok_iff hpure).trans
      (iff_of_eq (true_and _)).symm)
  | provenance row =>
    rw [apply, SchemaRegistryBuilder.registerProvenance, check_then_ok_iff, check_then_ok_iff,
      check_then_ok_iff, bind_eq_ok, validateSchemeValue_ok_iff, validateSchemeValue_ok_iff,
      validateTypeNameLen, validateLength_ok_iff, files_provenance, ← and_assoc, ← and_assoc]
    exact and_congr (and_assoc.trans Iff.rfl) ((exists_congr fun c =>
      and_congr fileRow_ok_iff hpure).trans (iff_of_eq (true_and _)).symm)

theorem Files.mem_descriptors (h : Files b b' calls) {row : DescriptorRow} :
    row ∈ b'.descriptors ↔ row ∈ b.descriptors ∨ descriptor row ∈ calls := by
  rw [(fileAll_ok_iff.mp h.descriptors).1, Registration.mem_descriptors]

theorem Files.mem_identities (h : Files b b' calls) {row : IdentityRow} :
    row ∈ b'.identities ↔ row ∈ b.identities ∨ identity row ∈ calls := by
  rw [(fileAll_ok_iff.mp h.identities).1, Registration.mem_identities]

theorem Files.mem_wireProfiles (h : Files b b' calls) {row : WireProfileRow} :
    row ∈ b'.wireProfiles ↔ row ∈ b.wireProfiles ∨ wireProfile row ∈ calls := by
  rw [(fileAll_ok_iff.mp h.wireProfiles).1, Registration.mem_wireProfiles]

theorem Files.mem_provenance (h : Files b b' calls) {row : ProvenanceRow} :
    row ∈ b'.provenance ↔ row ∈ b.provenance ∨ .provenance row ∈ calls := by
  rw [(fileAll_ok_iff.mp h.provenance).1, Registration.mem_provenance]

end Calls

/-! ## All calls -/

/-- **The calls one after another**, up to the first that is refused. -/
def registerAll (b : SchemaRegistryBuilder) (calls : List Registration) :
    Except SchemaError SchemaRegistryBuilder := calls.foldlM apply b

theorem registerAll_nil : registerAll b [] = .ok b' ↔ b = b' := (Except.ok.injEq ..).to_iff

theorem registerAll_cons : registerAll b (call :: calls) = .ok b' ↔
    ∃ middle, call.apply b = .ok middle ∧ registerAll middle calls = .ok b' := by
  rw [registerAll, List.foldlM_cons, bind_eq_ok]
  rfl

/-- Each identity comes after its descriptor. -/
def Preceded (b : SchemaRegistryBuilder) (calls : List Registration) : Prop :=
  ∀ front row rest, calls = front ++ identity row :: rest →
    ∃ d, (d ∈ b.descriptors ∨ descriptor d ∈ front) ∧ d.descriptorId = row.descriptorId

theorem preceded_nil : Preceded b [] := by
  intro front row rest h
  cases front <;> cases h

theorem preceded_cons {middle : SchemaRegistryBuilder} (h : Files b middle [call]) :
    Preceded b (call :: calls) ↔ call.Ready b ∧ Preceded middle calls := by
  have hmiddle : ∀ {d front}, d ∈ middle.descriptors ∨ descriptor d ∈ front ↔
      d ∈ b.descriptors ∨ descriptor d ∈ call :: front := by
    intro d front
    rw [h.mem_descriptors, List.mem_singleton, List.mem_cons, or_assoc]
  constructor
  · intro hpreceded
    refine ⟨?_, fun front row rest heq => ?_⟩
    · cases call with
      | identity row =>
        obtain ⟨d, hd, hid⟩ := hpreceded [] row calls rfl
        exact ⟨d, hd.resolve_right List.not_mem_nil, hid⟩
      | descriptor row => trivial
      | wireProfile row => trivial
      | provenance row => trivial
    · obtain ⟨d, hd, hid⟩ := hpreceded (call :: front) row rest (by rw [heq, List.cons_append])
      exact ⟨d, hmiddle.mpr hd, hid⟩
  · rintro ⟨hready, hpreceded⟩ front row rest heq
    cases front with
    | nil =>
      obtain ⟨rfl, rfl⟩ := List.cons.inj heq
      obtain ⟨d, hd, hid⟩ := hready
      exact ⟨d, .inl hd, hid⟩
    | cons first front =>
      obtain ⟨rfl, rfl⟩ := List.cons.inj heq
      obtain ⟨d, hd, hid⟩ := hpreceded front row rest rfl
      exact ⟨d, hmiddle.mp hd, hid⟩

/-- **When all calls are accepted**, and what they come to. -/
theorem registerAll_ok_iff_files : registerAll b calls = .ok b' ↔
    (∀ call ∈ calls, call.Valid) ∧ Preceded b calls ∧ Files b b' calls := by
  induction calls generalizing b with
  | nil =>
    rw [registerAll_nil, files_nil, eq_comm]
    exact ⟨fun h => ⟨List.forall_mem_nil _, preceded_nil, h⟩, fun h => h.2.2⟩
  | cons call calls ih =>
    rw [registerAll_cons, List.forall_mem_cons, ← List.singleton_append, files_append]
    constructor
    · rintro ⟨middle, hcall, hrest⟩
      obtain ⟨hvalid, hready, hfiles⟩ := apply_ok_iff.mp hcall
      obtain ⟨hvalids, hpreceded, hfiles'⟩ := ih.mp hrest
      exact ⟨⟨hvalid, hvalids⟩, (preceded_cons hfiles).mpr ⟨hready, hpreceded⟩, middle, hfiles,
        hfiles'⟩
    · rintro ⟨⟨hvalid, hvalids⟩, hpreceded, middle, hfiles, hfiles'⟩
      obtain ⟨hready, hpreceded⟩ := (preceded_cons hfiles).mp hpreceded
      exact ⟨middle, apply_ok_iff.mpr ⟨hvalid, hready, hfiles⟩,
        ih.mpr ⟨hvalids, hpreceded, hfiles'⟩⟩

/-- **A builder holds the rows of some calls** and no others. -/
structure SchemaRegistryBuilder.Holds (b : SchemaRegistryBuilder) (calls : List Registration) :
    Prop where
  descriptors : ∀ row, row ∈ b.descriptors ↔ descriptor row ∈ calls
  identities : ∀ row, row ∈ b.identities ↔ identity row ∈ calls
  wireProfiles : ∀ row, row ∈ b.wireProfiles ↔ wireProfile row ∈ calls
  provenance : ∀ row, row ∈ b.provenance ↔ .provenance row ∈ calls

theorem holds_of_files (h : Files {} b calls) : b.Holds calls where
  descriptors _ := h.mem_descriptors.trans (or_iff_right Catalogue.notMem_empty)
  identities _ := h.mem_identities.trans (or_iff_right Catalogue.notMem_empty)
  wireProfiles _ := h.mem_wireProfiles.trans (or_iff_right Catalogue.notMem_empty)
  provenance _ := h.mem_provenance.trans (or_iff_right Catalogue.notMem_empty)

theorem files_iff_holds : Files {} b calls ↔ b.Holds calls ∧
    b.descriptors.size ≤ maxRegistryEntries ∧ b.identities.size ≤ maxRegistryEntries := by
  have hbound : ∀ {n : ℕ}, (n = 0 ∨ ∀ m ∈ some maxRegistryEntries, n ≤ m) →
      n ≤ maxRegistryEntries := by
    rintro n (rfl | h)
    · exact Nat.zero_le _
    · exact h _ rfl
  have hlimit : ∀ {n : ℕ}, n ≤ maxRegistryEntries → ∀ m ∈ some maxRegistryEntries, n ≤ m := by
    rintro n h m ⟨⟩
    exact h
  constructor
  · intro h
    exact ⟨holds_of_files h, hbound (Catalogue.fileAll_ok_iff.mp h.descriptors).2,
      hbound (Catalogue.fileAll_ok_iff.mp h.identities).2⟩
  · rintro ⟨h, hd, hi⟩
    refine ⟨Catalogue.fileAll_ok_iff.mpr ⟨fun row => ?_, .inr (hlimit hd)⟩,
      Catalogue.fileAll_ok_iff.mpr ⟨fun row => ?_, .inr (hlimit hi)⟩,
      Catalogue.fileAll_ok_iff.mpr ⟨fun row => ?_, .inr ?_⟩,
      Catalogue.fileAll_ok_iff.mpr ⟨fun row => ?_, .inr ?_⟩⟩
    · rw [h.descriptors, Registration.mem_descriptors, or_iff_right Catalogue.notMem_empty]
    · rw [h.identities, Registration.mem_identities, or_iff_right Catalogue.notMem_empty]
    · rw [h.wireProfiles, Registration.mem_wireProfiles, or_iff_right Catalogue.notMem_empty]
    · rintro _ ⟨⟩
    · rw [h.provenance, Registration.mem_provenance, or_iff_right Catalogue.notMem_empty]
    · rintro _ ⟨⟩

/-- **When a new builder accepts all calls.** -/
theorem registerAll_ok_iff : registerAll {} calls = .ok b ↔
    (∀ call ∈ calls, call.Valid) ∧
      (∀ front row rest, calls = front ++ identity row :: rest →
        ∃ typeName, descriptor ⟨row.descriptorId, typeName⟩ ∈ front) ∧
      b.Holds calls ∧
      b.descriptors.size ≤ maxRegistryEntries ∧ b.identities.size ≤ maxRegistryEntries := by
  rw [registerAll_ok_iff_files, files_iff_holds]
  refine and_congr Iff.rfl (and_congr ?_ Iff.rfl)
  refine forall_congr' fun front => forall_congr' fun row => forall_congr' fun rest =>
    imp_congr Iff.rfl ⟨?_, ?_⟩
  · rintro ⟨⟨id, typeName⟩, hd, rfl⟩
    exact ⟨typeName, hd.resolve_left Catalogue.notMem_empty⟩
  · rintro ⟨typeName, hd⟩
    exact ⟨_, .inr hd, rfl⟩

/-! ## Calls of which some are refused -/

/-- A call that is refused leaves the builder as it is. -/
def record (b : SchemaRegistryBuilder) (call : Registration) : SchemaRegistryBuilder :=
  match call.apply b with
  | .ok b' => b'
  | .error _ => b

def run (b : SchemaRegistryBuilder) (calls : List Registration) : SchemaRegistryBuilder :=
  calls.foldl record b

/-- **The calls that are accepted.** -/
def accepted (b : SchemaRegistryBuilder) : List Registration → List Registration
  | [] => []
  | call :: calls =>
    match call.apply b with
    | .ok b' => call :: accepted b' calls
    | .error _ => accepted b calls

/-- What is reached is what the accepted calls come to. -/
theorem registerAll_accepted : registerAll b (accepted b calls) = .ok (run b calls) := by
  induction calls generalizing b with
  | nil => rfl
  | cons call calls ih =>
    rw [accepted, run, List.foldl_cons, record]
    cases hcall : call.apply b with
    | ok b' => exact registerAll_cons.mpr ⟨b', hcall, ih⟩
    | error e => exact ih

theorem accepted_subset : accepted b calls ⊆ calls := by
  induction calls generalizing b with
  | nil => exact List.Subset.refl _
  | cons call calls ih =>
    rw [accepted]
    cases call.apply b with
    | ok b' => exact List.cons_subset_cons _ ih
    | error e => exact List.subset_cons_of_subset _ ih

/-! ## Lookups -/

/-- What a registry that was built holds. -/
structure SchemaRegistry.Sound (registry : SchemaRegistry) : Prop where
  keys : ∀ row ∈ registry.identities, row.key.Valid
  rowIds : ∀ row ∈ registry.wireProfiles, RowIdOk row.supportRowId
  described : ∀ row ∈ registry.identities, ∃ d ∈ registry.descriptors,
    d.descriptorId = row.descriptorId

theorem freeze_ok_iff {registry : SchemaRegistry} : b.freeze = .ok registry ↔
    b.descriptors.rows ≠ [] ∧
      registry = ⟨b.descriptors, b.identities, b.wireProfiles, b.provenance⟩ := by
  unfold SchemaRegistryBuilder.freeze Catalogue.rows
  rw [eq_comm (a := registry)]
  cases b.descriptors.entries <;> simp

theorem sound_of_registerAll {registry : SchemaRegistry} (h : registerAll {} calls = .ok b)
    (hfreeze : b.freeze = .ok registry) : registry.Sound := by
  obtain ⟨hvalid, hpreceded, hholds, -⟩ := registerAll_ok_iff.mp h
  obtain ⟨-, rfl⟩ := freeze_ok_iff.mp hfreeze
  refine ⟨fun row hrow => hvalid _ ((hholds.identities row).mp hrow),
    fun row hrow => (hvalid _ ((hholds.wireProfiles row).mp hrow)).2, fun row hrow => ?_⟩
  obtain ⟨front, rest, heq⟩ := List.append_of_mem ((hholds.identities row).mp hrow)
  obtain ⟨typeName, hd⟩ := hpreceded front row rest heq
  refine ⟨⟨row.descriptorId, typeName⟩, (hholds.descriptors _).mpr ?_, rfl⟩
  rw [heq]
  exact List.mem_append_left _ hd

section Lookup

open SchemaRegistry

variable {registry : SchemaRegistry} {key : SchemaKey} {supportRowId : String}
  {cdrRepresentation : CdrRepresentation} {result : LookupResult}

theorem asU16_injective {rep rep' : CdrRepresentation} (h : rep.asU16.toNat = rep'.asU16.toNat) :
    rep = rep' := by
  cases rep <;> cases rep' <;> first | rfl | exact absurd h (by decide)

/-- An identity found under the scheme and the value of a key, with the other fields the same, is
the identity of the key. -/
theorem key_eq_of_fields {row : IdentityRow}
    (hmapKey : row.mapKey = toLex (key.scheme, key.value))
    (hfields : row.key.typeName = key.typeName ∧ row.key.encoding = key.encoding ∧
      row.key.schemaGeneration = key.schemaGeneration) : row.key = key := by
  obtain ⟨hscheme, hvalue⟩ := Prod.mk.inj (toLex.injective hmapKey)
  obtain ⟨htype, hencoding, hgeneration⟩ := hfields
  obtain ⟨key', descriptorId⟩ := row
  cases key
  cases key'
  cases hscheme
  cases hvalue
  cases htype
  cases hencoding
  cases hgeneration
  rfl

/-- **A lookup joins three tables.** -/
theorem lookup_ok_iff : registry.lookup key supportRowId cdrRepresentation = .ok result ↔
    key.Valid ∧ RowIdOk supportRowId ∧ ∃ descriptorId zeroTailBytes,
      ⟨key, descriptorId⟩ ∈ registry.identities ∧
      ⟨descriptorId, key.typeName⟩ ∈ registry.descriptors ∧
      ⟨key.typeName, supportRowId, cdrRepresentation, zeroTailBytes⟩ ∈ registry.wireProfiles ∧
      result = ⟨key.typeName, descriptorId, zeroTailBytes⟩ := by
  rw [lookup, check_then_ok_iff, check_then_ok_iff, validate_ok_iff, validateSupportRowId,
    validateLength_ok_iff]
  refine and_congr Iff.rfl (and_congr Iff.rfl ?_)
  constructor
  · intro h
    obtain ⟨⟨key', id⟩, hfirst, h⟩ := bind_eq_ok.mp h
    obtain ⟨hfields, h⟩ := check_then_ok_iff.mp h
    obtain ⟨⟨id', typeName⟩, hsecond, h⟩ := bind_eq_ok.mp h
    obtain ⟨hsame, h⟩ := check_then_ok_iff.mp h
    obtain ⟨⟨typeName', rowId, rep, tail⟩, hthird, hresult⟩ := bind_eq_ok.mp h
    have hname := ensure_ok_iff.mp hsame
    obtain ⟨hkey, hidentity⟩ := Catalogue.find?_eq_some_iff.mp (orUnavailable_ok_iff.mp hfirst)
    obtain ⟨hid, hdescriptor⟩ := Catalogue.find?_eq_some_iff.mp (orUnavailable_ok_iff.mp hsecond)
    obtain ⟨hrow, hprofile⟩ := Catalogue.find?_eq_some_iff.mp (orUnavailable_ok_iff.mp hthird)
    obtain ⟨htype', hrow⟩ := Prod.mk.inj (toLex.injective hrow)
    obtain ⟨hrowId, hrep⟩ := Prod.mk.inj (toLex.injective hrow)
    cases key_eq_of_fields hkey (ensure_ok_iff.mp hfields)
    cases hid
    cases hname
    cases htype'
    cases hrowId
    cases asU16_injective hrep
    cases hresult
    exact ⟨_, _, hidentity, hdescriptor, hprofile, rfl⟩
  · rintro ⟨descriptorId, zeroTailBytes, hidentity, hdescriptor, hprofile, rfl⟩
    refine bind_eq_ok.mpr ⟨_, orUnavailable_ok_iff.mpr hidentity, ?_⟩
    refine check_then_ok_iff.mpr ⟨ensure_ok_iff.mpr ⟨rfl, rfl, rfl⟩, ?_⟩
    refine bind_eq_ok.mpr ⟨_, orUnavailable_ok_iff.mpr hdescriptor, ?_⟩
    refine check_then_ok_iff.mpr ⟨ensure_ok_iff.mpr rfl, ?_⟩
    exact bind_eq_ok.mpr ⟨_, orUnavailable_ok_iff.mpr hprofile, rfl⟩

/-- Why a lookup of a valid key fails. -/
inductive Unavailable (registry : SchemaRegistry) (key : SchemaKey) (supportRowId : String)
    (cdrRepresentation : CdrRepresentation) : SchemaError → Prop where
  | identity (h : ∀ row ∈ registry.identities,
      ¬(row.key.scheme = key.scheme ∧ row.key.value = key.value)) :
      Unavailable registry key supportRowId cdrRepresentation
        (.schemaUnavailable s!"no identity for {key.scheme}:{key.value}")
  | fields (row : IdentityRow) (h : row ∈ registry.identities)
      (hscheme : row.key.scheme = key.scheme) (hvalue : row.key.value = key.value)
      (hother : row.key ≠ key) :
      Unavailable registry key supportRowId cdrRepresentation
        (.schemaUnavailable "SchemaKey fields do not match registered identity material")
  | typeName (row : DescriptorRow) (hidentity : ⟨key, row.descriptorId⟩ ∈ registry.identities)
      (h : row ∈ registry.descriptors) (hother : row.typeName ≠ key.typeName) :
      Unavailable registry key supportRowId cdrRepresentation
        (.schemaUnavailable "descriptor type_name does not match SchemaKey")
  | profile (descriptorId : String) (hidentity : ⟨key, descriptorId⟩ ∈ registry.identities)
      (hdescriptor : ⟨descriptorId, key.typeName⟩ ∈ registry.descriptors)
      (h : ∀ zeroTailBytes, ⟨key.typeName, supportRowId, cdrRepresentation, zeroTailBytes⟩ ∉
        registry.wireProfiles) :
      Unavailable registry key supportRowId cdrRepresentation
        (.schemaUnavailable (s!"no wire profile for {key.typeName} / {supportRowId} / 0x" ++
          String.ofList (Engine.hex4 cdrRepresentation.asU16.toNat)))

/-- **Why a lookup fails**: the request is not valid, or a table lacks a row; the descriptor of an
identity is not missing. -/
theorem lookup_error (hsound : registry.Sound) {e : SchemaError}
    (h : registry.lookup key supportRowId cdrRepresentation = .error e) :
    (¬(key.Valid ∧ RowIdOk supportRowId) ∧ e.code = .invalidSchemaKey) ∨
      (key.Valid ∧ RowIdOk supportRowId ∧
        Unavailable registry key supportRowId cdrRepresentation e) := by
  rw [lookup, check_then_error_iff, check_then_error_iff] at h
  rcases h with h | ⟨hkey, h | ⟨hrow, h⟩⟩
  · refine .inl ⟨fun hc => ?_, validate_code h⟩
    rw [validate_ok_iff.mpr hc.1] at h
    cases h
  · refine .inl ⟨fun hc => ?_, validateLength_code h⟩
    rw [validateSupportRowId, validateLength_ok_iff.mpr hc.2] at h
    cases h
  · refine .inr ⟨validate_ok_iff.mp hkey, validateLength_ok_iff.mp hrow, ?_⟩
    rcases bind_eq_error.mp h with habsent | ⟨⟨key', id⟩, hfirst, hchecks⟩
    · obtain ⟨hnone, rfl⟩ := orUnavailable_error_iff.mp habsent
      refine .identity fun row hmem hsame => Catalogue.key_ne_of_find?_eq_none hnone hmem ?_
      rw [IdentityRow.mapKey, hsame.1, hsame.2]
    obtain ⟨hmapKey, hidentity⟩ :=
      Catalogue.find?_eq_some_iff.mp (orUnavailable_ok_iff.mp hfirst)
    obtain ⟨hscheme, hvalue⟩ := Prod.mk.inj (toLex.injective hmapKey)
    rcases check_then_error_iff.mp hchecks with hdiffer | ⟨hfields, hdescribe⟩
    · obtain ⟨hfields, rfl⟩ := ensure_error_iff.mp hdiffer
      refine .fields _ hidentity hscheme hvalue ?_
      rintro rfl
      exact hfields ⟨rfl, rfl, rfl⟩
    obtain rfl : key' = key := key_eq_of_fields hmapKey (ensure_ok_iff.mp hfields)
    rcases bind_eq_error.mp hdescribe with habsent | ⟨d, hsecond, hnames⟩
    · obtain ⟨hnone, -⟩ := orUnavailable_error_iff.mp habsent
      obtain ⟨d, hd, hid⟩ := hsound.described _ hidentity
      exact absurd hid (Catalogue.key_ne_of_find?_eq_none hnone hd)
    obtain ⟨rfl, hdescriptor⟩ :=
      Catalogue.find?_eq_some_iff.mp (orUnavailable_ok_iff.mp hsecond)
    rcases check_then_error_iff.mp hnames with hdiffer | ⟨hsame, hprofiles⟩
    · obtain ⟨hname, rfl⟩ := ensure_error_iff.mp hdiffer
      exact .typeName d hidentity hdescriptor hname
    have hname := ensure_ok_iff.mp hsame
    rcases bind_eq_error.mp hprofiles with habsent | ⟨profile, hprofile, hlast⟩
    · obtain ⟨hnone, rfl⟩ := orUnavailable_error_iff.mp habsent
      refine .profile d.descriptorId hidentity (by rwa [← hname]) fun tail hmem => ?_
      exact Catalogue.key_ne_of_find?_eq_none hnone hmem rfl
    · cases hlast

/-- A frozen builder answers with the join of the accepted calls. -/
theorem lookup_ok_iff_accepted :
    ((run {} calls).freeze >>= fun r => r.lookup key supportRowId cdrRepresentation) =
        .ok result ↔
      RowIdOk supportRowId ∧ ∃ descriptorId zeroTailBytes,
        identity ⟨key, descriptorId⟩ ∈ accepted {} calls ∧
        descriptor ⟨descriptorId, key.typeName⟩ ∈ accepted {} calls ∧
        wireProfile ⟨key.typeName, supportRowId, cdrRepresentation, zeroTailBytes⟩ ∈
          accepted {} calls ∧
        result = ⟨key.typeName, descriptorId, zeroTailBytes⟩ := by
  have hall : registerAll {} (accepted {} calls) = .ok (run {} calls) := registerAll_accepted
  obtain ⟨hvalid, -, hholds, -⟩ := registerAll_ok_iff.mp hall
  rw [bind_eq_ok]
  constructor
  · rintro ⟨r, hfreeze, hlookup⟩
    obtain ⟨-, rfl⟩ := freeze_ok_iff.mp hfreeze
    obtain ⟨-, hrow, descriptorId, tail, hidentity, hdescriptor, hprofile, hresult⟩ :=
      lookup_ok_iff.mp hlookup
    exact ⟨hrow, descriptorId, tail, (hholds.identities _).mp hidentity,
      (hholds.descriptors _).mp hdescriptor, (hholds.wireProfiles _).mp hprofile, hresult⟩
  · rintro ⟨hrow, descriptorId, tail, hidentity, hdescriptor, hprofile, hresult⟩
    have hdescriptor' := (hholds.descriptors _).mpr hdescriptor
    refine ⟨_, freeze_ok_iff.mpr ⟨?_, rfl⟩, lookup_ok_iff.mpr ⟨hvalid _ hidentity, hrow,
      descriptorId, tail, (hholds.identities _).mpr hidentity, hdescriptor',
      (hholds.wireProfiles _).mpr hprofile, hresult⟩⟩
    exact List.ne_nil_of_mem (Catalogue.mem_rows.mpr hdescriptor')

/-- **A builder that was called in any way answers, once it is frozen, with the join of the calls
it accepted.**  Where it has no answer, the request is not valid or one of the three tables lacks a
row; the descriptor an identity names is not missing. -/
theorem lookup_of_run :
    (((run {} calls).freeze >>= fun r => r.lookup key supportRowId cdrRepresentation) =
        .ok result ↔
      RowIdOk supportRowId ∧ ∃ descriptorId zeroTailBytes,
        identity ⟨key, descriptorId⟩ ∈ accepted {} calls ∧
        descriptor ⟨descriptorId, key.typeName⟩ ∈ accepted {} calls ∧
        wireProfile ⟨key.typeName, supportRowId, cdrRepresentation, zeroTailBytes⟩ ∈
          accepted {} calls ∧
        result = ⟨key.typeName, descriptorId, zeroTailBytes⟩) ∧
    ∀ r e, (run {} calls).freeze = .ok r →
      r.lookup key supportRowId cdrRepresentation = .error e →
      (¬(key.Valid ∧ RowIdOk supportRowId) ∧ e.code = .invalidSchemaKey) ∨
        (key.Valid ∧ RowIdOk supportRowId ∧ Unavailable r key supportRowId cdrRepresentation e) :=
  ⟨lookup_ok_iff_accepted, fun _ _ hfreeze hlookup =>
    lookup_error (sound_of_registerAll registerAll_accepted hfreeze) hlookup⟩

end Lookup

/-! ## Loading the metadata -/

section Metadata

def IdentityJson.row (i : IdentityJson) : IdentityRow :=
  ⟨⟨i.scheme, i.value, i.typeName, i.encoding, i.schemaGeneration⟩, i.descriptorId⟩

def WireProfileJson.row (w : WireProfileJson) : Except SchemaError WireProfileRow := do
  let rep ← w.cdrRepresentation.intoRep
  return ⟨w.typeName, w.supportRowId, rep, w.zeroTailBytes⟩

/-- The calls that load the metadata, when the profiles are read. -/
def Metadata.registrations (m : Metadata) (profiles : List WireProfileRow) : List Registration :=
  m.descriptors.map .descriptor ++ m.identities.map (fun i => Registration.identity i.row) ++
    profiles.map .wireProfile ++ m.provenance.map .provenance

variable {m : Metadata} {registry : SchemaRegistry}

/-! ### The files -/

theorem registerAll_append {calls calls' : List Registration} :
    registerAll b (calls ++ calls') = .ok b' ↔
      ∃ middle, registerAll b calls = .ok middle ∧ registerAll middle calls' = .ok b' := by
  rw [registerAll, List.foldlM_append, bind_eq_ok]
  rfl

theorem loadDescriptors_eq {rows : List DescriptorRow} :
    loadDescriptors rows b = registerAll b (rows.map .descriptor) := by
  rw [registerAll, List.foldlM_map]
  rfl

theorem loadProvenance_eq {rows : List ProvenanceRow} :
    loadProvenance rows b = registerAll b (rows.map .provenance) := by
  rw [registerAll, List.foldlM_map]
  rfl

/-- A key is checked twice, with one outcome. -/
theorem new_then_registerIdentity (i : IdentityJson) (b : SchemaRegistryBuilder) :
    (SchemaKey.new i.scheme i.value i.typeName i.encoding i.schemaGeneration >>=
      fun key => b.registerIdentity key i.descriptorId) =
        (Registration.identity i.row).apply b := by
  have hkey : SchemaKey.new i.scheme i.value i.typeName i.encoding i.schemaGeneration =
      i.row.key.validate >>= fun _ => pure i.row.key := rfl
  have hregister : (Registration.identity i.row).apply b =
      b.registerIdentity i.row.key i.descriptorId := rfl
  rw [hkey, hregister]
  cases hvalid : i.row.key.validate with
  | error e =>
    unfold SchemaRegistryBuilder.registerIdentity
    rw [hvalid]
    rfl
  | ok => rfl

theorem loadIdentities_eq {rows : List IdentityJson} :
    loadIdentities rows b = registerAll b (rows.map fun i => .identity i.row) := by
  rw [registerAll, List.foldlM_map, loadIdentities]
  congr
  funext b i
  exact new_then_registerIdentity i b

theorem loadWireProfiles_ok_iff {rows : List WireProfileJson} :
    loadWireProfiles rows b = .ok b' ↔ ∃ profiles, rows.mapM WireProfileJson.row = .ok profiles ∧
      registerAll b (profiles.map .wireProfile) = .ok b' := by
  induction rows generalizing b with
  | nil =>
    rw [loadWireProfiles, List.foldlM_nil, List.mapM_nil]
    constructor
    · intro h
      exact ⟨[], rfl, h⟩
    · rintro ⟨_, ⟨⟩, h⟩
      exact h
  | cons w rows ih =>
    have hcons : loadWireProfiles (w :: rows) b = .ok b' ↔ ∃ rep, w.cdrRepresentation.intoRep =
        .ok rep ∧ ∃ middle, b.registerWireProfile w.typeName w.supportRowId rep w.zeroTailBytes =
          .ok middle ∧ loadWireProfiles rows middle = .ok b' := by
      rw [loadWireProfiles, List.foldlM_cons, bind_eq_ok]
      constructor
      · rintro ⟨middle, hmiddle, hrest⟩
        obtain ⟨rep, hrep, hmiddle⟩ := bind_eq_ok.mp hmiddle
        exact ⟨rep, hrep, middle, hmiddle, hrest⟩
      · rintro ⟨rep, hrep, middle, hmiddle, hrest⟩
        exact ⟨middle, bind_eq_ok.mpr ⟨rep, hrep, hmiddle⟩, hrest⟩
    rw [hcons, List.mapM_cons]
    constructor
    · rintro ⟨rep, hrep, middle, hmiddle, hrest⟩
      obtain ⟨profiles, hprofiles, hregister⟩ := ih.mp hrest
      refine ⟨⟨w.typeName, w.supportRowId, rep, w.zeroTailBytes⟩ :: profiles, ?_, ?_⟩
      · exact bind_eq_ok.mpr ⟨_, bind_eq_ok.mpr ⟨rep, hrep, rfl⟩,
          bind_eq_ok.mpr ⟨profiles, hprofiles, rfl⟩⟩
      · exact registerAll_cons.mpr ⟨middle, hmiddle, hregister⟩
    · rintro ⟨all, hall, hregister⟩
      obtain ⟨row, hrow, hall⟩ := bind_eq_ok.mp hall
      obtain ⟨rep, hrep, heq⟩ := bind_eq_ok.mp hrow
      obtain ⟨profiles, hprofiles, heq'⟩ := bind_eq_ok.mp hall
      cases heq
      cases heq'
      obtain ⟨middle, hmiddle, hrest⟩ := registerAll_cons.mp hregister
      exact ⟨rep, hrep, middle, hmiddle, ih.mpr ⟨profiles, hprofiles, hrest⟩⟩

/-- Loading is registering what the files hold. -/
theorem phase1_ok_iff_calls : phase1 m = .ok registry ↔
    ∃ profiles, m.wireProfiles.mapM WireProfileJson.row = .ok profiles ∧
      ∃ b, registerAll {} (m.registrations profiles) = .ok b ∧ b.freeze = .ok registry := by
  rw [phase1, bind_eq_ok]
  simp only [bind_eq_ok, loadDescriptors_eq, loadIdentities_eq, loadProvenance_eq,
    loadWireProfiles_ok_iff, Metadata.registrations, registerAll_append]
  constructor
  · rintro ⟨b₁, h₁, b₂, h₂, b₃, ⟨profiles, hprofiles, h₃⟩, b₄, h₄, hfreeze⟩
    exact ⟨profiles, hprofiles, b₄, ⟨b₃, ⟨b₂, ⟨b₁, h₁, h₂⟩, h₃⟩, h₄⟩, hfreeze⟩
  · rintro ⟨profiles, hprofiles, b₄, ⟨b₃, ⟨b₂, ⟨b₁, h₁, h₂⟩, h₃⟩, h₄⟩, hfreeze⟩
    exact ⟨b₁, h₁, b₂, h₂, b₃, ⟨profiles, hprofiles, h₃⟩, b₄, h₄, hfreeze⟩

/-! ### What loads -/

theorem identity_mem_calls {profiles : List WireProfileRow} {row : IdentityRow} :
    Registration.identity row ∈ m.registrations profiles ↔ ∃ i ∈ m.identities, i.row = row := by
  simp [Metadata.registrations]

theorem descriptor_mem_calls {profiles : List WireProfileRow} {row : DescriptorRow} :
    Registration.descriptor row ∈ m.registrations profiles ↔ row ∈ m.descriptors := by
  simp [Metadata.registrations]

theorem wireProfile_mem_calls {profiles : List WireProfileRow} {row : WireProfileRow} :
    Registration.wireProfile row ∈ m.registrations profiles ↔ row ∈ profiles := by
  simp [Metadata.registrations]

theorem provenance_mem_calls {profiles : List WireProfileRow} {row : ProvenanceRow} :
    Registration.provenance row ∈ m.registrations profiles ↔ row ∈ m.provenance := by
  simp [Metadata.registrations]

/-- Rows that are read one by one. -/
theorem mapM_ok_iff {α β ε : Type} {f : α → Except ε β} {xs : List α} {ys : List β} :
    xs.mapM f = .ok ys ↔ List.Forall₂ (fun x y => f x = .ok y) xs ys := by
  induction xs generalizing ys with
  | nil =>
    rw [List.mapM_nil, List.forall₂_nil_left_iff, eq_comm (a := ys)]
    exact (Except.ok.injEq ..).to_iff
  | cons x xs ih =>
    rw [List.mapM_cons, bind_eq_ok, List.forall₂_cons_left_iff]
    constructor
    · rintro ⟨y, hy, hrest⟩
      obtain ⟨ys', hys, heq⟩ := bind_eq_ok.mp hrest
      cases heq
      exact ⟨y, ys', hy, ih.mp hys, rfl⟩
    · rintro ⟨y, ys', hy, hys, rfl⟩
      exact ⟨y, hy, bind_eq_ok.mpr ⟨ys', ih.mpr hys, rfl⟩⟩

theorem mem_of_forall₂ {α β ε : Type} {f : α → Except ε β} {xs : List α} {ys : List β}
    (h : List.Forall₂ (fun x y => f x = .ok y) xs ys) {y : β} :
    y ∈ ys ↔ ∃ x ∈ xs, f x = .ok y := by
  induction h with
  | nil => simp
  | cons hxy _ ih =>
    rw [List.mem_cons, ih, List.exists_mem_cons_iff, hxy, Except.ok.injEq, eq_comm]

theorem exists_forall₂_iff {α β ε : Type} {f : α → Except ε β} {xs : List α} :
    (∃ ys, List.Forall₂ (fun x y => f x = .ok y) xs ys) ↔ ∀ x ∈ xs, ∃ y, f x = .ok y := by
  induction xs with
  | nil => exact iff_of_true ⟨[], .nil⟩ (List.forall_mem_nil _)
  | cons x xs ih =>
    rw [List.forall_mem_cons, ← ih]
    constructor
    · rintro ⟨_, h⟩
      obtain ⟨y, ys, hy, hys, -⟩ := List.forall₂_cons_left_iff.mp h
      exact ⟨⟨y, hy⟩, ys, hys⟩
    · rintro ⟨⟨y, hy⟩, ys, hys⟩
      exact ⟨y :: ys, .cons hy hys⟩

/-- **Metadata whose rows pass the checks**, with a descriptor for each identity. -/
structure Metadata.Sound (m : Metadata) : Prop where
  nonempty : m.descriptors ≠ []
  descriptors : ∀ d ∈ m.descriptors, NameOk d.typeName ∧ d.descriptorId ≠ ""
  identities : ∀ i ∈ m.identities, i.row.key.Valid ∧
    ∃ d ∈ m.descriptors, d.descriptorId = i.descriptorId
  wireProfiles : ∀ w ∈ m.wireProfiles, NameOk w.typeName ∧ RowIdOk w.supportRowId ∧
    ∃ rep, w.cdrRepresentation.intoRep = .ok rep
  provenance : ∀ p ∈ m.provenance, identityOk schemeRep2011Rihs p.rihs = true ∧
    identityOk schemeRclwebSchemaV1 p.bundleSha256 = true ∧ NameOk p.typeName

/-- **A registry holds the rows of the metadata** and no others. -/
structure SchemaRegistry.Holds (registry : SchemaRegistry) (m : Metadata) : Prop where
  descriptors : ∀ row, row ∈ registry.descriptors ↔ row ∈ m.descriptors
  identities : ∀ row, row ∈ registry.identities ↔ ∃ i ∈ m.identities, i.row = row
  wireProfiles : ∀ row, row ∈ registry.wireProfiles ↔ ∃ w ∈ m.wireProfiles, w.row = .ok row
  provenance : ∀ row, row ∈ registry.provenance ↔ row ∈ m.provenance

theorem row_ok_iff {w : WireProfileJson} {row : WireProfileRow} : w.row = .ok row ↔
    ∃ rep, w.cdrRepresentation.intoRep = .ok rep ∧
      ⟨w.typeName, w.supportRowId, rep, w.zeroTailBytes⟩ = row := by
  rw [WireProfileJson.row, bind_eq_ok]
  exact exists_congr fun rep => and_congr Iff.rfl (Except.ok.injEq ..).to_iff

/-- The descriptors stand before the identities. -/
theorem preceded_calls {profiles : List WireProfileRow} :
    (∀ front row rest, m.registrations profiles = front ++ Registration.identity row :: rest →
      ∃ typeName, Registration.descriptor ⟨row.descriptorId, typeName⟩ ∈ front) ↔
      ∀ i ∈ m.identities, ∃ d ∈ m.descriptors, d.descriptorId = i.descriptorId := by
  constructor
  · intro h i hi
    have hmem : Registration.identity i.row ∈ m.registrations profiles :=
      identity_mem_calls.mpr ⟨i, hi, rfl⟩
    obtain ⟨front, rest, heq⟩ := List.append_of_mem hmem
    obtain ⟨typeName, hbefore⟩ := h front i.row rest heq
    have hd : .descriptor ⟨i.descriptorId, typeName⟩ ∈ m.registrations profiles := by
      rw [heq]
      exact List.mem_append_left _ hbefore
    exact ⟨_, descriptor_mem_calls.mp hd, rfl⟩
  · intro h front row rest heq
    have hrow : .identity row ∈ m.registrations profiles := by
      rw [heq]
      exact List.mem_append_right _ List.mem_cons_self
    obtain ⟨i, hi, rfl⟩ := identity_mem_calls.mp hrow
    obtain ⟨⟨id, typeName⟩, hd, hid⟩ := h i hi
    cases hid
    refine ⟨typeName, ?_⟩
    have hfirst : ∃ later, m.registrations profiles = m.descriptors.map .descriptor ++ later :=
      ⟨_, by rw [Metadata.registrations, List.append_assoc, List.append_assoc]⟩
    obtain ⟨later, hlater⟩ := hfirst
    rw [hlater] at heq
    -- the identity is not among the descriptors, so that these end before it
    rcases List.append_eq_append_iff.mp heq with ⟨more, rfl, -⟩ | ⟨more, hmore, hrest⟩
    · exact List.mem_append_left _ (List.mem_map_of_mem hd)
    · cases more with
      | nil =>
        rw [List.append_nil] at hmore
        rw [← hmore]
        exact List.mem_map_of_mem hd
      | cons first more =>
        obtain ⟨rfl, -⟩ := List.cons.inj hrest
        have hmem : Registration.identity i.row ∈ m.descriptors.map Registration.descriptor := by
          rw [hmore]
          exact List.mem_append_right _ List.mem_cons_self
        obtain ⟨d, -, hd⟩ := List.mem_map.mp hmem
        cases hd

/-- **When the metadata loads, and what the registry is then.** -/
theorem phase1_ok_iff : phase1 m = .ok registry ↔ m.Sound ∧ registry.Holds m ∧
    registry.descriptors.size ≤ maxRegistryEntries ∧
    registry.identities.size ≤ maxRegistryEntries := by
  rw [phase1_ok_iff_calls]
  constructor
  · rintro ⟨profiles, hprofiles, b, hall, hfreeze⟩
    obtain ⟨hnonempty, rfl⟩ := freeze_ok_iff.mp hfreeze
    obtain ⟨hvalid, hpreceded, hholds, hsizes⟩ := registerAll_ok_iff.mp hall
    have hrows := mapM_ok_iff.mp hprofiles
    have hdescribed := preceded_calls.mp hpreceded
    refine ⟨⟨?_, fun d hd => hvalid _ (descriptor_mem_calls.mpr hd),
      fun i hi => ⟨hvalid _ (identity_mem_calls.mpr ⟨i, hi, rfl⟩), hdescribed i hi⟩, ?_,
      fun p hp => hvalid _ (provenance_mem_calls.mpr hp)⟩, ⟨?_, ?_, ?_, ?_⟩, hsizes⟩
    · rintro hempty
      obtain ⟨row, hrow⟩ := List.exists_mem_of_ne_nil _ hnonempty
      have hmem := descriptor_mem_calls.mp
        ((hholds.descriptors row).mp (Catalogue.mem_rows.mp hrow))
      rw [hempty] at hmem
      exact List.not_mem_nil hmem
    · intro w hw
      obtain ⟨row, hrow⟩ := exists_forall₂_iff.mp ⟨profiles, hrows⟩ w hw
      obtain ⟨rep, hrep, rfl⟩ := row_ok_iff.mp hrow
      have hname := hvalid _ (wireProfile_mem_calls.mpr ((mem_of_forall₂ hrows).mpr ⟨w, hw, hrow⟩))
      exact ⟨hname.1, hname.2, rep, hrep⟩
    · exact fun row => (hholds.descriptors row).trans descriptor_mem_calls
    · exact fun row => (hholds.identities row).trans identity_mem_calls
    · exact fun row => ((hholds.wireProfiles row).trans wireProfile_mem_calls).trans
        (mem_of_forall₂ hrows)
    · exact fun row => (hholds.provenance row).trans provenance_mem_calls
  · rintro ⟨hsound, hholds, hsizes⟩
    have hread : ∀ w ∈ m.wireProfiles, ∃ row, w.row = .ok row := by
      intro w hw
      obtain ⟨-, -, rep, hrep⟩ := hsound.wireProfiles w hw
      exact ⟨_, row_ok_iff.mpr ⟨rep, hrep, rfl⟩⟩
    obtain ⟨profiles, hrows⟩ := exists_forall₂_iff.mpr hread
    refine ⟨profiles, mapM_ok_iff.mpr hrows, ⟨registry.descriptors, registry.identities,
      registry.wireProfiles, registry.provenance⟩, registerAll_ok_iff.mpr ⟨?_,
      preceded_calls.mpr fun i hi => (hsound.identities i hi).2, ⟨?_, ?_, ?_, ?_⟩, hsizes⟩,
      freeze_ok_iff.mpr ⟨?_, rfl⟩⟩
    · intro call hcall
      cases call with
      | descriptor row => exact hsound.descriptors row (descriptor_mem_calls.mp hcall)
      | identity row =>
        obtain ⟨i, hi, rfl⟩ := identity_mem_calls.mp hcall
        exact (hsound.identities i hi).1
      | wireProfile row =>
        obtain ⟨w, hw, hrow⟩ := (mem_of_forall₂ hrows).mp (wireProfile_mem_calls.mp hcall)
        obtain ⟨rep, hrep, rfl⟩ := row_ok_iff.mp hrow
        obtain ⟨hname, hrowId, -⟩ := hsound.wireProfiles w hw
        exact ⟨hname, hrowId⟩
      | provenance row => exact hsound.provenance row (provenance_mem_calls.mp hcall)
    · exact fun row => (hholds.descriptors row).trans descriptor_mem_calls.symm
    · exact fun row => (hholds.identities row).trans identity_mem_calls.symm
    · exact fun row => (hholds.wireProfiles row).trans
        ((wireProfile_mem_calls.trans (mem_of_forall₂ hrows)).symm)
    · exact fun row => (hholds.provenance row).trans provenance_mem_calls.symm
    · obtain ⟨d, hd⟩ := List.exists_mem_of_ne_nil _ hsound.nonempty
      exact List.ne_nil_of_mem (Catalogue.mem_rows.mpr ((hholds.descriptors d).mpr hd))

end Metadata

end Registry
end Rclweb
