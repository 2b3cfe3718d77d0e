import Rclweb.Library.Checklist
import Rclweb.Protocol.Bootstrap
import Rclweb.Protocol.Control

/-!
# What a payload is refused for

The surface of control errors tells a payload that is too large from one of the wrong shape by the
reason.  No check of a shape gives the reason of the other, so a payload within its size that is
refused is refused for its shape (`reason_of_decodeControlMessage`).  The checks of the shape of a
bootstrap record all report the same step and code (`faultsInShape_decodePayloadByKind`).
-/

namespace Rclweb
namespace Control

open Checklist Checklist.Faults

/-- **A computation that fails for the shape only.** -/
abbrev FaultsInShape {α : Type} (x : Except ControlError α) : Prop :=
  Faults (fun e : ControlError => e.reason ≠ "payload_too_large") x

theorem refuse {α : Type} {reason : String} (h : reason ≠ "payload_too_large") :
    FaultsInShape (.error (fail reason) : Except ControlError α) :=
  .error h

/-! ## Values -/

theorem faultsInShape_asInteger (value : CborValue) : FaultsInShape (asInteger value) := by
  unfold asInteger
  split
  · exact ok _
  · exact ok _
  · exact refuse (by decide)

theorem faultsInShape_asUint (value : CborValue) (min max : ℕ) :
    FaultsInShape (asUint value min max) := by
  refine bind (faultsInShape_asInteger value) fun n => ?_
  split
  · exact refuse (by decide)
  · exact ok _

theorem faultsInShape_asInt64 (value : CborValue) : FaultsInShape (asInt64 value) := by
  refine bind (faultsInShape_asInteger value) fun n => ?_
  split
  · exact refuse (by decide)
  · exact ok _

theorem faultsInShape_mapFromValue (value : CborValue) : FaultsInShape (mapFromValue value) := by
  unfold mapFromValue
  repeat' split
  · exact ok _
  · exact refuse (by decide)
  · exact refuse (by decide)

theorem faultsInShape_getOr (raw : List (UInt64 × CborValue)) (key : UInt64) {reason : String}
    (h : reason ≠ "payload_too_large") : FaultsInShape (getOr raw key reason) := by
  unfold getOr
  split
  · exact ok _
  · exact refuse h

/-! ## Arrays -/

theorem faultsInShape_checkAscending {κ : Type} {eq lt : κ → κ → Bool}
    {key : CborValue → Except ControlError κ} (hkey : ∀ el, FaultsInShape (key el))
    (prev : Option κ) (els : List CborValue) :
    FaultsInShape (checkAscending eq lt key prev els) := by
  induction els generalizing prev with
  | nil => exact ok _
  | cons el els ih =>
    refine bind (hkey el) fun k => ?_
    cases prev with
    | none => exact ih _
    | some p =>
      dsimp only
      split_ifs
      · exact refuse (by decide)
      · exact refuse (by decide)
      · exact ih _

theorem faultsInShape_channelIdKey (el : CborValue) : FaultsInShape (channelIdKey el) :=
  bind (faultsInShape_mapFromValue el) fun _ =>
    bind (faultsInShape_getOr _ _ (by decide)) fun _ => faultsInShape_asUint _ _ _

theorem faultsInShape_idBytesKey (key : UInt64) (el : CborValue) :
    FaultsInShape (idBytesKey key el) := by
  refine bind (faultsInShape_mapFromValue el) fun _ =>
    bind (faultsInShape_getOr _ _ (by decide)) fun v => ?_
  split
  · exact ok _
  · exact refuse (by decide)

theorem faultsInShape_applyArrayRule (items : List CborValue) (rule : Option ArrayRule) :
    FaultsInShape (applyArrayRule items rule) := by
  unfold applyArrayRule
  split
  · exact ok _
  · exact faultsInShape_checkAscending (fun _ => faultsInShape_asUint _ _ _) none items
  · exact faultsInShape_checkAscending faultsInShape_channelIdKey none items
  · exact faultsInShape_checkAscending (faultsInShape_idBytesKey 55) none items
  · exact faultsInShape_checkAscending (faultsInShape_idBytesKey 56) none items

theorem faultsInShape_mapM {α β : Type} {f : α → Except ControlError β}
    (h : ∀ a, FaultsInShape (f a)) (items : List α) : FaultsInShape (items.mapM f) := by
  induction items with
  | nil => exact ok _
  | cons a items ih =>
    rw [List.mapM_cons]
    exact bind (h a) fun _ => bind ih fun _ => ok _

/-! ## Shapes -/

theorem faultsInShape_validateSchemaIdentity (value : CborValue) :
    FaultsInShape (validateSchemaIdentity value) := by
  refine bind (faultsInShape_mapFromValue value) fun m => ?_
  split
  · exact refuse (by decide)
  · refine bind (faultsInShape_getOr _ _ (by decide)) fun _ =>
      bind (faultsInShape_getOr _ _ (by decide)) fun _ => ?_
    repeat' split
    · exact ok _
    · exact refuse (by decide)
    · exact refuse (by decide)

section Inner

variable {inner : Schema → CborValue → Except ControlError CborValue}

theorem faultsInShape_validateByHistory (hinner : ∀ s v, FaultsInShape (inner s v))
    (shape : ℕ → Option Schema) (value : CborValue) :
    FaultsInShape (validateByHistory inner shape value) := by
  refine bind ?_ fun h => ?_
  · exact bind (faultsInShape_mapFromValue value) fun _ =>
      bind (faultsInShape_getOr _ _ (by decide)) fun _ => faultsInShape_asUint _ _ _
  · split
    · exact hinner _ _
    · exact refuse (by decide)

mutual

theorem faultsInShape_validateWith (hinner : ∀ s v, FaultsInShape (inner s v)) :
    ∀ (s : Schema) (v : CborValue), FaultsInShape (validateWith inner s v)
  | .bool, v => by
    unfold validateWith
    split
    · exact ok _
    · exact refuse (by decide)
  | .constU64 c, v => by
    rw [validateWith]
    refine bind (faultsInShape_asUint _ _ _) fun n => ?_
    split
    · exact refuse (by decide)
    · exact ok _
  | .constBool c, v => by
    unfold validateWith
    repeat' split
    · exact ok _
    · exact refuse (by decide)
    · exact refuse (by decide)
  | .uint min max, v => by
    rw [validateWith]
    refine bind (faultsInShape_asUint _ _ _) fun n => ?_
    split
    · exact refuse (by decide)
    · exact ok _
  | .int64, v => by
    rw [validateWith]
    refine bind (faultsInShape_asInt64 _) fun n => ?_
    split
    · exact ok _
    · exact ok _
  | .text _ _ _, v => by
    unfold validateWith
    repeat' split
    · exact refuse (by decide)
    · exact refuse (by decide)
    · exact ok _
    · exact refuse (by decide)
  | .bytes _ _, v => by
    unfold validateWith
    repeat' split
    · exact refuse (by decide)
    · exact ok _
    · exact refuse (by decide)
  | .array _ _ items rule, v => by
    unfold validateWith
    repeat' split
    · exact refuse (by decide)
    · exact bind (faultsInShape_mapM (faultsInShape_validateWith hinner items) _) fun _ =>
        bind (faultsInShape_applyArrayRule _ rule) fun _ => ok _
    · exact refuse (by decide)
  | .mapDyn fields, v => by
    rw [validateWith]
    refine bind (faultsInShape_mapFromValue v) fun raw => ?_
    split
    · exact refuse (by decide)
    · exact bind (faultsInShape_validateFields hinner fields raw) fun _ => ok _
  | .union variants, v => by
    rw [validateWith]
    exact faultsInShape_validateVariants hinner variants v _ (by decide)
  | .identity, v => by
    rw [validateWith]
    exact faultsInShape_validateSchemaIdentity v
  | .qos, v | .effectiveQos, v | .effectiveServiceQos, v => by
    rw [validateWith]
    exact faultsInShape_validateByHistory hinner _ v
  | .actionQos, v | .effectiveActionQos, v => by
    rw [validateWith]
    exact hinner _ v

theorem faultsInShape_validateFields (hinner : ∀ s v, FaultsInShape (inner s v)) :
    ∀ (fields : List (UInt64 × Bool × Schema)) (raw : List (UInt64 × CborValue)),
      FaultsInShape (validateFields inner fields raw)
  | [], _ => by
    rw [validateFields]
    exact ok _
  | field :: fields, raw => by
    rw [validateFields]
    exact bind (faultsInShape_validateField hinner field raw) fun _ =>
      bind (faultsInShape_validateFields hinner fields raw) fun _ => ok _

theorem faultsInShape_validateField (hinner : ∀ s v, FaultsInShape (inner s v)) :
    ∀ (field : UInt64 × Bool × Schema) (raw : List (UInt64 × CborValue)),
      FaultsInShape (validateField inner field raw)
  | (key, rest), raw => by
    rw [validateField]
    exact faultsInShape_validateKeyed hinner rest key raw

theorem faultsInShape_validateKeyed (hinner : ∀ s v, FaultsInShape (inner s v)) :
    ∀ (rest : Bool × Schema) (key : UInt64) (raw : List (UInt64 × CborValue)),
      FaultsInShape (validateKeyed inner rest key raw)
  | (_, schema), key, raw => by
    rw [validateKeyed]
    repeat' split
    · exact refuse (by decide)
    · exact ok _
    · exact bind (faultsInShape_validateWith hinner schema _) fun _ => ok _

theorem faultsInShape_validateVariants (hinner : ∀ s v, FaultsInShape (inner s v)) :
    ∀ (variants : List Schema) (v : CborValue) (last : ControlError),
      last.reason ≠ "payload_too_large" → FaultsInShape (validateVariants inner variants v last)
  | [], v, last, hlast => by
    rw [validateVariants]
    rintro e ⟨⟩
    exact hlast
  | variant :: variants, v, _, _ => by
    rw [validateVariants]
    cases hvariant : validateWith inner variant v with
    | ok w => exact ok w
    | error e =>
      exact faultsInShape_validateVariants hinner variants v e
        (faultsInShape_validateWith hinner variant v e hvariant)

end

end Inner

theorem faultsInShape_validateSchema (s : Schema) (v : CborValue) :
    FaultsInShape (validateSchema s v) :=
  faultsInShape_validateWith (faultsInShape_validateWith
    (faultsInShape_validateWith fun _ _ => refuse (by decide))) s v

/-! ## Messages -/

theorem faultsInShape_validateOpenChannel (value : CborValue) :
    FaultsInShape (validateOpenChannel value) := by
  refine bind (faultsInShape_mapFromValue value) fun _ =>
    bind (faultsInShape_getOr _ _ (by decide)) fun _ =>
      bind (faultsInShape_asUint _ _ _) fun cls => ?_
  split
  all_goals first
    | exact faultsInShape_validateSchema _ _
    | exact refuse (by decide)

theorem faultsInShape_textField (fields : List (UInt64 × CborValue)) (key : UInt64) :
    FaultsInShape (textField fields key) := by
  unfold textField
  split
  · exact ok _
  · exact refuse (by decide)

theorem faultsInShape_assertSessionReadyTriple (fields : List (UInt64 × CborValue)) :
    FaultsInShape (assertSessionReadyTriple fields) := by
  refine bind (faultsInShape_textField _ _) fun _ => bind (faultsInShape_textField _ _) fun _ =>
    bind (faultsInShape_textField _ _) fun _ => ?_
  repeat' split
  · exact refuse (by decide)
  · exact refuse (by decide)
  · exact ok _

theorem faultsInShape_validateControlMessage (value : CborValue) :
    FaultsInShape (validateControlMessage value) := by
  refine bind (faultsInShape_mapFromValue value) fun _ =>
    bind (faultsInShape_getOr _ _ (by decide)) fun _ =>
      bind (faultsInShape_asUint _ _ _) fun kind => ?_
  dsimp only
  split
  · exact refuse (by decide)
  · refine bind ?_ fun validated => ?_
    · unfold validateKind
      split
      · exact faultsInShape_validateOpenChannel value
      · exact faultsInShape_validateSchema _ value
    · split
      · split
        · exact bind (faultsInShape_assertSessionReadyTriple _) fun _ => ok _
        · exact ok _
      · exact refuse (by decide)

/-- **A payload within its size is refused for its shape.** -/
theorem reason_of_decodeControlMessage {bytes : List UInt8} {e : ControlError}
    (hsize : bytes.length ≤ controlPayloadMaxBytes) (h : decodeControlMessage bytes = .error e) :
    e.reason ≠ "payload_too_large" := by
  rw [decodeControlMessage, if_neg (Nat.not_lt.mpr hsize)] at h
  split at h
  · cases h
    exact (show ("cbor_profile" : String) ≠ "payload_too_large" by decide)
  · exact faultsInShape_validateControlMessage _ e h

end Control

/-! ## Bootstrap records -/

namespace Bootstrap

open Checklist Checklist.Faults

/-- **A computation that fails for the shape of a bootstrap record only.** -/
abbrev FaultsInShape {α : Type} (x : Except ProtocolError α) : Prop :=
  Faults (fun e : ProtocolError => e.step = 9 ∧ e.code = 1) x

theorem malformed {α : Type} (reason : String) (offset : ℕ) :
    FaultsInShape (.error (.malformedBootstrap reason offset 9) : Except ProtocolError α) :=
  .error ⟨rfl, rfl⟩

theorem faultsInShape_asMap (value : CborValue) (offset : ℕ) :
    FaultsInShape (asMap value offset) := by
  unfold asMap
  split
  · exact ok _
  · exact malformed _ _

theorem faultsInShape_requireExactKeys (map : Entries) (required optional : List UInt64)
    (offset : ℕ) : FaultsInShape (requireExactKeys map required optional offset) := by
  unfold requireExactKeys
  split_ifs
  · exact malformed _ _
  · exact malformed _ _
  · exact ok _

theorem faultsInShape_asBool (value : CborValue) (offset : ℕ) :
    FaultsInShape (asBool value offset) := by
  unfold asBool
  split
  · exact ok _
  · exact malformed _ _

theorem faultsInShape_asUintRange (value : CborValue) (offset min max : ℕ) :
    FaultsInShape (asUintRange value offset min max) := by
  unfold asUintRange
  dsimp only
  repeat' split
  · exact malformed _ _
  · exact ok _
  · exact malformed _ _
  · exact ok _
  · exact malformed _ _

theorem faultsInShape_asText (value : CborValue) (offset : ℕ) :
    FaultsInShape (asText value offset) := by
  unfold asText
  repeat' split
  · exact malformed _ _
  · exact ok _
  · exact malformed _ _

theorem faultsInShape_asArray (value : CborValue) (offset : ℕ) :
    FaultsInShape (asArray value offset) := by
  unfold asArray
  split
  · exact ok _
  · exact malformed _ _

theorem faultsInShape_optional {α : Type} {decode : CborValue → Except ProtocolError α}
    (h : ∀ v, FaultsInShape (decode v)) (map : Entries) (key : UInt64) :
    FaultsInShape (optional map key decode) := by
  unfold optional
  split
  · exact .map (h _)
  · exact ok _

theorem faultsInShape_decodeTransport (value : CborValue) (offset : ℕ) :
    FaultsInShape (decodeTransport value offset) :=
  bind (faultsInShape_asMap _ _) fun _ => bind (faultsInShape_requireExactKeys _ _ _ _) fun _ =>
    bind (faultsInShape_asBool _ _) fun _ => bind (faultsInShape_asBool _ _) fun _ =>
      bind (faultsInShape_optional (fun _ => .map (faultsInShape_asUintRange _ _ _ _)) _ _)
        fun _ => ok _

theorem faultsInShape_decodeBuffer (value : CborValue) (offset : ℕ) :
    FaultsInShape (decodeBuffer value offset) :=
  bind (faultsInShape_asMap _ _) fun _ => bind (faultsInShape_requireExactKeys _ _ _ _) fun _ =>
    bind (faultsInShape_asBool _ _) fun _ => bind (faultsInShape_asBool _ _) fun _ => ok _

theorem faultsInShape_decodeVersions (offset : ℕ) (seen : List UInt8) (els : List CborValue) :
    FaultsInShape (decodeVersions offset seen els) := by
  induction els generalizing seen with
  | nil => exact ok _
  | cons el els ih =>
    refine bind (.map (faultsInShape_asUintRange _ _ _ _)) fun v => ?_
    split
    · exact malformed _ _
    · exact bind (ih _) fun _ => ok _

theorem faultsInShape_decodeWireVersions (value : CborValue) (offset : ℕ) :
    FaultsInShape (decodeWireVersions value offset) := by
  refine bind (faultsInShape_asArray _ _) fun arr => ?_
  split
  · exact malformed _ _
  · exact faultsInShape_decodeVersions _ _ _

theorem faultsInShape_decodeCapabilityIds (offset : ℕ) (prev : Option UInt16)
    (els : List CborValue) : FaultsInShape (decodeCapabilityIds offset prev els) := by
  induction els generalizing prev with
  | nil => exact ok _
  | cons el els ih =>
    refine bind (faultsInShape_asUintRange _ _ _ _) fun v => ?_
    dsimp only
    split_ifs
    · exact malformed _ _
    · exact malformed _ _
    · exact bind (ih _) fun _ => ok _

theorem faultsInShape_decodeExtensionCapabilities (value : CborValue) (offset : ℕ) :
    FaultsInShape (decodeExtensionCapabilities value offset) := by
  refine bind (faultsInShape_asArray _ _) fun arr => ?_
  split
  · exact malformed _ _
  · exact faultsInShape_decodeCapabilityIds _ _ _

theorem faultsInShape_decodeRequestedLimits (value : CborValue) (offset : ℕ) :
    FaultsInShape (decodeRequestedLimits value offset) := by
  have hfield : ∀ {α : Type} (f : ℕ → α) (max : ℕ) (v : CborValue),
      FaultsInShape (f <$> asUintRange v offset 0 max) := fun _ _ _ =>
    .map (faultsInShape_asUintRange _ _ _ _)
  exact bind (faultsInShape_asMap _ _) fun _ =>
    bind (faultsInShape_requireExactKeys _ _ _ _) fun _ =>
      bind (faultsInShape_optional (hfield _ _) _ _) fun _ =>
        bind (faultsInShape_optional (hfield _ _) _ _) fun _ =>
          bind (faultsInShape_optional (hfield _ _) _ _) fun _ =>
            bind (faultsInShape_optional (hfield _ _) _ _) fun _ => ok _

theorem faultsInShape_decodeEffectiveLimits (value : CborValue) (offset : ℕ) :
    FaultsInShape (decodeEffectiveLimits value offset) :=
  bind (faultsInShape_asMap _ _) fun _ => bind (faultsInShape_requireExactKeys _ _ _ _) fun _ =>
    bind (faultsInShape_asUintRange _ _ _ _) fun _ =>
      bind (faultsInShape_asUintRange _ _ _ _) fun _ =>
        bind (faultsInShape_asUintRange _ _ _ _) fun _ =>
          bind (faultsInShape_asUintRange _ _ _ _) fun _ => ok _

theorem faultsInShape_decodeClientHello (value : CborValue) (offset : ℕ) :
    FaultsInShape (decodeClientHello value offset) :=
  bind (faultsInShape_asMap _ _) fun _ => bind (faultsInShape_requireExactKeys _ _ _ _) fun _ =>
    bind (faultsInShape_decodeWireVersions _ _) fun _ =>
      bind (faultsInShape_decodeTransport _ _) fun _ =>
        bind (faultsInShape_decodeBuffer _ _) fun _ =>
          bind (faultsInShape_decodeRequestedLimits _ _) fun _ =>
            bind (faultsInShape_decodeExtensionCapabilities _ _) fun _ => ok _

theorem faultsInShape_decodeServerHello (value : CborValue) (offset : ℕ) :
    FaultsInShape (decodeServerHello value offset) := by
  refine bind (faultsInShape_asMap _ _) fun _ =>
    bind (faultsInShape_requireExactKeys _ _ _ _) fun _ =>
      bind (.map (faultsInShape_asUintRange _ _ _ _)) fun selected => ?_
  split
  · exact malformed _ _
  · exact bind (faultsInShape_decodeTransport _ _) fun _ =>
      bind (faultsInShape_decodeBuffer _ _) fun _ =>
        bind (faultsInShape_decodeEffectiveLimits _ _) fun _ =>
          bind (faultsInShape_decodeExtensionCapabilities _ _) fun _ => ok _

theorem faultsInShape_decodeBootstrapError (value : CborValue) (offset : ℕ) :
    FaultsInShape (decodeBootstrapError value offset) := by
  refine bind (faultsInShape_asMap _ _) fun _ =>
    bind (faultsInShape_requireExactKeys _ _ _ _) fun _ =>
      bind (faultsInShape_asUintRange _ _ _ _) fun code => ?_
  split
  · exact malformed _ _
  · exact bind (faultsInShape_optional (fun _ => faultsInShape_asText _ _) _ _) fun _ =>
      bind (faultsInShape_optional (fun _ => faultsInShape_asText _ _) _ _) fun _ => ok _

/-- **A record of an assigned kind is refused for its shape.** -/
theorem faultsInShape_decodePayloadByKind {kind : UInt8} (value : CborValue) (offset : ℕ)
    (hkind : kind = kindClientHello ∨ kind = kindServerHello ∨ kind = kindBootstrapError) :
    FaultsInShape (decodePayloadByKind kind value offset) := by
  unfold decodePayloadByKind
  split_ifs with hclient hserver herror
  · exact .map (faultsInShape_decodeClientHello _ _)
  · exact .map (faultsInShape_decodeServerHello _ _)
  · exact .map (faultsInShape_decodeBootstrapError _ _)
  · rcases hkind with h | h | h
    · exact absurd h hclient
    · exact absurd h hserver
    · exact absurd h herror

end Bootstrap
end Rclweb
