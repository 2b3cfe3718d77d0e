import Rclweb.Types.GeneratedFields

/-!
# Generated codecs, there and back

`decodeGeneratedCdr_iff` says which byte strings decode to a message: the presentations of its
fields with a zero tail of 0, 4 or 12 bytes.  `encodeGeneratedCdr_iff` says that the encoder makes
the canonical one.
-/

namespace Rclweb

open BigEndian Attempts Aligned Cdr CdrReader CdrWriter

namespace Types

/-- The tails a live sample may carry. -/
def LiveTail (tail : ℕ) : Prop := tail = 0 ∨ tail = 4 ∨ tail = 12

/-- **A stream that presents the fields of a live sample.** -/
def PresentsLive (fields : List CdrField) (bytes : List UInt8) : Prop :=
  ∃ endian options tail, LiveTail tail ∧ Presents fields endian options tail bytes

/-- **What decodes as a live sample**: the streams that present its fields. -/
theorem decodeLive_ok_iff {α : Type} {body : CdrNesting → CdrRead α} {sized : α → Prop}
    {fields : α → List CdrField} (hbody : ReadsFields body sized fields) {bytes : List UInt8}
    {v : α} :
    decodeLive bytes body = .ok v ↔ sized v ∧ bytes.length ≤ defaultMaxStreamBytes ∧
      (∀ f ∈ fields v, f.Readable .defaults) ∧ PresentsLive (fields v) bytes := by
  constructor
  · intro h
    unfold decodeLive at h
    rcases hopen : openDefault bytes with e | r
    · rw [hopen] at h
      cases h
    obtain ⟨hr, hlimits, -⟩ := openDefault_ok hopen
    rcases hrun : body .root r with ⟨v', r'⟩ | ⟨e, r'⟩
    swap
    · simp only [hopen, hrun] at h
      cases h
    simp only [hopen, hrun] at h
    obtain ⟨hsized, hreads⟩ := (hbody r hr hlimits v' r').mp hrun
    set tail := if r'.remaining = 0 ∨ r'.remaining = 4 ∨ r'.remaining = 12 then r'.remaining else 0
      with htail
    rcases hcomplete : ensureCompleteWithZeroTail tail r' with ⟨u, r''⟩ | ⟨e, r''⟩
    swap
    · rw [hcomplete] at h
      cases h
    rw [hcomplete] at h
    obtain rfl := Except.ok.inj h
    obtain ⟨-, hrem, hzeros⟩ := zeroTail_complete_iff.mp ⟨r'', hcomplete⟩
    have hlive : LiveTail r'.remaining := by
      by_cases hin : r'.remaining = 0 ∨ r'.remaining = 4 ∨ r'.remaining = 12
      · exact hin
      · rw [if_neg hin] at htail
        exact .inl (hrem.elim id fun heq => heq.trans htail)
    obtain ⟨-, hlen, hreadable, endian, options, hpresents⟩ :=
      opens_and_reads_iff.mp ⟨r, r', hopen, hreads, hzeros⟩
    exact ⟨hsized, hlen, hreadable, endian, options, _, hlive, hpresents⟩
  · rintro ⟨hsized, hlen, hreadable, endian, options, tail, hlive, hpresents⟩
    obtain ⟨r, r', hopen, hreads, hrest⟩ := opens_and_reads_iff.mpr
      ⟨CdrLimits.defaults_valid, hlen, hreadable, endian, options, hpresents⟩
    obtain ⟨hr, hlimits, -⟩ := openDefault_ok hopen
    have hrun := (hbody r hr hlimits v r').mpr ⟨hsized, hreads⟩
    have hrem : r'.remaining = tail := by
      rw [← length_unread, hrest, List.length_replicate]
    have htail : (if r'.remaining = 0 ∨ r'.remaining = 4 ∨ r'.remaining = 12 then r'.remaining
        else 0) = tail := by
      rw [hrem]
      exact if_pos hlive
    have hmax : tail ≤ r'.limits.maxStreamBytes := by
      rw [(reads_keep hreads hr).2, hlimits]
      show tail ≤ 67108864
      unfold LiveTail at hlive
      omega
    obtain ⟨r'', hcomplete⟩ := zeroTail_complete_iff.mpr ⟨hmax, .inr hrem, hrem ▸ hrest⟩
    have hopen' : openDefault bytes = .ok r := hopen
    unfold decodeLive
    simp only [hopen', hrun, htail, hcomplete]

/-! ## The bodies of the dispatch -/

theorem readsFields_primitiveScalars :
    ReadsFields decodePrimitiveScalars (fun _ => True) PrimitiveScalars.fields :=
  fun _ _ _ _ _ => decodePrimitiveScalars_ok_iff.trans (and_iff_right trivial).symm

theorem readsFields_collections :
    ReadsFields decodeCollections Collections.Sized Collections.fields :=
  fun _ _ _ _ _ => decodeCollections_ok_iff

theorem readsFields_nestedSample :
    ReadsFields decodeNestedSample NestedSample.Sized NestedSample.fields :=
  fun r hr hlimits _ _ => decodeNestedSample_ok_iff hr (by rw [hlimits]; decide)

/-- A body that enters one level and reads one part is the body of the part. -/
theorem readsFields_nested {α β : Type} {part : CdrNesting → CdrRead α} {sized : α → Prop}
    {fields : α → List CdrField} {make : α → β} {get : β → α} (hmake : ∀ b, make (get b) = b)
    (hget : ∀ a, get (make a) = a)
    (hpart : ∀ r, r.Valid → r.limits = .defaults → ∀ v r',
      part ⟨1⟩ r = .ok v r' ↔ sized v ∧ Chain DidRead (fields v) r r') :
    ReadsFields (fun root => do
      let n ← CdrReader.enterNested root
      let a ← part n
      pure (make a)) (fun b => sized (get b)) (fun b => fields (get b)) := by
  intro r hr hlimits b r'
  simp only [bind_ok_iff, reader_enterNested_ok_iff, pure_ok_iff]
  constructor
  · rintro ⟨_, _, ⟨-, rfl, rfl⟩, a, _, ha, rfl, rfl⟩
    rw [hget]
    exact (hpart r hr hlimits a _).mp ha
  · intro h
    exact ⟨_, _, ⟨by rw [hlimits]; decide, rfl, rfl⟩, get b, _,
      (hpart r hr hlimits (get b) r').mpr h, hmake b, rfl⟩

theorem nestedSample_at_one (r : CdrReader) (hr : r.Valid) (hlimits : r.limits = .defaults)
    (v : NestedSample) (r' : CdrReader) :
    decodeNestedSample ⟨1⟩ r = .ok v r' ↔ v.Sized ∧ Chain DidRead v.fields r r' :=
  decodeNestedSample_ok_iff hr (by rw [hlimits]; decide)

theorem readsFields_echoNestedRequest :
    ReadsFields (fun root => do
      let n ← CdrReader.enterNested root
      let input ← decodeNestedSample n
      pure (⟨input⟩ : EchoNestedRequest)) (fun v => v.input.Sized) (fun v => v.input.fields) :=
  readsFields_nested (fun _ => rfl) (fun _ => rfl) nestedSample_at_one

theorem readsFields_measureSequenceGoal :
    ReadsFields (fun root => do
      let n ← CdrReader.enterNested root
      let target ← decodeCollections n
      pure (⟨target⟩ : MeasureSequenceGoal)) (fun v => v.target.Sized)
      (fun v => v.target.fields) :=
  readsFields_nested (fun _ => rfl) (fun _ => rfl) fun _ _ _ _ _ => decodeCollections_ok_iff

theorem readsFields_measureSequenceResult :
    ReadsFields (fun root => do
      let n ← CdrReader.enterNested root
      let result ← decodeNestedSample n
      pure (⟨result⟩ : MeasureSequenceResult)) (fun v => v.result.Sized)
      (fun v => v.result.fields) :=
  readsFields_nested (fun _ => rfl) (fun _ => rfl) nestedSample_at_one

theorem readsFields_echoNestedResponse :
    ReadsFields (fun root => do
      let n ← CdrReader.enterNested root
      let output ← decodeNestedSample n
      let accepted ← readBool
      pure (⟨output, accepted⟩ : EchoNestedResponse)) (fun v => v.output.Sized)
      (fun v => v.output.fields ++ [CdrField.bool v.accepted]) := by
  intro r hr hlimits v r'
  simp only [bind_ok_iff, reader_enterNested_ok_iff, pure_ok_iff, chain_append, chain_singleton,
    didRead_bool]
  constructor
  · rintro ⟨_, _, ⟨-, rfl, rfl⟩, output, _, houtput, accepted, _, haccepted, rfl, rfl⟩
    obtain ⟨hsized, hreads⟩ := (nestedSample_at_one r hr hlimits output _).mp houtput
    exact ⟨hsized, _, hreads, haccepted⟩
  · rintro ⟨hsized, s, hreads, haccepted⟩
    exact ⟨_, _, ⟨by rw [hlimits]; decide, rfl, rfl⟩, _, _,
      (nestedSample_at_one r hr hlimits _ s).mpr ⟨hsized, hreads⟩, _, _, haccepted, rfl, rfl⟩

theorem readsFields_measureSequenceFeedback :
    ReadsFields (fun root => do
      let progress ← readF32
      let n ← CdrReader.enterNested root
      let sample ← decodeNestedSample n
      pure (⟨progress, sample⟩ : MeasureSequenceFeedback)) (fun v => v.sample.Sized)
      (fun v => .f32 v.progress :: v.sample.fields) := by
  intro r hr hlimits v r'
  simp only [bind_ok_iff, reader_enterNested_ok_iff, pure_ok_iff, chain_cons, didRead_f32]
  have hafter {s : CdrReader} {progress : UInt32} (h : readF32 r = .ok progress s) :
      s.Valid ∧ s.limits = .defaults := by
    have hread := didRead_f32.mpr h
    exact ⟨hread.valid hr, (hread.limits_eq hr).trans hlimits⟩
  constructor
  · rintro ⟨progress, s, hprogress, _, _, ⟨-, rfl, rfl⟩, sample, _, hsample, rfl, rfl⟩
    obtain ⟨hs, hslimits⟩ := hafter hprogress
    obtain ⟨hsized, hreads⟩ := (nestedSample_at_one s hs hslimits sample _).mp hsample
    exact ⟨hsized, s, hprogress, hreads⟩
  · rintro ⟨hsized, s, hprogress, hreads⟩
    obtain ⟨hs, hslimits⟩ := hafter hprogress
    exact ⟨_, s, hprogress, _, _, ⟨by rw [hslimits]; decide, rfl, rfl⟩, _, _,
      (nestedSample_at_one s hs hslimits _ r').mpr ⟨hsized, hreads⟩, rfl, rfl⟩

/-! ## Messages -/

theorem map_eq_ok {ε α β : Type} {x : Except ε α} {f : α → β} {b : β} :
    f <$> x = .ok b ↔ ∃ a, x = .ok a ∧ f a = b := by
  cases x with
  | error e => exact ⟨nofun, fun ⟨_, h, _⟩ => nomatch h⟩
  | ok a =>
    constructor
    · exact fun h => ⟨a, rfl, Except.ok.inj h⟩
    · rintro ⟨a', h, rfl⟩
      rw [Except.ok.inj h]
      rfl

/-- **What decodes to a message**: the streams of at most 64 MiB that present its fields, when it
is one the reader takes. -/
theorem decodeGeneratedCdr_iff {typeName : String} {bytes : List UInt8} {m : GeneratedMessage} :
    decodeGeneratedCdr typeName bytes = .ok m ↔ m.typeName = typeName ∧ m.Sized ∧
      bytes.length ≤ defaultMaxStreamBytes ∧ (∀ f ∈ m.fields, f.Readable .defaults) ∧
        PresentsLive m.fields bytes := by
  unfold decodeGeneratedCdr
  constructor
  · intro h
    rcases ite_eq_iff.mp h with ⟨hname, h⟩ | ⟨-, h⟩
    · obtain ⟨v, hv, rfl⟩ := map_eq_ok.mp h
      exact ⟨hname.symm, (decodeLive_ok_iff readsFields_primitiveScalars).mp hv⟩
    rcases ite_eq_iff.mp h with ⟨hname, h⟩ | ⟨-, h⟩
    · obtain ⟨v, hv, rfl⟩ := map_eq_ok.mp h
      exact ⟨hname.symm, (decodeLive_ok_iff readsFields_collections).mp hv⟩
    rcases ite_eq_iff.mp h with ⟨hname, h⟩ | ⟨-, h⟩
    · obtain ⟨v, hv, rfl⟩ := map_eq_ok.mp h
      exact ⟨hname.symm, (decodeLive_ok_iff readsFields_nestedSample).mp hv⟩
    rcases ite_eq_iff.mp h with ⟨hname, h⟩ | ⟨-, h⟩
    · obtain ⟨v, hv, rfl⟩ := map_eq_ok.mp h
      exact ⟨hname.symm, (decodeLive_ok_iff readsFields_echoNestedRequest).mp hv⟩
    rcases ite_eq_iff.mp h with ⟨hname, h⟩ | ⟨-, h⟩
    · obtain ⟨v, hv, rfl⟩ := map_eq_ok.mp h
      exact ⟨hname.symm, (decodeLive_ok_iff readsFields_echoNestedResponse).mp hv⟩
    rcases ite_eq_iff.mp h with ⟨hname, h⟩ | ⟨-, h⟩
    · obtain ⟨v, hv, rfl⟩ := map_eq_ok.mp h
      exact ⟨hname.symm, (decodeLive_ok_iff readsFields_measureSequenceGoal).mp hv⟩
    rcases ite_eq_iff.mp h with ⟨hname, h⟩ | ⟨-, h⟩
    · obtain ⟨v, hv, rfl⟩ := map_eq_ok.mp h
      exact ⟨hname.symm, (decodeLive_ok_iff readsFields_measureSequenceResult).mp hv⟩
    rcases ite_eq_iff.mp h with ⟨hname, h⟩ | ⟨-, h⟩
    · obtain ⟨v, hv, rfl⟩ := map_eq_ok.mp h
      exact ⟨hname.symm, (decodeLive_ok_iff readsFields_measureSequenceFeedback).mp hv⟩
    cases h
  · rintro ⟨hname, h⟩
    cases m with
    | primitiveScalars v =>
      have hv := (decodeLive_ok_iff readsFields_primitiveScalars).mpr h
      obtain rfl : primitiveScalarsTypeName = typeName := hname
      rw [if_pos rfl]
      exact map_eq_ok.mpr ⟨v, hv, rfl⟩
    | collections v =>
      have hv := (decodeLive_ok_iff readsFields_collections).mpr h
      obtain rfl : collectionsTypeName = typeName := hname
      rw [if_neg (by decide), if_pos rfl]
      exact map_eq_ok.mpr ⟨v, hv, rfl⟩
    | nestedSample v =>
      have hv := (decodeLive_ok_iff readsFields_nestedSample).mpr h
      obtain rfl : nestedSampleTypeName = typeName := hname
      rw [if_neg (by decide), if_neg (by decide), if_pos rfl]
      exact map_eq_ok.mpr ⟨v, hv, rfl⟩
    | echoNestedRequest v =>
      have hv := (decodeLive_ok_iff readsFields_echoNestedRequest).mpr h
      obtain rfl : echoNestedRequestTypeName = typeName := hname
      rw [if_neg (by decide), if_neg (by decide), if_neg (by decide), if_pos rfl]
      exact map_eq_ok.mpr ⟨v, hv, rfl⟩
    | echoNestedResponse v =>
      have hv := (decodeLive_ok_iff readsFields_echoNestedResponse).mpr h
      obtain rfl : echoNestedResponseTypeName = typeName := hname
      rw [if_neg (by decide), if_neg (by decide), if_neg (by decide), if_neg (by decide),
        if_pos rfl]
      exact map_eq_ok.mpr ⟨v, hv, rfl⟩
    | measureSequenceGoal v =>
      have hv := (decodeLive_ok_iff readsFields_measureSequenceGoal).mpr h
      obtain rfl : measureSequenceGoalTypeName = typeName := hname
      rw [if_neg (by decide), if_neg (by decide), if_neg (by decide), if_neg (by decide),
        if_neg (by decide), if_pos rfl]
      exact map_eq_ok.mpr ⟨v, hv, rfl⟩
    | measureSequenceResult v =>
      have hv := (decodeLive_ok_iff readsFields_measureSequenceResult).mpr h
      obtain rfl : measureSequenceResultTypeName = typeName := hname
      rw [if_neg (by decide), if_neg (by decide), if_neg (by decide), if_neg (by decide),
        if_neg (by decide), if_neg (by decide), if_pos rfl]
      exact map_eq_ok.mpr ⟨v, hv, rfl⟩
    | measureSequenceFeedback v =>
      have hv := (decodeLive_ok_iff readsFields_measureSequenceFeedback).mpr h
      obtain rfl : measureSequenceFeedbackTypeName = typeName := hname
      rw [if_neg (by decide), if_neg (by decide), if_neg (by decide), if_neg (by decide),
        if_neg (by decide), if_neg (by decide), if_neg (by decide), if_pos rfl]
      exact map_eq_ok.mpr ⟨v, hv, rfl⟩

theorem encodeNested_ok_iff {w w' : CdrWriter} (hw : w.Valid) (hlimits : w.limits = .defaults)
    {v : NestedSample} :
    encodeNestedSample v ⟨1⟩ w = .ok () w' ↔ Chain Wrote v.fields w w' :=
  encodeNestedSample_ok_iff hw (by rw [hlimits]; decide)

/-- A body that enters one level and writes one part writes the fields of the part. -/
theorem writesFields_nested {part : CdrNesting → CdrWrite Unit} {fields : List CdrField}
    (hpart : ∀ w, w.Valid → w.limits = .defaults → ∀ w',
      part ⟨1⟩ w = .ok () w' ↔ Chain Wrote fields w w') :
    WritesFields (fun root => do
      let n ← CdrWriter.enterNested root
      part n) fields := by
  intro w hw hlimits w'
  simp only [bind_ok_iff, writer_enterNested_ok_iff]
  constructor
  · rintro ⟨_, _, ⟨-, rfl, rfl⟩, h⟩
    exact (hpart w hw hlimits w').mp h
  · exact fun h => ⟨_, _, ⟨by rw [hlimits]; decide, rfl, rfl⟩, (hpart w hw hlimits w').mpr h⟩

/-- **What encodes**: messages whose fields the writer takes and whose canonical stream is at most
64 MiB long. -/
theorem encodeGeneratedCdr_iff {m : GeneratedMessage} {bytes : List UInt8} :
    encodeGeneratedCdr m = .ok bytes ↔ (∀ f ∈ m.fields, f.Writable .defaults) ∧
      bytes.length ≤ defaultMaxStreamBytes ∧ bytes = canonical m.fields := by
  cases m with
  | primitiveScalars v =>
    refine encodeWith_ok_iff fun w _ _ w' => ?_
    rw [encodePrimitiveScalars_eq]
    exact writeAll_ok_iff
  | collections v =>
    refine encodeWith_ok_iff fun w _ _ w' => ?_
    rw [encodeCollections_eq]
    exact writeAll_ok_iff
  | nestedSample v =>
    exact encodeWith_ok_iff fun w hw hlimits w' =>
      encodeNestedSample_ok_iff hw (by rw [hlimits]; decide)
  | echoNestedRequest v =>
    exact encodeWith_ok_iff (writesFields_nested fun w hw hlimits w' =>
      encodeNested_ok_iff hw hlimits)
  | measureSequenceResult v =>
    exact encodeWith_ok_iff (writesFields_nested fun w hw hlimits w' =>
      encodeNested_ok_iff hw hlimits)
  | measureSequenceGoal v =>
    refine encodeWith_ok_iff (writesFields_nested fun w _ _ w' => ?_)
    rw [encodeCollections_eq]
    exact writeAll_ok_iff
  | echoNestedResponse v =>
    refine encodeWith_ok_iff (writesFields_nested fun w hw hlimits w' => ?_)
    simp only [bind_ok_iff, GeneratedMessage.fields, chain_append, chain_singleton,
      encodeNested_ok_iff hw hlimits]
    constructor
    · rintro ⟨_, s, h⟩
      exact ⟨s, h⟩
    · rintro ⟨s, h⟩
      exact ⟨(), s, h⟩
  | measureSequenceFeedback v =>
    suffices hbody : WritesFields (fun root => do
        writeF32 v.progress
        let n ← CdrWriter.enterNested root
        encodeNestedSample v.sample n) (.f32 v.progress :: v.sample.fields) from
      encodeWith_ok_iff hbody
    intro w hw hlimits w'
    simp only [bind_ok_iff, chain_cons, writer_enterNested_ok_iff]
    constructor
    · rintro ⟨_, s, hprogress, _, _, ⟨-, rfl, rfl⟩, h⟩
      have hwrote : Wrote (.f32 v.progress) w s := hprogress
      have hslimits := (hwrote.appends hw).2.1.trans hlimits
      exact ⟨s, hwrote, (encodeNested_ok_iff (hwrote.valid hw) hslimits).mp h⟩
    · rintro ⟨s, hwrote, h⟩
      have hslimits := (hwrote.appends hw).2.1.trans hlimits
      exact ⟨(), s, hwrote, _, _, ⟨by rw [hslimits]; decide, rfl, rfl⟩,
        (encodeNested_ok_iff (hwrote.valid hw) hslimits).mpr h⟩

end Types
end Rclweb
