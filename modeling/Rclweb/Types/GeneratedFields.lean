import Rclweb.Cdr.Bodies
import Rclweb.Types.Generated

/-!
# The fields of generated messages

Each message is a list of fields.  Its encode body is the run of writes of the list
(`encode…_ok_iff`), its decode body the run of reads (`decode…_ok_iff`); nesting never runs out
under the default limits.  A sequence length is written modulo `2 ^ 32`, and `Sized` is what
makes it the length.
-/

namespace Rclweb

open BigEndian Attempts Aligned Cdr CdrReader CdrWriter

namespace Types

/-! ## Field lists -/

def Time.fields (v : Time) : List CdrField := [.i32 v.sec, .u32 v.nanosec]

def PrimitiveScalars.fields (v : PrimitiveScalars) : List CdrField :=
  [.bool v.boolValue, .u8 v.byteValue, .u8 v.charValue, .f32 v.float32Value, .f64 v.float64Value,
    .i8 v.int8Value, .u8 v.uint8Value, .i16 v.int16Value, .u16 v.uint16Value, .i32 v.int32Value,
    .u32 v.uint32Value, .i64 v.int64Value, .u64 v.uint64Value, .string v.stringValue none,
    .wstring v.wstringValue none]

def Collections.fields (v : Collections) : List CdrField :=
  [CdrField.i32 v.fixedI32.1, CdrField.i32 v.fixedI32.2.1, CdrField.i32 v.fixedI32.2.2,
    CdrField.sequenceLength (UInt32.ofNat v.boundedF64.length) (some 4)] ++
  (v.boundedF64.map CdrField.f64 ++
    [CdrField.byteSequence v.bytesValue none, CdrField.string v.boundedString (some 16),
      CdrField.wstring v.boundedWstring (some 16)])

def NestedSample.fields (v : NestedSample) : List CdrField :=
  v.stamp.fields ++ (v.scalars.fields ++ v.collections.fields)

/-- A sequence length that `u32` holds. -/
def Collections.Sized (v : Collections) : Prop := v.boundedF64.length < 2 ^ 32

def NestedSample.Sized (v : NestedSample) : Prop := v.collections.Sized

namespace GeneratedMessage

/-- **The fields of a message**, in stream order. -/
def fields : GeneratedMessage → List CdrField
  | primitiveScalars v => v.fields
  | collections v => v.fields
  | nestedSample v => v.fields
  | echoNestedRequest v => v.input.fields
  | echoNestedResponse v => v.output.fields ++ [CdrField.bool v.accepted]
  | measureSequenceGoal v => v.target.fields
  | measureSequenceResult v => v.result.fields
  | measureSequenceFeedback v => .f32 v.progress :: v.sample.fields

def Sized : GeneratedMessage → Prop
  | primitiveScalars _ => True
  | collections v => v.Sized
  | nestedSample v => v.Sized
  | echoNestedRequest v => v.input.Sized
  | echoNestedResponse v => v.output.Sized
  | measureSequenceGoal v => v.target.Sized
  | measureSequenceResult v => v.result.Sized
  | measureSequenceFeedback v => v.sample.Sized

end GeneratedMessage

/-! ## Decode bodies -/

section Decode

variable {r r' : CdrReader} {n : CdrNesting}

theorem decodeTime_ok_iff {v : Time} :
    decodeTime n r = .ok v r' ↔ Chain DidRead v.fields r r' := by
  obtain ⟨sec, nanosec⟩ := v
  simp only [decodeTime, Time.fields, bind_ok_iff, pure_ok_iff, chain_cons, chain_nil, didRead_i32,
    didRead_u32, Time.mk.injEq]
  constructor
  · rintro ⟨_, _, h₁, _, _, h₂, ⟨rfl, rfl⟩, rfl⟩
    exact ⟨_, h₁, _, h₂, rfl⟩
  · rintro ⟨_, h₁, _, h₂, rfl⟩
    exact ⟨_, _, h₁, _, _, h₂, ⟨rfl, rfl⟩, rfl⟩

theorem decodePrimitiveScalars_ok_iff {v : PrimitiveScalars} :
    decodePrimitiveScalars n r = .ok v r' ↔ Chain DidRead v.fields r r' := by
  simp only [decodePrimitiveScalars, PrimitiveScalars.fields, bind_ok_iff, pure_ok_iff, chain_cons,
    chain_nil, didRead_bool, didRead_u8, didRead_f32, didRead_f64, didRead_i8, didRead_i16,
    didRead_u16, didRead_i32, didRead_u32, didRead_i64, didRead_u64, didRead_string,
    didRead_wstring]
  constructor
  · rintro ⟨_, _, h₁, _, _, h₂, _, _, h₃, _, _, h₄, _, _, h₅, _, _, h₆, _, _, h₇, _, _, h₈,
      _, _, h₉, _, _, h₁₀, _, _, h₁₁, _, _, h₁₂, _, _, h₁₃, _, _, h₁₄, _, _, h₁₅, rfl, rfl⟩
    exact ⟨_, h₁, _, h₂, _, h₃, _, h₄, _, h₅, _, h₆, _, h₇, _, h₈, _, h₉, _, h₁₀, _, h₁₁, _, h₁₂,
      _, h₁₃, _, h₁₄, _, h₁₅, rfl⟩
  · rintro ⟨_, h₁, _, h₂, _, h₃, _, h₄, _, h₅, _, h₆, _, h₇, _, h₈, _, h₉, _, h₁₀, _, h₁₁, _, h₁₂,
      _, h₁₃, _, h₁₄, _, h₁₅, rfl⟩
    exact ⟨_, _, h₁, _, _, h₂, _, _, h₃, _, _, h₄, _, _, h₅, _, _, h₆, _, _, h₇, _, _, h₈,
      _, _, h₉, _, _, h₁₀, _, _, h₁₁, _, _, h₁₂, _, _, h₁₃, _, _, h₁₄, _, _, h₁₅, rfl, rfl⟩

theorem decodeCollections_ok_iff {v : Collections} :
    decodeCollections n r = .ok v r' ↔ v.Sized ∧ Chain DidRead v.fields r r' := by
  simp only [decodeCollections, Collections.fields, bind_ok_iff, pure_ok_iff, chain_append,
    chain_cons, chain_nil, didRead_i32, didRead_sequenceLength, didRead_byteSequence,
    didRead_string, didRead_wstring, repeated_ok_iff fun _ _ _ => didRead_f64, exists_eq_right]
  constructor
  · rintro ⟨x, _, h₁, y, _, h₂, z, _, h₃, count, _, h₄, values, _, ⟨hlen, h₅⟩, span, _, h₆, _, _,
      h₇, _, _, h₈, rfl, rfl⟩
    have hcount : UInt32.ofNat values.length = count := by rw [hlen, UInt32.ofNat_toNat]
    refine ⟨?_, _, ⟨_, h₁, _, h₂, _, h₃, ?_⟩, _, h₅, _, ⟨span, h₆, rfl⟩, _, h₇, h₈⟩
    · show values.length < 2 ^ 32
      rw [hlen]
      exact count.toNat_lt
    · rwa [hcount]
  · rintro ⟨hsized, _, ⟨_, h₁, _, h₂, _, h₃, h₄⟩, _, h₅, _, ⟨span, h₆, hspan⟩, _, h₇, h₈⟩
    have hcount : (UInt32.ofNat v.boundedF64.length).toNat = v.boundedF64.length :=
      UInt32.toNat_ofNat_of_lt' hsized
    refine ⟨_, _, h₁, _, _, h₂, _, _, h₃, _, _, h₄, _, _, ⟨hcount.symm, h₅⟩, span, _, h₆, _, _, h₇,
      _, _, h₈, ?_, rfl⟩
    rw [hspan]

/-- Nesting of the parts of a sample, one level below it. -/
theorem decodeNestedSample_ok_iff (hr : r.Valid)
    (hnesting : n.depth + 1 ≤ r.limits.maxNestingDepth) {v : NestedSample} :
    decodeNestedSample n r = .ok v r' ↔ v.Sized ∧ Chain DidRead v.fields r r' := by
  simp only [decodeNestedSample, NestedSample.fields, bind_ok_iff, pure_ok_iff, chain_append,
    reader_enterNested_ok_iff, decodeTime_ok_iff, decodePrimitiveScalars_ok_iff,
    decodeCollections_ok_iff]
  constructor
  · rintro ⟨_, _, ⟨-, -, rfl⟩, _, _, h₁, _, _, ⟨-, -, rfl⟩, _, _, h₂, _, _, ⟨-, -, rfl⟩, _, _,
      ⟨hsized, h₃⟩, rfl, rfl⟩
    exact ⟨hsized, _, h₁, _, h₂, h₃⟩
  · rintro ⟨hsized, s, h₁, t, h₂, h₃⟩
    obtain ⟨hs, hslimits⟩ := reads_keep h₁ hr
    obtain ⟨-, htlimits⟩ := reads_keep h₂ hs
    refine ⟨_, _, ⟨hnesting, rfl, rfl⟩, _, s, h₁, _, _, ⟨?_, rfl, rfl⟩, _, t, h₂, _, _,
      ⟨?_, rfl, rfl⟩, _, _, ⟨hsized, h₃⟩, rfl, rfl⟩
    · rwa [hslimits]
    · rwa [htlimits, hslimits]

end Decode

/-! ## Encode bodies -/

section Encode

variable {w w' : CdrWriter} {n : CdrNesting} {u : Unit}

theorem encodeTime_eq (v : Time) : encodeTime v n = writeAll v.fields := by
  simp [encodeTime, Time.fields, writeAll, CdrField.write]

theorem encodePrimitiveScalars_eq (v : PrimitiveScalars) :
    encodePrimitiveScalars v n = writeAll v.fields := by
  simp [encodePrimitiveScalars, PrimitiveScalars.fields, writeAll, CdrField.write]

theorem encodeCollections_eq (v : Collections) : encodeCollections v n = writeAll v.fields := by
  have hvalues : forEach writeF64 v.boundedF64 = writeAll (v.boundedF64.map .f64) :=
    @forEach_eq UInt64 writeF64 .f64 (fun _ => rfl) v.boundedF64
  simp only [encodeCollections, Collections.fields, hvalues, writeAll_append]
  simp [writeAll, CdrField.write]

theorem encodeNestedSample_ok_iff (hw : w.Valid)
    (hnesting : n.depth + 1 ≤ w.limits.maxNestingDepth) {v : NestedSample} :
    encodeNestedSample v n w = .ok u w' ↔ Chain Wrote v.fields w w' := by
  simp only [encodeNestedSample, NestedSample.fields, bind_ok_iff, writer_enterNested_ok_iff,
    encodeTime_eq, encodePrimitiveScalars_eq, encodeCollections_eq, writeAll_ok_iff, chain_append]
  constructor
  · rintro ⟨_, _, ⟨-, -, rfl⟩, _, _, h₁, _, _, ⟨-, -, rfl⟩, _, _, h₂, _, _, ⟨-, -, rfl⟩, h₃⟩
    exact ⟨_, h₁, _, h₂, h₃⟩
  · rintro ⟨s, h₁, t, h₂, h₃⟩
    obtain ⟨hs, -, hslimits, -⟩ := writes_append h₁ hw
    obtain ⟨-, -, htlimits, -⟩ := writes_append h₂ hs
    refine ⟨_, _, ⟨hnesting, rfl, rfl⟩, (), s, h₁, _, _, ⟨?_, rfl, rfl⟩, (), t, h₂, _, _,
      ⟨?_, rfl, rfl⟩, h₃⟩
    · rwa [hslimits]
    · rwa [htlimits, hslimits]

end Encode

end Types
end Rclweb
