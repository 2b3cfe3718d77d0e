import Rclweb.Types.GeneratedRoundTrip

/-!
# Generated codecs are canonical

Every accepted stream is encoded again as the canonical stream of its message, which decodes to
the message; byte order, options, padding contents and the live tail are all that an accepted
stream is free in.
-/

namespace Rclweb

open BigEndian Attempts Aligned Cdr

namespace Types

theorem Collections.ne_bytes {v : Collections} {f : CdrField} (hf : f ∈ v.fields)
    (data : List UInt8) : f ≠ .bytes data := by
  rintro rfl
  simp [Collections.fields] at hf

theorem NestedSample.ne_bytes {v : NestedSample} {f : CdrField} (hf : f ∈ v.fields)
    (data : List UInt8) : f ≠ .bytes data := by
  rintro rfl
  simp [NestedSample.fields, Time.fields, PrimitiveScalars.fields, Collections.fields] at hf

theorem GeneratedMessage.ne_bytes {m : GeneratedMessage} {f : CdrField} (hf : f ∈ m.fields)
    (data : List UInt8) : f ≠ .bytes data := by
  rintro rfl
  cases m with
  | primitiveScalars v => simp [fields, PrimitiveScalars.fields] at hf
  | collections v => exact v.ne_bytes hf data rfl
  | nestedSample v => exact v.ne_bytes hf data rfl
  | echoNestedRequest v => exact v.input.ne_bytes hf data rfl
  | measureSequenceGoal v => exact v.target.ne_bytes hf data rfl
  | measureSequenceResult v => exact v.result.ne_bytes hf data rfl
  | echoNestedResponse v =>
    rcases List.mem_append.mp hf with h | h
    · exact v.output.ne_bytes h data rfl
    · simp at h
  | measureSequenceFeedback v =>
    rcases List.mem_cons.mp hf with h | h
    · cases h
    · exact v.sample.ne_bytes h data rfl

theorem Collections.sized_of_fields {v : Collections} (h : v.fields.length < 2 ^ 32) : v.Sized := by
  simp only [Collections.fields, List.length_append, List.length_map] at h
  unfold Collections.Sized
  omega

theorem NestedSample.sized_of_fields {v : NestedSample} (h : v.fields.length < 2 ^ 32) :
    v.Sized := by
  simp only [NestedSample.fields, List.length_append] at h
  exact Collections.sized_of_fields (by omega)

theorem GeneratedMessage.sized_of_fields {m : GeneratedMessage}
    (h : m.fields.length < 2 ^ 32) : m.Sized := by
  cases m with
  | primitiveScalars v => trivial
  | collections v => exact Collections.sized_of_fields h
  | nestedSample v => exact NestedSample.sized_of_fields h
  | echoNestedRequest v => exact NestedSample.sized_of_fields h
  | measureSequenceGoal v => exact Collections.sized_of_fields h
  | measureSequenceResult v => exact NestedSample.sized_of_fields h
  | echoNestedResponse v =>
    simp only [fields, List.length_append] at h
    exact NestedSample.sized_of_fields (by omega)
  | measureSequenceFeedback v =>
    simp only [fields, List.length_cons] at h
    exact NestedSample.sized_of_fields (by omega)

/-- A message that encodes has sequence lengths that `u32` holds. -/
theorem sized_of_encode {m : GeneratedMessage} {bytes : List UInt8}
    (h : encodeGeneratedCdr m = .ok bytes) : m.Sized := by
  obtain ⟨-, hlen, rfl⟩ := encodeGeneratedCdr_iff.mp h
  have hbytes := length_le_canonical fun f hf => CdrField.one_le_width (m.ne_bytes hf)
  unfold defaultMaxStreamBytes at hlen
  exact GeneratedMessage.sized_of_fields (by omega)

/-- **What encodes decodes again exactly when its strings are within half the temporary
allocation.** -/
theorem decode_encode_iff {m : GeneratedMessage} {bytes : List UInt8}
    (h : encodeGeneratedCdr m = .ok bytes) :
    decodeGeneratedCdr m.typeName bytes = .ok m ↔
      ∀ value maxBytes, .string value maxBytes ∈ m.fields →
        (utf8 value).length * 2 ≤ defaultMaxTemporaryAllocation := by
  have hsized := sized_of_encode h
  obtain ⟨hwritable, hlen, rfl⟩ := encodeGeneratedCdr_iff.mp h
  rw [decodeGeneratedCdr_iff]
  constructor
  · rintro ⟨-, -, -, hreadable, -⟩ value maxBytes hmem
    exact (hreadable _ hmem).storage_le
  · intro hstrings
    exact ⟨rfl, hsized, hlen, readable_of_canonical hwritable hlen hstrings, .little, 0, 0,
      .inl rfl, presents_canonical _⟩

/-- **Generated codecs are canonical.**  A stream that decodes is encoded again as a stream that
decodes to the same message; when it is little-endian with options 0 and zero padding it is that
stream and a zero tail of 0, 4 or 12 bytes; and every stream of at most 64 MiB with the same fields
in another byte order, with other options, padding contents or another such tail decodes to the
same message. -/
theorem generated_canonical {typeName : String} {bytes : List UInt8} {m : GeneratedMessage}
    (h : decodeGeneratedCdr typeName bytes = .ok m) :
    PresentsLive m.fields bytes ∧
    (∃ bytes', encodeGeneratedCdr m = .ok bytes' ∧ decodeGeneratedCdr typeName bytes' = .ok m ∧
      (bytes.take 4 = header .little 0 → (∀ x ∈ paddingBytes m.fields bytes, x = 0) →
        ∃ tail, LiveTail tail ∧ bytes = bytes' ++ List.replicate tail 0)) ∧
    ∀ other, PresentsLive m.fields other → other.length ≤ defaultMaxStreamBytes →
      decodeGeneratedCdr typeName other = .ok m := by
  obtain ⟨rfl, hsized, hlen, hreadable, hlive⟩ := decodeGeneratedCdr_iff.mp h
  obtain ⟨endian, options, tail, htail, hpresents⟩ := hlive
  have hcanonical : (canonical m.fields).length ≤ defaultMaxStreamBytes := by
    have hlength := hpresents.length_eq
    rw [length_canonical]
    omega
  refine ⟨⟨endian, options, tail, htail, hpresents⟩, ⟨canonical m.fields, ?_, ?_, ?_⟩, ?_⟩
  · exact encodeGeneratedCdr_iff.mpr
      ⟨fun f hf => (hreadable f hf).writable, hcanonical, rfl⟩
  · exact decodeGeneratedCdr_iff.mpr ⟨rfl, hsized, hcanonical, hreadable, .little, 0, 0, .inl rfl,
      presents_canonical _⟩
  · exact fun hheader hpadding => ⟨tail, htail, hpresents.eq_canonical hheader hpadding⟩
  · exact fun other hother hle => decodeGeneratedCdr_iff.mpr ⟨rfl, hsized, hle, hreadable, hother⟩

/-- A big-endian stream with options, padding that is not zero and a tail of four bytes. -/
theorem generated_canonical_bigEndian :
    ∃ bytes', encodeGeneratedCdr (.collections ⟨(1, -2, 3), [5], [9], "a", "b"⟩) = .ok bytes' ∧
      decodeGeneratedCdr collectionsTypeName bytes'
        = .ok (.collections ⟨(1, -2, 3), [5], [9], "a", "b"⟩) := by
  have h : decodeGeneratedCdr collectionsTypeName
      [0, 0, 0, 7, 0, 0, 0, 1, 255, 255, 255, 254, 0, 0, 0, 3, 0, 0, 0, 1, 0, 0, 0, 0, 0, 0, 0, 5,
        0, 0, 0, 1, 9, 1, 2, 3, 0, 0, 0, 2, 97, 0, 4, 5, 0, 0, 0, 1, 0, 0, 0, 98, 0, 0, 0, 0]
      = .ok (.collections ⟨(1, -2, 3), [5], [9], "a", "b"⟩) := by
    decide +kernel
  obtain ⟨-, ⟨bytes', hencode, hdecode, -⟩, -⟩ := generated_canonical h
  exact ⟨bytes', hencode, hdecode⟩

end Types
end Rclweb
