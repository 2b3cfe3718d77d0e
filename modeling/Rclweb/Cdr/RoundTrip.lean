import Rclweb.Cdr.Streams

/-!
# Written streams, read back

A run of writes on a fresh writer is read back by the matching reads, from a reader that opens
on the bytes with the same stream limit.  The one thing the reader charges that the writer does
not is the storage of strings: `written_stream_reads_iff` says that under the writer's own limits
the reads succeed exactly when every string fits half the temporary allocation.
-/

namespace Rclweb

open BigEndian Attempts Aligned

namespace Cdr

variable {endian : CdrEndian} {limits readLimits : CdrLimits} {fields : List CdrField}
  {w w' : CdrWriter}

/-- A reader opens behind the header of a writer's bytes and follows the fresh writer. -/
theorem follows_new (hnew : CdrWriter.new endian limits = .ok w)
    (hwrites : Chain Wrote fields w w') (hvalid : readLimits.Valid)
    (hstream : readLimits.maxStreamBytes = limits.maxStreamBytes) :
    ∃ r, CdrReader.openWith w'.buf readLimits = .ok r ∧ Follows r w ∧ r.bytes = w'.buf ∧
      r.limits = readLimits := by
  obtain ⟨hw, hlimits, hendian, hbuf⟩ := writer_new_ok hnew
  obtain ⟨hw', ⟨body, hbody⟩, hlimits', -⟩ := writes_append hwrites hw
  have hcap : w'.capacity ≤ w'.limits.maxStreamBytes := hw'.capacity ▸ Nat.min_le_left _ _
  have hlen : w'.buf.length ≤ readLimits.maxStreamBytes := by
    rw [hstream, ← hlimits, ← hlimits']
    exact hw'.length_le.trans hcap
  have hfour : 4 ≤ w'.buf.length := by
    rw [← hbody, hbuf, List.length_append, length_header]
    omega
  refine ⟨_, openWith_ok_iff.mpr ⟨hvalid, hlen, endian, 0, body, ?_, rfl⟩, ?_, rfl, rfl⟩
  · rw [← hbody, hbuf]
  · refine ⟨⟨hvalid, le_refl _, hfour, hlen⟩, hw, hendian.symm, ?_, ⟨body, hbody⟩⟩
    rw [CdrWriter.position, hbuf, length_header]
    rfl

theorem ensureComplete_ok_iff {r : CdrReader} :
    CdrReader.ensureComplete r = .ok () r ↔ r.bytes.length ≤ r.offset := by
  simp [CdrReader.ensureComplete, bind_ok_iff, CdrReader.remaining]

/-- A reader that follows a writer to the end of its bytes is complete. -/
theorem Follows.complete {r : CdrReader} (h : Follows r w) (hbytes : r.bytes = w.buf) :
    CdrReader.ensureComplete r = .ok () r := by
  rw [ensureComplete_ok_iff, h.position, hbytes]
  exact le_refl _

/-- The fields of a run that succeeded are allowed, and no wider than the capacity. -/
theorem width_le_of_writes (hwrites : Chain Wrote fields w w') (hw : w.Valid) :
    ∀ f ∈ fields, f.Writable w.limits ∧ f.width ≤ writerCapacity w.limits := by
  induction fields generalizing w with
  | nil => exact nofun
  | cons f fields ih =>
    obtain ⟨v, hwrote, hrest⟩ := hwrites
    have hlimits := (hwrote.appends hw).2.1
    refine List.forall_mem_cons.mpr ⟨⟨((f.write_ok_iff hw).mp hwrote).1, hwrote.width_le hw⟩, ?_⟩
    rw [← hlimits]
    exact ih hrest (hwrote.valid hw)

/-- **What a writer wrote is read back, field by field.**  The reader opens on the bytes, the
matching reads return the written fields and leave nothing.  In front of every field the reader
stands where the writer stood; from there to the field are exactly the zeros the writer put, and
behind the field it stands where the writer stood then. -/
theorem written_stream_reads_back (hnew : CdrWriter.new endian limits = .ok w)
    (hwrite : writeAll fields w = .ok () w') (hvalid : readLimits.Valid)
    (hstream : readLimits.maxStreamBytes = limits.maxStreamBytes)
    (hstorage : ∀ f ∈ fields, 2 * f.stringPayload ≤ readLimits.maxTemporaryAllocation) :
    ∃ r r', CdrReader.openWith w'.buf readLimits = .ok r ∧
      readAll (fields.map CdrField.kind) r = .ok fields r' ∧
      CdrReader.ensureComplete r' = .ok () r' ∧
      ∀ (front : List CdrField) (f : CdrField) (back : List CdrField),
        fields = front ++ f :: back → ∃ w₁ w₂ r₁ r₂,
        writeAll front w = .ok () w₁ ∧ f.write w₁ = .ok () w₂ ∧
        readAll (front.map CdrField.kind) r = .ok front r₁ ∧ f.kind.read r₁ = .ok f r₂ ∧
        r₁.offset = w₁.position ∧ r₂.offset = w₂.position ∧
        w₂.buf = w₁.buf ++ (List.replicate (paddingFor w₁.position f.align) 0 ++ f.body endian) ∧
        w₂.buf <+: w'.buf := by
  have hwrites := writeAll_ok_iff.mp hwrite
  obtain ⟨hw, hlimits, hendian, -⟩ := writer_new_ok hnew
  have hreadable : ∀ f ∈ fields, f.Readable readLimits := by
    intro f hf
    obtain ⟨hwritable, hwidth⟩ := width_le_of_writes hwrites hw f hf
    rw [hlimits] at hwritable hwidth
    exact hwritable.readable hstream (hwidth.trans (Nat.min_le_left _ _))
      (f.storage_le.trans (hstorage f hf))
  obtain ⟨r, hopen, hfollows, hbytes, hrlimits⟩ := follows_new hnew hwrites hvalid hstream
  have hstart : w'.buf <+: r.bytes := hbytes ▸ List.prefix_refl _
  obtain ⟨r', hreads, hfollows', hbytes', -⟩ :=
    hfollows.run hwrites hstart (hrlimits ▸ hreadable)
  refine ⟨r, r', hopen, readAll_ok_iff.mpr hreads, hfollows'.complete (hbytes'.trans hbytes), ?_⟩
  rintro front f back rfl
  obtain ⟨w₁, hfront, w₂, hwrote, hback⟩ := chain_append.mp hwrites
  obtain ⟨hw₁, -, -, hendian₁⟩ := writes_append hfront hw
  have hback := (writes_append hback (hwrote.valid hw₁)).2.1
  have hmid := (hwrote.appends hw₁).1
  rw [List.forall_mem_append] at hreadable
  obtain ⟨hreadable, hlast⟩ := hreadable
  obtain ⟨hhere, -⟩ := List.forall_mem_cons.mp hlast
  obtain ⟨r₁, hreads₁, hfollows₁, hbytes₁, hlimits₁⟩ :=
    hfollows.run hfront (hbytes ▸ hmid.trans hback) (hrlimits ▸ hreadable)
  obtain ⟨r₂, hread, hfollows₂, -, -⟩ := hfollows₁.step hwrote
    (by rw [hbytes₁, hbytes]; exact hback) (by rw [hlimits₁, hrlimits]; exact hhere)
  refine ⟨w₁, w₂, r₁, r₂, writeAll_ok_iff.mpr hfront, hwrote, readAll_ok_iff.mpr hreads₁, hread,
    hfollows₁.position, hfollows₂.position, ?_, hback⟩
  obtain ⟨-, -, rfl⟩ := (f.write_ok_iff hw₁).mp hwrote
  rw [← hendian, ← hendian₁]
  rfl

/-- An octet, an aligned number behind three bytes of padding, and a string. -/
theorem written_stream_reads_back_mixed :
    ∃ r r', CdrReader.openWith
        [0, 0, 0, 0, 1, 0, 0, 0, 0, 0, 0, 7, 0, 0, 0, 2, 97, 0] ⟨64, 1, 4⟩ = .ok r ∧
      readAll [.u8, .u32, .string none] r = .ok [.u8 1, .u32 7, .string "a" none] r' ∧
      CdrReader.ensureComplete r' = .ok () r' := by
  obtain ⟨r, r', hopen, hread, hcomplete, -⟩ := @written_stream_reads_back .big ⟨64, 8, 64⟩
    ⟨64, 1, 4⟩ [.u8 1, .u32 7, .string "a" none] _ _ rfl rfl
    (CdrLimits.validate_eq_ok_iff.mp rfl) rfl (by decide)
  exact ⟨r, r', hopen, hread, hcomplete⟩

/-- Under one set of limits the reader takes what the writer takes, but for the storage of
strings. -/
theorem CdrField.Writable.readable_of_string {f : CdrField} (h : f.Writable limits)
    (hwidth : f.width ≤ writerCapacity limits)
    (hstring : ∀ value maxBytes, f = .string value maxBytes →
      (utf8 value).length * 2 ≤ limits.maxTemporaryAllocation) : f.Readable limits := by
  have htemporary : f.width ≤ limits.maxTemporaryAllocation := hwidth.trans (Nat.min_le_right _ _)
  refine h.readable rfl (hwidth.trans (Nat.min_le_left _ _)) ?_
  cases f with
  | string value maxBytes => exact hstring value maxBytes rfl
  | wstring value maxScalars => exact (Nat.le_add_left _ 4).trans htemporary
  | _ => exact Nat.zero_le _

/-- **Under the writer's own limits the reads succeed exactly when no string is longer than half
the temporary allocation**; every other field reads back. -/
theorem written_stream_reads_iff (hnew : CdrWriter.new endian limits = .ok w)
    (hwrite : writeAll fields w = .ok () w') :
    ∃ r, CdrReader.openWith w'.buf limits = .ok r ∧
      ((∃ r', readAll (fields.map CdrField.kind) r = .ok fields r' ∧
          CdrReader.ensureComplete r' = .ok () r') ↔
        ∀ value maxBytes, .string value maxBytes ∈ fields →
          (utf8 value).length * 2 ≤ limits.maxTemporaryAllocation) := by
  have hwrites := writeAll_ok_iff.mp hwrite
  obtain ⟨hw, hlimits, hendian, -⟩ := writer_new_ok hnew
  obtain ⟨r, hopen, hfollows, hbytes, hrlimits⟩ :=
    follows_new hnew hwrites (hlimits ▸ hw.limits) rfl
  refine ⟨r, hopen, ?_⟩
  constructor
  · rintro ⟨r', hread, -⟩ value maxBytes hmem
    obtain ⟨hreadable, -⟩ := (reads_iff hfollows.reader).mp (readAll_ok_iff.mp hread)
    rw [← hrlimits]
    exact (hreadable _ hmem).storage_le
  · intro hstrings
    have hreadable : ∀ f ∈ fields, f.Readable limits := by
      intro f hf
      obtain ⟨hwritable, hwidth⟩ := width_le_of_writes hwrites hw f hf
      rw [hlimits] at hwritable hwidth
      refine hwritable.readable_of_string hwidth ?_
      rintro value maxBytes rfl
      exact hstrings value maxBytes hf
    obtain ⟨r', hreads, hfollows', hbytes', -⟩ :=
      hfollows.run hwrites (hbytes ▸ List.prefix_refl _) (hrlimits ▸ hreadable)
    exact ⟨r', readAll_ok_iff.mpr hreads, hfollows'.complete (hbytes'.trans hbytes)⟩

end Cdr
end Rclweb
