import Rclweb.Cdr.RoundTrip

/-!
# One list of fields, many streams

A stream presents a list of fields when it is a header of some byte order and options, the fields
laid with anything in the gaps, and a tail of zeros.  `opens_and_reads_iff` says that the streams
a run of reads accepts are exactly the presentations of its fields, and `encoded_iff` that the
writer makes one of them, the canonical one.
-/

namespace Rclweb

open BigEndian Attempts Aligned

namespace Cdr

/-- **A stream that presents fields**, in a byte order, with options and a zero tail. -/
def Presents (fields : List CdrField) (endian : CdrEndian) (options : UInt16) (tail : ℕ)
    (bytes : List UInt8) : Prop :=
  ∃ laid, Lays CdrField.padding (CdrField.body endian) (fun _ => True) bodyOrigin fields laid ∧
    bytes = header endian options ++ (laid ++ List.replicate tail 0)

/-- The bytes a stream has in the padding of its fields. -/
def paddingBytes (fields : List CdrField) (bytes : List UInt8) : List UInt8 :=
  gapsOf CdrField.padding CdrField.width bodyOrigin fields (bytes.drop bodyOrigin)

/-- **The stream the writer makes of fields**: little-endian, options 0, zero padding. -/
def canonical (fields : List CdrField) : List UInt8 :=
  header .little 0 ++ lay CdrField.padding (CdrField.body .little) 0 bodyOrigin fields

/-- The length of the fields laid behind the header. -/
def laidLength (fields : List CdrField) : ℕ :=
  extent CdrField.padding CdrField.width bodyOrigin fields

variable {fields : List CdrField} {endian : CdrEndian} {options : UInt16} {tail : ℕ}
  {bytes : List UInt8} {limits : CdrLimits}

/-- All presentations with one tail are of one length. -/
theorem Presents.length_eq (h : Presents fields endian options tail bytes) :
    bytes.length = 4 + (laidLength fields + tail) := by
  obtain ⟨laid, hlaid, rfl⟩ := h
  simp [hlaid.length_eq fun f => f.length_body endian, laidLength]

theorem presents_canonical (fields : List CdrField) :
    Presents fields .little 0 0 (canonical fields) :=
  ⟨lay CdrField.padding (CdrField.body .little) 0 bodyOrigin fields, lays_lay trivial,
    by simp [canonical]⟩

theorem length_canonical (fields : List CdrField) :
    (canonical fields).length = 4 + laidLength fields :=
  (presents_canonical fields).length_eq

/-- The byte order and the options are the first four bytes of a presentation. -/
theorem Presents.take_four (h : Presents fields endian options tail bytes) :
    bytes.take 4 = header endian options := by
  obtain ⟨laid, -, rfl⟩ := h
  exact List.take_left' (length_header endian options)

theorem header_inj {endian' : CdrEndian} {options' : UInt16}
    (h : header endian options = header endian' options') :
    endian = endian' ∧ options = options' := by
  obtain ⟨hrepr, hoptions⟩ := List.append_inj h (by simp)
  have hlt (v : UInt16) : v.toNat < 256 ^ 2 := v.toNat_lt
  have hnat (v v' : UInt16) (heq : BigEndian.toBytes 2 v.toNat = BigEndian.toBytes 2 v'.toNat) :
      v = v' := by
    have hof := congrArg BigEndian.ofBytes heq
    rw [ofBytes_toBytes_of_lt (hlt v), ofBytes_toBytes_of_lt (hlt v')] at hof
    exact UInt16.toNat_inj.mp hof
  refine ⟨?_, hnat _ _ hoptions⟩
  have hrepr := hnat _ _ hrepr
  revert hrepr
  cases endian <;> cases endian' <;> decide

/-- **A little-endian presentation with options 0 and zero padding is the canonical stream and
its zero tail.** -/
theorem Presents.eq_canonical (h : Presents fields endian options tail bytes)
    (hheader : bytes.take 4 = header .little 0) (hpadding : ∀ x ∈ paddingBytes fields bytes, x = 0) :
    bytes = canonical fields ++ List.replicate tail 0 := by
  obtain ⟨rfl, rfl⟩ := header_inj (h.take_four.symm.trans hheader)
  obtain ⟨laid, hlaid, rfl⟩ := h
  have hdrop : (header .little 0 ++ (laid ++ List.replicate tail (0 : UInt8))).drop bodyOrigin
      = laid ++ List.replicate tail 0 := List.drop_left' (length_header _ _)
  rw [paddingBytes, hdrop] at hpadding
  have hzero := (lays_iff_gapsOf fun f => f.length_body .little).mpr ⟨hlaid, hpadding⟩
  rw [lays_eq_iff.mp hzero, canonical, List.append_assoc]

/-- **The streams that open and read as fields** are a header, the fields laid, and what is left. -/
theorem opens_and_reads_rest_iff {rest : List UInt8} :
    (∃ r r', CdrReader.openWith bytes limits = .ok r ∧ Chain DidRead fields r r' ∧
        r'.unread = rest) ↔
      limits.Valid ∧ bytes.length ≤ limits.maxStreamBytes ∧ (∀ f ∈ fields, f.Readable limits) ∧
        ∃ endian options laid,
          Lays CdrField.padding (CdrField.body endian) (fun _ => True) bodyOrigin fields laid ∧
            bytes = header endian options ++ (laid ++ rest) := by
  constructor
  · rintro ⟨r, r', hopen, hreads, rfl⟩
    obtain ⟨hvalid, hlen, endian, options, body, hbytes, rfl⟩ := openWith_ok_iff.mp hopen
    have hfour : bodyOrigin ≤ bytes.length := by
      rw [hbytes, List.length_append, length_header]
      exact Nat.le_add_right _ _
    obtain ⟨hreadable, laid, hlaid, -, hslice, rfl⟩ :=
      (reads_iff ⟨hvalid, le_refl _, hfour, hlen⟩).mp hreads
    refine ⟨hvalid, hlen, hreadable, endian, options, laid, hlaid, ?_⟩
    have hbody : body = bytes.drop bodyOrigin := by
      rw [hbytes]
      exact (List.drop_left' (length_header endian options)).symm
    have hsplit := List.take_append_drop laid.length (bytes.drop bodyOrigin)
    rw [List.drop_drop] at hsplit
    have htake : (bytes.drop bodyOrigin).take laid.length = laid := hslice
    rw [htake] at hsplit
    show bytes = header endian options ++ (laid ++ bytes.drop (bodyOrigin + laid.length))
    rw [hsplit, ← hbody]
    exact hbytes
  · rintro ⟨hvalid, hlen, hreadable, endian, options, laid, hlaid, rfl⟩
    have hdrop : (header endian options ++ (laid ++ rest)).drop bodyOrigin = laid ++ rest :=
      List.drop_left' (length_header _ _)
    have hopen := openWith_ok_iff.mpr ⟨hvalid, hlen, endian, options, _, rfl, rfl⟩
    refine ⟨_, _, hopen, (reads_iff ⟨hvalid, le_refl _, ?_, hlen⟩).mpr
      ⟨hreadable, laid, hlaid, ?_, ?_, rfl⟩, ?_⟩
    · rw [List.length_append, length_header]
      exact Nat.le_add_right _ _
    · simp only [List.length_append, length_header, bodyOrigin]
      omega
    · rw [CdrReader.slice, hdrop, List.take_left]
    · rw [CdrReader.unread, ← List.drop_drop, hdrop, List.drop_left]

/-- **The streams that open and read as fields, with a zero tail left, are the presentations of
the fields**, when the reader takes the fields and the stream is not too long. -/
theorem opens_and_reads_iff :
    (∃ r r', CdrReader.openWith bytes limits = .ok r ∧ Chain DidRead fields r r' ∧
        r'.unread = List.replicate tail 0) ↔
      limits.Valid ∧ bytes.length ≤ limits.maxStreamBytes ∧ (∀ f ∈ fields, f.Readable limits) ∧
        ∃ endian options, Presents fields endian options tail bytes :=
  opens_and_reads_rest_iff

/-- **What the default little-endian writer makes of fields**: the canonical stream, when it takes
the fields and the stream is not too long. -/
theorem encoded_iff {w : CdrWriter} (hnew : CdrWriter.new .little .defaults = .ok w) :
    (∃ w', Chain Wrote fields w w' ∧ w'.buf = bytes) ↔
      (∀ f ∈ fields, f.Writable .defaults) ∧ bytes.length ≤ defaultMaxStreamBytes ∧
        bytes = canonical fields := by
  obtain ⟨hw, hlimits, hendian, hbuf⟩ := writer_new_ok hnew
  have hcap : w.capacity = defaultMaxStreamBytes := by
    rw [hw.capacity, hlimits]
    rfl
  have hfour : w.buf.length = bodyOrigin := by
    rw [hbuf, length_header]
    rfl
  have hlen := length_canonical fields
  unfold laidLength at hlen
  constructor
  · rintro ⟨w', hwrites, rfl⟩
    obtain ⟨hwritable, hfits, rfl⟩ := (writes_iff hw).mp hwrites
    rw [hlimits] at hwritable
    rw [hfour, hcap] at hfits
    have hcanonical : w.buf ++ lay CdrField.padding (CdrField.body w.endian) 0 w.buf.length fields
        = canonical fields := by
      rw [hendian, hfour, hbuf]
      rfl
    refine ⟨hwritable, ?_, hcanonical⟩
    show (w.buf ++ _).length ≤ _
    rw [hcanonical, hlen]
    exact hfits
  · rintro ⟨hwritable, hle, rfl⟩
    refine ⟨_, (writes_iff hw).mpr ⟨by rwa [hlimits], ?_, rfl⟩, ?_⟩
    · rw [hfour, hcap]
      rw [hlen] at hle
      exact hle
    · show w.buf ++ _ = _
      rw [hendian, hfour, hbuf]
      rfl

/-- The fields of a canonical stream within the ceilings are fields the reader takes, when the
strings among them are within half the temporary allocation. -/
theorem readable_of_canonical (hwritable : ∀ f ∈ fields, f.Writable .defaults)
    (hlen : (canonical fields).length ≤ defaultMaxStreamBytes)
    (hstrings : ∀ value maxBytes, .string value maxBytes ∈ fields →
      (utf8 value).length * 2 ≤ defaultMaxTemporaryAllocation) :
    ∀ f ∈ fields, f.Readable .defaults := by
  obtain ⟨w, hnew⟩ : ∃ w, CdrWriter.new .little .defaults = .ok w := ⟨_, rfl⟩
  obtain ⟨hw, hlimits, -, -⟩ := writer_new_ok hnew
  obtain ⟨w', hwrites, -⟩ := (encoded_iff hnew).mpr ⟨hwritable, hlen, rfl⟩
  intro f hf
  obtain ⟨hallowed, hwidth⟩ := width_le_of_writes hwrites hw f hf
  rw [hlimits] at hallowed hwidth
  refine hallowed.readable_of_string hwidth ?_
  rintro value maxBytes rfl
  exact hstrings value maxBytes hf

/-- Fields that are never empty are fewer than the bytes they take. -/
theorem length_le_extent {fields : List CdrField} (h : ∀ f ∈ fields, 1 ≤ f.width) (pos : ℕ) :
    fields.length ≤ extent CdrField.padding CdrField.width pos fields := by
  induction fields generalizing pos with
  | nil => exact Nat.zero_le _
  | cons f fields ih =>
    obtain ⟨hf, hrest⟩ := List.forall_mem_cons.mp h
    have htail := ih hrest (pos + (f.padding pos + f.width))
    rw [List.length_cons, extent]
    omega

/-- Only raw bytes can be empty. -/
theorem CdrField.one_le_width {f : CdrField} (h : ∀ data, f ≠ .bytes data) : 1 ≤ f.width := by
  cases f with
  | bytes data => exact absurd rfl (h data)
  | string | wstring | byteSequence => exact Nat.le_add_right_of_le (by decide)
  | _ => simp [width]

/-- A canonical stream is longer than its fields are many, when none can be empty. -/
theorem length_le_canonical (h : ∀ f ∈ fields, 1 ≤ f.width) :
    fields.length ≤ (canonical fields).length := by
  rw [length_canonical]
  exact (length_le_extent h bodyOrigin).trans (Nat.le_add_left _ _)

end Cdr
end Rclweb
