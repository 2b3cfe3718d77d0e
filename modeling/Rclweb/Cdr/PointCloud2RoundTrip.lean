import Rclweb.Cdr.PointCloud2
import Rclweb.Types.GeneratedCanonical

/-!
# PointCloud2 streams, there and back

The encoder makes the canonical stream of a view, and it decodes to the view with its payload
where the encoder put it.  With the other codecs: what the encoder accepts the decoder accepts
under the same limits, strings of more than half the temporary allocation apart.
-/

namespace Rclweb

open BigEndian Attempts Aligned

namespace Cdr

variable {v : PointCloud2View} {bytes : List UInt8}

namespace PointCloud2View

/-- The view over a stream the encoder made: the payload is a span of the stream. -/
def located (v : PointCloud2View) : PointCloud2View :=
  { v with data := ⟨v.dataStart, v.data.bytes⟩ }

@[simp] theorem cdrFields_located (v : PointCloud2View) : v.located.cdrFields = v.cdrFields := rfl

@[simp] theorem dataStart_located (v : PointCloud2View) : v.located.dataStart = v.dataStart := rfl

end PointCloud2View

/-- **An encoded view decodes exactly when its strings are within half the temporary
allocation.** -/
theorem decode_encodePointCloud2Le_iff (h : encodePointCloud2Le v = .ok bytes) :
    decodePointCloud2Le bytes = .ok v.located ↔
      ∀ value maxBytes, .string value maxBytes ∈ v.cdrFields →
        (utf8 value).length * 2 ≤ defaultMaxTemporaryAllocation := by
  have hsized := sized_of_encodePointCloud2Le h
  obtain ⟨hwritable, hlen, rfl⟩ := encodePointCloud2Le_iff.mp h
  rw [decodePointCloud2Le_iff]
  constructor
  · rintro ⟨-, -, -, hreadable, -⟩ value maxBytes hmem
    exact (hreadable _ hmem).storage_le
  · intro hstrings
    exact ⟨hsized, rfl, hlen, readable_of_canonical hwritable hlen hstrings, .little, 0,
      presents_canonical _⟩

/-- **What the encoder accepts the decoder accepts under the same limits, but for long strings.**
The matching reads of a written stream succeed exactly when no string takes more than half the
temporary allocation, and so do the decoders on what the encoders of the generated messages and
of PointCloud2 make. -/
theorem encoder_accepts_decoder_accepts :
    (∀ endian limits fields w w', CdrWriter.new endian limits = .ok w →
      writeAll fields w = .ok () w' →
      ∃ r, CdrReader.openWith w'.buf limits = .ok r ∧
        ((∃ r', readAll (fields.map CdrField.kind) r = .ok fields r' ∧
            CdrReader.ensureComplete r' = .ok () r') ↔
          ∀ value maxBytes, .string value maxBytes ∈ fields →
            (utf8 value).length * 2 ≤ limits.maxTemporaryAllocation)) ∧
    (∀ m bytes, Types.encodeGeneratedCdr m = .ok bytes →
      (Types.decodeGeneratedCdr m.typeName bytes = .ok m ↔
        ∀ value maxBytes, .string value maxBytes ∈ m.fields →
          (utf8 value).length * 2 ≤ defaultMaxTemporaryAllocation)) ∧
    ∀ v bytes, encodePointCloud2Le v = .ok bytes →
      (decodePointCloud2Le bytes = .ok v.located ↔
        ∀ value maxBytes, .string value maxBytes ∈ v.cdrFields →
          (utf8 value).length * 2 ≤ defaultMaxTemporaryAllocation) :=
  ⟨fun _ _ _ _ _ hnew hwrite => written_stream_reads_iff hnew hwrite,
    fun _ _ h => Types.decode_encode_iff h, fun _ _ h => decode_encodePointCloud2Le_iff h⟩

/-- Twenty bytes hold a string of eleven, which the reader charges twenty-two. -/
theorem eleven_bytes_refused : ∃ w w' r e r', CdrWriter.new .little ⟨20, 1, 20⟩ = .ok w ∧
    writeAll [.string "abcdefghijk" none] w = .ok () w' ∧
    CdrReader.openWith w'.buf ⟨20, 1, 20⟩ = .ok r ∧ readAll [.string none] r = .error e r' :=
  ⟨_, _, _, _, _, rfl, rfl, rfl, rfl⟩

end Cdr
end Rclweb
