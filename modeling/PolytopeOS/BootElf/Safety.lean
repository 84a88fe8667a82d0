import PolytopeOS.BootElf.Segments

/-!
# The ELF parser does not panic

Direct indexing, unchecked sums and differences, the 16-bit counters and the
remainders of the source are operations that may panic. None of them does, on
any input: each is covered by a check that was made before.
-/

namespace PolytopeOS.BootElf
open Corelib

theorem validateIdentification_ne_panic {bytes : Bytes} (h : 64 ≤ bytes.length) :
    validateIdentification bytes ≠ .panic := by
  rw [validateIdentification_eq h]
  iterate 7 refine Exec.ite_err_ne_panic fun _ => ?_
  simp

theorem parseHeader_ne_panic (bytes : Bytes) : parseHeader bytes ≠ .panic := by
  unfold parseHeader
  iterate 9 refine Exec.bind_ne_panic (Exec.okOr_ne_panic _ _) fun _ _ => ?_
  iterate 8 refine Exec.ite_err_ne_panic fun _ => ?_
  iterate 2 refine Exec.bind_ne_panic (Exec.okOr_ne_panic _ _) fun _ _ => ?_
  iterate 2 refine Exec.ite_err_ne_panic fun _ => ?_
  simp

/-- The header check puts the whole table inside the file, so every header
decodes. -/
theorem validateProgramHeaders_ne_panic {bytes : Bytes} (h : HeaderValid bytes)
    (hlen : bytes.length < 2 ^ 64) :
    validateProgramHeaders bytes (headerOf bytes) ≠ .panic := by
  have hsize : (headerOf bytes).fileSize.toNat = bytes.length := fileSizeOf_toNat hlen
  unfold validateProgramHeaders
  rw [map_decodeProgramHeader h hlen]
  rcases scan_spec hsize (headersOf bytes) with ⟨-, hok⟩ | ⟨-, e, herr⟩
  · rw [hok, Exec.ok_bind]
    refine Exec.ite_err_ne_panic fun _ => Exec.ite_err_ne_panic fun _ => ?_
    simp
  · rw [herr]
    simp

theorem parse_ne_panic (bytes : Bytes) : parse bytes ≠ .panic := by
  unfold parse
  refine Exec.ite_err_ne_panic fun hge => Exec.ite_err_ne_panic fun hle => ?_
  have hge : 64 ≤ bytes.length := not_lt.mp hge
  have hle : bytes.length ≤ 16 * 1024 * 1024 := not_lt.mp hle
  refine Exec.bind_ne_panic (validateIdentification_ne_panic hge) fun _ _ => ?_
  refine Exec.bind_ne_panic (parseHeader_ne_panic bytes) fun header hheader => ?_
  obtain ⟨hvalid, rfl⟩ := (parseHeader_eq_ok hge hle).mp hheader
  have hlen : bytes.length < 2 ^ 64 := lt_of_le_of_lt hle (by decide)
  refine Exec.bind_ne_panic (validateProgramHeaders_ne_panic hvalid hlen) fun _ _ => ?_
  simp

/-- An iterator over the segments of `bytes`, at any point of its run. -/
structure Iterates (bytes : Bytes) (it : LoadSegments) : Prop where
  bytes_eq : it.bytes = bytes
  offset_eq : it.programHeaderOffset = field bytes 32 8
  count_eq : it.programHeaderCount = field bytes 56 2
  index_le : it.nextIndex ≤ it.programHeaderCount

theorem iterates_segments (bytes : Bytes) : Iterates bytes (elfOf bytes).segments :=
  ⟨rfl, rfl, toNat_field16, Nat.zero_le _⟩

/-- What one call of the iterator does: it does not panic, it stays an iterator
over the same file, and what it yields is one of the file's segments. -/
structure NextSafe (bytes : Bytes) (result : Exec Unit LoadSegment × LoadSegments) : Prop where
  ne_panic : result.1 ≠ .panic
  iterates : Iterates bytes result.2
  segment : ∀ segment, result.1 = .ok segment →
    ∃ i ∈ loadIndices bytes, segment = segmentOf bytes i

theorem next_safe {bytes : Bytes} (h : Profile bytes) {it : LoadSegments}
    (hit : Iterates bytes it) : NextSafe bytes it.next := by
  have hlt : bytes.length < 2 ^ 64 := lt_of_le_of_lt h.length_le (by decide)
  have hfits := h.header.table_fits
  have hcount := field_lt bytes 56 2
  -- the header at any index of the table decodes
  have hdecodes : ∀ it : LoadSegments, Iterates bytes it → it.nextIndex < it.programHeaderCount →
      decodeProgramHeader it.bytes it.programHeaderOffset it.nextIndex =
        .ok (headerAt bytes (field bytes 32 8 + 56 * it.nextIndex)) := by
    intro it hit hindex
    have hindex' := hit.count_eq ▸ hindex
    rw [hit.bytes_eq, hit.offset_eq]
    exact decodeProgramHeader_eq (by omega) hlt
  fun_induction LoadSegments.next it with
  | case1 it hindex hover =>
    have := hit.count_eq
    omega
  | case2 it hindex index hfit moved header hdecode hload =>
    have hmoved : Iterates bytes moved := ⟨hit.bytes_eq, hit.offset_eq, hit.count_eq, hindex⟩
    refine ⟨Exec.okOr_ne_panic _ _, hmoved, fun segment hsegment => ?_⟩
    obtain rfl := Exec.ok.inj ((hdecodes it hit hindex).symm.trans hdecode)
    have hmem : index ∈ loadIndices bytes := by
      refine List.mem_filter.mpr ⟨List.mem_range.mpr (hit.count_eq ▸ hindex), ?_⟩
      rw [kind_eq_load, nat_headerAt] at hload
      exact decide_eq_true hload
    refine ⟨index, hmem, ?_⟩
    rw [show moved.bytes = bytes from hit.bytes_eq] at hsegment
    rw [loadSegmentFromHeader_eq h hmem, Exec.okOr_some] at hsegment
    exact (Exec.ok.inj hsegment).symm
  | case3 it hindex index hfit moved header hdecode hload ih =>
    exact ih ⟨hit.bytes_eq, hit.offset_eq, hit.count_eq, hindex⟩
  | case4 it hindex index hfit moved hdecode =>
    exact absurd ((hdecodes it hit hindex).symm.trans hdecode) (by simp)
  | case5 it hindex index hfit moved hdecode =>
    exact absurd ((hdecodes it hit hindex).symm.trans hdecode) (by simp)
  | case6 it hindex => exact ⟨by simp, hit, by simp⟩

theorem sizeHint_ne_panic {bytes : Bytes} {it : LoadSegments} (h : Iterates bytes it) :
    it.sizeHint ≠ .panic := by
  rw [LoadSegments.sizeHint, if_neg (not_lt.mpr h.index_le)]
  simp

/-- Any number of calls keeps the iterator inside its table. -/
theorem iterates_iterate {bytes : Bytes} (h : Profile bytes) (n : ℕ) :
    Iterates bytes ((fun it : LoadSegments => it.next.2)^[n] (elfOf bytes).segments) := by
  induction n with
  | zero => exact iterates_segments bytes
  | succ n ih =>
    rw [Function.iterate_succ_apply']
    exact (next_safe h ih).iterates

/-- Parsing any byte string, and iterating over the segments of an accepted one
for any number of calls, panics nowhere. -/
theorem elf_never_panics (bytes : Bytes) :
    parse bytes ≠ .panic ∧
    ∀ elf, parse bytes = .ok elf →
      elf.segments.collect ≠ .panic ∧
      ∀ n, let it := (fun it : LoadSegments => it.next.2)^[n] elf.segments
        it.next.1 ≠ .panic ∧ it.sizeHint ≠ .panic ∧
        ∀ segment, it.next.1 = .ok segment → segment.zeroFillSize ≠ .panic := by
  refine ⟨parse_ne_panic bytes, fun elf helf => ?_⟩
  obtain ⟨h, rfl⟩ := parse_eq_ok.mp helf
  refine ⟨by rw [segments_collect h]; simp, fun n => ?_⟩
  have hit := iterates_iterate h n
  have hsafe := next_safe h hit
  refine ⟨hsafe.ne_panic, sizeHint_ne_panic hit, fun segment hsegment => ?_⟩
  obtain ⟨i, hi, rfl⟩ := hsafe.segment segment hsegment
  obtain ⟨size, hsize, -⟩ := (carries_segmentOf h hi).zeroFill
  rw [hsize]
  simp

theorem elf_never_panics_sample :
    parse (sampleElf 0x200000) = .ok sampleElfHandle ∧
      sampleElfHandle.segments.collect ≠ .panic :=
  ⟨parse_sampleElf, ((elf_never_panics (sampleElf 0x200000)).2 _ parse_sampleElf).1⟩

end PolytopeOS.BootElf
