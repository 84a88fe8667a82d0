import PolytopeOS.BootElf.Safety

/-!
# What the verdict on an ELF file depends on

Only the identification, the header fields that are read and the program-header
table matter, together with the file being long enough for all of them and for
every segment's data. The section-header fields, the data itself and whatever
follows it have no influence.
-/

namespace PolytopeOS.BootElf
open Corelib

/-- The least length that holds the table and the data of every load segment. -/
def required (bytes : Bytes) : ℕ :=
  (loads (tableOf bytes)).foldr (fun p most => max (p.offset + p.filesz) most)
    (field bytes 32 8 + 56 * field bytes 56 2)

theorem required_le_iff {bytes : Bytes} {n : ℕ} :
    required bytes ≤ n ↔ field bytes 32 8 + 56 * field bytes 56 2 ≤ n ∧
      ∀ p ∈ loads (tableOf bytes), p.offset + p.filesz ≤ n := by
  unfold required
  induction loads (tableOf bytes) with
  | nil => simp
  | cons p ps ih =>
    rw [List.foldr_cons, max_le_iff, ih, List.forall_mem_cons]
    exact and_left_comm

/-- `b` has the bytes of `a` that the parser reads. -/
structure SameMetadata (a b : Bytes) : Prop where
  ident : AgreeOn a b 0 40
  header : AgreeOn a b 48 58
  table : AgreeOn a b (field a 32 8) (field a 32 8 + 56 * field a 56 2)

section
variable {a b : Bytes}

theorem SameMetadata.phoff (h : SameMetadata a b) : field a 32 8 = field b 32 8 :=
  h.ident.field (by decide) (by decide)

theorem SameMetadata.phnum (h : SameMetadata a b) : field a 56 2 = field b 56 2 :=
  h.header.field (by decide) (by decide)

theorem SameMetadata.headerAt_eq (h : SameMetadata a b) {i : ℕ} (hi : i < field a 56 2) :
    headerAt a (field a 32 8 + 56 * i) = headerAt b (field b 32 8 + 56 * i) := by
  have hfield : ∀ offset width, offset + width ≤ 56 →
      field a (field a 32 8 + 56 * i + offset) width =
        field b (field b 32 8 + 56 * i + offset) width := by
    intro offset width hle
    rw [← h.phoff]
    exact h.table.field (by omega) (by omega)
  have hkind := hfield 0 4 (by decide)
  simp only [Nat.add_zero] at hkind
  simp only [headerAt, hkind, hfield 4 4 (by decide), hfield 8 8 (by decide),
    hfield 16 8 (by decide), hfield 24 8 (by decide), hfield 32 8 (by decide),
    hfield 40 8 (by decide), hfield 48 8 (by decide)]

theorem SameMetadata.phdrOf_eq (h : SameMetadata a b) {i : ℕ} (hi : i < field a 56 2) :
    phdrOf a i = phdrOf b i := by
  rw [phdrOf, phdrOf, ← nat_headerAt, ← nat_headerAt, h.headerAt_eq hi]

theorem SameMetadata.tableOf_eq (h : SameMetadata a b) : tableOf a = tableOf b := by
  unfold tableOf
  rw [← h.phnum]
  exact List.map_congr_left fun i hi => h.phdrOf_eq (List.mem_range.mp hi)

theorem SameMetadata.required_eq (h : SameMetadata a b) : required a = required b := by
  rw [required, required, h.tableOf_eq, h.phoff, h.phnum]

theorem SameMetadata.loadIndices_eq (h : SameMetadata a b) : loadIndices a = loadIndices b := by
  unfold loadIndices
  rw [← h.phnum]
  refine List.filter_congr fun i hi => ?_
  rw [h.phdrOf_eq (List.mem_range.mp hi)]

theorem Profile.required_le (h : Profile a) : required a ≤ a.length :=
  required_le_iff.mpr ⟨h.header.table_fits, fun p hp => (h.table.segments p hp).file_range⟩

/-- The rules for the header carry over, for they are about the same fields. -/
theorem SameMetadata.headerValid (h : SameMetadata a b) (ha : HeaderValid a)
    (hfits : required a ≤ b.length) : HeaderValid b where
  e_type := (h.ident.field (by decide) (by decide)).symm.trans ha.e_type
  e_machine := (h.ident.field (by decide) (by decide)).symm.trans ha.e_machine
  e_version := (h.ident.field (by decide) (by decide)).symm.trans ha.e_version
  e_flags := (h.header.field (by decide) (by decide)).symm.trans ha.e_flags
  e_ehsize := (h.header.field (by decide) (by decide)).symm.trans ha.e_ehsize
  e_phentsize := (h.header.field (by decide) (by decide)).symm.trans ha.e_phentsize
  e_phnum := h.phnum ▸ ha.e_phnum
  e_phoff := h.phoff ▸ ha.e_phoff
  table_fits := by
    rw [← h.phoff, ← h.phnum]
    exact (required_le_iff.mp hfits).1
  e_entry := by
    have hentry : entryOf b = entryOf a := (h.ident.field (by decide) (by decide)).symm
    rw [hentry]
    exact ha.e_entry

theorem SameMetadata.profile (h : SameMetadata a b) (ha : Profile a)
    (hfits : required a ≤ b.length) (hle : b.length ≤ 16 * 1024 * 1024) : Profile b := by
  have hentry : entryOf a = entryOf b := h.ident.field (by decide) (by decide)
  have hheader := h.headerValid ha.header hfits
  have htable := ha.table
  have hloaded := ha.loaded
  have hunique := ha.entry
  rw [h.tableOf_eq] at htable hloaded hunique
  rw [hentry] at hunique
  refine ⟨?_, hle, ?_, hheader, ⟨htable.kinds, htable.count, ?_, htable.disjoint, htable.total⟩,
    hloaded, hunique⟩
  · have := hheader.e_phoff
    have := hheader.table_fits
    omega
  · have hident : AgreeOn b a 0 (0 + 16) := (h.ident.mono le_rfl (by decide)).symm
    rw [← ha.ident]
    exact hident.drop_take
  · -- only the bound on the file range mentions the length
    intro p hp
    rw [h.required_eq] at hfits
    exact { htable.segments p hp with file_range := (required_le_iff.mp hfits).2 p hp }

end

/-- A segment without its data. -/
def LoadSegment.metadata (segment : LoadSegment) : LoadSegment := { segment with fileData := [] }

theorem SameMetadata.metadata_segmentOf {a b : Bytes} (h : SameMetadata a b) {i : ℕ}
    (hi : i < field a 56 2) : (segmentOf a i).metadata = (segmentOf b i).metadata := by
  simp only [LoadSegment.metadata, segmentOf, h.headerAt_eq hi]

theorem SameMetadata.fileData_segmentOf {a b : Bytes} (h : SameMetadata a b) {i : ℕ}
    (hi : i < field a 56 2)
    (hdata : AgreeOn a b (segmentOf a i).fileOffset.toNat
      ((segmentOf a i).fileOffset.toNat + (segmentOf a i).fileSize.toNat)) :
    (segmentOf a i).fileData = (segmentOf b i).fileData := by
  have hoffset : (segmentOf a i).fileOffset.toNat = (phdrOf a i).offset := toNat_field64
  have hsize : (segmentOf a i).fileSize.toNat = (phdrOf a i).filesz := toNat_field64
  rw [hoffset, hsize] at hdata
  simp only [segmentOf, ← h.phdrOf_eq hi]
  exact hdata.drop_take

theorem lt_of_mem_loadIndices {bytes : Bytes} {i : ℕ} (h : i ∈ loadIndices bytes) :
    i < field bytes 56 2 :=
  List.mem_range.mp (List.mem_filter.mp h).1

/-- A prefix too short for the table or for some segment's data is rejected: were
it accepted, its own table would be the one of the whole file. -/
theorem not_profile_take {a : Bytes} {n : ℕ} (hn : n < required a) : ¬Profile (a.take n) := by
  intro h
  have hlen : (a.take n).length ≤ n := by
    rw [List.length_take]
    exact Nat.min_le_left _ _
  have hagree := agreeOn_take a n
  have hge : 64 ≤ n := h.length_ge.trans hlen
  have hfits := h.header.table_fits
  have hsame : SameMetadata (a.take n) a :=
    ⟨hagree.mono le_rfl (by omega), hagree.mono (Nat.zero_le _) (by omega),
      hagree.mono (Nat.zero_le _) (by omega)⟩
  have hrequired := h.required_le
  rw [hsame.required_eq] at hrequired
  omega

/-- The verdict and the load plan depend on the metadata alone, and no prefix
that loses a required byte is accepted. -/
theorem verdict_depends_on_metadata {a : Bytes} {elf : ValidatedElf} {segments : List LoadSegment}
    (ha : parse a = .ok elf) (hsegments : elf.segments.collect = .ok segments) :
    (∀ b : Bytes, required a ≤ b.length → b.length ≤ 16 * 1024 * 1024 → SameMetadata a b →
      ∃ elf' segments', parse b = .ok elf' ∧ elf'.segments.collect = .ok segments' ∧
        elf'.entryPoint = elf.entryPoint ∧ elf'.loadSegmentCount = elf.loadSegmentCount ∧
        segments'.map LoadSegment.metadata = segments.map LoadSegment.metadata ∧
        ∀ (k : ℕ) (s s' : LoadSegment), segments[k]? = some s → segments'[k]? = some s' →
          AgreeOn a b s.fileOffset.toNat (s.fileOffset.toNat + s.fileSize.toNat) →
          s'.fileData = s.fileData) ∧
    (∀ n < required a, ∃ e, parse (a.take n) = .err e) := by
  obtain ⟨hprofile, rfl⟩ := parse_eq_ok.mp ha
  obtain rfl := Exec.ok.inj ((segments_collect hprofile).symm.trans hsegments)
  constructor
  · intro b hfits hle h
    have hb := h.profile hprofile hfits hle
    refine ⟨elfOf b, _, parse_eq_ok.mpr ⟨hb, rfl⟩, segments_collect hb, ?_, ?_, ?_, ?_⟩
    · exact congrArg UInt64.ofNat (h.ident.symm.field (by decide) (by decide))
    · simp only [elfOf, h.tableOf_eq]
    · rw [List.map_map, List.map_map, ← h.loadIndices_eq]
      exact List.map_congr_left fun i hi => (h.metadata_segmentOf (lt_of_mem_loadIndices hi)).symm
    · intro k s s' hs hs' hdata
      rw [← h.loadIndices_eq] at hs'
      rw [List.getElem?_map] at hs hs'
      obtain ⟨i, hi, rfl⟩ := Option.map_eq_some_iff.mp hs
      obtain rfl : segmentOf b i = s' := by
        rw [hi] at hs'
        exact Option.some.inj hs'
      exact (h.fileData_segmentOf (lt_of_mem_loadIndices (List.mem_of_getElem? hi)) hdata).symm
  · intro n hn
    cases hparse : parse (a.take n) with
    | ok elf' => exact absurd (parse_eq_ok.mp hparse).1 (not_profile_take hn)
    | err e => exact ⟨e, rfl⟩
    | panic => exact absurd hparse (parse_ne_panic _)

/-- The sample with an offset of a section table, which is no metadata. -/
def sectionedElf : Bytes := (sampleElf 0x200000).set 40 1

theorem sectionedElf_metadata : SameMetadata (sampleElf 0x200000) sectionedElf := by
  have hother : ∀ i, i ≠ 40 → (sampleElf 0x200000)[i]? = sectionedElf[i]? := fun i hi =>
    (List.getElem?_set_ne hi.symm).symm
  have htable : field (sampleElf 0x200000) 32 8 = 64 := by decide +kernel
  refine ⟨fun i _ hlt => hother i (by omega), fun i hle _ => hother i (by omega), ?_⟩
  rw [htable]
  exact fun i hle _ => hother i (by omega)

theorem verdict_depends_on_metadata_sample :
    parse (sampleElf 0x200000) = .ok sampleElfHandle ∧
      sampleElfHandle.segments.collect = .ok [segmentOf (sampleElf 0x200000) 1] ∧
      (sectionedElf ≠ sampleElf 0x200000 ∧ ∃ elf' segments', parse sectionedElf = .ok elf' ∧
        elf'.segments.collect = .ok segments' ∧ elf'.entryPoint = 0x200000 ∧
        segments'.map LoadSegment.metadata =
          [(segmentOf (sampleElf 0x200000) 1).metadata]) ∧
      ∀ n < required (sampleElf 0x200000), ∃ e, parse ((sampleElf 0x200000).take n) = .err e := by
  obtain ⟨hsame, hprefix⟩ := verdict_depends_on_metadata parse_sampleElf collect_sampleElf
  have hlengths : required (sampleElf 0x200000) ≤ sectionedElf.length ∧
      sectionedElf.length ≤ 16 * 1024 * 1024 ∧ sectionedElf ≠ sampleElf 0x200000 := by
    decide +kernel
  obtain ⟨hfits, hle, hne⟩ := hlengths
  obtain ⟨elf', segments', hparse, hcollect, hentry, -, hmetadata, -⟩ :=
    hsame sectionedElf hfits hle sectionedElf_metadata
  exact ⟨parse_sampleElf, collect_sampleElf,
    ⟨hne, elf', segments', hparse, hcollect, hentry, hmetadata⟩, hprefix⟩

end PolytopeOS.BootElf
