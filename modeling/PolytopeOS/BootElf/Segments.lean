import PolytopeOS.BootElf.Profile

/-!
# Iterating over the load plan

`LoadSegments.next` decodes the program headers a second time and gives up when
a read fails. On a file that `parse` accepted no read fails, so the iteration
sees every load header.
-/

namespace PolytopeOS.BootElf
open Corelib

structure LoadSegments where
  bytes : Bytes
  programHeaderOffset : ℕ
  programHeaderCount : ℕ
  nextIndex : ℕ
  deriving DecidableEq, Repr

def ValidatedElf.segments (elf : ValidatedElf) : LoadSegments where
  bytes := elf.bytes
  programHeaderOffset := elf.programHeaderOffset
  programHeaderCount := elf.programHeaderCount.toNat
  nextIndex := 0

def loadSegmentFromHeader (bytes : Bytes) (index : ℕ) (header : ProgramHeader) :
    Option LoadSegment := do
  let start := header.fileOffset.toNat
  let finish := (← checkedAdd header.fileOffset header.fileSize).toNat
  let fileData ← slice bytes start finish
  return {
    index
    flags := ⟨header.flags⟩
    fileOffset := header.fileOffset
    virtualAddress := header.virtualAddress
    physicalAddress := header.physicalAddress
    fileSize := header.fileSize
    memorySize := header.memorySize
    alignment := header.alignment
    fileData }

namespace LoadSegments

/-- The pair holds the item (`None` is the error `()`) and the iterator that the
call leaves behind. -/
def next (it : LoadSegments) : Exec Unit LoadSegment × LoadSegments :=
  if it.nextIndex < it.programHeaderCount then
    let index := it.nextIndex
    -- `self.next_index += 1` on a `u16`
    if 2 ^ 16 ≤ it.nextIndex + 1 then (.panic, it)
    else
      let it := { it with nextIndex := it.nextIndex + 1 }
      match decodeProgramHeader it.bytes it.programHeaderOffset index with
      | .ok header =>
        if header.kind = ptLoad then
          (Exec.okOr (loadSegmentFromHeader it.bytes index header) (), it)
        else it.next
      | .err () => (.err (), it)
      | .panic => (.panic, it)
  else (.err (), it)
termination_by it.programHeaderCount - it.nextIndex

/-- `self.program_header_count - self.next_index` on `u16`. -/
def sizeHint (it : LoadSegments) : Exec Empty (ℕ × Option ℕ) :=
  if it.programHeaderCount < it.nextIndex then .panic
  else .ok (0, some (it.programHeaderCount - it.nextIndex))

theorem next_advances {it it' : LoadSegments} {segment : LoadSegment}
    (h : it.next = (.ok segment, it')) :
    it'.programHeaderCount - it'.nextIndex < it.programHeaderCount - it.nextIndex := by
  fun_induction next it with
  | case1 => simp at h
  | case2 it hlt index hfits moved header hdecode hload =>
    obtain rfl : moved = it' := congrArg Prod.snd h
    show it.programHeaderCount - (it.nextIndex + 1) < _
    omega
  | case3 it hlt index hfits moved header hdecode hload ih =>
    have hrest : _ < it.programHeaderCount - (it.nextIndex + 1) := ih h
    omega
  | case4 => simp at h
  | case5 => simp at h
  | case6 => simp at h

/-- The items a `for` loop over the iterator sees. -/
def collect (it : LoadSegments) : Exec Empty (List LoadSegment) :=
  match _hnext : it.next with
  | (.ok segment, rest) => do return segment :: (← rest.collect)
  | (.err (), _) => .ok []
  | (.panic, _) => .panic
termination_by it.programHeaderCount - it.nextIndex
decreasing_by exact next_advances _hnext

theorem collect_of_none {it rest : LoadSegments} (h : it.next = (.err (), rest)) :
    it.collect = .ok [] := by
  rw [collect]
  split <;> simp_all

theorem collect_of_some {it rest : LoadSegments} {segment : LoadSegment}
    (h : it.next = (.ok segment, rest)) :
    it.collect = (do return segment :: (← rest.collect)) := by
  rw [collect]
  split <;> simp_all

/-- A skipped header does not change what is collected. -/
theorem collect_congr {it it' : LoadSegments} (h : it.next = it'.next) :
    it.collect = it'.collect := by
  rw [collect, collect]
  split <;> split <;> simp_all

/-- When every header decodes and every load header has its data, the iteration
yields the load headers from the current index on. -/
theorem collect_eq {it : LoadSegments} (header : ℕ → ProgramHeader) (segment : ℕ → LoadSegment)
    (hcount : it.programHeaderCount < 2 ^ 16)
    (hdecode : ∀ i < it.programHeaderCount,
      decodeProgramHeader it.bytes it.programHeaderOffset i = .ok (header i))
    (hload : ∀ i < it.programHeaderCount, (header i).kind = ptLoad →
      loadSegmentFromHeader it.bytes i (header i) = some (segment i)) :
    it.collect = .ok (((List.range' it.nextIndex (it.programHeaderCount - it.nextIndex)).filter
      fun i => (header i).kind = ptLoad).map segment) := by
  -- on the number of headers left
  generalize hleft : it.programHeaderCount - it.nextIndex = left
  induction left generalizing it with
  | zero =>
    have hend : it.next = (.err (), it) := by
      rw [next, if_neg (by omega)]
    rw [collect_of_none hend]
    rfl
  | succ left ih =>
    have hlt : it.nextIndex < it.programHeaderCount := by omega
    have hrest := @ih { it with nextIndex := it.nextIndex + 1 } hcount hdecode hload
      (show it.programHeaderCount - (it.nextIndex + 1) = left by omega)
    rw [List.range'_succ]
    by_cases hkind : (header it.nextIndex).kind = ptLoad
    · have hnext : it.next =
          (.ok (segment it.nextIndex), { it with nextIndex := it.nextIndex + 1 }) := by
        rw [next, if_pos hlt, if_neg (by omega)]
        simp only [hdecode it.nextIndex hlt, if_pos hkind, hload it.nextIndex hlt hkind,
          Exec.okOr_some]
      rw [collect_of_some hnext, hrest, List.filter_cons_of_pos (by simpa using hkind)]
      rfl
    · have hnext : it.next = { it with nextIndex := it.nextIndex + 1 : LoadSegments }.next := by
        rw [next, if_pos hlt, if_neg (by omega)]
        simp only [hdecode it.nextIndex hlt, if_neg hkind]
      rw [collect_congr hnext, hrest, List.filter_cons_of_neg (by simpa using hkind)]

end LoadSegments

/-- The program header at an index of the file's table. -/
def phdrOf (bytes : Bytes) (i : ℕ) : Phdr := phdrAt bytes (field bytes 32 8 + 56 * i)

/-- The indices of the `PT_LOAD` headers, in increasing order. -/
def loadIndices (bytes : Bytes) : List ℕ :=
  (List.range (field bytes 56 2)).filter fun i => (phdrOf bytes i).kind = 1

/-- A segment that carries exactly the header at index `i` and its file bytes. -/
structure Carries (bytes : Bytes) (i : ℕ) (segment : LoadSegment) : Prop where
  index : segment.index = i
  flags : segment.flags.bits.toNat = (phdrOf bytes i).flags
  fileOffset : segment.fileOffset.toNat = (phdrOf bytes i).offset
  virtualAddress : segment.virtualAddress.toNat = (phdrOf bytes i).vaddr
  physicalAddress : segment.physicalAddress.toNat = (phdrOf bytes i).paddr
  fileSize : segment.fileSize.toNat = (phdrOf bytes i).filesz
  memorySize : segment.memorySize.toNat = (phdrOf bytes i).memsz
  alignment : segment.alignment.toNat = (phdrOf bytes i).align
  file_range : (phdrOf bytes i).offset + (phdrOf bytes i).filesz ≤ bytes.length
  fileData : segment.fileData =
    (bytes.drop (phdrOf bytes i).offset).take (phdrOf bytes i).filesz
  zeroFill : ∃ size, segment.zeroFillSize = .ok size ∧
    size.toNat + (phdrOf bytes i).filesz = (phdrOf bytes i).memsz

/-- The segment built from the header at index `i`. -/
def segmentOf (bytes : Bytes) (i : ℕ) : LoadSegment where
  index := i
  flags := ⟨(headerAt bytes (field bytes 32 8 + 56 * i)).flags⟩
  fileOffset := (headerAt bytes (field bytes 32 8 + 56 * i)).fileOffset
  virtualAddress := (headerAt bytes (field bytes 32 8 + 56 * i)).virtualAddress
  physicalAddress := (headerAt bytes (field bytes 32 8 + 56 * i)).physicalAddress
  fileSize := (headerAt bytes (field bytes 32 8 + 56 * i)).fileSize
  memorySize := (headerAt bytes (field bytes 32 8 + 56 * i)).memorySize
  alignment := (headerAt bytes (field bytes 32 8 + 56 * i)).alignment
  fileData := (bytes.drop (phdrOf bytes i).offset).take (phdrOf bytes i).filesz

theorem mem_loads_of_index {bytes : Bytes} {i : ℕ} (h : i ∈ loadIndices bytes) :
    phdrOf bytes i ∈ loads (tableOf bytes) := by
  obtain ⟨hrange, hkind⟩ := List.mem_filter.mp h
  exact List.mem_filter.mpr ⟨List.mem_map_of_mem hrange, hkind⟩

theorem map_phdrOf_loadIndices (bytes : Bytes) :
    (loadIndices bytes).map (phdrOf bytes) = loads (tableOf bytes) := by
  rw [loadIndices, loads, tableOf, List.filter_map]
  rfl

theorem loadSegmentFromHeader_eq {bytes : Bytes} (h : Profile bytes) {i : ℕ}
    (hi : i ∈ loadIndices bytes) :
    loadSegmentFromHeader bytes i (headerAt bytes (field bytes 32 8 + 56 * i)) =
      some (segmentOf bytes i) := by
  have hrange := (h.table.segments _ (mem_loads_of_index hi)).file_range
  have hlt := UInt64.toNat_ofNat_of_lt' (lt_of_le_of_lt hrange
    (lt_of_le_of_lt h.length_le (by decide)))
  have hoffset : (headerAt bytes (field bytes 32 8 + 56 * i)).fileOffset.toNat =
      (phdrOf bytes i).offset := toNat_field64
  have hsize : (headerAt bytes (field bytes 32 8 + 56 * i)).fileSize.toNat =
      (phdrOf bytes i).filesz := toNat_field64
  have hadd : checkedAdd (headerAt bytes (field bytes 32 8 + 56 * i)).fileOffset
      (headerAt bytes (field bytes 32 8 + 56 * i)).fileSize =
      some (UInt64.ofNat ((phdrOf bytes i).offset + (phdrOf bytes i).filesz)) := by
    rw [checkedAdd_eq_some, hlt, hoffset, hsize]
  unfold loadSegmentFromHeader
  rw [hadd]
  simp only [Option.bind_eq_bind, Option.bind_some]
  rw [hlt, hoffset, slice_eq_some (Nat.le_add_right _ _) hrange, Nat.add_sub_cancel_left]
  rfl

theorem carries_segmentOf {bytes : Bytes} (h : Profile bytes) {i : ℕ} (hi : i ∈ loadIndices bytes) :
    Carries bytes i (segmentOf bytes i) := by
  have hsegment := h.table.segments _ (mem_loads_of_index hi)
  have hle : (segmentOf bytes i).fileSize ≤ (segmentOf bytes i).memorySize := by
    rw [UInt64.le_iff_toNat_le]
    simp only [segmentOf, headerAt, toNat_field64]
    exact hsegment.filesz_le
  refine ⟨rfl, toNat_field32, toNat_field64, toNat_field64, toNat_field64, toNat_field64,
    toNat_field64, toNat_field64, hsegment.file_range, rfl, ?_⟩
  refine ⟨(segmentOf bytes i).memorySize - (segmentOf bytes i).fileSize, ?_, ?_⟩
  · rw [LoadSegment.zeroFillSize, if_neg]
    rw [UInt64.lt_iff_toNat_lt, not_lt]
    exact UInt64.le_iff_toNat_le.mp hle
  · rw [UInt64.toNat_sub_of_le _ _ hle]
    simp only [segmentOf, headerAt, toNat_field64]
    exact Nat.sub_add_cancel hsegment.filesz_le

theorem segments_collect {bytes : Bytes} (h : Profile bytes) :
    (elfOf bytes).segments.collect = .ok ((loadIndices bytes).map (segmentOf bytes)) := by
  have hlt : bytes.length < 2 ^ 64 := lt_of_le_of_lt h.length_le (by decide)
  have hfits := h.header.table_fits
  have hcount : (elfOf bytes).segments.programHeaderCount = field bytes 56 2 := toNat_field16
  have hkind : ∀ i, (headerAt bytes (field bytes 32 8 + 56 * i)).kind = ptLoad ↔
      (phdrOf bytes i).kind = 1 := by
    intro i
    rw [kind_eq_load, nat_headerAt]
    rfl
  rw [LoadSegments.collect_eq (fun i => headerAt bytes (field bytes 32 8 + 56 * i))
    (segmentOf bytes)]
  · rw [hcount, loadIndices, List.range_eq_range']
    simp only [hkind]
    rfl
  · exact (elfOf bytes).programHeaderCount.toNat_lt
  · intro i hi
    rw [hcount] at hi
    exact decodeProgramHeader_eq (show field bytes 32 8 + 56 * i + 56 ≤ bytes.length by omega) hlt
  · intro i hi hload
    rw [hcount] at hi
    refine loadSegmentFromHeader_eq h (List.mem_filter.mpr ⟨List.mem_range.mpr hi, ?_⟩)
    simpa using (hkind i).mp hload

namespace LoadSegment

/-- The bytes of memory the segment takes up, in whole pages. -/
def span (segment : LoadSegment) : ℕ := roundUp segment.memorySize.toNat 4096

/-- The segment's whole pages contain the address. -/
def Covers (segment : LoadSegment) (x : ℕ) : Prop :=
  segment.physicalAddress.toNat ≤ x ∧ x < segment.physicalAddress.toNat + segment.span
  deriving Decidable

/-- What `parse` guarantees about a segment of the file `bytes`. -/
structure Planned (bytes : Bytes) (segment : LoadSegment) : Prop where
  nonempty : 0 < segment.memorySize.toNat
  fileSize_le : segment.fileSize.toNat ≤ segment.memorySize.toNat
  file_range : segment.fileOffset.toNat + segment.fileSize.toNat ≤ bytes.length
  fileData : segment.fileData = (bytes.drop segment.fileOffset.toNat).take segment.fileSize.toNat
  aligned : segment.physicalAddress.toNat % 4096 = 0
  window_ge : 0x200000 ≤ segment.physicalAddress.toNat
  window_le : segment.physicalAddress.toNat + segment.span ≤ 0x40000000

end LoadSegment

/-- The load plan: planned segments in ascending, page-disjoint order. -/
structure LoadPlan (bytes : Bytes) (segments : List LoadSegment) : Prop where
  planned : ∀ segment ∈ segments, segment.Planned bytes
  disjoint : segments.Pairwise fun earlier later =>
    earlier.physicalAddress.toNat + earlier.span ≤ later.physicalAddress.toNat

theorem pageEnd_eq {length : ℕ} {p : Phdr} (h : SegmentValid length p) :
    p.pageEnd = p.paddr + roundUp p.memsz 4096 :=
  roundUp_add_of_dvd (by decide) (Nat.dvd_of_mod_eq_zero h.page)

theorem paddr_segmentOf (bytes : Bytes) (i : ℕ) :
    (segmentOf bytes i).physicalAddress.toNat = (phdrOf bytes i).paddr := toNat_field64

theorem span_segmentOf (bytes : Bytes) (i : ℕ) :
    (segmentOf bytes i).span = roundUp (phdrOf bytes i).memsz 4096 :=
  congrArg (roundUp · 4096) toNat_field64

theorem planned_segmentOf {bytes : Bytes} (h : Profile bytes) {i : ℕ} (hi : i ∈ loadIndices bytes) :
    (segmentOf bytes i).Planned bytes := by
  have hvalid := h.table.segments _ (mem_loads_of_index hi)
  have hcarries := carries_segmentOf h hi
  refine ⟨?_, ?_, ?_, ?_, ?_, ?_, ?_⟩
  · rw [hcarries.memorySize]
    exact hvalid.nonempty
  · rw [hcarries.fileSize, hcarries.memorySize]
    exact hvalid.filesz_le
  · rw [hcarries.fileOffset, hcarries.fileSize]
    exact hvalid.file_range
  · rw [hcarries.fileOffset, hcarries.fileSize]
    exact hcarries.fileData
  · rw [hcarries.physicalAddress]
    exact hvalid.page
  · rw [hcarries.physicalAddress]
    exact hvalid.window_ge
  · rw [paddr_segmentOf, span_segmentOf, ← pageEnd_eq hvalid]
    exact hvalid.window_le

theorem loadPlan_of_profile {bytes : Bytes} (h : Profile bytes) :
    LoadPlan bytes ((loadIndices bytes).map (segmentOf bytes)) := by
  constructor
  · intro segment hsegment
    obtain ⟨i, hi, rfl⟩ := List.mem_map.mp hsegment
    exact planned_segmentOf h hi
  · have hdisjoint := h.table.disjoint
    rw [← map_phdrOf_loadIndices, List.pairwise_map] at hdisjoint
    rw [List.pairwise_map]
    refine hdisjoint.imp_of_mem fun {i j} hi _ hle => ?_
    rw [pageEnd_eq (h.table.segments _ (mem_loads_of_index hi))] at hle
    rw [paddr_segmentOf, paddr_segmentOf, span_segmentOf]
    exact hle

theorem collect_of_parse {bytes : Bytes} {elf : ValidatedElf} (h : parse bytes = .ok elf) :
    elf.segments.collect = .ok ((loadIndices bytes).map (segmentOf bytes)) := by
  obtain ⟨hprofile, rfl⟩ := parse_eq_ok.mp h
  exact segments_collect hprofile

/-- The segments of an accepted file form a load plan. -/
theorem loadPlan_of_collect {bytes : Bytes} {elf : ValidatedElf} {segments : List LoadSegment}
    (h : parse bytes = .ok elf) (hsegments : elf.segments.collect = .ok segments) :
    LoadPlan bytes segments := by
  obtain rfl := Exec.ok.inj ((collect_of_parse h).symm.trans hsegments)
  exact loadPlan_of_profile (parse_eq_ok.mp h).1

/-- Iterating over an accepted file yields its load plan: one item for each
`PT_LOAD` header in table order, with that header's fields and file bytes. -/
theorem segments_carry_plan {bytes : Bytes} {elf : ValidatedElf} (h : parse bytes = .ok elf) :
    ∃ segments, elf.segments.collect = .ok segments ∧
      segments.length = elf.loadSegmentCount ∧
      List.Forall₂ (Carries bytes) (loadIndices bytes) segments := by
  obtain ⟨hprofile, rfl⟩ := parse_eq_ok.mp h
  refine ⟨_, segments_collect hprofile, ?_, ?_⟩
  · rw [List.length_map, elfOf, ← map_phdrOf_loadIndices, List.length_map]
  · rw [List.forall₂_map_right_iff, List.forall₂_same]
    exact fun i hi => carries_segmentOf hprofile hi

/-- A minimal image: an unused header and one executable page at `address`, whose
first bytes are the ELF header itself. -/
def sampleElf (address : UInt64) : Bytes :=
  identification ++ u16ToLe 2 ++ u16ToLe 62 ++ u32ToLe 1 ++ u64ToLe address ++ u64ToLe 64 ++
    u64ToLe 0 ++ u32ToLe 0 ++ u16ToLe 64 ++ u16ToLe 56 ++ u16ToLe 2 ++ List.replicate 62 0 ++
    u32ToLe 1 ++ u32ToLe 5 ++ u64ToLe 0 ++ u64ToLe address ++ u64ToLe address ++ u64ToLe 64 ++
    u64ToLe 4096 ++ u64ToLe 4096

def sampleElfHandle : ValidatedElf := ⟨sampleElf 0x200000, 0x200000, 64, 2, 1⟩

theorem parse_sampleElf : parse (sampleElf 0x200000) = .ok sampleElfHandle := by
  decide +kernel

theorem segments_carry_plan_sample :
    parse (sampleElf 0x200000) = .ok sampleElfHandle ∧
      ∃ segments, sampleElfHandle.segments.collect = .ok segments ∧ segments.length = 1 ∧
        List.Forall₂ (Carries (sampleElf 0x200000)) (loadIndices (sampleElf 0x200000)) segments :=
  ⟨parse_sampleElf, segments_carry_plan parse_sampleElf⟩

theorem collect_sampleElf :
    sampleElfHandle.segments.collect = .ok [segmentOf (sampleElf 0x200000) 1] := by
  have hindices : loadIndices (sampleElf 0x200000) = [1] := by decide +kernel
  rw [collect_of_parse parse_sampleElf, hindices]
  rfl

def loadHeader (flags : UInt32) (offset address fileSize memorySize : UInt64) : Bytes :=
  u32ToLe 1 ++ u32ToLe flags ++ u64ToLe offset ++ u64ToLe address ++ u64ToLe address ++
    u64ToLe fileSize ++ u64ToLe memorySize ++ u64ToLe 4096

/-- The machine code of `entry.S`, linked for the sample kernel. -/
def entryCode : Bytes :=
  [0xfa, 0xfc, 0x49, 0x89, 0xfc, 0x49, 0x89, 0xf5, 0x48, 0x8d, 0x25, 0xf1, 0xff, 0x80, 0x00,
    0x48, 0x83, 0xe4, 0xf0, 0x48, 0x31, 0xed, 0x48, 0xb8, 0x54, 0x53, 0x53, 0x42, 0x53, 0x4f,
    0x54, 0x50, 0x48, 0x89, 0x05, 0xd9, 0x2f, 0x00, 0x00, 0x48, 0x8d, 0x3d, 0xd2, 0x2f, 0x00,
    0x00, 0x48, 0x8d, 0x0d, 0xd3, 0x2f, 0x00, 0x00, 0x48, 0x29, 0xf9, 0x31, 0xc0, 0xf3, 0xaa,
    0x48, 0x83, 0x3d, 0xbc, 0x2f, 0x00, 0x00, 0x00, 0x75, 0x12, 0x4c, 0x89, 0xe7, 0x4c, 0x89,
    0xee, 0xe8, 0x2f, 0x00, 0x00, 0x00, 0xb8, 0x23, 0x00, 0x00, 0x00, 0xeb, 0x05, 0xb8, 0x22,
    0x00, 0x00, 0x00, 0x66, 0xba, 0xf4, 0x00, 0xef, 0xfa, 0xf4, 0xeb, 0xfc]

/-- A kernel of four segments. The bytes of the first are in the second page of the
file; the others take theirs from its start. -/
def sampleKernel : Bytes :=
  identification ++ u16ToLe 2 ++ u16ToLe 62 ++ u32ToLe 1 ++ u64ToLe 0x4000000 ++ u64ToLe 64 ++
    u64ToLe 0 ++ u32ToLe 0 ++ u16ToLe 64 ++ u16ToLe 56 ++ u16ToLe 4 ++ List.replicate 6 0 ++
    loadHeader 5 0x1000 0x4000000 0x100 0x100 ++ loadHeader 4 0 0x4001000 0x80 0x80 ++
    loadHeader 6 0 0x4002000 0x20 0x1008 ++ loadHeader 6 0 0x4800000 0 0x10000 ++
    List.replicate 3808 0 ++ entryCode ++ List.replicate 154 0xcc

def sampleHandle : ValidatedElf := ⟨sampleKernel, 0x4000000, 64, 4, 4⟩

theorem parse_sampleKernel : parse sampleKernel = .ok sampleHandle := by
  have hfields : (parse sampleKernel >>= fun elf => .ok (elf.entryPoint, elf.programHeaderOffset,
      elf.programHeaderCount, elf.loadSegmentCount)) = .ok (0x4000000, 64, 4, 4) := by
    decide +kernel
  obtain ⟨elf, hparse, hfields⟩ := Exec.bind_eq_ok.mp hfields
  have hbytes : elf.bytes = sampleKernel := congrArg ValidatedElf.bytes (parse_eq_ok.mp hparse).2
  simp only [Exec.ok.injEq, Prod.mk.injEq] at hfields
  obtain ⟨hentry, hoffset, hcount, hloads⟩ := hfields
  rw [hparse, sampleHandle, ← hbytes, ← hentry, ← hoffset, ← hcount, ← hloads]

theorem collect_sampleKernel :
    sampleHandle.segments.collect = .ok ([0, 1, 2, 3].map (segmentOf sampleKernel)) := by
  have hindices : loadIndices sampleKernel = [0, 1, 2, 3] := by decide +kernel
  rw [collect_of_parse parse_sampleKernel, hindices]

end PolytopeOS.BootElf
