import PolytopeOS.BootElf.Segments
import PolytopeOS.Loader.Firmware

/-!
# Loading the kernel

`loadSegments` allocates the pages of each segment, zeroes them and copies the
file bytes, reading the file from its buffer in the same memory. Zeroing covers
whole pages past the end of a segment, so that the earlier segments survive
rests on the page-rounded ranges being disjoint.
-/

namespace PolytopeOS.Loader
open Corelib BootElf

/-- `ptr::write_bytes(destination, value, count)`. -/
def writeBytes (destination : ℕ) (value : UInt8) (count : ℕ) : Action Machine LoaderError Unit :=
  Action.modify fun m =>
    { m with memory := m.memory.store destination (List.replicate count value) }

/-- `ptr::copy_nonoverlapping(source, destination, count)`. -/
def copyNonoverlapping (source destination count : ℕ) : Action Machine LoaderError Unit :=
  Action.modify fun m =>
    { m with memory := m.memory.store destination (m.memory.load source count) }

/-- `file` is the address of the buffer that holds the kernel file. -/
def loadSegment (firmware : Firmware) (file : ℕ) (segment : LoadSegment) :
    Action Machine LoaderError Unit := do
  let destination := segment.physicalAddress.toNat
  let memorySize := segment.memorySize.toNat
  let pages := (memorySize + (pageBytes - 1)) / pageBytes
  let allocation ← firmware.allocate (.address segment.physicalAddress) kernelMemoryType pages
    .kernelAddress
  if allocation ≠ destination then Action.lift (.err .kernelAddress)
  else do
    let allocationBytes ← Action.lift (Exec.okOr (checkedSize (pages * pageBytes)) .allocation)
    writeBytes allocation 0 allocationBytes
    copyNonoverlapping (file + segment.fileOffset.toNat) allocation segment.fileData.length

/-- The `for` loop over the remaining segments. -/
def loadSegmentsFrom (firmware : Firmware) (file : ℕ) (it : LoadSegments) :
    Action Machine LoaderError Unit :=
  match _hnext : it.next with
  | (.ok segment, rest) => do
    loadSegment firmware file segment
    loadSegmentsFrom firmware file rest
  | (.err (), _) => pure ()
  | (.panic, _) => Action.lift .panic
termination_by it.programHeaderCount - it.nextIndex
decreasing_by exact LoadSegments.next_advances _hnext

def loadSegments (firmware : Firmware) (file : ℕ) (elf : ValidatedElf) :
    Action Machine LoaderError Unit :=
  loadSegmentsFrom firmware file elf.segments

/-- The loop visits the segments that the iterator yields. -/
theorem loadSegmentsFrom_eq {firmware : Firmware} {file : ℕ} {it : LoadSegments}
    {segments : List LoadSegment} (h : it.collect = .ok segments) :
    loadSegmentsFrom firmware file it = Action.each (loadSegment firmware file) segments := by
  fun_induction LoadSegments.collect it generalizing segments with
  | case1 it segment rest hnext ih =>
    rw [Exec.bind_eq_ok] at h
    obtain ⟨tail, htail, h⟩ := h
    obtain rfl : segment :: tail = segments := Exec.ok.inj h
    rw [loadSegmentsFrom]
    split <;> simp_all [Action.each]
  | case2 it rest hnext =>
    obtain rfl : [] = segments := Exec.ok.inj h
    rw [loadSegmentsFrom]
    split <;> simp_all [Action.each]
  | case3 => simp at h

theorem length_fileData {segment : LoadSegment} {bytes : Bytes} (hs : segment.Planned bytes) :
    segment.fileData.length = segment.fileSize.toNat := by
  have hrange := hs.file_range
  rw [hs.fileData, List.length_take, List.length_drop]
  omega

theorem length_fileData_le_span {segment : LoadSegment} {bytes : Bytes}
    (hs : segment.Planned bytes) : segment.fileData.length ≤ segment.span := by
  rw [length_fileData hs]
  exact hs.fileSize_le.trans (le_roundUp _ (by decide))

/-- The buffer at `file` holds the kernel file. -/
def FileAt (m : Machine) (file : ℕ) (bytes : Bytes) : Prop :=
  m.memory.load file bytes.length = bytes

/-- The pages of a segment do not meet the buffer of the kernel file. -/
def ApartFrom (file : ℕ) (bytes : Bytes) (segment : LoadSegment) : Prop :=
  ∀ x, segment.Covers x → x < file ∨ file + bytes.length ≤ x

theorem ApartFrom.outside {file x : ℕ} {bytes : Bytes} {segment : LoadSegment}
    (h : ApartFrom file bytes segment) (hge : file ≤ x) (hlt : x < file + bytes.length) :
    x < segment.physicalAddress.toNat ∨ segment.physicalAddress.toNat + segment.span ≤ x := by
  by_contra hcovers
  have := h x ⟨by omega, by omega⟩
  omega

/-- What loading one segment does to memory. -/
structure Loaded (segment : LoadSegment) (m m' : Machine) : Prop where
  image : ∀ k < segment.span,
    m'.memory (segment.physicalAddress.toNat + k) = (segment.fileData[k]?).getD 0
  frame : ∀ x, ¬segment.Covers x → m'.memory x = m.memory x

theorem FileAt.frame {m m' : Machine} {file : ℕ} {bytes : Bytes} (h : FileAt m file bytes)
    (hsame : ∀ x, file ≤ x → x < file + bytes.length → m'.memory x = m.memory x) :
    FileAt m' file bytes := by
  refine Eq.trans ?_ h
  apply List.map_congr_left
  intro i hi
  exact hsame _ (by omega) (by have := List.mem_range.mp hi; omega)

/-- Reading the buffer at a segment's file range gives the segment's bytes. -/
theorem FileAt.load_segment {m : Machine} {file : ℕ} {bytes : Bytes} (h : FileAt m file bytes)
    {segment : LoadSegment} (hs : segment.Planned bytes) :
    m.memory.load (file + segment.fileOffset.toNat) segment.fileData.length = segment.fileData := by
  have hrange := hs.file_range
  have hlength := length_fileData hs
  apply List.ext_getElem?
  intro i
  by_cases hi : i < segment.fileData.length
  · rw [Memory.getElem?_load _ _ hi, hs.fileData, List.getElem?_take_of_lt (by omega),
      List.getElem?_drop, Nat.add_assoc,
      ← Memory.getElem?_load m.memory file (n := bytes.length) (by omega), h]
  · rw [List.getElem?_eq_none (by rw [Memory.length_load]; omega),
      List.getElem?_eq_none (by omega)]

/-- Zeroing the pages and copying the file bytes over their start. -/
theorem store_image {memory : Memory} {base count k : ℕ} {data : Bytes} (hk : k < count) :
    ((memory.store base (List.replicate count 0)).store base data) (base + k) =
      (data[k]?).getD 0 := by
  cases hd : data[k]? with
  | some b => exact Memory.store_inside _ _ hd
  | none =>
    rw [List.getElem?_eq_none_iff] at hd
    rw [Memory.store_outside _ (by omega), Memory.store_inside _ _
      (by rw [List.getElem?_replicate, if_pos hk])]
    rfl

/-- Filling the granted pages loads the segment. -/
theorem loaded_of_frame {segment : LoadSegment} {bytes : Bytes} {m m₁ : Machine}
    (hs : segment.Planned bytes)
    (hframe : ∀ x, x < segment.physicalAddress.toNat ∨
      segment.physicalAddress.toNat + segment.span ≤ x → m₁.memory x = m.memory x) :
    Loaded segment m { m₁ with
      memory := (m₁.memory.store segment.physicalAddress.toNat
        (List.replicate segment.span 0)).store segment.physicalAddress.toNat segment.fileData } := by
  have hdata := length_fileData_le_span hs
  refine ⟨fun k hk => store_image hk, fun x hx => ?_⟩
  have hx' : x < segment.physicalAddress.toNat ∨
      segment.physicalAddress.toNat + segment.span ≤ x := by
    rw [LoadSegment.Covers] at hx
    omega
  show Memory.store _ _ _ x = _
  rw [Memory.store_outside _ (by omega),
    Memory.store_outside _ (by rwa [List.length_replicate])]
  exact hframe x hx'

/-- A successful `loadSegment` was granted the segment's pages; it zeroed them
and copied over them what was then at the file's place. -/
theorem loadSegment_eq_ok {firmware : Firmware} {file : ℕ} {segment : LoadSegment} {m m' : Machine}
    (h : loadSegment firmware file segment m = (.ok (), m')) :
    ∃ count found m₁, count * pageBytes = segment.span ∧ Meanwhile m found ∧
      Granted kernelMemoryType count found segment.physicalAddress.toNat m₁ ∧
      let zeroed := m₁.memory.store segment.physicalAddress.toNat (List.replicate segment.span 0)
      m' = { m₁ with
        memory := zeroed.store segment.physicalAddress.toNat
          (zeroed.load (file + segment.fileOffset.toNat) segment.fileData.length) } := by
  simp only [loadSegment] at h
  rw [Action.bind_eq_ok] at h
  obtain ⟨base, m₁, hallocate, h⟩ := h
  obtain ⟨found, hfound, hgrant⟩ := Firmware.allocate_eq_ok hallocate
  by_cases hbase : base = segment.physicalAddress.toNat
  · subst hbase
    rw [if_neg (by simp), Action.bind_eq_ok] at h
    obtain ⟨count, m₂, hlift, h⟩ := h
    obtain ⟨hcount, rfl⟩ := Action.lift_eq_ok.mp hlift
    obtain ⟨_, rfl⟩ := checkedSize_eq_some.mp (Exec.okOr_eq_ok.mp hcount)
    rw [Action.bind_eq_ok] at h
    obtain ⟨_, m₃, hzero, hcopy⟩ := h
    obtain rfl := Action.modify_eq_ok.mp hzero
    exact ⟨_, found, m₁, rfl, hfound, hgrant, (Action.modify_eq_ok.mp hcopy).symm⟩
  · rw [if_pos hbase] at h
    simp [Action.lift] at h

theorem loadSegment_loaded {firmware : Firmware} {file : ℕ} {bytes : Bytes} {segment : LoadSegment}
    {m m' : Machine} (hs : segment.Planned bytes) (hfile : FileAt m file bytes)
    (hapart : ApartFrom file bytes segment)
    (h : loadSegment firmware file segment m = (.ok (), m')) : Loaded segment m m' := by
  obtain ⟨count, found, m₁, hcount, hfound, hgrant, rfl⟩ := loadSegment_eq_ok h
  have hframe : ∀ x, x < segment.physicalAddress.toNat ∨
      segment.physicalAddress.toNat + segment.span ≤ x → m₁.memory x = m.memory x := by
    rw [← hcount, ← hfound.memory]
    exact hgrant.frame
  have hfile₁ : FileAt m₁ file bytes := hfile.frame fun x hge hlt =>
    hframe x (hapart.outside hge hlt)
  have hfile₂ : FileAt { m₁ with
      memory := m₁.memory.store segment.physicalAddress.toNat (List.replicate segment.span 0) }
      file bytes := hfile₁.frame fun x hge hlt =>
    Memory.store_outside _ (by rw [List.length_replicate]; exact hapart.outside hge hlt)
  -- the copy reads the file from memory as the zeroing left it
  rw [hfile₂.load_segment hs]
  exact loaded_of_frame hs hframe

/-- What loading a list of segments does to memory. -/
structure LoadedAll (segments : List LoadSegment) (m m' : Machine) : Prop where
  image : ∀ segment ∈ segments, ∀ k < segment.span,
    m'.memory (segment.physicalAddress.toNat + k) = (segment.fileData[k]?).getD 0
  frame : ∀ x, (∀ segment ∈ segments, ¬segment.Covers x) → m'.memory x = m.memory x

theorem LoadedAll.nil (m : Machine) : LoadedAll [] m m where
  image := by simp
  frame _ _ := rfl

/-- Loading the later segments leaves an earlier one in place, since their
pages lie past its pages. -/
theorem LoadedAll.cons {segment : LoadSegment} {rest : List LoadSegment} {m m₁ m' : Machine}
    (hlater : ∀ later ∈ rest, segment.physicalAddress.toNat + segment.span ≤
      later.physicalAddress.toNat)
    (hfirst : Loaded segment m m₁) (hrest : LoadedAll rest m₁ m') :
    LoadedAll (segment :: rest) m m' := by
  constructor
  case image =>
    intro s hs k hk
    rcases List.mem_cons.mp hs with rfl | hs
    · rw [← hfirst.image k hk]
      apply hrest.frame
      intro later hmem hcovers
      have := hlater later hmem
      rw [LoadSegment.Covers] at hcovers
      omega
    · exact hrest.image s hs k hk
  case frame =>
    intro x hx
    rw [List.forall_mem_cons] at hx
    rw [hrest.frame x hx.2, hfirst.frame x hx.1]

theorem each_loadSegment_loadedAll {firmware : Firmware} {file : ℕ} {bytes : Bytes}
    {segments : List LoadSegment} {m m' : Machine} (hplan : LoadPlan bytes segments)
    (hfile : FileAt m file bytes) (hapart : ∀ segment ∈ segments, ApartFrom file bytes segment)
    (h : Action.each (loadSegment firmware file) segments m = (.ok (), m')) :
    LoadedAll segments m m' := by
  induction segments generalizing m with
  | nil =>
    obtain ⟨_, rfl⟩ := Action.pure_eq_ok.mp h
    exact .nil m
  | cons segment rest ih =>
    obtain ⟨_, m₁, hfirst, hrest⟩ := Action.bind_eq_ok.mp h
    have hloaded := loadSegment_loaded (hplan.planned segment List.mem_cons_self) hfile
      (hapart segment List.mem_cons_self) hfirst
    have hfile₁ : FileAt m₁ file bytes := hfile.frame fun x hge hlt => hloaded.frame x fun hx => by
      have := hapart segment List.mem_cons_self x hx
      omega
    obtain ⟨hlater, hdisjoint⟩ := List.pairwise_cons.mp hplan.disjoint
    exact .cons hlater hloaded <| ih
      ⟨fun s hs => hplan.planned s (List.mem_cons_of_mem _ hs), hdisjoint⟩ hfile₁
      (fun s hs => hapart s (List.mem_cons_of_mem _ hs)) hrest

theorem loadSegments_loadedAll {firmware : Firmware} {file : ℕ} {bytes : Bytes}
    {elf : ValidatedElf} {segments : List LoadSegment} {m m' : Machine}
    (hsegments : elf.segments.collect = .ok segments) (hplan : LoadPlan bytes segments)
    (hfile : FileAt m file bytes) (hapart : ∀ segment ∈ segments, ApartFrom file bytes segment)
    (h : loadSegments firmware file elf m = (.ok (), m')) : LoadedAll segments m m' := by
  rw [loadSegments, loadSegmentsFrom_eq hsegments] at h
  exact each_loadSegment_loadedAll hplan hfile hapart h

/-- One step of the loop leaves the pages of every other segment as they were. -/
theorem loadSegment_keeps_others {firmware : Firmware} {file : ℕ} {bytes : Bytes}
    {earlier later : List LoadSegment} {segment : LoadSegment} {m m' : Machine}
    (hplan : LoadPlan bytes (earlier ++ segment :: later)) (hfile : FileAt m file bytes)
    (hapart : ∀ s ∈ earlier ++ segment :: later, ApartFrom file bytes s)
    (h : Action.each (loadSegment firmware file) (earlier ++ segment :: later) m = (.ok (), m')) :
    ∃ m₁ m₂, Action.each (loadSegment firmware file) earlier m = (.ok (), m₁) ∧
      loadSegment firmware file segment m₁ = (.ok (), m₂) ∧
      ∀ other ∈ earlier ++ later, ∀ x, other.Covers x → m₂.memory x = m₁.memory x := by
  obtain ⟨m₁, hearlier, hrest⟩ := Action.each_append_eq_ok.mp h
  obtain ⟨_, m₂, hsegment, _⟩ := Action.bind_eq_ok.mp hrest
  refine ⟨m₁, m₂, hearlier, hsegment, ?_⟩
  obtain ⟨hbefore, hafter, hcross⟩ := List.pairwise_append.mp hplan.disjoint
  obtain ⟨hlater, _⟩ := List.pairwise_cons.mp hafter
  have hmem : ∀ s ∈ earlier, s ∈ earlier ++ segment :: later := fun s hs =>
    List.mem_append_left _ hs
  have hloaded₁ := each_loadSegment_loadedAll ⟨fun s hs => hplan.planned s (hmem s hs), hbefore⟩
    hfile (fun s hs => hapart s (hmem s hs)) hearlier
  have hfile₁ : FileAt m₁ file bytes := hfile.frame fun x hge hlt =>
    hloaded₁.frame x fun s hs hx => by
      have := hapart s (hmem s hs) x hx
      omega
  have hself : segment ∈ earlier ++ segment :: later := by simp
  have hloaded := loadSegment_loaded (hplan.planned _ hself) hfile₁ (hapart _ hself) hsegment
  intro other hother x hx
  apply hloaded.frame
  intro hcovers
  rw [LoadSegment.Covers] at hx hcovers
  rcases List.mem_append.mp hother with hother | hother
  · have := hcross other hother segment List.mem_cons_self
    omega
  · have := hlater other hother
    omega

/-- After `loadSegments` succeeds, memory is the reference image of the file:
each segment's pages hold its bytes and zeros, and nothing else has changed. -/
theorem loadSegments_reference_image {firmware : Firmware} {file : ℕ} {bytes : Bytes}
    {elf : ValidatedElf} {segments : List LoadSegment} {m m' : Machine}
    (hparse : parse bytes = .ok elf) (hsegments : elf.segments.collect = .ok segments)
    (hfile : FileAt m file bytes) (hapart : ∀ segment ∈ segments, ApartFrom file bytes segment)
    (h : loadSegments firmware file elf m = (.ok (), m')) :
    (∀ segment ∈ segments, ∀ k < roundUp segment.memorySize.toNat 4096,
      (k < segment.fileSize.toNat →
        segment.fileData[k]? = some (m'.memory (segment.physicalAddress.toNat + k))) ∧
      (segment.fileSize.toNat ≤ k → m'.memory (segment.physicalAddress.toNat + k) = 0)) ∧
    (∀ x, (∀ segment ∈ segments, x < segment.physicalAddress.toNat ∨
        segment.physicalAddress.toNat + roundUp segment.memorySize.toNat 4096 ≤ x) →
      m'.memory x = m.memory x) ∧
    ∀ earlier segment later, segments = earlier ++ segment :: later →
      ∃ m₁ m₂, Action.each (loadSegment firmware file) earlier m = (.ok (), m₁) ∧
        loadSegment firmware file segment m₁ = (.ok (), m₂) ∧
        ∀ other ∈ earlier ++ later, ∀ x, other.Covers x → m₂.memory x = m₁.memory x := by
  have hplan := loadPlan_of_collect hparse hsegments
  have hloaded := loadSegments_loadedAll hsegments hplan hfile hapart h
  refine ⟨?_, ?_, ?_⟩
  · intro segment hsegment k hk
    have hlength := length_fileData (hplan.planned segment hsegment)
    rw [hloaded.image segment hsegment k hk]
    constructor
    · intro hinside
      rw [List.getElem?_eq_getElem (by omega), Option.getD_some]
    · intro hpast
      rw [List.getElem?_eq_none (by omega), Option.getD_none]
  · intro x hx
    apply hloaded.frame
    intro segment hsegment hcovers
    have := hx segment hsegment
    rw [LoadSegment.Covers, LoadSegment.span] at hcovers
    omega
  · rintro earlier segment later rfl
    rw [loadSegments, loadSegmentsFrom_eq hsegments] at h
    exact loadSegment_keeps_others hplan hfile hapart h

/-- The sample kernel in a buffer at `0x10000`, with every other page free. -/
def sampleMachine : Machine where
  memory := Memory.store (fun _ => 0xaa) 0x10000 sampleKernel
  pages page := some (if page = 16 ∨ page = 17 then .loaderData else .conventional)
  owned _ := false

theorem sampleMachine_fileAt : FileAt sampleMachine 0x10000 sampleKernel := by
  rw [FileAt, sampleMachine, Memory.load_store _ _ le_rfl, List.take_length]

theorem sampleKernel_apart {file : ℕ} (hfile : file + sampleKernel.length ≤ 0x4000000) :
    ∀ segment ∈ [0, 1, 2, 3].map (segmentOf sampleKernel), ApartFrom file sampleKernel segment := by
  have hstarts : ([0, 1, 2, 3].map (segmentOf sampleKernel)).all
      fun segment => 0x4000000 ≤ segment.physicalAddress.toNat := by decide +kernel
  intro segment hsegment x hx
  have hstart := of_decide_eq_true (List.all_eq_true.mp hstarts segment hsegment)
  exact Or.inr (hfile.trans (hstart.trans hx.1))

/-- Four segments: the code, a start of the file, a zero behind the file's bytes, the
zeroed stack, and a page between them that keeps what it held. -/
theorem loadSegments_reference_image_sample :
    let run := loadSegments (firstFitFirmware 0) 0x10000 sampleHandle sampleMachine
    run.1 = .ok () ∧ run.2.memory 0x4000000 = 0xfa ∧ run.2.memory 0x4001001 = 0x45 ∧
      run.2.memory 0x4002020 = 0 ∧ run.2.memory 0x4800000 = 0 ∧ run.2.memory 0x4004000 = 0xaa := by
  intro run
  have hok : run.1 = .ok () := by
    show (loadSegmentsFrom _ _ _ _).1 = _
    rw [loadSegmentsFrom_eq collect_sampleKernel]
    decide +kernel
  obtain ⟨himage, hframe, -⟩ := loadSegments_reference_image parse_sampleKernel
    collect_sampleKernel sampleMachine_fileAt (sampleKernel_apart (by decide +kernel))
    (Prod.ext hok rfl : run = (.ok (), run.2))
  have hbyte : ∀ i ∈ [0, 1, 2, 3], ∀ k < (segmentOf sampleKernel i).span, ∀ x byte,
      (segmentOf sampleKernel i).physicalAddress.toNat + k = x →
      k < (segmentOf sampleKernel i).fileSize.toNat →
      (segmentOf sampleKernel i).fileData[k]? = some byte → run.2.memory x = byte := by
    rintro i hi k hk x byte rfl hfile hdata
    exact Option.some.inj (((himage _ (List.mem_map_of_mem hi) k hk).1 hfile).symm.trans hdata)
  have hzero : ∀ i ∈ [0, 1, 2, 3], ∀ k < (segmentOf sampleKernel i).span, ∀ x,
      (segmentOf sampleKernel i).physicalAddress.toNat + k = x →
      (segmentOf sampleKernel i).fileSize.toNat ≤ k → run.2.memory x = 0 := by
    rintro i hi k hk x rfl hfile
    exact (himage _ (List.mem_map_of_mem hi) k hk).2 hfile
  have hends : ∀ segment ∈ [0, 1, 2, 3].map (segmentOf sampleKernel),
      0x4004000 < segment.physicalAddress.toNat ∨
        segment.physicalAddress.toNat + segment.span ≤ 0x4004000 := by decide +kernel
  refine ⟨hok, ?_, ?_, ?_, ?_, ?_⟩
  · exact hbyte 0 (by decide) 0 (by decide +kernel) _ _ (by decide +kernel) (by decide +kernel)
      (by decide +kernel)
  · exact hbyte 1 (by decide) 1 (by decide +kernel) _ _ (by decide +kernel) (by decide +kernel)
      (by decide +kernel)
  · exact hzero 2 (by decide) 0x20 (by decide +kernel) _ (by decide +kernel) (by decide +kernel)
  · exact hzero 3 (by decide) 0 (by decide +kernel) _ (by decide +kernel) (by decide +kernel)
  · have hend : 0x10000 + sampleKernel.length ≤ 0x4004000 := by decide +kernel
    rw [hframe 0x4004000 hends]
    simp only [sampleMachine]
    rw [Memory.store_outside _ (Or.inr hend)]

end PolytopeOS.Loader
