import PolytopeOS.Loader.Main

/-!
# Page ownership across the handoff

A page that the loader has been granted is no longer conventional, so no later
allocation can take it. The page types at the end of `prepareKernel` therefore
name the owner of every granted page, and the kinds of the contract's regions
repeat them to the kernel.
-/

namespace PolytopeOS.Loader
open Corelib BootContract BootElf

theorem Granted.retains {ty : MemoryType} {count base : ℕ} {m m' : Machine}
    (h : Granted ty count m base m') : Retains m m' := by
  rintro page owner howner ⟨howned, hpage⟩
  refine ⟨by rw [h.owned, own, howned, Bool.or_true], ?_⟩
  rw [h.retyped, retype, if_neg, hpage]
  rintro ⟨hge, hlt⟩
  -- a page of the loader is not conventional
  rw [h.conventional page hge hlt, Option.some.injEq] at hpage
  subst hpage
  exact absurd howner (by decide)

theorem Granted.taken {ty : MemoryType} {count base page : ℕ} {m m' : Machine}
    (h : Granted ty count m base m') (hge : base / pageBytes ≤ page)
    (hlt : page < base / pageBytes + count) : m'.Holds page ty := by
  constructor
  · rw [h.owned, own, decide_eq_true ⟨hge, hlt⟩, Bool.true_or]
  · rw [h.retyped, retype, if_pos ⟨hge, hlt⟩]

theorem loadSegment_pages {firmware : Firmware} {file : ℕ} {bytes : Bytes} {segment : LoadSegment}
    {m m' : Machine} (hs : segment.Planned bytes)
    (h : loadSegment firmware file segment m = (.ok (), m')) :
    Retains m m' ∧
      ∀ page, segment.Covers (page * pageBytes) → m'.Holds page kernelMemoryType := by
  obtain ⟨count, found, m₁, hcount, hfound, hgrant, rfl⟩ := loadSegment_eq_ok h
  refine ⟨hfound.retains.trans hgrant.retains, fun page hpage => ?_⟩
  have haligned := hs.aligned
  rw [LoadSegment.Covers, ← hcount] at hpage
  simp only [pageBytes] at hpage
  apply hgrant.taken
  · simp only [pageBytes]
    omega
  · simp only [pageBytes]
    omega

theorem each_loadSegment_pages {firmware : Firmware} {file : ℕ} {bytes : Bytes}
    {segments : List LoadSegment} {m m' : Machine}
    (hplanned : ∀ segment ∈ segments, segment.Planned bytes)
    (h : Action.each (loadSegment firmware file) segments m = (.ok (), m')) :
    Retains m m' ∧ ∀ segment ∈ segments, ∀ page, segment.Covers (page * pageBytes) →
      m'.Holds page kernelMemoryType := by
  induction segments generalizing m with
  | nil =>
    obtain ⟨_, rfl⟩ := Action.pure_eq_ok.mp h
    exact ⟨.refl m, by simp⟩
  | cons segment rest ih =>
    rw [List.forall_mem_cons] at hplanned
    obtain ⟨_, m₁, hfirst, hrest⟩ := Action.bind_eq_ok.mp h
    obtain ⟨hretains, hpages⟩ := loadSegment_pages hplanned.1 hfirst
    obtain ⟨hretains', hpages'⟩ := ih hplanned.2 hrest
    refine ⟨hretains.trans hretains', List.forall_mem_cons.mpr ⟨fun page hpage => ?_, hpages'⟩⟩
    exact hretains' page _ (by decide) (hpages page hpage)

/-- The page below the kernel's stack. -/
def stackGuardPage : ℕ := stackGuardAddress.toNat / pageBytes

theorem reserveStackGuard_pages {firmware : Firmware} {m m' : Machine}
    (h : reserveStackGuard firmware m = (.ok (), m')) :
    Retains m m' ∧ ¬m.Holds stackGuardPage kernelMemoryType ∧
      m'.Holds stackGuardPage stackGuardMemoryType := by
  simp only [reserveStackGuard] at h
  rw [Action.bind_eq_ok] at h
  obtain ⟨base, m₁, hallocate, h⟩ := h
  obtain ⟨found, hfound, hgrant⟩ := Firmware.allocate_eq_ok hallocate
  by_cases hbase : base = stackGuardAddress.toNat
  · subst hbase
    rw [if_neg (by simp)] at h
    obtain ⟨_, rfl⟩ := Action.pure_eq_ok.mp h
    have hfree := hgrant.conventional stackGuardPage le_rfl (Nat.lt_succ_self _)
    refine ⟨hfound.retains.trans hgrant.retains, fun hkernel => ?_,
      hgrant.taken le_rfl (Nat.lt_succ_self _)⟩
    rw [(hfound.retains _ _ (by decide) hkernel).2] at hfree
    exact absurd (Option.some.inj hfree) (by decide)
  · rw [if_pos hbase] at h
    simp [Action.lift] at h

/-- The pages of the contract storage. -/
def ContractStorage.Covers (storage : ContractStorage) (page : ℕ) : Prop :=
  storage.base / pageBytes ≤ page ∧ page < storage.base / pageBytes + 2

theorem allocateStorage_pages {firmware : Firmware} {m m' : Machine} {storage : ContractStorage}
    (h : ContractStorage.allocate firmware m = (.ok storage, m')) :
    Retains m m' ∧ ∀ page, storage.Covers page → m'.Holds page contractMemoryType := by
  unfold ContractStorage.allocate at h
  split at h
  · cases h
  · next base m₁ hallocate =>
    cases h
    obtain ⟨found, hfound, hgrant⟩ := firmware.granted hallocate
    exact ⟨hfound.retains.trans hgrant.retains, fun page hpage => hgrant.taken hpage.1 hpage.2⟩

/-- A page granted to the loader, with the type it was granted under. -/
inductive Owned (segments : List LoadSegment) (storage : ContractStorage) : ℕ → MemoryType → Prop
  | kernel {segment : LoadSegment} {page : ℕ} (hsegment : segment ∈ segments)
      (hpage : segment.Covers (page * pageBytes)) : Owned segments storage page kernelMemoryType
  | stackGuard : Owned segments storage stackGuardPage stackGuardMemoryType
  | contract {page : ℕ} (hpage : storage.Covers page) :
      Owned segments storage page contractMemoryType

/-- The stages of a successful `prepareKernel`. -/
theorem prepareKernel_eq_ok {platform : Platform} {m m' : Machine} {p : Prepared}
    (h : prepareKernel platform m = (.ok p, m')) :
    ∃ kernel elf m₁ m₂ m₃, readFiles platform = .ok (kernel, p.scenario) ∧
      BootElf.parse kernel = .ok elf ∧ p.entryPoint = elf.entryPoint ∧
      loadSegments platform.firmware platform.kernelBuffer elf m₁ = (.ok (), m₂) ∧
      reserveStackGuard platform.firmware m₂ = (.ok (), m₃) ∧
      ContractStorage.allocate platform.firmware m₃ = (.ok p.contractStorage, m') := by
  obtain ⟨⟨kernel, scenario⟩, m₀, hread, h⟩ := Action.bind_eq_ok.mp h
  obtain ⟨hfiles, rfl⟩ := Action.lift_eq_ok.mp hread
  obtain ⟨_, m₁, _, h⟩ := Action.bind_eq_ok.mp h
  obtain ⟨elf, m₁', hcheck, h⟩ := Action.bind_eq_ok.mp h
  obtain ⟨hparse, rfl⟩ := Action.lift_eq_ok.mp hcheck
  obtain ⟨_, m₂, hload, h⟩ := Action.bind_eq_ok.mp h
  obtain ⟨_, m₃, hguard, h⟩ := Action.bind_eq_ok.mp h
  obtain ⟨storage, m₄, hstorage, h⟩ := Action.bind_eq_ok.mp h
  obtain ⟨rfl, rfl⟩ := Action.pure_eq_ok.mp h
  exact ⟨kernel, elf, m₁, m₂, m₃, hfiles, Exec.mapErr_eq_ok.mp hparse, rfl, hload, hguard, hstorage⟩

/-- After `prepareKernel` every granted page has its owner's type, and the stack
guard was still free once the segments were loaded. -/
theorem prepareKernel_owned {platform : Platform} {m m' : Machine} {p : Prepared} {kernel : Bytes}
    {scenario : BootScenario} {elf : ValidatedElf} {segments : List LoadSegment}
    (h : prepareKernel platform m = (.ok p, m'))
    (hfiles : readFiles platform = .ok (kernel, scenario))
    (hparse : BootElf.parse kernel = .ok elf) (hsegments : elf.segments.collect = .ok segments) :
    (∀ page ty, Owned segments p.contractStorage page ty → m'.pages page = some ty) ∧
      ∀ segment ∈ segments, ¬segment.Covers (stackGuardPage * pageBytes) := by
  obtain ⟨kernel', elf', m₁, m₂, m₃, hfiles', hparse', _, hload, hguard, hstorage⟩ :=
    prepareKernel_eq_ok h
  obtain ⟨rfl, rfl⟩ := Prod.mk.inj (Exec.ok.inj (hfiles.symm.trans hfiles'))
  obtain rfl := Exec.ok.inj (hparse.symm.trans hparse')
  have hplan := loadPlan_of_collect hparse hsegments
  rw [loadSegments, loadSegmentsFrom_eq hsegments] at hload
  obtain ⟨_, hkernel⟩ := each_loadSegment_pages hplan.planned hload
  obtain ⟨hretains, hfree, hreserved⟩ := reserveStackGuard_pages hguard
  obtain ⟨hretains', hcontract⟩ := allocateStorage_pages hstorage
  constructor
  · intro page ty howned
    cases howned with
    | kernel hsegment hpage =>
      exact (hretains.trans hretains' page _ (by decide) (hkernel _ hsegment page hpage)).2
    | stackGuard => exact (hretains' _ _ (by decide) hreserved).2
    | contract hpage => exact (hcontract page hpage).2
  · intro segment hsegment hcovers
    exact hfree (hkernel segment hsegment _ hcovers)

def MemoryDescriptor.ContainsPage (descriptor : MemoryDescriptor) (page : ℕ) : Prop :=
  descriptor.physStart.toNat ≤ page * pageBytes ∧ (page + 1) * pageBytes ≤ descriptor.endNat
  deriving Decidable

/-- The map lists every page there is, under its type and no other. -/
structure ListsPages (map : List MemoryDescriptor) (pages : ℕ → Option MemoryType) : Prop where
  listed : ∀ page ty, pages page = some ty →
    ∃ descriptor ∈ map, descriptor.ty = ty ∧ descriptor.ContainsPage page
  typed : ∀ descriptor ∈ map, ∀ page, descriptor.ContainsPage page →
    pages page = some descriptor.ty

/-- The region holds the whole page. -/
def HoldsPage (region : MemoryRegion) (page : ℕ) : Prop :=
  region.start.toNat ≤ page * pageBytes ∧ (page + 1) * pageBytes ≤ region.endNat

/-- The region has an address in common with the page. -/
def MeetsPage (region : MemoryRegion) (page : ℕ) : Prop :=
  region.start.toNat < (page + 1) * pageBytes ∧ page * pageBytes < region.endNat

theorem ListsPages.holds {map : List MemoryDescriptor} {pages : ℕ → Option MemoryType} {page : ℕ}
    {ty : MemoryType} (h : ListsPages map pages) (hmap : MapValid map)
    (hpage : pages page = some ty) :
    ∃ descriptor ∈ nonempty map, descriptor.ty = ty ∧ HoldsPage descriptor.region page := by
  obtain ⟨descriptor, hmem, hty, hcontains⟩ := h.listed page ty hpage
  have hlive : descriptor ∈ nonempty map := by
    refine List.mem_filter.mpr ⟨hmem, ?_⟩
    have hcount : descriptor.pageCount ≠ 0 := by
      intro hzero
      simp only [MemoryDescriptor.ContainsPage, MemoryDescriptor.endNat, hzero,
        pageBytes] at hcontains
      have : (0 : UInt64).toNat = 0 := rfl
      omega
    simpa using hcount
  refine ⟨descriptor, hlive, hty, ?_⟩
  rw [HoldsPage, MemoryDescriptor.endNat_region (hmap.loopGood.2 _ hlive)]
  exact hcontains

/-- Regions begin and end at page boundaries, so one that meets a page holds it. -/
theorem ListsPages.meets {map : List MemoryDescriptor} {pages : ℕ → Option MemoryType} {page : ℕ}
    {descriptor : MemoryDescriptor} (h : ListsPages map pages) (hmap : MapValid map)
    (hmem : descriptor ∈ nonempty map) (hmeets : MeetsPage descriptor.region page) :
    pages page = some descriptor.ty := by
  apply h.typed descriptor (List.mem_filter.mp hmem).1
  have haligned := (hmap.range descriptor hmem).1
  rw [MeetsPage, MemoryDescriptor.endNat_region (hmap.loopGood.2 _ hmem)] at hmeets
  obtain ⟨hstart, hend⟩ := hmeets
  have hstart' : descriptor.physStart.toNat < (page + 1) * pageBytes := hstart
  simp only [MemoryDescriptor.ContainsPage, MemoryDescriptor.endNat, pageBytes] at hstart' hend ⊢
  omega

/-- The kind depends on the type alone. -/
theorem normalizeMemoryKind_eq {descriptor : MemoryDescriptor} {ty : MemoryType}
    (h : descriptor.ty = ty) :
    normalizeMemoryKind descriptor = normalizeMemoryKind ⟨ty, 0, 0, 0⟩ := by
  subst h
  rfl

theorem Owned.kind {segments : List LoadSegment} {storage : ContractStorage} {page : ℕ}
    {ty : MemoryType} (h : Owned segments storage page ty) :
    normalizeMemoryKind ⟨ty, 0, 0, 0⟩ ≠ .usable ∧
      normalizeMemoryKind ⟨ty, 0, 0, 0⟩ ≠ .reclaimable := by
  cases h <;> decide

/-- What the contract has to say about the pages granted to the loader. -/
structure Reports (regions : List MemoryRegion) (segments : List LoadSegment)
    (storage : ContractStorage) : Prop where
  kernel : ∀ segment ∈ segments, ∀ page, segment.Covers (page * pageBytes) →
    ∃ region ∈ regions, region.kind = .kernelImage ∧ HoldsPage region page
  stackGuard : ∃ region ∈ regions, region.kind = .reserved ∧ HoldsPage region stackGuardPage
  contract : ∀ page, storage.Covers page →
    ∃ region ∈ regions, region.kind = .bootContract ∧ HoldsPage region page
  apart : ∀ region ∈ regions, region.kind = .usable ∨ region.kind = .reclaimable →
    ∀ page ty, Owned segments storage page ty → ¬MeetsPage region page

theorem reports_of_lists {map : List MemoryDescriptor} {pages : ℕ → Option MemoryType}
    {segments : List LoadSegment} {storage : ContractStorage} (h : ListsPages map pages)
    (hmap : MapValid map)
    (howned : ∀ page ty, Owned segments storage page ty → pages page = some ty) :
    Reports ((nonempty map).map MemoryDescriptor.region) segments storage := by
  have hregion : ∀ page ty, Owned segments storage page ty →
      ∃ region ∈ (nonempty map).map MemoryDescriptor.region,
        region.kind = normalizeMemoryKind ⟨ty, 0, 0, 0⟩ ∧ HoldsPage region page := by
    intro page ty hpage
    obtain ⟨descriptor, hmem, hty, hholds⟩ := h.holds hmap (howned page ty hpage)
    exact ⟨_, List.mem_map_of_mem hmem, normalizeMemoryKind_eq hty, hholds⟩
  constructor
  case kernel => exact fun segment hsegment page hpage => hregion page _ (.kernel hsegment hpage)
  case stackGuard => exact hregion _ _ .stackGuard
  case contract => exact fun page hpage => hregion page _ (.contract hpage)
  case apart =>
    intro region hmem hkind page ty hpage hmeets
    obtain ⟨descriptor, hlive, rfl⟩ := List.mem_map.mp hmem
    have hty : descriptor.ty = ty :=
      Option.some.inj ((h.meets hmap hlive hmeets).symm.trans (howned page ty hpage))
    have hkind' : normalizeMemoryKind descriptor = .usable ∨
        normalizeMemoryKind descriptor = .reclaimable := hkind
    rw [normalizeMemoryKind_eq hty] at hkind'
    exact hkind'.elim hpage.kind.1 hpage.kind.2

/-- A segment has no address in the stack guard's page once the kernel is prepared. -/
theorem prepareKernel_apart_from_guard {platform : Platform} {m m' : Machine} {p : Prepared}
    {kernel : Bytes} {scenario : BootScenario} {elf : ValidatedElf} {segments : List LoadSegment}
    (h : prepareKernel platform m = (.ok p, m'))
    (hfiles : readFiles platform = .ok (kernel, scenario))
    (hparse : BootElf.parse kernel = .ok elf) (hsegments : elf.segments.collect = .ok segments)
    {segment : LoadSegment} (hsegment : segment ∈ segments) {x : ℕ} (hx : segment.Covers x) :
    x / pageBytes ≠ stackGuardPage := by
  have hplan := loadPlan_of_collect hparse hsegments
  have haligned := (hplan.planned segment hsegment).aligned
  rintro hguard
  apply (prepareKernel_owned h hfiles hparse hsegments).2 segment hsegment
  rw [← hguard]
  rw [LoadSegment.Covers] at hx ⊢
  simp only [pageBytes]
  omega

/-- The stages behind a handoff record, and the map they leave to be reported. -/
theorem prepared_of_handoffReady {platform : Platform} {m : Machine} {map : List MemoryDescriptor}
    {transfer : Transfer}
    (h : handoffReady ∈ (main (.ofPlatform platform m map transfer)).records) :
    ∃ p m', prepareKernel platform m = (.ok p, m') ∧ MapValid map := by
  obtain ⟨p, length, hprepared, hencoded⟩ := main_handoffReady.mp h
  have hprepared' : (prepareKernel platform m).1 = .ok p := hprepared
  refine ⟨p, (prepareKernel platform m).2, Prod.ext hprepared' rfl, ?_⟩
  simp only [GuestRun.ofPlatform, hprepared'] at hencoded
  exact mapValid_of_encodeContract hencoded

/-- An image whose one segment is the stack guard's page. -/
theorem parse_guardElf :
    BootElf.parse (sampleElf stackGuardAddress) =
      .ok ⟨sampleElf stackGuardAddress, stackGuardAddress, 64, 2, 1⟩ := by
  decide +kernel

/-- The kernel learns from the contract which pages are taken. If the loader gets
as far as the handoff in the normal scenario, no one retypes the pages it was
granted, and the final map lists the pages by type, then the parsed contract
reports them all and offers none of them as free. No segment in the stack
guard's page gets that far, although the ELF parser alone would accept one. -/
theorem ownership_survives_handoff :
    (∀ (platform : Platform) (m : Machine) (map : List MemoryDescriptor) (transfer : Transfer)
      (kernel : Bytes), readFiles platform = .ok (kernel, .normal) →
      handoffReady ∈ (main (.ofPlatform platform m map transfer)).records →
      ∃ elf segments storage m', BootElf.parse kernel = .ok elf ∧
        elf.segments.collect = .ok segments ∧
        prepareKernel platform m = (.ok ⟨elf.entryPoint, storage, .normal⟩, m') ∧
        ∀ final : ℕ → Option MemoryType,
          (∀ page ty, Owned segments storage page ty → final page = m'.pages page) →
          ListsPages map final →
          ∀ memory, ∃ memory' info,
            encodeContract map storage .normal memory = (.ok bootInfoSize, memory') ∧
            BootContract.parse (memory'.load storage.base bootInfoSize) = .ok info ∧
            Reports info.memoryRegions segments storage) ∧
    (∀ (platform : Platform) (m : Machine) (kernel : Bytes) (scenario : BootScenario)
      (elf : ValidatedElf) (segments : List LoadSegment),
      readFiles platform = .ok (kernel, scenario) → BootElf.parse kernel = .ok elf →
      elf.segments.collect = .ok segments →
      (∃ segment ∈ segments, ∃ x, segment.Covers x ∧ x / pageBytes = stackGuardPage) →
      ∀ p m', prepareKernel platform m ≠ (.ok p, m')) ∧
    ∃ kernel elf segments, BootElf.parse kernel = .ok elf ∧ elf.segments.collect = .ok segments ∧
      ∃ segment ∈ segments, ∃ x, segment.Covers x ∧ x / pageBytes = stackGuardPage := by
  refine ⟨?_, ?_, ?_⟩
  · intro platform m map transfer kernel hfiles hready
    obtain ⟨⟨entryPoint, storage, scenario⟩, m', hprepared, hmap⟩ := prepared_of_handoffReady hready
    obtain ⟨kernel', elf, m₁, m₂, m₃, hfiles', hparse, rfl, _, _, _⟩ := prepareKernel_eq_ok hprepared
    obtain ⟨rfl, rfl⟩ := Prod.mk.inj (Exec.ok.inj (hfiles.symm.trans hfiles'))
    have hsegments := collect_of_parse hparse
    refine ⟨elf, _, storage, m', hparse, hsegments, hprepared, ?_⟩
    intro final hkept hlists memory
    have hpages := (prepareKernel_owned hprepared hfiles hparse hsegments).1
    obtain ⟨_, _, _, hencode⟩ := encodeContract_of_valid storage .normal memory hmap
    have hvalid := (contractOf_valid .normal hmap.loopGood).mpr hmap
    refine ⟨_, ⟨_, hvalid⟩, hencode,
      BootContract.parse_eq_ok.mpr (load_encodeContract hencode).2, ?_⟩
    show Reports (contractOf .normal map).activeRegions _ storage
    rw [activeRegions_contractOf .normal hmap]
    exact reports_of_lists hlists hmap fun page ty h =>
      (hkept page ty h).trans (hpages page ty h)
  · rintro platform m kernel scenario elf segments hfiles hparse hsegments
      ⟨segment, hsegment, x, hx, hguard⟩ p m' hprepared
    exact prepareKernel_apart_from_guard hprepared hfiles hparse hsegments hsegment hx hguard
  · have hindices : 1 ∈ loadIndices (sampleElf stackGuardAddress) := by decide +kernel
    have hcovers : (segmentOf (sampleElf stackGuardAddress) 1).Covers stackGuardAddress.toNat := by
      decide +kernel
    exact ⟨_, _, _, parse_guardElf, collect_of_parse parse_guardElf, _,
      List.mem_map_of_mem hindices, _, hcovers, rfl⟩

/-- A file delivered by one read. -/
def sampleFile (bytes : Bytes) : RegularFile where
  read call length := some (if call = 0 then bytes.take length else [])
  read_le := by
    intro call length chunk h
    rw [← Option.some.inj h]
    split
    · exact List.length_take_le _ _
    · exact Nat.zero_le _

def sampleDirectory : Directory where
  openFile path :=
    if path = kernelFile then some (some (sampleFile (sampleElf 0x200000)))
    else if path = scenarioFile then some (some (sampleFile (Arch.ascii "normal\n")))
    else none

def samplePlatform : Platform where
  firmware := firstFitFirmware 2
  imageFileSystem := some (some sampleDirectory)
  tryReserve _ _ := true
  kernelBuffer := 0x5000000

/-- Free pages from the second to the end of the kernel's window. -/
def freeMachine : Machine where
  memory _ := 0
  pages page := if 1 ≤ page ∧ page < 0x5000 then some .conventional else none
  owned _ := false

theorem readLoop_sampleFile {bytes : Bytes} {maximum chunkLength : ℕ} {limitError : LoaderError}
    (hpos : bytes ≠ []) (hchunk : bytes.length ≤ chunkLength) (hmax : bytes.length ≤ maximum)
    (hsize : maximum < 2 ^ 64) :
    readLoop (sampleFile bytes) (fun _ => true) maximum chunkLength limitError 0 [] = .ok bytes := by
  have hread : (sampleFile bytes).read 0 chunkLength = some bytes :=
    congrArg some (List.take_of_length_le hchunk)
  have hend : (sampleFile bytes).read 1 chunkLength = some [] := rfl
  have hlength : checkedSize (([] : Bytes).length + bytes.length) = some bytes.length := by
    rw [List.length_nil, Nat.zero_add, checkedSize_of_lt (by omega)]
  rw [readLoop, hread]
  simp only
  rw [dif_neg (by simpa using hpos)]
  split
  · next hnone => exact absurd (hlength.symm.trans hnone) (Option.some_ne_none _)
  · next newLength hsome =>
    obtain rfl := Option.some.inj (hlength.symm.trans hsome)
    rw [dif_neg (Nat.not_lt.mpr hmax), if_neg (by decide), readLoop, hend]
    rfl

theorem readFiles_sample :
    readFiles samplePlatform = .ok (sampleElf 0x200000, .normal) := by
  have hkernel : readBoundedFile sampleDirectory (fun _ _ => true) kernelFile maxElfFileSize
      .elfInvalid = .ok (sampleElf 0x200000) :=
    readLoop_sampleFile (by decide +kernel) (by decide +kernel) (by decide +kernel) (by decide)
  have hscenario : readBoundedFile sampleDirectory (fun _ _ => true) scenarioFile maxScenarioBytes
      .configInvalid = .ok (Arch.ascii "normal\n") :=
    readLoop_sampleFile (by decide +kernel) (by decide +kernel) (by decide +kernel) (by decide)
  have hparse : BootScenario.parse (Arch.ascii "normal\n") = .ok .normal := by decide +kernel
  simp only [readFiles, samplePlatform, Exec.okOr_some, Exec.ok_bind, hkernel, hscenario, hparse]
  rfl

/-- The storage is placed in the first free pages. -/
theorem prepareKernel_sample :
    ∃ storage m', prepareKernel samplePlatform freeMachine = (.ok ⟨0x200000, storage, .normal⟩, m') ∧
      storage.base = 0x1000 := by
  let m₁ : Machine :=
    { freeMachine with memory := freeMachine.memory.store 0x5000000 (sampleElf 0x200000) }
  let load := Action.each (loadSegment (firstFitFirmware 2) 0x5000000)
    [segmentOf (sampleElf 0x200000) 1]
  let m₂ := (load m₁).2
  let m₃ := (reserveStackGuard (firstFitFirmware 2) m₂).2
  have hload : load m₁ = (.ok (), m₂) := Prod.ext (by decide +kernel) rfl
  have hguard : reserveStackGuard (firstFitFirmware 2) m₂ = (.ok (), m₃) :=
    Prod.ext (by decide +kernel) rfl
  have hbase : ((ContractStorage.allocate (firstFitFirmware 2) m₃).1 >>= fun storage =>
      .ok storage.base : Exec LoaderError ℕ) = .ok 0x1000 := by decide +kernel
  obtain ⟨storage, hallocate, hbase⟩ := Exec.bind_eq_ok.mp hbase
  have hsegments : loadSegments (firstFitFirmware 2) 0x5000000 sampleElfHandle = load :=
    loadSegmentsFrom_eq collect_sampleElf
  refine ⟨storage, (ContractStorage.allocate (firstFitFirmware 2) m₃).2, ?_, Exec.ok.inj hbase⟩
  refine Action.bind_eq_ok.mpr ⟨_, _, Action.lift_eq_ok.mpr ⟨readFiles_sample, rfl⟩, ?_⟩
  refine Action.bind_eq_ok.mpr ⟨(), m₁, rfl, ?_⟩
  refine Action.bind_eq_ok.mpr ⟨_, _, Action.lift_eq_ok.mpr
    ⟨Exec.mapErr_eq_ok.mpr parse_sampleElf, rfl⟩, ?_⟩
  refine Action.bind_eq_ok.mpr ⟨(), m₂, (congrFun hsegments m₁).trans hload, ?_⟩
  refine Action.bind_eq_ok.mpr ⟨(), m₃, hguard, ?_⟩
  exact Action.bind_eq_ok.mpr ⟨storage, _, Prod.ext hallocate rfl, rfl⟩

/-- The pages that a map describes. -/
def pagesOf (map : List MemoryDescriptor) (page : ℕ) : Option MemoryType :=
  (map.find? fun descriptor => descriptor.ContainsPage page).map MemoryDescriptor.ty

theorem listsPages_pagesOf {map : List MemoryDescriptor}
    (h : map.Pairwise fun earlier later => earlier.endNat ≤ later.physStart.toNat) :
    ListsPages map (pagesOf map) := by
  constructor
  · intro page ty hpage
    obtain ⟨descriptor, hfind, hty⟩ := Option.map_eq_some_iff.mp hpage
    have hcontains := List.find?_some hfind
    exact ⟨descriptor, List.mem_of_find?_eq_some hfind, hty, of_decide_eq_true hcontains⟩
  · induction map with
    | nil => exact nofun
    | cons first rest ih =>
      obtain ⟨hlater, hrest⟩ := List.pairwise_cons.mp h
      intro descriptor hmem page hcontains
      rw [pagesOf, List.find?_cons]
      by_cases hfirst : first.ContainsPage page
      · rw [decide_eq_true hfirst]
        rcases List.mem_cons.mp hmem with rfl | hmem
        · rfl
        · have hle := hlater descriptor hmem
          rw [MemoryDescriptor.ContainsPage] at hfirst hcontains
          simp only [pageBytes] at hfirst hcontains
          omega
      · rw [decide_eq_false hfirst]
        rcases List.mem_cons.mp hmem with rfl | hmem
        · exact absurd hcontains hfirst
        · exact ih hrest descriptor hmem page hcontains

/-- The map that the sample run leaves behind. -/
def finalMap : List MemoryDescriptor :=
  [⟨contractMemoryType, 0x1000, 2, 0⟩, ⟨.conventional, 0x3000, 0x1fd, 0⟩,
    ⟨kernelMemoryType, 0x200000, 1, 0⟩, ⟨.conventional, 0x201000, 0x45fe, 0⟩,
    ⟨stackGuardMemoryType, 0x47ff000, 1, 0⟩, ⟨.conventional, 0x4800000, 0x800, 0⟩]

theorem pagesOf_finalMap {storage : ContractStorage} (hbase : storage.base = 0x1000) {page : ℕ}
    {ty : MemoryType} (h : Owned [segmentOf (sampleElf 0x200000) 1] storage page ty) :
    pagesOf finalMap page = some ty := by
  cases h with
  | kernel hsegment hpage =>
    have hspan : (segmentOf (sampleElf 0x200000) 1).physicalAddress.toNat = 0x200000 ∧
        (segmentOf (sampleElf 0x200000) 1).span = 4096 := by decide +kernel
    rw [List.mem_singleton.mp hsegment, LoadSegment.Covers, hspan.1, hspan.2] at hpage
    simp only [pageBytes] at hpage
    obtain rfl : page = 0x200 := by omega
    decide +kernel
  | stackGuard => decide +kernel
  | contract hpage =>
    rw [ContractStorage.Covers, hbase] at hpage
    simp only [pageBytes] at hpage
    obtain rfl | rfl : page = 1 ∨ page = 2 := by omega
    · decide +kernel
    · decide +kernel

theorem ownership_survives_handoff_sample :
    readFiles samplePlatform = .ok (sampleElf 0x200000, .normal) ∧
    handoffReady ∈ (main (.ofPlatform samplePlatform freeMachine finalMap .returned)).records ∧
    ∃ storage memory info, storage.base = 0x1000 ∧
      BootContract.parse (Memory.load memory storage.base bootInfoSize) = .ok info ∧
      Reports info.memoryRegions [segmentOf (sampleElf 0x200000) 1] storage := by
  have hordered : finalMap.Pairwise fun earlier later =>
      earlier.endNat ≤ later.physStart.toNat := by decide
  have hmap : MapValid finalMap := ⟨by decide, by decide, hordered⟩
  obtain ⟨storage, m', hprepared, hbase⟩ := prepareKernel_sample
  have hready : handoffReady ∈
      (main (.ofPlatform samplePlatform freeMachine finalMap .returned)).records := by
    obtain ⟨_, _, _, hencode⟩ := encodeContract_of_valid storage .normal m'.memory hmap
    refine main_handoffReady.mpr ⟨_, bootInfoSize, congrArg Prod.fst hprepared, ?_⟩
    simp only [GuestRun.ofPlatform, hprepared]
    exact congrArg Prod.fst hencode
  obtain ⟨elf, segments, storage', m'', hparse, hsegments, hprepared', hreports⟩ :=
    ownership_survives_handoff.1 samplePlatform freeMachine finalMap .returned _ readFiles_sample
      hready
  obtain rfl := Exec.ok.inj (parse_sampleElf.symm.trans hparse)
  obtain rfl := Exec.ok.inj (collect_sampleElf.symm.trans hsegments)
  rw [hprepared, Prod.mk.injEq, Exec.ok.injEq, Prepared.mk.injEq] at hprepared'
  obtain ⟨⟨_, rfl, _⟩, rfl⟩ := hprepared'
  have hpages := (prepareKernel_owned hprepared readFiles_sample parse_sampleElf collect_sampleElf).1
  obtain ⟨memory, info, _, hinfo, hreport⟩ := hreports (pagesOf finalMap)
    (fun page ty h => (pagesOf_finalMap hbase h).trans (hpages page ty h).symm)
    (listsPages_pagesOf hordered) freeMachine.memory
  exact ⟨readFiles_sample, hready, storage, memory, info, hbase, hinfo, hreport⟩

end PolytopeOS.Loader
