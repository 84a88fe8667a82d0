import PolytopeOS.Loader.Ownership

/-!
# Loading into free memory

Where the pages that a kernel asks for are free and the firmware refuses no
request that free pages can meet, one thing still keeps `prepareKernel` from
succeeding: a segment on the page of the stack guard, which the loader takes for
itself after it has loaded the segments.
-/

namespace PolytopeOS.Loader
open Corelib BootElf

/-- The `count` pages from `first` on are free. -/
structure FreeRun (pages : ℕ → Option MemoryType) (first count : ℕ) : Prop where
  nonnull : first ≠ 0
  fits : (first + count) * pageBytes ≤ 2 ^ 64
  conventional : ∀ page, first ≤ page → page < first + count → pages page = some .conventional

theorem FreeRun.congr {pages pages' : ℕ → Option MemoryType} {first count : ℕ}
    (h : FreeRun pages first count)
    (hsame : ∀ page, first ≤ page → page < first + count → pages' page = pages page) :
    FreeRun pages' first count :=
  ⟨h.nonnull, h.fits, fun page hge hlt => (hsame page hge hlt).trans (h.conventional page hge hlt)⟩

/-- The firmware refuses no request that free pages can meet, and no one takes
pages behind the loader's back. -/
structure Generous (firmware : Firmware) : Prop where
  address : ∀ {address : UInt64} {first count : ℕ} {m : Machine} (ty : MemoryType),
    address.toNat = first * pageBytes → FreeRun m.pages first count →
    ∃ m', firmware.allocatePages (.address address) ty count m = some (address.toNat, m') ∧
      m'.pages = retype m.pages first count ty
  anyPages : ∀ {first count : ℕ} {m : Machine} (ty : MemoryType), FreeRun m.pages first count →
    ∃ base m', firmware.allocatePages .anyPages ty count m = some (base, m')

/-- First fit over the whole address space refuses nothing that is free. -/
theorem generous_firstFit {limit : ℕ} (hlimit : 2 ^ 52 < limit) :
    Generous (firstFitFirmware limit) := by
  constructor
  case address =>
    intro address first count m ty haddress hfree
    have hfirst : address.toNat / pageBytes = first := by
      rw [haddress]
      exact Nat.mul_div_cancel _ (by decide)
    refine ⟨{ m with
      pages := retype m.pages first count ty
      owned := own m.owned first count }, ?_, rfl⟩
    show firstFit limit (.address address) ty count m = _
    have hmod : address.toNat % pageBytes = 0 := by
      rw [haddress]
      exact Nat.mul_mod_left _ _
    have hpages : ∀ i < count, m.pages (first + i) = some .conventional := fun i hi =>
      hfree.conventional _ (by omega) (by omega)
    simp only [firstFit, hfirst]
    rw [if_pos ⟨hmod, hfree.nonnull, hfree.fits, hpages⟩, haddress]
  case anyPages =>
    intro first count m ty hfree
    have hfits := hfree.fits
    have hfound : ((List.range limit).find? fun first : ℕ => decide (first ≠ 0 ∧
        (first + count) * pageBytes ≤ 2 ^ 64 ∧
        ∀ i < count, m.pages (first + i) = some .conventional)).isSome := by
      refine List.find?_isSome.mpr ⟨first, List.mem_range.mpr ?_, decide_eq_true ?_⟩
      · simp only [pageBytes] at hfits
        omega
      · exact ⟨hfree.nonnull, hfits, fun i hi => hfree.conventional _ (by omega) (by omega)⟩
    obtain ⟨found, hfound⟩ := Option.isSome_iff_exists.mp hfound
    exact ⟨_, _, congrArg (Option.map _) hfound⟩

/-- The pages of a segment, by number. -/
theorem covers_iff_pages {segment : LoadSegment} {bytes : Bytes} (hs : segment.Planned bytes)
    (page : ℕ) :
    segment.Covers (page * pageBytes) ↔
      segment.physicalAddress.toNat / pageBytes ≤ page ∧
        page < segment.physicalAddress.toNat / pageBytes +
          (segment.memorySize.toNat + (pageBytes - 1)) / pageBytes := by
  have haligned := hs.aligned
  simp only [LoadSegment.Covers, LoadSegment.span, roundUp, pageBytes]
  omega

section Generous

variable {firmware : Firmware} (hgenerous : Generous firmware)

include hgenerous

theorem Generous.allocate (address : UInt64) {first count : ℕ} {m : Machine} (ty : MemoryType)
    (error : LoaderError) (haddress : address.toNat = first * pageBytes)
    (hfree : FreeRun m.pages first count) :
    ∃ m', firmware.allocate (.address address) ty count error m = (.ok address.toNat, m') ∧
      m'.pages = retype m.pages first count ty := by
  obtain ⟨m', hgrant, hpages⟩ := hgenerous.address ty haddress hfree
  exact ⟨m', by rw [Firmware.allocate, hgrant], hpages⟩

/-- A segment is loaded where its pages are free, and takes no others. -/
theorem loadSegment_succeeds (file : ℕ) {bytes : Bytes} {segment : LoadSegment} {m : Machine}
    (hs : segment.Planned bytes)
    (hfree : ∀ page, segment.Covers (page * pageBytes) → m.pages page = some .conventional) :
    ∃ m', loadSegment firmware file segment m = (.ok (), m') ∧
      ∀ page, ¬segment.Covers (page * pageBytes) → m'.pages page = m.pages page := by
  have hlow := hs.window_ge
  have hhigh := hs.window_le
  let first := segment.physicalAddress.toNat / pageBytes
  let count := (segment.memorySize.toNat + (pageBytes - 1)) / pageBytes
  have haddress : segment.physicalAddress.toNat = first * pageBytes :=
    (Nat.div_mul_cancel (Nat.dvd_of_mod_eq_zero hs.aligned)).symm
  have hspan : count * pageBytes = segment.span := rfl
  have hrun : FreeRun m.pages first count := by
    refine ⟨?_, ?_, fun page hge hlt => hfree page ((covers_iff_pages hs page).mpr ⟨hge, hlt⟩)⟩
    · intro hzero
      rw [haddress, hzero] at hlow
      exact absurd hlow (by decide)
    · rw [Nat.add_mul, ← haddress, hspan]
      omega
  have hsize : checkedSize (count * pageBytes) = some (count * pageBytes) :=
    checkedSize_of_lt (by rw [hspan]; omega)
  obtain ⟨m₁, hallocate, hpages⟩ :=
    hgenerous.allocate segment.physicalAddress kernelMemoryType .kernelAddress haddress hrun
  obtain ⟨memory, hload⟩ : ∃ memory, loadSegment firmware file segment m =
      (.ok (), { m₁ with memory := memory }) := by
    simp only [loadSegment]
    rw [Action.bind_of_ok hallocate, if_neg (not_not.mpr rfl)]
    have hbytes := Exec.okOr_eq_ok (e := LoaderError.allocation) |>.mpr hsize
    exact ⟨_, Action.bind_eq_ok.mpr ⟨_, m₁, Action.lift_eq_ok.mpr ⟨hbytes, rfl⟩, rfl⟩⟩
  refine ⟨_, hload, fun page hpage => ?_⟩
  show m₁.pages page = _
  rw [hpages, retype, if_neg fun hin => hpage ((covers_iff_pages hs page).mpr hin)]

/-- Loading one segment leaves the pages of the others free. -/
theorem each_loadSegment_succeeds (file : ℕ) {bytes : Bytes} {segments : List LoadSegment}
    {m : Machine} (hplan : LoadPlan bytes segments)
    (hfree : ∀ segment ∈ segments, ∀ page, segment.Covers (page * pageBytes) →
      m.pages page = some .conventional) :
    ∃ m', Action.each (loadSegment firmware file) segments m = (.ok (), m') ∧
      ∀ page, (∀ segment ∈ segments, ¬segment.Covers (page * pageBytes)) →
        m'.pages page = m.pages page := by
  induction segments generalizing m with
  | nil => exact ⟨m, rfl, fun _ _ => rfl⟩
  | cons segment rest ih =>
    rw [List.forall_mem_cons] at hfree
    obtain ⟨hplanned, hdisjoint⟩ := hplan
    rw [List.forall_mem_cons] at hplanned
    rw [List.pairwise_cons] at hdisjoint
    obtain ⟨m₁, hfirst, hkept⟩ := loadSegment_succeeds hgenerous file hplanned.1 hfree.1
    have hfree₁ : ∀ later ∈ rest, ∀ page, later.Covers (page * pageBytes) →
        m₁.pages page = some .conventional := by
      intro later hlater page hpage
      refine (hkept page fun hcovers => ?_).trans (hfree.2 later hlater page hpage)
      have hapart := hdisjoint.1 later hlater
      rw [LoadSegment.Covers] at hpage hcovers
      omega
    obtain ⟨m', hrest, hkept'⟩ := ih ⟨hplanned.2, hdisjoint.2⟩ hfree₁
    refine ⟨m', Action.bind_eq_ok.mpr ⟨(), m₁, hfirst, hrest⟩, fun page hpage => ?_⟩
    rw [List.forall_mem_cons] at hpage
    exact (hkept' page hpage.2).trans (hkept page hpage.1)

theorem reserveStackGuard_succeeds {m : Machine}
    (hfree : m.pages stackGuardPage = some .conventional) :
    ∃ m', reserveStackGuard firmware m = (.ok (), m') ∧
      ∀ page, page ≠ stackGuardPage → m'.pages page = m.pages page := by
  have hrun : FreeRun m.pages stackGuardPage 1 := by
    refine ⟨by decide, by decide, fun page hge hlt => ?_⟩
    rwa [show page = stackGuardPage by omega]
  obtain ⟨m', hallocate, hpages⟩ :=
    hgenerous.allocate stackGuardAddress stackGuardMemoryType .kernelAddress rfl hrun
  refine ⟨m', ?_, fun page hpage => ?_⟩
  · simp only [reserveStackGuard]
    rw [Action.bind_of_ok hallocate, if_neg (not_not.mpr rfl)]
    rfl
  · rw [hpages, retype, if_neg (by omega)]

theorem allocateStorage_succeeds {m : Machine} {first : ℕ}
    (hfree : FreeRun m.pages first contractPages) :
    ∃ storage m', ContractStorage.allocate firmware m = (.ok storage, m') := by
  obtain ⟨base, m', hgrant⟩ := hgenerous.anyPages contractMemoryType hfree
  unfold ContractStorage.allocate
  split
  · next hnone =>
    rw [hgrant] at hnone
    cases hnone
  · exact ⟨_, _, rfl⟩

end Generous

/-- The pages of the segments are free, the stack guard's page is, and so is a
place for the contract apart from them. -/
structure HasRoom (segments : List LoadSegment) (m : Machine) : Prop where
  kernel : ∀ segment ∈ segments, ∀ page, segment.Covers (page * pageBytes) →
    m.pages page = some .conventional
  stackGuard : m.pages stackGuardPage = some .conventional
  storage : ∃ first, FreeRun m.pages first contractPages ∧
    ∀ page, first ≤ page → page < first + contractPages → page ≠ stackGuardPage ∧
      ∀ segment ∈ segments, ¬segment.Covers (page * pageBytes)

theorem stackGuardPage_mul : stackGuardPage * pageBytes = stackGuardAddress.toNat := by decide

/-- Where there is room, the kernel is prepared exactly if none of its segments
lies on the page of the stack guard. -/
theorem prepareKernel_succeeds_iff {platform : Platform} {m : Machine} {kernel : Bytes}
    {scenario : BootScenario} {elf : ValidatedElf} {segments : List LoadSegment}
    (hgenerous : Generous platform.firmware)
    (hfiles : readFiles platform = .ok (kernel, scenario)) (hparse : BootElf.parse kernel = .ok elf)
    (hsegments : elf.segments.collect = .ok segments) (hroom : HasRoom segments m) :
    (∃ storage m', prepareKernel platform m = (.ok ⟨elf.entryPoint, storage, scenario⟩, m')) ↔
      ∀ segment ∈ segments, ¬segment.Covers stackGuardAddress.toNat := by
  constructor
  · rintro ⟨storage, m', hprepared⟩
    rw [← stackGuardPage_mul]
    exact (prepareKernel_owned hprepared hfiles hparse hsegments).2
  · intro hguard
    let m₁ : Machine := { m with memory := m.memory.store platform.kernelBuffer kernel }
    obtain ⟨m₂, hload, hkept⟩ := each_loadSegment_succeeds hgenerous platform.kernelBuffer (m := m₁)
      (loadPlan_of_collect hparse hsegments) hroom.kernel
    have hguardFree : m₂.pages stackGuardPage = some .conventional := by
      refine (hkept stackGuardPage ?_).trans hroom.stackGuard
      rwa [stackGuardPage_mul]
    obtain ⟨m₃, hreserve, hkept'⟩ := reserveStackGuard_succeeds hgenerous hguardFree
    obtain ⟨first, hfree, hapart⟩ := hroom.storage
    have hstorageFree : FreeRun m₃.pages first contractPages := hfree.congr fun page hge hlt =>
      (hkept' page (hapart page hge hlt).1).trans (hkept page (hapart page hge hlt).2)
    obtain ⟨storage, m', hstorage⟩ := allocateStorage_succeeds hgenerous hstorageFree
    refine ⟨storage, m', Action.bind_eq_ok.mpr ⟨_, m, Action.lift_eq_ok.mpr ⟨hfiles, rfl⟩, ?_⟩⟩
    refine Action.bind_eq_ok.mpr ⟨(), m₁, rfl, ?_⟩
    refine Action.bind_eq_ok.mpr ⟨elf, m₁, Action.lift_eq_ok.mpr
      ⟨Exec.mapErr_eq_ok.mpr hparse, rfl⟩, ?_⟩
    refine Action.bind_eq_ok.mpr ⟨(), m₂, ?_, ?_⟩
    · rw [loadSegments, loadSegmentsFrom_eq hsegments]
      exact hload
    · refine Action.bind_eq_ok.mpr ⟨(), m₃, hreserve, ?_⟩
      exact Action.bind_eq_ok.mpr ⟨storage, m', hstorage, rfl⟩

end PolytopeOS.Loader
