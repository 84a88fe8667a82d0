import PolytopeOS.BootContract.Validate

/-!
# Building a contract region by region

Starting from `BootInfo.new` and setting the slots in order gives
`BootInfo.ofRegions`, the contract whose active table is a given list. `Built`
is what any sequence of calls keeps, in order or not.
-/

namespace PolytopeOS.BootContract
open Corelib

namespace BootInfo

/-- The contract whose active regions are `regions`, up to the table's capacity. -/
def ofRegions (platform : PlatformInfo) (scenario : ScenarioInfo) (regions : List MemoryRegion) :
    BootInfo where
  header := { BootHeader.current with memoryRegionCount := UInt32.ofNat regions.length }
  platform := platform
  scenario := scenario
  memoryRegions := Vector.ofFn fun i : Fin maxMemoryRegions => regions.getD i .empty

variable {platform : PlatformInfo} {scenario : ScenarioInfo} {regions : List MemoryRegion}

theorem ofRegions_nil : ofRegions platform scenario [] = BootInfo.new platform scenario := by
  simp only [ofRegions, BootInfo.new, BootInfo.mk.injEq, true_and]
  refine ⟨rfl, ?_⟩
  ext i hi
  simp

theorem regionCount_ofRegions (h : regions.length ≤ maxMemoryRegions) :
    (ofRegions platform scenario regions).regionCount = regions.length := by
  have hlt : regions.length < 2 ^ 32 := lt_of_le_of_lt h (by decide)
  simp only [regionCount, ofRegions]
  exact UInt32.toNat_ofNat_of_lt' hlt

/-- Setting the slot after the last active one appends to the table. -/
theorem setMemoryRegion_ofRegions (region : MemoryRegion) (h : regions.length < maxMemoryRegions) :
    (ofRegions platform scenario regions).setMemoryRegion regions.length region =
      (.ok (), ofRegions platform scenario (regions ++ [region])) := by
  have hcount : (ofRegions platform scenario regions).header.memoryRegionCount.toNat =
      regions.length := regionCount_ofRegions h.le
  have hword : regions.length + 1 < 2 ^ 32 := lt_of_le_of_lt h (by decide)
  have htable : (ofRegions platform scenario regions).memoryRegions.set regions.length region =
      (ofRegions platform scenario (regions ++ [region])).memoryRegions := by
    ext i hi
    by_cases hlen : regions.length = i
    · subst hlen
      simp [ofRegions]
    · rw [Vector.getElem_set_ne _ _ hlen]
      simp only [ofRegions, Vector.getElem_ofFn, List.getD_eq_getElem?_getD]
      by_cases hlt : i < regions.length
      · rw [List.getElem?_append_left hlt]
      · rw [List.getElem?_eq_none (by omega), List.getElem?_eq_none (by simp; omega)]
  simp only [setMemoryRegion, dif_neg (not_le.mpr h), regionCount, hcount, htable]
  rw [if_pos (by omega), if_pos hword]
  simp [ofRegions]

theorem setMemoryRegion_full {info : BootInfo} {index : ℕ} (region : MemoryRegion)
    (h : maxMemoryRegions ≤ index) :
    info.setMemoryRegion index region = (.err (.regionIndexOutOfBounds index), info) :=
  dif_pos h

theorem toList_ofRegions (h : regions.length ≤ maxMemoryRegions) :
    (ofRegions platform scenario regions).memoryRegions.toList =
      regions ++ List.replicate (maxMemoryRegions - regions.length) .empty := by
  apply List.ext_getElem
  · simp only [Vector.length_toList, List.length_append, List.length_replicate]
    omega
  · intro i h1 h2
    simp only [Vector.getElem_toList, ofRegions, Vector.getElem_ofFn,
      List.getD_eq_getElem?_getD]
    by_cases hlt : i < regions.length
    · rw [List.getElem_append_left hlt, List.getElem?_eq_getElem hlt]
      rfl
    · rw [List.getElem_append_right (by omega), List.getElem?_eq_none (by omega)]
      simp

theorem activeRegions_ofRegions (h : regions.length ≤ maxMemoryRegions) :
    (ofRegions platform scenario regions).activeRegions = regions := by
  rw [activeRegions, regionCount_ofRegions h, toList_ofRegions h, List.take_left]

theorem contractValid_ofRegions (h : regions.length ≤ maxMemoryRegions) :
    ContractValid (ofRegions platform scenario regions) ↔
      PlatformValid platform ∧ ScenarioValid scenario ∧ ActiveValid regions := by
  have hcount : (ofRegions platform scenario regions).regionCount = regions.length :=
    regionCount_ofRegions h
  have hunused : ∀ region ∈ (ofRegions platform scenario regions).unusedRegions,
      region = .empty := by
    rw [unusedRegions, hcount, toList_ofRegions h, List.drop_left]
    intro region hregion
    exact List.eq_of_mem_replicate hregion
  have hheader : HeaderValid (ofRegions platform scenario regions).header :=
    ⟨rfl, rfl, rfl, rfl, rfl, rfl, hcount.trans_le h, rfl⟩
  constructor
  · rintro ⟨-, hplatform, hscenario, hactive, -⟩
    rw [activeRegions_ofRegions h] at hactive
    exact ⟨hplatform, hscenario, hactive⟩
  · rintro ⟨hplatform, hscenario, hactive⟩
    refine ⟨hheader, hplatform, hscenario, ?_, hunused⟩
    rw [activeRegions_ofRegions h]
    exact hactive

theorem setMemoryRegion_of_lt {info : BootInfo} {index : ℕ} (region : MemoryRegion)
    (h : index < maxMemoryRegions) :
    info.setMemoryRegion index region = (.ok (), { info with
      header := { info.header with memoryRegionCount :=
        if info.regionCount < index + 1 then UInt32.ofNat (index + 1)
        else info.header.memoryRegionCount }
      memoryRegions := info.memoryRegions.set index region h }) := by
  have hword : index + 1 < 2 ^ 32 := lt_of_le_of_lt h (by decide)
  simp only [setMemoryRegion, dif_neg (not_le.mpr h), regionCount, if_pos hword]
  by_cases hcount : info.header.memoryRegionCount.toNat < index + 1
  · simp only [hcount, if_true]
  · simp only [hcount, if_false]

/-- A call to the builder: the index and the region. -/
abbrev SetCall := ℕ × MemoryRegion

/-- The contract that a sequence of calls leaves behind. -/
def setMemoryRegions (info : BootInfo) : List SetCall → BootInfo
  | [] => info
  | call :: calls => setMemoryRegions (info.setMemoryRegion call.1 call.2).2 calls

/-- The calls of a sequence that returned `Ok`. -/
def succeeded (info : BootInfo) : List SetCall → List SetCall
  | [] => []
  | call :: calls =>
    let rest := succeeded (info.setMemoryRegion call.1 call.2).2 calls
    if (info.setMemoryRegion call.1 call.2).1 = .ok () then call :: rest else rest

/-- The last region among `calls` for the slot `i`. -/
def lastWritten (calls : List SetCall) (i : ℕ) : MemoryRegion :=
  ((calls.filter fun call => call.1 = i).getLast?.map Prod.snd).getD .empty

theorem lastWritten_concat (calls : List SetCall) (call : SetCall) (i : ℕ) :
    lastWritten (calls ++ [call]) i = if call.1 = i then call.2 else lastWritten calls i := by
  unfold lastWritten
  by_cases h : call.1 = i <;> simp [h]

theorem lastWritten_of_unset {calls : List SetCall} {i : ℕ} (h : ∀ region, (i, region) ∉ calls) :
    lastWritten calls i = .empty := by
  have hnil : (calls.filter fun call => call.1 = i) = [] := by
    rw [List.filter_eq_nil_iff]
    rintro ⟨j, region⟩ hmem hj
    exact h region (of_decide_eq_true hj ▸ hmem)
  rw [lastWritten, hnil]
  rfl

/-- What every sequence of calls keeps. `done` lists the calls that succeeded. -/
structure Built (platform : PlatformInfo) (scenario : ScenarioInfo) (done : List SetCall)
    (info : BootInfo) : Prop where
  header : info.header =
    { BootHeader.current with memoryRegionCount := info.header.memoryRegionCount }
  platform_eq : info.platform = platform
  scenario_eq : info.scenario = scenario
  count : (done = [] ∧ info.regionCount = 0) ∨
    ∃ largest, IsGreatest {i | ∃ region, (i, region) ∈ done} largest ∧
      info.regionCount = largest + 1
  slot : ∀ i (h : i < maxMemoryRegions), info.memoryRegions[i] = lastWritten done i
  inRange : ∀ call ∈ done, call.1 < maxMemoryRegions

theorem built_new (platform : PlatformInfo) (scenario : ScenarioInfo) :
    Built platform scenario [] (BootInfo.new platform scenario) where
  header := rfl
  platform_eq := rfl
  scenario_eq := rfl
  count := Or.inl ⟨rfl, rfl⟩
  slot i h := by
    rw [lastWritten_of_unset (by simp)]
    exact Vector.getElem_replicate h
  inRange := by simp

section
variable {done : List SetCall} {info : BootInfo}

/-- The count after a call is the old one or the call's own. -/
theorem regionCount_setMemoryRegion {index : ℕ} (region : MemoryRegion)
    (h : index < maxMemoryRegions) :
    (info.setMemoryRegion index region).2.regionCount = max info.regionCount (index + 1) := by
  have hword : index + 1 < 2 ^ 32 := lt_of_le_of_lt h (by decide)
  rw [setMemoryRegion_of_lt region h]
  by_cases hcount : info.regionCount < index + 1
  · simp only [hcount, if_true]
    exact (UInt32.toNat_ofNat_of_lt' hword).trans (by omega)
  · simp only [hcount, if_false]
    exact (max_eq_left (not_lt.mp hcount)).symm

theorem Built.step (hbuilt : Built platform scenario done info) {index : ℕ} (region : MemoryRegion)
    (h : index < maxMemoryRegions) :
    Built platform scenario (done ++ [(index, region)]) (info.setMemoryRegion index region).2 where
  header := by
    rw [setMemoryRegion_of_lt region h, hbuilt.header]
  platform_eq := by
    rw [setMemoryRegion_of_lt region h]
    exact hbuilt.platform_eq
  scenario_eq := by
    rw [setMemoryRegion_of_lt region h]
    exact hbuilt.scenario_eq
  count := by
    right
    rw [regionCount_setMemoryRegion region h]
    rcases hbuilt.count with ⟨rfl, hzero⟩ | ⟨largest, ⟨hmem, hbound⟩, hcount⟩
    · refine ⟨index, ⟨⟨region, by simp⟩, ?_⟩, by omega⟩
      rintro i ⟨r, hr⟩
      simp only [List.nil_append, List.mem_singleton, Prod.mk.injEq] at hr
      exact hr.1.le
    · refine ⟨max largest index, ⟨?_, ?_⟩, by omega⟩
      · rcases le_total largest index with hle | hle
        · exact ⟨region, by simp [max_eq_right hle]⟩
        · obtain ⟨r, hr⟩ := hmem
          exact ⟨r, List.mem_append_left _ (by rwa [max_eq_left hle])⟩
      · rintro i ⟨r, hr⟩
        rcases List.mem_append.mp hr with hr | hr
        · exact le_max_of_le_left (hbound ⟨r, hr⟩)
        · simp only [List.mem_singleton, Prod.mk.injEq] at hr
          exact le_max_of_le_right hr.1.le
  slot i hi := by
    rw [lastWritten_concat, setMemoryRegion_of_lt region h]
    simp only [Vector.getElem_set, hbuilt.slot i hi]
  inRange call hcall := by
    rcases List.mem_append.mp hcall with hcall | hcall
    · exact hbuilt.inRange call hcall
    · rw [List.mem_singleton.mp hcall]
      exact h

theorem Built.run (hbuilt : Built platform scenario done info) (calls : List SetCall) :
    Built platform scenario (done ++ succeeded info calls) (setMemoryRegions info calls) := by
  induction calls generalizing done info with
  | nil => simpa [succeeded, setMemoryRegions] using hbuilt
  | cons call calls ih =>
    by_cases h : call.1 < maxMemoryRegions
    · have hok : (info.setMemoryRegion call.1 call.2).1 = .ok () := by
        rw [setMemoryRegion_of_lt call.2 h]
      have hrun := ih (hbuilt.step call.2 h)
      rw [List.append_assoc, List.singleton_append] at hrun
      simpa only [succeeded, hok, if_true, setMemoryRegions] using hrun
    · -- a failing call leaves both the contract and the log as they were
      have hfull : info.setMemoryRegion call.1 call.2 = _ :=
        setMemoryRegion_full call.2 (not_lt.mp h)
      simpa only [succeeded, setMemoryRegions, hfull, reduceCtorEq, if_false] using ih hbuilt

theorem Built.regionCount_le (hbuilt : Built platform scenario done info) :
    info.regionCount ≤ maxMemoryRegions := by
  rcases hbuilt.count with ⟨-, hzero⟩ | ⟨largest, ⟨⟨region, hmem⟩, -⟩, hcount⟩
  · rw [hzero]
    exact Nat.zero_le _
  · have := hbuilt.inRange _ hmem
    omega

theorem Built.slot_unused (hbuilt : Built platform scenario done info) {i : ℕ}
    (hi : i < maxMemoryRegions) (h : info.regionCount ≤ i) : info.memoryRegions[i] = .empty := by
  rw [hbuilt.slot i hi]
  apply lastWritten_of_unset
  intro region hmem
  rcases hbuilt.count with ⟨rfl, -⟩ | ⟨largest, ⟨-, hbound⟩, hcount⟩
  · simp at hmem
  · have : i ≤ largest := hbound ⟨region, hmem⟩
    omega

theorem Built.validateHeader_ok (hbuilt : Built platform scenario done info) :
    validateHeader info.header = .ok () := by
  have hcount := hbuilt.regionCount_le
  rw [validateHeader_eq_ok, hbuilt.header]
  exact ⟨rfl, rfl, rfl, rfl, rfl, rfl, hcount, rfl⟩

theorem Built.validate_err (hbuilt : Built platform scenario done info) {e : ValidationError}
    (h : info.validate = .err e) :
    e.subject ≠ .header ∧ ∀ i, e ≠ .nonZeroUnusedMemoryRegion i := by
  have hregions : ∀ i, ValidationError.subject (.nonZeroUnusedMemoryRegion i) = .regions :=
    fun _ => rfl
  rcases validateRef_eq_err.mp (BootInfo.validate_eq_err.mp h) with h | ⟨-, h | ⟨-, h | ⟨-, h⟩⟩⟩
  · rw [hbuilt.validateHeader_ok] at h
    simp at h
  · have hsubject := validatePlatform_fails _ e h
    exact ⟨by simp [hsubject], fun i hi => by simp [hi, hregions] at hsubject⟩
  · have hsubject := validateScenario_fails _ e h
    exact ⟨by simp [hsubject], fun i hi => by simp [hi, hregions] at hsubject⟩
  · have hsubject := validateRegions_fails _ e h
    refine ⟨by simp [hsubject], ?_⟩
    have hbad : ¬RegionsValid info := by
      rw [← validateRegions_eq_ok hbuilt.regionCount_le, h]
      simp
    obtain ⟨e', i, herr, -, hrejected⟩ := validateRegions_eq_err hbuilt.regionCount_le hbad
    rw [h] at herr
    rw [Exec.err.inj herr]
    rcases hrejected with ⟨-, hne⟩ | ⟨-, -, ⟨hi, region, hslot, hne⟩, -⟩
    · exact hne
    · -- the slots from the count on are empty, so the second loop has nothing to report
      obtain ⟨hlt, hget⟩ := List.getElem?_eq_some_iff.mp hslot
      rw [Vector.length_toList] at hlt
      rw [Vector.getElem_toList, hbuilt.slot_unused hlt hi] at hget
      exact absurd hget.symm hne

theorem Built.validate_skipped (hbuilt : Built platform scenario done info) {i : ℕ}
    (hi : i < info.regionCount) (hskipped : ∀ region, (i, region) ∉ done) :
    ∃ e, info.validate = .err e ∧ (e = .activeMemoryRegionIsEmpty i ∨ e.subject = .platform ∨
      e.subject = .scenario ∨ ∃ j < i, e.regionIndex = some j) := by
  have hcount := hbuilt.regionCount_le
  have hslot : info.activeRegions[i]? = some .empty := by
    rw [activeRegions, List.getElem?_take_of_lt hi, List.getElem?_eq_getElem (by simp; omega),
      Vector.getElem_toList, hbuilt.slot i (by omega), lastWritten_of_unset hskipped]
  obtain ⟨e, hregions, he⟩ := validateRegions_of_empty hcount hslot
  simp only [BootInfo.validate_eq_err, validateRef_eq_err]
  cases hplatform : validatePlatform info.platform with
  | err e' =>
    have hsubject := validatePlatform_fails _ e' hplatform
    exact ⟨e', Or.inr ⟨hbuilt.validateHeader_ok, Or.inl rfl⟩, Or.inr (Or.inl hsubject)⟩
  | panic => exact absurd hplatform (validatePlatform_ne_panic _)
  | ok u =>
    cases hscenario : validateScenario info.scenario with
    | err e' =>
      have hsubject := validateScenario_fails _ e' hscenario
      exact ⟨e', Or.inr ⟨hbuilt.validateHeader_ok, Or.inr ⟨rfl, Or.inl rfl⟩⟩,
        Or.inr (Or.inr (Or.inl hsubject))⟩
    | panic => exact absurd hscenario (validateScenario_ne_panic _)
    | ok u =>
      refine ⟨e, Or.inr ⟨hbuilt.validateHeader_ok, Or.inr ⟨rfl, Or.inr ⟨rfl, hregions⟩⟩⟩, ?_⟩
      exact he.imp_right fun h => Or.inr (Or.inr h)

end

/-- Whatever the calls, in whatever order: the builder's contract is canonical. -/
theorem builder_canonical (platform : PlatformInfo) (scenario : ScenarioInfo)
    (calls : List SetCall) :
    let info := setMemoryRegions (BootInfo.new platform scenario) calls
    let done := succeeded (BootInfo.new platform scenario) calls
    ((done = [] ∧ info.regionCount = 0) ∨
      ∃ largest, IsGreatest {i | ∃ region, (i, region) ∈ done} largest ∧
        info.regionCount = largest + 1) ∧
    info.regionCount ≤ maxMemoryRegions ∧
    (∀ i (h : i < maxMemoryRegions), info.memoryRegions[i] = lastWritten done i) ∧
    (∀ i (h : i < maxMemoryRegions), info.regionCount ≤ i → info.memoryRegions[i] = .empty) ∧
    (∀ index region, (info.setMemoryRegion index region).1 ≠ .ok () →
      (info.setMemoryRegion index region).2 = info) ∧
    info.header = { BootHeader.current with memoryRegionCount := info.header.memoryRegionCount } ∧
    info.platform = platform ∧ info.scenario = scenario ∧
    (∀ e, info.validate = .err e →
      e.subject ≠ .header ∧ ∀ i, e ≠ .nonZeroUnusedMemoryRegion i) ∧
    (∀ i < info.regionCount, (∀ region, (i, region) ∉ done) →
      ∃ e, info.validate = .err e ∧ (e = .activeMemoryRegionIsEmpty i ∨ e.subject = .platform ∨
        e.subject = .scenario ∨ ∃ j < i, e.regionIndex = some j)) := by
  intro info done
  have hbuilt : Built platform scenario done info := by
    have hrun := (built_new platform scenario).run calls
    rwa [List.nil_append] at hrun
  refine ⟨hbuilt.count, hbuilt.regionCount_le, hbuilt.slot, fun i h => hbuilt.slot_unused h, ?_,
    hbuilt.header, hbuilt.platform_eq, hbuilt.scenario_eq, fun e => hbuilt.validate_err,
    fun i => hbuilt.validate_skipped⟩
  intro index region hfails
  by_cases h : index < maxMemoryRegions
  · rw [setMemoryRegion_of_lt region h] at hfails
    exact absurd rfl hfails
  · rw [setMemoryRegion_full region (not_lt.mp h)]

/-- Slot 1 is set, slot 0 skipped and the index 200 refused. -/
def skippingCalls : List SetCall :=
  [(200, ⟨0, 4096, .usable, 7, 0⟩), (1, ⟨0, 4096, .usable, 7, 0⟩)]

theorem builder_canonical_skipping :
    (setMemoryRegions (BootInfo.new (.x86_64_uefi 0) .normal) skippingCalls).regionCount = 2 ∧
      ∃ e, (setMemoryRegions (BootInfo.new (.x86_64_uefi 0) .normal) skippingCalls).validate =
        .err e := by
  have hcount :
      (setMemoryRegions (BootInfo.new (.x86_64_uefi 0) .normal) skippingCalls).regionCount = 2 := by
    decide +kernel
  have hdone : succeeded (BootInfo.new (.x86_64_uefi 0) .normal) skippingCalls =
      [(1, ⟨0, 4096, .usable, 7, 0⟩)] := by
    decide +kernel
  obtain ⟨-, -, -, -, -, -, -, -, -, hskipped⟩ :=
    builder_canonical (.x86_64_uefi 0) .normal skippingCalls
  obtain ⟨e, he, -⟩ := hskipped 0 (by rw [hcount]; decide) (by rw [hdone]; simp)
  exact ⟨hcount, e, he⟩

end BootInfo

end PolytopeOS.BootContract
