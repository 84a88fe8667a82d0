import Mathlib.Order.Bounds.Basic
import PolytopeOS.Corelib.Ranges
import PolytopeOS.Corelib.Word
import PolytopeOS.BootContract.Types

/-!
# Contract validation

`validateRef` is the source's chain of early exits. `ContractValid` states the
invariants it is meant to enforce, over unbounded integers and over every pair
of active regions; the loop of `validateRegions` remembers only the previous
region. The main result is that the two agree, and that a rejected region table
is reported at the least index where it stops being valid.
-/

namespace PolytopeOS.BootContract
open Corelib

def validateHeader (header : BootHeader) : Exec ValidationError Unit :=
  if header.magic ≠ bootMagic then .err .badMagic
  else if (header.abiMajor, header.abiMinor) ≠ (abiMajor, abiMinor) then
    .err (.unsupportedVersion header.abiMajor header.abiMinor)
  else if header.headerSize ≠ bootHeaderSizeU32 then
    .err (.headerSize header.headerSize bootHeaderSizeU32)
  else if header.totalSize ≠ bootInfoSizeU32 then
    .err (.totalSize header.totalSize bootInfoSizeU32)
  else if header.memoryRegionSize ≠ memoryRegionSizeU32 then
    .err (.memoryRegionSize header.memoryRegionSize memoryRegionSizeU32)
  else if header.memoryRegionCount > maxMemoryRegionsU32 then
    .err (.tooManyMemoryRegions header.memoryRegionCount maxMemoryRegionsU32)
  else if header.flags &&& ~~~knownHeaderFlags ≠ 0 then
    .err (.unknownHeaderFlags header.flags)
  else .ok ()

def validatePlatform (platform : PlatformInfo) : Exec ValidationError Unit :=
  if platform.firmware ≠ .uefi then .err (.unsupportedFirmware platform.firmware.raw)
  else if platform.architecture ≠ .x86_64 then
    .err (.unsupportedArchitecture platform.architecture.raw)
  else if platform.flags &&& ~~~knownPlatformFlags ≠ 0 then
    .err (.unknownPlatformFlags platform.flags)
  else if ¬(platform.flags &&& platformFlagRsdpPresent ≠ 0) then
    if platform.rsdpAddress ≠ 0 ∨ platform.rsdpLength ≠ 0 then .err .inconsistentRsdpPresence
    else .ok ()
  else
    let validLength := minRsdpLength ≤ platform.rsdpLength ∧ platform.rsdpLength ≤ maxRsdpLength
    let validAddress := platform.rsdpAddress ≠ 0 ∧ platform.rsdpAddress % 16 = 0
    let hasEnd := (checkedAdd platform.rsdpAddress platform.rsdpLength.toUInt64).isSome
    if ¬validLength ∨ ¬validAddress ∨ ¬hasEnd then
      .err (.invalidRsdpRange platform.rsdpAddress platform.rsdpLength)
    else .ok ()

def validateScenario (scenario : ScenarioInfo) : Exec ValidationError Unit :=
  if ¬(0 ≤ scenario.kind.raw ∧ scenario.kind.raw ≤ 3) then
    .err (.unknownScenario scenario.kind.raw)
  else if scenario.flags &&& ~~~knownScenarioFlags ≠ 0 then
    .err (.unknownScenarioFlags scenario.flags)
  else if scenario.kind = .normal then
    if scenario.flags ≠ 0 ∨ scenario.argument ≠ 0 then .err .normalScenarioHasTestState
    else .ok ()
  else if scenario.flags &&& scenarioFlagTestOnly = 0 then
    .err (.scenarioNotMarkedTestOnly scenario.kind.raw)
  else .ok ()

/-- The checks of the loop body that look at one region; the value is its end. -/
def validateRegion (index : ℕ) (region : MemoryRegion) : Exec ValidationError UInt64 :=
  if region.kind = .empty then .err (.activeMemoryRegionIsEmpty index)
  else if !region.kind.isKnown then .err (.unknownMemoryKind index region.kind.raw)
  else if region.length = 0 then .err (.emptyMemoryRegion index)
  else if region.start % pageSize ≠ 0 ∨ region.length % pageSize ≠ 0 then
    .err (.unalignedMemoryRegion index region.start region.length)
  else Exec.okOr (checkedAdd region.start region.length) (.memoryRegionOverflow index)

/-- The checks of the loop body against the region before this one. -/
def validateOrder (index : ℕ) (region : MemoryRegion) :
    Option (ℕ × UInt64 × UInt64) → Exec ValidationError Unit
  | none => .ok ()
  | some (previousIndex, previousStart, previousEnd) =>
    if region.start < previousStart then .err (.unsortedMemoryRegions previousIndex index)
    else if region.start < previousEnd then .err (.overlappingMemoryRegions previousIndex index)
    else .ok ()

def validateActiveStep (index : ℕ) (previous : Option (ℕ × UInt64 × UInt64))
    (region : MemoryRegion) : Exec ValidationError (Option (ℕ × UInt64 × UInt64)) := do
  let regionEnd ← validateRegion index region
  validateOrder index region previous
  return some (index, region.start, regionEnd)

def validateUnusedStep (count : ℕ) (offset : ℕ) (_ : Unit) (region : MemoryRegion) :
    Exec ValidationError Unit :=
  if region ≠ .empty then .err (.nonZeroUnusedMemoryRegion (count + offset)) else .ok ()

def validateRegions (info : BootInfo) : Exec ValidationError Unit :=
  -- `info.memory_regions[..count]` panics when the count exceeds the array
  if maxMemoryRegions < info.regionCount then .panic
  else do
    let _ ← Exec.foldIdx validateActiveStep 0 none info.activeRegions
    Exec.foldIdx (validateUnusedStep info.regionCount) 0 () info.unusedRegions

def validateRef (info : BootInfo) : Exec ValidationError Unit := do
  validateHeader info.header
  validatePlatform info.platform
  validateScenario info.scenario
  validateRegions info

/-- A contract that passed `validateRef`; no other value of this type exists. -/
structure ValidatedBootInfo where
  info : BootInfo
  validated : validateRef info = .ok ()

def BootInfo.validate (info : BootInfo) : Exec ValidationError ValidatedBootInfo :=
  match h : validateRef info with
  | .ok () => .ok ⟨info, h⟩
  | .err e => .err e
  | .panic => .panic

/-- `ValidatedBootInfo::memory_regions`. -/
def ValidatedBootInfo.memoryRegions (validated : ValidatedBootInfo) : List MemoryRegion :=
  validated.info.activeRegions

theorem BootInfo.validate_eq_ok {info : BootInfo} {v : ValidatedBootInfo} :
    info.validate = .ok v ↔ validateRef info = .ok () ∧ v.info = info := by
  unfold BootInfo.validate
  split
  · next h =>
    simp only [Exec.ok.injEq, h, true_and]
    constructor
    · rintro rfl
      rfl
    · rintro rfl
      rfl
  · next h => simp [h]
  · next h => simp [h]

theorem BootInfo.validate_eq_err {info : BootInfo} {e : ValidationError} :
    info.validate = .err e ↔ validateRef info = .err e := by
  unfold BootInfo.validate
  split <;> simp_all

def HeaderValid (header : BootHeader) : Prop :=
  header.magic = bootMagic ∧ header.abiMajor = 1 ∧ header.abiMinor = 0 ∧
    header.headerSize = 32 ∧ header.totalSize = 4176 ∧ header.memoryRegionSize = 32 ∧
    header.memoryRegionCount.toNat ≤ 128 ∧ header.flags = 0
  deriving Decidable

def PlatformValid (platform : PlatformInfo) : Prop :=
  platform.firmware = .uefi ∧ platform.architecture = .x86_64 ∧
    ((platform.flags = 0 ∧ platform.rsdpAddress = 0 ∧ platform.rsdpLength = 0) ∨
      (platform.flags = 1 ∧ 20 ≤ platform.rsdpLength.toNat ∧ platform.rsdpLength.toNat ≤ 4096 ∧
        platform.rsdpAddress ≠ 0 ∧ platform.rsdpAddress.toNat % 16 = 0 ∧
        platform.rsdpAddress.toNat + platform.rsdpLength.toNat < 2 ^ 64))
  deriving Decidable

def ScenarioValid (scenario : ScenarioInfo) : Prop :=
  (scenario.kind.raw = 0 ∧ scenario.flags = 0 ∧ scenario.argument = 0) ∨
    (1 ≤ scenario.kind.raw.toNat ∧ scenario.kind.raw.toNat ≤ 3 ∧ scenario.flags = 1)
  deriving Decidable

def RegionValid (region : MemoryRegion) : Prop :=
  1 ≤ region.kind.raw.toNat ∧ region.kind.raw.toNat ≤ 9 ∧ region.length ≠ 0 ∧
    region.start.toNat % 4096 = 0 ∧ region.length.toNat % 4096 = 0 ∧
    region.endNat < 2 ^ 64
  deriving Decidable

/-- Every region is well formed and ends before every later one starts. -/
def ActiveValid (regions : List MemoryRegion) : Prop :=
  (∀ region ∈ regions, RegionValid region) ∧
    regions.Pairwise (fun earlier later => earlier.endNat ≤ later.start.toNat)
  deriving Decidable

/-- The region table: the active slots are valid and the others all zero. -/
def RegionsValid (info : BootInfo) : Prop :=
  ActiveValid info.activeRegions ∧ ∀ region ∈ info.unusedRegions, region = .empty
  deriving Decidable

structure ContractValid (info : BootInfo) : Prop where
  header : HeaderValid info.header
  platform : PlatformValid info.platform
  scenario : ScenarioValid info.scenario
  regions : RegionsValid info

instance (info : BootInfo) : Decidable (ContractValid info) :=
  decidable_of_iff (HeaderValid info.header ∧ PlatformValid info.platform ∧
      ScenarioValid info.scenario ∧ RegionsValid info)
    ⟨fun h => ⟨h.1, h.2.1, h.2.2.1, h.2.2.2⟩, fun h => ⟨h.1, h.2, h.3, h.4⟩⟩

theorem validateHeader_eq_ok {header : BootHeader} :
    validateHeader header = .ok () ↔ HeaderValid header := by
  have hcount : header.memoryRegionCount > maxMemoryRegionsU32 ↔
      ¬header.memoryRegionCount.toNat ≤ 128 := by
    rw [gt_iff_lt, UInt32.lt_iff_toNat_lt, not_le]
    rfl
  have hflags : header.flags &&& ~~~knownHeaderFlags = 0 ↔ header.flags = 0 := by
    simp [knownHeaderFlags]
  simp only [validateHeader, HeaderValid, Exec.ite_err_eq_ok, hcount, ne_eq, hflags, not_not,
    Prod.mk.injEq, and_true, and_assoc]
  rfl

theorem validateHeader_fails (header : BootHeader) :
    (validateHeader header).Fails fun e => e.subject = .header := by
  unfold validateHeader
  iterate 7 refine Exec.Fails.ite_err rfl ?_
  exact nofun

theorem validateHeader_ne_panic (header : BootHeader) : validateHeader header ≠ .panic := by
  unfold validateHeader
  split_ifs <;> simp

theorem validatePlatform_eq_ok {platform : PlatformInfo} :
    validatePlatform platform = .ok () ↔ PlatformValid platform := by
  have hknown : platform.flags &&& ~~~knownPlatformFlags = 0 ↔
      platform.flags = 0 ∨ platform.flags = 1 := and_not_one_eq_zero64
  have hend : (checkedAdd platform.rsdpAddress platform.rsdpLength.toUInt64).isSome ↔
      platform.rsdpAddress.toNat + platform.rsdpLength.toNat < 2 ^ 64 := by
    simp [checkedAdd]
  have hlen : minRsdpLength ≤ platform.rsdpLength ∧ platform.rsdpLength ≤ maxRsdpLength ↔
      20 ≤ platform.rsdpLength.toNat ∧ platform.rsdpLength.toNat ≤ 4096 := Iff.rfl
  have halign : platform.rsdpAddress % 16 = 0 ↔ platform.rsdpAddress.toNat % 16 = 0 :=
    word_mod_eq_zero
  simp only [validatePlatform, PlatformValid, Exec.ite_err_eq_ok, ne_eq, not_not, hknown, hend,
    hlen, halign]
  refine and_congr_right fun _ => and_congr_right fun _ => ?_
  constructor
  · rintro ⟨hzero | hone, h⟩
    · rw [hzero, if_pos (by decide)] at h
      simp only [Exec.ite_err_eq_ok, not_or, not_not, and_true] at h
      exact Or.inl ⟨hzero, h⟩
    · rw [hone, if_neg (by decide)] at h
      simp only [Exec.ite_err_eq_ok, not_or, not_not, and_true, and_assoc] at h
      exact Or.inr ⟨hone, h⟩
  · rintro (⟨hzero, h⟩ | ⟨hone, h⟩)
    · refine ⟨Or.inl hzero, ?_⟩
      rw [hzero, if_pos (by decide)]
      simp only [Exec.ite_err_eq_ok, not_or, not_not, and_true]
      exact h
    · refine ⟨Or.inr hone, ?_⟩
      rw [hone, if_neg (by decide)]
      simp only [Exec.ite_err_eq_ok, not_or, not_not, and_true, and_assoc]
      exact h

theorem validateScenario_eq_ok {scenario : ScenarioInfo} :
    validateScenario scenario = .ok () ↔ ScenarioValid scenario := by
  have hknown : scenario.flags &&& ~~~knownScenarioFlags = 0 ↔
      scenario.flags = 0 ∨ scenario.flags = 1 := and_not_one_eq_zero32
  have hkind : (0 ≤ scenario.kind.raw ∧ scenario.kind.raw ≤ 3) ↔ scenario.kind.raw.toNat ≤ 3 := by
    rw [UInt32.le_iff_toNat_le, UInt32.le_iff_toNat_le]
    exact and_iff_right (Nat.zero_le _)
  have hnormal : scenario.kind = .normal ↔ scenario.kind.raw = 0 := by
    cases scenario.kind
    simp [ScenarioKind.normal]
  have hraw : scenario.kind.raw = 0 ↔ scenario.kind.raw.toNat = 0 := by
    rw [← UInt32.toNat_inj]
    rfl
  have htest : scenario.flags = 0 ∨ scenario.flags = 1 →
      (scenario.flags &&& scenarioFlagTestOnly = 0 ↔ scenario.flags = 0) := by
    rintro (h | h) <;> rw [h] <;> decide
  simp only [validateScenario, ScenarioValid, Exec.ite_err_eq_ok, ne_eq, not_not, hkind, hknown,
    hnormal]
  by_cases hzero : scenario.kind.raw = 0
  · -- the normal scenario carries no test state
    have hn := hraw.mp hzero
    simp only [hzero, if_true, Exec.ite_err_eq_ok, not_or, not_not, and_true, true_and]
    constructor
    · rintro ⟨-, -, h⟩
      exact Or.inl h
    · rintro (h | h)
      · exact ⟨by decide, Or.inl h.1, h⟩
      · exact absurd h.1 (by decide)
  · have hn := mt hraw.mpr hzero
    simp only [hzero, if_false, Exec.ite_err_eq_ok, false_and, false_or, and_true]
    constructor
    · rintro ⟨hle, hflags, h⟩
      exact ⟨by omega, hle, hflags.resolve_left (mt (htest hflags).mpr h)⟩
    · rintro ⟨_, hle, hone⟩
      refine ⟨hle, Or.inr hone, ?_⟩
      rw [htest (Or.inr hone), hone]
      decide

theorem validatePlatform_ne_panic (platform : PlatformInfo) :
    validatePlatform platform ≠ .panic := by
  simp only [validatePlatform]
  split_ifs <;> simp

theorem validateScenario_ne_panic (scenario : ScenarioInfo) :
    validateScenario scenario ≠ .panic := by
  unfold validateScenario
  split_ifs <;> simp

theorem validatePlatform_fails (platform : PlatformInfo) :
    (validatePlatform platform).Fails fun e => e.subject = .platform := by
  unfold validatePlatform
  iterate 3 refine Exec.Fails.ite_err rfl ?_
  split
  · exact Exec.Fails.ite_err rfl nofun
  · exact Exec.Fails.ite_err rfl nofun

theorem validateScenario_fails (scenario : ScenarioInfo) :
    (validateScenario scenario).Fails fun e => e.subject = .scenario := by
  unfold validateScenario
  iterate 2 refine Exec.Fails.ite_err rfl ?_
  split
  · exact Exec.Fails.ite_err rfl nofun
  · exact Exec.Fails.ite_err rfl nofun

theorem isKnown_iff {kind : MemoryKind} :
    kind.isKnown = true ↔ 1 ≤ kind.raw.toNat ∧ kind.raw.toNat ≤ 9 := by
  simp only [MemoryKind.isKnown, Bool.and_eq_true, decide_eq_true_eq, UInt32.le_iff_toNat_le]
  rfl

theorem validateRegion_eq_ok {index : ℕ} {region : MemoryRegion} {regionEnd : UInt64} :
    validateRegion index region = .ok regionEnd ↔
      RegionValid region ∧ regionEnd.toNat = region.endNat := by
  have hend := regionEnd.toNat_lt
  have hempty : region.kind = .empty → region.kind.isKnown = false := by
    intro h
    rw [h]
    decide
  have hstart : region.start % pageSize = 0 ↔ region.start.toNat % 4096 = 0 := word_mod_eq_zero
  have hlength : region.length % pageSize = 0 ↔ region.length.toNat % 4096 = 0 :=
    word_mod_eq_zero
  simp only [validateRegion, Exec.ite_err_eq_ok, Exec.okOr_eq_ok, checkedAdd_eq_some, RegionValid,
    ne_eq, not_or, not_not, Bool.not_eq_true', Bool.not_eq_false, hstart, hlength]
  constructor
  · rintro ⟨-, hknown, hne, ⟨hs, hl⟩, he⟩
    obtain ⟨h1, h9⟩ := isKnown_iff.mp hknown
    exact ⟨⟨h1, h9, hne, hs, hl, by rw [MemoryRegion.endNat, ← he]; exact hend⟩, he⟩
  · rintro ⟨⟨h1, h9, hne, hs, hl, -⟩, he⟩
    have hknown := isKnown_iff.mpr ⟨h1, h9⟩
    refine ⟨fun h => ?_, hknown, hne, ⟨hs, hl⟩, he⟩
    rw [hempty h] at hknown
    exact Bool.false_ne_true hknown

theorem validateRegion_eq_err {index : ℕ} {region : MemoryRegion} {e : ValidationError}
    (h : validateRegion index region = .err e) :
    e.regionIndex = some index ∧ ∀ i, e ≠ .nonZeroUnusedMemoryRegion i := by
  unfold validateRegion at h
  split_ifs at h
  all_goals try (simp only [Exec.err.injEq] at h; subst h; exact ⟨rfl, by simp⟩)
  unfold Exec.okOr at h
  split at h
  · simp at h
  · simp only [Exec.err.injEq] at h
    subst h
    exact ⟨rfl, by simp⟩

/-- What the loop remembers after the regions `seen`. -/
def previousOf (seen : List MemoryRegion) : Option (ℕ × UInt64 × UInt64) :=
  seen.getLast?.map fun region => (seen.length - 1, region.start, region.start + region.length)

theorem RegionValid.toNat_end {region : MemoryRegion} (h : RegionValid region) :
    (region.start + region.length).toNat = region.endNat := by
  rw [UInt64.toNat_add]
  exact Nat.mod_eq_of_lt h.2.2.2.2.2

theorem activeValid_concat {seen : List MemoryRegion} {region : MemoryRegion}
    (hseen : ActiveValid seen) :
    ActiveValid (seen ++ [region]) ↔ RegionValid region ∧
      ∀ last, seen.getLast? = some last → last.endNat ≤ region.start.toNat := by
  have hle : ∀ x ∈ seen, x.start.toNat ≤ x.endNat := fun x _ => Nat.le_add_right _ _
  rw [← pairwise_concat_iff_last (fun x => x.start.toNat) MemoryRegion.endNat hle hseen.2]
  constructor
  · rintro ⟨hall, hpair⟩
    exact ⟨hall region (by simp), hpair⟩
  · rintro ⟨hregion, hpair⟩
    refine ⟨?_, hpair⟩
    intro x hx
    rcases List.mem_append.mp hx with h | h
    · exact hseen.1 x h
    · rw [List.mem_singleton.mp h]
      exact hregion

theorem validateOrder_spec {seen : List MemoryRegion} (region : MemoryRegion)
    (hseen : ActiveValid seen) :
    ((∀ last, seen.getLast? = some last → last.endNat ≤ region.start.toNat) ∧
      validateOrder seen.length region (previousOf seen) = .ok ()) ∨
    (¬(∀ last, seen.getLast? = some last → last.endNat ≤ region.start.toNat) ∧
      ∃ e, validateOrder seen.length region (previousOf seen) = .err e ∧
        e.regionIndex = some seen.length ∧ ∀ i, e ≠ .nonZeroUnusedMemoryRegion i) := by
  cases hlast : seen.getLast? with
  | none =>
    left
    simp [previousOf, hlast, validateOrder]
  | some last =>
    have hvalid := hseen.1 last (List.mem_of_getLast? hlast)
    have hnat := hvalid.toNat_end
    have hle : last.start.toNat ≤ last.endNat := Nat.le_add_right _ _
    simp only [previousOf, hlast, Option.map_some, validateOrder, UInt64.lt_iff_toNat_lt, hnat,
      Option.some.injEq, forall_eq']
    by_cases hend : last.endNat ≤ region.start.toNat
    · left
      rw [if_neg (by omega), if_neg (by omega)]
      exact ⟨hend, rfl⟩
    · right
      refine ⟨hend, ?_⟩
      by_cases hstart : region.start.toNat < last.start.toNat
      · rw [if_pos hstart]
        exact ⟨_, rfl, rfl, by simp⟩
      · rw [if_neg hstart, if_pos (by omega)]
        exact ⟨_, rfl, rfl, by simp⟩

/-- One iteration extends a valid table or reports its own index. -/
theorem validateActiveStep_spec (seen : List MemoryRegion) (region : MemoryRegion)
    (hseen : ActiveValid seen) :
    (ActiveValid (seen ++ [region]) ∧
      validateActiveStep (0 + seen.length) (previousOf seen) region =
        .ok (previousOf (seen ++ [region]))) ∨
    (¬ActiveValid (seen ++ [region]) ∧
      ∃ e, validateActiveStep (0 + seen.length) (previousOf seen) region = .err e ∧
        e.regionIndex = some seen.length ∧ ∀ i, e ≠ .nonZeroUnusedMemoryRegion i) := by
  rw [Nat.zero_add, activeValid_concat hseen]
  unfold validateActiveStep
  cases hregion : validateRegion seen.length region with
  | ok regionEnd =>
    obtain ⟨hvalid, hend⟩ := validateRegion_eq_ok.mp hregion
    have hword : regionEnd = region.start + region.length := by
      rw [← UInt64.toNat_inj, hend, hvalid.toNat_end]
    rcases validateOrder_spec region hseen with ⟨horder, hok⟩ | ⟨horder, e, herr, he⟩
    · refine Or.inl ⟨⟨hvalid, horder⟩, ?_⟩
      rw [Exec.ok_bind, hok, Exec.ok_bind, hword]
      simp [previousOf]
    · exact Or.inr ⟨fun h => horder h.2, e, by simp [herr], he⟩
  | err e =>
    refine Or.inr ⟨fun h => ?_, e, rfl, validateRegion_eq_err hregion⟩
    have hok : validateRegion seen.length region = .ok (region.start + region.length) :=
      validateRegion_eq_ok.mpr ⟨h.1, h.1.toNat_end⟩
    simp [hok] at hregion
  | panic =>
    exfalso
    unfold validateRegion Exec.okOr at hregion
    split_ifs at hregion
    split at hregion <;> simp at hregion

theorem validateActive_spec (regions : List MemoryRegion) :
    (ActiveValid regions ∧
      Exec.foldIdx validateActiveStep 0 none regions = .ok (previousOf regions)) ∨
    (∃ seen region rest e, regions = seen ++ region :: rest ∧ ActiveValid seen ∧
      ¬ActiveValid (seen ++ [region]) ∧ Exec.foldIdx validateActiveStep 0 none regions = .err e ∧
      e.regionIndex = some seen.length ∧ ∀ i, e ≠ .nonZeroUnusedMemoryRegion i) :=
  Exec.foldIdx_spec validateActiveStep ActiveValid previousOf
    (fun index (e : ValidationError) =>
      e.regionIndex = some index ∧ ∀ i, e ≠ .nonZeroUnusedMemoryRegion i)
    ⟨by simp, List.Pairwise.nil⟩ validateActiveStep_spec regions

theorem validateUnused_spec (count : ℕ) (regions : List MemoryRegion) :
    ((∀ region ∈ regions, region = .empty) ∧
      Exec.foldIdx (validateUnusedStep count) 0 () regions = .ok ()) ∨
    (∃ seen region rest e, regions = seen ++ region :: rest ∧
      (∀ r ∈ seen, r = MemoryRegion.empty) ∧ ¬(∀ r ∈ seen ++ [region], r = MemoryRegion.empty) ∧
      Exec.foldIdx (validateUnusedStep count) 0 () regions = .err e ∧
      e = .nonZeroUnusedMemoryRegion (count + seen.length)) := by
  refine Exec.foldIdx_spec (validateUnusedStep count)
    (fun seen => ∀ r ∈ seen, r = MemoryRegion.empty) (fun _ => ())
    (fun index e => e = ValidationError.nonZeroUnusedMemoryRegion (count + index)) (by simp) ?_
    regions
  intro seen region hseen
  by_cases hempty : region = .empty
  · left
    refine ⟨?_, by simp [validateUnusedStep, hempty]⟩
    intro r hr
    rcases List.mem_append.mp hr with h | h
    · exact hseen r h
    · rw [List.mem_singleton.mp h, hempty]
  · right
    refine ⟨fun h => hempty (h region (by simp)), _, ?_, rfl⟩
    rw [validateUnusedStep, if_pos hempty, Nat.zero_add]

/-- A valid table stays valid on every prefix, so a failing prefix refutes it. -/
theorem ActiveValid.of_append {seen rest : List MemoryRegion} (h : ActiveValid (seen ++ rest)) :
    ActiveValid seen :=
  ⟨fun r hr => h.1 r (List.mem_append_left _ hr), (List.pairwise_append.mp h.2).1⟩

theorem validateRegions_eq_ok {info : BootInfo} (hcount : info.regionCount ≤ maxMemoryRegions) :
    validateRegions info = .ok () ↔ RegionsValid info := by
  unfold validateRegions RegionsValid
  rw [if_neg (by omega)]
  rcases validateActive_spec info.activeRegions with
    ⟨hactive, hok⟩ | ⟨seen, region, rest, e, hsplit, -, hbad, herr, -⟩
  · rw [hok, Exec.ok_bind]
    rcases validateUnused_spec info.regionCount info.unusedRegions with
      ⟨hunused, hok'⟩ | ⟨seen, region, rest, e, hsplit, -, hbad, herr, -⟩
    · rw [hok']
      exact iff_of_true rfl ⟨hactive, hunused⟩
    · rw [herr]
      simp only [reduceCtorEq, false_iff]
      rintro ⟨-, hall⟩
      refine hbad fun r hr => hall r ?_
      rw [hsplit]
      rcases List.mem_append.mp hr with h | h
      · exact List.mem_append_left _ h
      · rw [List.mem_singleton.mp h]
        simp
  · rw [herr]
    simp only [Exec.err_bind, reduceCtorEq, false_iff]
    rintro ⟨hactive, -⟩
    rw [hsplit, List.append_cons] at hactive
    exact hbad hactive.of_append

theorem HeaderValid.regionCount_le {info : BootInfo} (h : HeaderValid info.header) :
    info.regionCount ≤ maxMemoryRegions := by
  obtain ⟨-, -, -, -, -, -, hcount, -⟩ := h
  exact hcount

theorem validateRef_eq_ok {info : BootInfo} : validateRef info = .ok () ↔ ContractValid info := by
  unfold validateRef
  simp only [Exec.check_bind_eq_ok, validateHeader_eq_ok, validatePlatform_eq_ok,
    validateScenario_eq_ok]
  constructor
  · rintro ⟨hheader, hplatform, hscenario, hregions⟩
    have hcount := hheader.regionCount_le
    exact ⟨hheader, hplatform, hscenario, (validateRegions_eq_ok hcount).mp hregions⟩
  · intro h
    have hcount := h.header.regionCount_le
    exact ⟨h.header, h.platform, h.scenario, (validateRegions_eq_ok hcount).mpr h.regions⟩

/-- The least index at which a rejected region table stops being valid. -/
def RejectedAt (info : BootInfo) (e : ValidationError) (i : ℕ) : Prop :=
  (IsLeast {i | i < info.regionCount ∧ ¬ActiveValid (info.activeRegions.take (i + 1))} i ∧
    ∀ j, e ≠ .nonZeroUnusedMemoryRegion j) ∨
  (ActiveValid info.activeRegions ∧ e = .nonZeroUnusedMemoryRegion i ∧
    IsLeast {i | info.regionCount ≤ i ∧ ∃ region, info.memoryRegions.toList[i]? = some region ∧
      region ≠ .empty} i)

/-- The loop over the active regions stops at the least bad one. -/
theorem isLeast_active {info : BootInfo} {seen rest : List MemoryRegion} {region : MemoryRegion}
    (hcount : info.regionCount ≤ maxMemoryRegions)
    (hsplit : info.activeRegions = seen ++ region :: rest) (hgood : ActiveValid seen)
    (hbad : ¬ActiveValid (seen ++ [region])) :
    IsLeast {i | i < info.regionCount ∧ ¬ActiveValid (info.activeRegions.take (i + 1))}
      seen.length := by
  have hlen : info.activeRegions.length = info.regionCount := by
    simp only [BootInfo.activeRegions, List.length_take, Vector.length_toList]
    omega
  refine ⟨⟨?_, ?_⟩, ?_⟩
  · rw [← hlen, hsplit, List.length_append, List.length_cons]
    omega
  · rw [hsplit, List.append_cons, List.take_left' (by simp)]
    exact hbad
  · rintro j ⟨-, hj⟩
    by_contra hlt
    refine hj ?_
    rw [hsplit, List.take_append_of_le_length (by omega)]
    rw [← List.take_append_drop (j + 1) seen] at hgood
    exact hgood.of_append

/-- The loop over the unused regions stops at the first one that is not empty. -/
theorem isLeast_unused {info : BootInfo} {seen rest : List MemoryRegion} {region : MemoryRegion}
    (hsplit : info.unusedRegions = seen ++ region :: rest) (hgood : ∀ r ∈ seen, r = .empty)
    (hbad : ¬∀ r ∈ seen ++ [region], r = .empty) :
    IsLeast {i | info.regionCount ≤ i ∧ ∃ region, info.memoryRegions.toList[i]? = some region ∧
      region ≠ .empty} (info.regionCount + seen.length) := by
  -- the slot `count + offset` of the array is the `offset`-th unused one
  have hslot : ∀ offset, info.memoryRegions.toList[info.regionCount + offset]? =
      (seen ++ region :: rest)[offset]? := by
    intro offset
    rw [← hsplit, BootInfo.unusedRegions, List.getElem?_drop]
  refine ⟨⟨Nat.le_add_right _ _, region, ?_, ?_⟩, ?_⟩
  · rw [hslot, List.getElem?_append_right le_rfl]
    simp
  · rintro rfl
    refine hbad fun r hr => ?_
    rcases List.mem_append.mp hr with hmem | hmem
    · exact hgood r hmem
    · exact List.mem_singleton.mp hmem
  · rintro j ⟨hj, r, hr, hne⟩
    obtain ⟨offset, rfl⟩ := Nat.exists_eq_add_of_le hj
    by_contra hlt
    have hoffset : offset < seen.length := by omega
    rw [hslot, List.getElem?_append_left hoffset] at hr
    exact hne (hgood r (List.mem_of_getElem? hr))

theorem validateRegions_eq_err {info : BootInfo} (hcount : info.regionCount ≤ maxMemoryRegions)
    (h : ¬RegionsValid info) : ∃ e i, validateRegions info = .err e ∧ e.regionIndex = some i ∧
      RejectedAt info e i := by
  rw [← validateRegions_eq_ok hcount] at h
  unfold validateRegions at h ⊢
  rw [if_neg (by omega)] at h ⊢
  rcases validateActive_spec info.activeRegions with
    ⟨hactive, hok⟩ | ⟨seen, region, rest, e, hsplit, hgood, hbad, herr, hindex, hne⟩
  · rw [hok, Exec.ok_bind] at h ⊢
    rcases validateUnused_spec info.regionCount info.unusedRegions with
      ⟨-, hok'⟩ | ⟨seen, region, rest, e, hsplit, hgood, hbad, herr, rfl⟩
    · exact absurd hok' h
    · exact ⟨_, _, herr, rfl, Or.inr ⟨hactive, rfl, isLeast_unused hsplit hgood hbad⟩⟩
  · rw [herr]
    exact ⟨e, seen.length, rfl, hindex, Or.inl ⟨isLeast_active hcount hsplit hgood hbad, hne⟩⟩

/-- An empty slot among the active ones is reported unless the loop stops before it. -/
theorem validateRegions_of_empty {info : BootInfo} {i : ℕ}
    (hcount : info.regionCount ≤ maxMemoryRegions)
    (hslot : info.activeRegions[i]? = some .empty) :
    ∃ e, validateRegions info = .err e ∧
      (e = .activeMemoryRegionIsEmpty i ∨ ∃ j < i, e.regionIndex = some j) := by
  obtain ⟨hi, hget⟩ := List.getElem?_eq_some_iff.mp hslot
  have hsplit : info.activeRegions =
      info.activeRegions.take i ++ .empty :: info.activeRegions.drop (i + 1) := by
    conv_lhs => rw [← List.take_append_drop i info.activeRegions, List.drop_eq_getElem_cons hi, hget]
  have hlen : (info.activeRegions.take i).length = i := List.length_take_of_le hi.le
  unfold validateRegions
  rw [if_neg (by omega), hsplit, Exec.foldIdx_append]
  rcases validateActive_spec (info.activeRegions.take i) with
    ⟨-, hok⟩ | ⟨seen, region, rest, e, hseen, -, -, herr, hindex, -⟩
  · refine ⟨_, ?_, Or.inl rfl⟩
    rw [hok, hlen, Nat.zero_add]
    rfl
  · refine ⟨e, by rw [herr]; rfl, Or.inr ⟨seen.length, ?_, hindex⟩⟩
    rw [hseen, List.length_append, List.length_cons] at hlen
    omega

theorem validateRegions_fails (info : BootInfo) :
    (validateRegions info).Fails fun e => e.subject = .regions := by
  intro e h
  have hcount : info.regionCount ≤ maxMemoryRegions := by
    by_contra hlt
    rw [validateRegions, if_pos (by omega)] at h
    simp at h
  have hbad : ¬RegionsValid info := by
    intro hvalid
    rw [(validateRegions_eq_ok hcount).mpr hvalid] at h
    simp at h
  obtain ⟨e', i, herr, hindex, -⟩ := validateRegions_eq_err hcount hbad
  rw [herr] at h
  rw [← Exec.err.inj h]
  exact ValidationError.subject_of_regionIndex hindex

/-- The first part that fails gives the error. -/
theorem validateRef_eq_err {info : BootInfo} {e : ValidationError} :
    validateRef info = .err e ↔ validateHeader info.header = .err e ∨
      (validateHeader info.header = .ok () ∧ (validatePlatform info.platform = .err e ∨
        (validatePlatform info.platform = .ok () ∧ (validateScenario info.scenario = .err e ∨
          (validateScenario info.scenario = .ok () ∧ validateRegions info = .err e))))) := by
  simp only [validateRef, Exec.check_bind_eq_err]

/-- The slice bound in `validateRegions` is covered by the header check. -/
theorem validateRef_ne_panic (info : BootInfo) : validateRef info ≠ .panic := by
  refine Exec.bind_ne_panic (validateHeader_ne_panic info.header) fun _ hheader => ?_
  refine Exec.bind_ne_panic (validatePlatform_ne_panic _) fun _ _ => ?_
  refine Exec.bind_ne_panic (validateScenario_ne_panic _) fun _ _ => ?_
  have hcount := (validateHeader_eq_ok.mp hheader).regionCount_le
  by_cases hregions : RegionsValid info
  · simp [(validateRegions_eq_ok hcount).mpr hregions]
  · obtain ⟨e, i, herr, -⟩ := validateRegions_eq_err hcount hregions
    simp [herr]

theorem BootInfo.validate_ne_panic (info : BootInfo) : info.validate ≠ .panic := by
  have h := validateRef_ne_panic info
  unfold BootInfo.validate
  split <;> simp_all

/-- `validate` accepts exactly the contracts that satisfy the documented
invariants. When the region table is all that is wrong, the reported index is
the least one at which the table stops being valid. -/
theorem validate_exact (info : BootInfo) :
    ((∃ v, info.validate = .ok v ∧ v.info = info) ↔ ContractValid info) ∧
    (HeaderValid info.header ∧ PlatformValid info.platform ∧ ScenarioValid info.scenario ∧
      ¬RegionsValid info →
      ∃ e i, info.validate = .err e ∧ e.regionIndex = some i ∧ RejectedAt info e i) := by
  constructor
  · rw [← validateRef_eq_ok]
    constructor
    · rintro ⟨v, hv, -⟩
      exact (BootInfo.validate_eq_ok.mp hv).1
    · intro h
      exact ⟨⟨info, h⟩, BootInfo.validate_eq_ok.mpr ⟨h, rfl⟩, rfl⟩
  · rintro ⟨hheader, hplatform, hscenario, hregions⟩
    obtain ⟨e, i, herr, hindex, hleast⟩ :=
      validateRegions_eq_err hheader.regionCount_le hregions
    refine ⟨e, i, ?_, hindex, hleast⟩
    rw [BootInfo.validate_eq_err, validateRef, validateHeader_eq_ok.mpr hheader, Exec.ok_bind,
      validatePlatform_eq_ok.mpr hplatform, Exec.ok_bind, validateScenario_eq_ok.mpr hscenario,
      Exec.ok_bind, herr]

/-- The two-region contract of the source's tests. -/
def sampleInfo : BootInfo :=
  (((BootInfo.new (.x86_64_uefi 0) .normal).setMemoryRegion 0
    ⟨0x100000, 0x200000, .reserved, 0, 0⟩).2.setMemoryRegion 1
    ⟨0x300000, 0x400000, .usable, 7, 8⟩).2

theorem sampleInfo_valid : validateRef sampleInfo = .ok () := by decide +kernel

/-- Moving the second region of the sample into the first one. -/
def overlappingInfo : BootInfo :=
  (sampleInfo.setMemoryRegion 1 ⟨0x200000, 0x400000, .usable, 7, 8⟩).2

theorem validate_exact_overlapping :
    (HeaderValid overlappingInfo.header ∧ PlatformValid overlappingInfo.platform ∧
      ScenarioValid overlappingInfo.scenario ∧ ¬RegionsValid overlappingInfo) ∧
    ∃ e i, overlappingInfo.validate = .err e ∧ e.regionIndex = some i ∧
      RejectedAt overlappingInfo e i := by
  have h : HeaderValid overlappingInfo.header ∧ PlatformValid overlappingInfo.platform ∧
      ScenarioValid overlappingInfo.scenario ∧ ¬RegionsValid overlappingInfo := by decide +kernel
  exact ⟨h, (validate_exact overlappingInfo).2 h⟩

end PolytopeOS.BootContract
