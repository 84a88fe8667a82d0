import PolytopeOS.Corelib.Decimal
import PolytopeOS.Host.Gpt

/-!
# Raw FAT32 layout of the partition

The partition's reserved sectors and its two allocation tables, checked byte by
byte before any library interprets them. The table is read as a function from
clusters to 28-bit entries; `CanonicalTable` says which tables are accepted.
-/

namespace PolytopeOS.Host
open Corelib Arch

/-- The checks of the boot sector. The results are the sector counts of the
partition and of one table. -/
def validateFatBootSector (partition boot : Bytes) : Exec String (UInt32 × UInt32) := do
  Exec.ensure ((← sliceAt boot 3 11) = ascii "MSWIN4.1") "unexpected FAT OEM identity"
  Exec.ensure (readU16 boot 11 = some 512) "FAT sector size is not 512 bytes"
  Exec.ensure ((← byteAt boot 13) = 1) "FAT cluster size is not one sector"
  Exec.ensure (readU16 boot 14 = some 8) "FAT reserved-sector count is not 8"
  Exec.ensure ((← byteAt boot 16) = 2) "FAT does not contain two mirrors"
  Exec.ensure (readU16 boot 17 = some 0) "FAT32 root-entry field is nonzero"
  Exec.ensure (readU16 boot 19 = some 0) "FAT32 16-bit sector count is nonzero"
  Exec.ensure ((← byteAt boot 21) = 0xf8) "FAT media descriptor is not fixed-disk"
  Exec.ensure (readU16 boot 22 = some 0) "FAT32 16-bit FAT size is nonzero"
  let expectedSectors ← Exec.okOr (checkedU32 (partition.length / logicalBlockBytes))
    "ESP sector count does not fit u32"
  Exec.ensure (readU32 boot 32 = some expectedSectors) "FAT32 total-sector count is inconsistent"
  let fatSectors ← Exec.okOr (readU32 boot 36) "FAT32 FAT-sector count is truncated"
  Exec.ensure (fatSectors > 0) "FAT32 FAT-sector count is zero"
  Exec.ensure (readU16 boot 40 = some 0) "FAT mirroring flags are not canonical"
  Exec.ensure (readU16 boot 42 = some 0) "FAT32 version is unsupported"
  Exec.ensure (readU32 boot 44 = some 2) "FAT32 root cluster is not 2"
  Exec.ensure (readU16 boot 48 = some 1) "FAT32 FSInfo sector is not 1"
  Exec.ensure (readU16 boot 50 = some 6) "FAT32 backup boot sector is not 6"
  Exec.ensure ((← sliceAt boot 510 boot.length) = [0x55, 0xaa]) "FAT boot signature is invalid"
  return (expectedSectors, fatSectors)

/-- The checks of the FSInfo sector, without the next-free hint. -/
def validateFsInfo (fsInfo : Bytes) : Exec String Unit := do
  Exec.ensure (readU32 fsInfo 0 = some 0x41615252) "FSInfo lead signature is invalid"
  Exec.ensure (readU32 fsInfo 484 = some 0x61417272) "FSInfo structure signature is invalid"
  Exec.ensure (readU32 fsInfo 488 = some 0xffffffff) "FSInfo free count is not canonical"
  Exec.ensure ((← sliceAt fsInfo 508 512) = [0x00, 0x00, 0x55, 0xaa])
    "FSInfo trail signature is invalid"

/-- What the checks of the table are called with. -/
structure FatRegions where
  fat : Bytes
  totalSectors : UInt32
  dataLba : UInt64
  fsInfo : Bytes

/-- The checks before those of the table, which find the table. -/
def rawFat32Regions (partition : Bytes) : Exec String FatRegions := do
  let boot ← sector partition 0
  let (expectedSectors, fatSectors) ← validateFatBootSector partition boot
  Exec.ensure (boot = (← sector partition 6)) "FAT backup boot sector differs"
  ensureZero (← lbaRange partition 2 6) "unused FAT reserved sectors"
  ensureZero (← sector partition 7) "unused FAT backup-adjacent sector"
  let fsInfo ← sector partition 1
  validateFsInfo fsInfo
  let firstFatLba : UInt64 := 8
  let secondFatLba ← addWord firstFatLba fatSectors.toUInt64
  let dataLba ← addWord secondFatLba fatSectors.toUInt64
  Exec.ensure (dataLba < expectedSectors.toUInt64) "FAT32 data region lies outside the ESP"
  let firstFat ← lbaRange partition firstFatLba secondFatLba
  let secondFat ← lbaRange partition secondFatLba dataLba
  Exec.ensure (firstFat = secondFat) "FAT mirror copies differ"
  return ⟨firstFat, expectedSectors, dataLba, fsInfo⟩

/-- One turn of the scan over the clusters. The state is the first free cluster
seen so far. -/
def scanCluster (fat : Bytes) (entryCount : ℕ) (firstFree : Option ℕ) (cluster : ℕ) :
    Exec String (Option ℕ) := do
  let raw ← Exec.okOr (readU32 fat (← mulSize cluster 4)) "FAT cluster entry is truncated"
  let value := raw &&& 0x0fffffff
  if value = 0 then
    return some (firstFree.getD cluster)
  else
    Exec.ensure firstFree.isNone "FAT allocated clusters are not one canonical prefix"
    let successor := (checkedSize value.toNat).getD (2 ^ 64 - 1)
    let shown := hex value.toNat
    Exec.ensure ((2 ≤ successor ∧ successor < entryCount) ∨ value ≥ 0x0ffffff8)
      s!"FAT cluster {cluster} has an invalid successor {shown}"
    return firstFree

def validateCanonicalFatEntries (fat : Bytes) (totalSectors : UInt32) (dataLba : UInt64)
    (fsInfo : Bytes) : Exec String Unit := do
  let totalClusters ← Exec.okOr (checkedSub totalSectors.toUInt64 dataLba)
    "FAT32 data-cluster count underflowed"
  let entries ← addWord totalClusters 2
  let entryCount ← Exec.okOr (checkedSize entries.toNat) "FAT entry count is too large"
  Exec.ensure ((checkedSize (entryCount * 4)).any (· ≤ fat.length))
    "FAT is too short for the declared data clusters"
  Exec.ensure ((readU32 fat 0).any (fun value => value &&& 0xff = 0xf8) ∧
      (readU32 fat 4).any (fun value => value &&& 0x0fffffff ≥ 0x0ffffff8))
    "FAT reserved entries are invalid"
  let firstFree ← Exec.foldIdx (fun _ => scanCluster fat entryCount) 0 none
    (List.range' 2 (entryCount - 2))
  let rest ← sliceAt fat (← mulSize entryCount 4) fat.length
  Exec.ensure ((chunksExact 4 rest).all (· == [0xff, 0xff, 0xff, 0x0f]))
    "out-of-range FAT entries are not canonical end-of-chain sentinels"
  let expectedNext ← Exec.okOr firstFree "FAT contains no free cluster"
  let expectedNext ← Exec.okOr (checkedU32 expectedNext) "first free cluster does not fit u32"
  Exec.ensure (readU32 fsInfo 492 = some expectedNext)
    "FSInfo next-free hint does not identify the canonical first free cluster"

def validateRawFat32Layout (partition : Bytes) : Exec String Unit := do
  let regions ← rawFat32Regions partition
  validateCanonicalFatEntries regions.fat regions.totalSectors regions.dataLba regions.fsInfo

/-- The entry of a cluster, without its four reserved bits. -/
def entry (fat : Bytes) (cluster : ℕ) : ℕ := field fat (cluster * 4) 4 % 2 ^ 28

/-- The values from here on end a chain. -/
def endOfChain : ℕ := 0x0ffffff8

/-- An entry of an allocated cluster, in a table of `entryCount` entries. -/
def Linked (entryCount value : ℕ) : Prop :=
  value ≠ 0 ∧ ((2 ≤ value ∧ value < entryCount) ∨ endOfChain ≤ value)
  deriving Decidable

/-- The tables that are accepted: the clusters before `firstFree` are allocated
and those from it on are free. -/
structure CanonicalTable (fat : Bytes) (entryCount firstFree : ℕ) : Prop where
  fits : 4 * entryCount ≤ fat.length
  media : entry fat 0 % 256 = 0xf8
  reserved : endOfChain ≤ entry fat 1
  firstFree_mem : 2 ≤ firstFree ∧ firstFree < entryCount
  allocated : ∀ c, 2 ≤ c → c < firstFree → Linked entryCount (entry fat c)
  free : ∀ c, firstFree ≤ c → c < entryCount → entry fat c = 0
  beyond : ∀ c, entryCount ≤ c → 4 * (c + 1) ≤ fat.length → field fat (c * 4) 4 = 0x0fffffff

section Scan

variable {fat : Bytes} {entryCount : ℕ}

theorem toNat_and_entryMask (v : UInt32) : (v &&& 0x0fffffff).toNat = v.toNat % 2 ^ 28 := by
  rw [UInt32.toNat_and]
  exact Nat.and_two_pow_sub_one_eq_mod v.toNat 28

theorem readU32_entry {c : ℕ} (hc : 4 * (c + 1) ≤ fat.length) (hword : 4 * (c + 1) < 2 ^ 64) :
    ∃ v, readU32 fat (c * 4) = some v ∧ (v &&& 0x0fffffff).toNat = entry fat c := by
  refine ⟨_, readU32_eq (by omega) (by omega), ?_⟩
  rw [toNat_and_entryMask, toNat_field32]
  rfl

/-- One turn accepts a free cluster, and an allocated one while none was free. -/
theorem scanCluster_eq_ok {firstFree r : Option ℕ} {c : ℕ} (hc : 4 * (c + 1) ≤ fat.length)
    (hword : 4 * (c + 1) < 2 ^ 64) :
    scanCluster fat entryCount firstFree c = .ok r ↔
      (entry fat c = 0 ∧ r = some (firstFree.getD c)) ∨
      (firstFree = none ∧ Linked entryCount (entry fat c) ∧ r = none) := by
  obtain ⟨v, hread, hv⟩ := readU32_entry hc hword
  have hlt : entry fat c < 2 ^ 64 := hv ▸ (UInt32.toNat_lt _).trans (by decide)
  have hzero : v &&& 0x0fffffff = 0 ↔ entry fat c = 0 := by
    rw [← UInt32.toNat_inj, hv]
    rfl
  have hend : (v &&& 0x0fffffff) ≥ 0x0ffffff8 ↔ endOfChain ≤ entry fat c := by
    rw [ge_iff_le, UInt32.le_iff_toNat_le, hv]
    rfl
  rw [scanCluster, mulSize_of_lt (by omega), Exec.ok_bind, hread, Exec.okOr_some, Exec.ok_bind]
  simp only [hzero]
  split
  · next h => simp [h, Linked, eq_comm]
  · next h =>
    simp only [Exec.check_bind_eq_ok, Exec.ensure_eq_ok, hv,
      checkedSize_of_lt hlt, Option.getD_some, hend, Option.isNone_iff_eq_none,
      Exec.pure_eq_ok, Exec.ok.injEq]
    constructor
    · rintro ⟨rfl, hlink, rfl⟩
      exact Or.inr ⟨rfl, ⟨h, hlink⟩, rfl⟩
    · rintro (⟨hfree, -⟩ | ⟨rfl, hlink, rfl⟩)
      · exact absurd hfree h
      · exact ⟨rfl, hlink.2, rfl⟩

/-- After the first free cluster, only free ones are accepted. -/
theorem scan_latched {r : Option ℕ} {f start k i : ℕ} (hfits : 4 * (start + k) ≤ fat.length)
    (hword : 4 * (start + k) < 2 ^ 64) :
    Exec.foldIdx (fun _ => scanCluster fat entryCount) i (some f) (List.range' start k) = .ok r ↔
      (∀ c, start ≤ c → c < start + k → entry fat c = 0) ∧ r = some f := by
  induction k generalizing start i with
  | zero =>
    rw [List.range'_zero, Exec.foldIdx_nil, Exec.ok.injEq, eq_comm]
    exact (and_iff_right fun c hstart hc => absurd hc (by omega)).symm
  | succ k ih =>
    rw [List.range'_succ, Exec.foldIdx_cons, Exec.bind_eq_ok]
    constructor
    · rintro ⟨s, hstep, hrest⟩
      obtain ⟨hfree, rfl⟩ | ⟨hnone, -⟩ := (scanCluster_eq_ok (by omega) (by omega)).mp hstep
      · obtain ⟨hzero, rfl⟩ := (ih (by omega) (by omega)).mp hrest
        refine ⟨fun c hstart hc => ?_, rfl⟩
        rcases hstart.eq_or_lt with rfl | hlt
        · exact hfree
        · exact hzero c hlt (by omega)
      · cases hnone
    · rintro ⟨hzero, rfl⟩
      refine ⟨some f, ?_, ?_⟩
      · exact (scanCluster_eq_ok (by omega) (by omega)).mpr
          (Or.inl ⟨hzero start le_rfl (by omega), rfl⟩)
      · exact (ih (by omega) (by omega)).mpr
          ⟨fun c hstart hc => hzero c (by omega) (by omega), rfl⟩

/-- The whole scan ends with a first free cluster when the clusters before it are
allocated and the others are free. -/
theorem scan_eq_some {f start k i : ℕ} (hfits : 4 * (start + k) ≤ fat.length)
    (hword : 4 * (start + k) < 2 ^ 64) :
    Exec.foldIdx (fun _ => scanCluster fat entryCount) i none (List.range' start k) =
        .ok (some f) ↔
      (start ≤ f ∧ f < start + k) ∧
      (∀ c, start ≤ c → c < f → Linked entryCount (entry fat c)) ∧
      (∀ c, f ≤ c → c < start + k → entry fat c = 0) := by
  induction k generalizing start i with
  | zero =>
    rw [List.range'_zero, Exec.foldIdx_nil]
    constructor
    · intro h
      cases h
    · intro h
      omega
  | succ k ih =>
    have hstart : ∀ {s : Option ℕ}, scanCluster fat entryCount none start = .ok s ↔ _ :=
      scanCluster_eq_ok (by omega) (by omega)
    rw [List.range'_succ, Exec.foldIdx_cons, Exec.bind_eq_ok]
    constructor
    · rintro ⟨s, hstep, hrest⟩
      obtain ⟨hfree, rfl⟩ | ⟨-, hlink, rfl⟩ := hstart.mp hstep
      · -- the scan latches here
        obtain ⟨hzero, heq⟩ := (scan_latched (by omega) (by omega)).mp hrest
        obtain rfl : f = start := Option.some.inj heq
        refine ⟨⟨le_rfl, by omega⟩, fun c hc hlt => absurd hlt (by omega), fun c hc hlt => ?_⟩
        rcases hc.eq_or_lt with rfl | hc
        · exact hfree
        · exact hzero c hc (by omega)
      · obtain ⟨hmem, halloc, hfree⟩ := (ih (by omega) (by omega)).mp hrest
        refine ⟨by omega, fun c hc hlt => ?_, fun c hc hlt => hfree c hc (by omega)⟩
        rcases hc.eq_or_lt with rfl | hc
        · exact hlink
        · exact halloc c hc hlt
    · rintro ⟨⟨hle, hlt⟩, halloc, hfree⟩
      rcases hle.eq_or_lt with rfl | hle
      · refine ⟨some start, hstart.mpr (Or.inl ⟨hfree start le_rfl (by omega), rfl⟩), ?_⟩
        exact (scan_latched (by omega) (by omega)).mpr
          ⟨fun c hc hlt => hfree c (by omega) (by omega), rfl⟩
      · refine ⟨none, hstart.mpr (Or.inr ⟨rfl, halloc start le_rfl hle, rfl⟩), ?_⟩
        exact (ih (by omega) (by omega)).mpr ⟨⟨hle, by omega⟩,
          fun c hc hlt => halloc c (by omega) hlt, fun c hc hlt => hfree c hc (by omega)⟩

/-- The entries after the last cluster are sentinels. -/
theorem sentinels_iff (hfits : entryCount * 4 ≤ fat.length) :
    (chunksExact 4 (fat.drop (entryCount * 4))).all (· == [0xff, 0xff, 0xff, 0x0f]) ↔
      ∀ c, entryCount ≤ c → 4 * (c + 1) ≤ fat.length → field fat (c * 4) 4 = 0x0fffffff := by
  have hbytes : ([0xff, 0xff, 0xff, 0x0f] : Bytes) = toLe 4 0x0fffffff := by decide
  have hchunk : ∀ offset, offset + 4 ≤ fat.length →
      ((fat.drop offset).take 4 = [0xff, 0xff, 0xff, 0x0f] ↔ field fat offset 4 = 0x0fffffff) := by
    intro offset h
    rw [hbytes, eq_toLe_iff (length_range h) (by decide)]
    rfl
  simp only [List.all_eq_true, beq_iff_eq]
  rw [forall_mem_chunksExact (by decide), List.length_drop]
  constructor
  · intro h c hc hlen
    have hcell := h (c - entryCount) (by omega)
    rw [List.drop_drop, show entryCount * 4 + (c - entryCount) * 4 = c * 4 by omega] at hcell
    exact (hchunk _ (by omega)).mp hcell
  · intro h i hi
    rw [List.drop_drop, show entryCount * 4 + i * 4 = (entryCount + i) * 4 by omega]
    exact (hchunk _ (by omega)).mpr (h _ (by omega) (by omega))

/-- The two entries before the first cluster. -/
theorem reserved_iff (h : 8 ≤ fat.length) :
    ((readU32 fat 0).any (fun value => value &&& 0xff = 0xf8) ∧
        (readU32 fat 4).any (fun value => value &&& 0x0fffffff ≥ 0x0ffffff8)) ↔
      entry fat 0 % 256 = 0xf8 ∧ endOfChain ≤ entry fat 1 := by
  have hlow : ∀ v : UInt32, v &&& 0xff = 0xf8 ↔ v.toNat % 256 = 0xf8 := by
    intro v
    rw [← UInt32.toNat_inj, UInt32.toNat_and]
    exact Eq.congr_left (Nat.and_two_pow_sub_one_eq_mod v.toNat 8)
  have hend : ∀ v : UInt32, v &&& 0x0fffffff ≥ 0x0ffffff8 ↔ endOfChain ≤ v.toNat % 2 ^ 28 := by
    intro v
    rw [ge_iff_le, UInt32.le_iff_toNat_le, toNat_and_entryMask]
    rfl
  have hmod : entry fat 0 % 256 = field fat 0 4 % 256 := Nat.mod_mod_of_dvd _ (by decide)
  rw [readU32_eq (by omega) (by decide), readU32_eq (by omega) (by decide), hmod]
  simp only [Option.any_some, decide_eq_true_eq, hlow, hend, toNat_field32]
  exact Iff.rfl

end Scan

variable {fat fsInfo : Bytes} {totalSectors : UInt32} {dataLba : UInt64}

/-- The first free cluster and the hint agree. -/
theorem hint_eq_ok {firstFree : Option ℕ} {e₁ e₂ e₃ : String} :
    (do
      let expectedNext ← Exec.okOr firstFree e₁
      let expectedNext ← Exec.okOr (checkedU32 expectedNext) e₂
      Exec.ensure (readU32 fsInfo 492 = some expectedNext) e₃ : Exec String Unit) = .ok () ↔
      ∃ f, firstFree = some f ∧ 496 ≤ fsInfo.length ∧ field fsInfo 492 4 = f := by
  simp only [Exec.bind_eq_ok, Exec.okOr_eq_ok, Exec.ensure_eq_ok, checkedU32_eq_some]
  apply exists_congr
  intro f
  apply and_congr_right
  intro _
  constructor
  · rintro ⟨v, hv, hread⟩
    obtain ⟨hlen, hfield⟩ := (readU32_eq_some (by decide)).mp hread
    exact ⟨hlen, hfield.trans hv⟩
  · rintro ⟨hlen, rfl⟩
    exact ⟨_, toNat_field32, readU32_eq hlen (by decide)⟩

/-- The number of entries, computed in words. -/
theorem entryWord_eq (h : dataLba.toNat ≤ totalSectors.toNat) :
    checkedSub totalSectors.toUInt64 dataLba = some (totalSectors.toUInt64 - dataLba) ∧
      (addWord (totalSectors.toUInt64 - dataLba) 2 : Exec String UInt64) =
        .ok (totalSectors.toUInt64 - dataLba + 2) ∧
      (totalSectors.toUInt64 - dataLba + 2).toNat = totalSectors.toNat - dataLba.toNat + 2 := by
  have htotal := totalSectors.toNat_lt
  have htwo : (2 : UInt64).toNat = 2 := rfl
  have hle : dataLba ≤ totalSectors.toUInt64 := by
    rw [UInt64.le_iff_toNat_le, UInt32.toNat_toUInt64]
    exact h
  have hclusters : (totalSectors.toUInt64 - dataLba).toNat =
      totalSectors.toNat - dataLba.toNat := by
    rw [UInt64.toNat_sub_of_le _ _ hle, UInt32.toNat_toUInt64]
  have hlt : (totalSectors.toUInt64 - dataLba).toNat + (2 : UInt64).toNat < 2 ^ 64 := by
    rw [hclusters, htwo]
    omega
  refine ⟨if_pos hle, addWord_of_lt hlt, ?_⟩
  rw [UInt64.toNat_add, Nat.mod_eq_of_lt hlt, hclusters, htwo]

theorem validateCanonicalFatEntries_eq_ok (h : dataLba.toNat ≤ totalSectors.toNat) :
    validateCanonicalFatEntries fat totalSectors dataLba fsInfo = .ok () ↔
      ∃ f, CanonicalTable fat (totalSectors.toNat - dataLba.toNat + 2) f ∧
        496 ≤ fsInfo.length ∧ field fsInfo 492 4 = f := by
  have htotal := totalSectors.toNat_lt
  obtain ⟨hclusters, hadd, hentries⟩ := entryWord_eq h
  generalize hn : totalSectors.toNat - dataLba.toNat + 2 = n at hentries ⊢
  rw [validateCanonicalFatEntries, hclusters, Exec.okOr_some, Exec.ok_bind, hadd,
    Exec.ok_bind, hentries, checkedSize_of_lt (by omega), Exec.okOr_some, Exec.ok_bind,
    checkedSize_of_lt (by omega), mulSize_of_lt (by omega), Exec.check_bind_eq_ok,
    Exec.ensure_eq_ok, Option.any_some, decide_eq_true_eq]
  constructor
  · rintro ⟨hfits, hrest⟩
    rw [Exec.check_bind_eq_ok, Exec.ensure_eq_ok, reserved_iff (by omega), Exec.bind_eq_ok] at hrest
    obtain ⟨⟨hmedia, hreserved⟩, firstFree, hscan, hrest⟩ := hrest
    rw [Exec.ok_bind, sliceAt_of_le hfits le_rfl, Exec.ok_bind, Exec.check_bind_eq_ok,
      Exec.ensure_eq_ok, List.take_of_length_le (by simp), sentinels_iff hfits,
      hint_eq_ok] at hrest
    obtain ⟨hbeyond, f, rfl, hhint⟩ := hrest
    obtain ⟨hmem, halloc, hfree⟩ := (scan_eq_some (by omega) (by omega)).mp hscan
    exact ⟨f, ⟨by omega, hmedia, hreserved, by omega, halloc,
      fun c hc hlt => hfree c hc (by omega), hbeyond⟩, hhint⟩
  · rintro ⟨f, ⟨hfits, hmedia, hreserved, hmem, halloc, hfree, hbeyond⟩, hhint⟩
    have hscan : Exec.foldIdx (fun _ => scanCluster fat n) 0 none (List.range' 2 (n - 2)) =
        .ok (some f) := (scan_eq_some (by omega) (by omega)).mpr
      ⟨by omega, halloc, fun c hc hlt => hfree c hc (by omega)⟩
    refine ⟨by omega, ?_⟩
    rw [Exec.check_bind_eq_ok, Exec.ensure_eq_ok, reserved_iff (by omega), hscan, Exec.ok_bind,
      Exec.ok_bind, sliceAt_of_le (by omega) le_rfl, Exec.ok_bind, Exec.check_bind_eq_ok,
      Exec.ensure_eq_ok, List.take_of_length_le (by simp), sentinels_iff (by omega), hint_eq_ok]
    exact ⟨⟨hmedia, hreserved⟩, hbeyond, f, rfl, hhint⟩

/-- The number of entries that a table needs: one for each data sector, and two
reserved ones. -/
def FatRegions.entryCount (regions : FatRegions) : ℕ :=
  regions.totalSectors.toNat - regions.dataLba.toNat + 2

/-- The table is checked only when the data region starts inside the partition. -/
theorem dataLba_lt_of_regions {partition : Bytes} {regions : FatRegions}
    (h : rawFat32Regions partition = .ok regions) :
    regions.dataLba.toNat < regions.totalSectors.toNat := by
  rw [rawFat32Regions] at h
  simp only [↓Exec.check_bind_eq_ok, Exec.bind_eq_ok, Exec.ensure_eq_ok, Exec.pure_eq_ok,
    Exec.ok.injEq] at h
  obtain ⟨boot, -, counts, -, _, -, -, _, -, -, _, -, -, fsInfo, -, -, _, -, dataLba, -, hdata,
    _, -, _, -, -, rfl⟩ := h
  rw [UInt64.lt_iff_toNat_lt, UInt32.toNat_toUInt64] at hdata
  exact hdata

section Sample

variable {blocks : List Bytes}

theorem lbaRange_flatten {startLba endLba : UInt64} {k m : ℕ}
    (h : ∀ block ∈ blocks, block.length = 512) (hcount : blocks.length < 2 ^ 32)
    (hstart : startLba.toNat = k) (hend : endLba.toNat = k + m) (hfits : k + m ≤ blocks.length) :
    lbaRange blocks.flatten startLba endLba = .ok ((blocks.drop k).take m).flatten := by
  have hlen := length_flatten h
  have hstart' : startLba.toNat * 512 = k * 512 := by rw [hstart]
  have hend' : endLba.toNat * 512 = k * 512 + m * 512 := by rw [hend, Nat.add_mul]
  rw [lbaRange_eq hstart' hend' (by omega) (by omega), range_flatten h]

theorem sector_flatten {lba : UInt64} {k : ℕ} (h : ∀ block ∈ blocks, block.length = 512)
    (hcount : blocks.length < 2 ^ 32) (hlba : lba.toNat = k) (hfits : k + 1 ≤ blocks.length) :
    sector blocks.flatten lba = .ok ((blocks.drop k).take 1).flatten := by
  have hnext : (lba + 1).toNat = k + 1 := by rw [toNat_next (by omega), hlba]
  rw [sector_eq_lbaRange (by omega), lbaRange_flatten h hcount hlba hnext hfits]

/-- A table of allocated clusters with the given entries, free ones, and sentinels. -/
def sampleTable (links : List UInt32) (free sentinels : ℕ) : List UInt32 :=
  0x0ffffff8 :: 0x0fffffff ::
    (links ++ (List.replicate free 0 ++ List.replicate sentinels 0x0fffffff))

def fatOf (table : List UInt32) : Bytes := (table.map u32ToLe).flatten

theorem length_of_mem_u32ToLe (table : List UInt32) :
    ∀ block ∈ table.map u32ToLe, block.length = 4 := by
  rw [List.forall_mem_map]
  exact fun v _ => length_u32ToLe v

theorem length_fatOf (links : List UInt32) (free sentinels : ℕ) :
    (fatOf (sampleTable links free sentinels)).length =
      (links.length + 2 + (free + sentinels)) * 4 := by
  rw [fatOf, length_flatten (length_of_mem_u32ToLe _), List.length_map, sampleTable]
  simp only [List.length_cons, List.length_append, List.length_replicate]
  omega

theorem field_fatOf {table : List UInt32} {c : ℕ} {v : UInt32} (h : table[c]? = some v) :
    field (fatOf table) (c * 4) 4 = v.toNat := by
  rw [fatOf, field_flatten (length_of_mem_u32ToLe _) (by rw [List.getElem?_map, h]; rfl), u32ToLe,
    ofLe_toLe]
  exact Nat.mod_eq_of_lt v.toNat_lt

theorem entry_fatOf {table : List UInt32} {c : ℕ} {v : UInt32} (h : table[c]? = some v) :
    entry (fatOf table) c = v.toNat % 2 ^ 28 :=
  congrArg (· % 2 ^ 28) (field_fatOf h)

/-- The number of free clusters is a variable, so that no proof computes the table. -/
theorem canonicalTable_fatOf {links : List UInt32} {free : ℕ} (sentinels : ℕ) (hfree : 0 < free)
    (hlinks : ∀ link ∈ links, Linked (links.length + 2 + free) (link.toNat % 2 ^ 28)) :
    CanonicalTable (fatOf (sampleTable links free sentinels)) (links.length + 2 + free)
      (links.length + 2) where
  fits := by rw [length_fatOf]; omega
  media := by rw [entry_fatOf (c := 0) rfl]; rfl
  reserved := by rw [entry_fatOf (c := 1) rfl]; decide
  firstFree_mem := by omega
  allocated := by
    intro c hc hlt
    obtain ⟨j, rfl⟩ := Nat.exists_eq_add_of_le' hc
    have hj : j < links.length := by omega
    rw [entry_fatOf (v := links[j])]
    · exact hlinks _ (List.getElem_mem hj)
    · exact (List.getElem?_append_left hj).trans (List.getElem?_eq_getElem hj)
  free := by
    intro c hc hlt
    obtain ⟨j, rfl⟩ := Nat.exists_eq_add_of_le' hc
    rw [entry_fatOf (v := 0)]
    · rfl
    · rw [sampleTable, ← Nat.add_assoc, List.getElem?_cons_succ, List.getElem?_cons_succ,
        List.getElem?_append_right (by omega), Nat.add_sub_cancel,
        List.getElem?_append_left (by rw [List.length_replicate]; omega)]
      exact List.getElem?_replicate_of_lt (by omega)
  beyond := by
    intro c hc hlen
    rw [length_fatOf] at hlen
    obtain ⟨j, rfl⟩ := Nat.exists_eq_add_of_le' hc
    have hindex : j + (links.length + 2 + free) = j + free + links.length + 1 + 1 := by omega
    rw [field_fatOf (v := 0x0fffffff)]
    · rfl
    · rw [sampleTable, hindex, List.getElem?_cons_succ, List.getElem?_cons_succ,
        List.getElem?_append_right (by omega), Nat.add_sub_cancel,
        List.getElem?_append_right (by rw [List.length_replicate]; omega), List.length_replicate,
        Nat.add_sub_cancel]
      exact List.getElem?_replicate_of_lt (by omega)

def sampleBoot (sectors : UInt32) : Bytes :=
  [zeros 3, ascii "MSWIN4.1", u16ToLe 512, [1], u16ToLe 8, [2], zeros 4, [0xf8], zeros 10,
    u32ToLe sectors, u32ToLe 1, zeros 4, u32ToLe 2, u16ToLe 1, u16ToLe 6, zeros 458,
    [0x55, 0xaa]].flatten

def sampleFsInfo (nextFree : UInt32) : Bytes :=
  [u32ToLe 0x41615252, zeros 480, u32ToLe 0x61417272, u32ToLe 0xffffffff, u32ToLe nextFree,
    zeros 14, [0x55, 0xaa]].flatten

/-- A partition with one sector for each copy of its table, and sectors for data. -/
def partitionOf (boot fsInfo fat : Bytes) (data : ℕ) : Bytes :=
  ([boot, fsInfo, zeros 512, zeros 512, zeros 512, zeros 512, boot, zeros 512, fat, fat] ++
    List.replicate data (zeros 512)).flatten

/-- A table of two clusters: the first is allocated, the second is free. -/
def sampleFat (value : UInt32) : Bytes := fatOf (sampleTable [value] 1 124)

/-- A partition of twelve sectors, whose one allocated cluster has the given entry. -/
def samplePartition (value : UInt32) : Bytes :=
  partitionOf (sampleBoot 12) (sampleFsInfo 3) (sampleFat value) 2

def sampleRegions (value : UInt32) : FatRegions := ⟨sampleFat value, 12, 10, sampleFsInfo 3⟩

theorem length_sampleBoot (sectors : UInt32) : (sampleBoot sectors).length = 512 := by
  simp only [sampleBoot, List.flatten_cons, List.flatten_nil, List.length_append, length_u32ToLe,
    length_zeros]
  decide +kernel

theorem length_sampleFsInfo (nextFree : UInt32) : (sampleFsInfo nextFree).length = 512 := by
  simp [sampleFsInfo, length_u32ToLe, length_zeros]

theorem length_sampleFat (value : UInt32) : (sampleFat value).length = 512 := by
  rw [sampleFat, length_fatOf, List.length_singleton]

theorem sampleFsInfo_hint : field (sampleFsInfo 3) 492 4 = 3 := by decide +kernel

theorem sampleFsInfo_valid : validateFsInfo (sampleFsInfo 3) = .ok () := by decide +kernel

/-- Such a partition reaches the checks of its table. -/
theorem rawFat32Regions_partitionOf {boot fsInfo fat : Bytes} {data : ℕ} {sectors : UInt32}
    (hboot : boot.length = 512) (hinfo : fsInfo.length = 512) (hfat : fat.length = 512)
    (hsectors : sectors.toNat = 10 + data) (hdata : 0 < data)
    (hvalid : ∀ partition : Bytes, partition.length / logicalBlockBytes = 10 + data →
      validateFatBootSector partition boot = .ok (sectors, 1))
    (hfsInfo : validateFsInfo fsInfo = .ok ()) :
    rawFat32Regions (partitionOf boot fsInfo fat data) = .ok ⟨fat, sectors, 10, fsInfo⟩ := by
  have hblocks : ∀ block ∈ [boot, fsInfo, zeros 512, zeros 512, zeros 512, zeros 512, boot,
      zeros 512, fat, fat] ++ List.replicate data (zeros 512), block.length = 512 := by
    simp [hboot, hinfo, hfat, length_zeros]
  have hcount : ([boot, fsInfo, zeros 512, zeros 512, zeros 512, zeros 512, boot, zeros 512, fat,
      fat] ++ List.replicate data (zeros 512)).length = 10 + data := by
    simp only [List.length_append, List.length_replicate, List.length_cons, List.length_nil]
  have hsmall := sectors.toNat_lt
  have hlen : (partitionOf boot fsInfo fat data).length / logicalBlockBytes = 10 + data := by
    rw [partitionOf, length_flatten hblocks, hcount]
    exact Nat.mul_div_cancel _ (by decide)
  have hsector : ∀ {lba : UInt64} {k : ℕ}, lba.toNat = k → k + 1 ≤ 10 →
      sector (partitionOf boot fsInfo fat data) lba = _ := fun hlba hk =>
    sector_flatten hblocks (by rw [hcount]; omega) hlba (by rw [hcount]; omega)
  have hrange : ∀ {startLba endLba : UInt64} {k m : ℕ}, startLba.toNat = k →
      endLba.toNat = k + m → k + m ≤ 10 →
      lbaRange (partitionOf boot fsInfo fat data) startLba endLba = _ := fun hstart hend hk =>
    lbaRange_flatten hblocks (by rw [hcount]; omega) hstart hend (by rw [hcount]; omega)
  have hzero : ∀ n description, ensureZero (zeros n) description = .ok () :=
    fun n _ => ensureZero_eq_ok.mpr (by rw [length_zeros])
  have hfour : (zeros 512 ++ (zeros 512 ++ (zeros 512 ++ zeros 512))) = zeros 2048 := by
    simp only [zeros, List.replicate_append_replicate]
  have hsecond : (addWord 8 (1 : UInt32).toUInt64 : Exec String UInt64) = .ok 9 := by decide
  have hstart : (addWord 9 (1 : UInt32).toUInt64 : Exec String UInt64) = .ok 10 := by decide
  have hinside : (10 : UInt64) < sectors.toUInt64 := by
    rw [UInt64.lt_iff_toNat_lt, UInt32.toNat_toUInt64, hsectors]
    exact Nat.lt_add_of_pos_right hdata
  rw [rawFat32Regions, hsector (k := 0) rfl (by decide), hsector (k := 6) rfl (by decide),
    hsector (k := 7) rfl (by decide), hsector (k := 1) rfl (by decide),
    hrange (k := 2) (m := 4) rfl rfl (by decide)]
  simp only [List.cons_append, List.drop_succ_cons, List.drop_zero, List.take_succ_cons,
    List.take_zero, List.flatten_cons, List.flatten_nil, List.append_nil, Exec.ok_bind, hfour,
    hzero, hvalid _ hlen, hfsInfo, hsecond, hstart]
  rw [hrange (k := 8) (m := 1) rfl rfl (by decide), hrange (k := 9) (m := 1) rfl rfl (by decide)]
  simp [Exec.ensure, hinside]

theorem rawFat32Regions_sample (value : UInt32) :
    rawFat32Regions (samplePartition value) = .ok (sampleRegions value) := by
  refine rawFat32Regions_partitionOf (length_sampleBoot 12) (length_sampleFsInfo 3)
    (length_sampleFat value) rfl (by decide) (fun partition hpartition => ?_) sampleFsInfo_valid
  rw [validateFatBootSector, hpartition]
  decide +kernel

theorem sampleFat_table {value : UInt32} (h : Linked 4 (value.toNat % 2 ^ 28)) :
    CanonicalTable (sampleFat value) 4 3 :=
  canonicalTable_fatOf 124 Nat.one_pos (List.forall_mem_singleton.mpr h)

end Sample

/-- The table that the layout checks pass on is accepted exactly when it is
canonical and the FSInfo sector names its first free cluster. -/
theorem fatEntries_accepted_iff {partition : Bytes} {regions : FatRegions}
    (h : rawFat32Regions partition = .ok regions) :
    validateCanonicalFatEntries regions.fat regions.totalSectors regions.dataLba
        regions.fsInfo = .ok () ↔
      ∃ f, CanonicalTable regions.fat regions.entryCount f ∧
        496 ≤ regions.fsInfo.length ∧ field regions.fsInfo 492 4 = f :=
  validateCanonicalFatEntries_eq_ok (dataLba_lt_of_regions h).le

theorem fatEntries_accepted_iff_sample :
    rawFat32Regions (samplePartition 0x0fffffff) = .ok (sampleRegions 0x0fffffff) ∧
      validateCanonicalFatEntries (sampleFat 0x0fffffff) 12 10 (sampleFsInfo 3) = .ok () :=
  ⟨rawFat32Regions_sample _, (fatEntries_accepted_iff (rawFat32Regions_sample _)).mpr
    ⟨3, sampleFat_table (by decide), by rw [sampleRegions, length_sampleFsInfo]; decide,
      sampleFsInfo_hint⟩⟩

end PolytopeOS.Host
