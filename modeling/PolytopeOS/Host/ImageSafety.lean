import PolytopeOS.Host.Fat

/-!
# The raw image checks do not panic

The checks index and slice untrusted bytes directly and add untrusted words
without overflow checks. Each of these operations is covered by a check made
before it, so that every input is accepted or rejected.
-/

namespace PolytopeOS.Host
open Corelib Arch

/-- The start of `validate_image_bytes`, before any library reads the image. -/
def validateImageLayout (image : Bytes) : Exec String Unit := do
  let length := image.length
  Exec.ensure (image.length = diskBytes) s!"image size is {length}; expected {diskBytes}"
  validateRawGptLayout image

def validateUefiLoader (bytes : Bytes) : Exec String Unit := do
  Exec.ensure (0x40 ≤ bytes.length) "UEFI loader is too small for a DOS header"
  Exec.ensure ((← sliceAt bytes 0 2) = ascii "MZ") "UEFI loader lacks the MZ signature"
  let peOffset ← Exec.okOr (readU32 bytes 0x3c) "UEFI loader lacks a PE header offset"
  let peOffset ← Exec.okOr (checkedSize peOffset.toNat) "PE header offset does not fit usize"
  let signatureEnd ← Exec.okOr (checkedSize (peOffset + 4)) "PE signature offset overflowed"
  Exec.ensure (slice bytes peOffset signatureEnd = some (ascii "PE\x00\x00"))
    "UEFI loader lacks the PE signature"
  Exec.ensure (readU16 bytes (← addSize peOffset 4) = some 0x8664) "UEFI loader is not x86_64"
  let optional ← Exec.okOr (checkedSize (peOffset + 24)) "PE optional-header offset overflowed"
  Exec.ensure (readU16 bytes optional = some 0x20b) "UEFI loader is not PE32+"
  Exec.ensure (readU16 bytes (← addSize optional 68) = some 10)
    "PE subsystem is not EFI_APPLICATION"

section Ranges

variable {bytes part : Bytes} {startLba endLba lba : UInt64}

theorem lbaToOffset_ne_panic (lba : UInt64) : lbaToOffset lba ≠ .panic :=
  Exec.okOr_bind_ne_panic fun _ _ => Exec.okOr_ne_panic _ _

theorem lbaToOffset_eq_ok {offset : ℕ} (h : lbaToOffset lba = .ok offset) :
    offset = lba.toNat * 512 := by
  simp only [lbaToOffset, Exec.bind_eq_ok, Exec.okOr_eq_ok, checkedMul_eq_some,
    checkedSize_eq_some] at h
  obtain ⟨word, hword, -, rfl⟩ := h
  exact hword

theorem lbaRange_ne_panic (bytes : Bytes) (startLba endLba : UInt64) :
    lbaRange bytes startLba endLba ≠ .panic := by
  refine Exec.ensure_bind_ne_panic fun _ => ?_
  refine Exec.bind_ne_panic (lbaToOffset_ne_panic _) fun _ _ => ?_
  refine Exec.bind_ne_panic (lbaToOffset_ne_panic _) fun _ _ => ?_
  exact Exec.okOr_ne_panic _ _

/-- A range that is returned is as long as its sectors. -/
theorem length_of_lbaRange (h : lbaRange bytes startLba endLba = .ok part) :
    part.length = (endLba.toNat - startLba.toNat) * 512 := by
  rw [lbaRange, Exec.check_bind_eq_ok, Exec.bind_eq_ok] at h
  obtain ⟨-, start, hstart, hrest⟩ := h
  obtain ⟨finish, hfinish, hslice⟩ := Exec.bind_eq_ok.mp hrest
  rw [length_of_slice (Exec.okOr_eq_ok.mp hslice), lbaToOffset_eq_ok hstart,
    lbaToOffset_eq_ok hfinish, Nat.sub_mul]

theorem sector_ne_panic (bytes : Bytes) (lba : UInt64) : sector bytes lba ≠ .panic :=
  Exec.okOr_bind_ne_panic fun _ _ => lbaRange_ne_panic _ _ _

theorem length_of_sector (h : sector bytes lba = .ok part) : part.length = 512 := by
  simp only [sector, Exec.bind_eq_ok, Exec.okOr_eq_ok, checkedAdd_eq_some] at h
  obtain ⟨next, hnext, hrange⟩ := h
  rw [length_of_lbaRange hrange, hnext]
  change (lba.toNat + 1 - lba.toNat) * 512 = 512
  rw [Nat.add_sub_cancel_left]

theorem ensureZero_ne_panic (bytes : Bytes) (description : String) :
    ensureZero bytes description ≠ .panic :=
  Exec.ensure_ne_panic _ _

end Ranges

section Gpt

variable {header image : Bytes}

theorem validateRawGptHeader_ne_panic {currentLba backupLba entriesLba : UInt64}
    (hlen : header.length = 512) :
    validateRawGptHeader header currentLba backupLba entriesLba ≠ .panic := by
  rw [validateRawGptHeader, sliceAt_of_le (by omega) (by omega),
    sliceAt_of_le (by omega) (by omega)]
  simp only [Exec.ok_bind]
  iterate 10 refine Exec.ensure_bind_ne_panic fun _ => ?_
  exact ensureZero_ne_panic _ _

theorem validateProtectiveMbr_ne_panic (hlen : 512 ≤ image.length) :
    validateProtectiveMbr image ≠ .panic := by
  rw [validateProtectiveMbr, sliceAt_of_le (by omega) (by omega),
    sliceAt_of_le (by omega) (by omega), sliceAt_of_le (by omega) (by omega)]
  simp only [Exec.ok_bind]
  refine Exec.bind_ne_panic (ensureZero_ne_panic _ _) fun _ _ => ?_
  refine Exec.ensure_bind_ne_panic fun _ => ?_
  refine Exec.bind_ne_panic (ensureZero_ne_panic _ _) fun _ _ => ?_
  exact Exec.ensure_ne_panic _ _

theorem validateGptHeaders_ne_panic (image : Bytes) : validateGptHeaders image ≠ .panic := by
  refine Exec.bind_ne_panic (sector_ne_panic _ _) fun primary hprimary => ?_
  refine Exec.bind_ne_panic (sector_ne_panic _ _) fun backup hbackup => ?_
  have hp : primary.length = 512 := length_of_sector hprimary
  have hb : backup.length = 512 := length_of_sector hbackup
  refine Exec.bind_ne_panic (validateRawGptHeader_ne_panic hp) fun _ _ => ?_
  refine Exec.bind_ne_panic (validateRawGptHeader_ne_panic hb) fun _ _ => ?_
  rw [sliceAt_of_le (by omega) (by omega), sliceAt_of_le (by omega) (by omega),
    sliceAt_of_le (by omega) (by omega), sliceAt_of_le (by omega) (by omega)]
  exact Exec.ensure_ne_panic _ _

theorem validateGptEntries_ne_panic (image : Bytes) : validateGptEntries image ≠ .panic := by
  refine Exec.bind_ne_panic (lbaRange_ne_panic _ _ _) fun entries hentries => ?_
  refine Exec.bind_ne_panic (lbaRange_ne_panic _ _ _) fun _ _ => ?_
  have hlen : entries.length = 16384 := length_of_lbaRange hentries
  refine Exec.ensure_bind_ne_panic fun _ => ?_
  rw [sliceAt_of_le (by decide) (by rw [hlen]; decide),
    sliceAt_of_le (by decide) (by rw [hlen]; decide)]
  refine Exec.ensure_bind_ne_panic fun _ => ?_
  exact ensureZero_ne_panic _ _

/-- Sector 0 is sliced without a check of its own, so the length check comes first. -/
theorem validateImageLayout_ne_panic (image : Bytes) : validateImageLayout image ≠ .panic := by
  refine Exec.ensure_bind_ne_panic fun hlen => ?_
  have hsector : 512 ≤ image.length := hlen ▸ by decide
  refine Exec.bind_ne_panic (validateProtectiveMbr_ne_panic hsector) fun _ _ => ?_
  refine Exec.bind_ne_panic (validateGptHeaders_ne_panic image) fun _ _ => ?_
  refine Exec.bind_ne_panic (validateGptEntries_ne_panic image) fun _ _ => ?_
  refine Exec.bind_ne_panic (lbaRange_ne_panic _ _ _) fun _ _ => ?_
  refine Exec.bind_ne_panic (ensureZero_ne_panic _ _) fun _ _ => ?_
  refine Exec.bind_ne_panic (lbaRange_ne_panic _ _ _) fun _ _ => ?_
  exact ensureZero_ne_panic _ _

end Gpt

section Fat

variable {partition boot fat fsInfo : Bytes} {entryCount : ℕ}

theorem validateFatBootSector_ne_panic (hlen : boot.length = 512) :
    validateFatBootSector partition boot ≠ .panic := by
  rw [validateFatBootSector, sliceAt_of_le (by omega) (by omega), byteAt_of_lt (by omega),
    byteAt_of_lt (by omega), byteAt_of_lt (by omega), sliceAt_of_le (by omega) le_rfl]
  simp only [Exec.ok_bind]
  iterate 9 refine Exec.ensure_bind_ne_panic fun _ => ?_
  refine Exec.okOr_bind_ne_panic fun _ _ => ?_
  refine Exec.ensure_bind_ne_panic fun _ => ?_
  refine Exec.okOr_bind_ne_panic fun _ _ => ?_
  iterate 7 refine Exec.ensure_bind_ne_panic fun _ => ?_
  simp

theorem validateFsInfo_ne_panic (hlen : fsInfo.length = 512) : validateFsInfo fsInfo ≠ .panic := by
  rw [validateFsInfo, sliceAt_of_le (by omega) (by omega)]
  iterate 3 refine Exec.ensure_bind_ne_panic fun _ => ?_
  exact Exec.ensure_ne_panic _ _

/-- The two tables end below `2 ^ 34`, so their bounds do not overflow. -/
theorem fatBounds (fatSectors : UInt32) :
    ∃ second : UInt64, (addWord 8 fatSectors.toUInt64 : Exec String UInt64) = .ok second ∧
      (addWord second fatSectors.toUInt64 : Exec String UInt64) ≠ .panic := by
  have hlt := fatSectors.toNat_lt
  have hsum : (8 + fatSectors.toUInt64).toNat = 8 + fatSectors.toNat := by
    rw [UInt64.toNat_add, UInt32.toNat_toUInt64]
    change (8 + fatSectors.toNat) % 2 ^ 64 = _
    omega
  refine ⟨8 + fatSectors.toUInt64, addWord_of_lt ?_, ?_⟩
  · rw [UInt32.toNat_toUInt64]
    change 8 + fatSectors.toNat < 2 ^ 64
    omega
  · rw [addWord_of_lt (by rw [hsum, UInt32.toNat_toUInt64]; omega)]
    simp

theorem rawFat32Regions_ne_panic (partition : Bytes) : rawFat32Regions partition ≠ .panic := by
  refine Exec.bind_ne_panic (sector_ne_panic _ _) fun boot hboot => ?_
  refine Exec.bind_ne_panic (validateFatBootSector_ne_panic (length_of_sector hboot))
    fun counts _ => ?_
  obtain ⟨expectedSectors, fatSectors⟩ := counts
  refine Exec.bind_ne_panic (sector_ne_panic _ _) fun _ _ => ?_
  refine Exec.ensure_bind_ne_panic fun _ => ?_
  refine Exec.bind_ne_panic (lbaRange_ne_panic _ _ _) fun _ _ => ?_
  refine Exec.bind_ne_panic (ensureZero_ne_panic _ _) fun _ _ => ?_
  refine Exec.bind_ne_panic (sector_ne_panic _ _) fun _ _ => ?_
  refine Exec.bind_ne_panic (ensureZero_ne_panic _ _) fun _ _ => ?_
  refine Exec.bind_ne_panic (sector_ne_panic _ _) fun fsInfo hfsInfo => ?_
  refine Exec.bind_ne_panic (validateFsInfo_ne_panic (length_of_sector hfsInfo)) fun _ _ => ?_
  obtain ⟨second, hsecond, hdata⟩ := fatBounds fatSectors
  dsimp only
  rw [hsecond, Exec.ok_bind]
  refine Exec.bind_ne_panic hdata fun _ _ => ?_
  refine Exec.ensure_bind_ne_panic fun _ => ?_
  refine Exec.bind_ne_panic (lbaRange_ne_panic _ _ _) fun _ _ => ?_
  refine Exec.bind_ne_panic (lbaRange_ne_panic _ _ _) fun _ _ => ?_
  refine Exec.ensure_bind_ne_panic fun _ => ?_
  simp

theorem scanCluster_ne_panic {firstFree : Option ℕ} {c : ℕ} (hc : c * 4 < 2 ^ 64) :
    scanCluster fat entryCount firstFree c ≠ .panic := by
  rw [scanCluster, mulSize_of_lt hc, Exec.ok_bind]
  refine Exec.okOr_bind_ne_panic fun raw _ => ?_
  dsimp only
  split
  · simp
  · refine Exec.ensure_bind_ne_panic fun _ => ?_
    refine Exec.ensure_bind_ne_panic fun _ => ?_
    simp

/-- The length check of the table covers every index that the scan computes. -/
theorem validateCanonicalFatEntries_ne_panic (fat : Bytes) (totalSectors : UInt32)
    (dataLba : UInt64) (fsInfo : Bytes) :
    validateCanonicalFatEntries fat totalSectors dataLba fsInfo ≠ .panic := by
  refine Exec.okOr_bind_ne_panic fun totalClusters hclusters => ?_
  have hle : totalClusters.toNat ≤ totalSectors.toNat := by
    unfold checkedSub at hclusters
    split at hclusters
    · next hsub =>
      obtain rfl := Option.some.inj hclusters
      rw [UInt64.toNat_sub_of_le _ _ hsub, UInt32.toNat_toUInt64]
      exact Nat.sub_le _ _
    · cases hclusters
  have htotal := totalSectors.toNat_lt
  rw [addWord_of_lt (by change totalClusters.toNat + 2 < _; omega), Exec.ok_bind]
  refine Exec.okOr_bind_ne_panic fun entryCount _ => ?_
  refine Exec.ensure_bind_ne_panic fun hfits => ?_
  obtain ⟨hword, hlen⟩ : entryCount * 4 < 2 ^ 64 ∧ entryCount * 4 ≤ fat.length := by
    by_cases hword : entryCount * 4 < 2 ^ 64
    · rw [checkedSize_of_lt hword] at hfits
      exact ⟨hword, of_decide_eq_true hfits⟩
    · rw [checkedSize, if_neg hword] at hfits
      cases hfits
  refine Exec.ensure_bind_ne_panic fun _ => ?_
  refine Exec.bind_ne_panic (Exec.foldIdx_ne_panic fun c hc _ _ => ?_) fun firstFree _ => ?_
  · rw [List.mem_range'_1] at hc
    exact scanCluster_ne_panic (by omega)
  · rw [mulSize_of_lt hword, Exec.ok_bind, sliceAt_of_le hlen le_rfl, Exec.ok_bind]
    refine Exec.ensure_bind_ne_panic fun _ => ?_
    refine Exec.okOr_bind_ne_panic fun _ _ => ?_
    refine Exec.okOr_bind_ne_panic fun _ _ => ?_
    exact Exec.ensure_ne_panic _ _

theorem validateRawFat32Layout_ne_panic (partition : Bytes) :
    validateRawFat32Layout partition ≠ .panic :=
  Exec.bind_ne_panic (rawFat32Regions_ne_panic partition) fun _ _ =>
    validateCanonicalFatEntries_ne_panic _ _ _ _

end Fat

/-- Offsets into the loader start from a 32-bit word, so their sums do not overflow. -/
theorem validateUefiLoader_ne_panic (bytes : Bytes) : validateUefiLoader bytes ≠ .panic := by
  refine Exec.ensure_bind_ne_panic fun hlen => ?_
  rw [sliceAt_of_le (by omega) (by omega), Exec.ok_bind]
  refine Exec.ensure_bind_ne_panic fun _ => ?_
  refine Exec.okOr_bind_ne_panic fun word _ => ?_
  refine Exec.okOr_bind_ne_panic fun peOffset hpe => ?_
  obtain ⟨-, rfl⟩ := checkedSize_eq_some.mp hpe
  have hword := word.toNat_lt
  refine Exec.okOr_bind_ne_panic fun _ _ => ?_
  refine Exec.ensure_bind_ne_panic fun _ => ?_
  rw [addSize_of_lt (by omega), Exec.ok_bind]
  refine Exec.ensure_bind_ne_panic fun _ => ?_
  refine Exec.okOr_bind_ne_panic fun optional hoptional => ?_
  obtain ⟨-, rfl⟩ := checkedSize_eq_some.mp hoptional
  refine Exec.ensure_bind_ne_panic fun _ => ?_
  rw [addSize_of_lt (by omega), Exec.ok_bind]
  exact Exec.ensure_ne_panic _ _

/-- The conversions and sums of constants, which the model writes as words. -/
structure ConstantsFit : Prop where
  entryCount : checkedU32 gptEntryCount = some (UInt32.ofNat gptEntryCount)
  entryBytes : checkedU32 gptEntryBytes = some (UInt32.ofNat gptEntryBytes)
  blockBytes : checkedSize logicalBlockBytes = some (UInt64.ofNat logicalBlockBytes).toNat
  primaryEnd : checkedAdd 2 gptEntryArraySectors = some (2 + gptEntryArraySectors)
  backupEnd : checkedAdd backupGptEntriesLba gptEntryArraySectors =
    some (backupGptEntriesLba + gptEntryArraySectors)
  lastUsable : checkedSub backupGptEntriesLba 1 = some (backupGptEntriesLba - 1)
  espEnd : checkedAdd espLastLba 1 = some (espLastLba + 1)
  entryArray : checkedSize (gptEntryCount * gptEntryBytes) = some (gptEntryCount * gptEntryBytes)

theorem imageValidators_ne_panic :
    (∀ image : Bytes, validateImageLayout image ≠ .panic) ∧
    (∀ partition : Bytes, validateRawFat32Layout partition ≠ .panic) ∧
    (∀ loader : Bytes, validateUefiLoader loader ≠ .panic) ∧ ConstantsFit :=
  ⟨validateImageLayout_ne_panic, validateRawFat32Layout_ne_panic, validateUefiLoader_ne_panic,
    by decide, by decide, by decide, by decide, by decide, by decide, by decide, by decide⟩

end PolytopeOS.Host
