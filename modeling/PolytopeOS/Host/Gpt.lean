import PolytopeOS.Arch.Console
import PolytopeOS.Corelib.Layout

/-!
# Raw GPT layout of an image

The bytes outside the EFI system partition, checked field by field before any
library interprets them. Errors are the messages the checks return.
-/

namespace PolytopeOS.Host
open Corelib Arch

def diskBytes : ℕ := 64 * 1024 * 1024

def logicalBlockBytes : ℕ := 512

def espFirstLba : UInt64 := 2048

/-- The last LBA of the partition, inclusive. -/
def espLastLba : UInt64 := 129023

def gptEntryCount : ℕ := 128

def gptEntryBytes : ℕ := 128

def gptEntryArraySectors : UInt64 := 32

def backupGptEntriesLba : UInt64 := 131039

def backupGptHeaderLba : UInt64 := 131071

def lbaToOffset (lba : UInt64) : Exec String ℕ := do
  let bytes ← Exec.okOr (checkedMul lba (UInt64.ofNat logicalBlockBytes))
    "LBA byte offset overflowed u64"
  Exec.okOr (checkedSize bytes.toNat) "LBA byte offset does not fit usize"

def lbaRange (bytes : Bytes) (startLba endLba : UInt64) : Exec String Bytes := do
  Exec.ensure (startLba ≤ endLba) "invalid descending LBA range"
  let start ← lbaToOffset startLba
  let finish ← lbaToOffset endLba
  Exec.okOr (slice bytes start finish)
    s!"LBA range {startLba}..{endLba} is outside the artifact"

def sector (bytes : Bytes) (lba : UInt64) : Exec String Bytes := do
  let next ← Exec.okOr (checkedAdd lba 1) "sector LBA overflowed"
  lbaRange bytes lba next

def ensureZero (bytes : Bytes) (description : String) : Exec String Unit :=
  Exec.ensure (bytes.all (· == 0)) s!"{description} contains nonzero data"

def validateRawGptHeader (header : Bytes) (currentLba backupLba entriesLba : UInt64) :
    Exec String Unit := do
  Exec.ensure ((← sliceAt header 0 8) = ascii "EFI PART") "GPT header signature is invalid"
  Exec.ensure (readU32 header 8 = some 0x00010000) "unsupported GPT revision"
  Exec.ensure (readU32 header 12 = some 92) "GPT header size is not 92 bytes"
  Exec.ensure (readU32 header 20 = some 0) "GPT reserved header field is nonzero"
  Exec.ensure (readU64 header 24 = some currentLba) "GPT current-LBA mismatch"
  Exec.ensure (readU64 header 32 = some backupLba) "GPT backup-LBA mismatch"
  Exec.ensure (readU64 header 40 = some 34) "GPT first-usable LBA mismatch"
  Exec.ensure (readU64 header 48 = some (backupGptEntriesLba - 1)) "GPT last-usable LBA mismatch"
  Exec.ensure (readU64 header 72 = some entriesLba) "GPT entry-array LBA mismatch"
  Exec.ensure (readU32 header 80 = some (UInt32.ofNat gptEntryCount) ∧
      readU32 header 84 = some (UInt32.ofNat gptEntryBytes))
    "GPT entry count or size is not canonical"
  ensureZero (← sliceAt header 92 header.length) "GPT header sector padding"

def protectiveEntry : Bytes :=
  [0x00, 0x00, 0x02, 0x00, 0xee, 0xff, 0xff, 0xff, 0x01, 0x00, 0x00, 0x00, 0xff, 0xff, 0x01, 0x00]

/-- The checks of sector 0, up to the signature. -/
def validateProtectiveMbr (image : Bytes) : Exec String Unit := do
  ensureZero (← sliceAt image 0 446) "protective MBR bootstrap area"
  Exec.ensure (slice image 446 462 = some protectiveEntry) "protective MBR entry is not canonical"
  ensureZero (← sliceAt image 462 510) "unused protective MBR entries"
  Exec.ensure ((← sliceAt image 510 512) = [0x55, 0xaa]) "protective MBR signature is invalid"

/-- The checks of the two headers. -/
def validateGptHeaders (image : Bytes) : Exec String Unit := do
  let primaryHeader ← sector image 1
  let backupHeader ← sector image backupGptHeaderLba
  validateRawGptHeader primaryHeader 1 backupGptHeaderLba 2
  validateRawGptHeader backupHeader backupGptHeaderLba 1 backupGptEntriesLba
  Exec.ensure ((← sliceAt primaryHeader 56 72) = (← sliceAt backupHeader 56 72) ∧
      (← sliceAt primaryHeader 88 92) = (← sliceAt backupHeader 88 92))
    "primary and backup GPT identity or entry-array CRC differs"

/-- The checks of the two entry arrays. -/
def validateGptEntries (image : Bytes) : Exec String Unit := do
  let primaryEntries ← lbaRange image 2 (2 + gptEntryArraySectors)
  let backupEntries ← lbaRange image backupGptEntriesLba (backupGptEntriesLba + gptEntryArraySectors)
  Exec.ensure (primaryEntries = backupEntries) "primary and backup GPT entry arrays differ"
  Exec.ensure (∃ byte ∈ (← sliceAt primaryEntries 0 gptEntryBytes), byte ≠ 0)
    "GPT partition entry 1 is empty"
  ensureZero (← sliceAt primaryEntries gptEntryBytes (gptEntryCount * gptEntryBytes))
    "unused GPT partition entries"

/-- The checks of sector 0, of the headers and of the entries, then the two gaps. -/
def validateRawGptLayout (image : Bytes) : Exec String Unit := do
  validateProtectiveMbr image
  validateGptHeaders image
  validateGptEntries image
  ensureZero (← lbaRange image 34 espFirstLba) "pre-ESP alignment sectors"
  ensureZero (← lbaRange image (espLastLba + 1) backupGptEntriesLba) "post-ESP alignment sectors"

theorem lbaToOffset_eq {lba : UInt64} (h : lba.toNat * 512 < 2 ^ 64) :
    lbaToOffset lba = .ok (lba.toNat * 512) := by
  have hblock : (UInt64.ofNat logicalBlockBytes).toNat = 512 := rfl
  have hmul : (lba * UInt64.ofNat logicalBlockBytes).toNat = lba.toNat * 512 := by
    rw [UInt64.toNat_mul, hblock, Nat.mod_eq_of_lt h]
  rw [lbaToOffset, checkedMul, hblock, if_pos h, Exec.okOr_some, Exec.ok_bind, hmul,
    checkedSize_of_lt h, Exec.okOr_some]

/-- A range of sectors inside the artifact is its bytes. -/
theorem lbaRange_eq {bytes : Bytes} {startLba endLba : UInt64} {start n : ℕ}
    (hstart : startLba.toNat * 512 = start) (hend : endLba.toNat * 512 = start + n)
    (hbytes : start + n ≤ bytes.length) (hlen : bytes.length < 2 ^ 64) :
    lbaRange bytes startLba endLba = .ok ((bytes.drop start).take n) := by
  have hle : startLba ≤ endLba := by
    rw [UInt64.le_iff_toNat_le]
    omega
  rw [lbaRange, Exec.ensure, if_pos hle, Exec.ok_bind, lbaToOffset_eq (by omega), Exec.ok_bind,
    lbaToOffset_eq (by omega), Exec.ok_bind, hstart, hend, slice_eq_some (by omega) hbytes,
    Exec.okOr_some, Nat.add_sub_cancel_left]

theorem ensureZero_eq_ok {bytes : Bytes} {description : String} {u : Unit} :
    ensureZero bytes description = .ok u ↔ bytes = zeros bytes.length := by
  rw [ensureZero, Exec.ensure_eq_ok, all_zero_iff]

/-- What a header prescribes; its own checksum, the disk GUID and the checksum of
the entries are left out. -/
def headerPieces (currentLba backupLba entriesLba : UInt64) : List Piece :=
  [⟨0, ascii "EFI PART"⟩, ⟨8, u32ToLe 0x00010000⟩, ⟨12, u32ToLe 92⟩, ⟨20, u32ToLe 0⟩,
    ⟨24, u64ToLe currentLba⟩, ⟨32, u64ToLe backupLba⟩, ⟨40, u64ToLe 34⟩,
    ⟨48, u64ToLe (backupGptEntriesLba - 1)⟩, ⟨72, u64ToLe entriesLba⟩,
    ⟨80, u32ToLe (UInt32.ofNat gptEntryCount)⟩, ⟨84, u32ToLe (UInt32.ofNat gptEntryBytes)⟩,
    ⟨92, zeros 420⟩]

theorem length_efiPart : (ascii "EFI PART").length = 8 := by decide +kernel

variable {header image : Bytes} {currentLba backupLba entriesLba : UInt64}

theorem validateRawGptHeader_eq_ok (hlen : header.length = 512) :
    validateRawGptHeader header currentLba backupLba entriesLba = .ok () ↔
      ∀ p ∈ headerPieces currentLba backupLba entriesLba, p.Holds header := by
  have hrest : (header.drop 92).take (header.length - 92) = (header.drop 92).take 420 := by
    rw [hlen]
  have hzero : ((header.drop 92).take 420).length = 420 := by simp [hlen]
  rw [validateRawGptHeader, sliceAt_of_le (by omega) (by omega),
    sliceAt_of_le (by omega) (by omega), hrest]
  simp only [Exec.ok_bind, Exec.check_bind_eq_ok, Exec.ensure_eq_ok, ensureZero_eq_ok, hzero,
    headerPieces, List.forall_mem_cons, Piece.Holds, length_efiPart, length_u32ToLe,
    length_u64ToLe, length_zeros]
  rw [readU32_eq_some_iff (by omega) (by omega), readU32_eq_some_iff (by omega) (by omega),
    readU32_eq_some_iff (by omega) (by omega), readU64_eq_some_iff (by omega) (by omega),
    readU64_eq_some_iff (by omega) (by omega), readU64_eq_some_iff (by omega) (by omega),
    readU64_eq_some_iff (by omega) (by omega), readU64_eq_some_iff (by omega) (by omega),
    readU32_eq_some_iff (by omega) (by omega), readU32_eq_some_iff (by omega) (by omega)]
  simp [and_assoc]

/-- The bytes of a header that differ from disk to disk. -/
def HeaderFree (k : ℕ) : Prop := (16 ≤ k ∧ k < 20) ∨ (56 ≤ k ∧ k < 72) ∨ (88 ≤ k ∧ k < 92)

/-- The other bytes of a header sector are all prescribed. -/
theorem headerPieces_cover {k : ℕ} (hk : k < 512) (hfree : ¬HeaderFree k) :
    ∃ p ∈ headerPieces currentLba backupLba entriesLba, p.Covers k := by
  simp only [headerPieces, List.mem_cons, exists_eq_or_imp, Piece.Covers, Piece.finish,
    length_efiPart, length_u32ToLe, length_u64ToLe, length_zeros]
  unfold HeaderFree at hfree
  omega

theorem finish_le_of_mem_headerPieces {p : Piece}
    (hp : p ∈ headerPieces currentLba backupLba entriesLba) : p.finish ≤ 512 := by
  revert p
  simp [headerPieces, Piece.finish, length_efiPart]

def primaryHeader : ℕ := 1 * 512

def backupHeader : ℕ := 131071 * 512

def primaryEntries : ℕ := 2 * 512

def backupEntries : ℕ := 131039 * 512

def mbrPieces : List Piece :=
  [⟨0, zeros 446⟩, ⟨446, protectiveEntry⟩, ⟨462, zeros 48⟩, ⟨510, [0x55, 0xaa]⟩]

def primaryHeaderPieces : List Piece :=
  (headerPieces 1 backupGptHeaderLba 2).map (Piece.shift primaryHeader)

def backupHeaderPieces : List Piece :=
  (headerPieces backupGptHeaderLba 1 backupGptEntriesLba).map (Piece.shift backupHeader)

/-- The entries after the first, in both arrays. -/
def unusedPieces : List Piece :=
  [⟨primaryEntries + 128, zeros 16256⟩, ⟨backupEntries + 128, zeros 16256⟩]

/-- The sectors between the tables and the partition. -/
def gapPieces : List Piece :=
  [⟨34 * 512, zeros (2014 * 512)⟩, ⟨129024 * 512, zeros (2015 * 512)⟩]

/-- What the checks prescribe for every image. -/
def diskPieces : List Piece :=
  mbrPieces ++ primaryHeaderPieces ++ backupHeaderPieces ++ unusedPieces ++ gapPieces

/-- An accepted image: the prescribed pieces, and the free bytes that the backup
repeats. -/
structure RawGpt (image : Bytes) : Prop where
  pieces : ∀ p ∈ diskPieces, p.Holds image
  guid : (image.drop (primaryHeader + 56)).take 16 = (image.drop (backupHeader + 56)).take 16
  crc : (image.drop (primaryHeader + 88)).take 4 = (image.drop (backupHeader + 88)).take 4
  entry : (image.drop primaryEntries).take 128 = (image.drop backupEntries).take 128
  entry_nonzero : ∃ byte ∈ (image.drop primaryEntries).take 128, byte ≠ 0

theorem validateProtectiveMbr_eq_ok (hlen : image.length = diskBytes) :
    validateProtectiveMbr image = .ok () ↔ ∀ p ∈ mbrPieces, p.Holds image := by
  unfold diskBytes at hlen
  rw [validateProtectiveMbr, sliceAt_of_le (by omega) (by omega),
    sliceAt_of_le (by omega) (by omega), sliceAt_of_le (by omega) (by omega),
    slice_eq_some (by omega) (by omega)]
  simp only [Exec.ok_bind, Exec.check_bind_eq_ok, Exec.ensure_eq_ok, ensureZero_eq_ok,
    Option.some_inj, mbrPieces, List.forall_mem_cons, Piece.Holds, length_zeros]
  rw [length_range (by omega), length_range (by omega)]
  simp only [List.not_mem_nil, false_imp_iff, implies_true, and_true]
  exact Iff.rfl

theorem toNat_next {lba : UInt64} (h : lba.toNat + 1 < 2 ^ 64) : (lba + 1).toNat = lba.toNat + 1 := by
  rw [UInt64.toNat_add]
  exact Nat.mod_eq_of_lt h

theorem sector_eq_lbaRange {bytes : Bytes} {lba : UInt64} (h : lba.toNat + 1 < 2 ^ 64) :
    sector bytes lba = lbaRange bytes lba (lba + 1) := by
  have hadd : checkedAdd lba 1 = some (lba + 1) := checkedAdd_eq_some.mpr (toNat_next h)
  rw [sector, hadd, Exec.okOr_some, Exec.ok_bind]

theorem sector_eq {lba : UInt64} {start : ℕ} (hlen : image.length = diskBytes)
    (hstart : lba.toNat * 512 = start) (h : lba.toNat < 131072) :
    sector image lba = .ok ((image.drop start).take 512) := by
  unfold diskBytes at hlen
  have hend : (lba + 1).toNat * 512 = start + 512 := by
    rw [toNat_next (by omega), Nat.add_mul, hstart]
  rw [sector_eq_lbaRange (by omega), lbaRange_eq hstart hend (by omega) (by omega)]

theorem holds_map_shift {base : ℕ} :
    (∀ p ∈ (headerPieces currentLba backupLba entriesLba).map (Piece.shift base), p.Holds image) ↔
      ∀ p ∈ headerPieces currentLba backupLba entriesLba, p.Holds ((image.drop base).take 512) := by
  rw [List.forall_mem_map]
  apply forall₂_congr
  intro p hp
  exact Piece.holds_shift (finish_le_of_mem_headerPieces hp)

theorem validateGptHeaders_eq_ok (hlen : image.length = diskBytes) :
    validateGptHeaders image = .ok () ↔
      (∀ p ∈ primaryHeaderPieces, p.Holds image) ∧ (∀ p ∈ backupHeaderPieces, p.Holds image) ∧
      (image.drop (primaryHeader + 56)).take 16 = (image.drop (backupHeader + 56)).take 16 ∧
      (image.drop (primaryHeader + 88)).take 4 = (image.drop (backupHeader + 88)).take 4 := by
  have hprimary : sector image 1 = .ok ((image.drop primaryHeader).take 512) :=
    sector_eq hlen rfl (by decide)
  have hbackup : sector image backupGptHeaderLba = .ok ((image.drop backupHeader).take 512) :=
    sector_eq hlen rfl (by decide)
  have hp : ((image.drop primaryHeader).take 512).length = 512 :=
    length_range (by rw [hlen]; decide)
  have hb : ((image.drop backupHeader).take 512).length = 512 :=
    length_range (by rw [hlen]; decide)
  rw [validateGptHeaders, hprimary, Exec.ok_bind, hbackup, Exec.ok_bind,
    sliceAt_of_le (by omega) (by omega), sliceAt_of_le (by omega) (by omega),
    sliceAt_of_le (by omega) (by omega), sliceAt_of_le (by omega) (by omega)]
  simp only [Exec.ok_bind, Exec.check_bind_eq_ok, Exec.ensure_eq_ok, primaryHeaderPieces,
    backupHeaderPieces, holds_map_shift, validateRawGptHeader_eq_ok hp,
    validateRawGptHeader_eq_ok hb]
  rw [range_range (by omega), range_range (by omega), range_range (by omega),
    range_range (by omega)]

theorem validateGptEntries_eq_ok (hlen : image.length = diskBytes) :
    validateGptEntries image = .ok () ↔
      (∀ p ∈ unusedPieces, p.Holds image) ∧
      (image.drop primaryEntries).take 128 = (image.drop backupEntries).take 128 ∧
      ∃ byte ∈ (image.drop primaryEntries).take 128, byte ≠ 0 := by
  have hdisk : diskBytes = 67108864 := rfl
  have hprimary : lbaRange image 2 (2 + gptEntryArraySectors) =
      .ok ((image.drop primaryEntries).take 16384) :=
    lbaRange_eq (by decide) (by decide) (by rw [hlen]; decide) (by omega)
  have hbackup : lbaRange image backupGptEntriesLba (backupGptEntriesLba + gptEntryArraySectors) =
      .ok ((image.drop backupEntries).take 16384) :=
    lbaRange_eq (by decide) (by decide) (by rw [hlen]; decide) (by omega)
  have hentries : ((image.drop primaryEntries).take 16384).length = 16384 :=
    length_range (by rw [hlen]; decide)
  have hzero : ((image.drop (primaryEntries + 128)).take 16256).length = 16256 :=
    length_range (by rw [hlen]; decide)
  -- each array is its first entry and the unused rest
  have hsplit : (image.drop primaryEntries).take 16384 = (image.drop backupEntries).take 16384 ↔
      (image.drop primaryEntries).take 128 = (image.drop backupEntries).take 128 ∧
      (image.drop (primaryEntries + 128)).take 16256 =
        (image.drop (backupEntries + 128)).take 16256 :=
    range_add_eq_iff (n := 128) (m := 16256)
  have hunused : (((image.drop primaryEntries).take 16384).drop gptEntryBytes).take
      (gptEntryCount * gptEntryBytes - gptEntryBytes) =
        (image.drop (primaryEntries + 128)).take 16256 :=
    range_range (by decide)
  have hone : (((image.drop primaryEntries).take 16384).drop 0).take (gptEntryBytes - 0) =
      (image.drop primaryEntries).take 128 := List.take_take
  rw [validateGptEntries, hprimary, Exec.ok_bind, hbackup, Exec.ok_bind,
    sliceAt_of_le (by decide) (by rw [hentries]; decide),
    sliceAt_of_le (by decide) (by rw [hentries]; decide), hunused, hone]
  simp only [Exec.ok_bind, Exec.check_bind_eq_ok, Exec.ensure_eq_ok, ensureZero_eq_ok, hzero,
    hsplit, unusedPieces, List.forall_mem_cons, Piece.Holds, length_zeros]
  simp only [List.not_mem_nil, false_imp_iff, implies_true, and_true]
  constructor
  · rintro ⟨⟨hentry, hsame⟩, hnonzero, hunused⟩
    exact ⟨⟨hunused, hsame ▸ hunused⟩, hentry, hnonzero⟩
  · rintro ⟨⟨hunused, hbackup⟩, hentry, hnonzero⟩
    exact ⟨⟨hentry, hunused.trans hbackup.symm⟩, hnonzero, hunused⟩

theorem ensureZero_range {start n : ℕ} {description : String} (h : start + n ≤ image.length) :
    ensureZero ((image.drop start).take n) description = .ok () ↔
      (⟨start, zeros n⟩ : Piece).Holds image := by
  rw [ensureZero_eq_ok, Piece.Holds, length_zeros, length_range h]

/-- The checks accept exactly the images of the layout. -/
theorem validateRawGptLayout_eq_ok (hlen : image.length = diskBytes) :
    validateRawGptLayout image = .ok () ↔ RawGpt image := by
  have hdisk : diskBytes = 67108864 := rfl
  have hbefore : lbaRange image 34 espFirstLba =
      .ok ((image.drop (34 * 512)).take (2014 * 512)) :=
    lbaRange_eq (by decide) (by decide) (by omega) (by omega)
  have hafter : lbaRange image (espLastLba + 1) backupGptEntriesLba =
      .ok ((image.drop (129024 * 512)).take (2015 * 512)) :=
    lbaRange_eq (by decide) (by decide) (by omega) (by omega)
  have hgaps : (∀ p ∈ gapPieces, p.Holds image) ↔
      (⟨34 * 512, zeros (2014 * 512)⟩ : Piece).Holds image ∧
      (⟨129024 * 512, zeros (2015 * 512)⟩ : Piece).Holds image := by
    rw [gapPieces, List.forall_mem_cons, List.forall_mem_singleton]
  rw [validateRawGptLayout, Exec.check_bind_eq_ok, Exec.check_bind_eq_ok, Exec.check_bind_eq_ok,
    hbefore, Exec.ok_bind, Exec.check_bind_eq_ok, hafter, Exec.ok_bind,
    validateProtectiveMbr_eq_ok hlen, validateGptHeaders_eq_ok hlen, validateGptEntries_eq_ok hlen,
    ensureZero_range (by omega), ensureZero_range (by omega)]
  constructor
  · rintro ⟨hmbr, ⟨hprimary, hbackup, hguid, hcrc⟩, ⟨hunused, hentry, hnonzero⟩, hgap⟩
    refine ⟨?_, hguid, hcrc, hentry, hnonzero⟩
    simp only [diskPieces, List.forall_mem_append]
    exact ⟨⟨⟨⟨hmbr, hprimary⟩, hbackup⟩, hunused⟩, hgaps.mpr hgap⟩
  · rintro ⟨hpieces, hguid, hcrc, hentry, hnonzero⟩
    simp only [diskPieces, List.forall_mem_append] at hpieces
    obtain ⟨⟨⟨⟨hmbr, hprimary⟩, hbackup⟩, hunused⟩, hgap⟩ := hpieces
    exact ⟨hmbr, ⟨hprimary, hbackup, hguid, hcrc⟩, ⟨hunused, hentry, hnonzero⟩, hgaps.mp hgap⟩

/-- The bytes of the EFI system partition. -/
def InEsp (i : ℕ) : Prop :=
  espFirstLba.toNat * logicalBlockBytes ≤ i ∧ i < (espLastLba.toNat + 1) * logicalBlockBytes

/-- The bytes outside the partition that may differ from image to image. -/
def Free (i : ℕ) : Prop :=
  (∃ k, HeaderFree k ∧ (i = primaryHeader + k ∨ i = backupHeader + k)) ∨
  (∃ k < gptEntryBytes, i = primaryEntries + k ∨ i = backupEntries + k)

theorem shifted_cover {base i : ℕ} (hstart : base ≤ i) (hfinish : i < base + 512)
    (hfree : ¬HeaderFree (i - base)) :
    ∃ p ∈ (headerPieces currentLba backupLba entriesLba).map (Piece.shift base), p.Covers i := by
  obtain ⟨p, hp, hcovers⟩ := headerPieces_cover (by omega) hfree
  refine ⟨p.shift base, List.mem_map_of_mem hp, ?_⟩
  unfold Piece.Covers Piece.finish at hcovers
  change base + p.offset ≤ i ∧ i < base + p.offset + p.content.length
  omega

theorem mbrPieces_cover {i : ℕ} (hi : i < 512) : ∃ p ∈ mbrPieces, p.Covers i := by
  have hentry : protectiveEntry.length = 16 := rfl
  have hsignature : ([0x55, 0xaa] : Bytes).length = 2 := rfl
  simp only [mbrPieces, List.mem_cons, exists_eq_or_imp, Piece.Covers, Piece.finish, length_zeros,
    hentry, hsignature]
  omega

theorem unusedPieces_cover {i : ℕ}
    (hi : (primaryEntries + 128 ≤ i ∧ i < 34 * 512) ∨ (backupEntries + 128 ≤ i ∧ i < backupHeader)) :
    ∃ p ∈ unusedPieces, p.Covers i := by
  rcases hi with hprimary | hbackup
  · exact ⟨_, List.mem_cons_self, Piece.covers_zeros.mpr hprimary⟩
  · exact ⟨_, List.mem_cons_of_mem _ List.mem_cons_self, Piece.covers_zeros.mpr hbackup⟩

theorem gapPieces_cover {i : ℕ}
    (hi : (34 * 512 ≤ i ∧ i < 2048 * 512) ∨ (129024 * 512 ≤ i ∧ i < backupEntries)) :
    ∃ p ∈ gapPieces, p.Covers i := by
  rcases hi with hbefore | hafter
  · exact ⟨_, List.mem_cons_self, Piece.covers_zeros.mpr hbefore⟩
  · exact ⟨_, List.mem_cons_of_mem _ List.mem_cons_self, Piece.covers_zeros.mpr hafter⟩

theorem not_headerFree {i : ℕ} (hfree : ¬Free i) :
    (primaryHeader ≤ i → ¬HeaderFree (i - primaryHeader)) ∧
      (backupHeader ≤ i → ¬HeaderFree (i - backupHeader)) := by
  constructor
  · intro h hk
    exact hfree (Or.inl ⟨_, hk, Or.inl (by omega)⟩)
  · intro h hk
    exact hfree (Or.inl ⟨_, hk, Or.inr (by omega)⟩)

theorem not_firstEntry {i : ℕ} (hfree : ¬Free i) :
    (primaryEntries ≤ i → primaryEntries + 128 ≤ i) ∧
      (backupEntries ≤ i → backupEntries + 128 ≤ i) := by
  constructor
  · intro h
    by_contra hlt
    exact hfree (Or.inr ⟨i - primaryEntries, by change _ < 128; omega, Or.inl (by omega)⟩)
  · intro h
    by_contra hlt
    exact hfree (Or.inr ⟨i - backupEntries, by change _ < 128; omega, Or.inr (by omega)⟩)

/-- Outside the partition and the free bytes, every byte of the disk is prescribed. -/
theorem diskPieces_cover {i : ℕ} (hi : i < diskBytes) (hesp : ¬InEsp i) (hfree : ¬Free i) :
    ∃ p ∈ diskPieces, p.Covers i := by
  obtain ⟨hprimary, hbackup⟩ := not_headerFree hfree
  obtain ⟨hfirst, hmirror⟩ := not_firstEntry hfree
  have hdisk : diskBytes = 67108864 := rfl
  have hesp' : ¬(2048 * 512 ≤ i ∧ i < 129024 * 512) := hesp
  have hheader : primaryHeader = 512 := rfl
  have hentries : primaryEntries = 1024 := rfl
  have hlastEntries : backupEntries = 67091968 := rfl
  have hlastHeader : backupHeader = 67108352 := rfl
  simp only [diskPieces, List.mem_append, or_and_right, exists_or]
  -- the regions of the disk, in the order of their addresses
  by_cases h1 : i < 512
  · exact Or.inl (Or.inl (Or.inl (Or.inl (mbrPieces_cover h1))))
  by_cases h2 : i < 1024
  · have hstart : primaryHeader ≤ i := by omega
    have hfinish : i < primaryHeader + 512 := by rw [hheader]; omega
    have hcover : ∃ p ∈ primaryHeaderPieces, p.Covers i :=
      shifted_cover hstart hfinish (hprimary hstart)
    exact Or.inl (Or.inl (Or.inl (Or.inr hcover)))
  by_cases h3 : i < 34 * 512
  · exact Or.inl (Or.inr (unusedPieces_cover (Or.inl ⟨hfirst (by omega), h3⟩)))
  by_cases h4 : i < backupEntries
  · exact Or.inr (gapPieces_cover (by omega))
  by_cases h5 : i < backupHeader
  · exact Or.inl (Or.inr (unusedPieces_cover (Or.inr ⟨hmirror (by omega), h5⟩)))
  · have hstart : backupHeader ≤ i := by omega
    have hfinish : i < backupHeader + 512 := by rw [hlastHeader]; omega
    have hcover : ∃ p ∈ backupHeaderPieces, p.Covers i :=
      shifted_cover hstart hfinish (hbackup hstart)
    exact Or.inl (Or.inl (Or.inr hcover))

/-- What an image repeats in the backup tables, and that it names a partition. -/
structure Mirrored (image : Bytes) : Prop where
  header : ∀ k, (56 ≤ k ∧ k < 72) ∨ (88 ≤ k ∧ k < 92) →
    image[primaryHeader + k]? = image[backupHeader + k]?
  entry : ∀ k < gptEntryBytes, image[primaryEntries + k]? = image[backupEntries + k]?
  nonzero : ∃ k < gptEntryBytes, ∃ byte, image[primaryEntries + k]? = some byte ∧ byte ≠ 0

theorem getElem?_of_range_eq {bytes : Bytes} {a b n k : ℕ}
    (h : (bytes.drop a).take n = (bytes.drop b).take n) (hk : k < n) :
    bytes[a + k]? = bytes[b + k]? := by
  rw [← List.getElem?_drop, ← List.getElem?_drop, ← List.getElem?_take_of_lt hk, h,
    List.getElem?_take_of_lt hk]

theorem RawGpt.mirrored (h : RawGpt image) : Mirrored image := by
  refine ⟨?_, ?_, ?_⟩
  · rintro k (⟨hstart, hfinish⟩ | ⟨hstart, hfinish⟩)
    · have heq := getElem?_of_range_eq h.guid (show k - 56 < 16 by omega)
      rwa [Nat.add_assoc, Nat.add_assoc, Nat.add_sub_cancel' hstart] at heq
    · have heq := getElem?_of_range_eq h.crc (show k - 88 < 4 by omega)
      rwa [Nat.add_assoc, Nat.add_assoc, Nat.add_sub_cancel' hstart] at heq
  · intro k hk
    exact getElem?_of_range_eq h.entry hk
  · obtain ⟨byte, hmem, hne⟩ := h.entry_nonzero
    obtain ⟨k, hk⟩ := List.mem_iff_getElem?.mp hmem
    have hlt : k < 128 := by
      have hlength := (List.getElem?_eq_some_iff.mp hk).1
      rw [List.length_take] at hlength
      omega
    rw [List.getElem?_take_of_lt hlt, List.getElem?_drop] at hk
    exact ⟨k, hlt, byte, hk, hne⟩

/-- Two accepted images differ only in the partition and in the free bytes, which
each image repeats in its backup tables apart from the headers' own checksums. -/
theorem raw_gpt_determines_image (a b : Bytes) (ha : a.length = diskBytes)
    (hb : b.length = diskBytes) (hokA : validateRawGptLayout a = .ok ())
    (hokB : validateRawGptLayout b = .ok ()) :
    (∀ i < diskBytes, ¬InEsp i → ¬Free i → a[i]? = b[i]?) ∧ Mirrored a ∧ Mirrored b := by
  have hA := (validateRawGptLayout_eq_ok ha).mp hokA
  have hB := (validateRawGptLayout_eq_ok hb).mp hokB
  refine ⟨?_, hA.mirrored, hB.mirrored⟩
  intro i hi hesp hfree
  obtain ⟨p, hp, hcovers⟩ := diskPieces_cover hi hesp hfree
  exact (hA.pieces p hp).agree (hB.pieces p hp) hcovers

/-- A header with zeros in its free bytes. -/
def filledHeader (currentLba backupLba entriesLba : UInt64) : List Piece :=
  [⟨0, ascii "EFI PART"⟩, ⟨8, u32ToLe 0x00010000⟩, ⟨12, u32ToLe 92⟩, ⟨16, zeros 4⟩,
    ⟨20, u32ToLe 0⟩, ⟨24, u64ToLe currentLba⟩, ⟨32, u64ToLe backupLba⟩, ⟨40, u64ToLe 34⟩,
    ⟨48, u64ToLe (backupGptEntriesLba - 1)⟩, ⟨56, zeros 16⟩, ⟨72, u64ToLe entriesLba⟩,
    ⟨80, u32ToLe (UInt32.ofNat gptEntryCount)⟩, ⟨84, u32ToLe (UInt32.ofNat gptEntryBytes)⟩,
    ⟨88, zeros 4⟩, ⟨92, zeros 420⟩]

/-- A disk whose partition is empty and whose first entry starts with `byte`. -/
def filledDisk (byte : UInt8) : List Piece :=
  mbrPieces ++ (filledHeader 1 backupGptHeaderLba 2).map (Piece.shift primaryHeader) ++
  [⟨primaryEntries, byte :: zeros 127⟩, ⟨primaryEntries + 128, zeros 16256⟩,
    ⟨34 * 512, zeros (2014 * 512)⟩, ⟨2048 * 512, zeros (126976 * 512)⟩,
    ⟨129024 * 512, zeros (2015 * 512)⟩, ⟨backupEntries, byte :: zeros 127⟩,
    ⟨backupEntries + 128, zeros 16256⟩] ++
  (filledHeader backupGptHeaderLba 1 backupGptEntriesLba).map (Piece.shift backupHeader)

def sampleImage (byte : UInt8) : Bytes := Piece.contents (filledDisk byte)

theorem filledDisk_tiles (byte : UInt8) : Piece.Tiles 0 (filledDisk byte) := by
  simp [filledDisk, filledHeader, mbrPieces, protectiveEntry, Piece.Tiles, Piece.shift,
    length_efiPart, primaryHeader, backupHeader, primaryEntries, backupEntries]

theorem length_sampleImage (byte : UInt8) : (sampleImage byte).length = diskBytes := by
  have hlast : (filledDisk byte).getLast? = some ⟨backupHeader + 92, zeros 420⟩ := rfl
  have hfinish : Piece.finish ⟨backupHeader + 92, zeros 420⟩ = diskBytes := by
    rw [Piece.finish, length_zeros]
    decide
  have hlength := Piece.length_contents (filledDisk_tiles byte) hlast
  rw [Nat.zero_add, hfinish] at hlength
  exact hlength

theorem headerPieces_subset : headerPieces currentLba backupLba entriesLba ⊆
    filledHeader currentLba backupLba entriesLba := by
  apply List.Sublist.subset
  -- the free bytes at 16, 56 and 88 are filled in
  simp only [headerPieces, filledHeader, List.cons_sublist_cons]
  apply List.Sublist.cons
  simp only [List.cons_sublist_cons]
  apply List.Sublist.cons
  simp only [List.cons_sublist_cons]
  exact List.sublist_cons_self _ _

theorem diskPieces_subset (byte : UInt8) : diskPieces ⊆ filledDisk byte := by
  intro p hp
  simp only [diskPieces, primaryHeaderPieces, backupHeaderPieces, List.mem_append] at hp
  simp only [filledDisk, List.mem_append]
  rcases hp with (((hmbr | hprimary) | hbackup) | hunused) | hgap
  · exact Or.inl (Or.inl (Or.inl hmbr))
  · exact Or.inl (Or.inl (Or.inr (List.map_subset _ headerPieces_subset hprimary)))
  · exact Or.inr (List.map_subset _ headerPieces_subset hbackup)
  · simp only [unusedPieces, List.mem_cons] at hunused ⊢
    tauto
  · simp only [gapPieces, List.mem_cons] at hgap ⊢
    tauto

theorem sampleImage_header {byte : UInt8} {offset n : ℕ}
    (hprimary : (⟨offset, zeros n⟩ : Piece) ∈ filledHeader 1 backupGptHeaderLba 2)
    (hbackup : (⟨offset, zeros n⟩ : Piece) ∈ filledHeader backupGptHeaderLba 1 backupGptEntriesLba) :
    ((sampleImage byte).drop (primaryHeader + offset)).take n =
      ((sampleImage byte).drop (backupHeader + offset)).take n := by
  have hholds := Piece.holds_contents (filledDisk_tiles byte)
  have hmem : (⟨offset, zeros n⟩ : Piece).shift primaryHeader ∈ filledDisk byte := by
    simp only [filledDisk, List.mem_append]
    exact Or.inl (Or.inl (Or.inr (List.mem_map_of_mem hprimary)))
  have hmem' : (⟨offset, zeros n⟩ : Piece).shift backupHeader ∈ filledDisk byte := by
    simp only [filledDisk, List.mem_append]
    exact Or.inr (List.mem_map_of_mem hbackup)
  have hone := hholds _ hmem
  have htwo := hholds _ hmem'
  simp only [Piece.Holds, Piece.shift, length_zeros] at hone htwo
  exact hone.trans htwo.symm

theorem sampleImage_entry {byte : UInt8} {base : ℕ}
    (hmem : (⟨base, byte :: zeros 127⟩ : Piece) ∈ filledDisk byte) :
    ((sampleImage byte).drop base).take 128 = byte :: zeros 127 := by
  have hpiece := Piece.holds_contents (filledDisk_tiles byte) _ hmem
  have hlength : (byte :: zeros 127).length = 128 := by simp
  rwa [Piece.Holds, hlength] at hpiece

theorem sampleImage_accepted {byte : UInt8} (h : byte ≠ 0) :
    validateRawGptLayout (sampleImage byte) = .ok () := by
  have hprimary : ((sampleImage byte).drop primaryEntries).take 128 = byte :: zeros 127 :=
    sampleImage_entry (by simp [filledDisk])
  have hbackup : ((sampleImage byte).drop backupEntries).take 128 = byte :: zeros 127 :=
    sampleImage_entry (by simp [filledDisk])
  rw [validateRawGptLayout_eq_ok (length_sampleImage byte)]
  refine ⟨?_, ?_, ?_, ?_, ?_⟩
  · intro p hp
    exact Piece.holds_contents (filledDisk_tiles byte) p (diskPieces_subset byte hp)
  · exact sampleImage_header (by simp [filledHeader]) (by simp [filledHeader])
  · exact sampleImage_header (by simp [filledHeader]) (by simp [filledHeader])
  · rw [hprimary, hbackup]
  · rw [hprimary]
    exact ⟨byte, List.mem_cons_self, h⟩

theorem raw_gpt_determines_image_samples :
    (∀ i < diskBytes, ¬InEsp i → ¬Free i → (sampleImage 1)[i]? = (sampleImage 2)[i]?) ∧
      Mirrored (sampleImage 1) ∧ Mirrored (sampleImage 2) :=
  raw_gpt_determines_image (sampleImage 1) (sampleImage 2) (length_sampleImage 1)
    (length_sampleImage 2) (sampleImage_accepted (by decide)) (sampleImage_accepted (by decide))

end PolytopeOS.Host
