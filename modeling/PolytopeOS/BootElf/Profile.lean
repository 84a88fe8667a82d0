import PolytopeOS.Corelib.Ranges
import PolytopeOS.BootElf.Parse

/-!
# The documented ELF profile

`Profile` states the accepted files over unbounded integers: every quantity is a
little-endian field of the file, and the load segments are compared pairwise.
The validator's loop sees one header at a time and remembers the previous load
segment, a running total and whether the entry point was covered. The main
result is that it accepts exactly the profile.
-/

namespace PolytopeOS.BootElf
open Corelib

-- ════════════════════════════════════════════════════════════════════════
-- The profile
-- ════════════════════════════════════════════════════════════════════════

/-- A program header as unbounded integers. -/
structure Phdr where
  kind : ℕ
  flags : ℕ
  offset : ℕ
  vaddr : ℕ
  paddr : ℕ
  filesz : ℕ
  memsz : ℕ
  align : ℕ
  deriving DecidableEq, Repr

def phdrAt (bytes : Bytes) (base : ℕ) : Phdr where
  kind := field bytes base 4
  flags := field bytes (base + 4) 4
  offset := field bytes (base + 8) 8
  vaddr := field bytes (base + 16) 8
  paddr := field bytes (base + 24) 8
  filesz := field bytes (base + 32) 8
  memsz := field bytes (base + 40) 8
  align := field bytes (base + 48) 8

namespace Phdr

/-- The end of the segment's memory, rounded up to a page. -/
def pageEnd (p : Phdr) : ℕ := roundUp (p.paddr + p.memsz) 4096

/-- An executable segment whose memory holds the entry point. -/
def Enters (entry : ℕ) (p : Phdr) : Prop :=
  p.flags.testBit 0 = true ∧ p.vaddr ≤ entry ∧ entry < p.vaddr + p.memsz
  deriving Decidable

end Phdr

/-- The rules for one `PT_LOAD` header in a file of the given length. -/
structure SegmentValid (length : ℕ) (p : Phdr) : Prop where
  known : p.flags < 8
  readable : p.flags.testBit 2 = true
  writeXorExecute : ¬(p.flags.testBit 1 = true ∧ p.flags.testBit 0 = true)
  nonempty : 0 < p.memsz
  filesz_le : p.filesz ≤ p.memsz
  file_range : p.offset + p.filesz ≤ length
  identity : p.vaddr = p.paddr
  power : ∃ k, p.align = 2 ^ k
  align_ge : 4096 ≤ p.align
  align_le : p.align ≤ 2 * 1024 * 1024
  page : p.paddr % 4096 = 0
  congruent : p.paddr % p.align = p.offset % p.align
  window_ge : 0x200000 ≤ p.paddr
  window_le : p.pageEnd ≤ 0x40000000

/-- The `PT_LOAD` headers of a table, in order. -/
def loads (table : List Phdr) : List Phdr := table.filter fun p => p.kind = 1

/-- The rules for a program-header table, apart from the two about its load
segments as a whole that are checked at the end. -/
structure TableValid (length : ℕ) (table : List Phdr) : Prop where
  kinds : ∀ p ∈ table, p.kind = 0 ∨ p.kind = 1
  count : (loads table).length ≤ 4
  segments : ∀ p ∈ loads table, SegmentValid length p
  disjoint : (loads table).Pairwise fun p q => p.pageEnd ≤ q.paddr
  total : ((loads table).map Phdr.memsz).sum ≤ 64 * 1024 * 1024

def identification : Bytes := [0x7f, 0x45, 0x4c, 0x46, 2, 1, 1, 0, 0, 0, 0, 0, 0, 0, 0, 0]

def entryOf (bytes : Bytes) : ℕ := field bytes 24 8

def tableOf (bytes : Bytes) : List Phdr :=
  (List.range (field bytes 56 2)).map fun i => phdrAt bytes (field bytes 32 8 + 56 * i)

/-- The rules for the ELF header in a file of sufficient length. -/
structure HeaderValid (bytes : Bytes) : Prop where
  e_type : field bytes 16 2 = 2
  e_machine : field bytes 18 2 = 62
  e_version : field bytes 20 4 = 1
  e_flags : field bytes 48 4 = 0
  e_ehsize : field bytes 52 2 = 64
  e_phentsize : field bytes 54 2 = 56
  e_phnum : 1 ≤ field bytes 56 2 ∧ field bytes 56 2 ≤ 8
  e_phoff : 64 ≤ field bytes 32 8
  table_fits : field bytes 32 8 + 56 * field bytes 56 2 ≤ bytes.length
  e_entry : 0x200000 ≤ entryOf bytes ∧ entryOf bytes < 0x40000000

structure Profile (bytes : Bytes) : Prop where
  length_ge : 64 ≤ bytes.length
  length_le : bytes.length ≤ 16 * 1024 * 1024
  ident : bytes.take 16 = identification
  header : HeaderValid bytes
  table : TableValid bytes.length (tableOf bytes)
  loaded : 1 ≤ (loads (tableOf bytes)).length
  /-- Exactly one load segment holds the entry point and is executable. -/
  entry : ((loads (tableOf bytes)).filter (Phdr.Enters (entryOf bytes))).length = 1

-- ════════════════════════════════════════════════════════════════════════
-- Identification and header
-- ════════════════════════════════════════════════════════════════════════

theorem exists_sixteen {bytes : Bytes} (h : 16 ≤ bytes.length) :
    ∃ b0 b1 b2 b3 b4 b5 b6 b7 b8 b9 b10 b11 b12 b13 b14 b15 rest,
      bytes = b0 :: b1 :: b2 :: b3 :: b4 :: b5 :: b6 :: b7 :: b8 :: b9 :: b10 :: b11 :: b12 ::
        b13 :: b14 :: b15 :: rest := by
  match bytes, h with
  | b0 :: b1 :: b2 :: b3 :: b4 :: b5 :: b6 :: b7 :: b8 :: b9 :: b10 :: b11 :: b12 :: b13 :: b14 ::
      b15 :: rest, _ =>
    exact ⟨b0, b1, b2, b3, b4, b5, b6, b7, b8, b9, b10, b11, b12, b13, b14, b15, rest, rfl⟩

/-- With a whole header every byte that is indexed is there. -/
theorem validateIdentification_eq {bytes : Bytes} (h : 64 ≤ bytes.length) :
    validateIdentification bytes =
      if slice bytes 0 4 ≠ some elfMagic then .err .badMagic
      else if bytes[4] ≠ elfClass64 then .err (.unsupportedClass bytes[4])
      else if bytes[5] ≠ elfData2Lsb then .err (.unsupportedByteOrder bytes[5])
      else if bytes[6] ≠ evCurrentU8 then .err (.unsupportedIdentificationVersion bytes[6])
      else if bytes[7] ≠ elfOsAbiSysv then .err (.unsupportedOsAbi bytes[7])
      else if bytes[8] ≠ 0 then .err (.unsupportedAbiVersion bytes[8])
      else if ((bytes.drop 9).take 7).any (· ≠ 0) then .err .nonZeroIdentificationPadding
      else .ok () := by
  unfold validateIdentification
  rw [byteAt_of_lt (show 4 < bytes.length by omega), byteAt_of_lt (show 5 < bytes.length by omega),
    byteAt_of_lt (show 6 < bytes.length by omega), byteAt_of_lt (show 7 < bytes.length by omega),
    byteAt_of_lt (show 8 < bytes.length by omega),
    sliceAt_of_le (by decide) (show 16 ≤ bytes.length by omega)]
  rfl

theorem validateIdentification_eq_ok {bytes : Bytes} (h : 64 ≤ bytes.length) :
    validateIdentification bytes = .ok () ↔ bytes.take 16 = identification := by
  rw [validateIdentification_eq h]
  obtain ⟨b0, b1, b2, b3, b4, b5, b6, b7, b8, b9, b10, b11, b12, b13, b14, b15, rest, rfl⟩ :=
    exists_sixteen (Nat.le_trans (by decide) h)
  simp only [Exec.ite_err_eq_ok, ne_eq, not_not]
  simp [slice, identification, elfMagic, elfClass64, elfData2Lsb, evCurrentU8, elfOsAbiSysv,
    and_assoc]

theorem fileSizeOf_toNat {bytes : Bytes} (h : bytes.length < 2 ^ 64) :
    (fileSizeOf bytes).toNat = bytes.length := by
  rw [fileSizeOf, if_pos h]
  exact UInt64.toNat_ofNat_of_lt' h

/-- The parsed header of a file that satisfies the header rules. -/
def headerOf (bytes : Bytes) : ElfHeader where
  entry := UInt64.ofNat (field bytes 24 8)
  programHeaderOffset := field bytes 32 8
  programHeaderCount := UInt16.ofNat (field bytes 56 2)
  programHeaderTableEnd := UInt64.ofNat (field bytes 32 8 + 56 * field bytes 56 2)
  fileSize := fileSizeOf bytes

theorem parseHeader_eq_ok {bytes : Bytes} {elf : ElfHeader} (hge : 64 ≤ bytes.length)
    (hle : bytes.length ≤ 16 * 1024 * 1024) :
    parseHeader bytes = .ok elf ↔ HeaderValid bytes ∧ elf = headerOf bytes := by
  have hlt : bytes.length < 2 ^ 64 := lt_of_le_of_lt hle (by decide)
  have hsize := fileSizeOf_toNat hlt
  have hphnum := field_lt bytes 56 2
  have hword16 : ∀ (offset : ℕ) (k : UInt16),
      UInt16.ofNat (field bytes offset 2) = k ↔ field bytes offset 2 = k.toNat := by
    intro offset k
    rw [← UInt16.toNat_inj, toNat_field16]
  have hword32 : ∀ (offset : ℕ) (k : UInt32),
      UInt32.ofNat (field bytes offset 4) = k ↔ field bytes offset 4 = k.toNat := by
    intro offset k
    rw [← UInt32.toNat_inj, toNat_field32]
  have htable : 56 * field bytes 56 2 < UInt64.size := by
    rw [UInt64.size]
    omega
  have hmul : checkedMul (UInt16.ofNat (field bytes 56 2)).toUInt64 56 =
      some (UInt64.ofNat (56 * field bytes 56 2)) := by
    rw [checkedMul_eq_some, UInt16.toNat_toUInt64, toNat_field16,
      UInt64.toNat_ofNat_of_lt' htable, Nat.mul_comm]
    rfl
  unfold parseHeader
  rw [readU16_eq (by omega) (by omega), readU16_eq (by omega) (by omega),
    readU32_eq (by omega) (by omega), readU64_eq (by omega) (by omega),
    readU64_eq (by omega) (by omega), readU32_eq (by omega) (by omega),
    readU16_eq (by omega) (by omega), readU16_eq (by omega) (by omega),
    readU16_eq (by omega) (by omega)]
  simp only [Exec.okOr_some, Exec.ok_bind, Exec.bind_eq_ok, Exec.okOr_eq_ok, checkedAdd_eq_some,
    Exec.ite_err_eq_ok, Exec.ok.injEq, ne_eq, not_not, not_or, not_lt, gt_iff_lt, hword16, hword32,
    hmul, UInt16.lt_iff_toNat_lt, UInt64.le_iff_toNat_le, UInt64.lt_iff_toNat_lt, toNat_field16,
    toNat_field64, UInt64.toNat_ofNat_of_lt' htable, hsize]
  constructor
  · rintro ⟨htype, hmachine, hversion, hflags, hehsize, hphentsize, ⟨hpos, hmax⟩, hoff, tableEnd,
      hend, hfits, hentry, rfl⟩
    rw [hend] at hfits
    refine ⟨⟨htype, hmachine, hversion, hflags, hehsize, hphentsize, ⟨?_, hmax⟩, hoff, hfits,
      hentry⟩, ?_⟩
    · exact Nat.one_le_iff_ne_zero.mpr hpos
    · have hword : tableEnd = UInt64.ofNat (field bytes 32 8 + 56 * field bytes 56 2) := by
        rw [← hend, UInt64.ofNat_toNat]
      rw [hword]
      rfl
  · rintro ⟨h, rfl⟩
    have hfits := h.table_fits
    have hend : (UInt64.ofNat (field bytes 32 8 + 56 * field bytes 56 2)).toNat =
        field bytes 32 8 + 56 * field bytes 56 2 :=
      UInt64.toNat_ofNat_of_lt' (lt_of_le_of_lt hfits hlt)
    exact ⟨h.e_type, h.e_machine, h.e_version, h.e_flags, h.e_ehsize, h.e_phentsize,
      ⟨Nat.one_le_iff_ne_zero.mp h.e_phnum.1, h.e_phnum.2⟩, h.e_phoff, _, hend,
      by rw [hend]; exact hfits, h.e_entry, rfl⟩

-- ════════════════════════════════════════════════════════════════════════
-- One program header
-- ════════════════════════════════════════════════════════════════════════

def ProgramHeader.nat (header : ProgramHeader) : Phdr where
  kind := header.kind.toNat
  flags := header.flags.toNat
  offset := header.fileOffset.toNat
  vaddr := header.virtualAddress.toNat
  paddr := header.physicalAddress.toNat
  filesz := header.fileSize.toNat
  memsz := header.memorySize.toNat
  align := header.alignment.toNat

def headerAt (bytes : Bytes) (base : ℕ) : ProgramHeader where
  kind := UInt32.ofNat (field bytes base 4)
  flags := UInt32.ofNat (field bytes (base + 4) 4)
  fileOffset := UInt64.ofNat (field bytes (base + 8) 8)
  virtualAddress := UInt64.ofNat (field bytes (base + 16) 8)
  physicalAddress := UInt64.ofNat (field bytes (base + 24) 8)
  fileSize := UInt64.ofNat (field bytes (base + 32) 8)
  memorySize := UInt64.ofNat (field bytes (base + 40) 8)
  alignment := UInt64.ofNat (field bytes (base + 48) 8)

theorem nat_headerAt (bytes : Bytes) (base : ℕ) : (headerAt bytes base).nat = phdrAt bytes base := by
  simp only [headerAt, ProgramHeader.nat, phdrAt, toNat_field32, toNat_field64]

theorem decodeProgramHeader_eq {bytes : Bytes} {tableOffset index : ℕ}
    (h : tableOffset + 56 * index + 56 ≤ bytes.length) (hlen : bytes.length < 2 ^ 64) :
    decodeProgramHeader bytes tableOffset index =
      .ok (headerAt bytes (tableOffset + 56 * index)) := by
  have hmul : index * programHeaderSize = 56 * index := Nat.mul_comm _ _
  have hadd : ∀ k ≤ 48, (addSize (tableOffset + 56 * index) k : Exec Unit ℕ) =
      .ok (tableOffset + 56 * index + k) := fun k hk => addSize_of_lt (by omega)
  unfold decodeProgramHeader
  rw [hmul, checkedSize_of_lt (by omega), Exec.okOr_some, Exec.ok_bind,
    checkedSize_of_lt (by omega), Exec.okOr_some, Exec.ok_bind, hadd 4 (by decide),
    hadd 8 (by decide), hadd 16 (by decide), hadd 24 (by decide), hadd 32 (by decide),
    hadd 40 (by decide), hadd 48 (by decide)]
  simp only [Exec.ok_bind]
  rw [readU32_eq (by omega) (by omega), readU32_eq (by omega) (by omega),
    readU64_eq (by omega) (by omega), readU64_eq (by omega) (by omega),
    readU64_eq (by omega) (by omega), readU64_eq (by omega) (by omega),
    readU64_eq (by omega) (by omega), readU64_eq (by omega) (by omega)]
  rfl

theorem alignUp_page {value : UInt64} (h : value.toNat + 4095 < 2 ^ 64) :
    ∃ aligned, alignUp value pageSize = .ok (some aligned) ∧
      aligned.toNat = roundUp value.toNat 4096 := by
  have hsum : (value + (pageSize - 1)).toNat = value.toNat + 4095 := by
    rw [UInt64.toNat_add]
    exact Nat.mod_eq_of_lt h
  refine ⟨(value + (pageSize - 1)) &&& ~~~(pageSize - 1), ?_, ?_⟩
  · rw [alignUp, subWord_of_le (by decide), Exec.ok_bind, checkedAdd,
      if_pos (show value.toNat + (pageSize - 1).toNat < 2 ^ 64 from h)]
    rfl
  · rw [UInt64.toNat_and, UInt64.toNat_not, hsum]
    exact and_highMask (value.toNat + 4095) 12 64 h (by decide)

theorem flags_known {flags : UInt32} : flags &&& ~~~knownSegmentFlags = 0 ↔ flags.toNat < 8 := by
  rw [← UInt32.toNat_inj, UInt32.toNat_and, UInt32.toNat_not]
  exact and_highMask_eq_zero flags.toNat 3 32 flags.toNat_lt (by decide)

theorem flags_readable {flags : UInt32} : flags &&& pfR = 0 ↔ flags.toNat.testBit 2 = false :=
  and_bit_eq_zero 2 (by decide)

theorem flags_executable {flags : UInt32} : flags &&& pfX = 0 ↔ flags.toNat.testBit 0 = false :=
  and_bit_eq_zero 0 (by decide)

theorem flags_writeExecute {flags : UInt32} :
    flags &&& (pfW ||| pfX) = pfW ||| pfX ↔
      flags.toNat.testBit 1 = true ∧ flags.toNat.testBit 0 = true := by
  have hmask : flags.toNat &&& 3 = flags.toNat % 4 := Nat.and_two_pow_sub_one_eq_mod flags.toNat 2
  rw [← UInt32.toNat_inj, UInt32.toNat_and]
  show flags.toNat &&& 3 = 3 ↔ _
  rw [hmask, Nat.testBit_eq_decide_div_mod_eq, Nat.testBit_eq_decide_div_mod_eq]
  simp only [decide_eq_true_eq]
  omega

theorem misaligned_of_ne {header : ProgramHeader} (h : header.alignment ≠ 0) :
    misaligned header = .ok (decide ¬(header.physicalAddress % pageSize = 0 ∧
      header.physicalAddress % header.alignment = header.fileOffset % header.alignment)) := by
  unfold misaligned
  rw [remWord_of_ne (by decide), remWord_of_ne h, remWord_of_ne h]
  simp only [Exec.ok_bind, Exec.pure_eq_ok]
  split_ifs with hpage <;> simp_all

theorem misaligned_eq_false {header : ProgramHeader} (h : header.alignment ≠ 0) :
    misaligned header = .ok false ↔ header.nat.paddr % 4096 = 0 ∧
      header.nat.paddr % header.nat.align = header.nat.offset % header.nat.align := by
  have hpage : header.physicalAddress % pageSize = 0 ↔ header.physicalAddress.toNat % 4096 = 0 :=
    word_mod_eq_zero
  rw [misaligned_of_ne h, Exec.ok.injEq, decide_eq_false_iff_not, not_not, hpage,
    ← UInt64.toNat_inj (a := _ % header.alignment), UInt64.toNat_mod, UInt64.toNat_mod]
  rfl

theorem ne_zero_of_isPowerOfTwo {a : UInt64} (h : a.toNat.isPowerOfTwo) : a ≠ 0 := by
  rintro rfl
  obtain ⟨k, hk⟩ := h
  exact absurd hk (Nat.two_pow_pos k).ne

theorem validateLoadSegment_eq_ok {index : ℕ} {header : ProgramHeader} {fileSize finish : UInt64} :
    validateLoadSegment index header fileSize = .ok finish ↔
      SegmentValid fileSize.toNat header.nat ∧
        finish.toNat = header.nat.paddr + header.nat.memsz := by
  have hwindow : header.nat.pageEnd ≤ 0x40000000 ↔
      header.nat.paddr + header.nat.memsz ≤ 0x40000000 := roundUp_le_iff (by decide) (by decide)
  have hmem : header.memorySize = 0 ↔ header.memorySize.toNat = 0 := by
    rw [← UInt64.toNat_inj]
    rfl
  simp only [validateLoadSegment, Exec.ite_err_eq_ok, ↓Exec.test_bind_eq_ok, Exec.bind_eq_ok,
    Exec.okOr_eq_ok, checkedAdd_eq_some, Exec.ok.injEq, ne_eq, not_not, not_or, flags_known,
    flags_readable, flags_writeExecute, hmem, gt_iff_lt, UInt64.lt_iff_toNat_lt,
    UInt64.le_iff_toNat_le, not_lt, not_le, ← UInt64.toNat_inj, Bool.not_eq_false]
  constructor
  · rintro ⟨hknown, hread, hwx, hne, hfile, fileEnd, hfileEnd, hrange, hident, ⟨hpow, halign⟩,
      haligned, finish', hfinish, ⟨hlow, hhigh⟩, heq⟩
    obtain ⟨hp, hc⟩ := (misaligned_eq_false (ne_zero_of_isPowerOfTwo hpow)).mp haligned
    refine ⟨⟨hknown, hread, hwx, Nat.pos_of_ne_zero hne, hfile, ?_, hident, hpow, halign.1,
      halign.2, hp, hc, hlow, ?_⟩, ?_⟩
    · rw [hfileEnd] at hrange
      exact hrange
    · rw [hfinish] at hhigh
      exact hwindow.mpr hhigh
    · rw [← heq, hfinish]
      rfl
  · rintro ⟨h, hfinish⟩
    have hfileEnd := fileSize.toNat_lt
    have hrange := h.file_range
    refine ⟨h.known, h.readable, h.writeXorExecute, h.nonempty.ne', h.filesz_le,
      UInt64.ofNat (header.nat.offset + header.nat.filesz), ?_, ?_, h.identity,
      ⟨h.power, h.align_ge, h.align_le⟩,
      (misaligned_eq_false (ne_zero_of_isPowerOfTwo h.power)).mpr ⟨h.page, h.congruent⟩, finish,
      hfinish, ⟨h.window_ge, ?_⟩, rfl⟩
    · exact UInt64.toNat_ofNat_of_lt' (lt_of_le_of_lt hrange hfileEnd)
    · rw [UInt64.toNat_ofNat_of_lt' (lt_of_le_of_lt hrange hfileEnd)]
      exact hrange
    · rw [hfinish]
      exact hwindow.mp h.window_le

-- ════════════════════════════════════════════════════════════════════════
-- The loop over the table
-- ════════════════════════════════════════════════════════════════════════

theorem loads_concat_load (table : List Phdr) {p : Phdr} (h : p.kind = 1) :
    loads (table ++ [p]) = loads table ++ [p] := by
  simp [loads, h]

theorem loads_concat_other (table : List Phdr) {p : Phdr} (h : p.kind ≠ 1) :
    loads (table ++ [p]) = loads table := by
  simp [loads, h]

theorem Phdr.paddr_le_pageEnd (p : Phdr) : p.paddr ≤ p.pageEnd :=
  (Nat.le_add_right _ _).trans (le_roundUp _ (by decide))

/-- What one more header adds to the rules for a table. -/
def Extends (length : ℕ) (table : List Phdr) (p : Phdr) : Prop :=
  (loads table).length < 4 ∧ SegmentValid length p ∧
    (∀ last, (loads table).getLast? = some last → last.pageEnd ≤ p.paddr) ∧
    ((loads table).map Phdr.memsz).sum + p.memsz ≤ 64 * 1024 * 1024

theorem tableValid_concat {length : ℕ} {table : List Phdr} (p : Phdr)
    (h : TableValid length table) :
    TableValid length (table ++ [p]) ↔ p.kind = 0 ∨ (p.kind = 1 ∧ Extends length table p) := by
  have hpair := pairwise_concat_iff_last (a := p) Phdr.paddr Phdr.pageEnd
    (fun q _ => q.paddr_le_pageEnd) h.disjoint
  constructor
  · intro hnew
    rcases hnew.kinds p (by simp) with hkind | hkind
    · exact Or.inl hkind
    · have hloads := loads_concat_load table hkind
      have hcount := hnew.count
      have htotal := hnew.total
      have hdisjoint := hnew.disjoint
      rw [hloads, List.length_append] at hcount
      rw [hloads, List.map_append, List.sum_append] at htotal
      rw [hloads] at hdisjoint
      exact Or.inr ⟨hkind, hcount, hnew.segments p (by rw [hloads]; simp), hpair.mp hdisjoint,
        by simpa using htotal⟩
  · have hkinds : p.kind = 0 ∨ p.kind = 1 → ∀ q ∈ table ++ [p], q.kind = 0 ∨ q.kind = 1 := by
      intro hp q hq
      rcases List.mem_append.mp hq with hq | hq
      · exact h.kinds q hq
      · rw [List.mem_singleton.mp hq]
        exact hp
    rintro (hkind | ⟨hkind, hroom, hsegment, hlast, htotal⟩)
    · have hloads := loads_concat_other table (show p.kind ≠ 1 by omega)
      refine ⟨hkinds (Or.inl hkind), ?_, ?_, ?_, ?_⟩ <;> rw [hloads]
      · exact h.count
      · exact h.segments
      · exact h.disjoint
      · exact h.total
    · have hloads := loads_concat_load table hkind
      refine ⟨hkinds (Or.inr hkind), ?_, ?_, ?_, ?_⟩ <;> rw [hloads]
      · rw [List.length_append]
        exact hroom
      · intro q hq
        rcases List.mem_append.mp hq with hq | hq
        · exact h.segments q hq
        · rw [List.mem_singleton.mp hq]
          exact hsegment
      · exact hpair.mpr hlast
      · simpa using htotal

/-- The load headers seen so far, each with its index in the table. -/
def loadHeaders (headers : List ProgramHeader) : List (ProgramHeader × ℕ) :=
  headers.zipIdx.filter fun p => p.1.kind = ptLoad

def tableNat (headers : List ProgramHeader) : List Phdr := headers.map ProgramHeader.nat

theorem kind_eq_load {header : ProgramHeader} : header.kind = ptLoad ↔ header.nat.kind = 1 := by
  rw [← UInt32.toNat_inj]
  rfl

theorem kind_eq_null {header : ProgramHeader} : header.kind = ptNull ↔ header.nat.kind = 0 := by
  rw [← UInt32.toNat_inj]
  rfl

theorem map_loadHeaders (headers : List ProgramHeader) :
    (loadHeaders headers).map (fun p => p.1.nat) = loads (tableNat headers) := by
  have hfst : headers.map ProgramHeader.nat = headers.zipIdx.map fun p => p.1.nat := by
    conv_lhs => rw [← List.zipIdx_map_fst 0 headers, List.map_map]
    rfl
  rw [tableNat, hfst, loads, loadHeaders, List.filter_map]
  congr 1
  refine List.filter_congr fun p _ => ?_
  simp [kind_eq_load]

theorem loadHeaders_concat_load (headers : List ProgramHeader) {header : ProgramHeader}
    (h : header.kind = ptLoad) :
    loadHeaders (headers ++ [header]) = loadHeaders headers ++ [(header, headers.length)] := by
  simp [loadHeaders, List.zipIdx_append, h]

theorem loadHeaders_concat_other (headers : List ProgramHeader) {header : ProgramHeader}
    (h : header.kind ≠ ptLoad) : loadHeaders (headers ++ [header]) = loadHeaders headers := by
  simp [loadHeaders, List.zipIdx_append, h]

/-- What the loop carries after the headers `seen`. -/
def scanOf (entry : UInt64) (seen : List ProgramHeader) : Scan where
  loadCount := (loads (tableNat seen)).length
  totalLoadSize := UInt64.ofNat ((loads (tableNat seen)).map Phdr.memsz).sum
  previous := (loadHeaders seen).getLast?.map fun p =>
    (p.2, p.1.physicalAddress, UInt64.ofNat p.1.nat.pageEnd)
  entryIsExecutable := (loads (tableNat seen)).any (Phdr.Enters entry.toNat)

theorem validateSegmentOrder_eq_ok {length : ℕ} {seen : List ProgramHeader} (entry : UInt64)
    {index : ℕ} {header : ProgramHeader} (h : TableValid length (tableNat seen)) :
    validateSegmentOrder index header (scanOf entry seen).previous = .ok () ↔
      ∀ last, (loads (tableNat seen)).getLast? = some last → last.pageEnd ≤ header.nat.paddr := by
  have hmap := map_loadHeaders seen
  cases hlast : (loadHeaders seen).getLast? with
  | none =>
    have hloads : (loads (tableNat seen)).getLast? = none := by
      rw [← hmap, List.getLast?_map, hlast]
      rfl
    simp [scanOf, hlast, validateSegmentOrder, hloads]
  | some last =>
    obtain ⟨last, lastIndex⟩ := last
    have hloads : (loads (tableNat seen)).getLast? = some last.nat := by
      rw [← hmap, List.getLast?_map, hlast]
      rfl
    have hvalid := h.segments last.nat (List.mem_of_getLast? hloads)
    have hend : (UInt64.ofNat last.nat.pageEnd).toNat = last.nat.pageEnd :=
      UInt64.toNat_ofNat_of_lt' (lt_of_le_of_lt hvalid.window_le (by decide))
    have hstart : last.physicalAddress.toNat ≤ last.nat.pageEnd := last.nat.paddr_le_pageEnd
    have hpaddr : header.nat.paddr = header.physicalAddress.toNat := rfl
    simp only [scanOf, hlast, Option.map_some, validateSegmentOrder, hloads, Option.some.injEq,
      forall_eq', Exec.ite_err_eq_ok, UInt64.lt_iff_toNat_lt, hend, and_true, hpaddr]
    omega

/-- The remainders are only evaluated for an alignment that is a power of two. -/
theorem validateLoadSegment_ne_panic (index : ℕ) (header : ProgramHeader) (fileSize : UInt64) :
    validateLoadSegment index header fileSize ≠ .panic := by
  unfold validateLoadSegment
  refine Exec.ite_err_ne_panic fun _ => Exec.ite_err_ne_panic fun _ =>
    Exec.ite_err_ne_panic fun _ => Exec.ite_err_ne_panic fun _ => Exec.ite_err_ne_panic fun _ =>
    Exec.bind_ne_panic (Exec.okOr_ne_panic _ _) fun _ _ => ?_
  refine Exec.ite_err_ne_panic fun _ => Exec.ite_err_ne_panic fun _ =>
    Exec.ite_err_ne_panic fun halign => ?_
  rw [misaligned_of_ne (ne_zero_of_isPowerOfTwo (not_not.mp (not_or.mp halign).1)), Exec.ok_bind]
  refine Exec.ite_err_ne_panic fun _ => Exec.bind_ne_panic (Exec.okOr_ne_panic _ _) fun _ _ => ?_
  exact Exec.ite_err_ne_panic fun _ => by simp

/-- On a valid segment the sum in the loop's test for the entry point does not
overflow, and the test is `Enters`. -/
theorem entryInside_eq {length : ℕ} {entry : UInt64} {header : ProgramHeader}
    (h : SegmentValid length header.nat) :
    entryInside entry header = .ok (decide (header.nat.Enters entry.toNat)) := by
  have hend : header.nat.vaddr + header.nat.memsz ≤ 0x40000000 := by
    rw [h.identity]
    exact (le_roundUp _ (by decide)).trans h.window_le
  have hlt : header.virtualAddress.toNat + header.memorySize.toNat < 2 ^ 64 :=
    lt_of_le_of_lt hend (by decide)
  have hsum : (header.virtualAddress + header.memorySize).toNat =
      header.nat.vaddr + header.nat.memsz := by
    rw [UInt64.toNat_add]
    exact Nat.mod_eq_of_lt hlt
  have hexec : header.flags &&& pfX ≠ 0 ↔ header.nat.flags.testBit 0 = true := by
    rw [ne_eq, flags_executable, Bool.not_eq_false]
    rfl
  unfold entryInside
  by_cases hin : header.flags &&& pfX ≠ 0 ∧ entry ≥ header.virtualAddress
  · rw [if_pos hin, addWord_of_lt hlt, Exec.ok_bind]
    refine congrArg Exec.ok (decide_eq_decide.mpr ?_)
    rw [UInt64.lt_iff_toNat_lt, hsum]
    exact ⟨fun hlt => ⟨hexec.mp hin.1, UInt64.le_iff_toNat_le.mp hin.2, hlt⟩, fun h => h.2.2⟩
  · rw [if_neg hin, Exec.ok.injEq, eq_comm, decide_eq_false_iff_not]
    exact fun h => hin ⟨hexec.mpr h.1, UInt64.le_iff_toNat_le.mpr h.2.1⟩

theorem alignUp_ne_panic (value : UInt64) : alignUp value pageSize ≠ .panic := by
  rw [alignUp, subWord_of_le (by decide)]
  simp

/-- The counter is bounded by the check of the iteration before. -/
theorem scanStep_ne_panic (elf : ElfHeader) (index : ℕ) {scan : Scan} (header : ProgramHeader)
    (hcount : scan.loadCount ≤ maxLoadSegments) :
    scanStep elf index scan (.ok header) ≠ .panic := by
  have horder : validateSegmentOrder index header scan.previous ≠ .panic := by
    unfold validateSegmentOrder
    split
    · simp
    · exact Exec.ite_err_ne_panic fun _ => Exec.ite_err_ne_panic fun _ => by simp
  have hword : scan.loadCount + 1 < 2 ^ 16 := Nat.lt_of_le_of_lt (Nat.succ_le_succ hcount) (by decide)
  simp only [scanStep, Exec.mapErr_ok, Exec.ok_bind]
  by_cases hnull : header.kind = ptNull
  · simp [hnull]
  · rw [if_neg hnull]
    refine Exec.ite_err_ne_panic fun _ => ?_
    unfold scanLoad
    rw [addCount_of_lt hword, Exec.ok_bind]
    refine Exec.ite_err_ne_panic fun _ => ?_
    refine Exec.bind_ne_panic (validateLoadSegment_ne_panic index header elf.fileSize) fun _ hok =>
      Exec.bind_ne_panic (alignUp_ne_panic _) fun _ _ =>
      Exec.bind_ne_panic (Exec.okOr_ne_panic _ _) fun _ _ => Exec.bind_ne_panic horder fun _ _ =>
      Exec.bind_ne_panic (Exec.okOr_ne_panic _ _) fun _ _ => Exec.ite_err_ne_panic fun _ => ?_
    rw [entryInside_eq (validateLoadSegment_eq_ok.mp hok).1]
    simp

theorem loads_tableNat_concat (seen : List ProgramHeader) {header : ProgramHeader}
    (h : header.kind = ptLoad) :
    loads (tableNat (seen ++ [header])) = loads (tableNat seen) ++ [header.nat] := by
  rw [tableNat, List.map_append]
  exact loads_concat_load _ (kind_eq_load.mp h)

/-- The state after a load header whose checks have passed. -/
theorem scanOf_concat_load {entry pageEnd total : UInt64} {seen : List ProgramHeader}
    {header : ProgramHeader} (hkind : header.kind = ptLoad)
    (hpageEnd : pageEnd.toNat = header.nat.pageEnd)
    (htotal : total.toNat = ((loads (tableNat seen)).map Phdr.memsz).sum + header.nat.memsz) :
    scanOf entry (seen ++ [header]) =
      ⟨(scanOf entry seen).loadCount + 1, total,
        some (seen.length, header.physicalAddress, pageEnd),
        decide (header.nat.Enters entry.toNat) || (scanOf entry seen).entryIsExecutable⟩ := by
  simp only [scanOf, loads_tableNat_concat seen hkind, loadHeaders_concat_load seen hkind,
    List.length_append, List.length_singleton, List.map_append, List.map_singleton,
    List.sum_append, List.sum_singleton, List.getLast?_append, List.getLast?_singleton,
    Option.some_or, Option.map_some, List.any_append, List.any_cons, List.any_nil, Bool.or_false,
    Scan.mk.injEq, true_and, Option.some.injEq, Prod.mk.injEq]
  refine ⟨?_, ?_, Bool.or_comm _ _⟩
  · rw [← htotal, UInt64.ofNat_toNat]
  · rw [← hpageEnd, UInt64.ofNat_toNat]

theorem scanLoad_eq_ok {bytes : Bytes} {elf : ElfHeader} {seen : List ProgramHeader}
    {header : ProgramHeader} {scan : Scan} (hsize : elf.fileSize.toNat = bytes.length)
    (hkind : header.kind = ptLoad) (hseen : TableValid bytes.length (tableNat seen)) :
    scanLoad elf seen.length (scanOf elf.entry seen) header = .ok scan ↔
      Extends bytes.length (tableNat seen) header.nat ∧
        scan = scanOf elf.entry (seen ++ [header]) := by
  have hsum : (scanOf elf.entry seen).totalLoadSize.toNat =
      ((loads (tableNat seen)).map Phdr.memsz).sum :=
    UInt64.toNat_ofNat_of_lt' (lt_of_le_of_lt hseen.total (by decide))
  have hend : SegmentValid bytes.length header.nat →
      header.nat.paddr + header.nat.memsz ≤ 0x40000000 :=
    fun h => (le_roundUp _ (by decide)).trans h.window_le
  have hload : (addCount (scanOf elf.entry seen).loadCount 1 : Exec ParseError ℕ) =
      .ok ((loads (tableNat seen)).length + 1) :=
    addCount_of_lt (Nat.lt_of_le_of_lt (Nat.succ_le_succ hseen.count) (by decide))
  simp only [scanLoad, hload, Exec.ok_bind, Exec.ite_err_eq_ok, Exec.bind_eq_ok, Exec.okOr_eq_ok,
    Exec.pure_eq_ok, Exec.ok.injEq, validateLoadSegment_eq_ok, checkedAdd_eq_some, gt_iff_lt,
    not_lt, hsize, hsum, UInt64.lt_iff_toNat_lt]
  constructor
  · rintro ⟨hcount, finish, ⟨hvalid, hfinish⟩, rounded, halign, pageEnd, hpageEnd, ⟨⟩, horder,
      total, htotal, hmax, inside, hinside, rfl⟩
    obtain rfl := Exec.ok.inj ((entryInside_eq hvalid).symm.trans hinside)
    obtain ⟨aligned, haligned, hnat⟩ := alignUp_page
      (show finish.toNat + 4095 < 2 ^ 64 by have := hend hvalid; omega)
    obtain rfl : aligned = pageEnd := by
      rw [haligned, Exec.ok.injEq] at halign
      exact Option.some.inj (halign.trans hpageEnd)
    refine ⟨⟨hcount, hvalid, (validateSegmentOrder_eq_ok elf.entry hseen).mp horder, ?_⟩, ?_⟩
    · rw [htotal] at hmax
      exact hmax
    · exact (scanOf_concat_load hkind (by rw [hnat, hfinish]; rfl) htotal).symm
  · rintro ⟨⟨hcount, hvalid, hlast, htotal⟩, rfl⟩
    have hfinish : (header.physicalAddress + header.memorySize).toNat =
        header.nat.paddr + header.nat.memsz := by
      rw [UInt64.toNat_add]
      exact Nat.mod_eq_of_lt (lt_of_le_of_lt (hend hvalid) (by decide))
    obtain ⟨aligned, haligned, hnat⟩ := alignUp_page
      (show (header.physicalAddress + header.memorySize).toNat + 4095 < 2 ^ 64 by
        have := hend hvalid
        omega)
    have htotal' : (UInt64.ofNat (((loads (tableNat seen)).map Phdr.memsz).sum +
        header.nat.memsz)).toNat = ((loads (tableNat seen)).map Phdr.memsz).sum +
        header.nat.memsz := UInt64.toNat_ofNat_of_lt' (lt_of_le_of_lt htotal (by decide))
    refine ⟨hcount, _, ⟨hvalid, hfinish⟩, some aligned, haligned, aligned, rfl, (),
      (validateSegmentOrder_eq_ok elf.entry hseen).mpr hlast, _, htotal', ?_, _,
      entryInside_eq hvalid, ?_⟩
    · rw [htotal']
      exact htotal
    · exact (scanOf_concat_load hkind (by rw [hnat, hfinish]; rfl) htotal').symm

theorem scanStep_spec {bytes : Bytes} {elf : ElfHeader}
    (hsize : elf.fileSize.toNat = bytes.length) (seen : List ProgramHeader)
    (header : ProgramHeader) (hseen : TableValid bytes.length (tableNat seen)) :
    (TableValid bytes.length (tableNat (seen ++ [header])) ∧
      scanStep elf (0 + seen.length) (scanOf elf.entry seen) (.ok header) =
        .ok (scanOf elf.entry (seen ++ [header]))) ∨
    (¬TableValid bytes.length (tableNat (seen ++ [header])) ∧
      ∃ e, scanStep elf (0 + seen.length) (scanOf elf.entry seen) (.ok header) = .err e) := by
  have htable : tableNat (seen ++ [header]) = tableNat seen ++ [header.nat] :=
    List.map_append
  rw [Nat.zero_add, htable, tableValid_concat header.nat hseen, ← kind_eq_null, ← kind_eq_load]
  refine Exec.ok_or_err (scanStep_ne_panic elf seen.length header hseen.count) fun scan => ?_
  by_cases hnull : header.kind = ptNull
  · have hother : header.kind ≠ ptLoad := by
      rw [hnull]
      decide
    have hscan : scanOf elf.entry (seen ++ [header]) = scanOf elf.entry seen := by
      simp only [scanOf, htable, loadHeaders_concat_other seen hother,
        loads_concat_other _ (mt kind_eq_load.mpr hother)]
    simp [scanStep, hnull, hscan, eq_comm]
  · by_cases hload : header.kind = ptLoad
    · simpa [scanStep, hload, show ptLoad ≠ ptNull by decide] using
        scanLoad_eq_ok hsize hload hseen
    · simp [scanStep, hnull, hload]

/-- A table stays valid on every prefix, so a failing prefix refutes it. -/
theorem TableValid.of_append {length : ℕ} {table rest : List Phdr}
    (h : TableValid length (table ++ rest)) : TableValid length table := by
  have hloads : loads (table ++ rest) = loads table ++ loads rest := List.filter_append _ _
  have hcount := h.count
  have htotal := h.total
  have hdisjoint := h.disjoint
  rw [hloads, List.length_append] at hcount
  rw [hloads, List.map_append, List.sum_append] at htotal
  rw [hloads] at hdisjoint
  exact ⟨fun p hp => h.kinds p (List.mem_append_left _ hp), by omega,
    fun p hp => h.segments p (by rw [hloads]; exact List.mem_append_left _ hp),
    (List.pairwise_append.mp hdisjoint).1, by omega⟩

theorem scan_spec {bytes : Bytes} {elf : ElfHeader} (hsize : elf.fileSize.toNat = bytes.length)
    (headers : List ProgramHeader) :
    (TableValid bytes.length (tableNat headers) ∧
      Exec.foldIdx (scanStep elf) 0 ⟨0, 0, none, false⟩ (headers.map .ok) =
        .ok (scanOf elf.entry headers)) ∨
    (¬TableValid bytes.length (tableNat headers) ∧
      ∃ e, Exec.foldIdx (scanStep elf) 0 ⟨0, 0, none, false⟩ (headers.map .ok) = .err e) := by
  have hnil : TableValid bytes.length (tableNat []) :=
    ⟨by simp [tableNat], by simp [tableNat, loads], by simp [tableNat, loads],
      by simp [tableNat, loads], by simp [tableNat, loads]⟩
  rw [Exec.foldIdx_map]
  rcases Exec.foldIdx_spec (i := 0) (fun j scan header => scanStep elf j scan (.ok header))
      (fun seen => TableValid bytes.length (tableNat seen)) (scanOf elf.entry) (fun _ _ => True)
      hnil (fun seen header hseen => by simpa using scanStep_spec hsize seen header hseen)
      headers with h | ⟨seen, header, rest, e, rfl, -, hbad, herr, -⟩
  · exact Or.inl h
  · refine Or.inr ⟨fun h => hbad ?_, e, herr⟩
    rw [List.append_cons, tableNat, List.map_append] at h
    exact h.of_append

-- ════════════════════════════════════════════════════════════════════════
-- The whole file
-- ════════════════════════════════════════════════════════════════════════

/-- Page-disjoint segments cannot both hold the entry point. -/
theorem enters_unique {length entry : ℕ} {table : List Phdr} (h : TableValid length table)
    (hentry : ∃ p ∈ loads table, p.Enters entry) :
    ((loads table).filter (Phdr.Enters entry)).length = 1 := by
  have hpair : ((loads table).filter (Phdr.Enters entry)).Pairwise fun p q =>
      p.pageEnd ≤ q.paddr := h.disjoint.filter _
  have henters : ∀ p ∈ (loads table).filter (Phdr.Enters entry),
      p.paddr ≤ entry ∧ entry < p.pageEnd := by
    intro p hp
    obtain ⟨hmem, hp⟩ := List.mem_filter.mp hp
    obtain ⟨-, hge, hlt⟩ := of_decide_eq_true hp
    have hident := (h.segments p hmem).identity
    rw [hident] at hge hlt
    exact ⟨hge, hlt.trans_le (le_roundUp _ (by decide))⟩
  obtain ⟨p, hp, hpe⟩ := hentry
  have hmem : p ∈ (loads table).filter (Phdr.Enters entry) :=
    List.mem_filter.mpr ⟨hp, decide_eq_true hpe⟩
  generalize (loads table).filter (Phdr.Enters entry) = found at hpair henters hmem
  match found, hpair, henters, hmem with
  | [q], _, _, _ => rfl
  | q :: r :: rest, hpair, henters, _ =>
    have hle := (List.pairwise_cons.mp hpair).1 r (by simp)
    have hq := henters q (by simp)
    have hr := henters r (by simp)
    omega

/-- The program headers of a file, as the decoder returns them. -/
def headersOf (bytes : Bytes) : List ProgramHeader :=
  (List.range (field bytes 56 2)).map fun i => headerAt bytes (field bytes 32 8 + 56 * i)

theorem tableNat_headersOf (bytes : Bytes) : tableNat (headersOf bytes) = tableOf bytes := by
  rw [tableNat, headersOf, List.map_map, tableOf]
  exact List.map_congr_left fun i _ => nat_headerAt bytes _

theorem map_decodeProgramHeader {bytes : Bytes} (h : HeaderValid bytes)
    (hlen : bytes.length < 2 ^ 64) :
    (List.range (headerOf bytes).programHeaderCount.toNat).map
      (decodeProgramHeader bytes (headerOf bytes).programHeaderOffset) =
      (headersOf bytes).map .ok := by
  have hfits := h.table_fits
  show (List.range (UInt16.ofNat (field bytes 56 2)).toNat).map
    (decodeProgramHeader bytes (field bytes 32 8)) = _
  rw [toNat_field16, headersOf, List.map_map]
  refine List.map_congr_left fun i hi => ?_
  have hlt := List.mem_range.mp hi
  exact decodeProgramHeader_eq (by omega) hlen

theorem validateProgramHeaders_eq_ok {bytes : Bytes} {count : ℕ} (h : HeaderValid bytes)
    (hlen : bytes.length < 2 ^ 64) :
    validateProgramHeaders bytes (headerOf bytes) = .ok count ↔
      TableValid bytes.length (tableOf bytes) ∧ 1 ≤ (loads (tableOf bytes)).length ∧
        ((loads (tableOf bytes)).filter (Phdr.Enters (entryOf bytes))).length = 1 ∧
        count = (loads (tableOf bytes)).length := by
  have hentry : (headerOf bytes).entry.toNat = entryOf bytes := toNat_field64
  have hsize : (headerOf bytes).fileSize.toNat = bytes.length := fileSizeOf_toNat hlen
  have hscan := scan_spec hsize (headersOf bytes)
  rw [tableNat_headersOf] at hscan
  unfold validateProgramHeaders
  rw [map_decodeProgramHeader h hlen]
  rcases hscan with ⟨hvalid, hok⟩ | ⟨hbad, e, herr⟩
  · rw [hok, Exec.ok_bind, Exec.ite_err_eq_ok, Exec.ite_err_eq_ok, Exec.ok.injEq]
    simp only [scanOf, tableNat_headersOf, hentry, hvalid, true_and, Bool.not_eq_true',
      Bool.not_eq_false, List.any_eq_true, decide_eq_true_eq, eq_comm (b := count)]
    refine and_congr Nat.one_le_iff_ne_zero.symm (and_congr_left fun _ => ?_)
    constructor
    · exact enters_unique hvalid
    · intro hone
      obtain ⟨p, hp⟩ := List.exists_mem_of_length_pos (hone ▸ Nat.one_pos)
      obtain ⟨hmem, hp⟩ := List.mem_filter.mp hp
      exact ⟨p, hmem, of_decide_eq_true hp⟩
  · rw [herr]
    simp [hbad]

/-- What `parse` returns for an accepted file. -/
def elfOf (bytes : Bytes) : ValidatedElf where
  bytes := bytes
  entryPoint := (headerOf bytes).entry
  programHeaderOffset := (headerOf bytes).programHeaderOffset
  programHeaderCount := (headerOf bytes).programHeaderCount
  loadSegmentCount := (loads (tableOf bytes)).length

theorem parse_eq_ok {bytes : Bytes} {elf : ValidatedElf} :
    parse bytes = .ok elf ↔ Profile bytes ∧ elf = elfOf bytes := by
  unfold parse
  by_cases hge : bytes.length < elfHeaderSize
  · rw [if_pos hge]
    simp only [reduceCtorEq, false_iff, not_and]
    intro h
    exact absurd h.length_ge (not_le.mpr hge)
  · rw [if_neg hge]
    have hge : 64 ≤ bytes.length := not_lt.mp hge
    by_cases hle : bytes.length ≤ 16 * 1024 * 1024
    · have hlt : bytes.length < 2 ^ 64 := lt_of_le_of_lt hle (by decide)
      rw [if_neg (not_lt.mpr hle : ¬bytes.length > maxElfFileSize), Exec.check_bind_eq_ok,
        validateIdentification_eq_ok hge]
      simp only [Exec.bind_eq_ok, parseHeader_eq_ok hge hle, Exec.pure_eq_ok, Exec.ok.injEq]
      constructor
      · rintro ⟨hident, header, ⟨hheader, rfl⟩, count, hcount, rfl⟩
        obtain ⟨htable, hloaded, hentry, rfl⟩ := (validateProgramHeaders_eq_ok hheader hlt).mp hcount
        exact ⟨⟨hge, hle, hident, hheader, htable, hloaded, hentry⟩, rfl⟩
      · rintro ⟨h, rfl⟩
        exact ⟨h.ident, _, ⟨h.header, rfl⟩, _, (validateProgramHeaders_eq_ok h.header hlt).mpr
          ⟨h.table, h.loaded, h.entry, rfl⟩, rfl⟩
    · rw [if_pos (not_le.mp hle : bytes.length > maxElfFileSize)]
      simp only [reduceCtorEq, false_iff, not_and]
      intro h
      exact absurd h.length_le hle

/-- `parse` accepts exactly the documented profile. -/
theorem parse_accepts_profile (bytes : Bytes) : (∃ elf, parse bytes = .ok elf) ↔ Profile bytes := by
  constructor
  · rintro ⟨elf, helf⟩
    exact (parse_eq_ok.mp helf).1
  · intro h
    exact ⟨elfOf bytes, parse_eq_ok.mpr ⟨h, rfl⟩⟩

end PolytopeOS.BootElf
