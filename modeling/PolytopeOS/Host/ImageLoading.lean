import PolytopeOS.Host.Image
import PolytopeOS.Loader.FreeMemory

/-!
# Loading a validated image

An image that `validate_image_bytes` accepts can be loaded: what the loader reads
is what the host has read back. So an image from `build_image` loads the kernel and
the scenario that were asked for.
-/

namespace PolytopeOS.Host
open Corelib Arch BootElf

-- ════════════════════════════════════════════════════════════════════════
-- What validation has read
-- ════════════════════════════════════════════════════════════════════════

def espStart : ℕ := 2048 * 512

def espFinish : ℕ := 129024 * 512

theorem espRange_eq : espRange = .ok (espStart, espFinish) := by decide

/-- The file system of an image, as the library opens it. -/
def ImageTools.volume (tools : ImageTools) (image : Bytes) : Option FatVolume :=
  (slice image espStart espFinish).bind tools.openFat

/-- What validation has read from an image. -/
structure ReadBack (tools : ImageTools) (image : Bytes) (manifest : ImageManifest)
    (volume : FatVolume) (loader kernel : Bytes) : Prop where
  opened : tools.volume image = some volume
  loaderRead : tools.readFile volume loaderImagePath maxPayloadBytes = .ok loader
  kernelRead : tools.readFile volume kernelImagePath maxElfFileSize = .ok kernel
  scenarioRead : tools.readFile volume scenarioImagePath maxScenarioFileBytes =
    .ok manifest.scenario.file
  uefi : validateUefiLoader loader = .ok ()
  elf : ∃ elf, BootElf.parse kernel = .ok elf
  loaderDigest : manifest.loaderSha256 = tools.sha256Hex loader
  kernelDigest : manifest.kernelSha256 = tools.sha256Hex kernel

theorem openEsp_eq_ok {tools : ImageTools} {partition : Bytes} {volume : FatVolume}
    (h : tools.openEsp partition = .ok volume) : tools.openFat partition = some volume := by
  simp only [ImageTools.openEsp, ↓Exec.check_bind_eq_ok, Exec.bind_eq_ok, Exec.okOr_eq_ok] at h
  obtain ⟨_, -, -, volume', hopen, -, -, -, hvolume⟩ := h
  cases hvolume
  exact hopen

theorem validateImageBytes_eq_ok {tools : ImageTools} {image : Bytes} {manifest : ImageManifest}
    (h : tools.validateImageBytes image = .ok manifest) :
    ∃ volume loader kernel, ReadBack tools image manifest volume loader kernel := by
  simp only [ImageTools.validateImageBytes, validateKernelElf, ↓Exec.check_bind_eq_ok,
    Exec.bind_eq_ok, Exec.okOr_eq_ok, Exec.mapErr_eq_ok, parseScenario_eq_ok] at h
  obtain ⟨_, -, disk, -, -, range, hrange, partition, hpartition, volume, hvolume, -, loader,
    hloader, kernel, hkernel, _, hscenario, huefi, ⟨elf, helf, -⟩, scenario, rfl, bytes, -,
    hmanifest⟩ := h
  obtain rfl := Exec.ok.inj (espRange_eq.symm.trans hrange)
  cases hmanifest
  refine ⟨volume, loader, kernel, ?_, hloader, hkernel, hscenario, huefi, ⟨elf, helf⟩, rfl, rfl⟩
  change Exec.unwrap (slice image espStart espFinish) = _ at hpartition
  rw [ImageTools.volume]
  cases hslice : slice image espStart espFinish with
  | none => rw [hslice] at hpartition; cases hpartition
  | some part =>
    rw [hslice] at hpartition
    cases hpartition
    exact openEsp_eq_ok hvolume

/-- The other direction, from what each check needs. -/
theorem validateImageBytes_of {tools : ImageTools} {image partition loader kernel : Bytes}
    {disk : GptDisk} {volume : FatVolume} {scenario : BootScenario} {elf : ValidatedElf}
    (hlayout : validateImageLayout image = .ok ()) (hdisk : tools.openGpt image = some disk)
    (hpartitions : validatePartitions disk = .ok ())
    (hslice : slice image espStart espFinish = some partition)
    (hvolume : tools.openEsp partition = .ok volume) (htree : volume.validateTree = .ok ())
    (hloader : tools.readFile volume loaderImagePath maxPayloadBytes = .ok loader)
    (hkernel : tools.readFile volume kernelImagePath maxElfFileSize = .ok kernel)
    (hscenario : tools.readFile volume scenarioImagePath maxScenarioFileBytes = .ok scenario.file)
    (huefi : validateUefiLoader loader = .ok ()) (helf : BootElf.parse kernel = .ok elf)
    (hsize : image.length < 2 ^ 64) :
    ∃ manifest, tools.validateImageBytes image = .ok manifest ∧
      manifest.loaderSha256 = tools.sha256Hex loader ∧
      manifest.kernelSha256 = tools.sha256Hex kernel ∧ manifest.scenario = scenario := by
  have hpartition : sliceAt image espStart espFinish = (.ok partition : Exec ImageError Bytes) :=
    congrArg Exec.unwrap hslice
  have hparsed : parseScenario scenario.file = .ok scenario := parseScenario_eq_ok.mpr rfl
  simp only [ImageTools.validateImageBytes, validateKernelElf, hlayout, hdisk, hpartitions,
    espRange_eq, hpartition, hvolume, htree, hloader, hkernel, hscenario, huefi, helf, hparsed,
    checkedSize_of_lt hsize, Exec.mapErr_ok, Exec.okOr_some, Exec.ok_bind, Exec.pure_eq_ok]
  exact ⟨_, rfl, rfl, rfl, rfl⟩

-- ════════════════════════════════════════════════════════════════════════
-- The tables around the partition
-- ════════════════════════════════════════════════════════════════════════

section Partition

variable {disk part : Bytes}

theorem finish_zeros {start n : ℕ} : (⟨start, zeros n⟩ : Piece).finish = start + n := by
  rw [Piece.finish, length_zeros]

theorem finish_le_of_mem_mbrPieces {p : Piece} (hp : p ∈ mbrPieces) : p.finish ≤ 512 := by
  have hentry : protectiveEntry.length = 16 := rfl
  revert p
  simp [mbrPieces, Piece.finish, hentry]

/-- The pieces of a header lie in its sector. -/
theorem shifted_finish_le {p : Piece} {currentLba backupLba entriesLba : UInt64} {base : ℕ}
    (hp : p ∈ (headerPieces currentLba backupLba entriesLba).map (Piece.shift base)) :
    base ≤ p.offset ∧ p.finish ≤ base + 512 := by
  obtain ⟨q, hq, rfl⟩ := List.mem_map.mp hp
  have hfinish := finish_le_of_mem_headerPieces hq
  unfold Piece.finish at hfinish
  change base ≤ base + q.offset ∧ base + q.offset + q.content.length ≤ base + 512
  omega

/-- The prescribed pieces lie outside the partition. -/
theorem diskPieces_outside {p : Piece} (hp : p ∈ diskPieces) :
    p.finish ≤ espStart ∨ espFinish ≤ p.offset := by
  simp only [diskPieces, List.mem_append] at hp
  rcases hp with (((hmbr | hprimary) | hbackup) | hunused) | hgap
  · exact Or.inl ((finish_le_of_mem_mbrPieces hmbr).trans (by decide))
  · exact Or.inl ((shifted_finish_le hprimary).2.trans (by decide))
  · have hlast : espFinish ≤ backupHeader := by decide
    exact Or.inr (hlast.trans (shifted_finish_le hbackup).1)
  · simp only [unusedPieces, List.mem_cons, List.not_mem_nil, or_false] at hunused
    rcases hunused with rfl | rfl
    · exact Or.inl (finish_zeros.le.trans (by decide))
    · exact Or.inr (by decide)
  · simp only [gapPieces, List.mem_cons, List.not_mem_nil, or_false] at hgap
    rcases hgap with rfl | rfl
    · exact Or.inl (finish_zeros.le.trans (by decide))
    · exact Or.inr (by decide)

/-- Replacing a part leaves the ranges outside it as they were. -/
theorem range_splice {start finish i n : ℕ} (hpart : start + part.length = finish)
    (hfinish : finish ≤ disk.length) (h : i + n ≤ start ∨ finish ≤ i) :
    ((disk.take start ++ part ++ disk.drop finish).drop i).take n = (disk.drop i).take n := by
  have hstart : (disk.take start).length = start := List.length_take_of_le (by omega)
  rcases h with hbefore | hafter
  -- a range before the part lies in the first summand, one behind it in the last
  · rw [List.append_assoc, List.drop_append_of_le_length (by omega),
      List.take_append_of_le_length (by rw [List.length_drop]; omega), List.drop_take,
      List.take_take, min_eq_left (by omega)]
  · obtain ⟨j, rfl⟩ := Nat.exists_eq_add_of_le hafter
    have hlength : (disk.take start ++ part).length = finish := by
      rw [List.length_append, hstart, hpart]
    rw [← hlength, List.drop_length_add_append, hlength, List.drop_drop]

/-- The layout of the disk does not depend on what the partition holds. -/
theorem RawGpt.splice (h : RawGpt disk) (hlen : disk.length = diskBytes)
    (hpart : espStart + part.length = espFinish) :
    RawGpt (disk.take espStart ++ part ++ disk.drop espFinish) := by
  have hrange : ∀ {i n : ℕ}, i + n ≤ espStart ∨ espFinish ≤ i →
      ((disk.take espStart ++ part ++ disk.drop espFinish).drop i).take n =
        (disk.drop i).take n :=
    range_splice hpart (by rw [hlen]; decide)
  refine ⟨fun p hp => ?_, ?_, ?_, ?_, ?_⟩
  · rw [Piece.Holds, hrange (diskPieces_outside hp)]
    exact h.pieces p hp
  · rw [hrange (by decide), hrange (by decide)]
    exact h.guid
  · rw [hrange (by decide), hrange (by decide)]
    exact h.crc
  · rw [hrange (by decide), hrange (by decide)]
    exact h.entry
  · rw [hrange (by decide)]
    exact h.entry_nonzero

end Partition

-- ════════════════════════════════════════════════════════════════════════
-- What the loader reads
-- ════════════════════════════════════════════════════════════════════════

section Loading

open Loader (Platform Directory readFiles readBoundedFile prepareKernel LoaderError Generous
  HasRoom)

/-- Under a path the firmware delivers a content, in whatever chunks. -/
def DeliversFile (root : Directory) (path : String) (maximum : ℕ) (content : Bytes) : Prop :=
  ∃ file stream, root.openFile path = some (some file) ∧
    (∀ call, file.read call (loaderChunkLength maximum) = some (stream call)) ∧
    Delivers stream 0 content

/-- The firmware finds the files in an image that the host's library finds there,
and has the memory to read them. -/
structure Presents (platform : Platform) (tools : ImageTools) (image : Bytes) (root : Directory) :
    Prop where
  fileSystem : platform.imageFileSystem = some (some root)
  kernel : ∀ volume content, tools.volume image = some volume →
    tools.readFile volume kernelImagePath maxElfFileSize = .ok content →
    DeliversFile root Loader.kernelFile maxElfFileSize content
  scenario : ∀ volume content, tools.volume image = some volume →
    tools.readFile volume scenarioImagePath maxScenarioFileBytes = .ok content →
    DeliversFile root Loader.scenarioFile Loader.maxScenarioBytes content
  heap : ∀ path call, platform.tryReserve path call = true

variable {platform : Platform} {root : Directory} {path : String} {maximum : ℕ} {content : Bytes}

theorem readBoundedFile_delivered (limitError : LoaderError) (hmaximum : maximum < 2 ^ 64)
    (hheap : ∀ path call, platform.tryReserve path call = true)
    (hdelivers : DeliversFile root path maximum content) (hlength : content.length ≤ maximum) :
    readBoundedFile root platform.tryReserve path maximum limitError = .ok content := by
  obtain ⟨file, stream, hopen, hread, hstream⟩ := hdelivers
  exact ((readBoundedFile_exact hmaximum hopen hread fun call => hheap path call).exact content).mpr
    ⟨hstream, hlength⟩

theorem length_le_of_parse {bytes : Bytes} {elf : ValidatedElf}
    (h : BootElf.parse bytes = .ok elf) : bytes.length ≤ maxElfFileSize := by
  simp only [BootElf.parse, Exec.ite_err_eq_ok] at h
  exact not_lt.mp h.2.1

theorem length_file_le (scenario : BootScenario) :
    scenario.file.length ≤ Loader.maxScenarioBytes := by
  cases scenario <;> decide +kernel

/-- The loader reads the kernel and the scenario that validation has read. -/
theorem readFiles_of_readBack {tools : ImageTools} {image : Bytes} {manifest : ImageManifest}
    {volume : FatVolume} {loader kernel : Bytes}
    (h : ReadBack tools image manifest volume loader kernel)
    (hpresents : Presents platform tools image root) :
    readFiles platform = .ok (kernel, manifest.scenario.loader) := by
  obtain ⟨elf, helf⟩ := h.elf
  have hkernel := readBoundedFile_delivered .elfInvalid (by decide) hpresents.heap
    (hpresents.kernel volume kernel h.opened h.kernelRead) (length_le_of_parse helf)
  have hscenario := readBoundedFile_delivered .configInvalid (by decide) hpresents.heap
    (hpresents.scenario volume _ h.opened h.scenarioRead)
    (length_file_le manifest.scenario)
  rw [readFiles, hpresents.fileSystem]
  simp only [Exec.okOr_some, Exec.ok_bind, hkernel, hscenario, loader_parse_file, Exec.mapErr_ok,
    Exec.pure_eq_ok]

-- ════════════════════════════════════════════════════════════════════════
-- A sample image
-- ════════════════════════════════════════════════════════════════════════

/-- A boot sector for the partition of an image. -/
def espBoot : Bytes :=
  [zeros 3, ascii "MSWIN4.1", u16ToLe 512, [1], u16ToLe 8, [2], zeros 4, [0xf8], zeros 10,
    u32ToLe 126976, u32ToLe 977, zeros 4, u32ToLe 2, u16ToLe 1, u16ToLe 6, zeros 19,
    fatVolumeLabel, zeros 428, [0x55, 0xaa]].flatten

/-- One allocated cluster; the number of free ones is a variable, so that no proof
computes the table. -/
def espFat (free : ℕ) : Bytes := fatOf (sampleTable [0x0fffffff] free 40)

def espBytes : ℕ := 126976 * 512

def espPieces : List Piece :=
  [⟨0, espBoot⟩, ⟨512, sampleFsInfo 3⟩, ⟨1024, zeros 2048⟩, ⟨3072, espBoot⟩, ⟨3584, zeros 512⟩,
    ⟨8 * 512, espFat 125013⟩, ⟨985 * 512, espFat 125013⟩, ⟨1962 * 512, zeros (125014 * 512)⟩]

def sampleEsp : Bytes := Piece.contents espPieces

theorem espBoot_label : espBoot.length = 512 ∧ fatVolumeLabel.length = 11 ∧
    (espBoot.drop 71).take 11 = fatVolumeLabel := by
  decide +kernel

theorem length_espBoot : espBoot.length = 512 := espBoot_label.1

theorem length_espFat {free : ℕ} : (espFat free).length = (free + 43) * 4 := by
  rw [espFat, length_fatOf, List.length_singleton]
  omega

theorem espFat_table {free : ℕ} (hfree : 0 < free) : CanonicalTable (espFat free) (3 + free) 3 :=
  canonicalTable_fatOf 40 hfree (List.forall_mem_singleton.mpr ⟨by decide, Or.inr (by decide)⟩)

theorem espPieces_tile : Piece.Tiles 0 espPieces := by
  simp [espPieces, Piece.Tiles, length_espBoot, length_sampleFsInfo, length_espFat]

theorem espPieces_hold : ∀ p ∈ espPieces, p.Holds sampleEsp := Piece.holds_contents espPieces_tile

theorem length_sampleEsp : sampleEsp.length = espBytes := by
  have hlast : espPieces.getLast? = some ⟨1962 * 512, zeros (125014 * 512)⟩ := rfl
  have hfinish : Piece.finish ⟨1962 * 512, zeros (125014 * 512)⟩ = espBytes :=
    finish_zeros.trans (by decide)
  have hlength := Piece.length_contents espPieces_tile hlast
  rw [Nat.zero_add, hfinish] at hlength
  exact hlength

/-- A run of sectors that is a piece of the partition. -/
theorem lbaRange_sampleEsp (start : ℕ) {n : ℕ} {content : Bytes} {startLba endLba : UInt64}
    (hp : ⟨start, content⟩ ∈ espPieces) (hcontent : content.length = n)
    (hstart : startLba.toNat * 512 = start) (hend : endLba.toNat * 512 = start + n)
    (hfits : start + n ≤ espBytes) : lbaRange sampleEsp startLba endLba = .ok content := by
  have hholds := espPieces_hold _ hp
  rw [Piece.Holds, hcontent] at hholds
  rw [lbaRange_eq hstart hend (by rw [length_sampleEsp]; exact hfits)
    (by rw [length_sampleEsp]; decide)]
  exact congrArg Exec.ok hholds

theorem sector_sampleEsp (start : ℕ) {content : Bytes} {lba : UInt64}
    (hp : ⟨start, content⟩ ∈ espPieces) (hcontent : content.length = 512)
    (hstart : lba.toNat * 512 = start) (hfits : lba.toNat < 126976) :
    sector sampleEsp lba = .ok content := by
  have hnext : (lba + 1).toNat = lba.toNat + 1 := toNat_next (by omega)
  rw [sector_eq_lbaRange (by omega)]
  have hend : (lba + 1).toNat * 512 = start + 512 := by rw [hnext, Nat.add_mul, hstart]
  refine lbaRange_sampleEsp start hp hcontent hstart hend ?_
  unfold espBytes
  omega

def espRegions : FatRegions := ⟨espFat 125013, 126976, 1962, sampleFsInfo 3⟩

theorem espBoot_valid : validateFatBootSector sampleEsp espBoot = .ok (126976, 977) := by
  have hcount : sampleEsp.length / logicalBlockBytes = 126976 := by
    rw [length_sampleEsp]
    decide
  rw [validateFatBootSector, hcount]
  decide +kernel

theorem rawFat32Regions_sampleEsp : rawFat32Regions sampleEsp = .ok espRegions := by
  have hboot : sector sampleEsp 0 = .ok espBoot :=
    sector_sampleEsp 0 (by simp [espPieces]) length_espBoot (by decide) (by decide)
  have hbackup : sector sampleEsp 6 = .ok espBoot :=
    sector_sampleEsp 3072 (by simp [espPieces]) length_espBoot (by decide) (by decide)
  have hinfo : sector sampleEsp 1 = .ok (sampleFsInfo 3) :=
    sector_sampleEsp 512 (by simp [espPieces]) (length_sampleFsInfo 3) (by decide)
      (by decide)
  have hadjacent : sector sampleEsp 7 = .ok (zeros 512) :=
    sector_sampleEsp 3584 (by simp [espPieces]) (length_zeros _) (by decide) (by decide)
  have hunused : lbaRange sampleEsp 2 6 = .ok (zeros 2048) :=
    lbaRange_sampleEsp 1024 (by simp [espPieces]) (length_zeros _) (by decide)
      (by decide) (by decide)
  have hfirst : lbaRange sampleEsp 8 985 = .ok (espFat 125013) :=
    lbaRange_sampleEsp (8 * 512) (by simp [espPieces]) length_espFat (by decide)
      (by decide) (by decide)
  have hmirror : lbaRange sampleEsp 985 1962 = .ok (espFat 125013) :=
    lbaRange_sampleEsp (985 * 512) (by simp [espPieces]) length_espFat (by decide)
      (by decide) (by decide)
  have hzero : ∀ n description, ensureZero (zeros n) description = .ok () :=
    fun n _ => ensureZero_eq_ok.mpr (by rw [length_zeros])
  have hsecond : (addWord 8 (977 : UInt32).toUInt64 : Exec String UInt64) = .ok 985 := by decide
  have hdata : (addWord 985 (977 : UInt32).toUInt64 : Exec String UInt64) = .ok 1962 := by decide
  have hinside : (1962 : UInt64) < (126976 : UInt32).toUInt64 := by decide
  rw [rawFat32Regions]
  simp only [↓Exec.check_bind_eq_ok, Exec.bind_eq_ok, Exec.ensure_eq_ok]
  exact ⟨_, hboot, _, espBoot_valid, _, hbackup, rfl, _, hunused, hzero _ _, _, hadjacent,
    hzero _ _, _, hinfo, sampleFsInfo_valid, _, hsecond, _, hdata, hinside, _, hfirst, _, hmirror,
    rfl, rfl⟩

theorem sampleEsp_accepted : validateRawFat32Layout sampleEsp = .ok () := by
  have hle : (1962 : UInt64).toNat ≤ (126976 : UInt32).toNat := by decide
  rw [validateRawFat32Layout, rawFat32Regions_sampleEsp, Exec.ok_bind, espRegions,
    validateCanonicalFatEntries_eq_ok hle]
  exact ⟨3, espFat_table (by decide), by rw [length_sampleFsInfo]; decide, sampleFsInfo_hint⟩

theorem label_sampleEsp : slice sampleEsp fat32VolumeLabelOffset (fat32VolumeLabelOffset + 11) =
      some fatVolumeLabel := by
  have hboot := espPieces_hold ⟨0, espBoot⟩ (by simp [espPieces])
  obtain ⟨-, hlength, hbytes⟩ := espBoot_label
  have hlabel : (⟨71, fatVolumeLabel⟩ : Piece).Holds espBoot := by
    rw [Piece.Holds, hlength]
    exact hbytes
  have hsector : (sampleEsp.drop 0).take 512 = espBoot := by
    rw [← length_espBoot]
    exact hboot
  rw [← hsector, ← Piece.holds_shift (by rw [Piece.finish, hlength]; decide), Piece.Holds,
    Piece.shift, hlength] at hlabel
  rw [slice_eq_some (by decide) (by rw [length_sampleEsp]; decide)]
  exact congrArg some hlabel

/-- An image with that partition. -/
def sampleDisk : Bytes :=
  (sampleImage 1).take espStart ++ sampleEsp ++ (sampleImage 1).drop espFinish

theorem length_sampleDisk : sampleDisk.length = diskBytes := by
  rw [sampleDisk, List.length_append, List.length_append, List.length_take, List.length_drop,
    length_sampleImage, length_sampleEsp]
  decide

theorem sampleDisk_layout : validateImageLayout sampleDisk = .ok () := by
  have hraw : RawGpt (sampleImage 1) :=
    (validateRawGptLayout_eq_ok (length_sampleImage 1)).mp (sampleImage_accepted (by decide))
  have hpart : espStart + sampleEsp.length = espFinish := by rw [length_sampleEsp]; decide
  rw [validateImageLayout, Exec.check_bind_eq_ok, Exec.ensure_eq_ok]
  exact ⟨length_sampleDisk, (validateRawGptLayout_eq_ok length_sampleDisk).mpr
    (hraw.splice (length_sampleImage 1) hpart)⟩

theorem slice_sampleDisk : slice sampleDisk espStart espFinish = some sampleEsp := by
  have hstart : ((sampleImage 1).take espStart).length = espStart :=
    List.length_take_of_le (by rw [length_sampleImage]; decide)
  have hlength : sampleEsp.length = espFinish - espStart := by rw [length_sampleEsp]; decide
  rw [slice_eq_some (by decide) (by rw [length_sampleDisk]; decide), sampleDisk,
    List.append_assoc, List.drop_left' hstart, List.take_left' hlength]

/-- A loader that is only its headers. -/
def sampleLoader : Bytes :=
  [ascii "MZ", zeros 58, u32ToLe 64, ascii "PE\x00\x00", u16ToLe 0x8664, zeros 18, u16ToLe 0x20b,
    zeros 66, u16ToLe 10].flatten

theorem sampleLoader_valid : validateUefiLoader sampleLoader = .ok () := by decide +kernel

/-- A content that one read delivers. -/
def oneChunk (bytes : Bytes) : ℕ → Bytes
  | 0 => bytes
  | _ => []

theorem delivers_oneChunk {bytes : Bytes} (h : bytes ≠ []) : Delivers (oneChunk bytes) 0 bytes := by
  have hall : Delivers (oneChunk bytes) 0 (oneChunk bytes 0 ++ []) := .more h (.done rfl)
  rwa [List.append_nil] at hall

theorem sampleFile_read {bytes : Bytes} {length : ℕ} (h : bytes.length ≤ length) (call : ℕ) :
    (Loader.sampleFile bytes).read call length = some (oneChunk bytes call) := by
  cases call with
  | zero => exact congrArg some (List.take_of_length_le h)
  | succ => rfl

theorem readFatFile_sampleFile {root : FatDirectory} {path : String} {maximum : ℕ} {bytes : Bytes}
    (hopen : root.openFile path = some (Loader.sampleFile bytes)) (hne : bytes ≠ [])
    (hchunk : bytes.length ≤ 8 * 1024) (hle : bytes.length ≤ maximum)
    (hmaximum : maximum ≤ maxVectorBytes) :
    readFatFile root (fun _ => true) path maximum = .ok bytes :=
  ((readFatFile_exact (hmaximum.trans_lt (by decide)) hopen (sampleFile_read hchunk)
    (fun _ => rfl) fun _ hlength => hlength.trans hmaximum).exact bytes).mpr
      ⟨delivers_oneChunk hne, hle⟩

def sampleVolume : FatVolume where
  isFat32 := true
  volumeId := fatVolumeId
  volumeLabel := fatVolumeLabelVisible
  root := ⟨fun path =>
    if path = loaderImagePath then some (Loader.sampleFile sampleLoader)
    else if path = kernelImagePath then some (Loader.sampleFile (sampleElf 0x200000))
    else if path = scenarioImagePath then some (Loader.sampleFile (BootScenario.file .normal))
    else none⟩
  rootEntries := listing [("EFI", true), ("POLYTOPE", true)]
  openDir path :=
    if path = ["EFI"] then some (listing [("BOOT", true)])
    else if path = ["EFI", "BOOT"] then some (listing [("BOOTX64.EFI", false)])
    else if path = ["POLYTOPE"] then some (listing [("KERNEL.ELF", false), ("BOOT.CFG", false)])
    else none

/-- In place of a digest, a text that names the bytes themselves. -/
def sampleDigest (bytes : Bytes) : String :=
  String.ofList (bytes.map Char.ofUInt8)

theorem sampleDigest_injective : Function.Injective sampleDigest := by
  intro bytes bytes' h
  refine List.map_injective_iff.mpr (fun byte byte' hbyte => ?_) (String.ofList_injective h)
  exact UInt8.toUInt32_inj.mp (congrArg Char.val hbyte)

/-- The libraries, on the images of this sample. -/
def sampleTools : ImageTools where
  sha256Hex := sampleDigest
  openGpt _ := some ⟨diskGuid, [(1, espPartition)]⟩
  openFat _ := some sampleVolume
  tryReserve _ _ := true

theorem openFile_sample :
    sampleVolume.root.openFile loaderImagePath = some (Loader.sampleFile sampleLoader) ∧
      sampleVolume.root.openFile kernelImagePath = some (Loader.sampleFile (sampleElf 0x200000)) ∧
      sampleVolume.root.openFile scenarioImagePath =
        some (Loader.sampleFile (BootScenario.file .normal)) := by
  simp [sampleVolume, loaderImagePath, kernelImagePath, scenarioImagePath]

/-- The sizes of the sample's files. -/
theorem sample_sizes :
    (0 < sampleLoader.length ∧ sampleLoader.length ≤ 8192) ∧
      (0 < (sampleElf 0x200000).length ∧ (sampleElf 0x200000).length ≤ 8192) ∧
      (0 < (BootScenario.file .normal).length ∧ (BootScenario.file .normal).length ≤ 32) ∧
      BootScenario.file .normal = ascii "normal\n" := by
  decide +kernel

theorem loaderRead_sample :
    sampleTools.readFile sampleVolume loaderImagePath maxPayloadBytes = .ok sampleLoader := by
  obtain ⟨⟨hpos, hle⟩, -⟩ := sample_sizes
  exact Exec.mapErr_eq_ok.mpr (readFatFile_sampleFile openFile_sample.1
    (List.ne_nil_of_length_pos hpos) hle (hle.trans (by decide)) (by decide))

theorem kernelRead_sample : sampleTools.readFile sampleVolume kernelImagePath maxElfFileSize =
    .ok (sampleElf 0x200000) := by
  obtain ⟨-, ⟨hpos, hle⟩, -⟩ := sample_sizes
  exact Exec.mapErr_eq_ok.mpr (readFatFile_sampleFile openFile_sample.2.1
    (List.ne_nil_of_length_pos hpos) hle (hle.trans (by decide)) (by decide))

theorem scenarioRead_sample :
    sampleTools.readFile sampleVolume scenarioImagePath maxScenarioFileBytes =
      .ok (BootScenario.file .normal) := by
  obtain ⟨-, -, ⟨hpos, hle⟩, -⟩ := sample_sizes
  exact Exec.mapErr_eq_ok.mpr (readFatFile_sampleFile openFile_sample.2.2
    (List.ne_nil_of_length_pos hpos) (hle.trans (by decide)) hle (by decide))

theorem openEsp_sample : sampleTools.openEsp sampleEsp = .ok sampleVolume := by
  refine Exec.bind_eq_ok.mpr ⟨(), sampleEsp_accepted, ?_⟩
  simp only [↓Exec.check_bind_eq_ok, Exec.bind_eq_ok, Exec.okOr_eq_ok, Exec.ensure_eq_ok]
  exact ⟨label_sampleEsp, sampleVolume, rfl, rfl, rfl, rfl, rfl⟩

theorem openDir_sample :
    sampleVolume.openDir ["EFI"] = some (listing [("BOOT", true)]) ∧
      sampleVolume.openDir ["EFI", "BOOT"] = some (listing [("BOOTX64.EFI", false)]) ∧
      sampleVolume.openDir ["POLYTOPE"] =
        some (listing [("KERNEL.ELF", false), ("BOOT.CFG", false)]) := by
  simp [sampleVolume]

theorem sampleVolume_tree : sampleVolume.validateTree = .ok () := by
  obtain ⟨hefi, hboot, hpolytope⟩ := openDir_sample
  simp only [FatVolume.validateTree, hefi, hboot, hpolytope, Exec.okOr_some, Exec.ok_bind,
    Exec.check_bind_eq_ok]
  exact ⟨validateDirectory_listing (by decide) (by decide),
    validateDirectory_listing (by decide) (by decide),
    validateDirectory_listing (by decide) (by decide),
    validateDirectory_listing (by decide) (by decide)⟩

/-- The sample is accepted, with the digests of its files. -/
theorem validateImageBytes_sample :
    ∃ manifest, sampleTools.validateImageBytes sampleDisk = .ok manifest ∧
      manifest.loaderSha256 = sampleTools.sha256Hex sampleLoader ∧
      manifest.kernelSha256 = sampleTools.sha256Hex (sampleElf 0x200000) ∧
      manifest.scenario = .normal :=
  validateImageBytes_of sampleDisk_layout rfl (by decide) slice_sampleDisk openEsp_sample
    sampleVolume_tree loaderRead_sample kernelRead_sample scenarioRead_sample sampleLoader_valid
    parse_sampleElf (by rw [length_sampleDisk]; decide)

theorem deliversFile_sample {path : String} {maximum : ℕ} {bytes : Bytes}
    (hopen : Loader.sampleDirectory.openFile path = some (some (Loader.sampleFile bytes)))
    (hne : bytes ≠ []) (hchunk : bytes.length ≤ loaderChunkLength maximum) :
    DeliversFile Loader.sampleDirectory path maximum bytes := by
  exact ⟨_, oneChunk bytes, hopen, sampleFile_read hchunk, delivers_oneChunk hne⟩

/-- The loader's sample, with a firmware that grants what is free. -/
def roomyPlatform : Platform :=
  { Loader.samplePlatform with firmware := Loader.firstFitFirmware (2 ^ 52 + 1) }

/-- The firmware of the sample finds the same files. -/
theorem presents_sample (image : Bytes) :
    Presents roomyPlatform sampleTools image Loader.sampleDirectory := by
  have hvolume : ∀ volume, sampleTools.volume image = some volume → volume = sampleVolume := by
    intro volume hopened
    obtain ⟨partition, -, hopen⟩ := Option.bind_eq_some_iff.mp hopened
    exact (Option.some.inj hopen).symm
  obtain ⟨-, ⟨hpos, hle⟩, ⟨hpos', hle'⟩, hfile⟩ := sample_sizes
  refine ⟨rfl, fun volume content hopened hread => ?_, fun volume content hopened hread => ?_,
    fun _ _ => rfl⟩
  · obtain rfl := hvolume volume hopened
    obtain rfl := Exec.ok.inj (kernelRead_sample.symm.trans hread)
    exact deliversFile_sample (by simp [Loader.sampleDirectory])
      (List.ne_nil_of_length_pos hpos) (hle.trans (by decide))
  · obtain rfl := hvolume volume hopened
    obtain rfl := Exec.ok.inj (scenarioRead_sample.symm.trans hread)
    rw [hfile] at hpos' hle' ⊢
    exact deliversFile_sample
      (by simp [Loader.sampleDirectory, Loader.kernelFile, Loader.scenarioFile])
      (List.ne_nil_of_length_pos hpos') (hle'.trans (by decide))

/-- The one page of the sample's kernel, the guard's page and the second and third
page of memory are free. -/
theorem hasRoom_sample :
    HasRoom [segmentOf (sampleElf 0x200000) 1] Loader.freeMachine := by
  have hspan : (segmentOf (sampleElf 0x200000) 1).physicalAddress.toNat = 0x200000 ∧
      (segmentOf (sampleElf 0x200000) 1).span = 4096 := by decide +kernel
  have hfree : ∀ page, 1 ≤ page → page < 0x5000 →
      Loader.freeMachine.pages page = some .conventional := fun page hge hlt => if_pos ⟨hge, hlt⟩
  have hcovers : ∀ segment ∈ [segmentOf (sampleElf 0x200000) 1], ∀ page,
      segment.Covers (page * Loader.pageBytes) ↔ page = 0x200 := by
    intro segment hsegment page
    rw [List.mem_singleton.mp hsegment, LoadSegment.Covers, hspan.1, hspan.2, Loader.pageBytes]
    omega
  refine ⟨fun segment hsegment page hpage => ?_, hfree _ (by decide) (by decide), 1,
    ⟨by decide, by decide, fun page hge hlt => ?_⟩, fun page hge hlt => ⟨?_, ?_⟩⟩
  · rw [(hcovers segment hsegment page).mp hpage]
    exact hfree _ (by decide) (by decide)
  · exact hfree page hge (hlt.trans (by decide))
  · exact (hlt.trans (by decide)).ne
  · intro segment hsegment hpage
    rw [(hcovers segment hsegment page).mp hpage] at hlt
    exact absurd hlt (by decide)

/-- A write that succeeds has replaced the output and nothing else. -/
theorem writeOutput_eq_ok {writer : Writer} {pid : ℕ} {faults : Faults} {output : Bytes}
    {contents : Exec String Bytes} {u : Unit} {disk disk' : Disk (List Component)}
    (h : writeOutput writer pid faults output contents disk = (.ok u, disk')) :
    ∃ bytes, contents = .ok bytes ∧
      disk'.files = Function.update disk.files (location output) (some bytes) := by
  by_cases hfree : TemporaryFree writer pid output contents disk.files
  · rcases writeOutput_left hfree with ⟨-, hfailed⟩ | hreplaced
    · exact absurd (congrArg Prod.fst h) (hfailed u)
    · rw [h] at hreplaced
      exact hreplaced
  · obtain ⟨name, bytes, hname, hcontents, hoccupied⟩ := occupied_of_not_free hfree
    obtain ⟨error, hrun⟩ := writeOutput_of_occupied disk hname hcontents hoccupied
    rw [hrun] at h
    cases h

theorem readHostArtifact_eq_ok {read : Bytes → Reading} {path bytes : Bytes} {description : String}
    (h : readHostArtifact read path description = .ok bytes) :
    (read path).contents = some bytes := by
  obtain ⟨_, -, -, hcontents⟩ := readBounded_eq_ok.mp h
  exact hcontents

/-- What a returned image has passed. -/
theorem buildImageBytes_eq_ok {builder : ImageBuilder} {loader kernel image : Bytes}
    {scenario : BootScenario} {manifest : ImageManifest}
    (h : builder.buildImageBytes loader kernel scenario = .ok (image, manifest)) :
    builder.validateImageBytes image = .ok manifest ∧
      manifest.kernelSha256 = builder.sha256Hex kernel ∧ manifest.scenario = scenario := by
  simp only [ImageBuilder.buildImageBytes, ↓Exec.check_bind_eq_ok, Exec.bind_eq_ok,
    Exec.ensure_eq_ok] at h
  obtain ⟨_, -, -, -, -, disk, -, image', -, validated, hvalid, -, hkernel, hscenario, hresult⟩ := h
  cases hresult
  exact ⟨hvalid, hkernel, hscenario⟩

def sampleBuilder : ImageBuilder where
  toImageTools := sampleTools
  GptSession := Unit
  overwriteLba0 _ device := some device
  createFromDevice _ _ := some ()
  updatePartitions session _ := some session
  writeGpt _ := some (sampleImage 1)
  FatCache := Unit
  formatVolume _ esp := if esp.length = espBytes then some sampleEsp else none
  mount _ := some ()
  perform _ session := some session
  length_formatVolume := by
    intro options esp esp' h
    obtain ⟨hlength, hesp⟩ := Option.ite_none_right_eq_some.mp h
    rw [hlength, ← Option.some.inj hesp, length_sampleEsp]
  length_perform := by
    intro operation session session' h
    rw [Option.some.inj h]

theorem formatVolume_sample {options : FormatVolumeOptions} {esp : Bytes}
    (h : esp.length = espBytes) : sampleBuilder.formatVolume options esp = some sampleEsp :=
  if_pos h

theorem performAll_sample (operations : List (FatOperation × String))
    (session : FatSession sampleBuilder.FatCache) :
    sampleBuilder.performAll operations session = .ok session := by
  induction operations with
  | nil => rfl
  | cons operation rest ih => exact ih

theorem createGptDisk_of {builder : ImageBuilder} {device disk : Bytes}
    {session session' : builder.GptSession}
    (hdevice : builder.overwriteLba0 131071 (zeros diskBytes) = some device)
    (hsession : builder.createFromDevice device diskGuid = some session)
    (hupdated : builder.updatePartitions session [(1, espPartition)] = some session')
    (hwritten : builder.writeGpt session' = some disk) : builder.createGptDisk = .ok disk := by
  have hlbas : checkedU32 (diskBytes / logicalBlockBytes - 1) = some 131071 := by decide
  simp only [ImageBuilder.createGptDisk, hlbas, hdevice, hsession, hupdated, hwritten,
    Exec.okOr_some, Exec.ok_bind]

theorem formatEsp_of {builder : ImageBuilder} {disk esp esp' loader kernel scenario : Bytes}
    {cache : builder.FatCache} {session : FatSession builder.FatCache}
    (hslice : slice disk espStart espFinish = some esp)
    (hformat : builder.formatVolume espFormat esp = some esp')
    (hmount : builder.mount esp' = some cache)
    (hperformed : builder.performAll (espOperations loader kernel scenario) ⟨esp', cache⟩ =
      .ok session) :
    builder.formatEsp disk loader kernel scenario =
      .ok (disk.take espStart ++ session.bytes ++ disk.drop espFinish) := by
  simp only [ImageBuilder.formatEsp, espRange_eq, hslice, hformat, hmount, hperformed,
    Exec.okOr_some, Exec.ok_bind, Exec.pure_eq_ok]

theorem createGptDisk_sample : sampleBuilder.createGptDisk = .ok (sampleImage 1) :=
  createGptDisk_of rfl rfl rfl rfl

theorem formatEsp_sample (loader kernel scenario : Bytes) :
    sampleBuilder.formatEsp (sampleImage 1) loader kernel scenario = .ok sampleDisk := by
  have hslice : slice (sampleImage 1) espStart espFinish = some _ :=
    slice_eq_some (by decide) (by rw [length_sampleImage]; decide)
  have hlength : (((sampleImage 1).drop espStart).take (espFinish - espStart)).length = espBytes :=
    (length_range (by rw [length_sampleImage]; decide)).trans (by decide)
  rw [formatEsp_of hslice (formatVolume_sample hlength) rfl (performAll_sample _ _),
    sampleDisk]

theorem buildImageBytes_sample :
    ∃ manifest, sampleBuilder.buildImageBytes sampleLoader (sampleElf 0x200000) .normal =
      .ok (sampleDisk, manifest) := by
  obtain ⟨manifest, hvalid, hloader, hkernel, hscenario⟩ := validateImageBytes_sample
  obtain ⟨⟨-, hsmall⟩, ⟨-, hsmall'⟩, -⟩ := sample_sizes
  refine ⟨manifest, ?_⟩
  simp only [ImageBuilder.buildImageBytes, validateKernelElf, ↓Exec.check_bind_eq_ok,
    Exec.bind_eq_ok, Exec.ensure_eq_ok, Exec.mapErr_eq_ok]
  exact ⟨(), sampleLoader_valid, ⟨_, parse_sampleElf, rfl⟩, hsmall.trans (by decide),
    hsmall'.trans (by decide), _, createGptDisk_sample, _, formatEsp_sample _ _ _, _, hvalid,
    hloader, hkernel, hscenario, rfl⟩

def sampleRead (path : Bytes) : Reading :=
  if path = utf8 "loader".toList then ⟨some (true, sampleLoader.length), some sampleLoader⟩
  else ⟨some (true, (sampleElf 0x200000).length), some (sampleElf 0x200000)⟩

def sampleHost : ImageHost where
  toImageBuilder := sampleBuilder
  read := sampleRead
  pid := 7
  faults := noFaults

def sampleBuild : ImageRequest :=
  ⟨utf8 "loader".toList, utf8 "kernel".toList, utf8 "os".toList, .normal⟩

theorem readHostArtifact_of {read : Bytes → Reading} {path bytes : Bytes} {description : String}
    (hread : read path = ⟨some (true, bytes.length), some bytes⟩)
    (hle : bytes.length ≤ maxPayloadBytes) :
    readHostArtifact read path description = .ok bytes :=
  readBounded_eq_ok.mpr ⟨_, by rw [hread], hle, by rw [hread]⟩

/-- A build from what each of its steps gives. -/
theorem buildImage_of {host : ImageHost} {request : ImageRequest} {loader kernel image : Bytes}
    {manifest : ImageManifest} {disk disk' : Disk (List Component)}
    (hloader : readHostArtifact host.read request.loader "UEFI loader" = .ok loader)
    (hkernel : readHostArtifact host.read request.kernel "kernel" = .ok kernel)
    (hbytes : host.buildImageBytes loader kernel request.scenario = .ok (image, manifest))
    (hwritten : writeAtomic host.pid host.faults request.output image disk = (.ok (), disk')) :
    host.buildImage request disk = (.ok manifest, disk') := by
  simp only [ImageHost.buildImage, Action.bind_eq_ok, Action.lift_eq_ok, Action.mapErr_eq_ok,
    Action.pure_eq_ok, Exec.mapErr_eq_ok]
  exact ⟨_, _, ⟨hloader, rfl⟩, _, _, ⟨hkernel, rfl⟩, _, _, ⟨hbytes, rfl⟩, _, _, hwritten, rfl, rfl⟩

theorem buildImage_sample :
    ∃ manifest disk, sampleHost.buildImage sampleBuild ⟨fun _ => none, []⟩ =
      (.ok manifest, disk) := by
  obtain ⟨manifest, hbytes⟩ := buildImageBytes_sample
  have hname : fileName (utf8 "os".toList) = some (utf8 "os".toList) := by decide
  obtain ⟨disk, hwritten⟩ : ∃ disk, writeAtomic 7 noFaults (utf8 "os".toList) sampleDisk
      ⟨fun _ => none, []⟩ = (.ok (), disk) := writeOutput_noFaults hname rfl
  obtain ⟨⟨-, hsmall⟩, ⟨-, hsmall'⟩, -⟩ := sample_sizes
  have hother : utf8 "kernel".toList ≠ utf8 "loader".toList := by decide
  have hloader : readHostArtifact sampleRead (utf8 "loader".toList) "UEFI loader" =
      .ok sampleLoader :=
    readHostArtifact_of (by rw [sampleRead, if_pos rfl]) (hsmall.trans (by decide))
  have hkernel : readHostArtifact sampleRead (utf8 "kernel".toList) "kernel" =
      .ok (sampleElf 0x200000) :=
    readHostArtifact_of (by rw [sampleRead, if_neg hother]) (hsmall'.trans (by decide))
  exact ⟨manifest, disk, buildImage_of hloader hkernel hbytes hwritten⟩

/-- When `build_image` succeeds, the output holds an accepted image from which the
loader reads the scenario that was asked for and a kernel with the digest of the one
that was asked for. No other file has changed. -/
theorem built_image_loads_inputs {host : ImageHost} {request : ImageRequest}
    {manifest : ImageManifest} {disk disk' : Disk (List Component)}
    (hbuilt : host.buildImage request disk = (.ok manifest, disk')) :
    ∃ image kernel, (host.read request.kernel).contents = some kernel ∧
      disk'.files = Function.update disk.files (location request.output) (some image) ∧
      host.validateImageBytes image = .ok manifest ∧ manifest.scenario = request.scenario ∧
      ∀ platform root, Presents platform host.toImageTools image root →
        ∃ kernel', readFiles platform = .ok (kernel', request.scenario.loader) ∧
          host.sha256Hex kernel' = host.sha256Hex kernel := by
  simp only [ImageHost.buildImage, Action.bind_eq_ok, Action.lift_eq_ok, Action.mapErr_eq_ok,
    Action.pure_eq_ok, Exec.mapErr_eq_ok] at hbuilt
  obtain ⟨loader, _, ⟨hloader, rfl⟩, kernel, _, ⟨hkernel, rfl⟩, ⟨image, manifest'⟩, _,
    ⟨hbytes, rfl⟩, _, _, hwritten, rfl, rfl⟩ := hbuilt
  obtain ⟨bytes, hcontents, hfiles⟩ := writeOutput_eq_ok hwritten
  cases hcontents
  obtain ⟨hvalid, hdigest, hscenario⟩ := buildImageBytes_eq_ok hbytes
  refine ⟨image, kernel, readHostArtifact_eq_ok hkernel, hfiles, hvalid, hscenario,
    fun platform root hpresents => ?_⟩
  obtain ⟨volume, loader', kernel', hread⟩ := validateImageBytes_eq_ok hvalid
  have hfound := readFiles_of_readBack hread hpresents
  rw [hscenario] at hfound
  -- the kernel that was read back has the digest of the one that was asked for
  exact ⟨kernel', hfound, hread.kernelDigest.symm.trans hdigest⟩

/-- The build of the sample, and the firmware that finds its files in any image. The
digest here tells all files apart, so the kernel is the one that was asked for. -/
theorem built_image_loads_inputs_sample :
    ∃ manifest disk image,
      sampleHost.buildImage sampleBuild ⟨fun _ => none, []⟩ = (.ok manifest, disk) ∧
      disk.files (location sampleBuild.output) = some image ∧
      sampleHost.validateImageBytes image = .ok manifest ∧
      ∃ kernel, (sampleHost.read sampleBuild.kernel).contents = some kernel ∧
        readFiles roomyPlatform = .ok (kernel, .normal) := by
  obtain ⟨manifest, disk, hbuilt⟩ := buildImage_sample
  obtain ⟨image, kernel, hkernel, hfiles, hvalid, -, hloads⟩ := built_image_loads_inputs hbuilt
  obtain ⟨kernel', hfound, hdigest⟩ :=
    hloads roomyPlatform Loader.sampleDirectory (presents_sample image)
  obtain rfl : kernel' = kernel := sampleDigest_injective hdigest
  refine ⟨manifest, disk, image, hbuilt, ?_, hvalid, kernel', hkernel, hfound⟩
  rw [hfiles, Function.update_self]

end Loading

end PolytopeOS.Host
