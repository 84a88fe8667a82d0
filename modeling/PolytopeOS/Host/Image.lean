import PolytopeOS.Host.BoundedRead
import PolytopeOS.Host.Gpt
import PolytopeOS.Host.ImageSafety
import PolytopeOS.Host.Scenario

/-!
# Building and validating an image

`build_image_bytes` writes the loader, the kernel and a scenario file into the
partition of a fresh disk, and returns the disk only after `validate_image_bytes`
has read them back. The libraries for the partition table and the file system are
parameters, so that nothing rests on what they do to the bytes.
-/

namespace PolytopeOS.Host
open Corelib Arch BootElf

def maxPayloadBytes : ℕ := 24 * 1024 * 1024

def maxScenarioFileBytes : ℕ := 32

/-- `PTOS` -/
def fatVolumeId : UInt32 := 0x50544f53

def fatVolumeLabel : Bytes := ascii "POLYTOPEOS "

def fatVolumeLabelVisible : Bytes := ascii "POLYTOPEOS"

def fat32VolumeLabelOffset : ℕ := 71

def loaderImagePath : String := "EFI/BOOT/BOOTX64.EFI"

def kernelImagePath : String := "POLYTOPE/KERNEL.ELF"

def scenarioImagePath : String := "POLYTOPE/BOOT.CFG"

def diskGuid : String := "4ed83d8f-20d8-4c3d-9a4c-25bccd13a6a1"

def espGuid : String := "f607134d-0901-4d7b-a512-5a49d6ba66bf"

/-- `gpt::partition_types::EFI` -/
def efiPartitionType : String := "c12a7328-f81f-11d2-ba4b-00a0c93ec93b"

/-- Messages, and the errors that show a value of another type. -/
inductive ImageError where
  | message (text : String)
  /-- "unexpected ESP directory entry" and the name. -/
  | unexpectedEntry (name : String)
  /-- "ESP directory entry", the name, and "has a noncanonical timestamp". -/
  | timestamp (name : String)
  /-- "kernel ELF rejected" and the error. -/
  | kernelElf (error : ParseError)
  | scenario (error : ScenarioFileError)

-- ════════════════════════════════════════════════════════════════════════
-- The two libraries
-- ════════════════════════════════════════════════════════════════════════

structure GptPartition where
  partTypeGuid : String
  partGuid : String
  firstLba : UInt64
  lastLba : UInt64
  flags : ℕ
  name : String

/-- A disk whose two headers are valid: its identifier and its partitions by number. -/
structure GptDisk where
  guid : String
  partitions : List (ℕ × GptPartition)

structure FatDate where
  year : ℕ
  month : ℕ
  day : ℕ
  deriving DecidableEq, Repr

structure FatDateTime where
  date : FatDate
  hour : ℕ
  min : ℕ
  sec : ℕ
  millis : ℕ
  deriving DecidableEq, Repr

/-- The date of `FIXED_TIME_PROVIDER`. -/
def fixedDate : FatDate := ⟨2000, 1, 1⟩

def fixedDateTime : FatDateTime := ⟨fixedDate, 0, 0, 0, 0⟩

structure FatEntry where
  fileName : String
  isDir : Bool
  created : FatDateTime
  modified : FatDateTime
  accessed : FatDate

/-- What enumerating a directory gives at each call: an entry, an error, or `none`
at the end. It need not end. -/
abbrev FatEntries := ℕ → Option (Option FatEntry)

structure FatVolume where
  isFat32 : Bool
  volumeId : UInt32
  volumeLabel : Bytes
  /-- The files, by their paths from the root. -/
  root : FatDirectory
  rootEntries : FatEntries
  /-- The other directories, by their paths from the root. -/
  openDir : List String → Option FatEntries

/-- What validation calls: the digest, the two libraries, and the heap by path and
request. -/
structure ImageTools where
  sha256Hex : Bytes → String
  openGpt : Bytes → Option GptDisk
  openFat : Bytes → Option FatVolume
  tryReserve : String → ℕ → Bool

structure FormatVolumeOptions where
  bytesPerSector : ℕ
  bytesPerCluster : ℕ
  fat32 : Bool
  fats : ℕ
  volumeId : UInt32
  volumeLabel : Bytes

inductive FatOperation where
  | createDir (path : String)
  | createFile (path : String)
  /-- On the file that was created last, as is `flush`. -/
  | writeAll (bytes : Bytes)
  | flush
  | unmount

/-- A mounted file system: the bytes it lies in, and what the library remembers. -/
structure FatSession (Cache : Type) where
  bytes : Bytes
  cache : Cache

/-- What building calls besides. The file system lies in a slice of fixed length. -/
structure ImageBuilder extends ImageTools where
  GptSession : Type
  overwriteLba0 : UInt32 → Bytes → Option Bytes
  createFromDevice : Bytes → String → Option GptSession
  updatePartitions : GptSession → List (ℕ × GptPartition) → Option GptSession
  writeGpt : GptSession → Option Bytes
  FatCache : Type
  formatVolume : FormatVolumeOptions → Bytes → Option Bytes
  mount : Bytes → Option FatCache
  perform : FatOperation → FatSession FatCache → Option (FatSession FatCache)
  length_formatVolume : ∀ {options esp esp'}, formatVolume options esp = some esp' →
    esp'.length = esp.length
  length_perform : ∀ {operation session session'}, perform operation session = some session' →
    session'.bytes.length = session.bytes.length

-- ════════════════════════════════════════════════════════════════════════
-- Validation
-- ════════════════════════════════════════════════════════════════════════

/-- A manifest with everything that identifies an image. -/
structure ImageManifest where
  schemaVersion : ℕ
  imageBytes : ℕ
  imageSha256 : String
  loaderSha256 : String
  kernelSha256 : String
  scenario : BootScenario
  espFirstLba : UInt64
  espLastLba : UInt64
  diskGuid : String
  espGuid : String

def validatePartitions (disk : GptDisk) : Exec String Unit := do
  Exec.ensure (disk.guid = diskGuid) "unexpected GPT disk GUID"
  let count := disk.partitions.length
  Exec.ensure (count = 1) s!"expected one GPT partition, found {count}"
  let partition ← Exec.okOr (disk.partitions.lookup 1) "GPT partition 1 is missing"
  Exec.ensure (partition.partTypeGuid = efiPartitionType) "partition 1 is not an ESP"
  Exec.ensure (partition.partGuid = espGuid) "unexpected ESP GUID"
  Exec.ensure (partition.firstLba = espFirstLba) "unexpected ESP first LBA"
  Exec.ensure (partition.lastLba = espLastLba) "unexpected ESP last LBA"

/-- The byte offsets of the partition. -/
def espRange : Exec String (ℕ × ℕ) := do
  let start ← lbaToOffset espFirstLba
  let finish ← lbaToOffset (← addWord espLastLba 1)
  return (start, finish)

/-- The checks of the partition before its directories are read. -/
def ImageTools.openEsp (tools : ImageTools) (partition : Bytes) : Exec String FatVolume := do
  validateRawFat32Layout partition
  Exec.ensure (slice partition fat32VolumeLabelOffset (fat32VolumeLabelOffset + 11) =
    some fatVolumeLabel) "unexpected raw FAT volume label"
  let volume ← Exec.okOr (tools.openFat partition) "ESP is not a valid FAT filesystem"
  Exec.ensure volume.isFat32 "ESP is not FAT32"
  Exec.ensure (volume.volumeId = fatVolumeId) "unexpected FAT volume ID"
  Exec.ensure (volume.volumeLabel = fatVolumeLabelVisible) "unexpected FAT volume label"
  return volume

/-- The times of an entry are those of the fixed provider. -/
def FatEntry.Fixed (entry : FatEntry) : Prop :=
  entry.created = fixedDateTime ∧ entry.modified = fixedDateTime ∧ entry.accessed = fixedDate
  deriving Decidable

def ensureFixedTimestamp (entry : FatEntry) : Exec ImageError Unit :=
  Exec.ensure entry.Fixed (.timestamp entry.fileName)

/-- An entry for the directory itself or for its parent. -/
def FatEntry.Dot (entry : FatEntry) : Prop := entry.fileName = "." ∨ entry.fileName = ".."
  deriving Decidable

/-- The checks of an entry, with the number of the entries before it; the result
counts it. -/
def validateEntry (expected : List (String × Bool)) (observed : ℕ) (entry : FatEntry) :
    Exec ImageError ℕ := do
  let (name, isDirectory) ← Exec.okOr expected[observed]?
    (.message "ESP directory contains an unexpected extra entry")
  Exec.ensure (entry.fileName = name ∧ entry.isDir = isDirectory) (.unexpectedEntry entry.fileName)
  ensureFixedTimestamp entry
  Exec.okOr (checkedSize (observed + 1)) (.message "ESP observed-entry count overflowed")

/-- The loop of `validate_directory` from its call number `rawEntries` on. -/
def validateEntries (entries : FatEntries) (expected : List (String × Bool))
    (rawEntries observed : ℕ) : Exec ImageError ℕ :=
  match entries rawEntries with
  | none => .ok observed
  | some none => .err (.message "failed to enumerate deterministic ESP directory")
  | some (some entry) =>
    match _hcount : checkedSize (rawEntries + 1) with
    | none => .err (.message "ESP directory entry count overflowed")
    | some count =>
      if _hbound : count > expected.length + 2 then
        .err (.message "ESP directory enumeration exceeded its deterministic bound")
      else if entry.Dot then validateEntries entries expected (rawEntries + 1) observed
      else do
        let observed ← validateEntry expected observed entry
        validateEntries entries expected (rawEntries + 1) observed
termination_by expected.length + 2 - rawEntries
decreasing_by
  all_goals
    have hcount := (checkedSize_eq_some.mp _hcount).2
    omega

def validateDirectory (entries : FatEntries) (expected : List (String × Bool)) :
    Exec ImageError Unit := do
  let observed ← validateEntries entries expected 0 0
  let count := expected.length
  Exec.ensure (observed = count)
    (.message s!"ESP directory has {observed} entries; expected {count}")

/-- The four directories. -/
def FatVolume.validateTree (volume : FatVolume) : Exec ImageError Unit := do
  validateDirectory volume.rootEntries [("EFI", true), ("POLYTOPE", true)]
  let efi ← Exec.okOr (volume.openDir ["EFI"])
    (.message "required ESP directory EFI is missing")
  validateDirectory efi [("BOOT", true)]
  let boot ← Exec.okOr (volume.openDir ["EFI", "BOOT"])
    (.message "required ESP directory EFI/BOOT is missing")
  validateDirectory boot [("BOOTX64.EFI", false)]
  let polytope ← Exec.okOr (volume.openDir ["POLYTOPE"])
    (.message "required ESP directory POLYTOPE is missing")
  validateDirectory polytope [("KERNEL.ELF", false), ("BOOT.CFG", false)]

def validateKernelElf (bytes : Bytes) : Exec ImageError Unit := do
  let _ ← Exec.mapErr .kernelElf (BootElf.parse bytes)
  return ()

def ImageTools.readFile (tools : ImageTools) (volume : FatVolume) (path : String) (maximum : ℕ) :
    Exec ImageError Bytes :=
  (readFatFile volume.root (tools.tryReserve path) path maximum).mapErr .message

/-- `validate_image_bytes` -/
def ImageTools.validateImageBytes (tools : ImageTools) (image : Bytes) :
    Exec ImageError ImageManifest := do
  (validateImageLayout image).mapErr .message
  let disk ← Exec.okOr (tools.openGpt image)
    (.message "image has invalid primary or backup GPT metadata")
  (validatePartitions disk).mapErr .message
  let (start, finish) ← espRange.mapErr .message
  let partition ← sliceAt image start finish
  let volume ← (tools.openEsp partition).mapErr .message
  volume.validateTree
  let loader ← tools.readFile volume loaderImagePath maxPayloadBytes
  let kernel ← tools.readFile volume kernelImagePath maxElfFileSize
  let scenarioBytes ← tools.readFile volume scenarioImagePath maxScenarioFileBytes
  (validateUefiLoader loader).mapErr .message
  validateKernelElf kernel
  let scenario ← (parseScenario scenarioBytes).mapErr .scenario
  let imageBytes ← Exec.okOr (checkedSize image.length)
    (.message "image length does not fit u64")
  return {
    schemaVersion := 1
    imageBytes
    imageSha256 := tools.sha256Hex image
    loaderSha256 := tools.sha256Hex loader
    kernelSha256 := tools.sha256Hex kernel
    scenario
    espFirstLba
    espLastLba
    diskGuid
    espGuid }

-- ════════════════════════════════════════════════════════════════════════
-- Construction
-- ════════════════════════════════════════════════════════════════════════

def espPartition : GptPartition :=
  ⟨efiPartitionType, espGuid, espFirstLba, espLastLba, 0, "PolytopeOS ESP"⟩

def ImageBuilder.createGptDisk (builder : ImageBuilder) : Exec String Bytes := do
  let totalLbas := diskBytes / logicalBlockBytes
  let protectiveLbas ← Exec.okOr (checkedU32 (totalLbas - 1)) "disk has too many LBAs"
  let device ← Exec.okOr (builder.overwriteLba0 protectiveLbas (zeros diskBytes))
    "failed to write protective MBR"
  let session ← Exec.okOr (builder.createFromDevice device diskGuid) "failed to initialize GPT"
  let session ← Exec.okOr (builder.updatePartitions session [(1, espPartition)])
    "failed to install deterministic GPT partition table"
  Exec.okOr (builder.writeGpt session) "failed to write GPT headers"

def espFormat : FormatVolumeOptions where
  bytesPerSector := logicalBlockBytes
  bytesPerCluster := 512
  fat32 := true
  fats := 2
  volumeId := fatVolumeId
  volumeLabel := fatVolumeLabel

/-- The operations in turn, with the error of each. -/
def ImageBuilder.performAll (builder : ImageBuilder) :
    List (FatOperation × String) → FatSession builder.FatCache →
      Exec String (FatSession builder.FatCache)
  | [], session => .ok session
  | (operation, error) :: rest, session => do
    let session ← Exec.okOr (builder.perform operation session) error
    builder.performAll rest session

/-- The operations of `write_fat_file`. -/
def writeFatFile (path : String) (bytes : Bytes) : List (FatOperation × String) :=
  [(.createFile path, s!"failed to create {path} in ESP"),
    (.writeAll bytes, s!"failed to write {path} in ESP"),
    (.flush, s!"failed to flush {path} in ESP")]

/-- The operations on the mounted file system. -/
def espOperations (loader kernel scenario : Bytes) : List (FatOperation × String) :=
  [(.createDir "EFI", "failed to create EFI"), (.createDir "EFI/BOOT", "failed to create EFI/BOOT"),
    (.createDir "POLYTOPE", "failed to create POLYTOPE")] ++
  writeFatFile loaderImagePath loader ++ writeFatFile kernelImagePath kernel ++
  writeFatFile scenarioImagePath scenario ++ [(.unmount, "failed to flush ESP")]

/-- The disk with its partition formatted and filled in place. -/
def ImageBuilder.formatEsp (builder : ImageBuilder) (disk loader kernel scenario : Bytes) :
    Exec String Bytes := do
  let (start, finish) ← espRange
  let esp ← Exec.okOr (slice disk start finish) "ESP byte range is outside the raw image"
  let esp ← Exec.okOr (builder.formatVolume espFormat esp)
    "failed to format deterministic FAT32 ESP"
  let cache ← Exec.okOr (builder.mount esp) "failed to mount newly formatted ESP"
  let session ← builder.performAll (espOperations loader kernel scenario) ⟨esp, cache⟩
  return disk.take start ++ session.bytes ++ disk.drop finish

/-- `build_image_bytes` -/
def ImageBuilder.buildImageBytes (builder : ImageBuilder) (loader kernel : Bytes)
    (scenario : BootScenario) : Exec ImageError (Bytes × ImageManifest) := do
  (validateUefiLoader loader).mapErr .message
  validateKernelElf kernel
  let loaderLength := loader.length
  Exec.ensure (loaderLength ≤ maxPayloadBytes)
    (.message s!"UEFI loader is {loaderLength} bytes; maximum is {maxPayloadBytes}")
  let kernelLength := kernel.length
  Exec.ensure (kernelLength ≤ maxPayloadBytes)
    (.message s!"kernel is {kernelLength} bytes; maximum is {maxPayloadBytes}")
  let disk ← builder.createGptDisk.mapErr .message
  let disk ← (builder.formatEsp disk loader kernel scenario.file).mapErr .message
  let validated ← builder.validateImageBytes disk
  Exec.ensure (validated.loaderSha256 = builder.sha256Hex loader)
    (.message "read-back loader digest differs from input")
  Exec.ensure (validated.kernelSha256 = builder.sha256Hex kernel)
    (.message "read-back kernel digest differs from input")
  Exec.ensure (validated.scenario = scenario)
    (.message "read-back scenario differs from requested scenario")
  return (disk, validated)

def readHostArtifact (read : Bytes → Reading) (path : Bytes) (description : String) :
    Exec String Bytes :=
  readBounded read path maxPayloadBytes description

structure ImageRequest where
  loader : Bytes
  kernel : Bytes
  output : Bytes
  scenario : BootScenario

/-- The host of `build_image`: the libraries, the answers to its reads, and what
the write of the output meets. -/
structure ImageHost extends ImageBuilder where
  read : Bytes → Reading
  pid : ℕ
  faults : Faults

/-- `build_image` -/
def ImageHost.buildImage (host : ImageHost) (request : ImageRequest) :
    Action (Disk (List Component)) ImageError ImageManifest := do
  let loader ← Action.lift
    ((readHostArtifact host.read request.loader "UEFI loader").mapErr .message)
  let kernel ← Action.lift ((readHostArtifact host.read request.kernel "kernel").mapErr .message)
  let (image, manifest) ← Action.lift (host.buildImageBytes loader kernel request.scenario)
  (writeAtomic host.pid host.faults request.output image).mapErr .message
  return manifest

-- ════════════════════════════════════════════════════════════════════════
-- What an accepted directory lists
-- ════════════════════════════════════════════════════════════════════════

/-- From a call on, the enumeration gives these entries and then ends. -/
def Enumerates (entries : FatEntries) : ℕ → List FatEntry → Prop
  | call, [] => entries call = none
  | call, entry :: rest => entries call = some (some entry) ∧ Enumerates entries (call + 1) rest

/-- The entries of a listing besides those for the directory and its parent. -/
def named (listed : List FatEntry) : List FatEntry := listed.filter fun entry => ¬entry.Dot

theorem named_cons_of_dot {entry : FatEntry} (h : entry.Dot) (listed : List FatEntry) :
    named (entry :: listed) = named listed :=
  List.filter_cons_of_neg (by simpa using h)

theorem named_cons {entry : FatEntry} (h : ¬entry.Dot) (listed : List FatEntry) :
    named (entry :: listed) = entry :: named listed :=
  List.filter_cons_of_pos (by simpa using h)

def FatEntry.shape (entry : FatEntry) : String × Bool := (entry.fileName, entry.isDir)

/-- A listing that takes the loop from one count of observed entries to another. -/
structure Accounts (expected : List (String × Bool)) (observed finish : ℕ)
    (listed : List FatEntry) : Prop where
  shapes : expected.drop observed = (named listed).map FatEntry.shape ++ expected.drop finish
  count : finish = observed + (named listed).length
  fixed : ∀ entry ∈ named listed, entry.Fixed

section Listing

variable {entries : FatEntries} {expected : List (String × Bool)} {entry : FatEntry}
  {listed : List FatEntry} {rawEntries observed finish : ℕ}

theorem validateEntry_eq_ok (hsmall : expected.length + 2 < 2 ^ 64) {next : ℕ} :
    validateEntry expected observed entry = .ok next ↔
      expected[observed]? = some entry.shape ∧ entry.Fixed ∧ next = observed + 1 := by
  simp only [validateEntry, ensureFixedTimestamp, ↓Exec.check_bind_eq_ok, Exec.bind_eq_ok,
    Exec.okOr_eq_ok, Exec.ensure_eq_ok, checkedSize_eq_some]
  constructor
  · rintro ⟨⟨name, isDirectory⟩, hexpected, ⟨rfl, rfl⟩, hfixed, -, rfl⟩
    exact ⟨hexpected, hfixed, rfl⟩
  · rintro ⟨hexpected, hfixed, rfl⟩
    have hlt := (List.getElem?_eq_some_iff.mp hexpected).1
    exact ⟨entry.shape, hexpected, ⟨rfl, rfl⟩, hfixed, by omega, rfl⟩

theorem accounts_nil : Accounts expected observed finish [] ↔ finish = observed := by
  constructor
  · exact fun h => h.count
  · rintro rfl
    exact ⟨rfl, rfl, fun _ h => absurd h List.not_mem_nil⟩

theorem accounts_cons (h : ¬entry.Dot) :
    Accounts expected observed finish (entry :: listed) ↔
      expected[observed]? = some entry.shape ∧ entry.Fixed ∧
        Accounts expected (observed + 1) finish listed := by
  constructor
  · rintro ⟨hshapes, hcount, hfixed⟩
    rw [named_cons h] at hshapes hcount hfixed
    rw [List.map_cons, List.cons_append] at hshapes
    rw [List.forall_mem_cons] at hfixed
    have hhead : expected[observed]? = some entry.shape := by
      rw [← List.head?_drop, hshapes, List.head?_cons]
    refine ⟨hhead, hfixed.1, ?_, by rw [hcount, List.length_cons]; omega, hfixed.2⟩
    rw [← List.tail_drop, hshapes, List.tail_cons]
  · rintro ⟨hhead, hfixed, hshapes, hcount, hrest⟩
    obtain ⟨hlt, hget⟩ := List.getElem?_eq_some_iff.mp hhead
    refine ⟨?_, ?_, ?_⟩
    · rw [named_cons h, List.map_cons, List.cons_append, ← hshapes, ← hget,
        List.drop_eq_getElem_cons hlt]
    · rw [named_cons h, hcount, List.length_cons]
      omega
    · rw [named_cons h]
      exact List.forall_mem_cons.mpr ⟨hfixed, hrest⟩

theorem accounts_cons_of_dot (h : entry.Dot) :
    Accounts expected observed finish (entry :: listed) ↔
      Accounts expected observed finish listed := by
  constructor
  · rintro ⟨hshapes, hcount, hfixed⟩
    rw [named_cons_of_dot h] at hshapes hcount hfixed
    exact ⟨hshapes, hcount, hfixed⟩
  · rintro ⟨hshapes, hcount, hfixed⟩
    rw [← named_cons_of_dot h] at hshapes hcount hfixed
    exact ⟨hshapes, hcount, hfixed⟩

/-- Where the enumeration gives an entry, its listings start with that entry. -/
theorem exists_listed_cons (hentry : entries rawEntries = some (some entry)) :
    (∃ listed, Enumerates entries rawEntries listed ∧
        (listed ≠ [] → rawEntries + listed.length ≤ expected.length + 2) ∧
        Accounts expected observed finish listed) ↔
      rawEntries + 1 ≤ expected.length + 2 ∧
        ∃ rest, Enumerates entries (rawEntries + 1) rest ∧
          (rest ≠ [] → rawEntries + 1 + rest.length ≤ expected.length + 2) ∧
          Accounts expected observed finish (entry :: rest) := by
  constructor
  · rintro ⟨listed, hlisted, hbound, haccounts⟩
    cases listed with
    | nil => cases hentry.symm.trans hlisted
    | cons other rest =>
      obtain ⟨hother, hrest⟩ := hlisted
      cases hentry.symm.trans hother
      have hle := hbound (List.cons_ne_nil _ _)
      rw [List.length_cons] at hle
      exact ⟨by omega, rest, hrest, fun _ => by omega, haccounts⟩
  · rintro ⟨hle, rest, hrest, hbound, haccounts⟩
    refine ⟨entry :: rest, ⟨hentry, hrest⟩, fun _ => ?_, haccounts⟩
    rw [List.length_cons]
    by_cases hempty : rest = []
    · rw [hempty, List.length_nil]
      exact hle
    · have hlength := hbound hempty
      omega

/-- The loop succeeds on the listings that account for the difference of its
counts, and reads no more than two entries beyond the expected ones. -/
theorem validateEntries_eq_ok (hsmall : expected.length + 2 < 2 ^ 64) :
    validateEntries entries expected rawEntries observed = .ok finish ↔
      ∃ listed, Enumerates entries rawEntries listed ∧
        (listed ≠ [] → rawEntries + listed.length ≤ expected.length + 2) ∧
        Accounts expected observed finish listed := by
  fun_induction validateEntries entries expected rawEntries observed with
  | case1 rawEntries observed hend =>
    rw [Exec.ok.injEq]
    constructor
    · rintro rfl
      exact ⟨[], hend, fun h => absurd rfl h, accounts_nil.mpr rfl⟩
    · rintro ⟨listed, hlisted, -, haccounts⟩
      cases listed with
      | nil => exact (accounts_nil.mp haccounts).symm
      | cons entry rest => cases hend.symm.trans hlisted.1
  | case2 rawEntries observed herror =>
    refine iff_of_false (by simp) ?_
    rintro ⟨listed, hlisted, -⟩
    cases listed with
    | nil => cases herror.symm.trans hlisted
    | cons entry rest => cases herror.symm.trans hlisted.1
  | case3 rawEntries observed entry hentry hcount =>
    rw [exists_listed_cons hentry]
    refine iff_of_false (by simp) ?_
    rintro ⟨hle, -⟩
    rw [checkedSize_of_lt (by omega)] at hcount
    cases hcount
  | case4 rawEntries observed entry hentry count hcount hbound =>
    rw [exists_listed_cons hentry]
    refine iff_of_false (by simp) ?_
    rintro ⟨hle, -⟩
    have hvalue := (checkedSize_eq_some.mp hcount).2
    omega
  | case5 rawEntries observed entry hentry count hcount hbound hdot ih =>
    have hvalue := (checkedSize_eq_some.mp hcount).2
    rw [exists_listed_cons hentry, ih, and_iff_right (by omega)]
    simp only [accounts_cons_of_dot hdot]
  | case6 rawEntries observed entry hentry count hcount hbound hdot ih =>
    have hvalue := (checkedSize_eq_some.mp hcount).2
    rw [exists_listed_cons hentry, and_iff_right (by omega), Exec.bind_eq_ok]
    simp only [validateEntry_eq_ok hsmall, accounts_cons hdot, ih]
    constructor
    · rintro ⟨next, ⟨hexpected, hfixed, rfl⟩, rest, hrest, hle, haccounts⟩
      exact ⟨rest, hrest, hle, hexpected, hfixed, haccounts⟩
    · rintro ⟨rest, hrest, hle, hexpected, hfixed, haccounts⟩
      exact ⟨observed + 1, ⟨hexpected, hfixed, rfl⟩, rest, hrest, hle, haccounts⟩

/-- An entry that the fixed provider has dated. -/
def fixedEntry (shape : String × Bool) : FatEntry :=
  ⟨shape.1, shape.2, fixedDateTime, fixedDateTime, fixedDate⟩

/-- The enumeration of a directory that holds these entries. -/
def listing (shapes : List (String × Bool)) : FatEntries :=
  fun call => shapes[call]?.map fun shape => some (fixedEntry shape)

theorem enumerates_listing {shapes : List (String × Bool)} {rest : List (String × Bool)} {call : ℕ}
    (h : shapes.drop call = rest) : Enumerates (listing shapes) call (rest.map fixedEntry) := by
  induction rest generalizing call with
  | nil =>
    rw [List.map_nil, Enumerates, listing, ← List.head?_drop, h, List.head?_nil, Option.map_none]
  | cons shape rest ih =>
    rw [List.map_cons, Enumerates]
    refine ⟨?_, ih ?_⟩
    · rw [listing, ← List.head?_drop, h, List.head?_cons, Option.map_some]
    · rw [← List.tail_drop, h, List.tail_cons]

theorem named_map_fixedEntry {shapes : List (String × Bool)}
    (h : ∀ shape ∈ shapes, shape.1 ≠ "." ∧ shape.1 ≠ "..") :
    named (shapes.map fixedEntry) = shapes.map fixedEntry := by
  refine List.filter_eq_self.mpr fun entry hentry => ?_
  obtain ⟨shape, hshape, rfl⟩ := List.mem_map.mp hentry
  exact decide_eq_true (not_or.mpr (h shape hshape))

/-- The files that construction writes are found again. -/
theorem validateDirectory_listing (hsmall : expected.length + 2 < 2 ^ 64)
    (hnames : ∀ shape ∈ expected, shape.1 ≠ "." ∧ shape.1 ≠ "..") :
    validateDirectory (listing expected) expected = .ok () := by
  have hnamed := named_map_fixedEntry hnames
  have hshapes : (expected.map fixedEntry).map FatEntry.shape = expected := by
    rw [List.map_map]
    exact List.map_id expected
  refine Exec.bind_eq_ok.mpr ⟨expected.length, (validateEntries_eq_ok hsmall).mpr
    ⟨_, enumerates_listing List.drop_zero, fun _ => ?_, ?_, ?_, ?_⟩, Exec.ensure_eq_ok.mpr rfl⟩
  · rw [List.length_map]
    omega
  · rw [hnamed, hshapes, List.drop_zero, List.drop_length, List.append_nil]
  · rw [hnamed, List.length_map, Nat.zero_add]
  · rw [hnamed, List.forall_mem_map]
    exact fun shape _ => ⟨rfl, rfl, rfl⟩

/-- A directory is accepted exactly when its enumeration ends, lists the expected
entries in their order and with the fixed times, and at most two entries for the
directory and its parent besides. -/
theorem directory_accepted_iff (entries : FatEntries) (expected : List (String × Bool))
    (hsmall : expected.length + 2 < 2 ^ 64) :
    validateDirectory entries expected = .ok () ↔
      ∃ listed, Enumerates entries 0 listed ∧ (named listed).map FatEntry.shape = expected ∧
        (∀ entry ∈ named listed, entry.Fixed) ∧ listed.length ≤ expected.length + 2 := by
  simp only [validateDirectory, Exec.bind_eq_ok, Exec.ensure_eq_ok, validateEntries_eq_ok hsmall]
  constructor
  · rintro ⟨finish, ⟨listed, hlisted, hbound, hshapes, -, hfixed⟩, rfl⟩
    rw [List.drop_zero, List.drop_length, List.append_nil] at hshapes
    refine ⟨listed, hlisted, hshapes.symm, hfixed, ?_⟩
    by_cases hempty : listed = []
    · rw [hempty]
      exact Nat.zero_le _
    · exact (Nat.zero_add _).symm.le.trans (hbound hempty)
  · rintro ⟨listed, hlisted, hshapes, hfixed, hle⟩
    have hlength : (named listed).length = expected.length := by
      rw [← hshapes, List.length_map]
    refine ⟨expected.length, ⟨listed, hlisted, fun _ => by omega, ?_, ?_, hfixed⟩, rfl⟩
    · rw [hshapes, List.drop_zero, List.drop_length, List.append_nil]
    · rw [hlength, Nat.zero_add]

/-- A directory with an entry for itself, one for its parent, and the two files. -/
theorem directory_accepted_iff_sample :
    validateDirectory
        (listing [(".", true), ("..", true), ("KERNEL.ELF", false), ("BOOT.CFG", false)])
        [("KERNEL.ELF", false), ("BOOT.CFG", false)] = .ok () := by
  refine (directory_accepted_iff _ _ (by decide)).mpr
    ⟨_, enumerates_listing List.drop_zero, ?_, ?_, by decide⟩
  · decide
  · intro entry hentry
    obtain ⟨shape, -, rfl⟩ := List.mem_map.mp (List.mem_of_mem_filter hentry)
    exact ⟨rfl, rfl, rfl⟩

end Listing

end PolytopeOS.Host
