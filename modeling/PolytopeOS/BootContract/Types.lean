import PolytopeOS.Corelib.Exec
import PolytopeOS.Corelib.LittleEndian

/-!
# The loader-to-kernel boot contract

The fixed-capacity record the UEFI loader hands to the kernel, its builder, and
the reasons it can be rejected. Array indices and slice lengths are naturals;
every field that crosses the byte ABI keeps its machine width.
-/

namespace PolytopeOS.BootContract
open Corelib

/-- The bytes of `POLYBOOT`. -/
def bootMagic : Vector UInt8 8 := #v[80, 79, 76, 89, 66, 79, 79, 84]

def abiMajor : UInt16 := 1
def abiMinor : UInt16 := 0
def pageSize : UInt64 := 4096
def pageSizeBytes : ℕ := 4096
def maxMemoryRegions : ℕ := 128
def bootHeaderSize : ℕ := 32
def bootInfoSize : ℕ := 4176
/-- Byte offset of `abi_major` in the encoded contract. -/
def abiMajorOffset : ℕ := 8

def knownHeaderFlags : UInt32 := 0
def bootHeaderSizeU32 : UInt32 := 32
def bootInfoSizeU32 : UInt32 := 4176
def memoryRegionSizeU32 : UInt32 := 32
def maxMemoryRegionsU32 : UInt32 := 128
def platformFlagRsdpPresent : UInt64 := 1
def knownPlatformFlags : UInt64 := platformFlagRsdpPresent
def scenarioFlagTestOnly : UInt32 := 1
def knownScenarioFlags : UInt32 := scenarioFlagTestOnly
def minRsdpLength : UInt32 := 20
def maxRsdpLength : UInt32 := 4096

structure BootHeader where
  magic : Vector UInt8 8
  abiMajor : UInt16
  abiMinor : UInt16
  headerSize : UInt32
  totalSize : UInt32
  memoryRegionSize : UInt32
  memoryRegionCount : UInt32
  flags : UInt32
  deriving DecidableEq, Repr

def BootHeader.current : BootHeader where
  magic := bootMagic
  abiMajor := BootContract.abiMajor
  abiMinor := BootContract.abiMinor
  headerSize := bootHeaderSizeU32
  totalSize := bootInfoSizeU32
  memoryRegionSize := memoryRegionSizeU32
  memoryRegionCount := 0
  flags := 0

structure FirmwareKind where
  raw : UInt32
  deriving DecidableEq, Repr

def FirmwareKind.uefi : FirmwareKind := ⟨1⟩

structure Architecture where
  raw : UInt32
  deriving DecidableEq, Repr

def Architecture.x86_64 : Architecture := ⟨1⟩

structure PlatformInfo where
  firmware : FirmwareKind
  architecture : Architecture
  flags : UInt64
  rsdpAddress : UInt64
  rsdpLength : UInt32
  bootCpuId : UInt32
  deriving DecidableEq, Repr

def PlatformInfo.x86_64_uefi (bootCpuId : UInt32) : PlatformInfo where
  firmware := .uefi
  architecture := .x86_64
  flags := 0
  rsdpAddress := 0
  rsdpLength := 0
  bootCpuId := bootCpuId

structure ScenarioKind where
  raw : UInt32
  deriving DecidableEq, Repr

namespace ScenarioKind
def normal : ScenarioKind := ⟨0⟩
def incompatibleVersion : ScenarioKind := ⟨1⟩
def malformedMetadata : ScenarioKind := ⟨2⟩
def deliberatePanic : ScenarioKind := ⟨3⟩
end ScenarioKind

structure ScenarioInfo where
  kind : ScenarioKind
  flags : UInt32
  argument : UInt64
  deriving DecidableEq, Repr

def ScenarioInfo.normal : ScenarioInfo := ⟨.normal, 0, 0⟩

def ScenarioInfo.test (kind : ScenarioKind) (argument : UInt64) : ScenarioInfo :=
  ⟨kind, scenarioFlagTestOnly, argument⟩

structure MemoryKind where
  raw : UInt32
  deriving DecidableEq, Repr

namespace MemoryKind
def empty : MemoryKind := ⟨0⟩
def reserved : MemoryKind := ⟨1⟩
def usable : MemoryKind := ⟨2⟩
def reclaimable : MemoryKind := ⟨3⟩
def kernelImage : MemoryKind := ⟨4⟩
def bootContract : MemoryKind := ⟨5⟩
def firmwareRuntime : MemoryKind := ⟨6⟩
def acpiReclaimable : MemoryKind := ⟨7⟩
def acpiNvs : MemoryKind := ⟨8⟩
def mmio : MemoryKind := ⟨9⟩

def isKnown (kind : MemoryKind) : Bool := 1 ≤ kind.raw && kind.raw ≤ 9
end MemoryKind

structure MemoryRegion where
  start : UInt64
  length : UInt64
  kind : MemoryKind
  sourceKind : UInt32
  attributes : UInt64
  deriving DecidableEq, Repr

def MemoryRegion.empty : MemoryRegion := ⟨0, 0, .empty, 0, 0⟩

/-- One past the last address of a region, as an unbounded integer. -/
def MemoryRegion.endNat (region : MemoryRegion) : ℕ := region.start.toNat + region.length.toNat

structure BootInfo where
  header : BootHeader
  platform : PlatformInfo
  scenario : ScenarioInfo
  memoryRegions : Vector MemoryRegion maxMemoryRegions
  deriving DecidableEq, Repr

/-- Structured reasons a handoff was rejected. -/
inductive ValidationError where
  | truncated (provided required : ℕ)
  | lengthMismatch (provided declared : ℕ)
  | badMagic
  | unsupportedVersion (major minor : UInt16)
  | headerSize (found expected : UInt32)
  | totalSize (found expected : UInt32)
  | memoryRegionSize (found expected : UInt32)
  | tooManyMemoryRegions (count maximum : UInt32)
  | unknownHeaderFlags (flags : UInt32)
  | regionIndexOutOfBounds (index : ℕ)
  | unsupportedFirmware (kind : UInt32)
  | unsupportedArchitecture (architecture : UInt32)
  | unknownPlatformFlags (flags : UInt64)
  | inconsistentRsdpPresence
  | invalidRsdpRange (address : UInt64) (length : UInt32)
  | unknownScenario (kind : UInt32)
  | unknownScenarioFlags (flags : UInt32)
  | scenarioNotMarkedTestOnly (kind : UInt32)
  | normalScenarioHasTestState
  | activeMemoryRegionIsEmpty (index : ℕ)
  | emptyMemoryRegion (index : ℕ)
  | unalignedMemoryRegion (index : ℕ) (start length : UInt64)
  | memoryRegionOverflow (index : ℕ)
  | unknownMemoryKind (index : ℕ) (kind : UInt32)
  | unsortedMemoryRegions (previous current : ℕ)
  | overlappingMemoryRegions (previous current : ℕ)
  | nonZeroUnusedMemoryRegion (index : ℕ)
  deriving DecidableEq, Repr

/-- The array index an error about the region table points at. -/
def ValidationError.regionIndex : ValidationError → Option ℕ
  | .activeMemoryRegionIsEmpty index | .emptyMemoryRegion index
  | .unalignedMemoryRegion index _ _ | .memoryRegionOverflow index
  | .unknownMemoryKind index _ | .unsortedMemoryRegions _ index
  | .overlappingMemoryRegions _ index | .nonZeroUnusedMemoryRegion index => some index
  | _ => none

/-- What an error is about: the length of the input, an argument of the builder,
or one of the parts of the contract that are checked in turn. -/
inductive Subject where
  | length
  | builder
  | header
  | platform
  | scenario
  | regions
  deriving DecidableEq, Repr

def ValidationError.subject : ValidationError → Subject
  | .truncated _ _ | .lengthMismatch _ _ => .length
  | .regionIndexOutOfBounds _ => .builder
  | .badMagic | .unsupportedVersion _ _ | .headerSize _ _ | .totalSize _ _
  | .memoryRegionSize _ _ | .tooManyMemoryRegions _ _ | .unknownHeaderFlags _ => .header
  | .unsupportedFirmware _ | .unsupportedArchitecture _ | .unknownPlatformFlags _
  | .inconsistentRsdpPresence | .invalidRsdpRange _ _ => .platform
  | .unknownScenario _ | .unknownScenarioFlags _ | .scenarioNotMarkedTestOnly _
  | .normalScenarioHasTestState => .scenario
  | .activeMemoryRegionIsEmpty _ | .emptyMemoryRegion _ | .unalignedMemoryRegion _ _ _
  | .memoryRegionOverflow _ | .unknownMemoryKind _ _ | .unsortedMemoryRegions _ _
  | .overlappingMemoryRegions _ _ | .nonZeroUnusedMemoryRegion _ => .regions

theorem ValidationError.subject_of_regionIndex {e : ValidationError} {i : ℕ}
    (h : e.regionIndex = some i) : e.subject = .regions := by
  cases e <;> first | rfl | exact absurd h (by simp [regionIndex])

inductive EncodeError where
  | invalid (error : ValidationError)
  | bufferTooSmall (provided required : ℕ)
  deriving DecidableEq, Repr

namespace BootInfo

def new (platform : PlatformInfo) (scenario : ScenarioInfo) : BootInfo where
  header := .current
  platform := platform
  scenario := scenario
  memoryRegions := Vector.replicate maxMemoryRegions .empty

/-- `info.header.memory_region_count as usize`. -/
def regionCount (info : BootInfo) : ℕ := info.header.memoryRegionCount.toNat

/-- The slots `info.memory_regions[..count]` and `info.memory_regions[count..]`. -/
def activeRegions (info : BootInfo) : List MemoryRegion :=
  info.memoryRegions.toList.take info.regionCount

def unusedRegions (info : BootInfo) : List MemoryRegion :=
  info.memoryRegions.toList.drop info.regionCount

/-- Writes the slot first and only then extends the active count, as the source
does; the pair holds the call's outcome and the contract it leaves behind. -/
def setMemoryRegion (info : BootInfo) (index : ℕ) (region : MemoryRegion) :
    Exec ValidationError Unit × BootInfo :=
  if h : maxMemoryRegions ≤ index then (.err (.regionIndexOutOfBounds index), info)
  else
    let info := { info with
      memoryRegions := info.memoryRegions.set index region (by omega) }
    let count := index + 1
    if info.regionCount < count then
      if count < 2 ^ 32 then
        (.ok (), { info with
          header := { info.header with memoryRegionCount := UInt32.ofNat count } })
      else (.err (.regionIndexOutOfBounds index), info)
    else (.ok (), info)

end BootInfo

end PolytopeOS.BootContract
