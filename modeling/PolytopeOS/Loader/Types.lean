import PolytopeOS.Arch.Console
import PolytopeOS.BootContract.Types

/-!
# Loader vocabulary

Firmware memory types and descriptors, the boot scenarios of `BOOT.CFG`, and the
loader's errors with the record each one is reported by.
-/

namespace PolytopeOS.Loader
open Corelib Arch

def pageBytes : ℕ := 4096

/-- The firmware's memory type numbers are open ended. -/
structure MemoryType where
  raw : UInt32
  deriving DecidableEq, Repr

namespace MemoryType
def reserved : MemoryType := ⟨0⟩
def loaderCode : MemoryType := ⟨1⟩
def loaderData : MemoryType := ⟨2⟩
def bootServicesCode : MemoryType := ⟨3⟩
def bootServicesData : MemoryType := ⟨4⟩
def runtimeServicesCode : MemoryType := ⟨5⟩
def runtimeServicesData : MemoryType := ⟨6⟩
def conventional : MemoryType := ⟨7⟩
def acpiReclaim : MemoryType := ⟨9⟩
def acpiNonVolatile : MemoryType := ⟨10⟩
def mmio : MemoryType := ⟨11⟩
def mmioPortSpace : MemoryType := ⟨12⟩
end MemoryType

def kernelMemoryType : MemoryType := ⟨0x80000000⟩
def contractMemoryType : MemoryType := ⟨0x80000001⟩
def stackGuardMemoryType : MemoryType := ⟨0x80000002⟩

structure MemoryDescriptor where
  ty : MemoryType
  physStart : UInt64
  pageCount : UInt64
  att : UInt64
  deriving DecidableEq, Repr

inductive BootScenario where
  | normal
  | incompatibleVersion
  | truncatedContract
  | deliberatePanic
  deriving DecidableEq, Repr

inductive ScenarioError where
  | empty
  | tooLong
  | nonAscii
  | unknown
  deriving DecidableEq, Repr

def maxScenarioBytes : ℕ := 32

def BootScenario.parse (bytes : Bytes) : Exec ScenarioError BootScenario :=
  if bytes.length > maxScenarioBytes then .err .tooLong
  else if !bytes.all (· < 128) then .err .nonAscii
  else if bytes = ascii "normal\n" then .ok .normal
  else if bytes = ascii "bad-version\n" then .ok .incompatibleVersion
  else if bytes = ascii "truncated\n" then .ok .truncatedContract
  else if bytes = ascii "panic\n" then .ok .deliberatePanic
  else if bytes = [] then .err .empty
  else .err .unknown

inductive LoaderError where
  | fileRead
  | configInvalid
  | elfInvalid
  | allocation
  | kernelAddress
  | contractStorage
  | contract
  deriving DecidableEq, Repr

end PolytopeOS.Loader
