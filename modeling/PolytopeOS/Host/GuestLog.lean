import PolytopeOS.Arch.Serial
import PolytopeOS.Host.Agreement

/-!
# The guest's log at its ports

Which of the guest's consoles writes which record, and what the host reads from
the debug console at the other end. The UART may be absent, slow or stuck.
-/

namespace PolytopeOS.Host
open Corelib Arch Loader

/-- The kernel's console, and the one of its panic handler. -/
def kernelSessions (halt : Halt) : List (List Bytes) :=
  if halt.code = .kernelPanic then [[], halt.records] else [halt.records]

/-- The consoles of a run with the records of each: the loader's own, that of its
panic handler, and the kernel's. -/
def guestSessions (run : GuestRun) : List (List Bytes) :=
  match run.prepared with
  | .err error => [[loaderStart, error.marker]]
  | .panic => [[loaderStart], [loaderPanicSequence2]]
  | .ok _ =>
    match run.encoded with
    | .err error => [[loaderStart, elfValid, error.marker]]
    | .panic => [[loaderStart, elfValid], [loaderPanicSequence3]]
    | .ok _ =>
      match run.transfer with
      | .panicked => [[loaderStart, elfValid, handoffReady], [loaderPanicSequence4]]
      | .bssClearFailure => [[loaderStart, elfValid, handoffReady]]
      | .returned => [[loaderStart, elfValid, handoffReady]]
      | .kernel memory contract length =>
        [loaderStart, elfValid, handoffReady] ::
          kernelSessions (Kernel.polytopeKernelMain memory contract length)

/-- The ports at the end of a run. -/
def guestPorts (run : GuestRun) (ports : Ports) : Ports :=
  qemuExit (Loader.main run).code (consoles (guestSessions run) ports)

theorem flatten_kernelSessions (halt : Halt) : (kernelSessions halt).flatten = halt.records := by
  unfold kernelSessions
  split <;> simp

theorem flatten_guestSessions (run : GuestRun) :
    (guestSessions run).flatten = (Loader.main run).records := by
  obtain ⟨prepared, encoded, transfer, hprepared, hencoded⟩ := run
  cases prepared with
  | err error => rfl
  | panic => rfl
  | ok p =>
    cases encoded with
    | err error => rfl
    | panic => rfl
    | ok length =>
      cases transfer with
      | panicked => rfl
      | bssClearFailure => rfl
      | returned => rfl
      | kernel memory contract length =>
        exact congrArg ([loaderStart, elfValid, handoffReady] ++ ·) (flatten_kernelSessions _)

/-- Whole lines of prose before the records. -/
theorem interleaved_append {prose stream : Bytes} {lines : List Bytes}
    (hprose : Interleaved [] prose) (hstream : Interleaved lines stream) :
    Interleaved lines (prose ++ stream) := by
  generalize hnil : ([] : List Bytes) = none at hprose
  induction hprose with
  | done => exact hstream
  | record => cases hnil
  | prose hline hplain _ ih =>
    rw [List.append_assoc]
    exact .prose hline hplain (ih hnil)

/-- Records without prose. -/
theorem interleaved_records (records : List Bytes) :
    Interleaved records (records.flatMap writeRecord) := by
  induction records with
  | nil => exact .done
  | cons record records ih => exact .record ih

theorem classifyBoot_of_interleaved {run : GuestRun} {stream : Bytes}
    (h : Interleaved (Loader.main run).records stream) :
    (parseProtocolStream stream false).violation = none ∧
      classifyBoot false (some (hostStatus (Loader.main run).code))
        (parseProtocolStream stream false) = verdict run := by
  rcases main_ends run with hearly | ⟨halt, hkernel⟩
  · rw [parseProtocolStream_of_interleaved h hearly.accepted]
    exact ⟨rfl, classifyBoot_of_early hearly⟩
  · obtain ⟨markers, haccepted⟩ := Ends.accepted hkernel.ends
    rw [← hkernel.records] at haccepted
    rw [parseProtocolStream_of_interleaved h haccepted]
    exact ⟨rfl, classifyBoot_of_kernel hkernel haccepted⟩

/-- The host's reading of a run does not depend on the UART. Behind whatever complete
lines of prose the firmware wrote, the debug console receives the run's records, all
of them and nothing else; the exit device receives the run's code; and the host finds
no violation and the run's own verdict. -/
theorem guest_log_independent_of_uart (run : GuestRun) (ports : Ports)
    (hprose : Interleaved [] ports.debug) :
    (guestPorts run ports).debug =
      ports.debug ++ (Loader.main run).records.flatMap writeRecord ∧
    (guestPorts run ports).exits =
      ports.exits ++ [UInt32.ofNat (Loader.main run).code.value] ∧
    (parseProtocolStream (guestPorts run ports).debug false).violation = none ∧
    classifyBoot false (some (hostStatus (Loader.main run).code))
      (parseProtocolStream (guestPorts run ports).debug false) = verdict run := by
  have hwrote := consoles_wrote (guestSessions run) ports
  have hdebug : (guestPorts run ports).debug =
      ports.debug ++ (Loader.main run).records.flatMap writeRecord := by
    rw [← flatten_guestSessions]
    exact hwrote.debug
  have hexits : (guestPorts run ports).exits =
      ports.exits ++ [UInt32.ofNat (Loader.main run).code.value] :=
    congrArg (· ++ [UInt32.ofNat (Loader.main run).code.value]) hwrote.exits
  refine ⟨hdebug, hexits, ?_⟩
  rw [hdebug]
  exact classifyBoot_of_interleaved (interleaved_append hprose (interleaved_records _))

/-- Ports with a UART that is never ready, behind a line of the firmware's. -/
def stuckPorts : Ports where
  uart := ⟨⟨0, 0, 0, 0, 0x80, 0⟩, []⟩
  debug := ascii "BdsDxe: loading" ++ [10]
  exits := []
  lineStatus := fun _ => 0
  reads := 0

theorem interleaved_stuckPorts : Interleaved [] stuckPorts.debug :=
  have hline : 10 ∉ ascii "BdsDxe: loading" := by decide +kernel
  have hplain : ¬ascii "POLYTOPE_BOOT" <:+: ascii "BdsDxe: loading" := by decide +kernel
  Interleaved.prose hline hplain .done

theorem guest_log_independent_of_uart_stuck :
    (guestPorts sampleRun stuckPorts).exits = [0x20] ∧
    classifyBoot false (some 65)
      (parseProtocolStream (guestPorts sampleRun stuckPorts).debug false) = .rejected :=
  have h := guest_log_independent_of_uart sampleRun stuckPorts interleaved_stuckPorts
  ⟨h.2.1, h.2.2.2⟩

end PolytopeOS.Host
