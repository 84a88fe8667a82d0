import PolytopeOS.Corelib.MachineCode

/-!
# The kernel's entry shim

`polytopeKernelEntry` is the assembly between the loader and the kernel's own
code. It marks a probe in the `.bss` section, clears the section, and calls the
kernel only if the mark is gone.
-/

namespace PolytopeOS.Arch
open Corelib Corelib.X86

/-- The addresses that the linker fills in, and those of the shim's instructions. -/
structure Symbols where
  bootstrapStackTop : UInt64
  polytopeBootBssProbe : UInt64
  bssStart : UInt64
  bssEnd : UInt64
  polytopeKernelMain : UInt64
  address : ℕ → UInt64

def bssSentinel : UInt64 := 0x50544f5342535354

/-- Up to the repeated store. -/
def entrySetup (symbols : Symbols) : List Operation :=
  [.cli, .cld,
    .movq .rdi .r12, .movq .rsi .r13,
    .leaq symbols.bootstrapStackTop .rsp, .andq (-16) .rsp, .xorq .rbp .rbp,
    .movabsq bssSentinel .rax, .movqTo .rax symbols.polytopeBootBssProbe,
    .leaq symbols.bssStart .rdi, .leaq symbols.bssEnd .rcx, .subq .rdi .rcx, .xorl .rax .rax]

/-- The arguments of the call. -/
def entryArguments : List Operation := [.movq .r12 .rdi, .movq .r13 .rsi]

/-- The labels `.Lbss_clear_failure`, `.Lqemu_exit` and `1`. -/
def bssClearFailure : ℕ := 21

def exitLabel : ℕ := 22

def haltLoop : ℕ := 24

def polytopeKernelEntry (symbols : Symbols) : Program where
  instructions :=
    (entrySetup symbols).map .operation ++
    [.repStosb, .operation (.cmpqAt 0 symbols.polytopeBootBssProbe), .jne bssClearFailure] ++
    entryArguments.map .operation ++
    [.call symbols.polytopeKernelMain,
      .operation (.movl 0x23 .rax), .jmp exitLabel,
      .operation (.movl 0x22 .rax),
      .operation (.movw 0x00f4 .rdx), .operation .outl,
      .operation .cli, .operation .hlt, .jmp haltLoop]
  address := symbols.address

namespace Symbols

/-- The stack pointer that the shim sets up. -/
def stack (symbols : Symbols) : UInt64 := symbols.bootstrapStackTop &&& (-16)

def InBss (symbols : Symbols) (x : ℕ) : Prop :=
  symbols.bssStart.toNat ≤ x ∧ x < symbols.bssEnd.toNat

/-- The slot of the return address. -/
def InSlot (symbols : Symbols) (x : ℕ) : Prop :=
  symbols.stack.toNat - 8 ≤ x ∧ x < symbols.stack.toNat

/-- Every byte of the probe is cleared with the section. -/
def ProbeCleared (symbols : Symbols) : Prop :=
  ∀ i < 8, symbols.InBss (symbols.polytopeBootBssProbe.toNat + i)

/-- What the linker script arranges. -/
structure Linked (symbols : Symbols) : Prop where
  ordered : symbols.bssStart.toNat ≤ symbols.bssEnd.toNat
  probe : symbols.ProbeCleared
  slot : 8 ≤ symbols.stack.toNat
  apart : ∀ x, symbols.InSlot x → ¬symbols.InBss x

end Symbols

/-- The state in which the kernel's own code starts, from the state `s` that the
loader left. -/
structure Entered (symbols : Symbols) (s s' : State) : Prop where
  location : s'.location = .outside symbols.polytopeKernelMain
  contract : s'.registers .rdi = s.registers .rdi
  length : s'.registers .rsi = s.registers .rsi
  stackPointer : s'.registers .rsp = symbols.stack - 8
  framePointer : s'.registers .rbp = 0
  direction : s'.direction = false
  interrupts : s'.interrupts = false
  outputs : s'.outputs = s.outputs
  cleared : ∀ x, symbols.InBss x → s'.memory x = 0
  returnAddress : s'.memory.load (symbols.stack.toNat - 8) 8 = u64ToLe (symbols.address 19)
  frame : ∀ x, ¬symbols.InBss x → ¬symbols.InSlot x → s'.memory x = s.memory x

variable {symbols : Symbols} {s s' : State}

/-- Memory with the mark in the probe, and with the section cleared after that. -/
def cleared (symbols : Symbols) (memory : Memory) : Memory :=
  (memory.store symbols.polytopeBootBssProbe.toNat (u64ToLe bssSentinel)).store
    symbols.bssStart.toNat
    (List.replicate (symbols.bssEnd.toNat - symbols.bssStart.toNat) 0)

theorem cleared_inside (memory : Memory) {x : ℕ} (hx : symbols.InBss x) :
    cleared symbols memory x = 0 := by
  obtain ⟨i, rfl⟩ := Nat.exists_eq_add_of_le hx.1
  have hlt := hx.2
  exact Memory.store_inside _ _ (by rw [List.getElem?_replicate, if_pos (by omega)])

theorem cleared_outside (memory : Memory) {x : ℕ} (hx : ¬symbols.InBss x) :
    cleared symbols memory x =
      memory.store symbols.polytopeBootBssProbe.toNat (u64ToLe bssSentinel) x := by
  refine Memory.store_outside _ ?_
  rw [List.length_replicate]
  rw [Symbols.InBss] at hx
  omega

theorem sentinel_byte {i : ℕ} (hi : i < 8) :
    ∃ byte, (u64ToLe bssSentinel)[i]? = some byte ∧ byte ≠ 0 := by
  have hbytes : (u64ToLe bssSentinel).all (· ≠ 0) := by decide
  have hlength : i < (u64ToLe bssSentinel).length := by rwa [length_u64ToLe]
  exact ⟨_, List.getElem?_eq_getElem hlength,
    by simpa using List.all_eq_true.mp hbytes _ (List.getElem_mem hlength)⟩

/-- The check finds a zero probe exactly when all of it was cleared, since no
byte of the mark is zero. -/
theorem probe_cleared_iff (memory : Memory) :
    u64OfLe ((cleared symbols memory).load symbols.polytopeBootBssProbe.toNat 8) = 0 ↔
      symbols.ProbeCleared := by
  rw [word_eq_zero_iff]
  refine forall₂_congr fun i hi => ⟨?_, cleared_inside memory⟩
  intro hzero
  by_contra hout
  obtain ⟨byte, hbyte, hne⟩ := sentinel_byte hi
  rw [cleared_outside memory hout, Memory.store_inside _ _ hbyte] at hzero
  exact hne hzero

-- ════════════════════════════════════════════════════════════════════════
-- Up to the check
-- ════════════════════════════════════════════════════════════════════════

/-- What the check starts from. -/
structure Checking (symbols : Symbols) (s s' : State) : Prop where
  location : s'.location = .inside 14
  contract : s'.registers .r12 = s.registers .rdi
  length : s'.registers .r13 = s.registers .rsi
  stackPointer : s'.registers .rsp = symbols.stack
  framePointer : s'.registers .rbp = 0
  direction : s'.direction = false
  interrupts : s'.interrupts = false
  outputs : s'.outputs = s.outputs
  memory : s'.memory = cleared symbols s.memory

/-- The state in front of the repeated store. -/
def setUp (symbols : Symbols) (s : State) : State :=
  (execute (entrySetup symbols) s).goTo (.inside 13)

theorem setUp_rax : (setUp symbols s).registers .rax = 0 := UInt64.xor_self

theorem setUp_rbp : (setUp symbols s).registers .rbp = 0 := UInt64.xor_self

/-- A region that the shim does not write to before its check. -/
structure Symbols.Clears (symbols : Symbols) (region : ℕ → Prop) : Prop where
  probe : ∀ i < 8, ¬region (symbols.polytopeBootBssProbe.toNat + i)
  bss : ∀ x, symbols.InBss x → ¬region x

theorem spares_entrySetup {region : ℕ → Prop} (h : symbols.Clears region) :
    ∀ op ∈ entrySetup symbols, op.Spares region := by
  simp only [entrySetup, List.forall_mem_cons]
  refine ⟨fun _ _ _ => rfl, fun _ _ _ => rfl, fun _ _ _ => rfl, fun _ _ _ => rfl, fun _ _ _ => rfl,
    fun _ _ _ => rfl, fun _ _ _ => rfl, fun _ _ _ => rfl, spares_movqTo _ h.probe, fun _ _ _ => rfl,
    fun _ _ _ => rfl, fun _ _ _ => rfl, fun _ _ _ => rfl, ?_⟩
  simp

theorem sparing_checking {region : ℕ → Prop}
    (hordered : symbols.bssStart.toNat ≤ symbols.bssEnd.toNat) (hclears : symbols.Clears region)
    (hs : s.location = .inside 0) :
    ∃ s', ReachesSparing (polytopeKernelEntry symbols) region s s' ∧ Checking symbols s s' := by
  have hsetup : ReachesSparing (polytopeKernelEntry symbols) region s (setUp symbols s) :=
    sparing_block region _ hs (List.prefix_append _ _) (spares_entrySetup hclears)
  have hrcx : ((setUp symbols s).registers .rcx).toNat =
      symbols.bssEnd.toNat - symbols.bssStart.toNat :=
    UInt64.toNat_sub_of_le _ _ (UInt64.le_iff_toNat_le.mpr hordered)
  have hrdi : (setUp symbols s).registers .rdi = symbols.bssStart := rfl
  have hend := symbols.bssEnd.toNat_lt
  have hfill : ReachesSparing (polytopeKernelEntry symbols) region (setUp symbols s)
      (((setUp symbols s).filled (symbols.bssEnd.toNat - symbols.bssStart.toNat)).goTo
        (.inside (13 + 1))) := by
    refine sparing_repStosb rfl rfl rfl hrcx (by rw [hrdi]; omega) fun k hk => ?_
    rw [hrdi]
    exact hclears.bss _ ⟨by omega, by omega⟩
  refine ⟨_, hsetup.trans hfill, ?_⟩
  constructor
  case location => rfl
  case contract => rfl
  case length => rfl
  case stackPointer => rfl
  case framePointer =>
    rw [State.goTo_registers, filled_registers (by decide) (by decide), setUp_rbp]
  case direction => rfl
  case interrupts => rfl
  case outputs =>
    rw [State.goTo_outputs, filled_outputs]
    exact execute_outputs (by simp [entrySetup]) s
  case memory =>
    rw [State.goTo_memory, State.filled, setUp_rax, hrdi]
    rfl

theorem reaches_checking (hordered : symbols.bssStart.toNat ≤ symbols.bssEnd.toNat)
    (hs : s.location = .inside 0) :
    ∃ s', Reaches (polytopeKernelEntry symbols) s s' ∧ Checking symbols s s' := by
  have hclears : symbols.Clears fun _ => False := ⟨fun _ _ => id, fun _ _ => id⟩
  obtain ⟨s', hrun, hchecking⟩ := sparing_checking hordered hclears hs
  exact ⟨s', hrun.reaches, hchecking⟩

-- ════════════════════════════════════════════════════════════════════════
-- Past the check
-- ════════════════════════════════════════════════════════════════════════

/-- The state after the comparison, at the branch. -/
def compared (symbols : Symbols) (s : State) : State :=
  (Operation.apply (.cmpqAt 0 symbols.polytopeBootBssProbe) s).goTo (.inside 15)

theorem compared_zero (h : Checking symbols s s') :
    (compared symbols s').zero = true ↔ symbols.ProbeCleared := by
  rw [← probe_cleared_iff s.memory, ← h.memory]
  exact beq_iff_eq

theorem compared_outputs : (compared symbols s).outputs = s.outputs := by
  simp only [compared, State.goTo_outputs, Operation.apply]

theorem sparing_branch (region : ℕ → Prop) (h : Checking symbols s s') :
    ReachesSparing (polytopeKernelEntry symbols) region s'
      ((compared symbols s').goTo
        (.inside (if (compared symbols s').zero then 16 else bssClearFailure))) := by
  have hcompare : step (polytopeKernelEntry symbols) s' = some (compared symbols s') :=
    step_operation h.location rfl
  exact .head ⟨hcompare, fun _ _ => rfl⟩
    (ReachesSparing.of_step (step_jne rfl rfl) fun _ _ => rfl)

/-- The state in which the kernel is called. -/
def called (symbols : Symbols) (s : State) : State :=
  ((execute entryArguments (compared symbols s)).push (symbols.address 19)).goTo
    (.outside symbols.polytopeKernelMain)

/-- What the call changes. -/
theorem called_eq (symbols : Symbols) (s : State) :
    called symbols s =
      { s with
        location := .outside symbols.polytopeKernelMain
        registers := Function.update (Function.update (Function.update s.registers .rdi
          (s.registers .r12)) .rsi (s.registers .r13)) .rsp (s.registers .rsp - 8)
        zero := (compared symbols s).zero
        memory := s.memory.store (s.registers .rsp - 8).toNat (u64ToLe (symbols.address 19)) } := by
  simp only [called, compared, State.goTo, State.push, State.set, entryArguments, execute,
    List.foldl_cons, List.foldl_nil, Operation.apply]
  rfl

theorem Symbols.toNat_slot (hslot : 8 ≤ symbols.stack.toNat) :
    (symbols.stack - 8).toNat = symbols.stack.toNat - 8 :=
  UInt64.toNat_sub_of_le _ _ (UInt64.le_iff_toNat_le.mpr hslot)

/-- The call stores nothing outside its slot. -/
theorem called_memory (hslot : 8 ≤ symbols.stack.toNat) (h : Checking symbols s s') {x : ℕ}
    (hx : ¬symbols.InSlot x) : (called symbols s').memory x = s'.memory x := by
  rw [called_eq, h.stackPointer]
  refine Memory.store_outside _ ?_
  rw [length_u64ToLe, Symbols.toNat_slot hslot]
  rw [Symbols.InSlot] at hx
  omega

theorem sparing_called (region : ℕ → Prop) (hslot : 8 ≤ symbols.stack.toNat)
    (hregion : ∀ x, symbols.InSlot x → ¬region x) (h : Checking symbols s s')
    (hprobe : symbols.ProbeCleared) :
    ReachesSparing (polytopeKernelEntry symbols) region s' (called symbols s') := by
  have hbranch := sparing_branch region h
  rw [(compared_zero h).mpr hprobe, if_pos rfl] at hbranch
  have hspares : ∀ op ∈ entryArguments, op.Spares region := by
    simp only [entryArguments, List.forall_mem_cons]
    exact ⟨fun _ _ _ => rfl, fun _ _ _ => rfl, by simp⟩
  have harguments : ReachesSparing (polytopeKernelEntry symbols) region
      ((compared symbols s').goTo (.inside 16))
      ((execute entryArguments ((compared symbols s').goTo (.inside 16))).goTo (.inside 18)) :=
    sparing_block region entryArguments rfl ⟨_, rfl⟩ hspares
  rw [execute_goTo, State.goTo_goTo] at harguments
  have hcall : step (polytopeKernelEntry symbols)
      ((execute entryArguments (compared symbols s')).goTo (.inside 18)) =
        some ((((execute entryArguments (compared symbols s')).goTo (.inside 18)).push
          (symbols.address 19)).goTo (.outside symbols.polytopeKernelMain)) := step_call rfl rfl
  rw [State.push_goTo, State.goTo_goTo] at hcall
  refine hbranch.trans (harguments.tail ⟨hcall, fun x hx => ?_⟩)
  exact called_memory hslot h fun hin => hregion x hin hx

theorem entered_called (hlinked : symbols.Linked) (h : Checking symbols s s') :
    Entered symbols s (called symbols s') := by
  have hlow := hlinked.slot
  rw [called_eq, h.memory, h.stackPointer, Symbols.toNat_slot hlow]
  constructor
  case location => rfl
  case contract => exact h.contract
  case length => exact h.length
  case stackPointer => rfl
  case framePointer => exact h.framePointer
  case direction => exact h.direction
  case interrupts => exact h.interrupts
  case outputs => exact h.outputs
  case cleared =>
    intro x hx
    have hapart : ¬symbols.InSlot x := fun hin => hlinked.apart x hin hx
    rw [Symbols.InSlot] at hapart
    exact (Memory.store_outside _ (by rw [length_u64ToLe]; omega)).trans (cleared_inside _ hx)
  case returnAddress =>
    refine (Memory.load_store _ _ (by rw [length_u64ToLe])).trans (List.take_of_length_le ?_)
    rw [length_u64ToLe]
  case frame =>
    intro x hbss hout
    rw [Symbols.InSlot] at hout
    have hprobe : x < symbols.polytopeBootBssProbe.toNat ∨
        symbols.polytopeBootBssProbe.toNat + 8 ≤ x := by
      by_contra hin
      have hbyte := hlinked.probe (x - symbols.polytopeBootBssProbe.toNat) (by omega)
      rw [Nat.add_sub_cancel' (by omega)] at hbyte
      exact hbss hbyte
    calc Memory.store _ _ _ x
        = cleared symbols s.memory x := Memory.store_outside _ (by rw [length_u64ToLe]; omega)
      _ = s.memory.store symbols.polytopeBootBssProbe.toNat (u64ToLe bssSentinel) x :=
        cleared_outside _ hbss
      _ = s.memory x := Memory.store_outside _ (by rwa [length_u64ToLe])

theorem reaches_called (hlinked : symbols.Linked) (h : Checking symbols s s') :
    Reaches (polytopeKernelEntry symbols) s' (called symbols s') :=
  (sparing_called (fun _ => False) hlinked.slot (fun _ _ => id) h hlinked.probe).reaches

/-- Where the shim has left, it has called the kernel. -/
theorem entered_of_reaches (hlinked : symbols.Linked) (hs : s.location = .inside 0)
    (hrun : Reaches (polytopeKernelEntry symbols) s s') {address : UInt64}
    (hout : s'.location = .outside address) : Entered symbols s s' := by
  obtain ⟨c, hsetup, hchecking⟩ := reaches_checking hlinked.ordered hs
  have hcalled := hsetup.trans (reaches_called hlinked hchecking)
  have hentered := entered_called hlinked hchecking
  rcases Reaches.total hrun hcalled with hbefore | hafter
  · rwa [hbefore.eq_of_outside hout] at hentered
  · rwa [hafter.eq_of_outside hentered.location]

/-- From any state that the loader leaves, a linked shim calls the kernel with the
documented state, and every state of its run is on the way there. -/
theorem entry_establishes_kernel_state (symbols : Symbols) (hlinked : symbols.Linked) (s : State)
    (hs : s.location = .inside 0) :
    ∃ s', Reaches (polytopeKernelEntry symbols) s s' ∧ Entered symbols s s' ∧
      ∀ t, Reaches (polytopeKernelEntry symbols) s t →
        Reaches (polytopeKernelEntry symbols) t s' := by
  obtain ⟨c, hsetup, hchecking⟩ := reaches_checking hlinked.ordered hs
  have hrun := hsetup.trans (reaches_called hlinked hchecking)
  have hentered := entered_called hlinked hchecking
  refine ⟨_, hrun, hentered, fun t ht => ?_⟩
  rcases Reaches.total ht hrun with hbefore | hafter
  · exact hbefore
  · rw [hafter.eq_of_outside hentered.location]
    exact .refl

/-- A processor that finds the shim's code at its address, apart from what the shim
writes, comes to call the kernel in the same way. -/
theorem code_enters (hlinked : symbols.Linked)
    (hcode : (polytopeKernelEntry symbols).AssembledIn s.memory)
    (hapart : ∀ x, (polytopeKernelEntry symbols).InCode x → ¬symbols.InBss x ∧ ¬symbols.InSlot x)
    (hs : s.location = .outside (symbols.address 0)) :
    ∃ s', CodeRuns s s' ∧ Entered symbols s s' := by
  have hclears : symbols.Clears (polytopeKernelEntry symbols).InCode := by
    refine ⟨fun i hi hx => (hapart _ hx).1 (hlinked.probe i hi), fun x hin hx => ?_⟩
    exact (hapart x hx).1 hin
  obtain ⟨c, hsetup, hchecking⟩ :=
    sparing_checking (s := s.goTo (.inside 0)) hlinked.ordered hclears rfl
  have hcalled := sparing_called (polytopeKernelEntry symbols).InCode hlinked.slot
    (fun x hin hx => (hapart x hx).2 hin) hchecking hlinked.probe
  have hrun := ReachesSparing.codeRuns (hsetup.trans hcalled) hcode
  have hstart : (polytopeKernelEntry symbols).placed (s.goTo (.inside 0)) = s := by
    rw [placed_goTo_inside]
    exact hs ▸ rfl
  rw [hstart] at hrun
  have h := entered_called hlinked hchecking
  exact ⟨_, hrun, h.location, h.contract, h.length, h.stackPointer, h.framePointer, h.direction,
    h.interrupts, h.outputs, h.cleared, h.returnAddress, h.frame⟩

/-- A section of two words with the probe in its second one, and a stack top that
is not aligned. -/
def sampleSymbols : Symbols where
  bootstrapStackTop := 0x480000c
  polytopeBootBssProbe := 0x4003008
  bssStart := 0x4003000
  bssEnd := 0x4003010
  polytopeKernelMain := 0x4000080
  address index := 0x4000000 + UInt64.ofNat index

theorem sampleSymbols_linked : sampleSymbols.Linked := by
  have haddresses : sampleSymbols.bssStart.toNat = 0x4003000 ∧
      sampleSymbols.bssEnd.toNat = 0x4003010 ∧
      sampleSymbols.polytopeBootBssProbe.toNat = 0x4003008 ∧
      sampleSymbols.stack.toNat = 0x4800000 := by decide
  obtain ⟨hstart, hend, hprobe, hstack⟩ := haddresses
  refine ⟨by omega, ?_, by omega, ?_⟩
  · intro i hi
    rw [Symbols.InBss, hstart, hend, hprobe]
    omega
  · intro x hslot hbss
    rw [Symbols.InSlot, hstack] at hslot
    rw [Symbols.InBss, hend] at hbss
    omega

/-- Memory full of ones, interrupts on and the direction flag set. -/
def sampleEntryState : State where
  location := .inside 0
  registers _ := 0x300000
  zero := false
  direction := true
  interrupts := true
  memory _ := 0xff
  outputs := []

theorem entry_establishes_kernel_state_sample :
    sampleSymbols.Linked ∧ ∃ s', Reaches (polytopeKernelEntry sampleSymbols) sampleEntryState s' ∧
      s'.registers .rdi = 0x300000 ∧ s'.registers .rsp = 0x47ffff8 ∧ s'.direction = false ∧
      s'.memory 0x400300f = 0 ∧ s'.memory 0x4003010 = 0xff := by
  obtain ⟨s', hrun, hentered, -⟩ :=
    entry_establishes_kernel_state sampleSymbols sampleSymbols_linked sampleEntryState rfl
  have haddresses : sampleSymbols.bssStart.toNat = 0x4003000 ∧
      sampleSymbols.bssEnd.toNat = 0x4003010 ∧ sampleSymbols.stack.toNat = 0x4800000 := by decide
  obtain ⟨hstart, hend, hstack⟩ := haddresses
  refine ⟨sampleSymbols_linked, s', hrun, hentered.contract, ?_, hentered.direction, ?_, ?_⟩
  · rw [hentered.stackPointer]
    decide
  · refine hentered.cleared _ ?_
    rw [Symbols.InBss, hstart, hend]
    omega
  · refine hentered.frame _ ?_ ?_
    · rw [Symbols.InBss, hend]
      omega
    · rw [Symbols.InSlot, hstack]
      omega

-- ════════════════════════════════════════════════════════════════════════
-- The exits
-- ════════════════════════════════════════════════════════════════════════

/-- In the loop at the end, after all outputs. -/
structure Halted (outputs : List (UInt16 × UInt32)) (s : State) : Prop where
  outputs : s.outputs = outputs
  location : s.location = .inside 24 ∨ s.location = .inside 25 ∨ s.location = .inside 26

theorem Halted.step {outputs : List (UInt16 × UInt32)} (h : Halted outputs s)
    (hstep : step (polytopeKernelEntry symbols) s = some s') : Halted outputs s' := by
  rcases h.location with hs | hs | hs
  · rw [step_operation hs rfl, Option.some.injEq] at hstep
    subst hstep
    exact ⟨h.outputs, .inr (.inl rfl)⟩
  · rw [step_operation hs rfl, Option.some.injEq] at hstep
    subst hstep
    exact ⟨h.outputs, .inr (.inr rfl)⟩
  · rw [step_jmp hs rfl, Option.some.injEq] at hstep
    subst hstep
    exact ⟨h.outputs, .inl rfl⟩

theorem Halted.forever {outputs : List (UInt16 × UInt32)} (h : Halted outputs s)
    (hrun : Reaches (polytopeKernelEntry symbols) s s') : Halted outputs s' :=
  hrun.invariant (fun _ _ => Halted.step) h

/-- The exit writes the value in `%eax` to the port of the exit device. -/
theorem reaches_exit (symbols : Symbols) (hs : s.location = .inside exitLabel) :
    ∃ s', Reaches (polytopeKernelEntry symbols) s s' ∧
      Halted (s.outputs ++ [(0x00f4, (s.registers .rax).toUInt32)]) s' := by
  refine ⟨_, reaches_block [.movw 0x00f4 .rdx, .outl] hs ⟨_, rfl⟩, ?_, .inl rfl⟩
  simp only [State.goTo_outputs, execute, List.foldl_cons, List.foldl_nil, Operation.apply,
    State.set_outputs]
  rw [State.set_self, State.set_of_ne _ (by decide), toUInt16_movw]

theorem reaches_returned (symbols : Symbols) (hs : s.location = .inside 19) :
    ∃ s', Reaches (polytopeKernelEntry symbols) s s' ∧
      Halted (s.outputs ++ [(0x00f4, 0x23)]) s' := by
  have hmove : step (polytopeKernelEntry symbols) s =
      some ((Operation.apply (.movl 0x23 .rax) s).goTo (.inside 20)) := step_operation hs rfl
  have hjump : step (polytopeKernelEntry symbols)
      ((Operation.apply (.movl 0x23 .rax) s).goTo (.inside 20)) =
        some ((Operation.apply (.movl 0x23 .rax) s).goTo (.inside exitLabel)) := step_jmp rfl rfl
  obtain ⟨s', hexit, hhalted⟩ := reaches_exit symbols
    (s := (Operation.apply (.movl 0x23 .rax) s).goTo (.inside exitLabel)) rfl
  exact ⟨s', .head hmove (.head hjump hexit), hhalted⟩

theorem reaches_failure (symbols : Symbols) (hs : s.location = .inside bssClearFailure) :
    ∃ s', Reaches (polytopeKernelEntry symbols) s s' ∧
      Halted (s.outputs ++ [(0x00f4, 0x22)]) s' := by
  have hmove : step (polytopeKernelEntry symbols) s =
      some ((Operation.apply (.movl 0x22 .rax) s).goTo (.inside exitLabel)) := step_operation hs rfl
  obtain ⟨s', hexit, hhalted⟩ := reaches_exit symbols
    (s := (Operation.apply (.movl 0x22 .rax) s).goTo (.inside exitLabel)) rfl
  exact ⟨s', .head hmove hexit, hhalted⟩

/-- The shim fails closed. If some byte of the probe survives the clearing, the
run never leaves the shim and ends with the loader's failure code; if the kernel
returns, the run ends with a code of its own; and after an exit the run stays in
the halt loop and writes to no port again. -/
theorem entry_fails_closed (symbols : Symbols)
    (hordered : symbols.bssStart.toNat ≤ symbols.bssEnd.toNat) :
    (∀ s, s.location = .inside 0 → ¬symbols.ProbeCleared →
      (∃ s', Reaches (polytopeKernelEntry symbols) s s' ∧
        Halted (s.outputs ++ [(0x00f4, 0x22)]) s') ∧
      ∀ t address, Reaches (polytopeKernelEntry symbols) s t → t.location ≠ .outside address) ∧
    (∀ s, s.location = .inside 19 → ∃ s', Reaches (polytopeKernelEntry symbols) s s' ∧
      Halted (s.outputs ++ [(0x00f4, 0x23)]) s') ∧
    ∀ outputs s s', Halted outputs s → Reaches (polytopeKernelEntry symbols) s s' →
      Halted outputs s' := by
  refine ⟨?_, fun s hs => reaches_returned symbols hs, fun outputs s s' h hrun => h.forever hrun⟩
  intro s hs hprobe
  obtain ⟨c, hsetup, hchecking⟩ := reaches_checking hordered hs
  have hbranch := (sparing_branch (fun _ => False) hchecking).reaches
  rw [if_neg (mt (compared_zero hchecking).mp hprobe)] at hbranch
  obtain ⟨s', hfail, hhalted⟩ := reaches_failure symbols
    (s := (compared symbols c).goTo (.inside bssClearFailure)) rfl
  have hrun := hsetup.trans (hbranch.trans hfail)
  rw [State.goTo_outputs, compared_outputs, hchecking.outputs] at hhalted
  refine ⟨⟨s', hrun, hhalted⟩, fun t address ht hout => ?_⟩
  -- a run that has left the shim goes no further, and the halt loop is inside it
  have hinside : ∀ {u}, Halted (s.outputs ++ [(0x00f4, 0x22)]) u →
      u.location ≠ .outside address := by
    intro u hu hu'
    rcases hu.location with h | h | h <;> rw [h] at hu' <;> cases hu'
  rcases Reaches.total ht hrun with hbefore | hafter
  · rw [hbefore.eq_of_outside hout] at hhalted
    exact hinside hhalted hout
  · exact hinside (hhalted.forever hafter) hout

/-- A probe just past the cleared section. -/
theorem entry_fails_closed_sample :
    ∃ symbols : Symbols, symbols.bssStart.toNat ≤ symbols.bssEnd.toNat ∧ ¬symbols.ProbeCleared ∧
      ∃ s', Reaches (polytopeKernelEntry symbols) sampleEntryState s' ∧
        s'.outputs = [(0x00f4, 0x22)] := by
  let symbols : Symbols := { sampleSymbols with polytopeBootBssProbe := 0x4003010 }
  have hordered : symbols.bssStart.toNat ≤ symbols.bssEnd.toNat := by decide
  have hprobe : ¬symbols.ProbeCleared := fun h => absurd (h 0 (by decide)).2 (by decide)
  obtain ⟨⟨s', hrun, hhalted⟩, -⟩ :=
    (entry_fails_closed symbols hordered).1 sampleEntryState rfl hprobe
  exact ⟨symbols, hordered, hprobe, s', hrun, hhalted.outputs⟩

end PolytopeOS.Arch
