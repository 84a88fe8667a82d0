import PolytopeOS.Corelib.Decimal
import PolytopeOS.Corelib.Processes
import PolytopeOS.Host.LogCursor
import PolytopeOS.Host.TimeoutProbe

/-!
# Supervising the emulator

`execute_bounded_qemu` polls the emulator until it has ended or its time is over,
and samples its memory with short-lived helper processes. Whatever the operating
system answers, and whichever call fails, every process that was started is
collected or, if the operating system refuses to wait for it, given up after it
was asked to die; besides those, at most one helper runs at a time; and the loop
ends.
-/

namespace PolytopeOS.Host
open Corelib Corelib.Processes Arch

variable {ε : Type}

-- ════════════════════════════════════════════════════════════════════════
-- Guarded children
-- ════════════════════════════════════════════════════════════════════════

structure ChildGuard where
  pid : ℕ
  armed : Bool

namespace ChildGuard

def new (pid : ℕ) : ChildGuard := ⟨pid, true⟩

def disarm (guard : ChildGuard) : ChildGuard := { guard with armed := false }

def terminate (guard : ChildGuard) (sys : System ε) :
    Except ε ExitStatus × ChildGuard × System ε :=
  match sys.kill guard.pid with
  | (.error e, sys) => (.error e, guard, sys)
  | (.ok (), sys) =>
    match sys.wait guard.pid with
    | (.error e, sys) => (.error e, guard, sys)
    | (.ok status, sys) => (.ok status, guard.disarm, sys)

/-- The destructor. -/
def drop (guard : ChildGuard) (sys : System ε) : System ε :=
  if guard.armed then ((sys.kill guard.pid).2.wait guard.pid).2 else sys

end ChildGuard

-- ════════════════════════════════════════════════════════════════════════
-- The memory sampler
-- ════════════════════════════════════════════════════════════════════════

def nanosPerMilli : ℕ := 1000000

def rssSampleInterval : ℕ := 25 * nanosPerMilli

def rssSampleTimeout : ℕ := 20 * nanosPerMilli

/-- `Duration::saturating_add`, in nanoseconds. -/
def saturatingAddDuration (a b : ℕ) : ℕ := min (a + b) (2 ^ 64 * 1000000000 - 1)

def maxOption : Option ℕ → Option ℕ → Option ℕ
  | some left, some right => some (max left right)
  | some value, none => some value
  | none, some value => some value
  | none, none => none

/-- Only the first 128 bytes are read. -/
def parseRssOutput (output : Except ε Bytes) : Option ℕ :=
  match output with
  | .error _ => none
  | .ok bytes => (fromUtf8 (bytes.take 128)).bind fun text => parseU64 (trim text)

structure SamplerProcess where
  child : ChildGuard
  started : ℕ

structure RssSampler where
  process : Option SamplerProcess
  nextSample : ℕ
  peakKib : Option ℕ
  disabled : Bool

namespace RssSampler

def new : RssSampler := ⟨none, 0, none, false⟩

/-- The second half of `poll`: start a helper when one is due. -/
def start (elapsed : ℕ) (sampler : RssSampler) (sys : System ε) : RssSampler × System ε :=
  if sampler.process.isSome || sampler.disabled || elapsed < sampler.nextSample then (sampler, sys)
  else
    match sys.spawn with
    | (.ok pid, sys) => ({ sampler with process := some ⟨.new pid, sys.now.1⟩ }, sys.now.2)
    | (.error _, sys) => ({ sampler with disabled := true }, sys)

/-- A helper that is given up. -/
def abandon (elapsed : ℕ) (process : SamplerProcess) (sampler : RssSampler) (sys : System ε) :
    RssSampler × System ε :=
  let (_, child, sys) := process.child.terminate sys
  ({ sampler with process := none, nextSample := saturatingAddDuration elapsed rssSampleInterval },
    child.drop sys)

def poll (elapsed : ℕ) (sampler : RssSampler) (sys : System ε) : RssSampler × System ε :=
  match sampler.process with
  | none => start elapsed sampler sys
  | some process =>
    match sys.tryWait process.child.pid with
    | (.ok (some _), sys) =>
      let child := process.child.disarm
      let (output, sys) := sys.readOutput child.pid
      start elapsed
        { sampler with
          process := none
          nextSample := saturatingAddDuration elapsed rssSampleInterval
          peakKib := maxOption sampler.peakKib (parseRssOutput output) }
        (child.drop sys)
    | (.ok none, sys) =>
      if sys.now.1 - process.started < rssSampleTimeout then (sampler, sys.now.2)
      else abandon elapsed process sampler sys.now.2
    | (.error _, sys) => abandon elapsed process sampler sys

/-- The destructor. -/
def drop (sampler : RssSampler) (sys : System ε) : System ε :=
  match sampler.process with
  | none => sys
  | some process => process.child.drop sys

def finish (sampler : RssSampler) (sys : System ε) : Option ℕ × System ε :=
  match sampler.process with
  | none => (sampler.peakKib, sys)
  | some process =>
    match sys.tryWait process.child.pid with
    | (.ok (some _), sys) =>
      let child := process.child.disarm
      let (output, sys) := sys.readOutput child.pid
      (maxOption sampler.peakKib (parseRssOutput output), child.drop sys)
    | (_, sys) =>
      let (_, child, sys) := process.child.terminate sys
      (sampler.peakKib, child.drop sys)

end RssSampler

-- ════════════════════════════════════════════════════════════════════════
-- The loop
-- ════════════════════════════════════════════════════════════════════════

structure SupervisedExecution extends TimedExecution where
  peakRssKib : Option ℕ

inductive SuperviseError (ε : Type) where
  /-- "failed to start", the emulator and the image. -/
  | start (error : ε)
  /-- The debug log could not be read. -/
  | log (error : ε)
  /-- "failed to query QEMU status" -/
  | query (error : ε)
  /-- "failed to terminate and reap timed-out QEMU" -/
  | terminate (error : ε)

structure Supervisor where
  child : ChildGuard
  readyObserver : ReadyMarkerObserver
  rssSampler : RssSampler

/-- Why the loop ends. -/
inductive Ending (ε : Type) where
  | ended (status : ExitStatus) (timedOut : Bool)
  | failed (error : SuperviseError ε)

def pollInterval : ℕ := 5 * nanosPerMilli

/-- `ReadyMarkerObserver::observe` on the debug log, which reads as `log` says by
the number of the call. The clock is read at a match only. -/
def observe (log : ℕ → Except ε Poll) (started : ℕ) (observer : ReadyMarkerObserver)
    (sys : System ε) : Except ε ReadyMarkerObserver × System ε :=
  if observer.observedAt.isSome then (.ok observer, sys)
  else
    match log sys.calls with
    | .error e => (.error e, sys.pass 0)
    | .ok poll =>
      if (ReadyMarkerObserver.observeCursors observer.cursors [poll]).1 then
        (.ok (observer.observe [poll] ((sys.pass 0).now.1 - started)), (sys.pass 0).now.2)
      else (.ok (observer.observe [poll] 0), sys.pass 0)

/-- One round of the loop, which goes on after it unless there is an ending. -/
def superviseRound (log : ℕ → Except ε Poll) (timeout started : ℕ) (supervisor : Supervisor)
    (sys : System ε) : Option (Ending ε) × Supervisor × System ε :=
  let elapsed := sys.now.1 - started
  match observe log started supervisor.readyObserver sys.now.2 with
  | (.error e, sys) => (some (.failed (.log e)), supervisor, sys)
  | (.ok readyObserver, sys) =>
    let supervisor := { supervisor with readyObserver }
    match sys.tryWait supervisor.child.pid with
    | (.error e, sys) => (some (.failed (.query e)), supervisor, sys)
    | (.ok (some status), sys) =>
      (some (.ended status false), { supervisor with child := supervisor.child.disarm }, sys)
    | (.ok none, sys) =>
      if elapsed ≥ timeout then
        match supervisor.child.terminate sys with
        | (.error e, child, sys) => (some (.failed (.terminate e)), { supervisor with child }, sys)
        | (.ok status, child, sys) => (some (.ended status true), { supervisor with child }, sys)
      else
        let (rssSampler, sys) := supervisor.rssSampler.poll elapsed sys
        (none, { supervisor with rssSampler }, sys.sleep pollInterval)

/-- The loop, for at most the given number of rounds. -/
def superviseLoop (log : ℕ → Except ε Poll) (timeout started : ℕ) :
    ℕ → Supervisor → System ε → Option (Ending ε × Supervisor × System ε)
  | 0, _, _ => none
  | rounds + 1, supervisor, sys =>
    match superviseRound log timeout started supervisor sys with
    | (none, supervisor, sys) => superviseLoop log timeout started rounds supervisor sys
    | (some ending, supervisor, sys) => some (ending, supervisor, sys)

/-- The locals, dropped in the reverse order of their declarations. -/
def Supervisor.drop (supervisor : Supervisor) (sys : System ε) : System ε :=
  supervisor.child.drop (supervisor.rssSampler.drop sys)

/-- A duration in whole milliseconds, as far as they fit. -/
def wholeMillis (nanos : ℕ) : ℕ := (checkedSize (nanos / nanosPerMilli)).getD (2 ^ 64 - 1)

/-- The rest of the function, after the loop. -/
def superviseEnd (log : ℕ → Except ε Poll) (started : ℕ) (status : ExitStatus) (timedOut : Bool)
    (supervisor : Supervisor) (sys : System ε) :
    Except (SuperviseError ε) SupervisedExecution × System ε :=
  match observe log started supervisor.readyObserver sys with
  | (.error e, sys) => (.error (.log e), supervisor.drop sys)
  | (.ok readyObserver, sys) =>
    let (rssSampler, sys) := supervisor.rssSampler.poll (sys.now.1 - started) sys.now.2
    let (peakRssKib, sys) := rssSampler.finish sys
    (.ok
      { exitStatus := status.code
        timeToReadyMarkerMs := readyObserver.observedAt.map wholeMillis
        timedOut
        durationMs := wholeMillis (sys.now.1 - started)
        peakRssKib }, supervisor.child.drop sys.now.2)

/-- What becomes of an ended loop. -/
def superviseEnding (log : ℕ → Except ε Poll) (started : ℕ) :
    Ending ε × Supervisor × System ε → Except (SuperviseError ε) SupervisedExecution × System ε
  | (.failed error, supervisor, sys) => (.error error, supervisor.drop sys)
  | (.ended status timedOut, supervisor, sys) =>
    superviseEnd log started status timedOut supervisor sys

/-- `execute_bounded_qemu`, if its loop ends within the given number of rounds. -/
def executeBoundedQemu (log : ℕ → Except ε Poll) (timeout rounds : ℕ) (sys : System ε) :
    Option (Except (SuperviseError ε) SupervisedExecution × System ε) :=
  let started := sys.now.1
  match sys.now.2.spawn with
  | (.error e, sys) => some (.error (.start e), sys)
  | (.ok pid, sys) =>
    (superviseLoop log timeout started rounds ⟨.new pid, .new 1, .new⟩ sys).map
      (superviseEnding log started)

-- ════════════════════════════════════════════════════════════════════════
-- Guards end their children
-- ════════════════════════════════════════════════════════════════════════

section Guards

variable {guard guard' : ChildGuard} {sys sys' : System ε}

theorem drop_disarmed (h : guard.armed = false) (sys : System ε) : guard.drop sys = sys := by
  rw [ChildGuard.drop, h, if_neg Bool.false_ne_true]

theorem acts_guard_drop (guard : ChildGuard) (sys : System ε) :
    Acts guard.pid [] sys (guard.drop sys) := by
  unfold ChildGuard.drop
  split
  · exact (acts_kill guard.pid sys).trans (acts_wait guard.pid _)
  · exact .refl guard.pid sys

theorem not_live_guard_drop (h : guard.armed = true) (sys : System ε) :
    ¬Live (guard.drop sys).events guard.pid := by
  rw [ChildGuard.drop, if_pos h]
  exact not_live_wait (asked_kill guard.pid sys)

/-- Terminating a child collects its status, or leaves its guard as it was. -/
theorem terminate_cases (guard : ChildGuard) (sys : System ε) :
    ∃ sys', Acts guard.pid [] sys sys' ∧
      ((∃ e, guard.terminate sys = (.error e, guard, sys')) ∨
        ∃ status, guard.terminate sys = (.ok status, guard.disarm, sys') ∧
          .killed guard.pid ∈ sys'.events ∧ .reaped guard.pid ∈ sys'.events) := by
  have hacts := acts_kill guard.pid sys
  unfold ChildGuard.terminate
  rcases hkill : sys.kill guard.pid with ⟨e | ⟨⟩, sys₁⟩
  · rw [hkill] at hacts
    exact ⟨sys₁, hacts, Or.inl ⟨e, rfl⟩⟩
  · rw [hkill] at hacts
    have hacts' := acts_wait guard.pid sys₁
    rcases hwait : sys₁.wait guard.pid with ⟨e | status, sys₂⟩
    · rw [hwait] at hacts'
      exact ⟨sys₂, hacts.trans hacts', Or.inl ⟨e, by simp only [hwait]⟩⟩
    · rw [hwait] at hacts'
      exact ⟨sys₂, hacts.trans hacts', Or.inr ⟨status, by simp only [hwait],
        hacts'.subset (killed_of_kill hkill), reaped_of_wait hwait⟩⟩

/-- A terminated child is gone once its guard is dropped, even if a call failed. -/
theorem terminate_drop (h : guard.armed = true) (sys : System ε) :
    Acts guard.pid [] sys ((guard.terminate sys).2.1.drop (guard.terminate sys).2.2) ∧
      ¬Live ((guard.terminate sys).2.1.drop (guard.terminate sys).2.2).events guard.pid := by
  obtain ⟨sys', hacts, ⟨e, hterminate⟩ | ⟨status, hterminate, -, hreaped⟩⟩ :=
    terminate_cases guard sys
  · rw [hterminate]
    exact ⟨hacts.trans (acts_guard_drop guard sys'), not_live_guard_drop h sys'⟩
  · rw [hterminate]
    dsimp only
    rw [drop_disarmed rfl]
    exact ⟨hacts, fun hlive => hlive.unreaped hreaped⟩

end Guards

-- ════════════════════════════════════════════════════════════════════════
-- The sampler and its helpers
-- ════════════════════════════════════════════════════════════════════════

/-- Of the children besides the emulator, never more than one was live. -/
def Alone (qemu : ℕ) (events : List (Event ε)) : Prop :=
  ∀ before, before <+: events → ∀ p q, Live before p → Live before q → p ≠ qemu → q ≠ qemu → p = q

def peakOf (peak : Option ℕ) (read : List (Except ε Bytes)) : Option ℕ :=
  read.foldl (fun peak output => maxOption peak (parseRssOutput output)) peak

/-- What holds of the sampler between its calls. -/
structure Sampling (qemu : ℕ) (sampler : RssSampler) (sys : System ε) : Prop where
  guarded : ∀ process, sampler.process = some process →
    process.child.armed = true ∧ process.child.pid ≠ qemu ∧ process.child.pid < sys.processes
  owned : ∀ pid, Live sys.events pid →
    pid = qemu ∨ ∃ process, sampler.process = some process ∧ process.child.pid = pid
  known : ∀ event ∈ sys.events, event.pid < sys.processes
  qemu_lt : qemu < sys.processes
  alone : Alone qemu sys.events
  peak : sampler.peakKib = peakOf none (outputs sys.events)

/-- Nothing was done to the emulator meanwhile. -/
structure Spares (qemu : ℕ) (sys sys' : System ε) : Prop where
  mem_iff : ∀ event : Event ε, event.pid = qemu → (event ∈ sys'.events ↔ event ∈ sys.events)
  time : sys.time ≤ sys'.time

section Sampler

variable {qemu pid : ℕ} {sampler sampler' : RssSampler} {sys sys' sys₁ : System ε}
  {read : List (Except ε Bytes)}

theorem Spares.refl (qemu : ℕ) (sys : System ε) : Spares qemu sys sys :=
  ⟨fun _ _ => Iff.rfl, le_rfl⟩

theorem Spares.trans (h : Spares qemu sys sys₁) (h' : Spares qemu sys₁ sys') :
    Spares qemu sys sys' :=
  ⟨fun event hpid => (h'.mem_iff event hpid).trans (h.mem_iff event hpid), h.time.trans h'.time⟩

theorem spares_of_acts (h : Acts pid read sys sys') (hne : pid ≠ qemu) : Spares qemu sys sys' :=
  ⟨fun _ hpid => h.mem_of_ne fun heq => hne (heq.symm.trans hpid), h.time⟩

theorem peakOf_append (peak : Option ℕ) (read more : List (Except ε Bytes)) :
    peakOf peak (read ++ more) = peakOf (peakOf peak read) more := List.foldl_append

/-- Calls about one child keep the invariant, if the sampler lets go of its helper
only when that is gone, and merges what it reads. -/
theorem Sampling.step (h : Sampling qemu sampler sys) (hacts : Acts pid read sys sys')
    (hpid : pid < sys.processes) (hpeak : sampler'.peakKib = peakOf sampler.peakKib read)
    (hkeep : ∀ process, sampler'.process = some process → sampler.process = some process)
    (hgone : ∀ process, sampler.process = some process →
      sampler'.process = some process ∨ ¬Live sys'.events process.child.pid) :
    Sampling qemu sampler' sys' := by
  constructor
  case guarded =>
    intro process hprocess
    rw [hacts.processes]
    exact h.guarded process (hkeep process hprocess)
  case owned =>
    intro other hlive
    refine (h.owned other (hacts.live hlive)).imp_right ?_
    rintro ⟨process, hprocess, rfl⟩
    exact ⟨process, (hgone process hprocess).resolve_right fun hdead => hdead hlive, rfl⟩
  case known =>
    intro event hevent
    rw [hacts.processes]
    rcases hacts.mem hevent with hold | hnew
    · exact h.known event hold
    · rwa [hnew]
  case qemu_lt =>
    rw [hacts.processes]
    exact h.qemu_lt
  case alone =>
    intro before hbefore p q hp hq
    rcases hacts.live_before hbefore with hold | hlive
    · exact h.alone before hold p q hp hq
    · exact h.alone sys.events (List.prefix_refl _) p q (hlive p hp) (hlive q hq)
  case peak => rw [hpeak, h.peak, ← peakOf_append, hacts.outputs_eq]

theorem Sampling.act (h : Sampling qemu sampler sys) (hacts : Acts pid [] sys sys')
    (hpid : pid < sys.processes) : Sampling qemu sampler sys' :=
  h.step hacts hpid rfl (fun _ => id) fun _ => Or.inl

/-- The helper of the sampler is gone. -/
theorem Sampling.gone {process : SamplerProcess} (h : Sampling qemu sampler sys)
    (hprocess : sampler.process = some process) (hacts : Acts process.child.pid read sys sys')
    (hdead : ¬Live sys'.events process.child.pid) (hnone : sampler'.process = none)
    (hpeak : sampler'.peakKib = peakOf sampler.peakKib read) :
    Sampling qemu sampler' sys' ∧ Spares qemu sys sys' := by
  obtain ⟨-, hne, hlt⟩ := h.guarded process hprocess
  refine ⟨h.step hacts hlt hpeak ?_ ?_, spares_of_acts hacts hne⟩
  · intro process' hprocess'
    rw [hnone] at hprocess'
    cases hprocess'
  · intro process' hprocess'
    rw [hprocess, Option.some.injEq] at hprocess'
    exact Or.inr (hprocess' ▸ hdead)

theorem spares_pass (qemu least : ℕ) (sys : System ε) : Spares qemu sys (sys.pass least) :=
  spares_of_acts (acts_pass (qemu + 1) least sys) (Nat.succ_ne_self qemu)

/-- The state after a spawn. -/
def spawnedNext (sys : System ε) : System ε :=
  { (sys.pass 0).emit (.spawned sys.processes) with processes := sys.processes + 1 }

/-- A sampler without a helper starts the next child. -/
theorem Sampling.spawned (h : Sampling qemu sampler sys) (hnone : sampler.process = none)
    {process : SamplerProcess} (hprocess : process.child = .new sys.processes) :
    Sampling qemu { sampler with process := some process } (spawnedNext sys) := by
  have hpid : process.child.pid = sys.processes := by rw [hprocess]; rfl
  have howned : ∀ pid, Live (spawnedNext sys).events pid → pid = qemu ∨ pid = sys.processes := by
    intro pid hlive
    by_cases hnew : pid = sys.processes
    · exact Or.inr hnew
    · have hold : Live sys.events pid := hlive.of_append (by simpa using hnew)
      refine Or.inl ((h.owned pid hold).resolve_right ?_)
      rintro ⟨process, hsome, -⟩
      rw [hnone] at hsome
      cases hsome
  constructor
  case guarded =>
    rintro process' ⟨⟩
    rw [hprocess]
    exact ⟨rfl, h.qemu_lt.ne', Nat.lt_succ_self _⟩
  case owned =>
    intro pid hlive
    exact (howned pid hlive).imp_right fun hnew => ⟨process, rfl, hpid.trans hnew.symm⟩
  case known =>
    intro event hevent
    rcases List.mem_append.mp hevent with hold | hnew
    · exact Nat.lt_succ_of_lt (h.known event hold)
    · rw [List.mem_singleton.mp hnew]
      exact Nat.lt_succ_self _
  case qemu_lt => exact Nat.lt_succ_of_lt h.qemu_lt
  case alone =>
    intro before hbefore p q hp hq hpne hqne
    rcases List.prefix_concat_iff.mp hbefore with rfl | hold
    · rw [(howned p hp).resolve_left hpne, (howned q hq).resolve_left hqne]
    · exact h.alone before hold p q hp hq hpne hqne
  case peak =>
    have houtputs : outputs (spawnedNext sys).events = outputs sys.events ++ [] :=
      List.filterMap_append
    rw [houtputs, List.append_nil]
    exact h.peak

theorem spares_spawned (h : qemu < sys.processes) : Spares qemu sys (spawnedNext sys) where
  mem_iff event hpid := by
    have hne : event ≠ .spawned sys.processes := by
      rintro rfl
      exact h.ne hpid.symm
    exact List.mem_append.trans (or_iff_left (by simpa using hne))
  time := (spares_pass qemu 0 sys).time

theorem start_sampling (elapsed : ℕ) (h : Sampling qemu sampler sys) :
    Sampling qemu (sampler.start elapsed sys).1 (sampler.start elapsed sys).2 ∧
      Spares qemu sys (sampler.start elapsed sys).2 := by
  unfold RssSampler.start
  split
  · exact ⟨h, .refl qemu sys⟩
  · next hdue =>
    rcases spawn_cases sys with ⟨e, hspawn⟩ | hspawn
    · rw [hspawn]
      exact ⟨h.step (acts_pass qemu 0 sys) h.qemu_lt rfl (fun _ => id) fun _ => Or.inl,
        spares_pass qemu 0 sys⟩
    · rw [hspawn]
      have hnone : sampler.process = none := by
        simp only [Bool.or_eq_true, not_or, Option.not_isSome_iff_eq_none] at hdue
        exact hdue.1.1
      have hsampling : Sampling qemu
          { sampler with process := some ⟨.new sys.processes, (spawnedNext sys).now.1⟩ }
          (spawnedNext sys) := h.spawned hnone rfl
      exact ⟨hsampling.act (acts_pass qemu 0 _) hsampling.qemu_lt,
        (spares_spawned h.qemu_lt).trans (spares_pass qemu 0 _)⟩

theorem abandon_sampling (elapsed : ℕ) {process : SamplerProcess} (h : Sampling qemu sampler sys)
    (hprocess : sampler.process = some process) :
    Sampling qemu (sampler.abandon elapsed process sys).1 (sampler.abandon elapsed process sys).2 ∧
      Spares qemu sys (sampler.abandon elapsed process sys).2 := by
  obtain ⟨harmed, -, -⟩ := h.guarded process hprocess
  obtain ⟨hacts, hdead⟩ := terminate_drop harmed sys
  exact h.gone hprocess hacts hdead rfl rfl

/-- Collecting a helper that has ended, with its output. -/
theorem collect_acts {process : SamplerProcess} {status : ExitStatus}
    (h : sys.tryWait process.child.pid = (.ok (some status), sys₁)) :
    Acts process.child.pid [(sys₁.readOutput process.child.pid).1] sys
        (sys₁.readOutput process.child.pid).2 ∧
      ¬Live (sys₁.readOutput process.child.pid).2.events process.child.pid := by
  have hacts := acts_tryWait process.child.pid sys
  rw [h] at hacts
  have hread := acts_readOutput process.child.pid sys₁
  exact ⟨hacts.trans hread, fun hlive => hlive.unreaped (hread.subset (reaped_of_tryWait h))⟩

theorem poll_sampling (elapsed : ℕ) (h : Sampling qemu sampler sys) :
    Sampling qemu (sampler.poll elapsed sys).1 (sampler.poll elapsed sys).2 ∧
      Spares qemu sys (sampler.poll elapsed sys).2 := by
  unfold RssSampler.poll
  split
  · exact start_sampling elapsed h
  · next process hprocess =>
    obtain ⟨-, hne, hlt⟩ := h.guarded process hprocess
    have hwait := acts_tryWait process.child.pid sys
    split
    · next status sys₁ heq =>
      obtain ⟨hacts, hdead⟩ := collect_acts heq
      let sampled : RssSampler :=
        { sampler with
          process := none
          nextSample := saturatingAddDuration elapsed rssSampleInterval
          peakKib := maxOption sampler.peakKib
            (parseRssOutput (sys₁.readOutput process.child.pid).1) }
      obtain ⟨hsampling, hspares⟩ :
          Sampling qemu sampled (sys₁.readOutput process.child.pid).2 ∧ _ :=
        h.gone hprocess hacts hdead rfl rfl
      obtain ⟨hstarted, hspares'⟩ := start_sampling elapsed hsampling
      exact ⟨hstarted, hspares.trans hspares'⟩
    · next sys₁ heq =>
      rw [heq] at hwait
      have hacts := hwait.trans (acts_pass process.child.pid 0 sys₁)
      have hspares := spares_of_acts hacts hne
      split
      · exact ⟨h.act hacts hlt, hspares⟩
      · obtain ⟨hsampling, hspares'⟩ := abandon_sampling elapsed (h.act hacts hlt) hprocess
        exact ⟨hsampling, hspares.trans hspares'⟩
    · next e sys₁ heq =>
      rw [heq] at hwait
      obtain ⟨hsampling, hspares⟩ := abandon_sampling elapsed (h.act hwait hlt) hprocess
      exact ⟨hsampling, (spares_of_acts hwait hne).trans hspares⟩

theorem drop_sampling (h : Sampling qemu sampler sys) :
    Sampling qemu { sampler with process := none } (sampler.drop sys) ∧
      Spares qemu sys (sampler.drop sys) := by
  unfold RssSampler.drop
  split
  · next hnone => exact ⟨hnone ▸ h, .refl qemu sys⟩
  · next process hprocess =>
    obtain ⟨harmed, -, -⟩ := h.guarded process hprocess
    exact h.gone hprocess (acts_guard_drop process.child sys) (not_live_guard_drop harmed sys)
      rfl rfl

theorem finish_sampling (h : Sampling qemu sampler sys) :
    Sampling qemu { sampler with process := none, peakKib := (sampler.finish sys).1 }
        (sampler.finish sys).2 ∧
      Spares qemu sys (sampler.finish sys).2 := by
  unfold RssSampler.finish
  split
  · next hnone => exact ⟨hnone ▸ h, .refl qemu sys⟩
  · next process hprocess =>
    obtain ⟨harmed, hne, hlt⟩ := h.guarded process hprocess
    have hwait := acts_tryWait process.child.pid sys
    split
    · next status sys₁ heq =>
      obtain ⟨hacts, hdead⟩ := collect_acts heq
      exact h.gone hprocess hacts hdead rfl rfl
    · next answer sys₁ _ heq =>
      rw [heq] at hwait
      obtain ⟨hacts, hdead⟩ := terminate_drop harmed sys₁
      exact h.gone hprocess (hwait.trans hacts) hdead rfl rfl

end Sampler

-- ════════════════════════════════════════════════════════════════════════
-- The supervisor
-- ════════════════════════════════════════════════════════════════════════

/-- What holds while the emulator is supervised. -/
structure Supervised (qemu : ℕ) (supervisor : Supervisor) (sys : System ε) : Prop where
  child : supervisor.child = .new qemu
  sampling : Sampling qemu supervisor.rssSampler sys

/-- What holds once the emulator has ended. -/
structure Collected (qemu deadline : ℕ) (timedOut : Bool) (supervisor : Supervisor)
    (sys : System ε) : Prop where
  child : supervisor.child.armed = false
  sampling : Sampling qemu supervisor.rssSampler sys
  reaped : .reaped qemu ∈ sys.events
  killed : .killed qemu ∈ sys.events ↔ timedOut = true
  late : timedOut = true → deadline ≤ sys.time

/-- What a round leaves, and how it moves the clock. -/
def Leaves (qemu timeout started : ℕ) (sys : System ε) :
    Option (Ending ε) × Supervisor × System ε → Prop
  | (none, supervisor, sys') => Supervised qemu supervisor sys' ∧ .killed qemu ∉ sys'.events ∧
      sys.time < started + timeout ∧ sys.time + pollInterval ≤ sys'.time
  | (some (.failed _), supervisor, sys') => Supervised qemu supervisor sys'
  | (some (.ended _ timedOut), supervisor, sys') =>
    Collected qemu (started + timeout) timedOut supervisor sys'

/-- No child is left, and there was never more than one helper. -/
structure Settled (qemu : ℕ) (sys : System ε) : Prop where
  ended : ∀ pid, ¬Live sys.events pid
  alone : Alone qemu sys.events

/-- The report says what happened: the emulator was collected, it was killed
exactly if its time was over, and the peak is that of the samples read. -/
structure Faithful (qemu timeout : ℕ) (execution : SupervisedExecution) (sys : System ε) :
    Prop where
  reaped : .reaped qemu ∈ sys.events
  killed : execution.timedOut = true ↔ .killed qemu ∈ sys.events
  peak : execution.peakRssKib = peakOf none (outputs sys.events)
  duration : execution.timedOut = true → wholeMillis timeout ≤ execution.durationMs

section Loop

variable {qemu timeout started : ℕ} {supervisor : Supervisor} {sys : System ε}
  {log : ℕ → Except ε Poll}

theorem acts_observe (pid : ℕ) (log : ℕ → Except ε Poll) (started : ℕ)
    (observer : ReadyMarkerObserver) (sys : System ε) :
    Acts pid [] sys (observe log started observer sys).2 := by
  unfold observe
  split
  · exact .refl pid sys
  · split
    · exact acts_pass pid 0 sys
    · split
      · exact (acts_pass pid 0 sys).trans (acts_pass pid 0 _)
      · exact acts_pass pid 0 sys

theorem superviseRound_leaves (log : ℕ → Except ε Poll) (timeout : ℕ)
    (hstarted : started ≤ sys.time) (h : Supervised qemu supervisor sys)
    (hkilled : .killed qemu ∉ sys.events) :
    Leaves qemu timeout started sys (superviseRound log timeout started supervisor sys) := by
  have hqemu : supervisor.child.pid = qemu := by rw [h.child]; rfl
  have hlt := h.sampling.qemu_lt
  have hnow : sys.time ≤ sys.now.1 := (acts_pass qemu 0 sys).time
  unfold superviseRound
  have hacts := (acts_pass qemu 0 sys).trans
    (acts_observe qemu log started supervisor.readyObserver sys.now.2)
  have hspares := (spares_pass qemu 0 sys).trans (spares_of_acts
    (acts_observe (qemu + 1) log started supervisor.readyObserver sys.now.2)
    (Nat.succ_ne_self qemu))
  have htime := (acts_observe qemu log started supervisor.readyObserver sys.now.2).time
  rcases hobserve : observe log started supervisor.readyObserver sys.now.2 with
    ⟨e | readyObserver, sys₁⟩
  all_goals
    rw [hobserve] at hacts hspares htime
    have hsampling := h.sampling.act hacts hlt
    have hunkilled : .killed qemu ∉ sys₁.events := fun hmem =>
      hkilled ((hspares.mem_iff _ rfl).mp hmem)
  · exact ⟨h.child, hsampling⟩
  · simp only [hqemu]
    have hwait := acts_tryWait qemu sys₁
    have hkept : .killed qemu ∈ (sys₁.tryWait qemu).2.events ↔ .killed qemu ∈ sys₁.events :=
      killed_tryWait sys₁
    rcases htry : sys₁.tryWait qemu with ⟨e | ⟨_ | status⟩, sys₂⟩
    all_goals
      rw [htry] at hwait hkept
      have hsampling' := hsampling.act hwait hsampling.qemu_lt
    · exact ⟨h.child, hsampling'⟩
    · dsimp only
      split
      · next hover =>
        have hlate : started + timeout ≤ sys₂.time := by
          have hclock : sys.now.1 ≤ sys₂.time := htime.trans hwait.time
          omega
        obtain ⟨sys₃, hacts₃, ⟨e, hterminate⟩ | ⟨status, hterminate, hmem, hreaped⟩⟩ :=
          terminate_cases supervisor.child sys₂
        all_goals
          rw [hqemu] at hacts₃
          have hsampling₃ := hsampling'.act hacts₃ hsampling'.qemu_lt
          rw [hterminate]
        · exact ⟨h.child, hsampling₃⟩
        · exact ⟨rfl, hsampling₃, hqemu ▸ hreaped, iff_of_true (hqemu ▸ hmem) rfl,
            fun _ => hlate.trans hacts₃.time⟩
      · next hover =>
        obtain ⟨hpolled, hspared⟩ := poll_sampling (sys.now.1 - started) hsampling'
        refine ⟨⟨h.child, hpolled.act (acts_pass qemu _ _) hpolled.qemu_lt⟩, ?_, by omega, ?_⟩
        · exact fun hmem => hunkilled (hkept.mp ((hspared.mem_iff _ rfl).mp hmem))
        · have hclock : sys.time ≤ _ := (hacts.time.trans hwait.time).trans hspared.time
          exact (Nat.add_le_add_right hclock _).trans (Nat.le_add_right _ _)
    · refine ⟨rfl, hsampling', reaped_of_tryWait htry, ?_, nofun⟩
      exact iff_of_false (fun hmem => hunkilled (hkept.mp hmem)) nofun

theorem superviseLoop_leaves (log : ℕ → Except ε Poll) (timeout rounds : ℕ)
    (hstarted : started ≤ sys.time) (h : Supervised qemu supervisor sys)
    (hkilled : .killed qemu ∉ sys.events) {ending : Ending ε} {supervisor' : Supervisor}
    {sys' : System ε}
    (hloop : superviseLoop log timeout started rounds supervisor sys =
      some (ending, supervisor', sys')) :
    Leaves qemu timeout started sys (some ending, supervisor', sys') := by
  induction rounds generalizing supervisor sys with
  | zero => cases hloop
  | succ rounds ih =>
    have hround := superviseRound_leaves log timeout hstarted h hkilled
    rw [superviseLoop] at hloop
    rcases hstep : superviseRound log timeout started supervisor sys with
      ⟨_ | ending₁, supervisor₁, sys₁⟩
    all_goals rw [hstep] at hround hloop
    · obtain ⟨hsupervised, hunkilled, -, htime⟩ := hround
      have hleaves := ih (hstarted.trans ((Nat.le_add_right _ _).trans htime)) hsupervised hunkilled
        hloop
      cases ending with
      | ended => exact hleaves
      | failed => exact hleaves
    · cases hloop
      exact hround

/-- Every round that goes on brings the deadline nearer. -/
theorem superviseLoop_isSome (log : ℕ → Except ε Poll) (timeout rounds : ℕ)
    (hstarted : started ≤ sys.time) (h : Supervised qemu supervisor sys)
    (hkilled : .killed qemu ∉ sys.events)
    (hrounds : started + timeout ≤ sys.time + rounds * pollInterval) :
    (superviseLoop log timeout started (rounds + 1) supervisor sys).isSome := by
  induction rounds generalizing supervisor sys with
  | zero =>
    have hround := superviseRound_leaves log timeout hstarted h hkilled
    rw [superviseLoop]
    rcases hstep : superviseRound log timeout started supervisor sys with
      ⟨_ | ending₁, supervisor₁, sys₁⟩
    · rw [hstep] at hround
      obtain ⟨-, -, hearly, -⟩ := hround
      omega
    · rfl
  | succ rounds ih =>
    have hround := superviseRound_leaves log timeout hstarted h hkilled
    rw [superviseLoop]
    rcases hstep : superviseRound log timeout started supervisor sys with
      ⟨_ | ending₁, supervisor₁, sys₁⟩
    · rw [hstep] at hround
      obtain ⟨hsupervised, hunkilled, -, htime⟩ := hround
      refine ih (hstarted.trans ((Nat.le_add_right _ _).trans htime)) hsupervised hunkilled ?_
      rw [Nat.succ_mul] at hrounds
      omega
    · rfl

theorem Sampling.settled {sampler : RssSampler} (h : Sampling qemu sampler sys)
    (hnone : sampler.process = none) (hdead : ¬Live sys.events qemu) : Settled qemu sys := by
  refine ⟨fun pid hlive => ?_, h.alone⟩
  rcases h.owned pid hlive with rfl | ⟨process, hsome, -⟩
  · exact hdead hlive
  · rw [hnone] at hsome
    cases hsome

theorem Supervised.drop_settled (h : Supervised qemu supervisor sys) :
    Settled qemu (supervisor.drop sys) := by
  obtain ⟨hsampling, -⟩ := drop_sampling h.sampling
  rw [Supervisor.drop, h.child]
  exact (hsampling.act (acts_guard_drop (.new qemu) _) hsampling.qemu_lt).settled rfl
    (not_live_guard_drop rfl _)

theorem Collected.drop_settled {deadline : ℕ} {timedOut : Bool}
    (h : Collected qemu deadline timedOut supervisor sys) :
    Settled qemu (supervisor.drop sys) := by
  obtain ⟨hsampling, hspares⟩ := drop_sampling h.sampling
  rw [Supervisor.drop, drop_disarmed h.child]
  exact hsampling.settled rfl fun hlive => hlive.unreaped ((hspares.mem_iff _ rfl).mpr h.reaped)

theorem Collected.of_spares {deadline : ℕ} {timedOut : Bool} {sys' : System ε}
    (h : Collected qemu deadline timedOut supervisor sys) {sampler : RssSampler}
    (hsampling : Sampling qemu sampler sys') (hspares : Spares qemu sys sys') :
    Collected qemu deadline timedOut { supervisor with rssSampler := sampler } sys' where
  child := h.child
  sampling := hsampling
  reaped := (hspares.mem_iff _ rfl).mpr h.reaped
  killed := (hspares.mem_iff _ rfl).trans h.killed
  late htimedOut := (h.late htimedOut).trans hspares.time

theorem wholeMillis_eq (nanos : ℕ) :
    wholeMillis nanos = min (nanos / nanosPerMilli) (2 ^ 64 - 1) := getD_checkedSize _

/-- Calls that concern no child keep the invariant. -/
theorem Collected.idle {deadline : ℕ} {timedOut : Bool} {sys' : System ε}
    (h : Collected qemu deadline timedOut supervisor sys) (hacts : ∀ pid, Acts pid [] sys sys') :
    Collected qemu deadline timedOut supervisor sys' :=
  h.of_spares (h.sampling.act (hacts qemu) h.sampling.qemu_lt)
    (spares_of_acts (hacts (qemu + 1)) (Nat.succ_ne_self qemu))

/-- What the caller gets, once the emulator has ended. -/
theorem superviseEnd_spec (log : ℕ → Except ε Poll) (status : ExitStatus) {timedOut : Bool}
    (h : Collected qemu (started + timeout) timedOut supervisor sys)
    {result : Except (SuperviseError ε) SupervisedExecution} {sys' : System ε}
    (hend : superviseEnd log started status timedOut supervisor sys = (result, sys')) :
    Settled qemu sys' ∧
      ∀ execution, result = .ok execution → Faithful qemu timeout execution sys' := by
  unfold superviseEnd at hend
  have hacts := fun pid => acts_observe pid log started supervisor.readyObserver sys
  rcases hobserve : observe log started supervisor.readyObserver sys with ⟨e | readyObserver, sys₁⟩
  all_goals
    rw [hobserve] at hacts hend
    have hcollected := h.idle hacts
    obtain ⟨rfl, rfl⟩ := Prod.mk.inj hend
  · exact ⟨hcollected.drop_settled, nofun⟩
  · -- the last poll of the sampler, its end, and the last look at the clock
    obtain ⟨hpolled, hspares⟩ :=
      poll_sampling (sys₁.now.1 - started)
        (hcollected.idle fun pid => acts_pass pid 0 sys₁).sampling
    obtain ⟨hfinished, hspares'⟩ := finish_sampling hpolled
    have hlast := ((hcollected.idle fun pid => acts_pass pid 0 sys₁).of_spares hfinished
      (hspares.trans hspares')).idle fun pid => acts_pass pid 0 _
    rw [drop_disarmed h.child]
    refine ⟨hlast.sampling.settled rfl fun hlive => hlive.unreaped hlast.reaped, ?_⟩
    rintro execution ⟨⟩
    refine ⟨hlast.reaped, hlast.killed.symm, hlast.sampling.peak, fun htimedOut => ?_⟩
    rw [wholeMillis_eq, wholeMillis_eq]
    have hlate := hlast.late htimedOut
    refine min_le_min_right _ (Nat.div_le_div_right ?_)
    exact Nat.le_sub_of_add_le (by rwa [Nat.add_comm])

/-- The emulator is the first child. -/
theorem supervised_initial (environment : Environment ε) :
    Supervised 0 ⟨.new 0, .new 1, .new⟩ (spawnedNext (System.initial environment).now.2) where
  child := rfl
  sampling := by
    have hfirst : ∀ {before : List (Event ε)} {pid : ℕ}, before <+: [.spawned 0] →
        Live before pid → pid = 0 := by
      intro before pid hbefore hlive
      cases List.mem_singleton.mp (hbefore.subset hlive.spawned)
      rfl
    constructor
    case guarded => exact nofun
    case owned => exact fun pid hlive => Or.inl (hfirst (List.prefix_refl _) hlive)
    case known =>
      intro event hevent
      rw [List.mem_singleton.mp hevent]
      exact Nat.one_pos
    case qemu_lt => exact Nat.one_pos
    case alone =>
      intro before hbefore p q hp _ hpne _
      exact absurd (hfirst hbefore hp) hpne
    case peak => rfl

theorem started_initial (environment : Environment ε) :
    (System.initial environment).now.1 ≤ (spawnedNext (System.initial environment).now.2).time :=
  (spares_pass 0 0 _).time

theorem killed_initial (environment : Environment ε) :
    .killed 0 ∉ (spawnedNext (System.initial environment).now.2).events :=
  fun hmem => nomatch List.mem_singleton.mp hmem

/-- Either the emulator could not be started, or the loop decides. -/
theorem executeBoundedQemu_cases (log : ℕ → Except ε Poll) (timeout rounds : ℕ)
    (environment : Environment ε) :
    (∃ e sys, executeBoundedQemu log timeout rounds (.initial environment) =
        some (.error (.start e), sys) ∧ sys.events = []) ∨
      executeBoundedQemu log timeout rounds (.initial environment) =
        (superviseLoop log timeout (System.initial environment).now.1 rounds
          ⟨.new 0, .new 1, .new⟩ (spawnedNext (System.initial environment).now.2)).map
          (superviseEnding log (System.initial environment).now.1) := by
  unfold executeBoundedQemu
  rcases spawn_cases (System.initial environment).now.2 with ⟨e, hspawn⟩ | hspawn
  · rw [hspawn]
    exact Or.inl ⟨e, _, rfl, rfl⟩
  · rw [hspawn]
    exact Or.inr rfl

theorem executeBoundedQemu_spec {environment : Environment ε} {rounds : ℕ}
    {result : Except (SuperviseError ε) SupervisedExecution} {sys' : System ε}
    (h : executeBoundedQemu log timeout rounds (.initial environment) = some (result, sys')) :
    Settled 0 sys' ∧ ∀ execution, result = .ok execution → Faithful 0 timeout execution sys' := by
  rcases executeBoundedQemu_cases log timeout rounds environment with
    ⟨e, sys, hrun, hevents⟩ | hrun
  · rw [hrun] at h
    cases h
    have hdead : ∀ {before : List (Event ε)} {pid : ℕ},
        before <+: sys'.events → ¬Live before pid := by
      intro before pid hbefore hlive
      rw [hevents] at hbefore
      cases hbefore.subset hlive.spawned
    exact ⟨⟨fun pid => hdead (List.prefix_refl _), fun before hbefore p q hp =>
      absurd hp (hdead hbefore)⟩, nofun⟩
  · rw [hrun] at h
    obtain ⟨⟨ending, supervisor, sys⟩, hloop, hending⟩ := Option.map_eq_some_iff.mp h
    have hleaves := superviseLoop_leaves log timeout rounds (started_initial environment)
      (supervised_initial environment) (killed_initial environment) hloop
    cases ending with
    | ended status timedOut => exact superviseEnd_spec log status hleaves hending
    | failed error =>
      cases hending
      exact ⟨hleaves.drop_settled, nofun⟩

theorem peakOf_eq (peak : Option ℕ) (read : List (Except ε Bytes)) :
    peakOf peak read = maxOption peak (read.filterMap parseRssOutput).max? := by
  induction read generalizing peak with
  | nil => cases peak <;> rfl
  | cons output read ih =>
    rw [peakOf, List.foldl_cons]
    refine (ih _).trans ?_
    cases hsample : parseRssOutput output with
    | none =>
      rw [List.filterMap_cons_none hsample]
      cases peak <;> rfl
    | some sample =>
      rw [List.filterMap_cons_some hsample, List.max?_cons]
      cases (read.filterMap parseRssOutput).max? <;> cases peak <;> simp [maxOption, max_assoc]

end Loop

-- ════════════════════════════════════════════════════════════════════════
-- Main results
-- ════════════════════════════════════════════════════════════════════════

/-- Whatever the operating system answers, when `execute_bounded_qemu` returns,
with a result or with an error, the status of every child was collected, unless
the wait for it was refused, and then it had been asked to die. At no time was
there more than one helper that was not given up in this way. A result is given
only for an emulator whose status was collected; it says "timed out" exactly if
the emulator was killed, and its peak is the greatest of the samples read. -/
theorem supervision_leaves_no_child (environment : Environment ε) (log : ℕ → Except ε Poll)
    (timeout rounds : ℕ) {result : Except (SuperviseError ε) SupervisedExecution} {sys : System ε}
    (h : executeBoundedQemu log timeout rounds (.initial environment) = some (result, sys)) :
    (∀ pid, .spawned pid ∈ sys.events → .reaped pid ∈ sys.events ∨ GivenUp sys.events pid) ∧
      Alone 0 sys.events ∧
      ∀ execution, result = .ok execution →
        .reaped 0 ∈ sys.events ∧ (execution.timedOut = true ↔ .killed 0 ∈ sys.events) ∧
        execution.peakRssKib = ((outputs sys.events).filterMap parseRssOutput).max? := by
  obtain ⟨hsettled, hfaithful⟩ := executeBoundedQemu_spec h
  refine ⟨fun pid => collected_or_givenUp (hsettled.ended pid), hsettled.alone, ?_⟩
  intro execution hresult
  have hexecution := hfaithful execution hresult
  refine ⟨hexecution.reaped, hexecution.killed, hexecution.peak.trans ?_⟩
  rw [peakOf_eq]
  cases ((outputs sys.events).filterMap parseRssOutput).max? <;> rfl

/-- An emulator that hangs and a helper that prints a size; no call takes time. -/
def hungEnvironment : Environment Unit where
  pause := fun _ => 0
  spawn := fun _ => .ok ()
  tryWait := fun call => .ok (if call = 11 then some ⟨some 0⟩ else none)
  kill := fun _ => .ok ()
  wait := fun _ => .ok ⟨none⟩
  output := fun _ => .ok (ascii " 8192" ++ [10])

/-- The same, and the operating system refuses to kill and to wait. -/
def deafEnvironment : Environment Unit :=
  { hungEnvironment with
    kill := fun _ => .error ()
    wait := fun _ => .error () }

def isReaped (pid : ℕ) : Event Unit → Bool
  | .reaped other => other = pid
  | _ => false

theorem supervision_leaves_no_child_hung :
    (∃ execution sys, executeBoundedQemu (fun _ => .ok ⟨none, id⟩) (10 * nanosPerMilli) 4
        (.initial hungEnvironment) = some (.ok execution, sys) ∧
      execution.timedOut = true ∧ execution.peakRssKib = some 8192 ∧
      .killed 0 ∈ sys.events ∧ .reaped 0 ∈ sys.events) ∧
    ∃ error sys, executeBoundedQemu (fun _ => .ok ⟨none, id⟩) (10 * nanosPerMilli) 4
        (.initial deafEnvironment) = some (.error (.terminate error), sys) ∧
      .reaped 0 ∉ sys.events ∧ GivenUp sys.events 0 := by
  constructor
  · obtain ⟨execution, sys, hrun, htimedOut, hpeak⟩ : ∃ execution sys,
        executeBoundedQemu (fun _ => .ok ⟨none, id⟩) (10 * nanosPerMilli) 4
          (.initial hungEnvironment) = some (.ok execution, sys) ∧
        execution.timedOut = true ∧ execution.peakRssKib = some 8192 :=
      ⟨_, _, rfl, rfl, by decide +kernel⟩
    obtain ⟨hreaped, hkilled, -⟩ :=
      (supervision_leaves_no_child hungEnvironment _ _ 4 hrun).2.2 execution rfl
    exact ⟨execution, sys, hrun, htimedOut, hpeak, hkilled.mp htimedOut, hreaped⟩
  · obtain ⟨error, sys, hrun, hspawned, hunreaped⟩ : ∃ error sys,
        executeBoundedQemu (fun _ => .ok ⟨none, id⟩) (10 * nanosPerMilli) 4
          (.initial deafEnvironment) = some (.error (.terminate error), sys) ∧
        .spawned 0 ∈ sys.events ∧ sys.events.any (isReaped 0) = false :=
      ⟨_, _, rfl, List.mem_cons_self .., by decide +kernel⟩
    have hnot : .reaped 0 ∉ sys.events := by
      intro hmem
      rw [List.any_eq_true.mpr ⟨_, hmem, by decide⟩] at hunreaped
      cases hunreaped
    have hends := (supervision_leaves_no_child deafEnvironment _ _ 4 hrun).1 0 hspawned
    exact ⟨error, sys, hrun, hnot, hends.resolve_left hnot⟩

theorem executeBoundedQemu_returns (environment : Environment ε) (log : ℕ → Except ε Poll)
    (timeout : ℕ) {rounds : ℕ} (hrounds : timeout / pollInterval + 2 ≤ rounds) :
    ∃ result sys, executeBoundedQemu log timeout rounds (.initial environment) =
      some (result, sys) := by
  rcases executeBoundedQemu_cases log timeout rounds environment with ⟨e, sys, hrun, -⟩ | hrun
  · exact ⟨_, sys, hrun⟩
  · cases rounds with
    | zero => exact absurd hrounds (Nat.not_succ_le_zero _)
    | succ n =>
      have hdeadline : timeout ≤ n * pollInterval :=
        calc timeout ≤ pollInterval * (timeout / pollInterval + 1) :=
              (Nat.lt_mul_div_succ timeout (by decide)).le
          _ ≤ pollInterval * n := Nat.mul_le_mul_left _ (Nat.le_of_succ_le_succ hrounds)
          _ = n * pollInterval := Nat.mul_comm _ _
      have hstarted := started_initial environment
      have hloop := superviseLoop_isSome log timeout n hstarted (supervised_initial environment)
        (killed_initial environment) (Nat.add_le_add hstarted hdeadline)
      obtain ⟨ended, hended⟩ := Option.isSome_iff_exists.mp hloop
      rw [hrun, hended]
      exact ⟨_, _, rfl⟩

/-- `execute_bounded_qemu`: its loop ends within the rounds that fit into the
timeout, and one more. -/
def supervise (log : ℕ → Except ε Poll) (timeout : ℕ) (environment : Environment ε) :
    Except (SuperviseError ε) SupervisedExecution × System ε :=
  (executeBoundedQemu log timeout (timeout / pollInterval + 2) (.initial environment)).get
    (by obtain ⟨_, _, h⟩ := executeBoundedQemu_returns environment log timeout le_rfl
        rw [h, Option.isSome_some])

end PolytopeOS.Host
