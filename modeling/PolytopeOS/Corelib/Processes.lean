import PolytopeOS.Corelib.LittleEndian
import Mathlib.Data.List.Infix

/-!
# Child processes

A parent starts children, polls, kills and waits for them, reads their output and
asks for the time. The world answers as it likes; what the parent did is kept as
a list of events. A child is live from its start until its status was collected,
or until the parent gave it up: a wait for it failed after it was asked to die.
-/

namespace Corelib.Processes

structure ExitStatus where
  code : Option ℤ
  deriving DecidableEq, Repr

inductive Event (ε : Type) where
  | spawned (pid : ℕ)
  | killed (pid : ℕ)
  /-- The child was to be killed, and the world refused. -/
  | refused (pid : ℕ)
  | reaped (pid : ℕ)
  /-- A wait for the child failed. -/
  | lost (pid : ℕ)
  | output (pid : ℕ) (bytes : Except ε Bytes)

def Event.pid {ε : Type} : Event ε → ℕ
  | .spawned pid => pid
  | .killed pid => pid
  | .refused pid => pid
  | .reaped pid => pid
  | .lost pid => pid
  | .output pid _ => pid

/-- The answers of the world by the number of the call, and the time that passes
at it. -/
structure Environment (ε : Type) where
  pause : ℕ → ℕ
  spawn : ℕ → Except ε Unit
  tryWait : ℕ → Except ε (Option ExitStatus)
  kill : ℕ → Except ε Unit
  wait : ℕ → Except ε ExitStatus
  output : ℕ → Except ε Bytes

structure System (ε : Type) where
  environment : Environment ε
  calls : ℕ
  time : ℕ
  processes : ℕ
  events : List (Event ε)

variable {ε : Type}

def System.initial (environment : Environment ε) : System ε := ⟨environment, 0, 0, 0, []⟩

namespace System

/-- A call that takes at least the given time. -/
def pass (least : ℕ) (sys : System ε) : System ε :=
  { sys with
    calls := sys.calls + 1
    time := sys.time + least + sys.environment.pause sys.calls }

def emit (event : Event ε) (sys : System ε) : System ε :=
  { sys with events := sys.events ++ [event] }

/-- The monotonic clock. -/
def now (sys : System ε) : ℕ × System ε := ((sys.pass 0).time, sys.pass 0)

def sleep (duration : ℕ) (sys : System ε) : System ε := sys.pass duration

/-- Start a child, and get its number. -/
def spawn (sys : System ε) : Except ε ℕ × System ε :=
  match sys.environment.spawn sys.calls with
  | .ok () =>
    (.ok sys.processes,
      { (sys.pass 0).emit (.spawned sys.processes) with processes := sys.processes + 1 })
  | .error e => (.error e, sys.pass 0)

/-- Collect the status of a child that has ended. -/
def tryWait (pid : ℕ) (sys : System ε) : Except ε (Option ExitStatus) × System ε :=
  match sys.environment.tryWait sys.calls with
  | .ok (some status) => (.ok (some status), (sys.pass 0).emit (.reaped pid))
  | .ok none => (.ok none, sys.pass 0)
  | .error e => (.error e, sys.pass 0)

def kill (pid : ℕ) (sys : System ε) : Except ε Unit × System ε :=
  match sys.environment.kill sys.calls with
  | .ok () => (.ok (), (sys.pass 0).emit (.killed pid))
  | .error e => (.error e, (sys.pass 0).emit (.refused pid))

/-- Block until a child has ended. -/
def wait (pid : ℕ) (sys : System ε) : Except ε ExitStatus × System ε :=
  match sys.environment.wait sys.calls with
  | .ok status => (.ok status, (sys.pass 0).emit (.reaped pid))
  | .error e => (.error e, (sys.pass 0).emit (.lost pid))

/-- Read the output of a child to its end. -/
def readOutput (pid : ℕ) (sys : System ε) : Except ε Bytes × System ε :=
  (sys.environment.output sys.calls,
    (sys.pass 0).emit (.output pid (sys.environment.output sys.calls)))

end System

-- ════════════════════════════════════════════════════════════════════════
-- Live children
-- ════════════════════════════════════════════════════════════════════════

/-- The child was killed, or was to be killed. -/
def Asked (events : List (Event ε)) (pid : ℕ) : Prop :=
  .killed pid ∈ events ∨ .refused pid ∈ events

/-- A wait for the child failed after it was asked to die. -/
def GivenUp (events : List (Event ε)) (pid : ℕ) : Prop :=
  ∃ before, before ++ [.lost pid] <+: events ∧ Asked before pid

structure Live (events : List (Event ε)) (pid : ℕ) : Prop where
  spawned : .spawned pid ∈ events
  unreaped : .reaped pid ∉ events
  kept : ¬GivenUp events pid

variable {events more : List (Event ε)} {pid other : ℕ} {sys sys₁ sys₂ : System ε}

theorem GivenUp.append (h : GivenUp events pid) (more : List (Event ε)) :
    GivenUp (events ++ more) pid := by
  obtain ⟨before, hbefore, hasked⟩ := h
  exact ⟨before, hbefore.trans (List.prefix_append _ _), hasked⟩

/-- A child that is not live any more was collected or given up. -/
theorem collected_or_givenUp (h : ¬Live events pid) (hspawned : .spawned pid ∈ events) :
    .reaped pid ∈ events ∨ GivenUp events pid := by
  by_contra hneither
  rw [not_or] at hneither
  exact h ⟨hspawned, hneither.1, hneither.2⟩

/-- A child comes to life only by a spawn. -/
theorem Live.of_append (h : Live (events ++ more) pid) (hmore : .spawned pid ∉ more) :
    Live events pid where
  spawned := (List.mem_append.mp h.spawned).resolve_right hmore
  unreaped hreaped := h.unreaped (List.mem_append_left more hreaped)
  kept hgivenUp := h.kept (hgivenUp.append more)

/-- The outputs that were read. -/
def outputs (events : List (Event ε)) : List (Except ε Bytes) :=
  events.filterMap fun event =>
    match event with
    | .output _ bytes => some bytes
    | _ => none

/-- Calls about one child, none of which starts it, and the outputs they read. -/
structure Acts (pid : ℕ) (read : List (Except ε Bytes)) (sys sys' : System ε) : Prop where
  events : ∃ more, sys'.events = sys.events ++ more ∧ outputs more = read ∧
    ∀ event ∈ more, event.pid = pid ∧ event ≠ .spawned pid
  processes : sys'.processes = sys.processes
  time : sys.time ≤ sys'.time

variable {read read' : List (Except ε Bytes)}

theorem Acts.refl (pid : ℕ) (sys : System ε) : Acts pid [] sys sys where
  events := ⟨[], (List.append_nil _).symm, rfl, nofun⟩
  processes := rfl
  time := le_rfl

theorem Acts.trans (h : Acts pid read sys sys₁) (h' : Acts pid read' sys₁ sys₂) :
    Acts pid (read ++ read') sys sys₂ := by
  obtain ⟨more, hmore, hread, hall⟩ := h.events
  obtain ⟨more', hmore', hread', hall'⟩ := h'.events
  refine ⟨⟨more ++ more', ?_, ?_, ?_⟩, h'.processes.trans h.processes, h.time.trans h'.time⟩
  · rw [hmore', hmore, List.append_assoc]
  · rw [outputs, List.filterMap_append]
    exact congrArg₂ (· ++ ·) hread hread'
  · exact List.forall_mem_append.mpr ⟨hall, hall'⟩

theorem Acts.outputs_eq (h : Acts pid read sys sys₁) :
    outputs sys₁.events = outputs sys.events ++ read := by
  obtain ⟨more, hmore, hread, -⟩ := h.events
  rw [hmore, ← hread, outputs, List.filterMap_append]
  rfl

theorem Acts.subset (h : Acts pid read sys sys₁) : sys.events ⊆ sys₁.events := by
  obtain ⟨more, hmore, -, -⟩ := h.events
  rw [hmore]
  exact List.subset_append_left _ _

theorem Acts.mem (h : Acts pid read sys sys₁) {event : Event ε} (hevent : event ∈ sys₁.events) :
    event ∈ sys.events ∨ event.pid = pid := by
  obtain ⟨more, hmore, -, hall⟩ := h.events
  rw [hmore] at hevent
  exact (List.mem_append.mp hevent).imp_right fun hmem => (hall event hmem).1

/-- Nothing is said about the other children. -/
theorem Acts.mem_of_ne (h : Acts pid read sys sys₁) {event : Event ε} (hne : event.pid ≠ pid) :
    event ∈ sys₁.events ↔ event ∈ sys.events :=
  ⟨fun hevent => (h.mem hevent).resolve_right hne, fun hevent => h.subset hevent⟩

/-- At any point on the way, the live children were live before. -/
theorem Acts.live_before (h : Acts pid read sys sys₁) {before : List (Event ε)}
    (hbefore : before <+: sys₁.events) :
    before <+: sys.events ∨ ∀ other, Live before other → Live sys.events other := by
  obtain ⟨more, hmore, -, hall⟩ := h.events
  rw [hmore] at hbefore
  rcases List.prefix_or_prefix_of_prefix hbefore (List.prefix_append _ _) with hold | ⟨middle, rfl⟩
  · exact Or.inl hold
  · have hmiddle : middle <+: more := (List.prefix_append_right_inj _).mp hbefore
    refine Or.inr fun other hlive => hlive.of_append fun hspawned => ?_
    obtain ⟨hpid, hne⟩ := hall _ (hmiddle.subset hspawned)
    exact hne (congrArg Event.spawned hpid)

theorem Acts.live (h : Acts pid read sys sys₁) (hlive : Live sys₁.events other) :
    Live sys.events other := by
  obtain ⟨more, hmore, -, hall⟩ := h.events
  rw [hmore] at hlive
  refine hlive.of_append fun hspawned => ?_
  obtain ⟨hpid, hne⟩ := hall _ hspawned
  exact hne (congrArg Event.spawned hpid)

-- ════════════════════════════════════════════════════════════════════════
-- What each call does
-- ════════════════════════════════════════════════════════════════════════

theorem acts_pass (pid least : ℕ) (sys : System ε) : Acts pid [] sys (sys.pass least) where
  events := ⟨[], (List.append_nil _).symm, rfl, nofun⟩
  processes := rfl
  time := by
    show sys.time ≤ sys.time + least + _
    omega

theorem acts_emit (event : Event ε) (hne : event ≠ .spawned event.pid) (sys : System ε) :
    Acts event.pid (outputs [event]) sys ((sys.pass 0).emit event) where
  events := ⟨[event], rfl, rfl, List.forall_mem_singleton.mpr ⟨rfl, hne⟩⟩
  processes := rfl
  time := (acts_pass event.pid 0 sys).time

theorem mem_emit (event : Event ε) (sys : System ε) : event ∈ (sys.emit event).events :=
  List.mem_append_right _ (List.mem_singleton_self event)

theorem acts_tryWait (pid : ℕ) (sys : System ε) : Acts pid [] sys (sys.tryWait pid).2 := by
  unfold System.tryWait
  split
  · exact acts_emit (.reaped pid) nofun sys
  · exact acts_pass pid 0 sys
  · exact acts_pass pid 0 sys

theorem reaped_of_tryWait {status : ExitStatus} (h : sys.tryWait pid = (.ok (some status), sys₁)) :
    .reaped pid ∈ sys₁.events := by
  unfold System.tryWait at h
  split at h
  · obtain ⟨-, rfl⟩ := Prod.mk.inj h
    exact mem_emit _ _
  · cases h
  · cases h

/-- Polling kills nobody. -/
theorem killed_tryWait (sys : System ε) :
    .killed other ∈ (sys.tryWait pid).2.events ↔ .killed other ∈ sys.events := by
  unfold System.tryWait
  split
  · exact List.mem_append.trans (or_iff_left (by simp))
  · exact Iff.rfl
  · exact Iff.rfl

theorem acts_kill (pid : ℕ) (sys : System ε) : Acts pid [] sys (sys.kill pid).2 := by
  unfold System.kill
  split
  · exact acts_emit (.killed pid) nofun sys
  · exact acts_emit (.refused pid) nofun sys

theorem asked_kill (pid : ℕ) (sys : System ε) : Asked (sys.kill pid).2.events pid := by
  unfold System.kill
  split
  · exact Or.inl (mem_emit _ _)
  · exact Or.inr (mem_emit _ _)

theorem killed_of_kill (h : sys.kill pid = (.ok (), sys₁)) : .killed pid ∈ sys₁.events := by
  unfold System.kill at h
  split at h
  · obtain ⟨-, rfl⟩ := Prod.mk.inj h
    exact mem_emit _ _
  · cases h

theorem acts_wait (pid : ℕ) (sys : System ε) : Acts pid [] sys (sys.wait pid).2 := by
  unfold System.wait
  split
  · exact acts_emit (.reaped pid) nofun sys
  · exact acts_emit (.lost pid) nofun sys

theorem reaped_of_wait {status : ExitStatus} (h : sys.wait pid = (.ok status, sys₁)) :
    .reaped pid ∈ sys₁.events := by
  unfold System.wait at h
  split at h
  · obtain ⟨-, rfl⟩ := Prod.mk.inj h
    exact mem_emit _ _
  · cases h

theorem acts_readOutput (pid : ℕ) (sys : System ε) :
    Acts pid [(sys.readOutput pid).1] sys (sys.readOutput pid).2 :=
  acts_emit (.output pid _) nofun sys

/-- A child that was asked to die is not live after a wait, whether or not that
succeeds. -/
theorem not_live_wait (h : Asked sys.events pid) : ¬Live (sys.wait pid).2.events pid := by
  intro hlive
  unfold System.wait at hlive
  split at hlive
  · exact hlive.unreaped (mem_emit _ _)
  · exact hlive.kept ⟨sys.events, List.prefix_rfl, h⟩

/-- A spawn that fails starts nothing; one that succeeds starts the next child. -/
theorem spawn_cases (sys : System ε) :
    (∃ e, sys.spawn = (.error e, sys.pass 0)) ∨
      sys.spawn = (.ok sys.processes,
        { (sys.pass 0).emit (.spawned sys.processes) with processes := sys.processes + 1 }) := by
  unfold System.spawn
  split
  · exact Or.inr rfl
  · next e _ => exact Or.inl ⟨e, rfl⟩

end Corelib.Processes
