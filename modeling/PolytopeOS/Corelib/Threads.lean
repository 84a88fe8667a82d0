import Mathlib.Computability.StateTransition
import Mathlib.Logic.Function.Basic
import PolytopeOS.Corelib.Action

/-!
# Threads over a shared state

Threads with states of their own take steps on a shared state, one at a time and
in any order; a thread that has stopped is one that takes no further step. What
each thread knows holds throughout if its own steps keep it and no step of
another thread disturbs it.
-/

namespace Corelib

structure Threads (ι σ γ : Type) where
  locals : ι → σ
  shared : γ

namespace Threads

variable {ι σ γ : Type} [DecidableEq ι]

/-- One thread takes a step. -/
def Step (step : ι → σ × γ → σ × γ → Prop) (before after : Threads ι σ γ) : Prop :=
  ∃ i next, step i (before.locals i, before.shared) next ∧
    after = ⟨Function.update before.locals i next.1, next.2⟩

def Reaches (step : ι → σ × γ → σ × γ → Prop) : Threads ι σ γ → Threads ι σ γ → Prop :=
  Relation.ReflTransGen (Step step)

variable {step : ι → σ × γ → σ × γ → Prop} {before after : Threads ι σ γ}

/-- A fact `P i` of each thread, a fact `G` of the shared state alone, and a relation
`R` between the states of any two threads. -/
theorem Reaches.invariants {P : ι → σ → γ → Prop} {G : γ → Prop} {R : σ → σ → Prop}
    (hsymm : ∀ s t, R s t → R t s)
    (hown : ∀ i s g next, G g → P i s g → step i (s, g) next → P i next.1 next.2 ∧ G next.2)
    (hother : ∀ i j s t g next, i ≠ j → R s t → P i s g → P j t g → step j (t, g) next →
      P i s next.2)
    (hpair : ∀ i j s t g next, i ≠ j → R s t → P j t g → step i (s, g) next → R next.1 t)
    (hrun : Reaches step before after) (hG : G before.shared)
    (hP : ∀ i, P i (before.locals i) before.shared)
    (hR : ∀ i j, i ≠ j → R (before.locals i) (before.locals j)) :
    G after.shared ∧ (∀ i, P i (after.locals i) after.shared) ∧
      ∀ i j, i ≠ j → R (after.locals i) (after.locals j) := by
  induction hrun with
  | refl => exact ⟨hG, hP, hR⟩
  | @tail middle _ _ hlast ih =>
    obtain ⟨k, next, hstep, rfl⟩ := hlast
    obtain ⟨hG, hP, hR⟩ := ih
    obtain ⟨hself, hnext⟩ := hown k _ _ next hG (hP k) hstep
    have hfirst : ∀ j, j ≠ k → R next.1 (middle.locals j) := fun j hjk =>
      hpair k j _ _ _ next hjk.symm (hR k j hjk.symm) (hP j) hstep
    refine ⟨hnext, fun i => ?_, fun i j hij => ?_⟩
    · by_cases hi : i = k
      · subst hi
        simpa only [Function.update_self] using hself
      · simp only [Function.update_of_ne hi]
        exact hother i k _ _ _ next hi (hR i k hi) (hP i) (hP k) hstep
    · by_cases hi : i = k
      · subst hi
        simp only [Function.update_self, Function.update_of_ne hij.symm]
        exact hfirst j hij.symm
      · by_cases hj : j = k
        · subst hj
          simp only [Function.update_self, Function.update_of_ne hi]
          exact hsymm _ _ (hfirst i hi)
        · simp only [Function.update_of_ne hi, Function.update_of_ne hj]
          exact hR i j hij

theorem Reaches.invariant {P : ι → σ → γ → Prop} {G : γ → Prop}
    (hown : ∀ i s g next, G g → P i s g → step i (s, g) next → P i next.1 next.2 ∧ G next.2)
    (hother : ∀ i j s t g next, i ≠ j → P i s g → P j t g → step j (t, g) next → P i s next.2)
    (hrun : Reaches step before after) (hG : G before.shared)
    (hP : ∀ i, P i (before.locals i) before.shared) :
    G after.shared ∧ ∀ i, P i (after.locals i) after.shared := by
  obtain ⟨hG, hP, -⟩ := hrun.invariants (R := fun _ _ => True) (fun _ _ => id) hown
    (fun i j s t g next hij _ => hother i j s t g next hij)
    (fun _ _ _ _ _ _ _ _ _ _ => trivial) hG hP
    fun _ _ _ => trivial
  exact ⟨hG, hP⟩

/-- What a machine does by itself, one of the threads can do. -/
theorem Reaches.of_machine {machine : σ × γ → Option (σ × γ)} {i : ι}
    (hstep : ∀ before after, machine before = some after → step i before after) {s : σ} {g : γ}
    {after : σ × γ} (h : StateTransition.Reaches machine (s, g) after) {locals : ι → σ}
    (hlocal : locals i = s) :
    Reaches step ⟨locals, g⟩ ⟨Function.update locals i after.1, after.2⟩ := by
  induction h with
  | refl =>
    rw [← hlocal, Function.update_eq_self]
    exact .refl
  | @tail middle last _ hlast ih =>
    refine ih.tail ⟨i, last, ?_, ?_⟩
    · simp only [Function.update_self]
      exact hstep _ _ hlast
    · rw [Function.update_idem]

end Threads

-- ════════════════════════════════════════════════════════════════════════
-- A single machine
-- ════════════════════════════════════════════════════════════════════════

/-- Two runs from one state that cannot go on end in the same state. -/
theorem eq_of_reaches {α : Type} {step : α → Option α} {start a b : α}
    (ha : StateTransition.Reaches step start a) (hb : StateTransition.Reaches step start b)
    (hastop : step a = none) (hbstop : step b = none) : a = b :=
  Part.mem_unique (StateTransition.mem_eval.mpr ⟨ha, hastop⟩)
    (StateTransition.mem_eval.mpr ⟨hb, hbstop⟩)

namespace Action

open StateTransition

variable {σ ε τ α : Type}

/-- The action is what the machine does between two of its control states: to
`exit` if it succeeds, and to the state for its error if it fails. -/
def RunsAs (step : α × τ → Option (α × τ)) (view : σ → τ) (failed : ε → α) (x : Action σ ε Unit)
    (entry exit : α) : Prop :=
  ∀ s, (∃ s', x s = (.ok (), s') ∧ Reaches step (entry, view s) (exit, view s')) ∨
    ∃ e s', x s = (.err e, s') ∧ Reaches step (entry, view s) (failed e, view s')

variable {step : α × τ → Option (α × τ)} {view : σ → τ} {failed : ε → α}

theorem RunsAs.bind {x : Action σ ε Unit} {f : Unit → Action σ ε Unit} {entry middle exit : α}
    (hx : RunsAs step view failed x entry middle)
    (hf : RunsAs step view failed (f ()) middle exit) :
    RunsAs step view failed (x >>= f) entry exit := by
  intro s
  rcases hx s with ⟨s₁, hrun, hreach⟩ | ⟨e, s₁, hrun, hreach⟩
  · rw [bind_of_ok hrun]
    rcases hf s₁ with ⟨s₂, hrun₂, hreach₂⟩ | ⟨e, s₂, hrun₂, hreach₂⟩
    · exact Or.inl ⟨s₂, hrun₂, hreach.trans hreach₂⟩
    · exact Or.inr ⟨e, s₂, hrun₂, hreach.trans hreach₂⟩
  · exact Or.inr ⟨e, s₁, bind_of_err hrun, hreach⟩

end Action

end Corelib
