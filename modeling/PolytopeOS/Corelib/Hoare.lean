import Mathlib.Order.RelClasses
import PolytopeOS.Corelib.Action

/-!
# Triples for fallible computations

`Triple P x Q E` says that the action `x`, started in a state that satisfies
`P`, does not panic: it returns a value in a state that satisfies `Q`, or an
error in a state that satisfies `E`. The state of an error matters where code
cleans up after one.
-/

namespace Corelib
namespace Action

variable {σ ε α β : Type}

/-- Run `cleanup` when `x` fails, and return the error of `x` whatever it did. -/
def onErr (x : Action σ ε α) (cleanup : Action σ ε Unit) : Action σ ε α := fun s =>
  match x s with
  | (.err e, s') => (.err e, (cleanup s').2)
  | run => run

/-- An operation that may fail and leaves the state as it is. -/
def mayFail (fails : Bool) (error : ε) : Action σ ε Unit := fun s =>
  (if fails then .err error else .ok (), s)

/-- The state as it is. -/
def get : Action σ ε σ := fun s => (.ok s, s)

/-- An action with its error changed. -/
def mapErr {ε' : Type} (f : ε → ε') (x : Action σ ε α) : Action σ ε' α :=
  fun s => ((x s).1.mapErr f, (x s).2)

/-- A run with a destructor at its end, whatever its result. -/
def dropping (x : Action σ ε α) (drop : σ → σ) : Action σ ε α := fun s => ((x s).1, drop (x s).2)

def Triple (P : σ → Prop) (x : Action σ ε α) (Q : α → σ → Prop) (E : σ → Prop) : Prop :=
  ∀ s, P s → (∃ a s', x s = (.ok a, s') ∧ Q a s') ∨ ∃ e s', x s = (.err e, s') ∧ E s'

@[simp]
theorem get_eq_ok {s s' t : σ} : (get : Action σ ε σ) s = (.ok t, s') ↔ t = s ∧ s' = s := by
  rw [get, Prod.mk.injEq, Exec.ok.injEq, eq_comm, eq_comm (a := s)]

theorem mapErr_eq_ok {ε' : Type} {f : ε → ε'} {x : Action σ ε α} {a : α} {s s' : σ} :
    mapErr f x s = (.ok a, s') ↔ x s = (.ok a, s') := by
  rcases hrun : x s with ⟨result, s₁⟩
  rw [mapErr, hrun, Prod.mk.injEq, Prod.mk.injEq, Exec.mapErr_eq_ok]

theorem dropping_eq_ok {x : Action σ ε α} {drop : σ → σ} {a : α} {s s' : σ} :
    dropping x drop s = (.ok a, s') ↔ ∃ s₁, x s = (.ok a, s₁) ∧ drop s₁ = s' := by
  rcases hrun : x s with ⟨result, s₁⟩
  simp only [dropping, hrun, Prod.mk.injEq]
  constructor
  · rintro ⟨hresult, hdrop⟩
    exact ⟨s₁, ⟨hresult, rfl⟩, hdrop⟩
  · rintro ⟨_, ⟨hresult, rfl⟩, hdrop⟩
    exact ⟨hresult, hdrop⟩

theorem onErr_of_ok {x : Action σ ε α} {cleanup : Action σ ε Unit} {s s' : σ} {a : α}
    (h : x s = (.ok a, s')) : onErr x cleanup s = (.ok a, s') := by
  rw [onErr, h]

theorem onErr_of_err {x : Action σ ε α} {cleanup : Action σ ε Unit} {s s' : σ} {e : ε}
    (h : x s = (.err e, s')) : onErr x cleanup s = (.err e, (cleanup s').2) := by
  rw [onErr, h]

namespace Triple

variable {P : σ → Prop} {Q : α → σ → Prop} {R : β → σ → Prop} {E E' : σ → Prop}

theorem weakenErr {x : Action σ ε α} (h : Triple P x Q E) (herr : ∀ s, E s → E' s) :
    Triple P x Q E' := by
  intro s hs
  rcases h s hs with hok | ⟨e, s', hrun, hE⟩
  · exact Or.inl hok
  · exact Or.inr ⟨e, s', hrun, herr s' hE⟩

theorem bind {x : Action σ ε α} {f : α → Action σ ε β} (hx : Triple P x Q E)
    (hf : ∀ a, Triple (Q a) (f a) R E) : Triple P (x >>= f) R E := by
  intro s hs
  rcases hx s hs with ⟨a, s', hrun, hQ⟩ | ⟨e, s', hrun, hE⟩
  · rw [bind_of_ok hrun]
    exact hf a s' hQ
  · exact Or.inr ⟨e, s', bind_of_err hrun, hE⟩

/-- The state of an error is the one the cleanup leaves. -/
theorem onErr {x : Action σ ε α} {cleanup : Action σ ε Unit} (hx : Triple P x Q E)
    (hcleanup : ∀ s, E s → E' (cleanup s).2) : Triple P (Action.onErr x cleanup) Q E' := by
  intro s hs
  rcases hx s hs with ⟨a, s', hrun, hQ⟩ | ⟨e, s', hrun, hE⟩
  · exact Or.inl ⟨a, s', onErr_of_ok hrun, hQ⟩
  · exact Or.inr ⟨e, _, onErr_of_err hrun, hcleanup s' hE⟩

theorem mayFail (fails : Bool) (error : ε) (P : σ → Prop) :
    Triple P (Action.mayFail fails error) (fun _ => P) P := by
  intro s h
  cases fails with
  | true => exact Or.inr ⟨error, s, rfl, h⟩
  | false => exact Or.inl ⟨(), s, rfl, h⟩

end Triple

-- ════════════════════════════════════════════════════════════════════════
-- What a run keeps, whatever its result
-- ════════════════════════════════════════════════════════════════════════

/-- Every run leads to a state in relation to the one it started from. -/
def Keeps (R : σ → σ → Prop) (x : Action σ ε α) : Prop := ∀ s, R s (x s).2

namespace Keeps

variable {R : σ → σ → Prop} [IsPreorder σ R]

theorem pure (a : α) : (Pure.pure a : Action σ ε α).Keeps R := fun s => refl_of R s

theorem lift (x : Exec ε α) : (Action.lift x : Action σ ε α).Keeps R := fun s => refl_of R s

theorem get : (Action.get : Action σ ε σ).Keeps R := fun s => refl_of R s

theorem bind {x : Action σ ε α} {f : α → Action σ ε β} (hx : x.Keeps R)
    (hf : ∀ a, (f a).Keeps R) : (x >>= f).Keeps R := by
  intro s
  have hfirst := hx s
  rcases hrun : x s with ⟨a | e | _, s'⟩
  · rw [hrun] at hfirst
    rw [bind_of_ok hrun]
    exact trans_of R hfirst (hf a s')
  · rw [hrun] at hfirst
    rwa [bind_of_err hrun]
  · rw [hrun] at hfirst
    rwa [bind_of_panic hrun]

theorem lift_bind {x : Exec ε α} {f : α → Action σ ε β}
    (hf : ∀ a, x = .ok a → (f a).Keeps R) : (Action.lift x >>= f).Keeps R := by
  intro s
  cases x with
  | ok a => exact hf a rfl s
  | err e => exact refl_of R s
  | panic => exact refl_of R s

omit [IsPreorder σ R] in
theorem mapErr {ε' : Type} {f : ε → ε'} {x : Action σ ε α} (hx : x.Keeps R) :
    (Action.mapErr f x).Keeps R := hx

theorem dropping {x : Action σ ε α} {drop : σ → σ} (hx : x.Keeps R) (hdrop : ∀ s, R s (drop s)) :
    (Action.dropping x drop).Keeps R :=
  fun s => trans_of R (hx s) (hdrop (x s).2)

end Keeps

end Action
end Corelib
