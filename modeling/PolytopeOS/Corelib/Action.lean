import PolytopeOS.Corelib.Exec

/-!
# Fallible computations on a state

An `Action` threads a state through a computation that may return an error or
panic; the state it had reached is kept in every case.
-/

namespace Corelib

/-- A computation on a state of type `σ`. -/
def Action (σ ε α : Type) := σ → Exec ε α × σ

namespace Action

variable {σ ε α β : Type}

instance : Monad (Action σ ε) where
  pure a := fun s => (.ok a, s)
  bind x f := fun s =>
    match x s with
    | (.ok a, s') => f a s'
    | (.err e, s') => (.err e, s')
    | (.panic, s') => (.panic, s')

/-- An outcome that does not touch the state. -/
def lift (x : Exec ε α) : Action σ ε α := fun s => (x, s)

def modify (f : σ → σ) : Action σ ε Unit := fun s => (.ok (), f s)

/-- Run an action for each element of a list. -/
def each (f : α → Action σ ε Unit) : List α → Action σ ε Unit
  | [] => pure ()
  | a :: rest => do f a; each f rest

theorem pure_eq_ok {a b : α} {s s' : σ} :
    (pure a : Action σ ε α) s = (.ok b, s') ↔ a = b ∧ s = s' := by
  show (Exec.ok a, s) = _ ↔ _
  rw [Prod.mk.injEq, Exec.ok.injEq]

theorem lift_eq_ok {x : Exec ε α} {a : α} {s s' : σ} :
    lift x s = (.ok a, s') ↔ x = .ok a ∧ s = s' := by
  rw [lift, Prod.mk.injEq]

theorem modify_eq_ok {f : σ → σ} {u : Unit} {s s' : σ} :
    (modify f : Action σ ε Unit) s = (.ok u, s') ↔ f s = s' := by
  simp [modify]

/-- Two steps succeed when both do, the second from the state the first reached. -/
theorem bind_eq_ok {x : Action σ ε α} {f : α → Action σ ε β} {b : β} {s s' : σ} :
    (x >>= f) s = (.ok b, s') ↔ ∃ a s₁, x s = (.ok a, s₁) ∧ f a s₁ = (.ok b, s') := by
  show (match x s with
    | (.ok a, s') => f a s'
    | (.err e, s') => (.err e, s')
    | (.panic, s') => (.panic, s')) = _ ↔ _
  rcases x s with ⟨_ | _ | _, s₁⟩ <;> simp

theorem bind_of_ok {x : Action σ ε α} {f : α → Action σ ε β} {s s' : σ} {a : α}
    (h : x s = (.ok a, s')) : (x >>= f) s = f a s' := by
  show (match x s with
    | (.ok a, s') => f a s'
    | (.err e, s') => (.err e, s')
    | (.panic, s') => (.panic, s')) = _
  rw [h]

theorem bind_of_err {x : Action σ ε α} {f : α → Action σ ε β} {s s' : σ} {e : ε}
    (h : x s = (.err e, s')) : (x >>= f) s = (.err e, s') := by
  show (match x s with
    | (.ok a, s') => f a s'
    | (.err e, s') => (.err e, s')
    | (.panic, s') => (.panic, s')) = _
  rw [h]

theorem bind_of_panic {x : Action σ ε α} {f : α → Action σ ε β} {s s' : σ}
    (h : x s = (.panic, s')) : (x >>= f) s = (.panic, s') := by
  show (match x s with
    | (.ok a, s') => f a s'
    | (.err e, s') => (.err e, s')
    | (.panic, s') => (.panic, s')) = _
  rw [h]

theorem each_append_eq_ok {f : α → Action σ ε Unit} {xs ys : List α} {s s' : σ} :
    each f (xs ++ ys) s = (.ok (), s') ↔
      ∃ s₁, each f xs s = (.ok (), s₁) ∧ each f ys s₁ = (.ok (), s') := by
  induction xs generalizing s with
  | nil => simp [each, pure_eq_ok]
  | cons x xs ih =>
    simp only [List.cons_append, each, bind_eq_ok, ih]
    constructor
    · rintro ⟨u, s₁, hx, s₂, hxs, hys⟩
      exact ⟨s₂, ⟨u, s₁, hx, hxs⟩, hys⟩
    · rintro ⟨s₂, ⟨u, s₁, hx, hxs⟩, hys⟩
      exact ⟨u, s₁, hx, s₂, hxs, hys⟩

/-- Every error the action returns satisfies `P`. -/
def Fails (P : ε → Prop) (x : Action σ ε α) : Prop := ∀ s e, (x s).1 = .err e → P e

variable {P : ε → Prop}

theorem Fails.pure (a : α) : (Pure.pure a : Action σ ε α).Fails P := by
  intro s e h
  cases h

theorem Fails.modify (f : σ → σ) : (Action.modify f : Action σ ε Unit).Fails P := by
  intro s e h
  cases h

theorem Fails.lift {x : Exec ε α} (h : x.Fails P) : (lift x : Action σ ε α).Fails P :=
  fun _ => h

theorem Fails.bind {x : Action σ ε α} {f : α → Action σ ε β} (hx : x.Fails P)
    (hf : ∀ a, (f a).Fails P) : (x >>= f).Fails P := by
  intro s e
  show (match x s with
    | (.ok a, s') => f a s'
    | (.err e, s') => (.err e, s')
    | (.panic, s') => (.panic, s')).1 = _ → _
  rcases hxs : x s with ⟨a | e' | _, s₁⟩
  · exact hf a s₁ e
  · intro h
    cases h
    exact hx s e (by rw [hxs])
  · intro h
    cases h

end Action

end Corelib
