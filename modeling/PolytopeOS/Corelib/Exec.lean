import Mathlib.Data.List.Induction
import Mathlib.Tactic.Common

/-!
# Computations with recoverable errors and panics

`Exec ε α` is the outcome of running a fallible function: a value, a returned
error, or a panic (an index out of range, an overflowing unchecked operation).
The loops of early-exit code are `Exec.foldIdx`, a left fold that passes the
element's index and stops at the first outcome that is not a value. Its rules
say what a loop has done when it succeeds and where it was when it failed.
-/

namespace Corelib

/-- Outcome of a computation that may return an error or panic. -/
inductive Exec (ε α : Type) where
  | ok (value : α)
  | err (error : ε)
  | panic
  deriving DecidableEq, Repr

namespace Exec

variable {ε ε' α β σ : Type}

/-- Sequencing: the first outcome that is not a value is the result. -/
def bind (x : Exec ε α) (f : α → Exec ε β) : Exec ε β :=
  match x with
  | .ok a => f a
  | .err e => .err e
  | .panic => .panic

instance : Monad (Exec ε) where
  pure := .ok
  bind := bind

@[simp] theorem ok_bind (a : α) (f : α → Exec ε β) : (Exec.ok a >>= f) = f a := rfl

@[simp] theorem err_bind (e : ε) (f : α → Exec ε β) : (Exec.err e >>= f) = .err e := rfl

@[simp] theorem panic_bind (f : α → Exec ε β) : ((Exec.panic : Exec ε α) >>= f) = .panic := rfl

@[simp] theorem pure_eq_ok (a : α) : (pure a : Exec ε α) = .ok a := rfl

theorem bind_eq_ok {x : Exec ε α} {f : α → Exec ε β} {b : β} :
    (x >>= f) = .ok b ↔ ∃ a, x = .ok a ∧ f a = .ok b := by
  cases x <;> simp

/-- A run that ends in a value, decided by its outcome. -/
instance (x : Exec ε α) : Decidable (∃ a, x = .ok a) :=
  match x with
  | .ok a => isTrue ⟨a, rfl⟩
  | .err _ => isFalse (by simp)
  | .panic => isFalse (by simp)

theorem exists_bind_eq_ok {x : Exec ε α} {f : α → Exec ε β} {a : α} (hx : x = .ok a)
    (hf : ∃ b, f a = .ok b) : ∃ b, (x >>= f) = .ok b := by
  rw [hx]
  exact hf

theorem bind_eq_err {x : Exec ε α} {f : α → Exec ε β} {e : ε} :
    (x >>= f) = .err e ↔ x = .err e ∨ ∃ a, x = .ok a ∧ f a = .err e := by
  cases x <;> simp

/-- A check followed by the rest of the function. -/
theorem check_bind_eq_ok {x : Exec ε Unit} {f : Unit → Exec ε β} {b : β} :
    (x >>= f) = .ok b ↔ x = .ok () ∧ f () = .ok b := by
  cases x <;> simp

theorem check_bind_eq_err {x : Exec ε Unit} {f : Unit → Exec ε β} {e : ε} :
    (x >>= f) = .err e ↔ x = .err e ∨ (x = .ok () ∧ f () = .err e) := by
  cases x <;> simp

/-- An early exit: the rest of the function runs only when the test fails. -/
@[simp] theorem ite_err_eq_ok {p : Prop} [Decidable p] {e : ε} {x : Exec ε α} {a : α} :
    (if p then .err e else x) = .ok a ↔ ¬p ∧ x = .ok a := by
  split <;> simp_all

@[simp] theorem ite_panic_eq_ok {p : Prop} [Decidable p] {x : Exec ε α} {a : α} :
    (if p then .panic else x) = .ok a ↔ ¬p ∧ x = .ok a := by
  split <;> simp_all

/-- An early exit on a computed test. -/
theorem test_bind_eq_ok {x : Exec ε Bool} {e : ε} {y : Exec ε α} {a : α} :
    (x >>= fun b => if b then .err e else y) = .ok a ↔ x = .ok false ∧ y = .ok a := by
  cases x with
  | ok b => cases b <;> simp
  | err e => simp
  | panic => simp

theorem ite_err_bind {p : Prop} [Decidable p] {e : ε} {x : Exec ε α} {f : α → Exec ε β} :
    ((if p then .err e else x) >>= f) = if p then .err e else x >>= f := by
  split <;> rfl

/-- An early return, as `ensure!` does. -/
def ensure (p : Prop) [Decidable p] (e : ε) : Exec ε Unit := if p then .ok () else .err e

theorem ensure_eq_ok {p : Prop} [Decidable p] {e : ε} {u : Unit} : ensure p e = .ok u ↔ p := by
  unfold ensure
  split <;> simp_all

/-- Rewrite the error of a computation, as `map_err` does. -/
def mapErr (f : ε → ε') : Exec ε α → Exec ε' α
  | .ok a => .ok a
  | .err e => .err (f e)
  | .panic => .panic

@[simp] theorem mapErr_ok (f : ε → ε') (a : α) : mapErr f (.ok a) = .ok a := rfl

theorem mapErr_eq_ok {f : ε → ε'} {x : Exec ε α} {a : α} :
    mapErr f x = .ok a ↔ x = .ok a := by
  cases x <;> simp [mapErr]

/-- Turn an absent value into an error, as `ok_or` does. -/
def okOr (x : Option α) (e : ε) : Exec ε α :=
  match x with
  | some a => .ok a
  | none => .err e

@[simp] theorem okOr_some (a : α) (e : ε) : okOr (some a) e = .ok a := rfl

@[simp] theorem okOr_none (e : ε) : okOr (none : Option α) e = .err e := rfl

theorem okOr_eq_ok {x : Option α} {e : ε} {a : α} : okOr x e = .ok a ↔ x = some a := by
  cases x <;> simp

/-- Unwrap an optional value, panicking when it is absent. -/
def unwrap (x : Option α) : Exec ε α :=
  match x with
  | some a => .ok a
  | none => .panic

@[simp] theorem unwrap_some (a : α) : (unwrap (some a) : Exec ε α) = .ok a := rfl

/-- The element of a slice at an index, which panics out of range. -/
def index (values : List α) (i : ℕ) : Exec ε α := unwrap values[i]?

theorem index_of_lt {values : List α} {i : ℕ} (h : i < values.length) :
    (index values i : Exec ε α) = .ok values[i] := by
  rw [index, List.getElem?_eq_getElem h, unwrap_some]

theorem okOr_ne_panic (x : Option α) (e : ε) : okOr x e ≠ .panic := by
  cases x <;> simp

theorem bind_ne_panic {x : Exec ε α} {f : α → Exec ε β} (hx : x ≠ .panic)
    (hf : ∀ a, x = .ok a → f a ≠ .panic) : (x >>= f) ≠ .panic := by
  cases x with
  | ok a => exact hf a rfl
  | err e => simp
  | panic => exact absurd rfl hx

theorem ensure_ne_panic (p : Prop) [Decidable p] (e : ε) : ensure p e ≠ .panic := by
  unfold ensure
  split <;> simp

/-- After a check, the rest of the function knows its condition. -/
theorem ensure_bind_ne_panic {p : Prop} [Decidable p] {e : ε} {f : Unit → Exec ε β}
    (hf : p → f () ≠ .panic) : (ensure p e >>= f) ≠ .panic :=
  bind_ne_panic (ensure_ne_panic p e) fun _ h => hf (ensure_eq_ok.mp h)

theorem okOr_bind_ne_panic {x : Option α} {e : ε} {f : α → Exec ε β}
    (hf : ∀ a, x = some a → f a ≠ .panic) : (okOr x e >>= f) ≠ .panic :=
  bind_ne_panic (okOr_ne_panic x e) fun a h => hf a (okOr_eq_ok.mp h)

/-- An early exit does not panic if the rest of the function, which knows that
the test failed, does not. -/
theorem ite_err_ne_panic {p : Prop} [Decidable p] {e : ε} {x : Exec ε α}
    (hx : ¬p → x ≠ .panic) : (if p then .err e else x) ≠ .panic := by
  split
  · simp
  · next hp => exact hx hp

/-- Every error that `x` can be satisfies `P`. -/
def Fails (P : ε → Prop) (x : Exec ε α) : Prop := ∀ e, x = .err e → P e

theorem Fails.err {P : ε → Prop} {e : ε} (h : P e) : (.err e : Exec ε α).Fails P := by
  intro e' heq
  exact err.inj heq ▸ h

theorem Fails.okOr {P : ε → Prop} {e : ε} (h : P e) (x : Option α) :
    (Exec.okOr x e).Fails P := by
  cases x with
  | some a => exact nofun
  | none => exact .err h

theorem Fails.mapErr {P : ε' → Prop} {f : ε → ε'} (h : ∀ e, P (f e)) (x : Exec ε α) :
    (Exec.mapErr f x).Fails P := by
  cases x with
  | ok a => exact nofun
  | err e => exact .err (h e)
  | panic => exact nofun

theorem Fails.bind {P : ε → Prop} {x : Exec ε α} {f : α → Exec ε β} (hx : x.Fails P)
    (hf : ∀ a, (f a).Fails P) : (x >>= f).Fails P := by
  intro e h
  rcases bind_eq_err.mp h with hxe | ⟨a, _, hfe⟩
  · exact hx e hxe
  · exact hf a e hfe

theorem Fails.ite_err {P : ε → Prop} {p : Prop} [Decidable p] {e : ε} {x : Exec ε α} (he : P e)
    (hx : x.Fails P) : (if p then .err e else x).Fails P := by
  split
  · exact .err he
  · exact hx

/-- A check that never panics and has one possible value succeeds with it or
returns an error. -/
theorem ok_or_err {x : Exec ε α} {p : Prop} {a : α} (hpanic : x ≠ .panic)
    (hok : ∀ b, x = .ok b ↔ p ∧ b = a) : (p ∧ x = .ok a) ∨ (¬p ∧ ∃ e, x = .err e) := by
  by_cases hp : p
  · exact Or.inl ⟨hp, (hok a).mpr ⟨hp, rfl⟩⟩
  · refine Or.inr ⟨hp, ?_⟩
    cases hx : x with
    | ok b => exact absurd ((hok b).mp hx).1 hp
    | err e => exact ⟨e, rfl⟩
    | panic => exact absurd hx hpanic

/-- A loop over a list whose body sees the element's index and may stop it. -/
def foldIdx (step : ℕ → σ → α → Exec ε σ) : ℕ → σ → List α → Exec ε σ
  | _, s, [] => .ok s
  | i, s, a :: rest => step i s a >>= fun s' => foldIdx step (i + 1) s' rest

@[simp] theorem foldIdx_nil (step : ℕ → σ → α → Exec ε σ) (i : ℕ) (s : σ) :
    foldIdx step i s [] = .ok s := rfl

@[simp] theorem foldIdx_cons (step : ℕ → σ → α → Exec ε σ) (i : ℕ) (s : σ) (a : α)
    (rest : List α) :
    foldIdx step i s (a :: rest) = step i s a >>= fun s' => foldIdx step (i + 1) s' rest := rfl

theorem foldIdx_map {γ : Type} (step : ℕ → σ → α → Exec ε σ) (g : γ → α) (i : ℕ) (s : σ)
    (xs : List γ) :
    foldIdx step i s (xs.map g) = foldIdx (fun j t c => step j t (g c)) i s xs := by
  induction xs generalizing i s with
  | nil => rfl
  | cons x xs ih => simp only [List.map_cons, foldIdx_cons, ih]

theorem foldIdx_append (step : ℕ → σ → α → Exec ε σ) (i : ℕ) (s : σ) (xs ys : List α) :
    foldIdx step i s (xs ++ ys) =
      foldIdx step i s xs >>= fun s' => foldIdx step (i + xs.length) s' ys := by
  induction xs generalizing i s with
  | nil => simp
  | cons x xs ih =>
    simp only [List.cons_append, foldIdx_cons]
    cases step i s x with
    | ok s' => simp only [ok_bind, ih, List.length_cons, Nat.add_right_comm, Nat.add_assoc]
    | err e => rfl
    | panic => rfl

theorem foldIdx_concat (step : ℕ → σ → α → Exec ε σ) (i : ℕ) (s : σ) (xs : List α) (a : α) :
    foldIdx step i s (xs ++ [a]) =
      foldIdx step i s xs >>= fun s' => step (i + xs.length) s' a := by
  rw [foldIdx_append]
  cases foldIdx step i s xs with
  | ok s' => simp only [ok_bind, foldIdx_cons, foldIdx_nil]; cases step _ s' a <;> rfl
  | err e => rfl
  | panic => rfl

/-- A loop that only checks its elements. -/
theorem foldIdx_check_eq_ok {check : α → Exec ε Unit} {i : ℕ} {xs : List α} :
    foldIdx (fun _ _ a => check a) i () xs = .ok () ↔ ∀ a ∈ xs, check a = .ok () := by
  induction xs generalizing i with
  | nil => simp
  | cons a rest ih => rw [foldIdx_cons, check_bind_eq_ok, ih, List.forall_mem_cons]

/-- A loop that only checks its elements, with an error that tells the index. -/
theorem foldIdx_ensure_eq_ok {p : α → Prop} [DecidablePred p] {error : ℕ → ε} {i : ℕ}
    {xs : List α} :
    foldIdx (fun i _ a => ensure (p a) (error i)) i () xs = .ok () ↔ ∀ a ∈ xs, p a := by
  induction xs generalizing i with
  | nil => simp
  | cons a rest ih => rw [foldIdx_cons, check_bind_eq_ok, ensure_eq_ok, ih, List.forall_mem_cons]

/-- The loop stops at an element that fails the check. -/
theorem foldIdx_ensure_cases (p : α → Prop) [DecidablePred p] (error : ℕ → ε) (i : ℕ)
    (xs : List α) :
    (∀ a ∈ xs, p a) ∨ ∃ j a, xs[j]? = some a ∧ ¬p a ∧
      foldIdx (fun i _ a => ensure (p a) (error i)) i () xs = .err (error (i + j)) := by
  induction xs generalizing i with
  | nil => exact Or.inl fun _ ha => absurd ha List.not_mem_nil
  | cons a rest ih =>
    by_cases ha : p a
    · rcases ih (i + 1) with hrest | ⟨j, b, hb, hfails, hrun⟩
      · exact Or.inl (List.forall_mem_cons.mpr ⟨ha, hrest⟩)
      · refine Or.inr ⟨j + 1, b, hb, hfails, ?_⟩
        rw [foldIdx_cons, ensure, if_pos ha, ok_bind, hrun, Nat.add_right_comm, Nat.add_assoc]
    · refine Or.inr ⟨0, a, rfl, ha, ?_⟩
      rw [foldIdx_cons, ensure, if_neg ha]
      rfl

/-- The values that the elements have; one without gives an error that tells its
index. -/
def collectSome {β : Type} (f : α → Option β) (error : ℕ → ε) : ℕ → List α → Exec ε (List β)
  | _, [] => .ok []
  | i, a :: rest => do
    let b ← okOr (f a) (error i)
    let bs ← collectSome f error (i + 1) rest
    return b :: bs

theorem collectSome_eq_ok {β : Type} {f : α → Option β} {error : ℕ → ε} {i : ℕ} {xs : List α}
    {bs : List β} : collectSome f error i xs = .ok bs ↔ xs.map f = bs.map some := by
  induction xs generalizing i bs with
  | nil => cases bs <;> simp [collectSome]
  | cons a rest ih =>
    simp only [collectSome, bind_eq_ok, okOr_eq_ok, ih, pure_eq_ok, ok.injEq]
    constructor
    · rintro ⟨b, hb, bs, hbs, rfl⟩
      rw [List.map_cons, List.map_cons, hb, hbs]
    · intro h
      cases bs with
      | nil => cases h
      | cons b bs =>
        rw [List.map_cons, List.map_cons, List.cons.injEq] at h
        exact ⟨b, h.1, bs, h.2, rfl⟩

theorem collectSome_cases {β : Type} (f : α → Option β) (error : ℕ → ε) (i : ℕ) (xs : List α) :
    (∃ bs, collectSome f error i xs = .ok bs) ∨ ∃ j a, xs[j]? = some a ∧ f a = none ∧
      collectSome f error i xs = .err (error (i + j)) := by
  induction xs generalizing i with
  | nil => exact Or.inl ⟨[], rfl⟩
  | cons a rest ih =>
    cases ha : f a with
    | none => exact Or.inr ⟨0, a, rfl, ha, by rw [collectSome, ha]; rfl⟩
    | some b =>
      rcases ih (i + 1) with ⟨bs, hbs⟩ | ⟨j, c, hc, hnone, hrun⟩
      · exact Or.inl ⟨b :: bs, by rw [collectSome, ha, hbs]; rfl⟩
      · refine Or.inr ⟨j + 1, c, hc, hnone, ?_⟩
        rw [collectSome, ha, hrun, Nat.add_right_comm, Nat.add_assoc]
        rfl

/-- A loop that pushes what each element gives: it succeeds when every element
is `Good`, with the outputs in order. -/
theorem foldIdx_push_eq_ok {f : α → Exec ε (List σ)} {Good : α → Prop} {out : α → List σ}
    (hf : ∀ a bs, f a = .ok bs ↔ Good a ∧ bs = out a) {i : ℕ} {pushed result : List σ}
    {xs : List α} :
    foldIdx (fun _ pushed a => f a >>= fun bs => .ok (pushed ++ bs)) i pushed xs = .ok result ↔
      (∀ a ∈ xs, Good a) ∧ result = pushed ++ xs.flatMap out := by
  induction xs generalizing i pushed with
  | nil => simp [eq_comm]
  | cons a rest ih =>
    rw [foldIdx_cons, bind_eq_ok, List.forall_mem_cons, List.flatMap_cons, ← List.append_assoc]
    constructor
    · rintro ⟨pushed', h, hrest⟩
      obtain ⟨bs, hbs, heq⟩ := bind_eq_ok.mp h
      obtain ⟨hgood, rfl⟩ := (hf a bs).mp hbs
      obtain rfl := ok.inj heq
      obtain ⟨hall, hresult⟩ := ih.mp hrest
      exact ⟨⟨hgood, hall⟩, hresult⟩
    · rintro ⟨⟨hgood, hall⟩, hresult⟩
      refine ⟨pushed ++ out a, ?_, ih.mpr ⟨hall, hresult⟩⟩
      rw [(hf a (out a)).mpr ⟨hgood, rfl⟩, ok_bind]

theorem foldIdx_ne_panic {step : ℕ → σ → α → Exec ε σ} {i : ℕ} {s : σ} {xs : List α}
    (h : ∀ a ∈ xs, ∀ j t, step j t a ≠ .panic) : foldIdx step i s xs ≠ .panic := by
  induction xs generalizing i s with
  | nil => simp
  | cons a rest ih =>
    obtain ⟨ha, hrest⟩ := List.forall_mem_cons.mp h
    exact bind_ne_panic (ha i s) fun t _ => ih hrest

/-- A loop that checks a property of the elements seen so far. `state seen` is
what the loop carries after `seen`; it stops at the first element that breaks
`Good`, with an error that satisfies `Bad` at that element's index. -/
theorem foldIdx_spec (step : ℕ → σ → α → Exec ε σ) {i : ℕ} (Good : List α → Prop)
    (state : List α → σ) (Bad : ℕ → ε → Prop) (h0 : Good [])
    (hstep : ∀ seen a, Good seen →
      (Good (seen ++ [a]) ∧ step (i + seen.length) (state seen) a = .ok (state (seen ++ [a]))) ∨
      (¬Good (seen ++ [a]) ∧
        ∃ e, step (i + seen.length) (state seen) a = .err e ∧ Bad seen.length e))
    (xs : List α) :
    (Good xs ∧ foldIdx step i (state []) xs = .ok (state xs)) ∨
    (∃ seen a rest e, xs = seen ++ a :: rest ∧ Good seen ∧ ¬Good (seen ++ [a]) ∧
      foldIdx step i (state []) xs = .err e ∧ Bad seen.length e) := by
  -- the induction appends the loop's last element
  induction xs using List.reverseRecOn with
  | nil => exact Or.inl ⟨h0, rfl⟩
  | append_singleton xs a ih =>
    rcases ih with ⟨hgood, hfold⟩ | ⟨seen, b, rest, e, rfl, hgood, hbad, hfold, he⟩
    · rcases hstep xs a hgood with ⟨hgood', hok⟩ | ⟨hbad, e, herr, he⟩
      · exact Or.inl ⟨hgood', by rw [foldIdx_concat, hfold, ok_bind, hok]⟩
      · exact Or.inr ⟨xs, a, [], e, rfl, hgood, hbad, by rw [foldIdx_concat, hfold, ok_bind, herr],
          he⟩
    · exact Or.inr ⟨seen, b, rest ++ [a], e, by simp, hgood, hbad,
        by rw [foldIdx_concat, hfold, err_bind], he⟩

end Exec

end Corelib
