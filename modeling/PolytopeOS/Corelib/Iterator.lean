import PolytopeOS.Corelib.Exec

/-!
# Iterators over many calls

A call of `next` returns an item or nothing, with the state that the call after
it starts from. `Progressing` says what one call does in the states of an
invariant. Its rules say what any number of calls do: each of them returns, the
items come first and are at most as many as the measure of the first state, and
after them the iterator returns nothing and its state no longer changes.
-/

namespace Corelib

variable {σ α ε : Type}

/-- What `n` calls return, with the state after them. -/
def calls (next : σ → Exec ε (Option α × σ)) : ℕ → σ → Exec ε (List (Option α) × σ)
  | 0, s => .ok ([], s)
  | n + 1, s => do
    let (result, s) ← next s
    let (results, s) ← calls next n s
    return (result :: results, s)

/-- One call from a state of the invariant: an item uses up some of what is left,
and a state reached without an item is final. -/
def Progressing (next : σ → Exec ε (Option α × σ)) (Inv : σ → Prop) (left : σ → ℕ) : Prop :=
  ∀ s, Inv s →
    (∃ item s', next s = .ok (some item, s') ∧ Inv s' ∧ left s' < left s) ∨
    ∃ s', next s = .ok (none, s') ∧ Inv s' ∧ next s' = .ok (none, s')

variable {next : σ → Exec ε (Option α × σ)} {Inv : σ → Prop} {left : σ → ℕ} {s s' : σ}

theorem calls_succ {result : Option α} {results : List (Option α)} {final : σ} {n : ℕ}
    (hnext : next s = .ok (result, s')) (hcalls : calls next n s' = .ok (results, final)) :
    calls next (n + 1) s = .ok (result :: results, final) := by
  rw [calls, hnext, Exec.ok_bind]
  simp only [hcalls, Exec.ok_bind, Exec.pure_eq_ok]

theorem calls_final (hnext : next s = .ok (none, s)) (n : ℕ) :
    calls next n s = .ok (List.replicate n none, s) := by
  induction n with
  | zero => rfl
  | succ n ih => exact calls_succ hnext ih

namespace Progressing

theorem returns (h : Progressing next Inv left) (hs : Inv s) :
    ∃ result s', next s = .ok (result, s') ∧ Inv s' := by
  rcases h s hs with ⟨item, s', hnext, hs', -⟩ | ⟨s', hnext, hs', -⟩
  · exact ⟨some item, s', hnext, hs'⟩
  · exact ⟨none, s', hnext, hs'⟩

/-- The invariant holds after any number of calls, all of which return. -/
theorem calls_invariant (h : Progressing next Inv left) (hs : Inv s) (n : ℕ) :
    ∃ results s', calls next n s = .ok (results, s') ∧ Inv s' := by
  induction n generalizing s with
  | zero => exact ⟨[], s, rfl, hs⟩
  | succ n ih =>
    obtain ⟨result, s', hnext, hs'⟩ := h.returns hs
    obtain ⟨results, final, hcalls, hfinal⟩ := ih hs'
    exact ⟨result :: results, final, calls_succ hnext hcalls, hfinal⟩

/-- The items of a run, no more than what was left, and then nothing for ever. -/
theorem exhausts (h : Progressing next Inv left) (hs : Inv s) :
    ∃ (items : List α) (final : σ), items.length ≤ left s ∧ ∀ n,
      calls next (items.length + (n + 1)) s =
        .ok (items.map some ++ List.replicate (n + 1) none, final) := by
  -- on what is left, since an item may use up any part of it
  induction hleft : left s using Nat.strongRecOn generalizing s with
  | ind m ih =>
    rcases h s hs with ⟨item, s', hnext, hs', hlt⟩ | ⟨s', hnext, -, hfinal⟩
    · obtain ⟨items, final, hlen, hcalls⟩ := ih (left s') (hleft ▸ hlt) hs' rfl
      refine ⟨item :: items, final, ?_, ?_⟩
      · rw [List.length_cons]
        omega
      · intro n
        rw [List.length_cons, Nat.add_right_comm]
        exact calls_succ hnext (hcalls n)
    · refine ⟨[], s', Nat.zero_le m, ?_⟩
      intro n
      rw [List.length_nil, Nat.zero_add]
      exact calls_succ hnext (calls_final hfinal n)

end Progressing

end Corelib
