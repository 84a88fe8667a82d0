import Mathlib.Data.Fintype.EquivFin
import Mathlib.Logic.Relation

/-!
# Chains of a partial successor function

A linked structure gives each node at most one successor. `Chain next a path`
says that the walk from `a` ends and visits `path`. On a finite set that no link
leaves, every walk ends when no node reaches itself.
-/

namespace Corelib

variable {α : Type} {next : α → Option α} {a b : α} {path : List α}

/-- The nodes visited from a node on, when the walk ends. -/
inductive Chain (next : α → Option α) : α → List α → Prop
  | last {a : α} (h : next a = none) : Chain next a [a]
  | step {a b : α} {path : List α} (h : next a = some b) (rest : Chain next b path) :
      Chain next a (a :: path)

def Links (next : α → Option α) (a b : α) : Prop := next a = some b

namespace Chain

theorem unique {path' : List α} (h : Chain next a path) (h' : Chain next a path') :
    path = path' := by
  induction h generalizing path' with
  | last hnone =>
    cases h' with
    | last _ => rfl
    | step hsome _ => cases hnone.symm.trans hsome
  | step hsome _ ih =>
    cases h' with
    | last hnone => cases hnone.symm.trans hsome
    | step hsome' rest' =>
      obtain rfl := Option.some.inj (hsome.symm.trans hsome')
      rw [ih rest']

theorem mem_head (h : Chain next a path) : a ∈ path := by
  cases h <;> exact List.mem_cons_self

theorem reachable (h : Chain next a path) (hb : b ∈ path) :
    Relation.ReflTransGen (Links next) a b := by
  induction h with
  | last _ =>
    rw [List.mem_singleton.mp hb]
  | step hsome _ ih =>
    rcases List.mem_cons.mp hb with rfl | hb
    · exact .refl
    · exact .head hsome (ih hb)

/-- The chain of a node further on is shorter. -/
theorem later (h : Chain next a path) (hb : Relation.TransGen (Links next) a b) :
    ∃ path', Chain next b path' ∧ path'.length < path.length := by
  induction hb with
  | single hlink =>
    cases h with
    | last hnone => cases hnone.symm.trans hlink
    | step hsome rest =>
      obtain rfl := Option.some.inj (hsome.symm.trans hlink)
      exact ⟨_, rest, Nat.lt_succ_self _⟩
  | tail _ hlink ih =>
    obtain ⟨path', hchain, hlt⟩ := ih
    cases hchain with
    | last hnone => cases hnone.symm.trans hlink
    | step hsome rest =>
      obtain rfl := Option.some.inj (hsome.symm.trans hlink)
      exact ⟨_, rest, (Nat.lt_succ_self _).trans hlt⟩

/-- A walk that ends does not start on a cycle. -/
theorem not_cycle (h : Chain next a path) : ¬Relation.TransGen (Links next) a a := by
  intro hcycle
  obtain ⟨path', hchain, hlt⟩ := h.later hcycle
  rw [h.unique hchain] at hlt
  exact lt_irrefl _ hlt

end Chain

/-- In a finite set that no link leaves and that has no cycle, every walk ends,
without visiting a node twice. -/
theorem exists_chain {S : Finset α} (hclosed : ∀ a ∈ S, ∀ b, next a = some b → b ∈ S)
    (hacyclic : ∀ a ∈ S, ¬Relation.TransGen (Links next) a a) (ha : a ∈ S) :
    ∃ path, Chain next a path ∧ path.Nodup ∧ ∀ b ∈ path, b ∈ S := by
  let later : S → S → Prop := fun b a => Relation.TransGen (Links next) a b
  have htrans : IsTrans S later := ⟨fun _ _ _ hab hbc => hbc.trans hab⟩
  have hirrefl : Std.Irrefl later := ⟨fun a => hacyclic a a.2⟩
  have hwf : WellFounded later := Finite.wellFounded_of_trans_of_irrefl later
  -- induction along the links
  suffices h : ∀ a : S, ∃ path, Chain next a path ∧ path.Nodup ∧ ∀ b ∈ path, b ∈ S from h ⟨a, ha⟩
  intro a
  induction a using hwf.induction with
  | _ a ih =>
    obtain ⟨a, ha⟩ := a
    cases hnext : next a with
    | none =>
      exact ⟨[a], .last hnext, List.nodup_singleton a, List.forall_mem_singleton.mpr ha⟩
    | some b =>
      have hb : b ∈ S := hclosed a ha b hnext
      obtain ⟨path, hchain, hnodup, hmem⟩ := ih ⟨b, hb⟩ (.single hnext)
      have hfresh : a ∉ path := fun h => hacyclic a ha (.head' hnext (hchain.reachable h))
      exact ⟨a :: path, .step hnext hchain, List.nodup_cons.mpr ⟨hfresh, hnodup⟩,
        List.forall_mem_cons.mpr ⟨ha, hmem⟩⟩

/-- A repetition-free walk in a finite set is no longer than the set is large. -/
theorem length_le_card [DecidableEq α] {S : Finset α} (hnodup : path.Nodup)
    (hmem : ∀ b ∈ path, b ∈ S) : path.length ≤ S.card := by
  rw [← List.toFinset_card_of_nodup hnodup]
  exact Finset.card_le_card fun b hb => hmem b (List.mem_toFinset.mp hb)

end Corelib
