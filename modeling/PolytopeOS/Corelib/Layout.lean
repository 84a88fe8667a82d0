import PolytopeOS.Corelib.Slice

/-!
# Byte strings with prescribed pieces

A layout prescribes the bytes at some offsets and leaves the others free. Two
strings that hold the same piece agree on every byte it covers, and a list of
adjacent pieces is held by their concatenation.
-/

namespace Corelib

def zeros (n : ℕ) : Bytes := List.replicate n 0

@[simp] theorem length_zeros (n : ℕ) : (zeros n).length = n := List.length_replicate

theorem all_zero_iff {bytes : Bytes} : bytes.all (· == 0) ↔ bytes = zeros bytes.length := by
  simp only [List.all_eq_true, beq_iff_eq]
  rw [zeros, List.eq_replicate_iff]
  exact (and_iff_right rfl).symm

theorem length_range {bytes : Bytes} {start n : ℕ} (h : start + n ≤ bytes.length) :
    ((bytes.drop start).take n).length = n := by
  rw [List.length_take, List.length_drop]
  omega

theorem range_range {bytes : Bytes} {base n offset m : ℕ} (h : offset + m ≤ n) :
    (((bytes.drop base).take n).drop offset).take m = (bytes.drop (base + offset)).take m := by
  rw [List.drop_take, List.take_take, List.drop_drop, Nat.min_eq_left (by omega)]

/-- Two ranges are equal when their first parts and their rests are. -/
theorem range_add_eq_iff {bytes : Bytes} {a b n m : ℕ} :
    (bytes.drop a).take (n + m) = (bytes.drop b).take (n + m) ↔
      (bytes.drop a).take n = (bytes.drop b).take n ∧
      (bytes.drop (a + n)).take m = (bytes.drop (b + n)).take m := by
  have hfirst : ∀ base, ((bytes.drop base).take (n + m)).take n = (bytes.drop base).take n := by
    intro base
    rw [List.take_take, Nat.min_eq_left (Nat.le_add_right n m)]
  have hrest : ∀ base, ((bytes.drop base).take (n + m)).drop n =
      (bytes.drop (base + n)).take m := by
    intro base
    rw [List.drop_take, List.drop_drop, Nat.add_sub_cancel_left]
  rw [← hfirst a, ← hfirst b, ← hrest a, ← hrest b]
  constructor
  · intro h
    exact ⟨congrArg _ h, congrArg _ h⟩
  · rintro ⟨htake, hdrop⟩
    rw [← List.take_append_drop n ((bytes.drop a).take (n + m)), htake, hdrop,
      List.take_append_drop]

theorem drop_flatten {blocks : List Bytes} {n : ℕ} (h : ∀ block ∈ blocks, block.length = n) (k : ℕ) :
    blocks.flatten.drop (k * n) = (blocks.drop k).flatten := by
  induction k generalizing blocks with
  | zero => simp
  | succ k ih =>
    cases blocks with
    | nil => simp
    | cons block rest =>
      obtain ⟨hblock, hrest⟩ := List.forall_mem_cons.mp h
      rw [List.flatten_cons, List.drop_succ_cons, ← ih hrest, Nat.succ_mul, Nat.add_comm,
        ← List.drop_drop, List.drop_left' hblock]

theorem take_flatten {blocks : List Bytes} {n : ℕ} (h : ∀ block ∈ blocks, block.length = n) (m : ℕ) :
    blocks.flatten.take (m * n) = (blocks.take m).flatten := by
  induction m generalizing blocks with
  | zero => simp
  | succ m ih =>
    cases blocks with
    | nil => simp
    | cons block rest =>
      obtain ⟨hblock, hrest⟩ := List.forall_mem_cons.mp h
      rw [List.flatten_cons, List.take_succ_cons, List.flatten_cons, ← ih hrest, Nat.succ_mul,
        Nat.add_comm, List.take_append, hblock, List.take_of_length_le (by omega),
        Nat.add_sub_cancel_left]

/-- In a string of blocks of one size, a range of blocks is their concatenation. -/
theorem range_flatten {blocks : List Bytes} {n : ℕ} (h : ∀ block ∈ blocks, block.length = n)
    (k m : ℕ) :
    (blocks.flatten.drop (k * n)).take (m * n) = ((blocks.drop k).take m).flatten := by
  rw [drop_flatten h, take_flatten fun block hblock => h block (List.mem_of_mem_drop hblock)]

theorem field_flatten {blocks : List Bytes} {n k : ℕ} {block : Bytes}
    (h : ∀ block ∈ blocks, block.length = n) (hk : blocks[k]? = some block) :
    field blocks.flatten (k * n) n = ofLe block := by
  have hrange := range_flatten h k 1
  rw [Nat.one_mul, List.take_one, List.head?_drop, hk, Option.toList_some, List.flatten_cons,
    List.flatten_nil, List.append_nil] at hrange
  rw [field, hrange]

theorem length_flatten {blocks : List Bytes} {n : ℕ} (h : ∀ block ∈ blocks, block.length = n) :
    blocks.flatten.length = blocks.length * n := by
  rw [List.length_flatten, List.map_eq_replicate_iff.mpr h, List.sum_replicate_nat]

/-- The content prescribed from an offset on. -/
structure Piece where
  offset : ℕ
  content : Bytes

namespace Piece

variable {p : Piece} {a b bytes : Bytes} {i n : ℕ}

def finish (p : Piece) : ℕ := p.offset + p.content.length

def Covers (p : Piece) (i : ℕ) : Prop := p.offset ≤ i ∧ i < p.finish

def Holds (p : Piece) (bytes : Bytes) : Prop :=
  (bytes.drop p.offset).take p.content.length = p.content

/-- The piece as seen from a string in which its own string starts at `base`. -/
def shift (base : ℕ) (p : Piece) : Piece := ⟨base + p.offset, p.content⟩

theorem covers_zeros {start : ℕ} :
    (⟨start, zeros n⟩ : Piece).Covers i ↔ start ≤ i ∧ i < start + n := by
  rw [Covers, finish, length_zeros]

theorem Holds.getElem? (h : p.Holds bytes) (hi : p.Covers i) :
    bytes[i]? = p.content[i - p.offset]? := by
  obtain ⟨hstart, hfinish⟩ := hi
  unfold finish at hfinish
  conv_rhs => rw [← h]
  rw [List.getElem?_take_of_lt (by omega), List.getElem?_drop]
  congr 1
  omega

/-- A piece leaves no freedom where it lies. -/
theorem Holds.agree (ha : p.Holds a) (hb : p.Holds b) (hi : p.Covers i) : a[i]? = b[i]? :=
  (ha.getElem? hi).trans (hb.getElem? hi).symm

theorem holds_shift {base : ℕ} (h : p.finish ≤ n) :
    (p.shift base).Holds bytes ↔ p.Holds ((bytes.drop base).take n) := by
  rw [Holds, Holds, range_range h]
  rfl

/-- Pieces that follow each other without a gap from `start` on. -/
def Tiles : ℕ → List Piece → Prop
  | _, [] => True
  | start, p :: rest => p.offset = start ∧ Tiles (start + p.content.length) rest

def contents (pieces : List Piece) : Bytes := pieces.flatMap content

theorem holds_append_contents {pieces : List Piece} {before : Bytes}
    (h : Tiles before.length pieces) : ∀ p ∈ pieces, p.Holds (before ++ contents pieces) := by
  induction pieces generalizing before with
  | nil => intro p hp; simp at hp
  | cons q rest ih =>
    obtain ⟨hq, hrest⟩ := h
    intro p hp
    have hsplit : before ++ contents (q :: rest) = before ++ q.content ++ contents rest := by
      rw [contents, List.flatMap_cons, ← List.append_assoc]
      rfl
    rw [hsplit]
    rcases List.mem_cons.mp hp with rfl | hp
    · rw [Holds, hq, List.append_assoc, List.drop_left, List.take_left]
    · exact ih (by rw [List.length_append]; exact hrest) p hp

/-- The concatenation of adjacent pieces holds each of them. -/
theorem holds_contents {pieces : List Piece} (h : Tiles 0 pieces) :
    ∀ p ∈ pieces, p.Holds (contents pieces) := by
  change ∀ p ∈ pieces, p.Holds ([] ++ contents pieces)
  exact holds_append_contents h

/-- Adjacent pieces end where the last of them does. -/
theorem length_contents {start : ℕ} {pieces : List Piece} {last : Piece} (h : Tiles start pieces)
    (hlast : pieces.getLast? = some last) : start + (contents pieces).length = last.finish := by
  induction pieces generalizing start with
  | nil => cases hlast
  | cons q rest ih =>
    obtain ⟨hq, hrest⟩ := h
    rw [contents, List.flatMap_cons, List.length_append, ← Nat.add_assoc]
    cases rest with
    | nil =>
      obtain rfl := Option.some.inj hlast
      rw [← hq]
      rfl
    | cons r rest =>
      rw [List.getLast?_cons_cons] at hlast
      exact ih hrest hlast

end Piece

end Corelib
