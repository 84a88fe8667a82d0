import PolytopeOS.Corelib.LittleEndian
import Mathlib.Data.List.Infix

/-!
# Text in byte streams

A string is its UTF-8 bytes. `lossy` decodes a byte stream, each malformed part
becoming one replacement character; the search for an ASCII text gives the same
answer before and after.
-/

namespace Corelib

/-- `haystack.contains(needle)`. -/
def contains (haystack needle : Bytes) : Bool := decide (needle <:+: haystack)

theorem contains_iff {haystack needle : Bytes} :
    contains haystack needle = true ↔ needle <:+: haystack := decide_eq_true_iff

variable {α : Type}

theorem prefix_append_cons_iff {needle xs ys : List α} {a : α} (ha : a ∉ needle) :
    needle <+: xs ++ a :: ys ↔ needle <+: xs := by
  induction xs generalizing needle with
  | nil =>
    cases needle with
    | nil => simp
    | cons b needle =>
      have hne : b ≠ a := fun h => ha (h ▸ List.mem_cons_self)
      simp [List.cons_prefix_cons, hne]
  | cons x xs ih =>
    cases needle with
    | nil => simp
    | cons b needle =>
      rw [List.cons_append, List.cons_prefix_cons, List.cons_prefix_cons,
        ih fun h => ha (List.mem_cons_of_mem b h)]

/-- A text without the separator lies on one side of it. -/
theorem infix_append_cons_iff {needle xs ys : List α} {a : α} (ha : a ∉ needle) :
    needle <:+: xs ++ a :: ys ↔ needle <:+: xs ∨ needle <:+: ys := by
  induction xs with
  | nil =>
    rw [List.nil_append, List.infix_cons_iff, ← List.nil_append (a :: ys),
      prefix_append_cons_iff ha, List.prefix_nil, List.infix_nil]
  | cons x xs ih =>
    rw [List.cons_append, List.infix_cons_iff, List.infix_cons_iff, ← List.cons_append,
      prefix_append_cons_iff ha, ih, or_assoc]

/-- The ranges of the bytes that complete a multi-byte character. -/
def tailRanges (lead : UInt8) : List (UInt8 × UInt8) :=
  if 0xc2 ≤ lead ∧ lead ≤ 0xdf then [(0x80, 0xbf)]
  else if lead = 0xe0 then [(0xa0, 0xbf), (0x80, 0xbf)]
  else if 0xe1 ≤ lead ∧ lead ≤ 0xec then [(0x80, 0xbf), (0x80, 0xbf)]
  else if lead = 0xed then [(0x80, 0x9f), (0x80, 0xbf)]
  else if 0xee ≤ lead ∧ lead ≤ 0xef then [(0x80, 0xbf), (0x80, 0xbf)]
  else if lead = 0xf0 then [(0x90, 0xbf), (0x80, 0xbf), (0x80, 0xbf)]
  else if 0xf1 ≤ lead ∧ lead ≤ 0xf3 then [(0x80, 0xbf), (0x80, 0xbf), (0x80, 0xbf)]
  else if lead = 0xf4 then [(0x80, 0x8f), (0x80, 0xbf), (0x80, 0xbf)]
  else []

/-- How many of the ranges the stream satisfies from its start on. -/
def matched : List (UInt8 × UInt8) → Bytes → ℕ
  | (low, high) :: ranges, byte :: bytes =>
    if low ≤ byte ∧ byte ≤ high then matched ranges bytes + 1 else 0
  | _, _ => 0

def replacement : Bytes := [0xef, 0xbf, 0xbd]

/-- `String::from_utf8_lossy`. A lead byte with no ranges cannot start a character. -/
def lossy : Bytes → Bytes
  | [] => []
  | byte :: rest =>
    if byte < 0x80 then byte :: lossy rest
    else
      let ranges := tailRanges byte
      let count := matched ranges rest
      (if ranges ≠ [] ∧ count = ranges.length then byte :: rest.take count else replacement) ++
        lossy (rest.drop count)
termination_by bytes => bytes.length

def High (bytes : Bytes) : Prop := ∀ byte ∈ bytes, 0x80 ≤ byte

theorem tailRanges_high (lead : UInt8) : ∀ range ∈ tailRanges lead, 0x80 ≤ range.1 := by
  unfold tailRanges
  split_ifs <;> simp

theorem matched_high {ranges : List (UInt8 × UInt8)} (h : ∀ range ∈ ranges, 0x80 ≤ range.1)
    (bytes : Bytes) : High (bytes.take (matched ranges bytes)) := by
  fun_induction matched ranges bytes with
  | case1 low high ranges byte bytes hrange ih =>
    rw [List.forall_mem_cons] at h
    rw [High, List.take_succ_cons, List.forall_mem_cons]
    exact ⟨UInt8.le_trans h.1 hrange.1, ih h.2⟩
  | case2 => exact nofun
  | case3 => exact nofun

/-- An ASCII text does not begin at a byte above the ASCII range. -/
theorem not_prefix_high {needle : Bytes} {byte : UInt8} (bytes : Bytes) (hne : needle ≠ [])
    (hascii : ∀ b ∈ needle, b < 0x80) (hbyte : 0x80 ≤ byte) : ¬needle <+: byte :: bytes := by
  cases needle with
  | nil => exact absurd rfl hne
  | cons b needle =>
    rw [List.cons_prefix_cons]
    rintro ⟨rfl, -⟩
    exact UInt8.not_le.mpr (hascii b List.mem_cons_self) hbyte

theorem infix_high_append {needle high bytes : Bytes} (hne : needle ≠ [])
    (hascii : ∀ b ∈ needle, b < 0x80) (hhigh : High high) :
    needle <:+: high ++ bytes ↔ needle <:+: bytes := by
  induction high with
  | nil => rfl
  | cons byte high ih =>
    rw [High, List.forall_mem_cons] at hhigh
    rw [List.cons_append, List.infix_cons_iff, ih hhigh.2]
    exact or_iff_right (not_prefix_high _ hne hascii hhigh.1)

/-- Decoding turns a malformed or multi-byte part into bytes of the same range. -/
theorem lossy_high {byte : UInt8} (rest : Bytes) (h : ¬byte < 0x80) :
    ∃ high count, lossy (byte :: rest) = high ++ lossy (rest.drop count) ∧ High high ∧
      high ≠ [] ∧ High (byte :: rest.take count) := by
  have hbyte : 0x80 ≤ byte := UInt8.not_lt.mp h
  have htake := matched_high (tailRanges_high byte) rest
  refine ⟨_, matched (tailRanges byte) rest, by rw [lossy, if_neg h], ?_, ?_, ?_⟩
  · split
    · exact List.forall_mem_cons.mpr ⟨hbyte, htake⟩
    · simp [High, replacement]
  · split
    · exact List.cons_ne_nil _ _
    · decide
  · exact List.forall_mem_cons.mpr ⟨hbyte, htake⟩

theorem prefix_lossy {needle : Bytes} (hascii : ∀ b ∈ needle, b < 0x80) (bytes : Bytes) :
    needle <+: lossy bytes ↔ needle <+: bytes := by
  induction needle generalizing bytes with
  | nil => simp
  | cons b needle ih =>
    cases bytes with
    | nil => rw [lossy]
    | cons byte rest =>
      by_cases hbyte : byte < 0x80
      · rw [List.forall_mem_cons] at hascii
        rw [lossy, if_pos hbyte, List.cons_prefix_cons, List.cons_prefix_cons, ih hascii.2]
      · obtain ⟨high, count, hlossy, hhigh, hne, _⟩ := lossy_high rest hbyte
        have hright := not_prefix_high rest (List.cons_ne_nil b needle) hascii
          (UInt8.not_lt.mp hbyte)
        obtain ⟨first, others, rfl⟩ := List.exists_cons_of_ne_nil hne
        have hleft := not_prefix_high (others ++ lossy (rest.drop count))
          (List.cons_ne_nil b needle) hascii (hhigh first List.mem_cons_self)
        rw [hlossy, List.cons_append]
        exact iff_of_false hleft hright

/-- An ASCII text is found in the decoded stream exactly where it was. -/
theorem infix_lossy {needle : Bytes} (hne : needle ≠ []) (hascii : ∀ b ∈ needle, b < 0x80)
    (bytes : Bytes) : needle <:+: lossy bytes ↔ needle <:+: bytes := by
  induction hn : bytes.length using Nat.strong_induction_on generalizing bytes with
  | _ n ih =>
    cases bytes with
    | nil => rw [lossy]
    | cons byte rest =>
      by_cases hbyte : byte < 0x80
      · have hprefix := prefix_lossy hascii (byte :: rest)
        rw [lossy, if_pos hbyte] at hprefix ⊢
        rw [List.infix_cons_iff, List.infix_cons_iff, hprefix,
          ih rest.length (by rw [← hn]; simp) rest rfl]
      · obtain ⟨high, count, hlossy, hhigh, _, htake⟩ := lossy_high rest hbyte
        have hdrop : (rest.drop count).length < n := by
          rw [← hn, List.length_drop, List.length_cons]
          omega
        rw [hlossy, infix_high_append hne hascii hhigh, ih _ hdrop _ rfl,
          ← infix_high_append hne hascii htake, List.cons_append, List.take_append_drop]

theorem matched_le (ranges : List (UInt8 × UInt8)) (bytes : Bytes) :
    matched ranges bytes ≤ ranges.length := by
  fun_induction matched ranges bytes with
  | case1 low high ranges byte bytes hrange ih => exact Nat.succ_le_succ ih
  | case2 => exact Nat.zero_le _
  | case3 => exact Nat.zero_le _

theorem length_tailRanges_le (lead : UInt8) : (tailRanges lead).length ≤ 3 := by
  unfold tailRanges
  split_ifs <;> simp

/-- A malformed part has at most three bytes, so decoding never shortens. -/
theorem length_le_lossy (bytes : Bytes) : bytes.length ≤ (lossy bytes).length := by
  fun_induction lossy bytes with
  | case1 => exact Nat.le_refl _
  | case2 byte rest hascii ih => exact Nat.succ_le_succ ih
  | case3 byte rest hascii ranges count ih =>
    have hcount : count ≤ ranges.length := matched_le ranges rest
    have hranges : ranges.length ≤ 3 := length_tailRanges_le byte
    rw [List.length_drop] at ih
    rw [List.length_append, List.length_cons]
    split
    · rw [List.length_cons, List.length_take]
      omega
    · next hpartial =>
      have hless : count < 3 := by
        by_cases hnil : ranges = []
        · rw [hnil, List.length_nil] at hcount
          omega
        · have hne : count ≠ ranges.length := fun heq => hpartial ⟨hnil, heq⟩
          omega
      have hreplacement : replacement.length = 3 := rfl
      omega

theorem matched_le_length (ranges : List (UInt8 × UInt8)) (bytes : Bytes) :
    matched ranges bytes ≤ bytes.length := by
  fun_induction matched ranges bytes with
  | case1 low high ranges byte bytes hrange ih => exact Nat.succ_le_succ ih
  | case2 => exact Nat.zero_le _
  | case3 => exact Nat.zero_le _

/-- A multi-byte character does not reach over an ASCII byte. -/
theorem matched_append_cons {ranges : List (UInt8 × UInt8)} {byte : UInt8}
    (hranges : ∀ range ∈ ranges, 0x80 ≤ range.1) (hbyte : byte < 0x80) (bytes more : Bytes) :
    matched ranges (bytes ++ byte :: more) = matched ranges bytes := by
  induction ranges generalizing bytes with
  | nil => rw [matched.eq_def, matched.eq_def]
  | cons range ranges ih =>
    obtain ⟨low, high⟩ := range
    rw [List.forall_mem_cons] at hranges
    cases bytes with
    | nil =>
      have hout : ¬(low ≤ byte ∧ byte ≤ high) := fun h =>
        UInt8.not_le.mpr hbyte (UInt8.le_trans hranges.1 h.1)
      simp [matched, hout]
    | cons first bytes => rw [List.cons_append, matched, matched, ih hranges.2]

/-- An ASCII byte separates what is decoded before it and after it. -/
theorem lossy_append_cons {byte : UInt8} (hbyte : byte < 0x80) (bytes more : Bytes) :
    lossy (bytes ++ byte :: more) = lossy bytes ++ byte :: lossy more := by
  fun_induction lossy bytes with
  | case1 => rw [List.nil_append, lossy, if_pos hbyte, List.nil_append]
  | case2 first rest hascii ih =>
    rw [List.cons_append, lossy, if_pos hascii, ih, List.cons_append]
  | case3 first rest hascii ranges count ih =>
    have hcount : matched ranges (rest ++ byte :: more) = count :=
      matched_append_cons (tailRanges_high first) hbyte rest more
    have hle : count ≤ rest.length := matched_le_length ranges rest
    rw [List.cons_append, lossy, if_neg hascii]
    change (if ranges ≠ [] ∧ matched ranges (rest ++ byte :: more) = ranges.length then _ else _) ++
      _ = _
    rw [hcount, List.take_append_of_le_length hle, List.drop_append_of_le_length hle, ih,
      List.append_assoc]

theorem lossy_of_ascii {bytes : Bytes} (h : bytes.all (· < 0x80) = true) :
    lossy bytes = bytes := by
  induction bytes with
  | nil => rw [lossy]
  | cons byte bytes ih =>
    rw [List.all_cons, Bool.and_eq_true, decide_eq_true_eq] at h
    rw [lossy, if_pos h.1, ih h.2]

end Corelib
