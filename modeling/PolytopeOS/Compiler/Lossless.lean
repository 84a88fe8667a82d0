import PolytopeOS.Compiler.Lexer
import Mathlib.Data.List.DropRight

/-!
# What a run of the lexer covers

The items of a run cover the source without loss exactly when no number of the
source exceeds a `u64`. On a number that does, the lexer stops at the digit that
does not fit and starts over there, so part of the number comes back as a token.
-/

namespace PolytopeOS.Compiler
open Corelib

/-- The digits around an offset. -/
def digitRunAt (source : List Char) (offset : ℕ) : Span :=
  ⟨offset - byteLength (((prefixAt source offset).getD []).rtakeWhile Char.isDigit),
    offset + byteLength (((suffixAt source offset).getD []).takeWhile Char.isDigit)⟩

/-- The source range of an item: a token's span, the digits of a number that
overflows, or the one character that is not expected. -/
def itemRange (source : List Char) : Item → Span
  | .ok token => token.span
  | .error e =>
    if e.character.isDigit then digitRunAt source e.offset
    else ⟨e.offset, e.offset + e.character.utf8Size⟩

def Span.covers (span : Span) (i : ℕ) : Bool := span.start ≤ i && i < span.finish

/-- A maximal run of digits that does not continue a word. -/
structure Number (before run after : List Char) : Prop where
  nonempty : run ≠ []
  digits : ∀ d ∈ run, d.isDigit
  left : ∀ c ∈ before.getLast?, isWordChar c = false
  right : Stops Char.isDigit after

def errorIn (span : Span) : Item → Bool
  | .ok _ => false
  | .error e => span.covers e.offset

def TokenKind.isWord : TokenKind → Bool
  | .function => true
  | .identifier _ => true
  | _ => false

/-- Lossless lexing with maximal munch. -/
structure Lossless (source : List Char) (items : List Item) : Prop where
  nonempty : ∀ item ∈ items, (itemRange source item).start < (itemRange source item).finish
  ordered : items.Pairwise fun a b => (itemRange source a).finish ≤ (itemRange source b).start
  /-- Every character outside the gaps of whitespace is in exactly one range. -/
  covered : ∀ before c after, source = before ++ c :: after → isWhitespace c = false →
    items.countP (fun item => (itemRange source item).covers (byteLength before)) = 1
  words : ∀ token, .ok token ∈ items → token.kind.isWord →
    ∃ before text after, source = before ++ (text ++ after) ∧
      token.span = ⟨byteLength before, byteLength before + byteLength text⟩ ∧
      (∃ c ∈ text.head?, isWordStart c) ∧ (∀ c ∈ text, isWordChar c) ∧ Stops isWordChar after ∧
      (before = [] ∨ (∃ c ∈ before.getLast?, isWhitespace c) ∨
        ∃ item ∈ items, (itemRange source item).finish = byteLength before)
  integers : ∀ value span, .ok ⟨.integer value, span⟩ ∈ items →
    ∃ before digits after, source = before ++ (digits ++ after) ∧
      span = ⟨byteLength before, byteLength before + byteLength digits⟩ ∧
      digits ≠ [] ∧ (∀ d ∈ digits, d.isDigit) ∧ (∀ c ∈ before.getLast?, c.isDigit = false) ∧
      Stops Char.isDigit after ∧ decimalValue digits = value.toNat
  overflow : ∀ before run after, source = before ++ (run ++ after) → Number before run after →
    2 ^ 64 ≤ decimalValue run →
    items.countP (errorIn ⟨byteLength before, byteLength before + byteLength run⟩) = 1 ∧
    ∀ value span, .ok ⟨.integer value, span⟩ ∈ items →
      span.finish ≤ byteLength before ∨ byteLength before + byteLength run ≤ span.start

/-- The error of a number that does not fit. -/
def Overflows (item : Item) : Prop := ∃ e, item = .error e ∧ e.character.isDigit

/-- A run in which no number overflows; no lexeme that starts with a digit
continues a word or a number. -/
inductive Clean : List Char → List Char → List Item → Prop
  | done {before gap : List Char} (hgap : ∀ c ∈ gap, isWhitespace c) : Clean before gap []
  | cons {before gap text after : List Char} {item : Item} {items : List Item}
      (hgap : ∀ c ∈ gap, isWhitespace c)
      (hitem : Lexeme (byteLength (before ++ gap)) text after item) (hfits : ¬Overflows item)
      (hleft : ∀ c ∈ (before ++ gap).getLast?, isWordChar c → Stops Char.isDigit text)
      (hrest : Clean (before ++ gap ++ text) after items) :
      Clean before (gap ++ (text ++ after)) (item :: items)

variable {source before rest : List Char} {items : List Item}

theorem Lexeme.itemRange {start : ℕ} {text after : List Char} {item : Item}
    (h : Lexeme start text after item) (hfits : ¬Overflows item) :
    itemRange source item = ⟨start, start + byteLength text⟩ := by
  cases h with
  | bracket hkind =>
    obtain ⟨-, -, -, hsize⟩ := classes_of_punctuation hkind
    simp [Compiler.itemRange, hsize]
  | word hc htext hafter => rfl
  | integer hne hdigits hafter hfits => rfl
  | overflow hne hdigits hd hfits' hover => exact absurd ⟨_, rfl, hd⟩ hfits
  | unexpected hspace hkind hword hdigit => simp [Compiler.itemRange, hdigit]

/-- No range starts before what is left of the source. -/
theorem Clean.le_start (h : Clean before rest items) :
    ∀ item ∈ items, byteLength before ≤ (itemRange source item).start := by
  induction h with
  | done hgap => simp
  | cons hgap hitem hfits hleft hrest ih =>
    intro item hmem
    rcases List.mem_cons.mp hmem with rfl | hmem
    · rw [hitem.itemRange hfits, byteLength_append]
      exact Nat.le_add_right _ _
    · have hle := ih item hmem
      simp only [byteLength_append] at hle
      omega

theorem Clean.nonempty (h : Clean before rest items) :
    ∀ item ∈ items, (itemRange source item).start < (itemRange source item).finish := by
  induction h with
  | done hgap => simp
  | cons hgap hitem hfits hleft hrest ih =>
    have hpos := byteLength_pos (List.length_pos_iff.mp hitem.length_pos)
    refine List.forall_mem_cons.mpr ⟨?_, ih⟩
    rw [hitem.itemRange hfits]
    exact Nat.lt_add_of_pos_right hpos

theorem Clean.ordered (h : Clean before rest items) :
    items.Pairwise fun a b => (itemRange source a).finish ≤ (itemRange source b).start := by
  induction h with
  | done hgap => exact List.Pairwise.nil
  | cons hgap hitem hfits hleft hrest ih =>
    refine List.pairwise_cons.mpr ⟨?_, ih⟩
    intro item hmem
    have hle : _ ≤ (itemRange source item).start := hrest.le_start item hmem
    rw [hitem.itemRange hfits]
    rwa [byteLength_append] at hle

theorem Clean.countP_eq_zero (h : Clean before rest items) {i : ℕ} (hi : i < byteLength before) :
    items.countP (fun item => (itemRange source item).covers i) = 0 := by
  rw [List.countP_eq_zero]
  intro item hmem
  have hle : _ ≤ (itemRange source item).start := h.le_start item hmem
  simp only [Span.covers, Bool.and_eq_true, decide_eq_true_eq]
  omega

theorem Clean.covered (h : Clean before rest items) :
    ∀ b c a, rest = b ++ c :: a → isWhitespace c = false →
      items.countP (fun item => (itemRange source item).covers (byteLength (before ++ b))) = 1 := by
  induction h with
  | done hgap =>
    rintro b c a rfl hc
    exact absurd (hgap c (by simp)) (by simp [hc])
  | @cons before gap text after item items hgap hitem hfits hleft hrest ih =>
    intro b c a hsplit hc
    rw [List.countP_cons, hitem.itemRange hfits]
    rcases append_eq_append_cons hsplit with ⟨a', rfl⟩ | ⟨b', rfl, hsplit'⟩
    · exact absurd (hgap c (by simp)) (by simp [hc])
    rcases append_eq_append_cons hsplit' with ⟨a', rfl⟩ | ⟨b'', rfl, hsplit''⟩
    · -- the character is in the lexeme, before every later range
      have hpos := c.utf8Size_pos
      rw [hrest.countP_eq_zero (by simp only [byteLength_append, byteLength_cons]; omega)]
      simp only [Span.covers, byteLength_append, byteLength_cons]
      rw [if_pos (by simp only [Bool.and_eq_true, decide_eq_true_eq]; omega)]
    · have htail := ih b'' c a hsplit'' hc
      simp only [List.append_assoc] at htail ⊢
      rw [htail]
      simp only [Span.covers, byteLength_append]
      rw [if_neg (by simp only [Bool.and_eq_true, decide_eq_true_eq]; omega)]

theorem wordKind_isWord (text : List Char) : (wordKind text).isWord = true := by
  unfold wordKind
  split <;> rfl

theorem kind_of_punctuation {c : Char} {kind : TokenKind} (h : punctuation c = some kind) :
    kind.isWord = false ∧ ∀ value, kind ≠ .integer value := by
  unfold punctuation at h
  split at h <;> first | (rw [← Option.some.inj h]; exact ⟨rfl, by simp⟩) | simp at h

/-- What whitespace adds to an offset where an item ended. -/
theorem gap_end {gap : List Char} {ended : ℕ → Prop} (hgap : ∀ c ∈ gap, isWhitespace c)
    (h : before = [] ∨ (∃ c ∈ before.getLast?, isWhitespace c) ∨ ended (byteLength before)) :
    before ++ gap = [] ∨ (∃ c ∈ (before ++ gap).getLast?, isWhitespace c) ∨
      ended (byteLength (before ++ gap)) := by
  cases hlast : gap.getLast? with
  | none =>
    rw [List.getLast?_eq_none_iff] at hlast
    rwa [hlast, List.append_nil]
  | some c =>
    refine Or.inr (Or.inl ⟨c, ?_, hgap c (List.mem_of_getLast? hlast)⟩)
    rw [List.getLast?_append, hlast]
    rfl

/-- A word starts where whitespace or an item ended, at one of the offsets of `ended`. -/
theorem Clean.words (h : Clean before rest items) (ended : ℕ → Prop)
    (hbefore : before = [] ∨ (∃ c ∈ before.getLast?, isWhitespace c) ∨ ended (byteLength before))
    (hended : ∀ item ∈ items, ended (itemRange source item).finish) :
    ∀ token, .ok token ∈ items → token.kind.isWord →
      ∃ b text a, before ++ rest = b ++ (text ++ a) ∧
        token.span = ⟨byteLength b, byteLength b + byteLength text⟩ ∧
        (∃ c ∈ text.head?, isWordStart c) ∧ (∀ c ∈ text, isWordChar c) ∧ Stops isWordChar a ∧
        (b = [] ∨ (∃ c ∈ b.getLast?, isWhitespace c) ∨ ended (byteLength b)) := by
  induction h with
  | done hgap => simp
  | @cons before gap text after item items hgap hitem hfits hleft hrest ih =>
    obtain ⟨hhead, htail⟩ := List.forall_mem_cons.mp hended
    intro token hmem hword
    rcases List.mem_cons.mp hmem with rfl | hmem
    · refine ⟨before ++ gap, text, after, by rw [source_regroup, List.append_assoc], ?_⟩
      cases hitem with
      | bracket hkind => exact absurd hword (by simp [(kind_of_punctuation hkind).1])
      | word hc htext hafter =>
        have hchar := isWordChar_iff.mpr (Or.inl hc)
        exact ⟨rfl, ⟨_, rfl, hc⟩, List.forall_mem_cons.mpr ⟨hchar, htext⟩, hafter,
          gap_end hgap hbefore⟩
      | integer hne hdigits hafter hfits => exact absurd hword (by simp [TokenKind.isWord])
    · rw [source_regroup]
      refine ih (Or.inr (Or.inr ?_)) htail token hmem hword
      rw [hitem.itemRange hfits] at hhead
      rwa [byteLength_append]

theorem not_stops_digits {digits : List Char} (hne : digits ≠ [])
    (hdigits : ∀ d ∈ digits, d.isDigit) : ¬Stops Char.isDigit digits := by
  obtain ⟨d, rest, rfl, hd⟩ := exists_digit_cons hne hdigits
  rw [stops_cons, hd]
  simp

theorem Lexeme.integer_inv {start : ℕ} {text after : List Char} {value : UInt64} {span : Span}
    (h : Lexeme start text after (.ok ⟨.integer value, span⟩)) :
    span = ⟨start, start + byteLength text⟩ ∧ text ≠ [] ∧ (∀ d ∈ text, d.isDigit) ∧
      Stops Char.isDigit after ∧ decimalValue text = value.toNat := by
  generalize hitem : (.ok ⟨.integer value, span⟩ : Item) = item at h
  cases h with
  | bracket hkind =>
    obtain ⟨rfl, -⟩ := Token.mk.inj (Except.ok.inj hitem)
    exact absurd rfl ((kind_of_punctuation hkind).2 value)
  | @word c word _ hc htext hafter =>
    obtain ⟨hkind, -⟩ := Token.mk.inj (Except.ok.inj hitem)
    have hword := wordKind_isWord (c :: word)
    rw [← hkind] at hword
    exact absurd hword (by simp [TokenKind.isWord])
  | integer hne hdigits hafter hfits =>
    obtain ⟨hkind, rfl⟩ := Token.mk.inj (Except.ok.inj hitem)
    rw [TokenKind.integer.inj hkind, UInt64.toNat_ofNat_of_lt' hfits]
    exact ⟨rfl, hne, hdigits, hafter, rfl⟩
  | overflow hne hdigits hd hfits hover => simp at hitem
  | unexpected hspace hkind hword hdigit => simp at hitem

theorem Clean.integers (h : Clean before rest items) :
    ∀ value span, .ok ⟨.integer value, span⟩ ∈ items →
      ∃ b digits a, before ++ rest = b ++ (digits ++ a) ∧
        span = ⟨byteLength b, byteLength b + byteLength digits⟩ ∧ digits ≠ [] ∧
        (∀ d ∈ digits, d.isDigit) ∧ (∀ c ∈ b.getLast?, c.isDigit = false) ∧
        Stops Char.isDigit a ∧ decimalValue digits = value.toNat := by
  induction h with
  | done hgap => simp
  | @cons before gap text after item items hgap hitem hfits hleft hrest ih =>
    intro value span hmem
    rcases List.mem_cons.mp hmem with rfl | hmem
    · obtain ⟨hspan, hne, hdigits, hafter, hvalue⟩ := hitem.integer_inv
      refine ⟨before ++ gap, text, after, by rw [source_regroup, List.append_assoc], hspan, hne,
        hdigits, ?_, hafter, hvalue⟩
      intro c hc
      by_contra hdigit
      have hchar := isWordChar_iff.mpr (Or.inr (Bool.eq_true_of_not_eq_false hdigit))
      exact not_stops_digits hne hdigits (hleft c hc hchar)
    · rw [source_regroup]
      exact ih value span hmem

/-- A lexeme that ends with a word character is followed by no digit. -/
theorem Lexeme.no_digit_after {start : ℕ} {text after : List Char} {item : Item}
    (h : Lexeme start text after item) (hfits : ¬Overflows item) :
    ∀ c ∈ (before ++ text).getLast?, isWordChar c → Stops Char.isDigit after := by
  intro c hc hchar
  cases h with
  | bracket hkind =>
    obtain ⟨-, hword, hdigit, -⟩ := classes_of_punctuation hkind
    rw [List.getLast?_concat, Option.mem_some_iff] at hc
    rw [← hc, isWordChar_eq_false hword hdigit] at hchar
    exact absurd hchar (by simp)
  | word hc htext hafter => exact stops_isDigit_of_isWordChar hafter
  | integer hne hdigits hafter hfits => exact hafter
  | overflow hne hdigits hd hfits' hover => exact absurd ⟨_, rfl, hd⟩ hfits
  | unexpected hspace hkind hword hdigit =>
    rw [List.getLast?_concat, Option.mem_some_iff] at hc
    rw [← hc, isWordChar_eq_false hword hdigit] at hchar
    exact absurd hchar (by simp)

/-- Whitespace separates, so no lexeme that starts with a digit continues a word. -/
theorem no_digit_after_gap {gap text after : List Char} (hne : text ≠ [])
    (hgap : ∀ c ∈ gap, isWhitespace c)
    (h : ∀ c ∈ before.getLast?, isWordChar c → Stops Char.isDigit (gap ++ (text ++ after))) :
    ∀ c ∈ (before ++ gap).getLast?, isWordChar c → Stops Char.isDigit text := by
  intro c hc hchar
  cases hlast : gap.getLast? with
  | none =>
    rw [List.getLast?_eq_none_iff] at hlast
    subst hlast
    rw [List.append_nil] at hc
    have hstops := h c hc hchar
    obtain ⟨d, text, rfl⟩ := List.exists_cons_of_ne_nil hne
    exact stops_cons.mpr (stops_cons.mp hstops)
  | some d =>
    rw [List.getLast?_append, hlast, Option.some_or, Option.mem_some_iff] at hc
    subst hc
    rw [isWordChar_of_isWhitespace (hgap d (List.mem_of_getLast? hlast))] at hchar
    exact absurd hchar (by simp)

theorem decimalValue_append_le (a b : List Char) : decimalValue a ≤ decimalValue (a ++ b) := by
  rw [decimalValue, decimalValue, Nat.ofDigitChars_append]
  exact le_ofDigitChars b _

/-- The number whose error this is does not fit. -/
theorem exists_number_of_overflow {digits after : List Char} {d : Char}
    (hne : digits ≠ []) (hdigits : ∀ d ∈ digits, d.isDigit) (hd : d.isDigit)
    (hover : 2 ^ 64 ≤ decimalValue (digits ++ [d]))
    (hleft : ∀ c ∈ before.getLast?, isWordChar c → Stops Char.isDigit digits) :
    ∃ run a, digits ++ d :: after = run ++ a ∧ Number before run a ∧ 2 ^ 64 ≤ decimalValue run := by
  obtain ⟨part, tail, rfl, hpart, htail⟩ := exists_scan Char.isDigit after
  refine ⟨digits ++ [d] ++ part, tail, by simp, ⟨by simp, ?_, ?_, htail⟩, ?_⟩
  · intro e he
    rcases List.mem_append.mp he with he | he
    · rcases List.mem_append.mp he with he | he
      · exact hdigits e he
      · rwa [List.mem_singleton.mp he]
    · exact hpart e he
  · intro c hc
    by_contra hchar
    exact not_stops_digits hne hdigits (hleft c hc (Bool.eq_true_of_not_eq_false hchar))
  · exact hover.trans (decimalValue_append_le _ _)

/-- Where every number fits, no number overflows. -/
theorem Lexed.clean (h : Lexed before rest items)
    (hleft : ∀ c ∈ before.getLast?, isWordChar c → Stops Char.isDigit rest)
    (hfits : ∀ b run a, rest = b ++ (run ++ a) → Number (before ++ b) run a →
      decimalValue run < 2 ^ 64) : Clean before rest items := by
  induction h with
  | done hgap => exact .done hgap
  | @cons before gap text after item items hgap hitem hrest ih =>
    have hne := List.length_pos_iff.mp hitem.length_pos
    have hleft' := no_digit_after_gap hne hgap hleft
    have hitem' : ¬Overflows item := by
      rintro ⟨e, rfl, he⟩
      cases hitem with
      | overflow _ hdigits hd hfits' hover =>
        obtain ⟨run, a, hsplit, hnumber, hlarge⟩ :=
          exists_number_of_overflow hne hdigits hd hover hleft'
        exact absurd (hfits gap run a (by rw [← hsplit]) hnumber) (Nat.not_lt.mpr hlarge)
      | unexpected _ _ _ hdigit => exact absurd he (by simp [hdigit])
    refine .cons hgap hitem hitem' hleft' (ih (hitem.no_digit_after hitem') ?_)
    intro b run a hsplit hnumber
    refine hfits (gap ++ (text ++ b)) run a (by simp [hsplit]) ?_
    simpa only [List.append_assoc] using hnumber

/-- An error names the character at its offset. -/
theorem Lexed.character_at (h : Lexed before rest items) :
    ∀ e, .error e ∈ items →
      ∃ b a, before ++ rest = b ++ e.character :: a ∧ byteLength b = e.offset := by
  induction h with
  | done hgap => simp
  | @cons before gap text after item items hgap hitem hrest ih =>
    intro e hmem
    rcases List.mem_cons.mp hmem with rfl | hmem
    · cases hitem with
      | @overflow _ tail d _ _ _ _ _ =>
        exact ⟨before ++ gap ++ text, tail, source_regroup _ _ _ _, byteLength_append⟩
      | unexpected _ _ _ _ => exact ⟨before ++ gap, after, by simp, rfl⟩
    · obtain ⟨b, a, hsplit, hoffset⟩ := ih e hmem
      refine ⟨b, a, ?_, hoffset⟩
      rw [← hsplit, source_regroup]

/-- An integer token starts right after a digit. -/
def Resumes (source : List Char) (items : List Item) : Prop :=
  ∃ value b tail finish, .ok ⟨.integer value, ⟨byteLength b, finish⟩⟩ ∈ items ∧
    source = b ++ tail ∧ ∃ c ∈ b.getLast?, c.isDigit

theorem Resumes.cons {item : Item} (h : Resumes source items) : Resumes source (item :: items) := by
  obtain ⟨value, b, tail, finish, hmem, hsource, hlast⟩ := h
  exact ⟨value, b, tail, finish, List.mem_cons_of_mem _ hmem, hsource, hlast⟩

theorem exists_digit_last {digits : List Char} (hne : digits ≠ [])
    (hdigits : ∀ d ∈ digits, d.isDigit) : ∃ c ∈ (before ++ digits).getLast?, c.isDigit := by
  refine ⟨digits.getLast hne, ?_, hdigits _ (List.getLast_mem hne)⟩
  rw [List.getLast?_append, List.getLast?_eq_some_getLast hne]
  rfl

/-- A run that starts inside a number returns the last part of it as a token. -/
theorem Lexed.resumes_of_digit (h : Lexed before rest items)
    (hbefore : ∃ c ∈ before.getLast?, c.isDigit) (hrest : ∃ c ∈ rest.head?, c.isDigit) :
    Resumes (before ++ rest) items := by
  induction h with
  | done hgap =>
    obtain ⟨c, hc, hdigit⟩ := hrest
    have hspace := hgap c (List.mem_of_head? hc)
    exact absurd hspace (by simp [(classes_of_digit hdigit).1])
  | @cons before gap text after item items hgap hitem htail ih =>
    obtain ⟨c, hc, hdigit⟩ := hrest
    -- the first character is a digit, so there is no whitespace before the lexeme
    cases gap with
    | cons d gap =>
      obtain rfl : d = c := Option.some.inj hc
      exact absurd (hgap d List.mem_cons_self) (by simp [(classes_of_digit hdigit).1])
    | nil =>
      cases hitem with
      | bracket hkind =>
        obtain rfl := Option.some.inj hc
        exact absurd hdigit (by simp [(classes_of_punctuation hkind).2.2.1])
      | word hword htext hafter =>
        obtain rfl := Option.some.inj hc
        exact absurd hdigit (by simp [(classes_of_wordStart hword).2.2])
      | integer hne hdigits hafter hfits =>
        refine ⟨_, before ++ [], text ++ after, _, List.mem_cons_self, by simp, ?_⟩
        rwa [List.append_nil]
      | @overflow _ tail d hne hdigits hd hfits hover =>
        rw [source_regroup]
        exact (ih (exists_digit_last hne hdigits) ⟨d, rfl, hd⟩).cons
      | unexpected hspace hkind hword hother =>
        obtain rfl := Option.some.inj hc
        exact absurd hdigit (by simp [hother])

/-- After an overflow the lexer starts over inside the number. -/
theorem Lexed.resumes (h : Lexed before rest items) (hover : ∃ item ∈ items, Overflows item) :
    Resumes (before ++ rest) items := by
  induction h with
  | done hgap => simp at hover
  | @cons before gap text after item items hgap hitem htail ih =>
    rw [source_regroup]
    obtain ⟨item', hmem, e, rfl, he⟩ := hover
    rcases List.mem_cons.mp hmem with rfl | hmem
    · cases hitem with
      | @overflow _ tail d hne hdigits hd hfits hover =>
        exact (htail.resumes_of_digit (exists_digit_last hne hdigits) ⟨d, rfl, hd⟩).cons
      | unexpected _ _ _ hdigit => exact absurd he (by simp [hdigit])
    · exact (ih ⟨_, hmem, e, rfl, he⟩).cons

theorem Lossless.not_resumes (h : Lossless source items) : ¬Resumes source items := by
  rintro ⟨value, b, tail, finish, hmem, hsource, c, hc, hdigit⟩
  obtain ⟨b', digits, a, hsplit, hspan, -, -, hleft, -⟩ := h.integers value _ hmem
  obtain rfl : b = b' := prefix_inj (hsource.symm.trans hsplit) (congrArg Span.start hspan)
  exact absurd hdigit (by simp [hleft c hc])

/-- A lossless run has no number that overflows. -/
theorem Lossless.fits (h : Lossless source items) (hrun : Lexed [] source items)
    {run after : List Char} (hsource : source = before ++ (run ++ after))
    (hnumber : Number before run after) : decimalValue run < 2 ^ 64 := by
  by_contra hlarge
  obtain ⟨hcount, -⟩ := h.overflow before run after hsource hnumber (Nat.le_of_not_lt hlarge)
  obtain ⟨item, hmem, hin⟩ := List.countP_pos_iff.mp (hcount ▸ Nat.one_pos)
  cases item with
  | ok token => exact absurd hin (by simp [errorIn])
  | error e =>
    obtain ⟨b, a, hsplit, hoffset⟩ := hrun.character_at e hmem
    simp only [errorIn, Span.covers, Bool.and_eq_true, decide_eq_true_eq] at hin
    have hrunmem : e.character ∈ run :=
      mem_of_offset (hsource.symm.trans hsplit) (by omega) (by omega)
    exact h.not_resumes (hrun.resumes ⟨_, hmem, e, rfl, hnumber.digits _ hrunmem⟩)

theorem Clean.lossless (h : Clean [] source items)
    (hfits : ∀ before run after, source = before ++ (run ++ after) → Number before run after →
      decimalValue run < 2 ^ 64) : Lossless source items where
  nonempty := h.nonempty
  ordered := h.ordered
  covered := h.covered
  words := h.words (fun i => ∃ item ∈ items, (itemRange source item).finish = i) (Or.inl rfl)
    fun item hmem => ⟨item, hmem, rfl⟩
  integers := h.integers
  overflow := fun before run after hsource hnumber hlarge =>
    absurd (hfits before run after hsource hnumber) (Nat.not_lt.mpr hlarge)

/-- Lexing is lossless with maximal munch exactly on the sources whose numbers all
fit in a `u64`. -/
theorem lossless_iff_numbers_fit (source : List Char) :
    (∃ items, (∀ fuel, source.length < fuel → (Lexer.new source).collect fuel = .ok items) ∧
      Lossless source items) ↔
    ∀ before run after, source = before ++ (run ++ after) → Number before run after →
      decimalValue run < 2 ^ 64 := by
  obtain ⟨run, hrun⟩ := exists_lexed [] source
  constructor
  · rintro ⟨items, hitems, hlossless⟩
    have heq := (hitems _ (Nat.lt_succ_self _)).symm.trans (collect_new hrun (Nat.lt_succ_self _))
    obtain rfl := Exec.ok.inj heq
    intro before number after hsource hnumber
    exact hlossless.fits hrun hsource hnumber
  · intro hfits
    have hclean : Clean [] source run := hrun.clean (by simp) hfits
    exact ⟨run, fun fuel hfuel => collect_new hrun hfuel, hclean.lossless hfits⟩

/-- The number after `u64::MAX` is reported at its last digit, which then comes back
as a token of its own. -/
theorem large_number_breaks_lossless :
    ¬∃ items, (∀ fuel, "18446744073709551616".toList.length < fuel →
        (Lexer.new "18446744073709551616".toList).collect fuel = .ok items) ∧
      Lossless "18446744073709551616".toList items := by
  rintro ⟨items, hitems, hlossless⟩
  have hrun : (Lexer.new "18446744073709551616".toList).collect 21 =
      .ok [.error ⟨'6', 19⟩, .ok ⟨.integer 6, ⟨19, 20⟩⟩] := by decide +kernel
  have heq := (hitems 21 (by decide +kernel)).symm.trans hrun
  obtain rfl := Exec.ok.inj heq
  have hordered := (List.pairwise_cons.mp hlossless.ordered).1 _ (List.mem_singleton_self _)
  exact absurd hordered (by decide +kernel)

end PolytopeOS.Compiler
