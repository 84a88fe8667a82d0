import PolytopeOS.Corelib.Boundaries
import PolytopeOS.Corelib.Iterator
import PolytopeOS.Compiler.Lexer

/-!
# Progress of the lexer

`next` with its slices as the source takes them, a new one in every round of its
three loops. It is the scanning `next`, slice by slice, so the offset never
leaves the character boundaries; a call that returns an item moves the offset,
and a call that returns none has reached the end and stays there.
-/

namespace PolytopeOS.Compiler
open Corelib

/-- The loop of the integer branch, with a slice of the source in every round. -/
def integerLoop {ε : Type} (source : List Char) (offset : ℕ) (value : UInt64) :
    Exec ε (Except LexError UInt64 × ℕ) :=
  match _hslice : suffixAt source offset with
  | none => .panic
  | some [] => .ok (.ok value, offset)
  | some (next :: _) =>
    match toDigit next with
    | none => .ok (.ok value, offset)
    | some digit =>
      match (checkedMul value 10).bind (checkedAdd · digit) with
      | none => .ok (.error ⟨next, offset⟩, offset)
      | some updated => integerLoop source (offset + next.utf8Size) updated
termination_by byteLength source - offset
decreasing_by
  have hlt := lt_of_suffixAt _hslice
  have hpos := next.utf8Size_pos
  omega

/-- One call of `next`. -/
def Lexer.nextSliced {ε : Type} (lexer : Lexer) : Exec ε (Option Item × Lexer) := do
  let start ← skipWhile isWhitespace lexer.source lexer.offset
  match ← charAt lexer.source start with
  | none => return (none, { lexer with offset := start })
  | some character =>
    match punctuation character with
    | some kind =>
      return (some (.ok ⟨kind, ⟨start, start + 1⟩⟩), { lexer with offset := start + 1 })
    | none =>
      if isWordStart character then
        let finish ← skipWhile isWordChar lexer.source (start + character.utf8Size)
        let text ← Exec.unwrap (textAt lexer.source start finish)
        return (some (.ok ⟨wordKind text, ⟨start, finish⟩⟩), { lexer with offset := finish })
      else if character.isDigit then
        -- an overflow leaves the offset at the digit that does not fit
        let (value, finish) ← integerLoop lexer.source start 0
        return (some (value.map fun v => ⟨.integer v, ⟨start, finish⟩⟩),
          { lexer with offset := finish })
      else
        return (some (.error ⟨character, start⟩),
          { lexer with offset := start + character.utf8Size })

/-- The span of a token, or the offset of an error, lies in a source of that length. -/
def ItemWithin (length : ℕ) : Item → Prop
  | .ok token => token.span.start < token.span.finish ∧ token.span.finish ≤ length
  | .error e => e.offset < length

/-- A lexer of the source that stands between two of its characters. -/
structure Lexer.Positioned (source : List Char) (lexer : Lexer) : Prop where
  source_eq : lexer.source = source
  boundary : IsCharBoundary source lexer.offset

/-- The number of characters that a lexer has not read. -/
def Lexer.unread (lexer : Lexer) : ℕ := ((suffixAt lexer.source lexer.offset).getD []).length

variable {ε : Type} {source rest : List Char} {offset : ℕ} {value : UInt64}

theorem integerLoop_of_nil (h : suffixAt source offset = some []) :
    integerLoop source offset value = (.ok (.ok value, offset) : Exec ε _) := by
  rw [integerLoop]
  split <;> simp_all

theorem integerLoop_of_cons {next : Char} (h : suffixAt source offset = some (next :: rest)) :
    integerLoop source offset value =
      (match toDigit next with
      | none => .ok (.ok value, offset)
      | some digit =>
        match (checkedMul value 10).bind (checkedAdd · digit) with
        | none => .ok (.error ⟨next, offset⟩, offset)
        | some updated => integerLoop source (offset + next.utf8Size) updated : Exec ε _) := by
  rw [integerLoop]
  split <;> simp_all

theorem integerLoop_eq (h : suffixAt source offset = some rest) :
    integerLoop source offset value = (.ok (scanInteger rest offset value) : Exec ε _) := by
  induction rest generalizing offset value with
  | nil => exact integerLoop_of_nil h
  | cons next rest ih =>
    rw [integerLoop_of_cons h, scanInteger]
    cases toDigit next with
    | none => rfl
    | some digit =>
      cases hupdated : (checkedMul value 10).bind (checkedAdd · digit) with
      | none => simp only [hupdated]
      | some updated =>
        simp only [hupdated]
        exact ih (suffixAt_step h)

/-- Slicing in every round changes nothing. -/
theorem nextSliced_eq_next : (Lexer.nextSliced : Lexer → Exec ε _) = Lexer.next := by
  funext lexer
  rw [Lexer.nextSliced, Lexer.next]
  cases hslice : suffixAt lexer.source lexer.offset with
  | none =>
    rw [skipWhile_of_none hslice]
    rfl
  | some rest =>
    have hstart := suffixAt_scanWhile (p := isWhitespace) hslice
    rw [skipWhile_eq hslice, Exec.unwrap_some, Exec.ok_bind, Exec.ok_bind]
    generalize scanWhile isWhitespace rest lexer.offset = scanned at hstart ⊢
    obtain ⟨start, rest⟩ := scanned
    dsimp only at hstart ⊢
    rw [charAt_of_suffixAt hstart, Exec.ok_bind]
    cases rest with
    | nil => rfl
    | cons character rest =>
      cases hkind : punctuation character with
      | some kind => simp only [List.head?_cons, hkind]
      | none =>
        simp only [List.head?_cons, hkind, skipWhile_eq (suffixAt_step hstart),
          integerLoop_eq hstart, Exec.ok_bind]

theorem positioned_append (before rest : List Char) :
    Lexer.Positioned (before ++ rest) ⟨before ++ rest, byteLength before⟩ :=
  ⟨rfl, exists_suffixAt_iff.mp ⟨rest, suffixAt_append before rest⟩⟩

theorem Lexer.Positioned.exists_append {lexer : Lexer} (h : lexer.Positioned source) :
    ∃ before rest, source = before ++ rest ∧ lexer = ⟨before ++ rest, byteLength before⟩ := by
  obtain ⟨rest, hslice⟩ := exists_suffixAt_iff.mpr h.boundary
  obtain ⟨before, hsource, hoffset⟩ := suffixAt_eq_some.mp hslice
  exact ⟨before, rest, hsource, by rw [← hsource, ← hoffset, ← h.source_eq]⟩

theorem unread_append (before rest : List Char) :
    (Lexer.mk (before ++ rest) (byteLength before)).unread = rest.length := by
  rw [Lexer.unread, suffixAt_append, Option.getD_some]

theorem Lexer.Positioned.offset_le {lexer : Lexer} (h : lexer.Positioned source) :
    lexer.offset ≤ byteLength source := by
  obtain ⟨before, rest, rfl, rfl⟩ := h.exists_append
  rw [byteLength_append]
  exact Nat.le_add_right _ _

/-- What a lexeme returns lies in its text, or is the digit after it. -/
theorem Lexeme.within {start length : ℕ} {text after : List Char} {item : Item}
    (h : Lexeme start text after item) (hlen : start + byteLength (text ++ after) ≤ length) :
    ItemWithin length item := by
  have hpos := byteLength_pos (List.ne_nil_of_length_pos h.length_pos)
  rw [byteLength_append] at hlen
  cases h with
  | bracket hkind =>
    obtain ⟨-, -, -, hsize⟩ := classes_of_punctuation hkind
    rw [byteLength_cons, byteLength_nil, hsize] at hlen
    exact ⟨Nat.lt_succ_self _, by dsimp only; omega⟩
  | word hc htext hafter => exact ⟨by dsimp only; omega, by dsimp only; omega⟩
  | integer hne hdigits hafter hfits => exact ⟨by dsimp only; omega, by dsimp only; omega⟩
  | @overflow _ rest d hne hdigits hd hfits hover =>
    have hdigit := byteLength_pos (List.cons_ne_nil d rest)
    show start + _ < length
    omega
  | unexpected hspace hkind hword hdigit =>
    show start < length
    omega

/-- One call from a boundary: an item, with the lexer moved past it, or none, with
the lexer at the end of the source. -/
theorem next_step (before rest : List Char) :
    (∃ item before' rest', before ++ rest = before' ++ rest' ∧
      (Lexer.mk (before ++ rest) (byteLength before)).next =
        (.ok (some item, ⟨before' ++ rest', byteLength before'⟩) : Exec ε _) ∧
      byteLength before < byteLength before' ∧ rest'.length < rest.length ∧
      ItemWithin (byteLength (before ++ rest)) item) ∨
    (Lexer.mk (before ++ rest) (byteLength before)).next =
      (.ok (none, ⟨before ++ rest, byteLength (before ++ rest)⟩) : Exec ε _) := by
  rcases exists_gap before rest with hgap | ⟨gap, text, after, item, rfl, hgap, hitem⟩
  · exact Or.inr (next_gap hgap)
  · have hpos := hitem.length_pos
    have hbytes := byteLength_pos (List.ne_nil_of_length_pos hpos)
    refine Or.inl ⟨item, before ++ gap ++ text, after, source_regroup before gap text after,
      ?_, ?_, ?_, ?_⟩
    · rw [next_lexeme hgap hitem, ← byteLength_append, ← source_regroup]
    · simp only [byteLength_append]
      omega
    · simp only [List.length_append]
      omega
    · apply hitem.within
      simp only [byteLength_append]
      omega

theorem next_at_end (source : List Char) :
    (Lexer.mk source (byteLength source)).next =
      (.ok (none, ⟨source, byteLength source⟩) : Exec ε _) := by
  have h : (Lexer.mk (source ++ []) (byteLength source)).next = (.ok (none, _) : Exec ε _) :=
    next_gap (by simp)
  rwa [List.append_nil] at h

/-- A call returns, and an item of it comes with a larger offset. -/
theorem Lexer.Positioned.exists_next {lexer : Lexer} (h : lexer.Positioned source) :
    ∃ result lexer', lexer.nextSliced = (.ok (result, lexer') : Exec ε _) ∧
      ∀ item, result = some item →
        lexer.offset < lexer'.offset ∧ ItemWithin (byteLength source) item := by
  obtain ⟨before, rest, rfl, rfl⟩ := h.exists_append
  rw [nextSliced_eq_next]
  rcases next_step before rest with ⟨item, before', rest', -, hnext, hlt, -, hwithin⟩ | hnext
  · refine ⟨some item, _, hnext, ?_⟩
    intro item' hitem
    obtain rfl := Option.some.inj hitem
    exact ⟨hlt, hwithin⟩
  · exact ⟨none, _, hnext, by simp⟩

theorem nextSliced_progressing (source : List Char) :
    Progressing (Lexer.nextSliced (ε := ε)) (Lexer.Positioned source) Lexer.unread := by
  intro lexer hlexer
  obtain ⟨before, rest, rfl, rfl⟩ := hlexer.exists_append
  rw [nextSliced_eq_next]
  rcases next_step before rest with ⟨item, before', rest', hsplit, hnext, -, hlen, -⟩ | hnext
  · refine Or.inl ⟨item, _, hnext, ?_, ?_⟩
    · rw [hsplit]
      exact positioned_append before' rest'
    · rwa [unread_append, unread_append]
  · have hend := positioned_append (before ++ rest) []
    rw [List.append_nil] at hend
    exact Or.inr ⟨_, hnext, hend, next_at_end (before ++ rest)⟩

/-- Every call from every state that the calls before it reach, and the run of
all calls. -/
theorem nextSliced_progresses (source : List Char) :
    (∀ n, ∃ results lexer result lexer',
      calls Lexer.nextSliced n (Lexer.new source) = (.ok (results, lexer) : Exec ε _) ∧
      lexer.source = source ∧ IsCharBoundary source lexer.offset ∧
      lexer.offset ≤ byteLength source ∧
      lexer.nextSliced = (.ok (result, lexer') : Exec ε _) ∧
      ∀ item, result = some item →
        lexer.offset < lexer'.offset ∧ ItemWithin (byteLength source) item) ∧
    ∃ (items : List Item) (final : Lexer), items.length ≤ source.length ∧ ∀ n,
      calls Lexer.nextSliced (items.length + (n + 1)) (Lexer.new source) =
        (.ok (items.map some ++ List.replicate (n + 1) none, final) : Exec ε _) := by
  have hprogress := nextSliced_progressing (ε := ε) source
  have hnew : (Lexer.new source).Positioned source := positioned_append [] source
  constructor
  · intro n
    obtain ⟨results, lexer, hcalls, hlexer⟩ := hprogress.calls_invariant hnew n
    obtain ⟨result, lexer', hnext, hitem⟩ := hlexer.exists_next
    exact ⟨results, lexer, result, lexer', hcalls, hlexer.source_eq, hlexer.boundary,
      hlexer.offset_le, hnext, hitem⟩
  · have hlen : (Lexer.new source).unread = source.length := unread_append [] source
    rw [← hlen]
    exact hprogress.exhausts hnew

end PolytopeOS.Compiler
