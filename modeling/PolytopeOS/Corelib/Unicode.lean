import Mathlib.Data.List.DropRight
import PolytopeOS.Corelib.LittleEndian
import PolytopeOS.Corelib.Lines

/-!
# Checked text

A string slice is a list of characters and its bytes are their UTF-8 encodings.
`fromUtf8` is the checked conversion from bytes; it has a value exactly on the
encodings.
-/

namespace Corelib

/-- The UTF-8 bytes of a text. -/
def utf8 (text : List Char) : Bytes := text.flatMap String.utf8EncodeChar

/-- `str::from_utf8`. -/
def fromUtf8 (bytes : Bytes) : Option (List Char) :=
  bytes.toByteArray.utf8Decode?.map Array.toList

theorem fromUtf8_utf8 (text : List Char) : fromUtf8 (utf8 text) = some text := by
  have h : (utf8 text).toByteArray = text.utf8Encode := rfl
  rw [fromUtf8, h, List.utf8Decode?_utf8Encode]
  rfl

theorem fromUtf8_eq_some {bytes : Bytes} {text : List Char} :
    fromUtf8 bytes = some text ↔ bytes = utf8 text := by
  constructor
  · intro h
    obtain ⟨chars, hchars, rfl⟩ := Option.map_eq_some_iff.mp h
    have hsome : bytes.toByteArray.utf8Decode?.isSome := by rw [hchars]; rfl
    obtain ⟨l, hl⟩ := ByteArray.isSome_utf8Decode?_iff.mp hsome
    rw [hl, List.utf8Decode?_utf8Encode, Option.some.injEq] at hchars
    rw [← hchars, List.toList_toArray]
    exact List.toByteArray_inj.mp hl
  · rintro rfl
    exact fromUtf8_utf8 text

/-- The line without a carriage return at its end. -/
def dropReturn (line : List Char) : List Char :=
  if line.getLast? = some '\r' then line.dropLast else line

/-- `str::lines`: a terminated line loses its line feed and one carriage return
before it, and what follows the last line feed counts only if it is not empty. -/
def lines (text : List Char) : List (List Char) :=
  (cut '\n' text).1.map dropReturn ++
    if (cut '\n' text).2 = [] then [] else [(cut '\n' text).2]

/-- `str::trim_end_matches` for a character. -/
def trimEndMatches (c : Char) (text : List Char) : List Char := text.rdropWhile (· = c)

theorem length_lines_concat_newline (text : List Char) :
    (lines (text ++ ['\n'])).length = (cut '\n' text).1.length + 1 := by
  simp [lines, cut_concat_sep]

theorem trimEndMatches_concat {c : Char} {text : List Char} (h : c ∉ text) :
    trimEndMatches c (text ++ [c]) = text := by
  rw [trimEndMatches, List.rdropWhile_concat_pos (fun x => decide (x = c)) text c (by simp),
    List.rdropWhile_eq_self_iff]
  intro hne hlast
  exact h (of_decide_eq_true hlast ▸ List.getLast_mem hne)

end Corelib
