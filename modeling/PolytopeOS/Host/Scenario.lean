import PolytopeOS.Corelib.Unicode
import PolytopeOS.Host.Outcome
import PolytopeOS.Loader.Types

/-!
# The scenario file, on the host and in the loader

The host checks the scenario file of an image as text, the loader as bytes. Both
accept the four canonical files and read the same scenario from them.
-/

namespace PolytopeOS.Host
open Corelib Arch

inductive ScenarioFileError where
  /-- "scenario file is not valid UTF-8" -/
  | notUtf8
  /-- "scenario file must contain exactly one token followed by a newline" -/
  | notOneLine
  /-- "unknown boot scenario", the value, and the four that are expected. -/
  | unknown (value : List Char)
  deriving DecidableEq, Repr

namespace BootScenario

def fromStr (value : List Char) : Exec ScenarioFileError BootScenario :=
  if value = "normal".toList then .ok .normal
  else if value = "bad-version".toList then .ok .badVersion
  else if value = "truncated".toList then .ok .truncated
  else if value = "panic".toList then .ok .panic
  else .err (.unknown value)

def asStr : BootScenario → List Char
  | .normal => "normal".toList
  | .badVersion => "bad-version".toList
  | .truncated => "truncated".toList
  | .panic => "panic".toList

/-- The loader's name for a scenario. -/
def loader : BootScenario → Loader.BootScenario
  | .normal => .normal
  | .badVersion => .incompatibleVersion
  | .truncated => .truncatedContract
  | .panic => .deliberatePanic

theorem loader_bijective : Function.Bijective loader := by
  constructor
  · intro a b h
    cases a <;> cases b <;> first | rfl | exact absurd h (by decide)
  · intro s
    cases s with
    | normal => exact ⟨.normal, rfl⟩
    | incompatibleVersion => exact ⟨.badVersion, rfl⟩
    | truncatedContract => exact ⟨.truncated, rfl⟩
    | deliberatePanic => exact ⟨.panic, rfl⟩

theorem fromStr_eq_ok {value : List Char} {s : BootScenario} :
    fromStr value = .ok s ↔ value = s.asStr := by
  constructor
  · intro h
    unfold fromStr at h
    split_ifs at h with h1 h2 h3 h4
    · rw [← Exec.ok.inj h, h1]
      rfl
    · rw [← Exec.ok.inj h, h2]
      rfl
    · rw [← Exec.ok.inj h, h3]
      rfl
    · rw [← Exec.ok.inj h, h4]
      rfl
  · rintro rfl
    cases s <;> decide +kernel

end BootScenario

def parseScenario (bytes : Bytes) : Exec ScenarioFileError BootScenario := do
  let text ← Exec.okOr (fromUtf8 bytes) .notUtf8
  if ¬(text.getLast? = some '\n' ∧ (lines text).length = 1) then .err .notOneLine
  else BootScenario.fromStr (trimEndMatches '\n' text)

/-- The canonical file of a scenario. -/
def BootScenario.file (s : BootScenario) : Bytes := utf8 (s.asStr ++ ['\n'])

theorem newline_not_mem_asStr (s : BootScenario) : '\n' ∉ s.asStr := by
  cases s <;> decide +kernel

/-- A text that ends its only line is a body without line feeds and one line feed. -/
theorem one_line_iff {text : List Char} :
    text.getLast? = some '\n' ∧ (lines text).length = 1 ↔
      ∃ body, '\n' ∉ body ∧ text = body ++ ['\n'] := by
  constructor
  · rintro ⟨hlast, hcount⟩
    obtain ⟨body, rfl⟩ := List.getLast?_eq_some_iff.mp hlast
    rw [length_lines_concat_newline, Nat.add_eq_right, List.length_eq_zero_iff,
      cut_fst_eq_nil] at hcount
    exact ⟨body, hcount, rfl⟩
  · rintro ⟨body, hbody, rfl⟩
    rw [length_lines_concat_newline, cut_fst_eq_nil.mpr hbody]
    exact ⟨List.getLast?_concat, rfl⟩

theorem parseScenario_eq_ok {bytes : Bytes} {s : BootScenario} :
    parseScenario bytes = .ok s ↔ bytes = s.file := by
  simp only [parseScenario, Exec.bind_eq_ok, Exec.okOr_eq_ok, fromUtf8_eq_some,
    Exec.ite_err_eq_ok, not_not, one_line_iff, BootScenario.fromStr_eq_ok]
  constructor
  · rintro ⟨text, rfl, ⟨body, hbody, rfl⟩, hvalue⟩
    rw [trimEndMatches_concat hbody] at hvalue
    rw [hvalue]
    rfl
  · rintro rfl
    refine ⟨_, rfl, ⟨s.asStr, newline_not_mem_asStr s, rfl⟩, ?_⟩
    exact trimEndMatches_concat (newline_not_mem_asStr s)

theorem file_eq_ascii :
    BootScenario.normal.file = ascii "normal\n" ∧
      BootScenario.badVersion.file = ascii "bad-version\n" ∧
      BootScenario.truncated.file = ascii "truncated\n" ∧
      BootScenario.panic.file = ascii "panic\n" := by
  decide +kernel

theorem loader_parse_file (s : BootScenario) :
    Loader.BootScenario.parse s.file = .ok s.loader := by
  cases s <;> decide +kernel

/-- What the loader reads is the file of the scenario it reads. -/
theorem file_of_loader_parse {bytes : Bytes} {s : BootScenario}
    (h : Loader.BootScenario.parse bytes = .ok s.loader) : bytes = s.file := by
  obtain ⟨hnormal, hversion, htruncated, hpanic⟩ := file_eq_ascii
  have hinj : ∀ t : BootScenario, (.ok t.loader : Exec Loader.ScenarioError _) = .ok s.loader →
      t = s := fun t ht => BootScenario.loader_bijective.1 (Exec.ok.inj ht)
  simp only [Loader.BootScenario.parse, Exec.ite_err_eq_ok] at h
  obtain ⟨-, -, h⟩ := h
  by_cases h1 : bytes = ascii "normal\n"
  · rw [if_pos h1] at h
    rw [h1, ← hinj .normal h, hnormal]
  by_cases h2 : bytes = ascii "bad-version\n"
  · rw [if_neg h1, if_pos h2] at h
    rw [h2, ← hinj .badVersion h, hversion]
  by_cases h3 : bytes = ascii "truncated\n"
  · rw [if_neg h1, if_neg h2, if_pos h3] at h
    rw [h3, ← hinj .truncated h, htruncated]
  by_cases h4 : bytes = ascii "panic\n"
  · rw [if_neg h1, if_neg h2, if_neg h3, if_pos h4] at h
    rw [h4, ← hinj .panic h, hpanic]
  · rw [if_neg h1, if_neg h2, if_neg h3, if_neg h4] at h
    simp at h

theorem loader_parse_eq_ok {bytes : Bytes} {s : BootScenario} :
    Loader.BootScenario.parse bytes = .ok s.loader ↔ bytes = s.file := by
  constructor
  · exact file_of_loader_parse
  · rintro rfl
    exact loader_parse_file s

/-- The host's and the loader's parsers accept the same files with the same
meaning: a scenario's text and one line feed. -/
theorem scenario_parsers_agree (bytes : Bytes) :
    ((∃ s, parseScenario bytes = .ok s) ↔ ∃ s, Loader.BootScenario.parse bytes = .ok s) ∧
    (∀ s, parseScenario bytes = .ok s ↔ Loader.BootScenario.parse bytes = .ok s.loader) ∧
    (∀ s, parseScenario bytes = .ok s ↔ bytes = utf8 (s.asStr ++ ['\n'])) := by
  have hcorrespond : ∀ s, parseScenario bytes = .ok s ↔
      Loader.BootScenario.parse bytes = .ok s.loader :=
    fun s => parseScenario_eq_ok.trans loader_parse_eq_ok.symm
  refine ⟨?_, hcorrespond, fun s => parseScenario_eq_ok⟩
  constructor
  · rintro ⟨s, hs⟩
    exact ⟨s.loader, (hcorrespond s).mp hs⟩
  · rintro ⟨s, hs⟩
    obtain ⟨t, rfl⟩ := BootScenario.loader_bijective.2 s
    exact ⟨t, (hcorrespond t).mpr hs⟩

end PolytopeOS.Host
