import Mathlib.Logic.Function.Basic
import PolytopeOS.Corelib.Hoare
import PolytopeOS.Corelib.LittleEndian

/-!
# Files and the operations on them

The files are a map from locations to contents. An operation may fail for a
reason of its own, told by an argument; some also fail because of what is there.
The disk records every state it goes through, with the operation that led to it,
so that a property of all intermediate states is a property of the record.
-/

namespace Corelib

inductive FileOperation where
  | create
  | write
  | rename
  | remove
  deriving DecidableEq, Repr

/-- The contents of the files; `none` where there is no file. -/
abbrev Files (κ : Type) := κ → Option Bytes

/-- The files, and the states they went through. -/
structure Disk (κ : Type) where
  files : Files κ
  history : List (FileOperation × Files κ)

variable {κ ε : Type} [DecidableEq κ]

/-- An operation that changes the files. -/
def Disk.step (disk : Disk κ) (operation : FileOperation) (files : Files κ) : Disk κ :=
  ⟨files, disk.history ++ [(operation, files)]⟩

/-- `create_new`: an empty file, where none is. -/
def createNew (fails : Bool) (path : κ) (error : ε) : Action (Disk κ) ε Unit := fun disk =>
  if fails ∨ (disk.files path).isSome then (.err error, disk)
  else (.ok (), disk.step .create (Function.update disk.files path (some [])))

/-- `File::create`: an empty file, whatever was there. -/
def createFile (fails : Bool) (path : κ) (error : ε) : Action (Disk κ) ε Unit := fun disk =>
  if fails then (.err error, disk)
  else (.ok (), disk.step .create (Function.update disk.files path (some [])))

/-- The states of a new file while its first `count` bytes are written. -/
def writePrefixes (path : κ) (bytes : Bytes) : ℕ → Disk κ → Disk κ
  | 0, disk => disk
  | count + 1, disk =>
    let before := writePrefixes path bytes count disk
    before.step .write (Function.update before.files path (some (bytes.take (count + 1))))

/-- `write_all` into a new file, byte by byte; it may fail after some of them. -/
def writeAll (failsAfter : Option ℕ) (path : κ) (bytes : Bytes) (error : ε) :
    Action (Disk κ) ε Unit := fun disk =>
  match failsAfter with
  | some count => (.err error, writePrefixes path bytes count disk)
  | none => (.ok (), writePrefixes path bytes bytes.length disk)

/-- `rename`, in one step. -/
def renameFile (fails : Bool) (source destination : κ) (error : ε) :
    Action (Disk κ) ε Unit := fun disk =>
  match disk.files source with
  | none => (.err error, disk)
  | some contents =>
    if fails then (.err error, disk)
    else (.ok (), disk.step .rename
      (Function.update (Function.update disk.files source none) destination (some contents)))

/-- `remove_file`. -/
def removeFile (path : κ) : Action (Disk κ) ε Unit := fun disk =>
  (.ok (), disk.step .remove (Function.update disk.files path none))

/-- Since `initial` only the file at `path` has changed, and nothing was renamed. -/
structure Staged (initial : Files κ) (path : κ) (disk : Disk κ) : Prop where
  files : ∀ other, other ≠ path → disk.files other = initial other
  history : ∀ visit ∈ disk.history,
    visit.1 ≠ .rename ∧ ∀ other, other ≠ path → visit.2 other = initial other

/-- A renamed file has put `bytes` at `output`, which held nothing else than its
first contents and these. -/
structure Moved (initial : Files κ) (output : κ) (bytes : Bytes) (disk : Disk κ) : Prop where
  renamed : ∃ visit ∈ disk.history, visit.1 = .rename
  files : disk.files output = some bytes
  history : ∀ visit ∈ disk.history, visit.2 output = initial output ∨ visit.2 output = some bytes

variable {initial : Files κ} {path output : κ} {bytes : Bytes} {disk : Disk κ} {error : ε}

theorem Staged.step (h : Staged initial path disk) {operation : FileOperation}
    (hoperation : operation ≠ .rename) (contents : Option Bytes) :
    Staged initial path (disk.step operation (Function.update disk.files path contents)) := by
  have hfiles : ∀ other, other ≠ path →
      Function.update disk.files path contents other = initial other := by
    intro other hother
    rw [Function.update_of_ne hother, h.files other hother]
  refine ⟨hfiles, List.forall_mem_append.mpr ⟨h.history, ?_⟩⟩
  exact List.forall_mem_singleton.mpr ⟨hoperation, hfiles⟩

theorem Staged.writePrefixes (h : Staged initial path disk) (bytes : Bytes) (count : ℕ) :
    Staged initial path (writePrefixes path bytes count disk) := by
  induction count with
  | zero => exact h
  | succ count ih => exact ih.step (by decide) _

theorem files_writePrefixes (h : disk.files path = some []) (count : ℕ) :
    (writePrefixes path bytes count disk).files path = some (bytes.take count) := by
  cases count with
  | zero => rw [writePrefixes, h, List.take_zero]
  | succ count => exact Function.update_self _ _ _

theorem createNew_staged (fails : Bool) :
    Action.Triple (Staged initial path) (createNew fails path error)
      (fun _ disk => Staged initial path disk ∧ disk.files path = some [])
      (Staged initial path) := by
  intro disk h
  by_cases hfails : fails = true ∨ (disk.files path).isSome
  · exact Or.inr ⟨error, disk, if_pos hfails, h⟩
  · exact Or.inl ⟨(), _, if_neg hfails, h.step (by decide) _, Function.update_self _ _ _⟩

theorem writeAll_staged (failsAfter : Option ℕ) :
    Action.Triple (fun disk => Staged initial path disk ∧ disk.files path = some [])
      (writeAll failsAfter path bytes error)
      (fun _ disk => Staged initial path disk ∧ disk.files path = some bytes)
      (Staged initial path) := by
  rintro disk ⟨h, hempty⟩
  cases failsAfter with
  | some count => exact Or.inr ⟨error, _, rfl, h.writePrefixes bytes count⟩
  | none =>
    refine Or.inl ⟨(), _, rfl, h.writePrefixes bytes _, ?_⟩
    rw [files_writePrefixes hempty, List.take_length]

theorem renameFile_moved (fails : Bool) (hne : output ≠ path) :
    Action.Triple (fun disk => Staged initial path disk ∧ disk.files path = some bytes)
      (renameFile fails path output error) (fun _ => Moved initial output bytes)
      (Staged initial path) := by
  rintro disk ⟨h, hcontents⟩
  cases fails with
  | true => exact Or.inr ⟨error, disk, by rw [renameFile, hcontents]; rfl, h⟩
  | false =>
    refine Or.inl ⟨(), _, by rw [renameFile, hcontents]; rfl, ?_, Function.update_self _ _ _,
      List.forall_mem_append.mpr ⟨?_, ?_⟩⟩
    · exact ⟨_, List.mem_append_right _ List.mem_cons_self, rfl⟩
    · exact fun visit hvisit => Or.inl ((h.history visit hvisit).2 output hne)
    · exact List.forall_mem_singleton.mpr (Or.inr (Function.update_self _ _ _))

theorem Moved.remove (h : Moved initial output bytes disk) (hne : output ≠ path) :
    Moved initial output bytes (removeFile path disk : Exec ε Unit × Disk κ).2 := by
  obtain ⟨visit, hvisit, hrename⟩ := h.renamed
  have hfiles : Function.update disk.files path none output = some bytes := by
    rw [Function.update_of_ne hne, h.files]
  refine ⟨⟨visit, List.mem_append_left _ hvisit, hrename⟩, hfiles, ?_⟩
  exact List.forall_mem_append.mpr ⟨h.history, List.forall_mem_singleton.mpr (Or.inr hfiles)⟩

-- ════════════════════════════════════════════════════════════════════════
-- Which files an action may change
-- ════════════════════════════════════════════════════════════════════════

/-- The files outside a region are the same. -/
def SameOutside (region : Set κ) (disk disk' : Disk κ) : Prop :=
  ∀ file, file ∉ region → disk'.files file = disk.files file

omit [DecidableEq κ] in
theorem SameOutside.trans {region : Set κ} {disk disk' disk'' : Disk κ}
    (h : SameOutside region disk disk') (h' : SameOutside region disk' disk'') :
    SameOutside region disk disk'' :=
  fun file hfile => (h' file hfile).trans (h file hfile)

instance (region : Set κ) : IsPreorder (Disk κ) (SameOutside region) where
  refl _ _ _ := rfl
  trans _ _ _ := SameOutside.trans

theorem files_update_writePrefixes (h : disk.files path = some []) (count : ℕ) :
    (writePrefixes path bytes count disk).files =
      Function.update disk.files path (some (bytes.take count)) := by
  induction count with
  | zero => rw [writePrefixes, List.take_zero, ← h, Function.update_eq_self]
  | succ count ih =>
    change Function.update (writePrefixes path bytes count disk).files path _ = _
    rw [ih, Function.update_idem]

theorem createFile_eq_ok {fails : Bool} {u : Unit} {disk' : Disk κ}
    (h : createFile fails path error disk = (.ok u, disk')) :
    disk'.files = Function.update disk.files path (some []) := by
  cases fails with
  | true => cases h
  | false => cases h; rfl

theorem createFile_sameOutside {region : Set κ} (fails : Bool) (hpath : path ∈ region) :
    (createFile fails path error).Keeps (SameOutside region) := by
  intro disk file hfile
  have hother : file ≠ path := fun heq => hfile (heq ▸ hpath)
  cases fails with
  | true => rfl
  | false => exact Function.update_of_ne hother _ _

theorem writeAll_eq_ok {failsAfter : Option ℕ} {u : Unit} {disk' : Disk κ}
    (hempty : disk.files path = some [])
    (h : writeAll failsAfter path bytes error disk = (.ok u, disk')) :
    disk'.files = Function.update disk.files path (some bytes) := by
  cases failsAfter with
  | some count => cases h
  | none =>
    cases h
    rw [files_update_writePrefixes hempty, List.take_length]

theorem writeAll_sameOutside {region : Set κ} (failsAfter : Option ℕ) (hpath : path ∈ region) :
    (writeAll failsAfter path bytes error).Keeps (SameOutside region) := by
  intro disk file hfile
  have hother : file ≠ path := fun heq => hfile (heq ▸ hpath)
  have hprefixes (count : ℕ) :
      (writePrefixes path bytes count disk).files file = disk.files file := by
    induction count with
    | zero => rfl
    | succ count ih =>
      change Function.update (writePrefixes path bytes count disk).files path _ file = _
      rw [Function.update_of_ne hother, ih]
  cases failsAfter with
  | some count => exact hprefixes count
  | none => exact hprefixes bytes.length

-- ════════════════════════════════════════════════════════════════════════
-- The files that a staged output leaves
-- ════════════════════════════════════════════════════════════════════════

section StagedFiles

variable {files : Files κ}

theorem createNew_files (fails : Bool) :
    Action.Triple (fun disk => disk.files = files) (createNew fails path error)
      (fun _ disk => disk.files = Function.update files path (some []))
      (fun disk => disk.files = files) := by
  rintro disk rfl
  by_cases hfails : fails = true ∨ (disk.files path).isSome
  · exact Or.inr ⟨error, disk, if_pos hfails, rfl⟩
  · exact Or.inl ⟨(), _, if_neg hfails, rfl⟩

theorem writeAll_files (failsAfter : Option ℕ) :
    Action.Triple (fun disk => disk.files = Function.update files path (some []))
      (writeAll failsAfter path bytes error)
      (fun _ disk => disk.files = Function.update files path (some bytes))
      (fun disk => ∃ contents, disk.files = Function.update files path contents) := by
  intro disk hfiles
  have hempty : disk.files path = some [] := by rw [hfiles, Function.update_self]
  have hprefixes (count : ℕ) : (writePrefixes path bytes count disk).files =
      Function.update files path (some (bytes.take count)) := by
    rw [files_update_writePrefixes hempty, hfiles, Function.update_idem]
  cases failsAfter with
  | some count => exact Or.inr ⟨error, _, rfl, _, hprefixes count⟩
  | none =>
    have hwhole := hprefixes bytes.length
    rw [List.take_length] at hwhole
    exact Or.inl ⟨(), _, rfl, hwhole⟩

/-- The rename of a file that was not there before leaves only its output. -/
theorem renameFile_files (fails : Bool) (hfree : files path = none) :
    Action.Triple (fun disk => disk.files = Function.update files path (some bytes))
      (renameFile fails path output error)
      (fun _ disk => disk.files = Function.update files output (some bytes))
      (fun disk => disk.files = Function.update files path (some bytes)) := by
  intro disk hfiles
  have hcontents : disk.files path = some bytes := by rw [hfiles, Function.update_self]
  have hremoved : Function.update disk.files path none = files := by
    rw [hfiles, Function.update_idem, ← hfree, Function.update_eq_self]
  cases fails with
  | true => exact Or.inr ⟨error, disk, by rw [renameFile, hcontents]; rfl, hfiles⟩
  | false =>
    refine Or.inl ⟨(), _, by rw [renameFile, hcontents]; rfl, ?_⟩
    exact congrArg (Function.update · output (some bytes)) hremoved

end StagedFiles

end Corelib
