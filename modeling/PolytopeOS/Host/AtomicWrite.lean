import PolytopeOS.Corelib.FileSystem
import PolytopeOS.Corelib.Paths
import PolytopeOS.Corelib.Text
import PolytopeOS.Corelib.Unicode

/-!
# Writing an output in one step

The host tools write a file under a temporary name beside its output and rename
it. Three functions do so, with texts of their own. After any error they remove
the temporary file, also when it is not theirs.
-/

namespace PolytopeOS.Host
open Corelib

/-- The operations that fail in a run. A failing write has put some bytes. -/
structure Faults where
  create : Bool
  write : Option ℕ
  sync : Bool
  rename : Bool
  openDirectory : Bool
  syncDirectory : Bool

/-- What the three functions do differently: the error for an output without a
file name, the mark in the temporary name, and the error of the rename. The mark
is part of a file name. -/
structure Writer where
  missingName : String
  mark : List Char
  moving : String
  slash_not_mem_mark : slash ∉ utf8 mark
  length_mark : 3 ≤ (utf8 mark).length

/-- A path as a message shows it. -/
def display (path : Bytes) : String := String.ofList ((fromUtf8 (lossy path)).getD [])

/-- The directory of an output, the current one when the path names none. -/
def outputParent (output : Bytes) : Bytes :=
  if parentPath output = [] then [dot] else parentPath output

def temporaryName (mark : List Char) (pid : ℕ) (name : Bytes) : Bytes :=
  dot :: (lossy name ++ utf8 mark ++ utf8 (toString pid).toList)

def temporaryPath (writer : Writer) (pid : ℕ) (output name : Bytes) : Bytes :=
  joinPath (outputParent output) (temporaryName writer.mark pid name)

/-- The operations between the creation of the temporary file and the end. -/
def stageOutput (writer : Writer) (faults : Faults) (output temporary bytes : Bytes) :
    Action (Disk (List Component)) String Unit := do
  createNew faults.create (location temporary) ("failed to create " ++ display temporary)
  writeAll faults.write (location temporary) bytes ("failed to write " ++ display temporary)
  Action.mayFail faults.sync ("failed to sync " ++ display temporary)
  renameFile faults.rename (location temporary) (location output)
    (writer.moving ++ " " ++ display temporary ++ " to " ++ display output)
  Action.mayFail faults.openDirectory
    ("failed to open output directory " ++ display (outputParent output))
  Action.mayFail faults.syncDirectory
    ("failed to sync output directory " ++ display (outputParent output))

/-- The body of the three functions. The directory of the output exists, so that
`create_dir_all` does nothing. -/
def writeOutput (writer : Writer) (pid : ℕ) (faults : Faults) (output : Bytes)
    (contents : Exec String Bytes) : Action (Disk (List Component)) String Unit := do
  let name ← Action.lift (Exec.okOr (fileName output) writer.missingName)
  let bytes ← Action.lift contents
  let temporary := temporaryPath writer pid output name
  Action.onErr (stageOutput writer faults output temporary bytes)
    (removeFile (location temporary))

def atomicWriter : Writer :=
  ⟨"image output must include a file name", ".tmp-".toList, "failed to atomically rename",
    by decide, by decide⟩

def writeAtomic (pid : ℕ) (faults : Faults) (output bytes : Bytes) :
    Action (Disk (List Component)) String Unit :=
  writeOutput atomicWriter pid faults output (.ok bytes)

def verifiedWriter (description : String) : Writer :=
  ⟨"verified " ++ description ++ " output must include a file name", ".repro-".toList,
    "failed to move verified " ++ description, by decide, by decide⟩

def writeVerifiedFile (pid : ℕ) (faults : Faults) (output bytes : Bytes) (description : String) :
    Action (Disk (List Component)) String Unit :=
  writeOutput (verifiedWriter description) pid faults output (.ok bytes)

def jsonWriter : Writer :=
  ⟨"baseline output must include a file name", ".tmp-".toList, "failed to move baseline",
    by decide, by decide⟩

/-- The bytes of a serialised value, which may fail. -/
def jsonContents (serialized : Option Bytes) : Exec String Bytes :=
  Exec.okOr serialized "failed to serialize baseline"

def writeJsonAtomic (pid : ℕ) (faults : Faults) (output : Bytes) (serialized : Option Bytes) :
    Action (Disk (List Component)) String Unit :=
  writeOutput jsonWriter pid faults output (jsonContents serialized)

/-- A run that never shows a part of the new contents at the output, and that
leaves every file as it was when it returns an error without having renamed. -/
structure AtomicRun (initial : Files (List Component)) (output : Bytes)
    (contents : Exec String Bytes) (run : Exec String Unit × Disk (List Component)) : Prop where
  whole : ∀ visit ∈ run.2.history, visit.2 (location output) = initial (location output) ∨
    ∃ bytes, contents = .ok bytes ∧ visit.2 (location output) = some bytes
  restored : ∀ error, run.1 = .err error → (∀ visit ∈ run.2.history, visit.1 ≠ .rename) →
    run.2.files = initial

/-- No file stands at the temporary path that a call comes to use. -/
def TemporaryFree (writer : Writer) (pid : ℕ) (output : Bytes) (contents : Exec String Bytes)
    (files : Files (List Component)) : Prop :=
  ∀ name bytes, fileName output = some name → contents = .ok bytes →
    files (location (temporaryPath writer pid output name)) = none

theorem location_outputParent (output : Bytes) :
    location (outputParent output) = location (parentPath output) := by
  unfold outputParent
  split
  · next hnil => rw [hnil]; rfl
  · rfl

theorem slash_not_mem_lossy {name : Bytes} (h : slash ∉ name) : slash ∉ lossy name := by
  have hascii : ∀ byte ∈ [slash], byte < 0x80 := List.forall_mem_singleton.mpr (by decide)
  rw [← List.singleton_infix_iff] at h ⊢
  rwa [infix_lossy (by simp) hascii]

theorem slash_not_mem_temporaryName (writer : Writer) (pid : ℕ) {name : Bytes}
    (h : slash ∉ name) : slash ∉ temporaryName writer.mark pid name := by
  rw [temporaryName, List.mem_cons, List.mem_append, List.mem_append, not_or, not_or, not_or]
  exact ⟨by decide, ⟨slash_not_mem_lossy h, writer.slash_not_mem_mark⟩, slash_not_mem_decimal pid⟩

/-- The temporary name is longer than the name of the output. -/
theorem length_temporaryName (writer : Writer) (pid : ℕ) (name : Bytes) :
    name.length + 4 ≤ (temporaryName writer.mark pid name).length := by
  have hlossy := length_le_lossy name
  have hmark := writer.length_mark
  rw [temporaryName, List.length_cons, List.length_append, List.length_append]
  omega

theorem location_temporaryPath (writer : Writer) (pid : ℕ) {output name : Bytes}
    (h : fileName output = some name) :
    location (temporaryPath writer pid output name) =
      location (parentPath output) ++ [.normal (temporaryName writer.mark pid name)] := by
  have hlength := length_temporaryName writer pid name
  have hslash := slash_not_mem_temporaryName writer pid (slash_not_mem_fileName h)
  generalize htemporary : temporaryName writer.mark pid name = temporary at hlength hslash ⊢
  have hskip : skipped temporary = false := by
    simp only [skipped, Bool.or_eq_false_iff, decide_eq_false_iff_not]
    constructor
    · rintro rfl
      simp at hlength
    · rintro rfl
      simp at hlength
  have hparent : temporary ≠ [dot, dot] := by
    rintro rfl
    simp at hlength
  rw [temporaryPath, htemporary, location_joinPath_name hslash hskip hparent,
    location_outputParent]

theorem location_ne_temporaryPath (writer : Writer) (pid : ℕ) {output name : Bytes}
    (h : fileName output = some name) :
    location output ≠ location (temporaryPath writer pid output name) := by
  rw [location_temporaryPath writer pid h, location_parentPath h]
  intro heq
  have hname : name = temporaryName writer.mark pid name := by
    simpa using List.append_cancel_left heq
  have hlength := length_temporaryName writer pid name
  rw [← hname] at hlength
  omega

section Run

variable {writer : Writer} {pid : ℕ} {faults : Faults} {initial : Files (List Component)}
  {output name bytes : Bytes} {contents : Exec String Bytes}

/-- The state after an error of the staged operations: not renamed yet, or renamed. -/
def Interrupted (initial : Files (List Component)) (temporary output : List Component)
    (bytes : Bytes) (disk : Disk (List Component)) : Prop :=
  Staged initial temporary disk ∨ Moved initial output bytes disk

theorem stageOutput_triple {temporary : Bytes} (hne : location output ≠ location temporary) :
    Action.Triple (Staged initial (location temporary))
      (stageOutput writer faults output temporary bytes)
      (fun _ => Moved initial (location output) bytes)
      (Interrupted initial (location temporary) (location output) bytes) := by
  have hstaged : ∀ disk, Staged initial (location temporary) disk →
      Interrupted initial (location temporary) (location output) bytes disk := fun _ => Or.inl
  have hmoved : ∀ disk, Moved initial (location output) bytes disk →
      Interrupted initial (location temporary) (location output) bytes disk := fun _ => Or.inr
  refine ((createNew_staged _).weakenErr hstaged).bind fun _ => ?_
  refine ((writeAll_staged _).weakenErr hstaged).bind fun _ => ?_
  refine ((Action.Triple.mayFail _ _ _).weakenErr fun _ h => Or.inl h.1).bind fun _ => ?_
  refine ((renameFile_moved _ hne).weakenErr hstaged).bind fun _ => ?_
  refine ((Action.Triple.mayFail _ _ _).weakenErr hmoved).bind fun _ => ?_
  exact (Action.Triple.mayFail _ _ _).weakenErr hmoved

/-- The state that the cleanup leaves. -/
def CleanedUp (initial : Files (List Component)) (temporary output : List Component)
    (bytes : Bytes) (disk : Disk (List Component)) : Prop :=
  (Staged initial temporary disk ∧ disk.files temporary = none) ∨ Moved initial output bytes disk

theorem cleanedUp_removeFile {temporary output : List Component} (hne : output ≠ temporary)
    {disk : Disk (List Component)} (h : Interrupted initial temporary output bytes disk) :
    CleanedUp initial temporary output bytes
      (removeFile temporary disk : Exec String Unit × Disk (List Component)).2 := by
  rcases h with hstaged | hmoved
  · exact Or.inl ⟨hstaged.step (by decide) none, Function.update_self _ _ _⟩
  · exact Or.inr (hmoved.remove hne)

/-- A call that comes to its temporary file runs the staged operations with the
cleanup. -/
theorem writeOutput_eq (hname : fileName output = some name) (hcontents : contents = .ok bytes)
    (disk : Disk (List Component)) :
    writeOutput writer pid faults output contents disk =
      Action.onErr
        (stageOutput writer faults output (temporaryPath writer pid output name) bytes)
        (removeFile (location (temporaryPath writer pid output name))) disk := by
  rw [writeOutput, hname, hcontents]
  rfl

theorem atomicRun_of_moved {run : Exec String Unit × Disk (List Component)}
    (h : Moved initial (location output) bytes run.2) :
    AtomicRun initial output (.ok bytes) run := by
  constructor
  · intro visit hvisit
    exact (h.history visit hvisit).imp_right fun hbytes => ⟨bytes, rfl, hbytes⟩
  · intro error _ hnone
    obtain ⟨visit, hvisit, hrename⟩ := h.renamed
    exact absurd hrename (hnone visit hvisit)

/-- Where no file stood at the temporary path, the cleanup removes what the call
made. -/
theorem atomicRun_of_staged {temporary : List Component} (hne : location output ≠ temporary)
    (hfree : initial temporary = none) {run : Exec String Unit × Disk (List Component)}
    (h : Staged initial temporary run.2) (hremoved : run.2.files temporary = none) :
    AtomicRun initial output contents run := by
  constructor
  · intro visit hvisit
    exact Or.inl ((h.history visit hvisit).2 _ hne)
  · intro error _ _
    funext path
    by_cases hpath : path = temporary
    · rw [hpath, hremoved, hfree]
    · exact h.files path hpath

theorem staged_initial (temporary : List Component) : Staged initial temporary ⟨initial, []⟩ :=
  ⟨fun _ _ => rfl, fun _ hvisit => absurd hvisit List.not_mem_nil⟩

theorem atomicRun_of_free (hname : fileName output = some name) (hcontents : contents = .ok bytes)
    (hfree : initial (location (temporaryPath writer pid output name)) = none) :
    AtomicRun initial output contents
      (writeOutput writer pid faults output contents ⟨initial, []⟩) := by
  have hne := location_ne_temporaryPath writer pid hname
  have htriple : Action.Triple (Staged initial (location (temporaryPath writer pid output name)))
      (Action.onErr
        (stageOutput writer faults output (temporaryPath writer pid output name) bytes)
        (removeFile (location (temporaryPath writer pid output name))))
      (fun _ => Moved initial (location output) bytes)
      (CleanedUp initial (location (temporaryPath writer pid output name)) (location output)
        bytes) :=
    (stageOutput_triple hne).onErr fun _ => cleanedUp_removeFile hne
  rw [writeOutput_eq hname hcontents, hcontents]
  rcases htriple ⟨initial, []⟩ (staged_initial _) with
    ⟨_, disk, hrun, hmoved⟩ | ⟨error, disk, hrun, hcleaned⟩
  · rw [hrun]
    exact atomicRun_of_moved hmoved
  · rw [hrun]
    rcases hcleaned with ⟨hstaged, hremoved⟩ | hmoved
    · exact atomicRun_of_staged hne hfree hstaged hremoved
    · exact atomicRun_of_moved hmoved

/-- A file at the temporary path makes the creation fail, and the cleanup then
removes that file. -/
theorem writeOutput_of_occupied (disk : Disk (List Component))
    (hname : fileName output = some name) (hcontents : contents = .ok bytes)
    (hoccupied : disk.files (location (temporaryPath writer pid output name)) ≠ none) :
    ∃ error, writeOutput writer pid faults output contents disk =
      (.err error, disk.step .remove
        (Function.update disk.files (location (temporaryPath writer pid output name)) none)) := by
  have hsome : (disk.files (location (temporaryPath writer pid output name))).isSome :=
    Option.isSome_iff_ne_none.mpr hoccupied
  have hcreate : createNew faults.create (location (temporaryPath writer pid output name))
      ("failed to create " ++ display (temporaryPath writer pid output name)) disk =
        (.err _, disk) := if_pos (Or.inr hsome)
  have hstage : stageOutput writer faults output (temporaryPath writer pid output name) bytes
      disk = (.err _, disk) := Action.bind_of_err hcreate
  rw [writeOutput_eq hname hcontents]
  exact ⟨_, Action.onErr_of_err hstage⟩

/-- A path is not free when a call comes to use it and finds a file there. -/
theorem occupied_of_not_free (h : ¬TemporaryFree writer pid output contents initial) :
    ∃ name bytes, fileName output = some name ∧ contents = .ok bytes ∧
      initial (location (temporaryPath writer pid output name)) ≠ none := by
  unfold TemporaryFree at h
  push Not at h
  exact h

/-- A call that returns before it has a temporary file changes nothing. -/
theorem atomicRun_of_early {run : Exec String Unit × Disk (List Component)}
    (h : run.2 = ⟨initial, []⟩) : AtomicRun initial output contents run := by
  constructor
  · rw [h]
    exact fun _ hvisit => absurd hvisit List.not_mem_nil
  · intro _ _ _
    rw [h]

theorem writeOutput_atomic_iff :
    AtomicRun initial output contents
        (writeOutput writer pid faults output contents ⟨initial, []⟩) ↔
      TemporaryFree writer pid output contents initial := by
  constructor
  · intro h name bytes hname hcontents
    by_contra hoccupied
    obtain ⟨error, hrun⟩ :=
      writeOutput_of_occupied ⟨initial, []⟩ hname hcontents hoccupied
    rw [hrun] at h
    have hrestored : Function.update initial
        (location (temporaryPath writer pid output name)) none = initial :=
      h.restored error rfl (List.forall_mem_singleton.mpr (by simp))
    have hremoved := congrFun hrestored (location (temporaryPath writer pid output name))
    rw [Function.update_self] at hremoved
    exact hoccupied hremoved.symm
  · intro hfree
    cases hname : fileName output with
    | none => exact atomicRun_of_early (by rw [writeOutput, hname]; rfl)
    | some name =>
      cases hcontents : contents with
      | ok bytes => exact atomicRun_of_free hname rfl (hfree name bytes hname hcontents)
      | err error => exact atomicRun_of_early (by rw [writeOutput, hname]; rfl)
      | panic => exact atomicRun_of_early (by rw [writeOutput, hname]; rfl)

/-- The output is at no time a part of anything, also when a file stands at the
temporary path. -/
theorem writeOutput_whole :
    ∀ visit ∈ (writeOutput writer pid faults output contents ⟨initial, []⟩).2.history,
      visit.2 (location output) = initial (location output) ∨
        ∃ bytes, contents = .ok bytes ∧ visit.2 (location output) = some bytes := by
  by_cases hfree : TemporaryFree writer pid output contents initial
  · exact (writeOutput_atomic_iff.mpr hfree).whole
  · obtain ⟨name, bytes, hname, hcontents, hoccupied⟩ := occupied_of_not_free hfree
    obtain ⟨error, hrun⟩ :=
      writeOutput_of_occupied ⟨initial, []⟩ hname hcontents hoccupied
    rw [hrun]
    refine List.forall_mem_singleton.mpr (Or.inl ?_)
    exact Function.update_of_ne (location_ne_temporaryPath writer pid hname) _ _

end Run

/-- A call of each writer keeps the output whole and restores the files on an
error exactly when no file stands at the temporary path it comes to use. -/
theorem writers_atomic_iff (pid : ℕ) (faults : Faults) (initial : Files (List Component))
    (output : Bytes) :
    (∀ bytes, AtomicRun initial output (.ok bytes)
        (writeAtomic pid faults output bytes ⟨initial, []⟩) ↔
      TemporaryFree atomicWriter pid output (.ok bytes) initial) ∧
    (∀ bytes description, AtomicRun initial output (.ok bytes)
        (writeVerifiedFile pid faults output bytes description ⟨initial, []⟩) ↔
      TemporaryFree (verifiedWriter description) pid output (.ok bytes) initial) ∧
    ∀ serialized, AtomicRun initial output (jsonContents serialized)
        (writeJsonAtomic pid faults output serialized ⟨initial, []⟩) ↔
      TemporaryFree jsonWriter pid output (jsonContents serialized) initial :=
  ⟨fun _ => writeOutput_atomic_iff, fun _ _ => writeOutput_atomic_iff,
    fun _ => writeOutput_atomic_iff⟩

def noFaults : Faults := ⟨false, none, false, false, false, false⟩

def staleLocation : List Component := [.normal (utf8 ".os.tmp-7".toList)]

/-- A directory with the temporary file of another run. -/
def staleFiles : Files (List Component) := Function.update (fun _ => none) staleLocation (some [1])

theorem location_staleTemporary :
    location (temporaryPath atomicWriter 7 (utf8 "os".toList) (utf8 "os".toList)) =
      staleLocation := by
  have hlossy : lossy (utf8 "os".toList) = utf8 "os".toList := by
    have hbytes : utf8 "os".toList = [0x6f, 0x73] := by decide
    rw [hbytes]
    simp [lossy]
  rw [location_temporaryPath atomicWriter 7 (by decide), temporaryName, hlossy]
  decide

/-- No operation fails by itself. The file of the other run makes the creation
fail, and the call removes it. -/
theorem stale_temporary_deleted :
    ∃ error disk, writeAtomic 7 noFaults (utf8 "os".toList) [2] ⟨staleFiles, []⟩ =
        (.err error, disk) ∧
      (∀ visit ∈ disk.history, visit.1 ≠ .rename) ∧
      staleFiles staleLocation = some [1] ∧ disk.files staleLocation = none := by
  have hname : fileName (utf8 "os".toList) = some (utf8 "os".toList) := by decide
  have hstale : staleFiles staleLocation = some [1] := Function.update_self _ _ _
  have hoccupied : staleFiles
      (location (temporaryPath atomicWriter 7 (utf8 "os".toList) (utf8 "os".toList))) ≠ none := by
    rw [location_staleTemporary, hstale]
    simp
  obtain ⟨error, hrun⟩ := writeOutput_of_occupied ⟨staleFiles, []⟩ hname rfl hoccupied
  rw [location_staleTemporary] at hrun
  have hdeleted : Function.update staleFiles staleLocation none staleLocation = none :=
    Function.update_self _ _ _
  exact ⟨error, _, hrun, List.forall_mem_singleton.mpr (by simp), hstale, hdeleted⟩

-- ════════════════════════════════════════════════════════════════════════
-- What a call leaves on the disk
-- ════════════════════════════════════════════════════════════════════════

section Left

variable {writer : Writer} {pid : ℕ} {faults : Faults} {files : Files (List Component)}
  {output name bytes : Bytes} {contents : Exec String Bytes}

/-- The files after an error of the staged operations: there may be something at
the temporary path, or the output was replaced. -/
def PartlyWritten (files : Files (List Component)) (temporary output : List Component)
    (bytes : Bytes) (disk : Disk (List Component)) : Prop :=
  (∃ contents, disk.files = Function.update files temporary contents) ∨
    disk.files = Function.update files output (some bytes)

theorem stageOutput_files {temporary : Bytes} (hfree : files (location temporary) = none) :
    Action.Triple (fun disk => disk.files = files)
      (stageOutput writer faults output temporary bytes)
      (fun _ disk => disk.files = Function.update files (location output) (some bytes))
      (PartlyWritten files (location temporary) (location output) bytes) := by
  have hunchanged : ∀ disk, disk.files = files →
      PartlyWritten files (location temporary) (location output) bytes disk := fun disk h =>
    Or.inl ⟨none, by rw [h, ← hfree, Function.update_eq_self]⟩
  have hpartly : ∀ disk, (∃ contents, disk.files = Function.update files (location temporary)
      contents) → PartlyWritten files (location temporary) (location output) bytes disk :=
    fun _ => Or.inl
  have hreplaced : ∀ disk, disk.files = Function.update files (location output) (some bytes) →
      PartlyWritten files (location temporary) (location output) bytes disk := fun _ => Or.inr
  refine ((createNew_files _).weakenErr hunchanged).bind fun _ => ?_
  refine ((writeAll_files _).weakenErr hpartly).bind fun _ => ?_
  refine ((Action.Triple.mayFail _ _ _).weakenErr fun _ h => Or.inl ⟨_, h⟩).bind fun _ => ?_
  refine ((renameFile_files _ hfree).weakenErr fun _ h => Or.inl ⟨_, h⟩).bind fun _ => ?_
  refine ((Action.Triple.mayFail _ _ _).weakenErr hreplaced).bind fun _ => ?_
  exact (Action.Triple.mayFail _ _ _).weakenErr hreplaced

/-- With a free temporary path a call replaces the output, or returns an error and
has left every file as it was, or replaced the output before that. -/
theorem writeOutput_files (hname : fileName output = some name) (hcontents : contents = .ok bytes)
    (hfree : files (location (temporaryPath writer pid output name)) = none) :
    Action.Triple (fun disk => disk.files = files) (writeOutput writer pid faults output contents)
      (fun _ disk => disk.files = Function.update files (location output) (some bytes))
      (fun disk => disk.files = files ∨
        disk.files = Function.update files (location output) (some bytes)) := by
  have hne := location_ne_temporaryPath writer pid hname
  have hcleaned : ∀ disk, PartlyWritten files (location (temporaryPath writer pid output name))
      (location output) bytes disk →
      ((removeFile (location (temporaryPath writer pid output name)) disk :
        Exec String Unit × Disk (List Component)).2.files = files ∨
      (removeFile (location (temporaryPath writer pid output name)) disk :
        Exec String Unit × Disk (List Component)).2.files =
          Function.update files (location output) (some bytes)) := by
    intro disk hdisk
    change Function.update disk.files _ none = files ∨ Function.update disk.files _ none = _
    rcases hdisk with ⟨_, hdisk⟩ | hdisk
    · left
      rw [hdisk, Function.update_idem, ← hfree, Function.update_eq_self]
    · right
      rw [hdisk, Function.update_comm hne, ← hfree, Function.update_eq_self]
  intro disk hdisk
  rw [writeOutput_eq hname hcontents]
  exact ((stageOutput_files hfree).onErr hcleaned) disk hdisk

/-- A call with a free temporary path either has failed and left every file as it
was, or has replaced the output. -/
theorem writeOutput_left {disk : Disk (List Component)}
    (hfree : TemporaryFree writer pid output contents disk.files) :
    ((writeOutput writer pid faults output contents disk).2.files = disk.files ∧
      ∀ u, (writeOutput writer pid faults output contents disk).1 ≠ .ok u) ∨
    ∃ bytes, contents = .ok bytes ∧
      (writeOutput writer pid faults output contents disk).2.files =
        Function.update disk.files (location output) (some bytes) := by
  have hearly {result : Exec String Unit}
      (hrun : writeOutput writer pid faults output contents disk = (result, disk))
      (hresult : ∀ u, result ≠ .ok u) :
      (writeOutput writer pid faults output contents disk).2.files = disk.files ∧
        ∀ u, (writeOutput writer pid faults output contents disk).1 ≠ .ok u := by
    rw [hrun]
    exact ⟨rfl, hresult⟩
  cases hname : fileName output with
  | none => exact Or.inl (hearly (by rw [writeOutput, hname]; rfl) (by simp))
  | some name =>
    cases contents with
    | ok bytes =>
      have htriple : Action.Triple _ (writeOutput writer pid faults output (.ok bytes)) _ _ :=
        writeOutput_files hname rfl (hfree name bytes hname rfl)
      rcases htriple disk rfl with ⟨_, disk', hrun, hfiles⟩ | ⟨error, disk', hrun, hfiles | hfiles⟩
      · exact Or.inr ⟨bytes, rfl, by rw [hrun]; exact hfiles⟩
      · exact Or.inl (by rw [hrun]; exact ⟨hfiles, by simp⟩)
      · exact Or.inr ⟨bytes, rfl, by rw [hrun]; exact hfiles⟩
    | err error => exact Or.inl (hearly (by rw [writeOutput, hname]; rfl) (by simp))
    | panic => exact Or.inl (hearly (by rw [writeOutput, hname]; rfl) (by simp))

/-- Whatever stands at the temporary path, a call either has failed and left the
output as it was, or has replaced it. -/
theorem writeOutput_output (disk : Disk (List Component)) :
    ((writeOutput writer pid faults output contents disk).2.files (location output) =
        disk.files (location output) ∧
      ∀ u, (writeOutput writer pid faults output contents disk).1 ≠ .ok u) ∨
    ∃ bytes, contents = .ok bytes ∧
      (writeOutput writer pid faults output contents disk).2.files (location output) =
        some bytes := by
  by_cases hfree : TemporaryFree writer pid output contents disk.files
  · rcases writeOutput_left hfree with ⟨hfiles, hfailed⟩ | ⟨bytes, hbytes, hfiles⟩
    · exact Or.inl ⟨congrFun hfiles _, hfailed⟩
    · exact Or.inr ⟨bytes, hbytes, (congrFun hfiles _).trans (Function.update_self _ _ _)⟩
  · obtain ⟨name, bytes, hname, hcontents, hoccupied⟩ := occupied_of_not_free hfree
    obtain ⟨error, hrun⟩ := writeOutput_of_occupied disk hname hcontents hoccupied
    rw [hrun]
    refine Or.inl ⟨?_, by simp⟩
    exact Function.update_of_ne (location_ne_temporaryPath writer pid hname) _ _

/-- A call with a free temporary path succeeds when no operation fails. -/
theorem writeOutput_noFaults {disk : Disk (List Component)} (hname : fileName output = some name)
    (hfree : disk.files (location (temporaryPath writer pid output name)) = none) :
    ∃ disk', writeOutput writer pid noFaults output (.ok bytes) disk = (.ok (), disk') := by
  rw [writeOutput_eq hname rfl]
  generalize temporaryPath writer pid output name = temporary at hfree
  have hcreate : ¬(noFaults.create = true ∨ (disk.files (location temporary)).isSome) := by
    simp [noFaults, hfree]
  obtain ⟨disk₁, hcreated, hempty⟩ : ∃ disk₁, createNew noFaults.create (location temporary)
      ("failed to create " ++ display temporary) disk = (.ok (), disk₁) ∧
        disk₁.files (location temporary) = some [] := ⟨_, if_neg hcreate, by simp [Disk.step]⟩
  obtain ⟨disk₂, hwritten, hcontents⟩ : ∃ disk₂, writeAll noFaults.write (location temporary) bytes
      ("failed to write " ++ display temporary) disk₁ = (.ok (), disk₂) ∧
        disk₂.files (location temporary) = some bytes := by
    refine ⟨_, rfl, ?_⟩
    rw [files_writePrefixes hempty, List.take_length]
  obtain ⟨disk₃, hmoved⟩ : ∃ disk₃, renameFile noFaults.rename (location temporary)
      (location output) (writer.moving ++ " " ++ display temporary ++ " to " ++ display output)
      disk₂ = (.ok (), disk₃) := by
    rw [renameFile, hcontents]
    exact ⟨_, rfl⟩
  refine ⟨disk₃, Action.onErr_of_ok ?_⟩
  simp only [stageOutput, Action.bind_eq_ok]
  exact ⟨(), _, hcreated, (), _, hwritten, (), _, rfl, (), _, hmoved, (), _, rfl, rfl⟩

end Left

end PolytopeOS.Host
