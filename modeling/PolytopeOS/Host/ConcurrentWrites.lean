import PolytopeOS.Corelib.Threads
import PolytopeOS.Host.AtomicWrite

/-!
# Writers of one output side by side

The calls of the writers as machines that take one operation at a time. Alone,
such a machine does what `writeOutput` does. Any number of processes may write one
output at the same time, and any of them may stop at any point: each of them
comes to the end it would come to alone, and the output is at no time a part of
anything.
-/

namespace PolytopeOS.Host
open Corelib StateTransition

/-- Where a call is. -/
inductive Stage where
  | create
  | write (count : ℕ)
  | sync
  | rename
  | openDirectory
  | syncDirectory
  | cleanup (error : String)
  | done (result : Exec String Unit)

/-- A call that comes to its temporary file. Besides the operations that report
their faults, the removal of the temporary file may fail, which the call ignores. -/
structure WriterCall where
  writer : Writer
  pid : ℕ
  faults : Faults
  removeFails : Bool
  output : Bytes
  name : Bytes
  bytes : Bytes
  named : fileName output = some name

namespace WriterCall

def temporary (call : WriterCall) : Bytes :=
  temporaryPath call.writer call.pid call.output call.name

def moveError (call : WriterCall) : String :=
  call.writer.moving ++ " " ++ display call.temporary ++ " to " ++ display call.output

/-- The operation that may fail without touching a file. -/
def attempt (fails : Bool) (error : String) (next : Stage) (files : Files (List Component)) :
    Option (Stage × Files (List Component)) :=
  some (if fails then .cleanup error else next, files)

/-- The next operation of a call. -/
def step (call : WriterCall) :
    Stage × Files (List Component) → Option (Stage × Files (List Component))
  | (.create, files) =>
    if call.faults.create ∨ (files (location call.temporary)).isSome then
      some (.cleanup ("failed to create " ++ display call.temporary), files)
    else some (.write 0, Function.update files (location call.temporary) (some []))
  | (.write count, files) =>
    if count < call.faults.write.getD call.bytes.length then
      some (.write (count + 1),
        Function.update files (location call.temporary) (some (call.bytes.take (count + 1))))
    else attempt call.faults.write.isSome ("failed to write " ++ display call.temporary) .sync files
  | (.sync, files) =>
    attempt call.faults.sync ("failed to sync " ++ display call.temporary) .rename files
  | (.rename, files) =>
    match files (location call.temporary) with
    | none => some (.cleanup call.moveError, files)
    | some contents =>
      if call.faults.rename then some (.cleanup call.moveError, files)
      else
        some (.openDirectory, Function.update
          (Function.update files (location call.temporary) none) (location call.output)
          (some contents))
  | (.openDirectory, files) =>
    attempt call.faults.openDirectory
      ("failed to open output directory " ++ display (outputParent call.output))
      .syncDirectory files
  | (.syncDirectory, files) =>
    attempt call.faults.syncDirectory
      ("failed to sync output directory " ++ display (outputParent call.output)) (.done (.ok ()))
      files
  | (.cleanup error, files) =>
    some (.done (.err error),
      if call.removeFails then files
      else Function.update files (location call.temporary) none)
  | (.done _, _) => none

/-- The call by itself, from its first operation on. -/
def alone (call : WriterCall) (files : Files (List Component)) :
    Exec String Unit × Disk (List Component) :=
  writeOutput call.writer call.pid call.faults call.output (.ok call.bytes) ⟨files, []⟩

end WriterCall

-- ════════════════════════════════════════════════════════════════════════
-- A call by itself
-- ════════════════════════════════════════════════════════════════════════

section Alone

variable (call : WriterCall)

/-- An action on the disk is what the call does from one stage to another. -/
abbrev StageRuns (x : Action (Disk (List Component)) String Unit) (entry exit : Stage) : Prop :=
  Action.RunsAs call.step Disk.files Stage.cleanup x entry exit

theorem createNew_runs :
    StageRuns call (createNew call.faults.create (location call.temporary)
      ("failed to create " ++ display call.temporary)) .create (.write 0) := by
  intro disk
  by_cases hfails : call.faults.create = true ∨ (disk.files (location call.temporary)).isSome
  · exact Or.inr ⟨_, disk, if_pos hfails, .single (if_pos hfails)⟩
  · exact Or.inl ⟨_, if_neg hfails, .single (if_neg hfails)⟩

/-- The bytes go to the file one by one. -/
theorem writePrefixes_runs {count : ℕ} (h : count ≤ call.faults.write.getD call.bytes.length)
    (disk : Disk (List Component)) :
    Reaches call.step (.write 0, disk.files)
      (.write count, (writePrefixes (location call.temporary) call.bytes count disk).files) := by
  induction count with
  | zero => exact .refl
  | succ count ih => exact (ih (Nat.le_of_succ_le h)).tail (if_pos h)

theorem writeAll_runs :
    StageRuns call (writeAll call.faults.write (location call.temporary) call.bytes
      ("failed to write " ++ display call.temporary)) (.write 0) .sync := by
  intro disk
  have hprefixes := writePrefixes_runs call le_rfl disk
  have hlast : ∀ files, call.step (.write (call.faults.write.getD call.bytes.length), files) =
      WriterCall.attempt call.faults.write.isSome ("failed to write " ++ display call.temporary)
        .sync files := fun files => if_neg (Nat.lt_irrefl _)
  cases hfault : call.faults.write with
  | some count =>
    rw [hfault] at hprefixes hlast
    exact Or.inr ⟨_, _, rfl, hprefixes.tail (hlast _)⟩
  | none =>
    rw [hfault] at hprefixes hlast
    exact Or.inl ⟨_, rfl, hprefixes.tail (hlast _)⟩

theorem mayFail_runs {fails : Bool} {error : String} {entry exit : Stage}
    (hstep : ∀ files, call.step (entry, files) = WriterCall.attempt fails error exit files) :
    StageRuns call (Action.mayFail fails error) entry exit := by
  intro disk
  cases fails with
  | true => exact Or.inr ⟨error, disk, rfl, .single (hstep disk.files)⟩
  | false => exact Or.inl ⟨disk, rfl, .single (hstep disk.files)⟩

variable {call} in
theorem step_rename_of_none {files : Files (List Component)}
    (h : files (location call.temporary) = none) :
    call.step (.rename, files) = some (.cleanup call.moveError, files) := by
  simp only [WriterCall.step, h]

variable {call} in
theorem step_rename_of_some {files : Files (List Component)} {contents : Bytes}
    (h : files (location call.temporary) = some contents) :
    call.step (.rename, files) =
      if call.faults.rename then some (.cleanup call.moveError, files)
      else some (.openDirectory, Function.update
        (Function.update files (location call.temporary) none) (location call.output)
        (some contents)) := by
  simp only [WriterCall.step, h]

theorem renameFile_runs :
    StageRuns call (renameFile call.faults.rename (location call.temporary) (location call.output)
      call.moveError) .rename .openDirectory := by
  intro disk
  unfold renameFile
  cases hfile : disk.files (location call.temporary) with
  | none => exact Or.inr ⟨_, disk, rfl, .single (step_rename_of_none hfile)⟩
  | some contents =>
    have hstep := step_rename_of_some hfile
    by_cases hfails : call.faults.rename = true
    · exact Or.inr ⟨_, disk, if_pos hfails, .single (hstep.trans (if_pos hfails))⟩
    · exact Or.inl ⟨_, if_neg hfails, .single (hstep.trans (if_neg hfails))⟩

theorem stageOutput_runs :
    StageRuns call (stageOutput call.writer call.faults call.output call.temporary call.bytes)
      .create (.done (.ok ())) := by
  refine (createNew_runs call).bind ?_
  refine (writeAll_runs call).bind ?_
  refine (mayFail_runs call fun _ => rfl).bind ?_
  refine (renameFile_runs call).bind ?_
  refine (mayFail_runs call fun _ => rfl).bind ?_
  exact mayFail_runs call fun _ => rfl

/-- Alone, the operations of a call come to the end that `writeOutput` describes,
to its files only if the temporary file could be removed. -/
theorem reaches_alone (files : Files (List Component)) :
    ∃ files', Reaches call.step (.create, files) (.done (call.alone files).1, files') ∧
      (call.removeFails = false → files' = (call.alone files).2.files) := by
  have halone : call.alone files =
      Action.onErr (stageOutput call.writer call.faults call.output call.temporary call.bytes)
        (removeFile (location call.temporary)) ⟨files, []⟩ := writeOutput_eq call.named rfl _
  rw [halone]
  rcases stageOutput_runs call ⟨files, []⟩ with ⟨disk, hrun, hreach⟩ | ⟨e, disk, hrun, hreach⟩
  · rw [Action.onErr_of_ok hrun]
    exact ⟨_, hreach, fun _ => rfl⟩
  · rw [Action.onErr_of_err hrun]
    refine ⟨_, hreach.tail rfl, fun hremoves => ?_⟩
    rw [hremoves, if_neg Bool.false_ne_true]
    rfl

end Alone

-- ════════════════════════════════════════════════════════════════════════
-- What a step may do
-- ════════════════════════════════════════════════════════════════════════

/-- The temporary file at each stage of a call. -/
def WriterCall.Holds (call : WriterCall) : Stage → Option Bytes → Prop
  | .create, _ => True
  | .write count, file => file = some (call.bytes.take count)
  | .sync, file => file = some call.bytes
  | .rename, file => file = some call.bytes
  | .openDirectory, file => file = none
  | .syncDirectory, file => file = none
  | .cleanup _, _ => True
  | .done result, file => result = .ok () ∨ call.removeFails = false → file = none

/-- The stages in which the file of the call has been renamed, or was since. -/
def Stage.Published : Stage → Prop
  | .openDirectory => True
  | .syncDirectory => True
  | .done (.ok _) => True
  | _ => False

section Step

variable {call : WriterCall} {stage stage' : Stage} {files files' : Files (List Component)}

theorem WriterCall.output_ne (call : WriterCall) : location call.output ≠ location call.temporary :=
  location_ne_temporaryPath call.writer call.pid call.named

/-- A step changes at most the temporary file and the output, the latter to the
contents of the call only. -/
structure Moves (call : WriterCall) (stage stage' : Stage) (files files' : Files (List Component)) :
    Prop where
  holds : call.Holds stage' (files' (location call.temporary))
  frame : ∀ path, path ≠ location call.temporary → path ≠ location call.output →
    files' path = files path
  output : files' (location call.output) = some call.bytes ∨
    files' (location call.output) = files (location call.output) ∧
      (stage'.Published → stage.Published)

theorem moves_update {contents : Option Bytes} (hholds : call.Holds stage' contents)
    (hpublished : stage'.Published → stage.Published) :
    Moves call stage stage' files (Function.update files (location call.temporary) contents) where
  holds := by rwa [Function.update_self]
  frame path htemporary _ := Function.update_of_ne htemporary _ _
  output := Or.inr ⟨Function.update_of_ne call.output_ne _ _, hpublished⟩

theorem moves_same (hholds : call.Holds stage' (files (location call.temporary)))
    (hpublished : stage'.Published → stage.Published) : Moves call stage stage' files files where
  holds := hholds
  frame _ _ _ := rfl
  output := Or.inr ⟨rfl, hpublished⟩

theorem moves_attempt {fails : Bool} {error : String} {next : Stage}
    (h : WriterCall.attempt fails error next files = some (stage', files'))
    (hholds : call.Holds next (files (location call.temporary)))
    (hpublished : next.Published → stage.Published) : Moves call stage stage' files files' := by
  obtain ⟨rfl, rfl⟩ := Prod.mk.inj (Option.some.inj h)
  cases fails with
  | true => exact moves_same trivial False.elim
  | false => exact moves_same hholds hpublished

theorem moves_step (h : call.step (stage, files) = some (stage', files'))
    (hholds : call.Holds stage (files (location call.temporary))) :
    Moves call stage stage' files files' := by
  cases stage with
  | create =>
    rw [WriterCall.step] at h
    split at h
    · cases h
      exact moves_same trivial False.elim
    · cases h
      exact moves_update (congrArg some List.take_zero.symm) False.elim
  | write count =>
    rw [WriterCall.step] at h
    split at h
    · cases h
      exact moves_update rfl False.elim
    · next hcount =>
      cases hfault : call.faults.write with
      | some limit =>
        rw [hfault] at h
        cases h
        exact moves_same trivial False.elim
      | none =>
        rw [hfault] at h hcount
        refine moves_attempt h (hholds.trans ?_) False.elim
        rw [List.take_of_length_le (Nat.not_lt.mp hcount)]
  | sync => exact moves_attempt h hholds False.elim
  | rename =>
    rw [step_rename_of_some hholds] at h
    split at h
    · cases h
      exact moves_same trivial False.elim
    · cases h
      refine ⟨?_, ?_, Or.inl (Function.update_self _ _ _)⟩
      · rw [Function.update_of_ne call.output_ne.symm, Function.update_self]
        rfl
      · intro path htemporary houtput
        rw [Function.update_of_ne houtput, Function.update_of_ne htemporary]
  | openDirectory => exact moves_attempt h hholds id
  | syncDirectory => exact moves_attempt h (fun _ => hholds) fun _ => trivial
  | cleanup error =>
    cases h
    cases hremove : call.removeFails with
    | true => exact moves_same (fun h => by simp [hremove] at h) False.elim
    | false => exact moves_update (fun _ => rfl) False.elim
  | done result => cases h

theorem attempt_congr {fails : Bool} {error : String} {next : Stage}
    (other : Files (List Component))
    (h : WriterCall.attempt fails error next files = some (stage', files')) :
    WriterCall.attempt fails error next other = some (stage', other) ∧ files' = files := by
  obtain ⟨rfl, rfl⟩ := Prod.mk.inj (Option.some.inj h)
  exact ⟨rfl, rfl⟩

/-- What a step does depends on the temporary file alone. -/
theorem step_congr {other : Files (List Component)}
    (heq : other (location call.temporary) = files (location call.temporary))
    (h : call.step (stage, files) = some (stage', files')) :
    ∃ other', call.step (stage, other) = some (stage', other') ∧
      other' (location call.temporary) = files' (location call.temporary) := by
  have hattempt : ∀ {fails error next}, WriterCall.attempt fails error next files =
      some (stage', files') → ∃ other', WriterCall.attempt fails error next other =
        some (stage', other') ∧
        other' (location call.temporary) = files' (location call.temporary) := by
    intro fails error next h
    obtain ⟨hother, rfl⟩ := attempt_congr other h
    exact ⟨other, hother, heq⟩
  cases stage with
  | create =>
    rw [WriterCall.step] at h ⊢
    rw [heq]
    split at h
    · next hfails =>
      cases h
      exact ⟨other, if_pos hfails, heq⟩
    · next hfails =>
      cases h
      exact ⟨_, if_neg hfails, by rw [Function.update_self, Function.update_self]⟩
  | write count =>
    rw [WriterCall.step] at h ⊢
    split at h
    · next hcount =>
      cases h
      exact ⟨_, if_pos hcount, by rw [Function.update_self, Function.update_self]⟩
    · next hcount =>
      rw [if_neg hcount]
      exact hattempt h
  | sync => exact hattempt h
  | rename =>
    cases hfile : files (location call.temporary) with
    | none =>
      rw [step_rename_of_none hfile] at h
      cases h
      exact ⟨other, step_rename_of_none (heq.trans hfile), heq⟩
    | some contents =>
      rw [step_rename_of_some hfile] at h
      rw [step_rename_of_some (heq.trans hfile)]
      split at h
      · next hfails =>
        cases h
        exact ⟨other, if_pos hfails, heq⟩
      · next hfails =>
        cases h
        refine ⟨_, if_neg hfails, ?_⟩
        rw [Function.update_of_ne call.output_ne.symm, Function.update_of_ne call.output_ne.symm,
          Function.update_self, Function.update_self]
  | openDirectory => exact hattempt h
  | syncDirectory => exact hattempt h
  | cleanup error =>
    cases h
    refine ⟨_, rfl, ?_⟩
    split
    · exact heq
    · rw [Function.update_self, Function.update_self]
  | done result => cases h

theorem holds_of_reaches {initial : Files (List Component)}
    (h : Reaches call.step (.create, initial) (stage, files)) :
    call.Holds stage (files (location call.temporary)) := by
  generalize hend : (stage, files) = state at h
  induction h generalizing stage files with
  | refl =>
    obtain ⟨rfl, rfl⟩ := Prod.mk.inj hend
    trivial
  | tail hrun hlast ih =>
    rw [← hend] at hlast
    exact (moves_step hlast (ih rfl)).holds

end Step

-- ════════════════════════════════════════════════════════════════════════
-- Calls side by side
-- ════════════════════════════════════════════════════════════════════════

/-- The calls of processes that write one output: no two have one process id, and
the mark of each ends in a dash, as those of the three writers do. -/
structure SideBySide {ι : Type} (calls : ι → WriterCall) (output : Bytes) : Prop where
  output : ∀ i, (calls i).output = output
  pid : Function.Injective fun i => (calls i).pid
  mark : ∀ i, (calls i).writer.mark.getLast? = some '-'

theorem cut_after_dash (before : List Char) {digits : List Char} (h : '-' ∉ digits) :
    (cut '-' (before ++ ['-'] ++ digits)).2 = digits := by
  rw [cut, List.foldl_append, ← cut, cut_concat_sep, foldl_cutStep_of_not_mem h]
  rfl

theorem dash_not_mem_decimal (n : ℕ) : '-' ∉ (toString n).toList := by
  intro h
  rw [Nat.toString_eq_repr, Nat.toList_repr] at h
  exact absurd (Nat.isDigit_of_mem_toDigits (by decide) (by decide) h) (by decide)

/-- The process id can be read off a temporary name. -/
theorem pid_of_temporaryName {mark mark' : List Char} {pid pid' : ℕ} {name : Bytes}
    (hmark : mark.getLast? = some '-') (hmark' : mark'.getLast? = some '-')
    (h : temporaryName mark pid name = temporaryName mark' pid' name) : pid = pid' := by
  obtain ⟨before, rfl⟩ := List.getLast?_eq_some_iff.mp hmark
  obtain ⟨before', rfl⟩ := List.getLast?_eq_some_iff.mp hmark'
  rw [temporaryName, temporaryName, List.cons_inj_right, List.append_assoc, List.append_assoc,
    List.append_cancel_left_eq] at h
  have htext : before ++ ['-'] ++ (toString pid).toList =
      before' ++ ['-'] ++ (toString pid').toList := by
    have hutf8 : utf8 (before ++ ['-'] ++ (toString pid).toList) =
        utf8 (before' ++ ['-'] ++ (toString pid').toList) := by
      simpa only [utf8, List.flatMap_append] using h
    exact Option.some.inj ((fromUtf8_utf8 _).symm.trans ((congrArg fromUtf8 hutf8).trans
      (fromUtf8_utf8 _)))
  have hdigits : (toString pid).toList = (toString pid').toList :=
    calc (toString pid).toList = (cut '-' (before ++ ['-'] ++ (toString pid).toList)).2 :=
          (cut_after_dash before (dash_not_mem_decimal pid)).symm
      _ = (cut '-' (before' ++ ['-'] ++ (toString pid').toList)).2 := by rw [htext]
      _ = (toString pid').toList := cut_after_dash before' (dash_not_mem_decimal pid')
  rw [Nat.toString_eq_repr, Nat.toString_eq_repr, Nat.toList_repr, Nat.toList_repr] at hdigits
  calc pid = Nat.ofDigitChars 10 (Nat.toDigits 10 pid) 0 := Nat.ofDigitChars_ten_toDigits.symm
    _ = Nat.ofDigitChars 10 (Nat.toDigits 10 pid') 0 := by rw [hdigits]
    _ = pid' := Nat.ofDigitChars_ten_toDigits

section SideBySide

variable {ι : Type} {calls : ι → WriterCall} {output : Bytes} {initial : Files (List Component)}

theorem SideBySide.temporary_ne (h : SideBySide calls output) {i j : ι} (hij : i ≠ j) :
    location (calls i).temporary ≠ location (calls j).temporary := by
  have hname : (calls i).name = (calls j).name := by
    have hi := (calls i).named
    have hj := (calls j).named
    rw [h.output] at hi hj
    exact Option.some.inj (hi.symm.trans hj)
  intro heq
  rw [WriterCall.temporary, WriterCall.temporary, location_temporaryPath _ _ (calls i).named,
    location_temporaryPath _ _ (calls j).named, h.output, h.output, hname,
    List.append_cancel_left_eq] at heq
  have htemporary : temporaryName (calls i).writer.mark (calls i).pid (calls j).name =
      temporaryName (calls j).writer.mark (calls j).pid (calls j).name := by simpa using heq
  exact hij (h.pid (pid_of_temporaryName (h.mark i) (h.mark j) htemporary))

theorem SideBySide.output_ne (h : SideBySide calls output) (i : ι) :
    location output ≠ location (calls i).temporary := h.output i ▸ (calls i).output_ne

/-- What a call knows of the files: its temporary file is as if the call were
alone, and once its file was renamed the output is the contents of some call. -/
structure Knows (calls : ι → WriterCall) (output : Bytes) (initial : Files (List Component)) (i : ι)
    (stage : Stage) (files : Files (List Component)) : Prop where
  alone : ∃ files', Reaches (calls i).step (.create, initial) (stage, files') ∧
    files' (location (calls i).temporary) = files (location (calls i).temporary)
  published : stage.Published → ∃ j, files (location output) = some (calls j).bytes

/-- What holds of the files at all times. -/
structure Whole (calls : ι → WriterCall) (output : Bytes) (initial files : Files (List Component)) :
    Prop where
  contents : files (location output) = initial (location output) ∨
    ∃ i, files (location output) = some (calls i).bytes
  frame : ∀ path, path ≠ location output → (∀ i, path ≠ location (calls i).temporary) →
    files path = initial path

variable {i j : ι} {stage stage' : Stage} {files files' : Files (List Component)}

theorem Knows.holds (h : Knows calls output initial i stage files) :
    (calls i).Holds stage (files (location (calls i).temporary)) := by
  obtain ⟨alone, hreach, heq⟩ := h.alone
  exact heq ▸ holds_of_reaches hreach

/-- A step publishes the contents of its call, or leaves the output. -/
theorem Knows.output_step (hside : SideBySide calls output)
    (h : Knows calls output initial i stage files)
    (hstep : (calls i).step (stage, files) = some (stage', files')) :
    files' (location output) = some (calls i).bytes ∨
      files' (location output) = files (location output) ∧
        (stage'.Published → stage.Published) := by
  have houtput := (moves_step hstep h.holds).output
  rwa [hside.output i] at houtput

theorem Knows.own (hside : SideBySide calls output) (hwhole : Whole calls output initial files)
    (h : Knows calls output initial i stage files)
    (hstep : (calls i).step (stage, files) = some (stage', files')) :
    Knows calls output initial i stage' files' ∧ Whole calls output initial files' := by
  have houtput := h.output_step hside hstep
  have hframe := (moves_step hstep h.holds).frame
  obtain ⟨alone, hreach, heq⟩ := h.alone
  obtain ⟨alone', hstep', heq'⟩ := step_congr heq hstep
  refine ⟨⟨⟨alone', hreach.tail hstep', heq'⟩, fun hpublished => ?_⟩, ?_,
    fun path hpath hother => ?_⟩
  · rcases houtput with hnew | ⟨hsame, hbefore⟩
    · exact ⟨i, hnew⟩
    · rw [hsame]
      exact h.published (hbefore hpublished)
  · rcases houtput with hnew | ⟨hsame, -⟩
    · exact Or.inr ⟨i, hnew⟩
    · rw [hsame]
      exact hwhole.contents
  · rw [hframe path (hother i) (hside.output i ▸ hpath)]
    exact hwhole.frame path hpath hother

theorem Knows.other (hside : SideBySide calls output) (hij : i ≠ j) {stageⱼ : Stage}
    (h : Knows calls output initial i stage files) (hj : Knows calls output initial j stageⱼ files)
    (hstep : (calls j).step (stageⱼ, files) = some (stage', files')) :
    Knows calls output initial i stage files' := by
  obtain ⟨alone, hreach, heq⟩ := h.alone
  have hframe := (moves_step hstep hj.holds).frame (location (calls i).temporary)
    (hside.temporary_ne hij) (hside.output j ▸ (hside.output_ne i).symm)
  refine ⟨⟨alone, hreach, heq.trans hframe.symm⟩, fun hpublished => ?_⟩
  rcases hj.output_step hside hstep with hnew | ⟨hsame, -⟩
  · exact ⟨j, hnew⟩
  · rw [hsame]
    exact h.published hpublished

end SideBySide

/-- The calls in parallel. -/
def WriterSteps {ι : Type} (calls : ι → WriterCall) (i : ι)
    (before after : Stage × Files (List Component)) : Prop :=
  (calls i).step before = some after

/-- Processes that write one output at the same time, in any order of their
operations, with any faults and stopping anywhere. At every time the output is
as it was at first or the whole contents of one call, and once a call has
returned success it is the contents of a call. Every call that returns has the
result it would have alone, and leaves no temporary file unless it failed and
could not remove it. No other file changes. -/
theorem concurrent_writes_atomic {ι : Type} [DecidableEq ι] {calls : ι → WriterCall}
    {output : Bytes} (hside : SideBySide calls output) (initial : Files (List Component))
    {state : Threads ι Stage (Files (List Component))}
    (hrun : Threads.Reaches (WriterSteps calls) ⟨fun _ => .create, initial⟩ state) :
    (state.shared (location output) = initial (location output) ∨
      ∃ i, state.shared (location output) = some (calls i).bytes) ∧
    ((∃ i, state.locals i = .done (.ok ())) →
      ∃ i, state.shared (location output) = some (calls i).bytes) ∧
    (∀ i result, state.locals i = .done result →
      result = ((calls i).alone initial).1 ∧
        (result = .ok () ∨ (calls i).removeFails = false →
          state.shared (location (calls i).temporary) = none)) ∧
    ∀ path, path ≠ location output → (∀ i, path ≠ location (calls i).temporary) →
      state.shared path = initial path := by
  obtain ⟨hwhole, hknows⟩ := hrun.invariant
    (P := Knows calls output initial) (G := Whole calls output initial)
    (fun i stage files next hwhole h hstep => h.own hside hwhole hstep)
    (fun i j stage stageⱼ files next hij h hj hstep => h.other hside hij hj hstep)
    ⟨Or.inl rfl, fun _ _ _ => rfl⟩ fun i => ⟨⟨initial, .refl, rfl⟩, False.elim⟩
  refine ⟨hwhole.contents, ?_, fun i result hdone => ?_, hwhole.frame⟩
  · rintro ⟨i, hdone⟩
    exact (hknows i).published (hdone ▸ trivial)
  · obtain ⟨files, hreach, -⟩ := (hknows i).alone
    have hholds := (hknows i).holds
    rw [hdone] at hreach hholds
    refine ⟨?_, hholds⟩
    obtain ⟨files', halone, -⟩ := reaches_alone (calls i) initial
    have hend := eq_of_reaches hreach halone rfl rfl
    exact Stage.done.inj (Prod.mk.inj hend).1

/-- Two processes that write the same image. -/
def sampleCalls (second : Bool) : WriterCall where
  writer := atomicWriter
  pid := if second then 8 else 7
  faults := noFaults
  removeFails := true
  output := utf8 "os".toList
  name := utf8 "os".toList
  bytes := if second then [2] else [1]
  named := by decide

theorem sampleCalls_sideBySide : SideBySide sampleCalls (utf8 "os".toList) where
  output _ := rfl
  pid := by decide
  mark i := by cases i <;> decide

theorem step_create_sample {i : Bool} {files : Files (List Component)}
    (hfree : files (location (sampleCalls i).temporary) = none) :
    (sampleCalls i).step (.create, files) =
      some (.write 0, Function.update files (location (sampleCalls i).temporary) (some [])) := by
  have hcreate : (sampleCalls i).faults.create = false := rfl
  rw [WriterCall.step, hfree, hcreate]
  exact if_neg (by decide)

/-- What is left to do once the temporary file is there. -/
theorem reaches_done_sample (i : Bool) (files : Files (List Component)) :
    ∃ files', Reaches (sampleCalls i).step (.write 0, files) (.done (.ok ()), files') ∧
      files' (location (utf8 "os".toList)) = some (sampleCalls i).bytes ∧
      ∀ path, path ≠ location (utf8 "os".toList) → path ≠ location (sampleCalls i).temporary →
        files' path = files path := by
  let written := Function.update files (location (sampleCalls i).temporary)
    (some ((sampleCalls i).bytes.take 1))
  have hwrite : (sampleCalls i).step (.write 0, files) = some (.write 1, written) :=
    if_pos (by cases i <;> decide)
  have hwritten : (sampleCalls i).step (.write 1, written) = some (.sync, written) :=
    if_neg (by cases i <;> decide)
  have hfile : written (location (sampleCalls i).temporary) = some _ := Function.update_self _ _ _
  have hrename := (step_rename_of_some hfile).trans (if_neg Bool.false_ne_true)
  have hend : Reaches (sampleCalls i).step (.write 0, files) (.done (.ok ()), _) :=
    .tail (.tail (.tail (.tail (.tail (.single hwrite) hwritten) rfl) hrename) rfl) rfl
  refine ⟨_, hend, ?_, fun path houtput htemporary => ?_⟩
  · rw [show location (utf8 "os".toList) = location (sampleCalls i).output from rfl,
      Function.update_self]
    cases i <;> rfl
  · rw [Function.update_of_ne (by exact houtput), Function.update_of_ne htemporary]
    exact Function.update_of_ne htemporary _ _

/-- Both create their temporary files, then the first writes and renames its file,
and then the second. -/
theorem concurrent_writes_atomic_sample :
    ∃ state, Threads.Reaches (WriterSteps sampleCalls) ⟨fun _ => .create, fun _ => none⟩ state ∧
      state.locals = (fun _ => .done (.ok ())) ∧
      state.shared (location (utf8 "os".toList)) = some [2] ∧
      ∀ i, (.ok () : Exec String Unit) = ((sampleCalls i).alone fun _ => none).1 ∧
        state.shared (location (sampleCalls i).temporary) = none := by
  let created : Files (List Component) :=
    Function.update (fun _ => none) (location (sampleCalls false).temporary) (some [])
  have hfree : created (location (sampleCalls true).temporary) = none :=
    Function.update_of_ne (sampleCalls_sideBySide.temporary_ne (by decide)) _ _
  have hcreated : Threads.Reaches (WriterSteps sampleCalls) ⟨fun _ => .create, fun _ => none⟩ _ :=
    .tail (.single ⟨false, _, step_create_sample rfl, rfl⟩) ⟨true, _, step_create_sample hfree, rfl⟩
  obtain ⟨first, hfirst, -, -⟩ := reaches_done_sample false _
  obtain ⟨second, hsecond, houtput, -⟩ := reaches_done_sample true first
  have hrun := (hcreated.trans (Threads.Reaches.of_machine (fun _ _ => id) hfirst rfl)).trans
    (Threads.Reaches.of_machine (fun _ _ => id) hsecond rfl)
  refine ⟨_, hrun, ?_, houtput, fun i => ?_⟩
  · funext i
    cases i <;> rfl
  · obtain ⟨-, -, hreturned, -⟩ := concurrent_writes_atomic sampleCalls_sideBySide _ hrun
    have hdone := hreturned i (.ok ()) (by cases i <;> rfl)
    exact ⟨hdone.1, hdone.2 (Or.inl rfl)⟩

end PolytopeOS.Host
