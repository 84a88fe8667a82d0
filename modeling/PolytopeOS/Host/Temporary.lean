import PolytopeOS.Corelib.Threads
import PolytopeOS.Host.AtomicWrite

/-!
# Temporary directories

`TemporaryDirectory::create` makes the parent and takes names from a counter of
the process until the directory did not exist; dropping the guard removes the
directory. Threads and processes do so side by side. As long as no parent lies
within a temporary directory, a guard has its directory to itself while it lives,
and nothing that was there before is ever removed.
-/

namespace PolytopeOS.Host
open Corelib

/-- A call of `create`, from a thread of the process `pid`. -/
structure DirectoryRequest where
  parent : Bytes
  purpose : List Char
  pid : ℕ
  slash_not_mem_purpose : slash ∉ utf8 purpose

def DirectoryRequest.name (request : DirectoryRequest) (id : ℕ) : Bytes :=
  utf8 (".polytope-".toList ++ request.purpose ++ ['-'] ++ (toString request.pid).toList ++ ['-'] ++
    (toString id).toList)

def DirectoryRequest.path (request : DirectoryRequest) (id : ℕ) : Bytes :=
  joinPath request.parent (request.name id)

inductive CreateDir where
  | created
  | alreadyExists
  | failed

/-- What one call of `create` meets: whether `create_dir_all` succeeds, and for each
attempt the number from the counter and the result of `create_dir`. -/
structure DirectoryAnswers where
  parent : Bool
  attempt : ℕ → ℕ × CreateDir

def DirectoryRequest.noParent (request : DirectoryRequest) : String :=
  "failed to create temporary parent " ++ display request.parent

def DirectoryRequest.notCreated (request : DirectoryRequest) (id : ℕ) : String :=
  "failed to create temporary directory " ++ display (request.path id)

def DirectoryRequest.exhausted (request : DirectoryRequest) : String :=
  "could not allocate a unique temporary directory under " ++ display request.parent

/-- The loop of `create` from its attempt number `call` on, with the attempts left. -/
def DirectoryRequest.createLoop (request : DirectoryRequest) (answer : ℕ → ℕ × CreateDir) :
    ℕ → ℕ → Exec String Bytes
  | _, 0 => .err request.exhausted
  | call, attempts + 1 =>
    match answer call with
    | (id, .created) => .ok (request.path id)
    | (_, .alreadyExists) => request.createLoop answer (call + 1) attempts
    | (id, .failed) => .err (request.notCreated id)

/-- `TemporaryDirectory::create`, with the path of its guard. -/
def DirectoryRequest.create (request : DirectoryRequest) (answers : DirectoryAnswers) :
    Exec String Bytes := do
  Exec.ensure answers.parent request.noParent
  request.createLoop answers.attempt 0 128

/-- The counter of every process, and which paths exist. -/
structure DirectoryWorld where
  nextDirectoryId : ℕ → ℕ
  present : List Component → Bool

/-- Where a call of `create` is, in `create_dir_all` or in the loop with the
attempts that are left, and what becomes of its guard. -/
inductive GuardState where
  | preparing
  | creating (attempts : ℕ)
  | numbered (attempts id : ℕ)
  | live (path : Bytes)
  | failed (error : String)
  | dropped

/-- One atomic operation of a call or of the destructor of its guard. -/
inductive DirectoryStep (request : DirectoryRequest) :
    GuardState × DirectoryWorld → GuardState × DirectoryWorld → Prop where
  /-- One directory of the parent that `create_dir_all` found missing. -/
  | makeAbove {above : List Component} {world : DirectoryWorld}
    (habove : above <+: location request.parent) (hmissing : world.present above = false) :
    DirectoryStep request (.preparing, world)
      (.preparing, { world with present := Function.update world.present above true })
  | prepared {world : DirectoryWorld} (hparent : world.present (location request.parent) = true) :
    DirectoryStep request (.preparing, world) (.creating 128, world)
  | unprepared (world : DirectoryWorld) :
    DirectoryStep request (.preparing, world) (.failed request.noParent, world)
  /-- `fetch_add`, which wraps. -/
  | number (attempts : ℕ) (world : DirectoryWorld) :
    DirectoryStep request (.creating (attempts + 1), world)
      (.numbered attempts (world.nextDirectoryId request.pid),
        { world with
          nextDirectoryId := Function.update world.nextDirectoryId request.pid
            ((world.nextDirectoryId request.pid + 1) % 2 ^ 64) })
  | create {attempts id : ℕ} {world : DirectoryWorld}
    (hparent : world.present (location request.parent) = true)
    (hfree : world.present (location (request.path id)) = false) :
    DirectoryStep request (.numbered attempts id, world)
      (.live (request.path id),
        { world with
          present := Function.update world.present (location (request.path id)) true })
  | occupied {attempts id : ℕ} {world : DirectoryWorld}
    (hpresent : world.present (location (request.path id)) = true) :
    DirectoryStep request (.numbered attempts id, world) (.creating attempts, world)
  | refused (attempts id : ℕ) (world : DirectoryWorld) :
    DirectoryStep request (.numbered attempts id, world)
      (.failed (request.notCreated id), world)
  | exhausted (world : DirectoryWorld) :
    DirectoryStep request (.creating 0, world) (.failed request.exhausted, world)
  /-- `remove_dir_all`, of which any part may fail. -/
  | drop {path : Bytes} {world : DirectoryWorld} {present : List Component → Bool}
    (houtside : ∀ other, ¬location path <+: other → present other = world.present other)
    (hremoved : ∀ other, present other = true → world.present other = true) :
    DirectoryStep request (.live path, world) (.dropped, { world with present })

-- ════════════════════════════════════════════════════════════════════════
-- Names
-- ════════════════════════════════════════════════════════════════════════

theorem utf8_append (text more : List Char) : utf8 (text ++ more) = utf8 text ++ utf8 more :=
  List.flatMap_append

/-- The directory stands directly below the parent. -/
theorem location_path (request : DirectoryRequest) (id : ℕ) :
    location (request.path id) = location request.parent ++ [.normal (request.name id)] := by
  have hslash : slash ∉ request.name id := by
    simp only [DirectoryRequest.name, utf8_append, List.mem_append, not_or]
    exact ⟨⟨⟨⟨⟨by decide, request.slash_not_mem_purpose⟩, by decide⟩,
      slash_not_mem_decimal request.pid⟩, by decide⟩, slash_not_mem_decimal id⟩
  have hlength : 10 ≤ (request.name id).length := by
    have hmark : (utf8 ".polytope-".toList).length = 10 := by decide
    simp only [DirectoryRequest.name, utf8_append, List.length_append, hmark]
    omega
  exact location_joinPath_long hslash (by omega)

-- ════════════════════════════════════════════════════════════════════════
-- A call among others
-- ════════════════════════════════════════════════════════════════════════

/-- The attempts on names that are taken. -/
theorem createLoop_alreadyExists (request : DirectoryRequest) {answer : ℕ → ℕ × CreateDir}
    {call taken : ℕ} (h : ∀ k < taken, (answer (call + k)).2 = .alreadyExists) (attempts : ℕ) :
    request.createLoop answer call (taken + attempts) =
      request.createLoop answer (call + taken) attempts := by
  induction taken generalizing call with
  | zero => rw [Nat.zero_add, Nat.add_zero]
  | succ taken ih =>
    have hfirst : (answer call).2 = .alreadyExists := h 0 (Nat.succ_pos _)
    rw [Nat.succ_add, DirectoryRequest.createLoop,
      show answer call = ((answer call).1, .alreadyExists) from Prod.ext rfl hfirst]
    rw [ih fun k hk => by rw [Nat.add_assoc, Nat.add_comm 1]; exact h (k + 1) (Nat.succ_lt_succ hk)]
    rw [Nat.add_assoc, Nat.add_comm 1]

/-- The answers to a call whose first names are taken. -/
def answersAfter (taken id : ℕ) (last : CreateDir) : DirectoryAnswers :=
  ⟨true, fun call => if call < taken then (id, .alreadyExists) else (id, last)⟩

theorem create_answersAfter (request : DirectoryRequest) {taken attempts : ℕ}
    (h : taken + attempts = 128) (id : ℕ) (last : CreateDir) :
    request.create (answersAfter taken id last) =
      request.createLoop (answersAfter taken id last).attempt taken attempts := by
  have htaken : ∀ k < taken, ((answersAfter taken id last).attempt (0 + k)).2 = .alreadyExists := by
    intro k hk
    rw [Nat.zero_add]
    exact congrArg Prod.snd (if_pos hk)
  rw [DirectoryRequest.create, ← h, createLoop_alreadyExists request htaken, Nat.zero_add]
  rfl

section Answers

variable (request : DirectoryRequest) {attempts : ℕ} (h : attempts < 128) (id : ℕ)

include h

theorem createLoop_answersAfter (last : CreateDir) :
    request.create (answersAfter (127 - attempts) id last) =
        request.createLoop (answersAfter (127 - attempts) id last).attempt (127 - attempts)
          (attempts + 1) ∧
      (answersAfter (127 - attempts) id last).attempt (127 - attempts) = (id, last) :=
  ⟨create_answersAfter request (by omega) id last, if_neg (lt_irrefl _)⟩

theorem create_created :
    request.create (answersAfter (127 - attempts) id .created) = .ok (request.path id) := by
  obtain ⟨hcreate, hlast⟩ := createLoop_answersAfter request h id .created
  rw [hcreate, DirectoryRequest.createLoop, hlast]

theorem create_failed :
    request.create (answersAfter (127 - attempts) id .failed) = .err (request.notCreated id) := by
  obtain ⟨hcreate, hlast⟩ := createLoop_answersAfter request h id .failed
  rw [hcreate, DirectoryRequest.createLoop, hlast]

end Answers

/-- What the state of a call says about the function that it is a call of. -/
def GuardState.Follows (request : DirectoryRequest) : GuardState → Prop
  | .creating attempts => attempts ≤ 128
  | .numbered attempts _ => attempts < 128
  | .live path => ∃ answers, request.create answers = .ok path
  | .failed error => ∃ answers, request.create answers = .err error
  | .preparing | .dropped => True

theorem GuardState.Follows.step {request : DirectoryRequest} {state state' : GuardState}
    {world world' : DirectoryWorld} (h : state.Follows request)
    (hstep : DirectoryStep request (state, world) (state', world')) : state'.Follows request := by
  cases hstep with
  | makeAbove => trivial
  | prepared => exact le_rfl
  | unprepared => exact ⟨⟨false, fun _ => (0, .failed)⟩, rfl⟩
  | number => exact h
  | create => exact ⟨_, create_created request h _⟩
  | occupied => exact h.le
  | refused => exact ⟨_, create_failed request h _⟩
  | exhausted =>
    refine ⟨answersAfter 128 0 .failed, ?_⟩
    rw [create_answersAfter request (Nat.add_zero 128), DirectoryRequest.createLoop]
  | drop => trivial

/-- What becomes of a call, whatever other threads and processes do meanwhile, is a
result of `create`. -/
theorem create_of_reaches {ι : Type} [DecidableEq ι] {requests : ι → DirectoryRequest}
    {world : DirectoryWorld} {state : Threads ι GuardState DirectoryWorld}
    (hrun : Threads.Reaches (fun i => DirectoryStep (requests i)) ⟨fun _ => .preparing, world⟩
      state) (i : ι) : (state.locals i).Follows (requests i) :=
  (hrun.invariant (P := fun i state _ => state.Follows (requests i)) (G := fun _ => True)
    (fun _ _ _ _ _ hfollows hstep => ⟨hfollows.step hstep, trivial⟩)
    (fun _ _ _ _ _ _ _ hfollows _ _ => hfollows) trivial fun _ => trivial).2 i

-- ════════════════════════════════════════════════════════════════════════
-- Guards side by side
-- ════════════════════════════════════════════════════════════════════════

/-- With a path all those above it exist at the start, and no request has its
parent within a directory that a request may get. -/
structure ParentsOutside {ι : Type} (requests : ι → DirectoryRequest)
    (initial : List Component → Bool) : Prop where
  above : ∀ path below, path <+: below → initial below = true → initial path = true
  outside : ∀ i j id, ¬location ((requests j).path id) <+: location (requests i).parent

/-- What a live guard knows: its directory is new, and it is there. -/
def Owns (initial : List Component → Bool) (request : DirectoryRequest) (state : GuardState)
    (world : DirectoryWorld) : Prop :=
  ∀ path, state = .live path → initial (location path) = false ∧
    world.present (location path) = true ∧ ∃ id, path = request.path id

/-- Two guards with directories of their own. -/
def Apart (state other : GuardState) : Prop :=
  ∀ path path', state = .live path → other = .live path' → location path ≠ location path'

/-- Nothing of the start is missing. -/
def Keeps (initial : List Component → Bool) (world : DirectoryWorld) : Prop :=
  ∀ path, initial path = true → world.present path = true

section Guards

variable {ι : Type} {requests : ι → DirectoryRequest} {initial : List Component → Bool}
  {request : DirectoryRequest} {state state' : GuardState} {world world' : DirectoryWorld}

/-- What lies below a new directory was not there at the start. -/
theorem ParentsOutside.not_below (h : ParentsOutside requests initial) {path other : List Component}
    (hnew : initial path = false) (hother : initial other = true) : ¬path <+: other := by
  intro hbelow
  rw [h.above path other hbelow hother] at hnew
  cases hnew

theorem present_update {present : List Component → Bool} {path new : List Component}
    (h : present path = true) : Function.update present new true path = true := by
  rw [Function.update_apply]
  split
  · rfl
  · exact h

theorem Owns.own (h : ParentsOutside requests initial) (hkeeps : Keeps initial world)
    (howns : Owns initial request state world)
    (hstep : DirectoryStep request (state, world) (state', world')) :
    Owns initial request state' world' ∧ Keeps initial world' := by
  cases hstep with
  | makeAbove => exact ⟨nofun, fun path hpath => present_update (hkeeps path hpath)⟩
  | prepared => exact ⟨nofun, hkeeps⟩
  | unprepared => exact ⟨nofun, hkeeps⟩
  | number => exact ⟨nofun, hkeeps⟩
  | @create attempts id _ _ hfree =>
    refine ⟨?_, fun path hpath => ?_⟩
    · rintro path ⟨⟩
      refine ⟨Bool.eq_false_iff.mpr fun hold => ?_, Function.update_self _ _ _, id, rfl⟩
      rw [hkeeps _ hold] at hfree
      cases hfree
    · exact present_update (hkeeps path hpath)
  | occupied => exact ⟨nofun, hkeeps⟩
  | refused => exact ⟨nofun, hkeeps⟩
  | exhausted => exact ⟨nofun, hkeeps⟩
  | drop houtside hremoved =>
    refine ⟨nofun, fun path hpath => ?_⟩
    exact (houtside path (h.not_below (howns _ rfl).1 hpath)).trans (hkeeps path hpath)

/-- The directory of another guard survives: it is not below the one that goes. -/
theorem Owns.other (h : ParentsOutside requests initial) {i j : ι} {stateⱼ : GuardState}
    (hapart : Apart state stateⱼ) (howns : Owns initial (requests i) state world)
    (hownsⱼ : Owns initial (requests j) stateⱼ world)
    (hstep : DirectoryStep (requests j) (stateⱼ, world) (state', world')) :
    Owns initial (requests i) state world' := by
  intro path hlive
  obtain ⟨hnew, hpresent, id, hpath⟩ := howns path hlive
  refine ⟨hnew, ?_, id, hpath⟩
  cases hstep with
  | makeAbove => exact present_update hpresent
  | prepared => exact hpresent
  | unprepared => exact hpresent
  | number => exact hpresent
  | create => exact present_update hpresent
  | occupied => exact hpresent
  | refused => exact hpresent
  | exhausted => exact hpresent
  | @drop pathⱼ _ _ houtside hremoved =>
    refine (houtside _ fun hbelow => ?_).trans hpresent
    have hloc :
        location path = location (requests i).parent ++ [.normal ((requests i).name id)] := by
      rw [hpath, location_path]
    rw [hloc, List.prefix_concat_iff] at hbelow
    rcases hbelow with hsame | habove
    · exact hapart path pathⱼ hlive rfl (hloc.trans hsame.symm)
    · obtain ⟨-, -, idⱼ, hpathⱼ⟩ := hownsⱼ pathⱼ rfl
      exact h.outside i j idⱼ (hpathⱼ ▸ habove)

/-- A new directory is none that a guard has. -/
theorem apart_step {requestⱼ : DirectoryRequest} {other : GuardState}
    (hapart : Apart state other) (howns : Owns initial requestⱼ other world)
    (hstep : DirectoryStep request (state, world) (state', world')) : Apart state' other := by
  intro path path' hlive hother
  cases hstep with
  | create _ hfree =>
    cases hlive
    intro heq
    rw [heq, (howns path' hother).2.1] at hfree
    cases hfree
  | makeAbove => cases hlive
  | prepared => cases hlive
  | unprepared => cases hlive
  | number => cases hlive
  | occupied => cases hlive
  | refused => cases hlive
  | exhausted => cases hlive
  | drop => cases hlive

end Guards

/-- Any number of threads of any number of processes create temporary directories,
with the parents that are missing, and drop their guards, in any order of their
operations. No parent lies within a temporary directory. At every time the live
guards have directories of their own, which exist and did not exist at the
start, and everything that existed at the start still does. -/
theorem temporary_directories_exclusive {ι : Type} [DecidableEq ι]
    {requests : ι → DirectoryRequest} {initial : List Component → Bool}
    (h : ParentsOutside requests initial) (nextDirectoryId : ℕ → ℕ)
    {state : Threads ι GuardState DirectoryWorld}
    (hrun : Threads.Reaches (fun i => DirectoryStep (requests i))
      ⟨fun _ => .preparing, ⟨nextDirectoryId, initial⟩⟩ state) :
    (∀ i path, state.locals i = .live path →
      state.shared.present (location path) = true ∧ initial (location path) = false) ∧
    (∀ i j path path', i ≠ j → state.locals i = .live path → state.locals j = .live path' →
      location path ≠ location path') ∧
    ∀ path, initial path = true → state.shared.present path = true := by
  obtain ⟨hkeeps, howns, hapart⟩ := hrun.invariants
    (P := fun i => Owns initial (requests i)) (G := Keeps initial) (R := Apart)
    (fun s t hst path path' ht hs => (hst path' path hs ht).symm)
    (fun i s g next hkeeps howns hstep => howns.own h hkeeps hstep)
    (fun i j s t g next _ hapart howns hownsⱼ hstep => howns.other h hapart hownsⱼ hstep)
    (fun i j s t g next _ hapart howns hstep => apart_step hapart howns hstep)
    (fun _ => id) (fun _ => nofun) fun _ _ _ => nofun
  refine ⟨fun i path hlive => ?_, fun i j path path' hij => hapart i j hij path path', hkeeps⟩
  exact ⟨(howns i path hlive).2.1, (howns i path hlive).1⟩

/-- Two threads of one process below one directory, which does not exist. -/
def sampleRequests (_ : Bool) : DirectoryRequest where
  parent := utf8 "tmp".toList
  purpose := "qemu".toList
  pid := 7
  slash_not_mem_purpose := by decide

def sampleDirectories (path : List Component) : Bool := path.isEmpty

theorem sampleRequests_outside : ParentsOutside sampleRequests sampleDirectories where
  above path below habove hbelow := by
    obtain rfl := List.isEmpty_iff.mp hbelow
    exact List.isEmpty_iff.mpr (List.prefix_nil.mp habove)
  outside i j id hbelow := by
    have hlength := hbelow.length_le
    rw [location_path, List.length_append] at hlength
    exact absurd hlength (Nat.not_succ_le_self _)

theorem path_ne_sample : location ((sampleRequests true).path 1) ≠
    location ((sampleRequests false).path 0) := by
  have hname : (sampleRequests true).name 1 ≠ (sampleRequests false).name 0 := by decide +kernel
  intro heq
  rw [location_path, location_path] at heq
  exact hname (by simpa using List.append_cancel_left heq)

theorem path_ne_parent_sample (i j : Bool) (id : ℕ) :
    location ((sampleRequests i).path id) ≠ location (sampleRequests j).parent := by
  intro heq
  apply sampleRequests_outside.outside j i id
  rw [heq]

/-- The directory that goes was empty. -/
theorem step_drop_empty (request : DirectoryRequest) (path : Bytes) (world : DirectoryWorld) :
    DirectoryStep request (.live path, world)
      (.dropped, { world with
        present := Function.update world.present (location path) false }) := by
  refine .drop (fun other houtside => Function.update_of_ne ?_ _ _) fun other hother => ?_
  · rintro rfl
    exact houtside List.prefix_rfl
  · rw [Function.update_apply] at hother
    split at hother
    · cases hother
    · exact hother

/-- The first makes the parent, both get directories with names from one counter,
and the first drops its guard. -/
theorem temporary_directories_exclusive_sample :
    ∃ state path, Threads.Reaches (fun i => DirectoryStep (sampleRequests i))
        ⟨fun _ => .preparing, ⟨fun _ => 0, sampleDirectories⟩⟩ state ∧
      state.locals false = .dropped ∧ state.locals true = .live path ∧
      state.shared.present (location path) = true ∧ sampleDirectories (location path) = false := by
  let parent := location (sampleRequests false).parent
  let made := Function.update sampleDirectories parent true
  let first := location ((sampleRequests false).path 0)
  let second := location ((sampleRequests true).path 1)
  have hmissing : sampleDirectories parent = false := rfl
  have hnew : ∀ i id, sampleDirectories (location ((sampleRequests i).path id)) = false := by
    intro i id
    rw [location_path]
    rfl
  have hfirst : made first = false :=
    (Function.update_of_ne (path_ne_parent_sample false false 0) _ _).trans (hnew false 0)
  have hsecond : Function.update made first true second = false :=
    (Function.update_of_ne path_ne_sample _ _).trans
      ((Function.update_of_ne (path_ne_parent_sample true false 1) _ _).trans (hnew true 1))
  have hmade : made parent = true := Function.update_self _ _ _
  have hmade' : Function.update made first true parent = true := present_update hmade
  have hrun : Threads.Reaches (fun i => DirectoryStep (sampleRequests i))
      ⟨fun _ => .preparing, ⟨fun _ => 0, sampleDirectories⟩⟩ _ :=
    .tail (.tail (.tail (.tail (.tail (.tail (.tail (.single
      ⟨false, _, .makeAbove List.prefix_rfl hmissing, rfl⟩)
      ⟨false, _, .prepared hmade, rfl⟩)
      ⟨true, _, .prepared hmade, rfl⟩)
      ⟨false, _, .number 127 _, rfl⟩)
      ⟨false, _, .create hmade hfirst, rfl⟩)
      ⟨true, _, .number 127 _, rfl⟩)
      ⟨true, _, .create hmade' hsecond, rfl⟩)
      ⟨false, _, step_drop_empty _ _ _, rfl⟩
  have hlive := (temporary_directories_exclusive sampleRequests_outside _ hrun).1 true _ rfl
  exact ⟨_, _, hrun, rfl, rfl, hlive⟩

end PolytopeOS.Host
