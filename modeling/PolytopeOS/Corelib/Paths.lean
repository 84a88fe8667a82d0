import Mathlib.Data.List.DropRight
import PolytopeOS.Corelib.Slice
import PolytopeOS.Corelib.Text
import PolytopeOS.Corelib.Unicode

/-!
# Slash-separated paths

A path is a byte string. Its segments are what stands between slashes; an empty
segment and a `.` name nothing, so they are not components. Paths are compared,
and a path is under another, by components and not by spelling.
-/

namespace Corelib

def slash : UInt8 := 0x2f

def dot : UInt8 := 0x2e

/-- A component of a path. -/
inductive Component where
  | rootDir
  | curDir
  | parentDir
  | normal (name : Bytes)
  deriving DecidableEq, Repr

def segments (path : Bytes) : List Bytes := path.splitOn slash

/-- A segment that names nothing: a doubled or trailing slash, or a dot. -/
def skipped (segment : Bytes) : Bool := segment = [] || segment = [dot]

def segmentComponent (segment : Bytes) : Component :=
  if segment = [dot, dot] then .parentDir else .normal segment

/-- The components that the segments of a path name. -/
def bodyComponents (segments : List Bytes) : List Component :=
  (segments.filter fun segment => !skipped segment).map segmentComponent

/-- The first component of a path that no segment of the body gives: the root
of an absolute path, the dot of a relative one that starts with it. -/
def leadingComponent (path : Bytes) : List Component :=
  if path.head? = some slash then [.rootDir]
  else if (segments path).head? = some [dot] then [.curDir]
  else []

/-- The components of a path, as `Path::components` gives them. -/
def components (path : Bytes) : List Component :=
  leadingComponent path ++ bodyComponents (segments path)

/-- `path` is `base` or lies below it, as `Path::starts_with` decides. -/
def Under (base path : Bytes) : Prop := components base <+: components path

instance (base path : Bytes) : Decidable (Under base path) :=
  inferInstanceAs (Decidable (_ <+: _))

def IsRelative (path : Bytes) : Prop := path.head? ≠ some slash

instance (path : Bytes) : Decidable (IsRelative path) := inferInstanceAs (Decidable (_ ≠ _))

/-- `Path::join`. -/
def joinPath (base path : Bytes) : Bytes :=
  if path.head? = some slash then path
  else if base = [] ∨ base.getLast? = some slash then base ++ path
  else base ++ slash :: path

/-- The segments after the first `n` that name a component. -/
def afterComponents : ℕ → List Bytes → List Bytes
  | 0, segments => segments
  | _ + 1, [] => []
  | n + 1, segment :: rest =>
    if skipped segment then afterComponents (n + 1) rest else afterComponents n rest

/-- The spelling of some segments without those at either end that name nothing. -/
def trimmed (segments : List Bytes) : Bytes :=
  [slash].intercalate ((segments.dropWhile skipped).rdropWhile skipped)

/-- What remains of a path below `base`, in the path's own spelling: `Path::strip_prefix`
for a base that is not empty. With an empty base, `Path::strip_prefix` would keep the
root or the dot that the path starts with, and this does not. -/
def stripBase (path base : Bytes) : Option Bytes :=
  if Under base path then
    some (trimmed (afterComponents (bodyComponents (segments base)).length (segments path)))
  else none

/-- The place that a path names, from the root or from the current directory. -/
def location (path : Bytes) : List Component :=
  (if path.head? = some slash then [.rootDir] else []) ++ bodyComponents (segments path)

/-- `Path::file_name`: the last component, when it is a name. -/
def fileName (path : Bytes) : Option Bytes :=
  match (components path).getLast? with
  | some (.normal name) => some name
  | _ => none

/-- The spelling that `Path::parent` gives a path with a file name: the segments
before the name, or the root or dot that the path starts with. -/
def parentPath (path : Bytes) : Bytes :=
  let before := ((segments path).rdropWhile skipped).dropLast.rdropWhile skipped
  if before ≠ [] then [slash].intercalate before
  else if path.head? = some slash then [slash]
  else if (segments path).head? = some [dot] then [dot]
  else []

theorem segments_append_slash (base path : Bytes) :
    segments (base ++ slash :: path) = segments base ++ segments path :=
  List.splitOn_append_cons_self base path

theorem bodyComponents_append (xs ys : List Bytes) :
    bodyComponents (xs ++ ys) = bodyComponents xs ++ bodyComponents ys := by
  rw [bodyComponents, List.filter_append, List.map_append, bodyComponents, bodyComponents]

/-- Joining puts the segments of the path after those of the base, apart from
empty segments. -/
theorem segments_joinPath {base path : Bytes} (hbase : base ≠ []) (hpath : IsRelative path) :
    ∃ before after, segments base = before ++ after ∧ (∀ s ∈ after, skipped s = true) ∧
      before ≠ [] ∧ segments (joinPath base path) = before ++ segments path := by
  rw [joinPath, if_neg hpath]
  by_cases hlast : base.getLast? = some slash
  · obtain ⟨start, rfl⟩ := List.getLast?_eq_some_iff.mp hlast
    refine ⟨segments start, [[]], segments_append_slash start [], by simp [skipped],
      List.splitOn_ne_nil _ _, ?_⟩
    rw [if_pos (Or.inr hlast), List.append_assoc, List.singleton_append, segments_append_slash]
  · refine ⟨segments base, [], (List.append_nil _).symm, by simp, List.splitOn_ne_nil _ _, ?_⟩
    rw [if_neg (not_or.mpr ⟨hbase, hlast⟩), segments_append_slash]

theorem bodyComponents_singleton {segment : Bytes} (h : skipped segment = false) :
    bodyComponents [segment] = [segmentComponent segment] := by
  rw [bodyComponents, List.filter_cons_of_pos (by rw [h]; rfl), List.filter_nil,
    List.map_singleton]

theorem bodyComponents_eq_nil {xs : List Bytes} (h : ∀ s ∈ xs, skipped s = true) :
    bodyComponents xs = [] := by
  rw [bodyComponents, List.filter_eq_nil_iff.mpr (by simpa using h), List.map_nil]

theorem head?_joinPath {base path : Bytes} (hbase : base ≠ []) (hpath : IsRelative path) :
    (joinPath base path).head? = base.head? := by
  rw [joinPath, if_neg hpath]
  split <;> rw [List.head?_append_of_ne_nil _ hbase]

theorem leadingComponent_joinPath {base path : Bytes} (hbase : base ≠ [])
    (hpath : IsRelative path) : leadingComponent (joinPath base path) = leadingComponent base := by
  obtain ⟨before, after, hsegments, _, hne, hjoin⟩ := segments_joinPath hbase hpath
  rw [leadingComponent, leadingComponent, head?_joinPath hbase hpath, hjoin, hsegments,
    List.head?_append_of_ne_nil _ hne, List.head?_append_of_ne_nil _ hne]

theorem joinPath_nil {path : Bytes} : joinPath [] path = path := by
  rw [joinPath, if_pos (Or.inl rfl), List.nil_append, ite_self]

theorem under_joinPath {base path : Bytes} (hpath : IsRelative path) :
    Under base (joinPath base path) := by
  by_cases hbase : base = []
  · subst hbase
    exact List.nil_prefix
  · obtain ⟨before, after, hsegments, hafter, _, hjoin⟩ := segments_joinPath hbase hpath
    rw [Under, components, components, leadingComponent_joinPath hbase hpath, hjoin, hsegments,
      bodyComponents_append, bodyComponents_append, bodyComponents_eq_nil hafter, List.append_nil]
    exact (List.prefix_append_right_inj _).mpr (List.prefix_append _ _)

/-- After as many components as `xs` has, only segments of `xs` that name
nothing are left before `ys`. -/
theorem dropWhile_afterComponents (xs ys : List Bytes) :
    (afterComponents (bodyComponents xs).length (xs ++ ys)).dropWhile skipped =
      ys.dropWhile skipped := by
  induction xs with
  | nil => rw [bodyComponents, List.filter_nil, List.map_nil, List.length_nil, afterComponents,
      List.nil_append]
  | cons segment xs ih =>
    by_cases hskip : skipped segment = true
    · have hbody : bodyComponents (segment :: xs) = bodyComponents xs := by
        rw [bodyComponents, List.filter_cons_of_neg (by simp [hskip]), bodyComponents]
      rw [hbody, List.cons_append, ← ih]
      cases (bodyComponents xs).length with
      | zero => rw [afterComponents, List.dropWhile_cons_of_pos hskip, afterComponents]
      | succ n => rw [afterComponents, if_pos hskip]
    · have hbody : (bodyComponents (segment :: xs)).length = (bodyComponents xs).length + 1 := by
        rw [bodyComponents, List.filter_cons_of_pos (by simp [hskip]), List.map_cons,
          List.length_cons, bodyComponents]
      rw [hbody, List.cons_append, afterComponents, if_neg hskip, ih]

/-- A path without a doubled slash, a dot or a slash at its ends is spelled as it is
trimmed. -/
theorem trimmed_segments {path : Bytes}
    (h : ∀ segment ∈ segments path, skipped segment = false) : trimmed (segments path) = path := by
  have hskip : ∀ segment ∈ segments path, ¬skipped segment = true := by
    intro segment hsegment
    rw [h segment hsegment]
    exact Bool.false_ne_true
  have hright : (segments path).rdropWhile skipped = segments path := by
    rw [List.rdropWhile_eq_self_iff]
    exact fun hne => hskip _ (List.getLast_mem hne)
  have hleft : (segments path).dropWhile skipped = segments path := by
    rw [List.dropWhile_eq_self_iff]
    exact fun hpos => hskip _ (List.getElem_mem hpos)
  rw [trimmed, hleft, hright]
  exact List.intercalate_splitOn slash

/-- Below a base, a joined path is what was joined to it. -/
theorem stripBase_joinPath {base path : Bytes} (hpath : IsRelative path) :
    stripBase (joinPath base path) base = some (trimmed (segments path)) := by
  rw [stripBase, if_pos (under_joinPath hpath), Option.some.injEq]
  by_cases hbase : base = []
  · subst hbase
    have hnone : bodyComponents (segments []) = [] := rfl
    rw [joinPath_nil, hnone, List.length_nil, afterComponents]
  · obtain ⟨before, after, hsegments, hafter, _, hjoin⟩ := segments_joinPath hbase hpath
    rw [hjoin, hsegments, bodyComponents_append, bodyComponents_eq_nil hafter, List.append_nil,
      trimmed, dropWhile_afterComponents, trimmed]

theorem stripBase_of_not_under {base path : Bytes} (h : ¬Under base path) :
    stripBase path base = none := if_neg h

theorem location_joinPath {base path : Bytes} (hpath : IsRelative path) :
    location (joinPath base path) = location base ++ bodyComponents (segments path) := by
  by_cases hbase : base = []
  · subst hbase
    rw [joinPath_nil, location, if_neg hpath]
    rfl
  · obtain ⟨before, after, hsegments, hafter, _, hjoin⟩ := segments_joinPath hbase hpath
    rw [location, location, head?_joinPath hbase hpath, hjoin, hsegments, bodyComponents_append,
      bodyComponents_append, bodyComponents_eq_nil hafter, List.append_nil, List.append_assoc]

/-- A file name put below a base. -/
theorem location_joinPath_name {base name : Bytes} (hslash : slash ∉ name)
    (hskip : skipped name = false) (hparent : name ≠ [dot, dot]) :
    location (joinPath base name) = location base ++ [.normal name] := by
  have hrelative : IsRelative name := fun h => hslash (List.mem_of_mem_head? h)
  rw [location_joinPath hrelative, segments, List.splitOn_eq_singleton hslash,
    bodyComponents_singleton hskip, segmentComponent, if_neg hparent]

/-- A name of three bytes or more is no name with a meaning of its own. -/
theorem location_joinPath_long {base name : Bytes} (hslash : slash ∉ name)
    (hlength : 3 ≤ name.length) :
    location (joinPath base name) = location base ++ [.normal name] := by
  have hskip : skipped name = false := by
    simp only [skipped, Bool.or_eq_false_iff, decide_eq_false_iff_not]
    constructor
    · rintro rfl
      simp at hlength
    · rintro rfl
      simp at hlength
  refine location_joinPath_name hslash hskip ?_
  rintro rfl
  simp at hlength

theorem slash_not_mem_segment {path segment : Bytes} (h : segment ∈ segments path) :
    slash ∉ segment := by
  induction path generalizing segment with
  | nil =>
    rw [segments, List.splitOn_nil, List.mem_singleton] at h
    rw [h]
    exact List.not_mem_nil
  | cons byte path ih =>
    rw [segments, List.splitOn_cons_eq_if_modifyHead] at h
    split at h
    · rcases List.mem_cons.mp h with rfl | hmem
      · exact List.not_mem_nil
      · exact ih hmem
    · next hbyte =>
      obtain ⟨first, rest, hsplit⟩ := List.exists_cons_of_ne_nil (List.splitOn_ne_nil slash path)
      rw [hsplit, List.modifyHead_cons] at h
      rcases List.mem_cons.mp h with rfl | hmem
      · have hfirst : slash ∉ first := ih (by rw [segments, hsplit]; exact List.mem_cons_self)
        rw [List.mem_cons, not_or]
        exact ⟨fun heq => hbyte (beq_iff_eq.mpr heq.symm), hfirst⟩
      · exact ih (by rw [segments, hsplit]; exact List.mem_cons_of_mem _ hmem)

theorem intercalate_append {before after : List Bytes} (hbefore : before ≠ [])
    (hafter : after ≠ []) :
    [slash].intercalate (before ++ after) =
      [slash].intercalate before ++ slash :: [slash].intercalate after := by
  induction before with
  | nil => exact absurd rfl hbefore
  | cons segment rest ih =>
    cases rest with
    | nil => rw [List.singleton_append, List.intercalate_cons_of_ne_nil hafter,
        List.intercalate_singleton, List.append_assoc, List.singleton_append]
    | cons next rest =>
      rw [List.cons_append, List.cons_append, List.intercalate_cons_cons,
        ← List.cons_append, ih (List.cons_ne_nil _ _), List.intercalate_cons_cons,
        List.append_assoc, List.append_assoc, List.append_assoc]

/-- The spelling of the first segments of a path starts the path. -/
theorem intercalate_prefix {path : Bytes} {before : List Bytes} (hne : before ≠ [])
    (h : before <+: segments path) : [slash].intercalate before <+: path := by
  obtain ⟨after, hafter⟩ := h
  have hpath : [slash].intercalate (segments path) = path := List.intercalate_splitOn slash
  rw [← hpath, ← hafter]
  by_cases hnil : after = []
  · rw [hnil, List.append_nil]
  · rw [intercalate_append hne hnil]
    exact List.prefix_append _ _

theorem bodyComponents_rdropWhile (xs : List Bytes) :
    bodyComponents (xs.rdropWhile skipped) = bodyComponents xs := by
  induction xs using List.reverseRecOn with
  | nil => rfl
  | append_singleton xs segment ih =>
    rw [List.rdropWhile_concat]
    split
    · next hskip =>
      rw [ih, bodyComponents_append, bodyComponents_eq_nil (List.forall_mem_singleton.mpr hskip),
        List.append_nil]
    · rfl

theorem normal_not_mem_leadingComponent (path name : Bytes) :
    .normal name ∉ leadingComponent path := by
  unfold leadingComponent
  split_ifs <;> simp

theorem segmentComponent_eq_normal {segment name : Bytes}
    (h : segmentComponent segment = .normal name) : segment = name := by
  unfold segmentComponent at h
  split at h
  · simp at h
  · exact Component.normal.inj h

/-- The segments of a path with a file name, up to the name. -/
theorem exists_before_name {path name : Bytes} (h : fileName path = some name) :
    ∃ before, (segments path).rdropWhile skipped = before ++ [name] ∧
      bodyComponents (segments path) = bodyComponents before ++ [.normal name] := by
  have hlast : (components path).getLast? = some (.normal name) := by
    rw [fileName] at h
    split at h
    · next found hfound => rw [hfound, Option.some.inj h]
    · simp at h
  rw [components, ← bodyComponents_rdropWhile] at hlast
  rcases List.eq_nil_or_concat ((segments path).rdropWhile skipped) with hnil | ⟨before, last, heq⟩
  · -- no segment names anything, so the last component is the leading one
    have hmem := List.mem_of_getLast? hlast
    rw [hnil, bodyComponents, List.filter_nil, List.map_nil, List.append_nil] at hmem
    exact absurd hmem (normal_not_mem_leadingComponent path name)
  · have hskip : skipped last = false := by
      have hnot := List.rdropWhile_last_not skipped (segments path) (by simp [heq])
      simpa [heq] using hnot
    have hbody : bodyComponents (before ++ [last]) =
        bodyComponents before ++ [segmentComponent last] := by
      rw [bodyComponents_append, bodyComponents_singleton hskip]
    rw [List.concat_eq_append] at heq
    rw [heq, hbody, ← List.append_assoc, List.getLast?_concat, Option.some.injEq] at hlast
    obtain rfl := segmentComponent_eq_normal hlast
    exact ⟨before, heq, by rw [← bodyComponents_rdropWhile, heq, hbody, hlast]⟩

/-- The first segments of a path, up to one that names something, are those of
their own spelling, which starts as the path does. -/
theorem location_intercalate {path : Bytes} {before : List Bytes} (h : before <+: segments path)
    (hne : before ≠ []) (hlast : skipped (before.getLast hne) = false) :
    location ([slash].intercalate before) =
      (if path.head? = some slash then [.rootDir] else []) ++ bodyComponents before := by
  have hsegments : segments ([slash].intercalate before) = before :=
    List.splitOn_intercalate slash (fun s hs => slash_not_mem_segment (h.subset hs)) hne
  have htext : [slash].intercalate before ≠ [] := by
    intro hnil
    rw [hnil] at hsegments
    subst hsegments
    have hempty : skipped ((segments []).getLast hne) = true := rfl
    rw [hempty] at hlast
    exact absurd hlast (by decide)
  obtain ⟨rest, hrest⟩ := intercalate_prefix hne h
  rw [location, hsegments, ← hrest, List.head?_append_of_ne_nil _ htext]

/-- A path with a file name is the name below the parent. -/
theorem location_parentPath {path name : Bytes} (h : fileName path = some name) :
    location path = location (parentPath path) ++ [.normal name] := by
  obtain ⟨before, hsegments, hbody⟩ := exists_before_name h
  have hparent : location (parentPath path) =
      (if path.head? = some slash then [.rootDir] else []) ++ bodyComponents before := by
    rw [parentPath, hsegments, List.dropLast_concat, ← bodyComponents_rdropWhile before]
    by_cases hne : before.rdropWhile skipped = []
    · rw [hne, if_neg (not_not_intro rfl)]
      split_ifs <;> rfl
    · rw [if_pos hne]
      have hprefix : before <+: segments path :=
        (List.prefix_append before [name]).trans (hsegments ▸ List.rdropWhile_prefix skipped _)
      refine location_intercalate ((List.rdropWhile_prefix skipped before).trans hprefix) hne ?_
      exact Bool.eq_false_iff.mpr (List.rdropWhile_last_not skipped before hne)
  rw [location, hbody, hparent, List.append_assoc]

theorem slash_not_mem_fileName {path name : Bytes} (h : fileName path = some name) :
    slash ∉ name := by
  obtain ⟨before, hsegments, _⟩ := exists_before_name h
  refine slash_not_mem_segment ((List.rdropWhile_prefix skipped (segments path)).subset ?_)
  rw [hsegments]
  exact List.mem_append_right _ List.mem_cons_self

theorem slash_not_mem_digit {c : Char} (h : c.isDigit = true) :
    slash ∉ String.utf8EncodeChar c := by
  have hrange : 48 ≤ c.toNat ∧ c.toNat ≤ 57 := by
    simpa [Char.isDigit, UInt32.le_iff_toNat_le] using h
  obtain ⟨hlow, hhigh⟩ := hrange
  rw [← Char.ofNat_toNat c]
  generalize c.toNat = n at hlow hhigh
  interval_cases n <;> decide

theorem slash_not_mem_decimal (n : ℕ) : slash ∉ utf8 (toString n).toList := by
  rw [utf8, List.mem_flatMap]
  rintro ⟨c, hc, hslash⟩
  rw [Nat.toString_eq_repr, Nat.toList_repr] at hc
  exact slash_not_mem_digit (Nat.isDigit_of_mem_toDigits (by decide) (by decide) hc) hslash

/-- A path of two texts is a text. -/
theorem lossy_joinPath {base name : Bytes} (hbase : lossy base = base) (hname : lossy name = name) :
    lossy (joinPath base name) = joinPath base name := by
  have hslash : slash < 0x80 := by decide
  unfold joinPath
  split
  · exact hname
  · split
    · next hend =>
      rcases hend with rfl | hlast
      · exact hname
      · obtain ⟨before, rfl⟩ := List.getLast?_eq_some_iff.mp hlast
        have hbefore : lossy before = before := by
          rw [lossy_append_cons hslash, lossy] at hbase
          exact List.append_cancel_right hbase
        rw [List.append_assoc, List.singleton_append, lossy_append_cons hslash, hbefore, hname]
    · rw [lossy_append_cons hslash, hbase, hname]

end Corelib
