import PolytopeOS.Host.Automaton

/-!
# The protocol language

The parser follows the automaton on the records of a stream and reports a
violation exactly where the automaton has no transition.
-/

namespace PolytopeOS.Host
open Corelib Arch

-- ════════════════════════════════════════════════════════════════════════
-- The parser follows the automaton
-- ════════════════════════════════════════════════════════════════════════

/-- The last sequence number seen on the way to a state that is not terminal. -/
def TraceState.lastSequence : TraceState → Option UInt16
  | .start => none
  | .loaderStarted => some 1
  | .elfValidated => some 2
  | .handoffReady | .terminal => some 3

/-- The sequence filter is in step with the state machine. -/
def Scanner.Synced (scanner : Scanner) : Prop :=
  scanner.state ≠ .terminal → scanner.lastSequence = scanner.state.lastSequence

def Scanner.position (scanner : Scanner) : TraceState × MarkerEvidence :=
  (scanner.state, scanner.trace.markers)

theorem reject_violation (trace : ProtocolTrace) (reason : String) :
    (trace.reject reason).violation.isSome := by
  unfold ProtocolTrace.reject
  split
  · rfl
  · next h => rwa [Option.isNone_iff_eq_none, ← ne_eq, ← Option.isSome_iff_ne_none] at h

/-- A transition is never filtered out by its sequence number, and keeps the
filter in step. -/
theorem transition_in_step {markers : MarkerEvidence} {state : TraceState} {kind : RecordKind}
    {next : TraceState × MarkerEvidence} (h : transition markers state kind = some next) :
    state ≠ .terminal ∧ state.lastSequence.any (kind.sequence ≤ ·) = false ∧
      (next.1 ≠ .terminal → some kind.sequence = next.1.lastSequence) := by
  cases state <;> cases kind <;> simp only [transition, reduceCtorEq, Option.some.injEq] at h <;>
    subst h <;> simp [TraceState.lastSequence, RecordKind.sequence]

theorem processProtocolLine_of_advance {scanner : Scanner} {record : Bytes}
    {next : TraceState × MarkerEvidence} (hsynced : scanner.Synced)
    (h : advance scanner.position record = some next) :
    (processProtocolLine scanner record).Synced ∧
      (processProtocolLine scanner record).position = next ∧
      (processProtocolLine scanner record).trace.violation = scanner.trace.violation := by
  obtain ⟨kind, hmem, htransition⟩ := advance_eq_some.mp h
  have hknown := recognised_of_mem _ (mem_catalogue_iff.mpr hmem)
  obtain ⟨hstate, hfilter, hnext⟩ := transition_in_step htransition
  have hprocess : processProtocolLine scanner record =
      { scanner with
        state := next.1
        lastSequence := some kind.sequence
        trace := { scanner.trace with markers := next.2 } } := by
    unfold processProtocolLine
    rw [if_neg (by simp [hknown.isRecord]), if_neg (Nat.not_lt.mpr hknown.short),
      if_neg (by simp [hknown.grammar]), hknown.sequence]
    simp only
    rw [if_neg (by rw [hsynced hstate]; exact Bool.eq_false_iff.mp hfilter), hknown.kind]
    simp only
    rw [show transition scanner.trace.markers scanner.state kind = some next from htransition]
  rw [hprocess]
  exact ⟨hnext, rfl, rfl⟩

theorem processProtocolLine_of_no_advance {scanner : Scanner} {record : Bytes}
    (hrecord : isRecord record = true) (h : advance scanner.position record = none) :
    (processProtocolLine scanner record).trace.violation.isSome := by
  unfold processProtocolLine
  rw [if_neg (by simp [hrecord])]
  split
  · exact reject_violation _ _
  split
  · exact reject_violation _ _
  split
  · exact reject_violation _ _
  split
  · exact reject_violation _ _
  split
  · exact reject_violation _ _
  · next kind hkind =>
    rw [advance, hkind, Option.bind_some] at h
    dsimp only
    rw [show transition scanner.trace.markers scanner.state kind = none from h]
    exact reject_violation _ _

/-- A line either sets evidence or is rejected. -/
theorem processProtocolLine_trace (scanner : Scanner) (line : Bytes) :
    (∃ markers, (processProtocolLine scanner line).trace =
      { scanner.trace with markers := markers }) ∨
    ∃ reason, (processProtocolLine scanner line).trace = scanner.trace.reject reason := by
  unfold processProtocolLine
  split
  · exact .inl ⟨scanner.trace.markers, rfl⟩
  split
  · exact .inr ⟨_, rfl⟩
  split
  · exact .inr ⟨_, rfl⟩
  split
  · exact .inr ⟨_, rfl⟩
  split
  · exact .inr ⟨_, rfl⟩
  dsimp only
  split
  · exact .inr ⟨_, rfl⟩
  split
  · next markers _ => exact .inl ⟨markers, rfl⟩
  · exact .inr ⟨_, rfl⟩

theorem processProtocolLine_sticky {scanner : Scanner} (line : Bytes)
    (h : scanner.trace.violation.isSome) :
    (processProtocolLine scanner line).trace.violation.isSome := by
  rcases processProtocolLine_trace scanner line with ⟨markers, htrace⟩ | ⟨reason, htrace⟩
  · rw [htrace]
    exact h
  · rw [htrace]
    exact reject_violation _ _

theorem foldl_sticky {scanner : Scanner} (lines : List Bytes)
    (h : scanner.trace.violation.isSome) :
    (lines.foldl processProtocolLine scanner).trace.violation.isSome := by
  induction lines generalizing scanner with
  | nil => exact h
  | cons line rest ih => exact ih (processProtocolLine_sticky line h)

theorem foldl_filter_isRecord (scanner : Scanner) (lines : List Bytes) :
    lines.foldl processProtocolLine scanner =
      (lines.filter isRecord).foldl processProtocolLine scanner := by
  induction lines generalizing scanner with
  | nil => rfl
  | cons line rest ih =>
    rw [List.foldl_cons, List.filter_cons, ih]
    by_cases hrecord : isRecord line
    · rw [if_pos hrecord, List.foldl_cons]
    · rw [if_neg hrecord, processProtocolLine, if_pos (by simp [hrecord])]

/-- Over a list of records the parser ends where the automaton does, and has a
violation exactly when the automaton is stuck. -/
theorem foldl_follows (scanner : Scanner) {records : List Bytes} (hsynced : scanner.Synced)
    (hrecords : ∀ record ∈ records, isRecord record = true) :
    match follow scanner.position records with
    | some position =>
      (records.foldl processProtocolLine scanner).position = position ∧
        (records.foldl processProtocolLine scanner).trace.violation = scanner.trace.violation
    | none => (records.foldl processProtocolLine scanner).trace.violation.isSome := by
  induction records generalizing scanner with
  | nil => exact ⟨rfl, rfl⟩
  | cons record rest ih =>
    rw [List.forall_mem_cons] at hrecords
    cases hadvance : advance scanner.position record with
    | none =>
      rw [follow, hadvance]
      exact foldl_sticky rest (processProtocolLine_of_no_advance hrecords.1 hadvance)
    | some next =>
      obtain ⟨hsynced', hposition, hviolation⟩ :=
        processProtocolLine_of_advance hsynced hadvance
      rw [follow, hadvance, Option.bind_some, ← hposition, ← hviolation]
      exact ih _ hsynced' hrecords.2

theorem follow_recognised {lines : List Bytes} {position out : TraceState × MarkerEvidence}
    (h : follow position lines = some out) : ∀ line ∈ lines, ∃ kind, Recognised line kind := by
  induction lines generalizing position with
  | nil => exact nofun
  | cons line rest ih =>
    obtain ⟨kind, next, hline, _, hrest⟩ := follow_eq_some_cons h
    rw [List.forall_mem_cons]
    exact ⟨⟨kind, recognised_of_mem _ (mem_catalogue_iff.mpr hline)⟩, ih hrest⟩

-- ════════════════════════════════════════════════════════════════════════
-- Streams
-- ════════════════════════════════════════════════════════════════════════

/-- The records of a stream: its terminated lines that begin with the tag. -/
def records (bytes : Bytes) : List Bytes := ((cut 10 bytes).1.map stripCr).filter isRecord

/-- The unterminated rest of a stream. -/
def tail (bytes : Bytes) : Bytes := (cut 10 bytes).2

theorem length_tail_le (bytes : Bytes) : (tail bytes).length ≤ bytes.length := by
  have hjoin := congrArg List.length (join_cut 10 bytes)
  rw [List.length_append] at hjoin
  exact Nat.le.intro (Nat.add_comm _ _ ▸ hjoin)

theorem drop_eq_tail (bytes : Bytes) :
    bytes.drop (bytes.length - (tail bytes).length) = tail bytes := by
  obtain ⟨lines, hlines⟩ : ∃ lines, lines ++ tail bytes = bytes := ⟨_, join_cut 10 bytes⟩
  generalize tail bytes = rest at hlines
  subst hlines
  rw [List.length_append, Nat.add_sub_cancel, List.drop_left]

/-- After each prefix of the stream the loop has processed the prefix's lines and
stands at the start of its unterminated rest. -/
theorem foldl_streamStep (scanner : Scanner) (done rest : Bytes) :
    done.zipIdx.foldl (streamStep (done ++ rest)) (scanner, 0) =
      (((cut 10 done).1.map stripCr).foldl processProtocolLine scanner,
        done.length - (tail done).length) := by
  induction done using List.reverseRecOn generalizing rest with
  | nil => rfl
  | append_singleton done byte ih =>
    rw [List.zipIdx_append, List.foldl_append, List.append_assoc, ih, List.zipIdx_singleton,
      List.foldl_cons, List.foldl_nil, streamStep]
    by_cases hbyte : byte = 10
    · subst hbyte
      have hle := length_tail_le done
      have hline : ((done ++ ([10] ++ rest)).drop (done.length - (tail done).length)).take
          (done.length - (done.length - (tail done).length)) = tail done := by
        rw [List.drop_append_of_le_length (Nat.sub_le _ _), drop_eq_tail,
          List.take_append_of_le_length (by omega), List.take_of_length_le (by omega)]
      have htail : tail (done ++ [10]) = [] := congrArg Prod.snd (cut_concat_sep 10 done)
      rw [if_neg (by simp), htail, cut_concat_sep, List.map_append, List.foldl_append]
      simp only [Nat.zero_add, hline, List.length_append, List.length_singleton]
      rfl
    · rw [if_pos hbyte, tail, tail, cut_concat_of_ne done hbyte]
      simp only [List.length_append, List.length_singleton, Nat.add_sub_add_right]

theorem parseProtocolStream_eq (bytes : Bytes) (logTruncated : Bool) :
    parseProtocolStream bytes logTruncated =
      let trace := ((records bytes).foldl processProtocolLine ⟨.start, none, .new logTruncated⟩).trace
      if isRecord (tail bytes) then trace.reject "truncated diagnostic record" else trace := by
  have hloop := foldl_streamStep ⟨.start, none, .new logTruncated⟩ bytes []
  rw [List.append_nil, foldl_filter_isRecord] at hloop
  have hle := length_tail_le bytes
  unfold parseProtocolStream
  simp only [hloop, drop_eq_tail]
  by_cases htail : tail bytes = []
  · rw [if_neg (by rw [htail]; simp), if_neg (by rw [htail]; decide)]
    rfl
  · have hpos := List.length_pos_of_ne_nil htail
    rw [if_pos (by omega)]
    rfl

theorem reject_ne_none (trace : ProtocolTrace) (reason : String) (markers : MarkerEvidence) :
    trace.reject reason ≠ ⟨markers, none⟩ := by
  intro h
  have hviolation := reject_violation trace reason
  rw [h] at hviolation
  cases hviolation

/-- The run over the records alone: no violation exactly on an accepted list. -/
theorem foldl_records_eq_ok {lines : List Bytes} (hlines : ∀ line ∈ lines, isRecord line = true)
    {markers : MarkerEvidence} :
    (lines.foldl processProtocolLine ⟨.start, none, .new false⟩).trace = ⟨markers, none⟩ ↔
      Accepted lines markers := by
  have hrun := foldl_follows ⟨.start, none, .new false⟩ (fun _ => rfl) hlines
  constructor
  · intro h
    cases hfollow : follow (.start, {}) lines with
    | none =>
      rw [show Scanner.position _ = (.start, {}) from rfl, hfollow] at hrun
      simp [h] at hrun
    | some out =>
      rw [show Scanner.position _ = (.start, {}) from rfl, hfollow] at hrun
      have hmarkers : out.2 = markers := by rw [← hrun.1, Scanner.position, h]
      exact accepted_of_follow (hfollow.trans (congrArg some (Prod.ext rfl hmarkers)))
  · intro h
    obtain ⟨state, hfollow⟩ := follow_of_accepted h
    rw [show Scanner.position _ = (.start, {}) from rfl, hfollow] at hrun
    exact ProtocolTrace.mk.injEq .. ▸ ⟨congrArg Prod.snd hrun.1, hrun.2⟩

/-- A stream is free of violations exactly when it is complete and its records
form an accepted list; the trace then carries that list's evidence. -/
theorem parseProtocolStream_eq_ok {bytes : Bytes} {logTruncated : Bool} {markers : MarkerEvidence} :
    parseProtocolStream bytes logTruncated = ⟨markers, none⟩ ↔
      logTruncated = false ∧ isRecord (tail bytes) = false ∧ Accepted (records bytes) markers := by
  have hrecords : ∀ record ∈ records bytes, isRecord record = true := fun record h =>
    (List.mem_filter.mp h).2
  rw [parseProtocolStream_eq, ← foldl_records_eq_ok hrecords]
  by_cases htail : isRecord (tail bytes)
  · simp only [htail, if_true, Bool.true_eq_false, false_and, and_false, iff_false]
    exact reject_ne_none _ _ _
  · cases logTruncated with
    | true =>
      have hsticky : ((records bytes).foldl processProtocolLine
          ⟨.start, none, .new true⟩).trace.violation.isSome := foldl_sticky _ rfl
      simp only [htail, Bool.true_eq_false, false_and, iff_false, if_false, Bool.false_eq_true]
      intro h
      rw [h] at hsticky
      cases hsticky
    | false => simp [htail]

theorem parseProtocolStream_of_accepted {bytes : Bytes} {lines : List Bytes}
    {markers : MarkerEvidence} (htail : isRecord (tail bytes) = false)
    (hrecords : records bytes = lines) (h : Accepted lines markers) :
    parseProtocolStream bytes false = ⟨markers, none⟩ :=
  parseProtocolStream_eq_ok.mpr ⟨rfl, htail, hrecords ▸ h⟩

theorem parseProtocolStream_violation {bytes : Bytes} {logTruncated : Bool} :
    (parseProtocolStream bytes logTruncated).violation = none ↔
      logTruncated = false ∧ isRecord (tail bytes) = false ∧
        ∃ markers, Accepted (records bytes) markers := by
  constructor
  · intro h
    have htrace : parseProtocolStream bytes logTruncated =
        ⟨(parseProtocolStream bytes logTruncated).markers, none⟩ := by rw [← h]
    obtain ⟨hflag, htail, haccepted⟩ := parseProtocolStream_eq_ok.mp htrace
    exact ⟨hflag, htail, _, haccepted⟩
  · intro ⟨hflag, htail, markers, haccepted⟩
    rw [parseProtocolStream_eq_ok.mpr ⟨hflag, htail, haccepted⟩]

-- ════════════════════════════════════════════════════════════════════════
-- Classification
-- ════════════════════════════════════════════════════════════════════════

/-- A run that got as far as the kernel, with the kernel's record. -/
def kernelPath (last : Bytes) : List Bytes :=
  [loaderStartMarker, elfValidMarker, handoffReadyMarker, last]

def rejectionMarkers : List Bytes := [badVersionMarker, truncatedMarker, contractInvalidMarker]

/-- What a verdict on the kernel says about the trace and the exit status. -/
theorem classifyBoot_verdict (status : Option ℤ) (trace : ProtocolTrace) :
    match classifyBoot false status trace with
    | .ready => trace.violation = none ∧ trace.markers.ready = true ∧ status = some 33
    | .rejected => trace.violation = none ∧ trace.markers.rejected = true ∧ status = some 65
    | .panic => trace.violation = none ∧ trace.markers.panic = true ∧ status = some 67
    | _ => True := by
  obtain ⟨⟨ready, rejected, panic, code⟩, violation⟩ := trace
  cases violation with
  | some reason => trivial
  | none =>
    cases ready <;> cases rejected <;> cases panic <;> simp only [classifyBoot] <;>
      split_ifs <;> simp_all [readyExitStatus, rejectExitStatus, panicExitStatus]

theorem Accepted.path_of_ready {records : List Bytes} {markers : MarkerEvidence}
    (h : Accepted records markers) (hready : markers.ready = true) :
    records = kernelPath readyMarker := by
  cases h
  case ready => rfl
  all_goals cases hready

theorem Accepted.path_of_rejected {records : List Bytes} {markers : MarkerEvidence}
    (h : Accepted records markers) (hrejected : markers.rejected = true) :
    ∃ code ∈ rejectionMarkers, records = kernelPath code := by
  cases h
  case abiVersion => exact ⟨_, List.mem_of_getElem? (i := 0) rfl, rfl⟩
  case contractLength => exact ⟨_, List.mem_of_getElem? (i := 1) rfl, rfl⟩
  case contractInvalid => exact ⟨_, List.mem_of_getElem? (i := 2) rfl, rfl⟩
  all_goals cases hrejected

theorem Accepted.path_of_panic {records : List Bytes} {markers : MarkerEvidence}
    (h : Accepted records markers) (hpanic : markers.panic = true) :
    records = kernelPath panicMarker := by
  cases h
  case panic => rfl
  all_goals cases hpanic

/-- The parser accepts exactly the protocol language, and a verdict on the
kernel is given for exactly the matching record list and exit status. -/
theorem parseProtocolStream_language (bytes : Bytes) (logTruncated : Bool) :
    ((parseProtocolStream bytes logTruncated).violation = none ↔
      logTruncated = false ∧ isRecord (tail bytes) = false ∧
        ∃ path ∈ paths, records bytes <+: path) ∧
    ∀ status : Option ℤ,
      (classifyBoot false status (parseProtocolStream bytes logTruncated) = .ready ↔
        (logTruncated = false ∧ isRecord (tail bytes) = false) ∧
          records bytes = kernelPath readyMarker ∧ status = some 33) ∧
      (classifyBoot false status (parseProtocolStream bytes logTruncated) = .rejected ↔
        (logTruncated = false ∧ isRecord (tail bytes) = false) ∧
          (∃ code ∈ rejectionMarkers, records bytes = kernelPath code) ∧ status = some 65) ∧
      (classifyBoot false status (parseProtocolStream bytes logTruncated) = .panic ↔
        (logTruncated = false ∧ isRecord (tail bytes) = false) ∧
          records bytes = kernelPath panicMarker ∧ status = some 67) := by
  refine ⟨by rw [parseProtocolStream_violation, exists_accepted_iff], fun status => ?_⟩
  -- a verdict on the kernel comes with an accepted list that carries its evidence
  have hverdict := classifyBoot_verdict status (parseProtocolStream bytes logTruncated)
  have haccepted : (parseProtocolStream bytes logTruncated).violation = none →
      logTruncated = false ∧ isRecord (tail bytes) = false ∧
        Accepted (records bytes) (parseProtocolStream bytes logTruncated).markers := fun h =>
    parseProtocolStream_eq_ok.mp (by rw [← h])
  refine ⟨⟨fun h => ?_, ?_⟩, ⟨fun h => ?_, ?_⟩, ⟨fun h => ?_, ?_⟩⟩
  · rw [h] at hverdict
    obtain ⟨hflag, htail, hlist⟩ := haccepted hverdict.1
    exact ⟨⟨hflag, htail⟩, hlist.path_of_ready hverdict.2.1, hverdict.2.2⟩
  · rintro ⟨⟨rfl, htail⟩, hrecords, rfl⟩
    rw [parseProtocolStream_of_accepted htail hrecords .ready]
    rfl
  · rw [h] at hverdict
    obtain ⟨hflag, htail, hlist⟩ := haccepted hverdict.1
    exact ⟨⟨hflag, htail⟩, hlist.path_of_rejected hverdict.2.1, hverdict.2.2⟩
  · rintro ⟨⟨rfl, htail⟩, ⟨code, hcode, hrecords⟩, rfl⟩
    simp only [rejectionMarkers, List.mem_cons, List.not_mem_nil, or_false] at hcode
    rcases hcode with rfl | rfl | rfl
    · rw [parseProtocolStream_of_accepted htail hrecords .abiVersion]
      rfl
    · rw [parseProtocolStream_of_accepted htail hrecords .contractLength]
      rfl
    · rw [parseProtocolStream_of_accepted htail hrecords .contractInvalid]
      rfl
  · rw [h] at hverdict
    obtain ⟨hflag, htail, hlist⟩ := haccepted hverdict.1
    exact ⟨⟨hflag, htail⟩, hlist.path_of_panic hverdict.2.1, hverdict.2.2⟩
  · rintro ⟨⟨rfl, htail⟩, hrecords, rfl⟩
    rw [parseProtocolStream_of_accepted htail hrecords .panic]
    rfl

end PolytopeOS.Host
