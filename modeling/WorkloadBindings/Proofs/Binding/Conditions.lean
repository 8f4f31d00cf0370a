import Mathlib.Data.List.Induction
import WorkloadBindings.Proofs.Binding.Status

/-!
# The `Ready` condition over a history

Whatever is entered into a status without a `Ready` condition, the other conditions stay in front
and one `Ready` condition stands behind them. It tells the latest mark, and its time is that of the
entry that brought it or that last changed its value (`BindingStatus.exists_recorded`): entries that
change only the reason or the message leave the time alone.
-/

namespace WorkloadBindings

namespace BindingStatus

/-! ## Histories -/

/-- What is said about the workloads of a binding. -/
structure Mark where
  status : ConditionStatus
  reason : Option String
  message : Option String
  deriving DecidableEq

/-- What is said as long as nothing was observed. -/
def Mark.unobserved : Mark := ⟨.unknown, none, none⟩

/-- Something that is done about the `Ready` condition of a status, and when. -/
inductive Entry where
  | prepare (now : Timestamp)
  | markTrue (now : Timestamp)
  | markFalse (reason message : String) (now : Timestamp)
  | markUnknown (reason message : String) (now : Timestamp)

namespace Entry

/-- When something is entered. -/
def time : Entry → Timestamp
  | prepare now => now
  | markTrue now => now
  | markFalse _ _ now => now
  | markUnknown _ _ now => now

/-- What is said by an entry, unless it only prepares a status. -/
def mark? : Entry → Option Mark
  | prepare _ => none
  | markTrue _ => some ⟨.yes, none, none⟩
  | markFalse reason message _ => some ⟨.no, some reason, some message⟩
  | markUnknown reason message _ => some ⟨.unknown, some reason, some message⟩

/-- What an entry makes of the `Ready` condition that there is, or of none. -/
def revise (e : Entry) : Option Condition → Condition
  | none =>
    let mark := e.mark?.getD .unobserved
    ⟨readyType, mark.status, mark.reason, mark.message, some e.time.render⟩
  | some c =>
    (e.mark?.map fun mark => Condition.update c mark.status mark.reason mark.message e.time).getD c

end Entry

/-- The status with an entry. -/
def enter (s : BindingStatus) : Entry → BindingStatus
  | .prepare now => s.prepare now
  | .markTrue now => s.markTrue now
  | .markFalse reason message now => s.markFalse reason message now
  | .markUnknown reason message now => s.markUnknown reason message now

/-- The status with all entries of a history, the earliest first. -/
def enterAll (s : BindingStatus) (history : List Entry) : BindingStatus := history.foldl enter s

/-- What was said last in a history. -/
def latest (history : List Entry) : Mark :=
  (history.filterMap Entry.mark?).getLast?.getD .unobserved

/-- The value of the `Ready` condition after a history; there is none without the condition. -/
def valueAfter (s : BindingStatus) (history : List Entry) : Option ConditionStatus :=
  (s.enterAll history).ready?.map Condition.status

/-- Behind the entries `before`, the entry `turn` brings the `Ready` condition or changes its value,
and the value stays the same through all entries `after` it. -/
structure IsLastTurn (s : BindingStatus) (before : List Entry) (turn : Entry) (after : List Entry) :
    Prop where
  turns : s.valueAfter (before ++ [turn]) ≠ s.valueAfter before
  stays : ∀ later, later <+: after →
    s.valueAfter (before ++ turn :: later) = s.valueAfter (before ++ [turn])

/-- What a history records in a status that has no `Ready` condition before it. -/
structure Recorded (s : BindingStatus) (history : List Entry) (c : Condition) : Prop where
  /-- The condition stands behind the ones that were there. -/
  conditions : (s.enterAll history).conditions = s.conditions ++ [c]
  /-- It is the only `Ready` condition. -/
  only : ((s.enterAll history).conditions.filter fun c => c.type == readyType) = [c]
  /-- It tells what was said last. -/
  tells : (⟨c.status, c.reason, c.message⟩ : Mark) = latest history
  /-- Its time is that of the last turn. -/
  since : ∃ before turn after, history = before ++ turn :: after ∧
    s.IsLastTurn before turn after ∧ c.lastTransitionTime = some turn.time.render
  /-- The generation stays as it was. -/
  generation : (s.enterAll history).observedGeneration = s.observedGeneration

variable {s : BindingStatus} {history before after : List Entry} {turn e : Entry}
  {others : List Condition} {c : Condition} {found : Option Condition}

/-! ## One entry -/

/-- The type of a revised condition is `Ready`. -/
theorem Entry.type_revise (e : Entry) (hfound : ∀ c ∈ found, c.type = readyType) :
    (e.revise found).type = readyType := by
  cases found with
  | none => rfl
  | some c =>
    have hc : c.type = readyType := hfound c rfl
    cases e <;> exact hc

/-- A revised condition tells what the entry says, or what it told before. -/
theorem Entry.mark_revise (e : Entry) (c : Condition) :
    (⟨(e.revise (some c)).status, (e.revise (some c)).reason, (e.revise (some c)).message⟩ : Mark) =
      e.mark?.getD ⟨c.status, c.reason, c.message⟩ := by
  cases e <;> rfl

/-- A revised condition has the time of the entry when its value changes, and otherwise its own. -/
theorem Entry.lastTransitionTime_revise (e : Entry) (c : Condition) :
    (e.revise (some c)).lastTransitionTime =
      if c.status = (e.revise (some c)).status then c.lastTransitionTime
      else some e.time.render := by
  cases e with
  | prepare => exact (if_pos rfl).symm
  | _ => rfl

/-- Conditions of other types in front are left alone. -/
theorem setReady_append (hothers : ∀ c ∈ others, c.type ≠ readyType) (status : ConditionStatus)
    (reason message : Option String) (now : Timestamp) (cs : List Condition) :
    setReady status reason message now (others ++ cs) =
      others ++ setReady status reason message now cs := by
  induction others with
  | nil => rfl
  | cons c others ih =>
    obtain ⟨hc, hrest⟩ := List.forall_mem_cons.1 hothers
    rw [List.cons_append, setReady, if_neg hc, ih hrest, List.cons_append]

/-- The first `Ready` condition behind conditions of other types. -/
theorem ready?_of_conditions (hothers : ∀ c ∈ others, c.type ≠ readyType)
    (hfound : ∀ c ∈ found, c.type = readyType) (h : s.conditions = others ++ found.toList) :
    s.ready? = found := by
  have hnone : (others.find? fun c => c.type == readyType) = none := by
    simpa [List.find?_eq_none] using hothers
  rw [ready?, h, List.find?_append, hnone, Option.none_or]
  cases found with
  | none => rfl
  | some c => exact List.find?_cons_of_pos (beq_iff_eq.2 (hfound c rfl))

/-- An entry revises the `Ready` condition, and leaves the conditions in front and the generation. -/
theorem enter_eq (hothers : ∀ c ∈ others, c.type ≠ readyType)
    (hfound : ∀ c ∈ found, c.type = readyType) (h : s.conditions = others ++ found.toList)
    (e : Entry) :
    (s.enter e).conditions = others ++ [e.revise found] ∧
      (s.enter e).observedGeneration = s.observedGeneration := by
  have hready := ready?_of_conditions hothers hfound h
  -- A mark is made behind the other conditions.
  have hset : ∀ (status : ConditionStatus) (reason message : Option String) (now : Timestamp),
      setReady status reason message now s.conditions =
        others ++ setReady status reason message now found.toList := fun status reason message now => by
    rw [h, setReady_append hothers]
  cases found with
  | none =>
    have hbare : s.conditions = others := by rw [h, Option.toList_none, List.append_nil]
    cases e with
    | prepare now =>
      rw [enter, prepare, hready]
      exact ⟨congrArg (· ++ _) hbare, rfl⟩
    | _ => exact ⟨hset .., rfl⟩
  | some c =>
    have hupdate : ∀ (status : ConditionStatus) (reason message : Option String) (now : Timestamp),
        setReady status reason message now (some c).toList =
          [Condition.update c status reason message now] := fun status reason message now =>
      if_pos (hfound c rfl)
    simp only [hupdate] at hset
    cases e with
    | prepare now =>
      rw [enter, prepare, hready]
      exact ⟨h, rfl⟩
    | _ => exact ⟨hset .., rfl⟩

/-! ## A whole history -/

/-- A history with one more entry. -/
theorem enterAll_concat (s : BindingStatus) (history : List Entry) (e : Entry) :
    s.enterAll (history ++ [e]) = (s.enterAll history).enter e :=
  List.foldl_concat ..

/-- What was said last is said by the last entry, or before it. -/
theorem latest_concat (history : List Entry) (e : Entry) :
    latest (history ++ [e]) = e.mark?.getD (latest history) := by
  rw [latest, List.filterMap_append]
  cases hmark : e.mark? with
  | none => simp [hmark, latest]
  | some mark => simp [hmark]

/-- In a status without a `Ready` condition all conditions have other types. -/
theorem type_ne_of_ready? (hs : s.ready? = none) : ∀ c ∈ s.conditions, c.type ≠ readyType := by
  simpa [ready?, List.find?_eq_none] using hs

/-- The value after a history is that of the `Ready` condition behind the others. -/
theorem valueAfter_of_conditions (hs : s.ready? = none) (hc : c.type = readyType)
    (h : (s.enterAll history).conditions = s.conditions ++ [c]) :
    s.valueAfter history = some c.status := by
  have hfound : ∀ d ∈ some c, d.type = readyType := by simpa using hc
  rw [valueAfter, ready?_of_conditions (type_ne_of_ready? hs) hfound h, Option.map_some]

/-- The `Ready` condition behind the others is the only one. -/
theorem filter_conditions (hs : s.ready? = none) (hc : c.type = readyType)
    (h : (s.enterAll history).conditions = s.conditions ++ [c]) :
    ((s.enterAll history).conditions.filter fun c => c.type == readyType) = [c] := by
  have hnone : (s.conditions.filter fun c => c.type == readyType) = [] := by
    simpa using type_ne_of_ready? hs
  rw [h, List.filter_append, hnone, List.nil_append]
  exact List.filter_cons_of_pos (beq_iff_eq.2 hc)

/-- A last turn is still the last one when one more entry leaves the value as it is. -/
theorem IsLastTurn.concat (h : s.IsLastTurn before turn after)
    (hsame : s.valueAfter (before ++ turn :: after ++ [e]) = s.valueAfter (before ++ turn :: after)) :
    s.IsLastTurn before turn (after ++ [e]) := by
  refine ⟨h.turns, fun later hlater => ?_⟩
  rcases List.prefix_concat_iff.1 hlater with rfl | hlater
  · rw [← h.stays after List.prefix_rfl, ← hsame, List.append_assoc, List.cons_append]
  · exact h.stays later hlater

/-- An entry behind which nothing is entered is the last turn when it changes the value. -/
theorem isLastTurn_nil (h : s.valueAfter (before ++ [turn]) ≠ s.valueAfter before) :
    s.IsLastTurn before turn [] :=
  ⟨h, fun later hlater => by rw [List.prefix_nil.1 hlater]⟩

/-- The first entry brings the condition. -/
theorem recorded_singleton (hs : s.ready? = none) (e : Entry) : s.Recorded [e] (e.revise none) := by
  have hnone : ∀ c ∈ (none : Option Condition), c.type = readyType := nofun
  have htype := e.type_revise hnone
  have habsent : s.conditions = s.conditions ++ (none : Option Condition).toList :=
    (List.append_nil _).symm
  obtain ⟨hconditions, hgeneration⟩ := enter_eq (type_ne_of_ready? hs) hnone habsent e
  have hvalue : s.valueAfter [e] = some (e.revise none).status :=
    valueAfter_of_conditions hs htype hconditions
  -- Before the entry there is no condition, and so no value.
  have hturn : s.valueAfter [e] ≠ s.valueAfter [] := by
    rw [hvalue, valueAfter, enterAll, List.foldl_nil, hs]
    exact nofun
  refine ⟨hconditions, filter_conditions hs htype hconditions, ?_, ?_, hgeneration⟩
  · exact (latest_concat [] e).symm
  · exact ⟨[], e, [], rfl, isLastTurn_nil hturn, rfl⟩

/-- One more entry revises the condition. -/
theorem Recorded.concat (hs : s.ready? = none) (h : s.Recorded history c) (e : Entry) :
    s.Recorded (history ++ [e]) (e.revise (some c)) := by
  have hc : c.type = readyType := by
    have hmem : c ∈ (s.enterAll history).conditions.filter fun c => c.type == readyType := by
      rw [h.only]
      exact List.mem_singleton_self c
    exact beq_iff_eq.1 (List.mem_filter.1 hmem).2
  have hfound : ∀ d ∈ some c, d.type = readyType := by simpa using hc
  have htype := e.type_revise hfound
  obtain ⟨hconditions, hgeneration⟩ := enter_eq (type_ne_of_ready? hs) hfound h.conditions e
  rw [← enterAll_concat] at hconditions hgeneration
  have hbefore := valueAfter_of_conditions hs hc h.conditions
  have hvalue := valueAfter_of_conditions hs htype hconditions
  refine ⟨hconditions, filter_conditions hs htype hconditions, ?_, ?_,
    hgeneration.trans h.generation⟩
  · rw [e.mark_revise, h.tells, latest_concat]
  · rw [e.lastTransitionTime_revise]
    split
    case isTrue hsame =>
      -- The value stays, so that the last turn before this entry is still the last one.
      obtain ⟨before, turn, after, rfl, hturn, htime⟩ := h.since
      refine ⟨before, turn, after ++ [e], by simp, hturn.concat ?_, htime⟩
      rw [hvalue, hbefore, hsame]
    case isFalse hdiffers =>
      -- This entry turns the value, and there is none behind it.
      refine ⟨history, e, [], rfl, isLastTurn_nil ?_, rfl⟩
      rw [hvalue, hbefore, Ne, Option.some_inj]
      exact Ne.symm hdiffers

/-- A history that is not empty is recorded in one `Ready` condition behind the other conditions of a
status, with what was said last and the time since when its value has been what it is. -/
theorem exists_recorded (hs : s.ready? = none) (hne : history ≠ []) :
    ∃ c, s.Recorded history c := by
  -- From the end, since an entry acts on what all entries before it have left.
  induction history using List.reverseRecOn with
  | nil => exact absurd rfl hne
  | append_singleton history e ih =>
    by_cases hnil : history = []
    · rw [hnil]
      exact ⟨_, recorded_singleton hs e⟩
    · obtain ⟨c, hc⟩ := ih hnil
      exact ⟨_, hc.concat hs e⟩

/-- A status with a condition of another type. -/
def progressing : BindingStatus where
  observedGeneration := some 3
  conditions := [⟨"Progressing", .yes, none, none, none⟩]

/-- The subject is missing, is found but cannot be bound, and the status is prepared once more. -/
def deniedHistory : List Entry :=
  [.prepare ⟨0, 0⟩, .markFalse subjectMissing "gone" ⟨10, 0⟩,
    .markFalse bindingFailed "denied" ⟨20, 0⟩, .prepare ⟨30, 0⟩]

/-- The condition tells the later failure, and the time of the earlier one. -/
theorem exists_recorded_denied :
    progressing.ready? = none ∧ deniedHistory ≠ [] ∧
      progressing.Recorded deniedHistory
        ⟨"Ready", .no, some "BindingFailed", some "denied", some "1970-01-01T00:00:10Z"⟩ := by
  have hs : progressing.ready? = none := by decide
  have hne : deniedHistory ≠ [] := by decide
  obtain ⟨c, hc⟩ := exists_recorded hs hne
  have hlast : (progressing.enterAll deniedHistory).conditions = progressing.conditions ++
      [⟨"Ready", .no, some "BindingFailed", some "denied", some "1970-01-01T00:00:10Z"⟩] := by
    decide
  obtain rfl := List.singleton_inj.1 (List.append_cancel_left (hc.conditions.symm.trans hlast))
  exact ⟨hs, hne, hc⟩

end BindingStatus

end WorkloadBindings
