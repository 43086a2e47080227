import SqlStatement.Results
/-!
# Views of a log

Everything that a log answers is told by the actions on it: counts and insert ids by the updates,
one count each by the commands, the current rows by the first set of rows (`Results.Answers`).
What one action adds is said once, in `recorded_apply`, and carried along all of them.
-/
namespace SqlStatement

namespace ResultAction

def update? : ResultAction → Option (Int × Int)
  | .addUpdate count insertId => some (count, insertId)
  | _ => none

def set? : ResultAction → Option ResultSet
  | .addResultSet set => some set
  | _ => none

def joined? : ResultAction → Option Bool
  | .setJoined on => some on
  | _ => none

/-- What is recorded for a command; the other actions are about the log as a whole. -/
def outcome? : ResultAction → Option Outcome
  | .addUpdate count insertId => some (.update count insertId)
  | .addResultSet _ => some .rows
  | .addFailure => some .failed
  | .setJoined _ | .finish => none

def count? : ResultAction → Option Int
  | .addUpdate count _ => some count
  | .addResultSet _ => some Outcome.successNoInfo
  | .addFailure => some Outcome.executeFailed
  | .setJoined _ | .finish => none

def commands (actions : List ResultAction) : List ResultAction :=
  actions.filter fun a => a.outcome?.isSome

/-- The entries were last said to be joined, and they were joined into another number of
commands. -/
def JoinedApart (expected : Nat) (actions : List ResultAction) : Prop :=
  (actions.filterMap joined?).getLast? = some true ∧ (commands actions).length ≠ expected

end ResultAction

open ResultAction

namespace Results

variable {a b c start r : Results} {actions more : List ResultAction}

structure Recorded (start : Results) (actions : List ResultAction) (r : Results) : Prop where
  outcomes : r.outcomes = start.outcomes ++ actions.filterMap outcome?
  joined : r.joined = ((actions.filterMap joined?).getLast?).getD start.joined
  resultSet : r.resultSet = start.resultSet.or (actions.filterMap set?).head?
  expected : r.expected = start.expected

theorem recorded_apply (start : Results) (action : ResultAction) :
    Recorded start [action] (start.apply action) := by
  cases action with
  | addResultSet set =>
    refine ⟨rfl, rfl, ?_, rfl⟩
    cases hset : start.resultSet <;> simp [apply, addResultSet, hset, set?]
  | addUpdate | addFailure =>
    exact ⟨rfl, rfl, (Option.or_none ..).symm, rfl⟩
  | setJoined | finish =>
    exact ⟨(List.append_nil _).symm, rfl, (Option.or_none ..).symm, rfl⟩

theorem Recorded.trans (hab : Recorded a actions b) (hbc : Recorded b more c) :
    Recorded a (actions ++ more) c where
  outcomes := by simp [hbc.outcomes, hab.outcomes]
  joined := by
    rw [hbc.joined, hab.joined, List.filterMap_append, List.getLast?_append]
    cases (more.filterMap joined?).getLast? <;> rfl
  resultSet := by
    rw [hbc.resultSet, hab.resultSet, List.filterMap_append, List.head?_append, Option.or_assoc]
  expected := hbc.expected.trans hab.expected

private theorem recorded_foldl (start : Results) (actions : List ResultAction) :
    Recorded start actions (actions.foldl apply start) := by
  induction actions generalizing start with
  | nil => exact ⟨(List.append_nil _).symm, rfl, (Option.or_none ..).symm, rfl⟩
  | cons action actions ih => exact (recorded_apply start action).trans (ih (start.apply action))

/-- What a log answers, by the actions on it since it was new. -/
structure Answers (expected : Nat) (actions : List ResultAction) (r : Results) : Prop where
  length : r.outcomes.length = (commands actions).length
  joined_iff : r.joined = true ↔ (actions.filterMap joined?).getLast? = some true
  serverCounts : r.serverCounts = (actions.filterMap update?).map Prod.fst
  insertIds : r.insertIds = (actions.filterMap update?).map Prod.snd
  one_id_each : r.insertIds.length = r.serverCounts.length
  one_count_each : ¬JoinedApart expected actions →
    r.counts.map some = (commands actions).map count?
  counts_of_updates : ¬JoinedApart expected actions →
    (((commands actions).zip r.counts).filter fun p => p.1.update?.isSome).map Prod.snd =
      r.serverCounts
  counts_of_joined : JoinedApart expected actions →
    r.counts = List.replicate expected Outcome.successNoInfo
  firstIsRows_iff : r.firstIsRows = true ↔
    ∃ set, (commands actions).head? = some (.addResultSet set)
  resultSet_of_first : r.firstIsRows = true →
    ∃ set, (commands actions).head? = some (.addResultSet set) ∧ r.resultSet = some set
  updateCount_iff : ∀ n, r.updateCount = some n ↔
    ∃ insertId, (commands actions).head? = some (.addUpdate n insertId)
  resultSet : r.resultSet = (actions.filterMap set?).head?

private theorem serverCounts_eq (h : r.outcomes = actions.filterMap outcome?) :
    r.serverCounts = (actions.filterMap update?).map Prod.fst := by
  rw [serverCounts, h, List.filterMap_filterMap, List.map_filterMap]
  congr 1
  funext action
  cases action <;> rfl

private theorem insertIds_eq (h : r.outcomes = actions.filterMap outcome?) :
    r.insertIds = (actions.filterMap update?).map Prod.snd := by
  rw [insertIds, h, List.filterMap_filterMap, List.map_filterMap]
  congr 1
  funext action
  cases action <;> rfl

private theorem map_count_eq (h : r.outcomes = actions.filterMap outcome?) :
    r.outcomes.map Outcome.count = actions.filterMap count? := by
  rw [h, List.map_filterMap]
  congr 1
  funext action
  cases action <;> rfl

private theorem map_commands {α : Type} {f : ResultAction → Option α}
    (hf : ∀ action, (f action).isSome = action.outcome?.isSome) (actions : List ResultAction) :
    (commands actions).map f = (actions.filterMap f).map some := by
  induction actions with
  | nil => rfl
  | cons action actions ih =>
    unfold commands at ih ⊢
    rw [List.filter_cons, ← hf, List.filterMap_cons]
    cases hfound : f action with
    | none => exact ih
    | some found =>
      change f action :: _ = some found :: _
      rw [hfound, ih]

private theorem isSome_count? (action : ResultAction) :
    action.count?.isSome = action.outcome?.isSome := by
  cases action <;> rfl

private theorem counts_of_updates_eq (actions : List ResultAction) :
    (((commands actions).zip (actions.filterMap count?)).filter
      fun p => p.1.update?.isSome).map Prod.snd = (actions.filterMap update?).map Prod.fst := by
  induction actions with
  | nil => rfl
  | cons action actions ih =>
    cases action with
    | addUpdate count insertId => exact congrArg (count :: ·) ih
    | addResultSet | addFailure | setJoined | finish => exact ih

private theorem set?_of_first {set : ResultSet}
    (h : (commands actions).head? = some (.addResultSet set)) :
    (actions.filterMap set?).head? = some set := by
  induction actions with
  | nil => cases h
  | cons action actions ih =>
    cases action with
    | addResultSet found =>
      cases h
      rfl
    | addUpdate | addFailure => cases h
    | setJoined | finish => exact ih h

section

variable (h : r.outcomes = actions.filterMap outcome?)
include h

private theorem head?_outcomes : r.outcomes.head? = (commands actions).head?.bind outcome? := by
  have hhead := congrArg List.head? (map_commands (f := outcome?) (fun _ => rfl) actions)
  rw [List.head?_map, List.head?_map, ← h] at hhead
  have hbind := congrArg (Option.bind · id) hhead
  simpa [Option.bind_map] using hbind.symm

private theorem firstIsRows_iff :
    r.firstIsRows = true ↔ ∃ set, (commands actions).head? = some (.addResultSet set) := by
  rw [firstIsRows, beq_iff_eq, head?_outcomes h]
  cases (commands actions).head? with
  | none => simp
  | some first => cases first <;> simp [outcome?]

private theorem updateCount_iff (n : Int) :
    r.updateCount = some n ↔
      ∃ insertId, (commands actions).head? = some (.addUpdate n insertId) := by
  rw [updateCount, head?_outcomes h]
  cases (commands actions).head? with
  | none => simp
  | some first => cases first <;> simp [outcome?, Outcome.updateCount?]

end

theorem Recorded.answers {fetchSize expected : Nat} {isBatch : Bool} {scrolling : Scrolling}
    (h : Recorded { fetchSize, isBatch, scrolling, expected } actions r) :
    r.Answers expected actions := by
  have houtcomes : r.outcomes = actions.filterMap outcome? := by simpa using h.outcomes
  have hsets : r.resultSet = (actions.filterMap set?).head? := by simpa using h.resultSet
  have hlength : r.outcomes.length = (commands actions).length := by
    have hmap := congrArg List.length (map_commands (f := outcome?) (fun _ => rfl) actions)
    simpa [houtcomes] using hmap.symm
  have hjoined : r.joined = true ↔ (actions.filterMap joined?).getLast? = some true := by
    rw [h.joined]
    cases (actions.filterMap joined?).getLast? <;> simp
  have hapart : (r.joined = true ∧ r.outcomes.length ≠ r.expected) ↔
      JoinedApart expected actions := by
    rw [JoinedApart, hjoined, hlength, h.expected]
  have hcounts (hone : ¬JoinedApart expected actions) : r.counts = actions.filterMap count? := by
    rw [counts, if_neg (fun hr => hone (hapart.1 hr)), map_count_eq houtcomes]
  constructor
  · exact hlength
  · exact hjoined
  · exact serverCounts_eq houtcomes
  · exact insertIds_eq houtcomes
  · rw [insertIds_eq houtcomes, serverCounts_eq houtcomes, List.length_map, List.length_map]
  · intro hone
    rw [hcounts hone, map_commands isSome_count?]
  · intro hone
    rw [hcounts hone, counts_of_updates_eq, serverCounts_eq houtcomes]
  · intro hother
    rw [counts, if_pos (hapart.2 hother), h.expected]
  · exact firstIsRows_iff houtcomes
  · intro hrows
    obtain ⟨set, hfirst⟩ := (firstIsRows_iff houtcomes).1 hrows
    exact ⟨set, hfirst, hsets.trans (set?_of_first hfirst)⟩
  · exact updateCount_iff houtcomes
  · exact hsets

/-- Whatever is recorded on a new log and in which order, all its views agree, and the current rows
are never replaced. -/
theorem answers_after (fetchSize expected : Nat) (isBatch : Bool) (scrolling : Scrolling)
    (actions : List ResultAction) :
    let log := actions.foldl apply { fetchSize, isBatch, scrolling, expected }
    log.Answers expected actions ∧
      ∀ (set : ResultSet) (more : List ResultAction), log.resultSet = some set →
        (more.foldl apply log).resultSet = some set := by
  refine ⟨(recorded_foldl _ actions).answers, ?_⟩
  intro set more hset
  rw [(recorded_foldl _ more).resultSet, hset, Option.some_or]

def mixedActions : List ResultAction :=
  [.addFailure, .setJoined true, .addResultSet .empty, .addUpdate 3 10,
    .addResultSet (.table ⟨[]⟩ [])]

/-- Four commands for five joined entries.  The first rows stay the current ones, although the
first command failed. -/
theorem answers_after_mixedActions :
    let log := mixedActions.foldl apply ⟨0, true, .forwardOnly, 5, [], false, none, false⟩
    log.counts = [-2, -2, -2, -2, -2] ∧ log.serverCounts = [3] ∧ log.insertIds = [10] ∧
      log.firstIsRows = false ∧ log.updateCount = none ∧ log.resultSet = some .empty := by
  obtain ⟨h, -⟩ := answers_after 0 5 true .forwardOnly mixedActions
  have hapart : JoinedApart 5 mixedActions := ⟨rfl, by decide⟩
  refine ⟨h.counts_of_joined hapart, h.serverCounts, h.insertIds, ?_, rfl, h.resultSet⟩
  refine Bool.eq_false_iff.2 fun hrows => ?_
  obtain ⟨set, hfirst⟩ := h.firstIsRows_iff.1 hrows
  cases hfirst

end Results
end SqlStatement
