import SqlStatement.Proofs.Session.Locks
import SqlStatement.Proofs.Session.WellFormed
import SqlStatement.Proofs.Statement.Outcome
/-!
# Executions in a session

However an execution of an open statement comes to its end, the statement can be used again: only
its results and its path can have changed, and its lock is free.
-/
namespace SqlStatement

def Ending.isReply : Ending → Bool
  | .reply _ => true
  | _ => false

namespace Session

variable {σ κ : Type} [Server σ κ] {st : Statement} {batch : Bool} {server : σ} {α : Type}

/-- What an execution leaves of a server and a statement, and how it ended: it was refused, it ran
to its end, or it was given up after it had started. -/
inductive Leaves (st : Statement) (batch : Bool) (server : σ) : σ × Statement → Ending → Prop
  | refused {e : Ending} (hstarts : st.starts batch = false) (he : e ≠ .abandoned) :
      Leaves st batch server (server, st) e
  | ended {s : σ × Statement} {e : Ending} (hstarts : st.starts batch = true)
      (he : e ≠ .abandoned) (hs : st.Ended batch server s e.isReply) : Leaves st batch server s e
  | dropped {s : σ × Statement} (hstarts : st.starts batch = true)
      (hs : st.Underway batch server s) : Leaves st batch server s .abandoned

theorem Leaves.sameButOutcome {s : σ × Statement} {e : Ending} (h : Leaves st batch server s e) :
    st.SameButOutcome s.2 := by
  cases h with
  | refused => rfl
  | ended _ _ hs =>
    cases hs with
    | single _ _ hst =>
      rw [hst]
      rfl
    | batch _ _ hst _ =>
      rw [hst]
      rfl
  | dropped _ hs =>
    rw [hs.statement]
    rfl

private theorem isReply_ofExcept (reply : α → Reply) (r : Except StatementError α) :
    (Ending.ofExcept reply r).isReply = r.isOk := by
  cases r <;> rfl

private theorem ofExcept_ne_abandoned (reply : α → Reply) (r : Except StatementError α) :
    Ending.ofExcept reply r ≠ .abandoned := by
  cases r <;> nofun

private theorem leaves_of_executes {run : Timed (σ × Statement) (Except StatementError α)}
    (h : st.Executes batch server run) (reply : α → Reply) (patience : Option Nat) :
    Leaves st batch server (abandonedAfter patience (run.map (.ofExcept reply))).state
      (abandonedAfter patience (run.map (.ofExcept reply))).result := by
  cases h with
  | @refused r hstarts =>
    have hdone : abandonedAfter patience ((Timed.done (server, st) r).map (.ofExcept reply)) =
        .done (server, st) (.ofExcept reply r) := abandonedAfter_done patience _ _
    rw [hdone]
    exact .refused hstarts (ofExcept_ne_abandoned reply r)
  | started hstarts hrun =>
    have hcourse : (run.map (Ending.ofExcept reply)).Course (st.Underway batch server)
        fun s e => Leaves st batch server s e := by
      refine hrun.map ?_
      intro s r hs
      rw [← isReply_ofExcept reply] at hs
      exact .ended hstarts (ofExcept_ne_abandoned reply r) hs
    cases patience with
    | none => exact hcourse.ended
    | some ms =>
      refine ((hcourse.cut ms).map (R := fun s e => Leaves st batch server s e) ?_).ended
      intro s e hs
      cases e with
      | none => exact .dropped hstarts hs
      | some e => exact hs

theorem leaves_run (st : Statement) (e : Execution) (server : σ) (patience : Option Nat) :
    Leaves st e.isBatch server (abandonedAfter patience (run st e server)).state
      (abandonedAfter patience (run st e server)).result := by
  have hexecute := Statement.executes_execute st server
  have hlargeUpdate := hexecute.conclude fun s isRows =>
    if isRows then 0 else s.2.updateCount.getD 0
  cases e with
  | once => exact leaves_of_executes hexecute .bool patience
  | query =>
    have hquery := hexecute.conclude fun s _ => s.2.resultSet.getD .empty
    exact leaves_of_executes hquery .rows patience
  | update =>
    have hupdate := hlargeUpdate.conclude fun _ => Statement.countOrMax
    exact leaves_of_executes hupdate .count patience
  | largeUpdate => exact leaves_of_executes hlargeUpdate .count patience
  | batch =>
    exact leaves_of_executes (Statement.executes_executeBatchWith st _ server) .counts patience
  | largeBatch =>
    exact leaves_of_executes (Statement.executes_executeBatchWith st _ server) .counts patience

/-- After every run, an execution of an open statement changes its server and of the statement
nothing but the results and the path, whether it is refused, succeeds, fails or is given up at any
time.  It takes the lock of the statement exactly if it passes validation, has it at every pause
and leaves it free, and any operations that follow go on without waiting for a lock. -/
theorem executions_leave (connections : List (Connection σ)) (pools : Pools)
    (ops : List (Op κ)) {p : Nat} {st : Statement}
    (hst : ((start connections pools).after ops).statements[p]? = some st)
    (hopen : st.closed = false) (e : Execution) (patience : Option Nat) :
    (∃ i c server st' answer,
      ((start connections pools).after ops).connectionOf? st = some (i, c) ∧
      ((start connections pools).after ops).step (.execute p e patience) =
        some ((((start connections pools).after ops).setServer i server).setStatement p st',
          answer) ∧
      st.SameButOutcome st' ∧ Leaves st e.isBatch c.server (server, st') answer.ending ∧
      ((start connections pools).after ops).underLock? (.execute p e patience) =
        (if st.starts e.isBatch then
          some (p, (((start connections pools).after ops).setServer i server).setStatement p st',
            false)
        else none) ∧
      (guardedAfter patience (run st e c.server)).Course (fun s => s.2 = true)
        fun s _ => s.2 = false) ∧
    ∀ more, (Locked.free (start connections pools)).after?
        (ops ++ .execute p e patience :: more) =
      some (.free ((start connections pools).after (ops ++ .execute p e patience :: more))) := by
  refine ⟨?_, fun more => Locked.after?_free _ _⟩
  obtain ⟨i, c, -, hc⟩ :=
    connectionOf?_of_open connections pools (List.mem_of_getElem? hst) hopen
  have hleaves := leaves_run st e c.server patience
  have hstep : ((start connections pools).after ops).step (.execute p e patience) =
      some (((start connections pools).after ops).onServer p st fun server =>
        abandonedAfter patience (run st e server)) := by
    rw [step, hst, Option.map_some]
  rw [onServer, hc] at hstep
  exact ⟨i, c, _, _, _, hc, hstep, hleaves.sameButOutcome, hleaves,
    underLock?_execute hst hc e patience, course_guardedAfter patience _⟩

def succeededThenSlow : List (Op ScriptChange) :=
  [.prepare 0 "insert into t values (?)" none, .edit 0 (.setValue 1 (.int 7)),
    .edit 0 .addBatch, .execute 0 .batch none, .change 0 (.delay (some 10))]

/-- The second batch is given up while its row is executed. -/
theorem executions_leave_dropped :
    ∃ st i c server st' answer,
      ((start oneServer (.ofCount 0)).after succeededThenSlow).statements[0]? = some st ∧
      st.path = some .sequential ∧
      ((start oneServer (.ofCount 0)).after succeededThenSlow).step (.execute 0 .batch (some 5)) =
        some ((((start oneServer (.ofCount 0)).after succeededThenSlow).setServer i
          server).setStatement 0 st', answer) ∧
      Leaves st true (c : Connection ScriptedServer).server (server, st') answer.ending ∧
      st' = { st with results := none, path := none } ∧
      (Locked.free (start oneServer (.ofCount 0))).after?
          (succeededThenSlow ++ [.execute 0 .batch (some 5), .execute 0 .batch none]) =
        some (.free ((start oneServer (.ofCount 0)).after
          (succeededThenSlow ++ [.execute 0 .batch (some 5), .execute 0 .batch none]))) := by
  have hview : (((start oneServer (.ofCount 0)).after succeededThenSlow).statements[0]?.map
      fun st => (st.closed, st.path)) = some (false, some .sequential) := rfl
  obtain ⟨st, hst, hview⟩ := Option.map_eq_some_iff.1 hview
  obtain ⟨hopen, hpath⟩ := Prod.mk.inj hview
  obtain ⟨⟨i, c, server, st', answer, -, hstep, -, hleaves, -⟩, hlocks⟩ :=
    executions_leave oneServer (.ofCount 0) succeededThenSlow hst hopen .batch (some 5)
  have hending : (((start oneServer (.ofCount 0)).after succeededThenSlow).step
      (.execute 0 .batch (some 5))).map (fun s => s.2.ending) = some .abandoned := rfl
  rw [hstep] at hending
  have habandoned : answer.ending = .abandoned := Option.some.inj hending
  refine ⟨st, i, c, server, st', answer, hst, hpath, hstep, hleaves, ?_, hlocks _⟩
  rw [habandoned] at hleaves
  cases hleaves with
  | refused _ he => exact absurd rfl he
  | ended _ he => exact absurd rfl he
  | dropped _ hs => exact hs.statement

end Session
end SqlStatement
