import SqlStatement.Proofs.Server.Traced
import SqlStatement.Statement.Discovery
import SqlStatement.Statement.Execution
/-!
# Statements on servers seen through a function

On a server that is seen through a function, executions run as they do on the other server, and
questions get the same answers.
-/
namespace SqlStatement.Statement

variable {σ τ κ : Type} [Server σ κ] [Server τ κ] {f : σ → τ}

private theorem project_limited {τ' τ'' α : Type} (g : τ' → τ'') (limit : Option Duration)
    (run : Timed τ' (Except StatementError α)) :
    (limited limit run).project g = limited limit (run.project g) := by
  cases limit with
  | none => rfl
  | some d =>
    unfold limited
    rw [Timed.project_map, Timed.project_cut]

private theorem project_executeRow (h : Server.Projection f) (st : Statement) (row : Row)
    (server : σ) :
    (st.executeRow row server).project (Prod.map f id) = st.executeRow row (f server) := by
  unfold executeRow limits
  dsimp only
  rw [h.enforcesTimeout, h.isPrimary, ← h.execute, ← Timed.project_map, ← project_limited]
  exact Timed.project_conclude (f := Prod.map f id) (g := Prod.map f id) (fun _ => rfl)
    (fun _ _ => rfl) _

theorem project_execute (h : Server.Projection f) (st : Statement) (server : σ) :
    (st.execute server).project (Prod.map f id) = st.execute (f server) := by
  unfold execute
  split
  · rfl
  · exact project_executeRow h st _ server

private theorem project_conclude_id {α β : Type} (g : Statement → α → β)
    (run : Timed (σ × Statement) (Except StatementError α)) :
    (run.conclude id fun s r => (s, r.map (g s.2))).project (Prod.map f id) =
      (run.project (Prod.map f id)).conclude id fun s r => (s, r.map (g s.2)) :=
  Timed.project_conclude (f := Prod.map f id) (g := Prod.map f id) (fun _ => rfl)
    (fun _ _ => rfl) run

theorem project_executeQuery (h : Server.Projection f) (st : Statement) (server : σ) :
    (st.executeQuery server).project (Prod.map f id) = st.executeQuery (f server) := by
  unfold executeQuery
  rw [← project_execute h]
  exact project_conclude_id (fun st _ => st.resultSet.getD .empty) _

theorem project_executeLargeUpdate (h : Server.Projection f) (st : Statement) (server : σ) :
    (st.executeLargeUpdate server).project (Prod.map f id) =
      st.executeLargeUpdate (f server) := by
  unfold executeLargeUpdate
  rw [← project_execute h]
  exact project_conclude_id
    (fun st (isRows : Bool) => if isRows then 0 else st.updateCount.getD 0) _

theorem project_executeUpdate (h : Server.Projection f) (st : Statement) (server : σ) :
    (st.executeUpdate server).project (Prod.map f id) = st.executeUpdate (f server) := by
  unfold executeUpdate
  rw [Timed.project_map, project_executeLargeUpdate h]

private theorem project_executeRows (h : Server.Projection f) (st : Statement) (primary : Bool)
    (rows : List Row) (first : Option StatementError) (server : σ) (log : Results) :
    (st.executeRows primary rows first (server, log)).project (Prod.map f id) =
      st.executeRows primary rows first (f server, log) := by
  induction rows generalizing first server log with
  | nil => cases first <;> rfl
  | cons row rows ih =>
    have hpolled : Prod.map f id (if st.options.timeout.isSome then Server.poll server
          else (server, .ok ())) =
        if st.options.timeout.isSome then Server.poll (f server) else (f server, .ok ()) := by
      split
      · exact h.poll server
      · rfl
    unfold executeRows
    rw [← hpolled]
    generalize (if st.options.timeout.isSome then Server.poll server
      else (server, Except.ok ())) = polled
    obtain ⟨server, answer⟩ := polled
    cases answer with
    | error e => rfl
    | ok u =>
      change Timed.project _ (Timed.andThen _ _) =
        Timed.andThen (Server.execute primary st.template row none (f server, log)) _
      rw [← h.execute]
      apply Timed.project_andThen
      intro s r
      cases r with
      | ok u => exact ih _ _ _
      | error e =>
        dsimp only
        split
        · exact ih _ _ _
        · rfl

private theorem project_executeQueue (h : Server.Projection f) (st : Statement) (server : σ)
    (log : Results) :
    (st.executeQueue (server, log)).project (Prod.map f id) = st.executeQueue (f server, log) := by
  unfold executeQueue
  dsimp only
  rw [← h.executeBatch, h.isPrimary]
  apply Timed.project_andThen
  intro s r
  cases r with
  | error e => rfl
  | ok handled =>
    cases handled with
    | true => rfl
    | false => exact project_executeRows h st _ _ _ _ _

private theorem project_runQueue (h : Server.Projection f) (st : Statement) (server : σ) :
    (st.runQueue server).project (Prod.map f id) = st.runQueue (f server) := by
  unfold runQueue
  dsimp only
  rw [← project_executeQueue h, ← project_limited]
  exact Timed.project_conclude (f := Prod.map f id) (g := Prod.map f id) (fun _ => rfl)
    (fun _ _ => rfl) _

theorem project_executeBatchWith (h : Server.Projection f) (st : Statement)
    (counts : Results → List Int) (server : σ) :
    (st.executeBatchWith counts server).project (Prod.map f id) =
      st.executeBatchWith counts (f server) := by
  unfold executeBatchWith
  split
  · rfl
  · split
    · rfl
    · rw [← project_runQueue h]
      exact project_conclude_id (fun st _ => (st.results.map counts).getD []) _

private theorem map_probe (h : Server.Projection f) (sql : String) (server : σ) :
    Prod.map f id (probe sql server) = probe sql (f server) := by
  unfold probe
  rw [← h.openProbe]
  cases Server.openProbe sql server with
  | mk opened answer =>
    cases answer with
    | error e => rfl
    | ok u =>
      have hclosed := h.closeProbe (Server.describe opened).1
      dsimp only [Prod.map, id]
      rw [← h.describe]
      exact congrArg (fun closed => (closed.1, (Server.describe opened).2)) hclosed

private theorem map_load (h : Server.Projection f) (st : Statement) (server : σ) :
    Prod.map (Prod.map f id) id (st.load server) = st.load (f server) := by
  unfold load
  rw [← map_probe h]
  cases probe st.template.sql server with
  | mk probed answer =>
    cases answer with
    | ok d => rfl
    | error e =>
      dsimp only [Prod.map, id]
      split <;> rfl

theorem map_metadata (h : Server.Projection f) (st : Statement) (server : σ) :
    Prod.map (Prod.map f id) id (st.metadata server) = st.metadata (f server) := by
  unfold metadata
  rw [← map_load h]
  split
  · rfl
  · split
    · rfl
    · split <;> rfl

theorem map_parameterMetadata (h : Server.Projection f) (st : Statement) (server : σ) :
    Prod.map (Prod.map f id) id (st.parameterMetadata server) =
      st.parameterMetadata (f server) := by
  unfold parameterMetadata
  rw [← map_load h]
  split
  · rfl
  · split <;> rfl

end SqlStatement.Statement
