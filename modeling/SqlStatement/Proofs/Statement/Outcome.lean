import SqlStatement.Proofs.Statement.Frame
import SqlStatement.Proofs.Statement.SequentialBatch
/-!
# What executions leave

An execution that is refused changes nothing.  One that starts takes the results away at once and
leaves the closed log of its own run at the end; wherever it is cut in between, the statement has
no results.  The path is that of the last batch that started, and there is none unless the batch
succeeded.
-/
namespace SqlStatement

namespace Statement

def freshLog (st : Statement) (batch : Bool) : Results :=
  if batch then st.batchLog
  else
    { fetchSize := st.options.fetchSize, isBatch := false, scrolling := st.options.scrolling
      expected := 1 }

variable {σ κ : Type} [Server σ κ] {st : Statement} {batch : Bool} {server : σ} {α β : Type}

/-- A server and a statement while an execution goes on. -/
structure Underway (st : Statement) (batch : Bool) (server : σ) (s : σ × Statement) : Prop where
  statement : s.2 = { st with results := none, path := if batch then none else st.path }
  requests : ∃ log, Server.Leads st.requests (server, st.freshLog batch) (s.1, log)

/-- A server and a statement after an execution that ran to its end; `ok` says whether it
succeeded. -/
inductive Ended (st : Statement) (batch : Bool) (server : σ) (s : σ × Statement) (ok : Bool) : Prop
  | single {log : Results} (hbatch : batch = false)
      (hlog : Server.Leads st.requests (server, st.freshLog batch) (s.1, log))
      (hst : s.2 = { st with results := some log.finish })
  | batch {log : Results} {path : Option BatchPath} (hbatch : batch = true)
      (hlog : Server.Leads st.requests (server, st.freshLog batch) (s.1, log))
      (hst : s.2 = { st with results := some log.finish, path })
      (hpath : path.isSome = ok)

theorem Ended.exists_log {s : σ × Statement} {ok : Bool} (h : st.Ended batch server s ok) :
    ∃ log, s.2.results = some log.finish ∧
      Server.Leads st.requests (server, st.freshLog batch) (s.1, log) := by
  cases h with
  | @single log _ hlog hst => exact ⟨log, by rw [hst], hlog⟩
  | @batch log _ _ hlog hst _ => exact ⟨log, by rw [hst], hlog⟩

/-- A run is refused, or it starts and goes as executions go. -/
inductive Executes (st : Statement) (batch : Bool) (server : σ) :
    Timed (σ × Statement) (Except StatementError α) → Prop
  | refused {r : Except StatementError α} (hstarts : st.starts batch = false) :
      Executes st batch server (.done (server, st) r)
  | started {run : Timed (σ × Statement) (Except StatementError α)}
      (hstarts : st.starts batch = true)
      (hrun : run.Course (st.Underway batch server) fun s r => st.Ended batch server s r.isOk) :
      Executes st batch server run

private theorem isOk_map (f : α → β) (r : Except StatementError α) : (r.map f).isOk = r.isOk := by
  cases r <;> rfl

theorem Executes.conclude {run : Timed (σ × Statement) (Except StatementError α)}
    (h : st.Executes batch server run) (f : σ × Statement → α → β) :
    st.Executes batch server (run.conclude id fun s r => (s, r.map (f s))) := by
  cases h with
  | refused hstarts => exact .refused hstarts
  | started hstarts hrun =>
    refine .started hstarts (hrun.conclude (fun _ hs => hs) ?_)
    intro s r hs
    rw [isOk_map]
    exact hs

theorem executes_execute (st : Statement) (server : σ) :
    st.Executes false server (st.execute server) := by
  unfold execute
  split
  · next e hrefused =>
    refine .refused ?_
    rcases guardOpen_bind_eq_error hrefused with ⟨hclosed, -⟩ | ⟨-, hrow⟩
    · simp [starts, hclosed]
    · simp [starts, hrow, Except.isOk, Except.toBool]
  · next row hok =>
    obtain ⟨hopen, hrow⟩ := guardOpen_bind_eq_ok hok
    refine .started (by simp [starts, hopen, hrow, Except.isOk, Except.toBool]) ?_
    have hsingle : st.requests.single row := .inl hrow
    have hleads (limit : Option Duration) :
        (Server.execute (Server.isPrimary server) st.template row limit
          (server, st.freshLog false)).Shows
            (Server.Leads st.requests (server, st.freshLog false)) :=
      Server.Leads.start.shows_execute _ hsingle limit
    unfold executeRow
    dsimp only
    refine (Timed.shows_iff_course.1 (shows_limited (hleads _).map _)).conclude ?_ ?_
    · exact fun s hs => ⟨rfl, s.2, hs⟩
    · exact fun s _ hs => .single rfl hs rfl

theorem executes_executeBatchWith (st : Statement) (counts : Results → List Int) (server : σ) :
    st.Executes true server (st.executeBatchWith counts server) := by
  unfold executeBatchWith
  split
  · next e hrefused =>
    refine .refused ?_
    cases hclosed : st.closed with
    | true => simp [starts, hclosed]
    | false =>
      rw [guardOpen_of_open hclosed] at hrefused
      cases hrefused
  · next hok =>
    have hopen := guardOpen_eq_ok hok
    split
    · next hqueue => exact .refused (by simp [starts, hqueue])
    · next hqueue =>
      have hstarts : st.starts true = true := by simpa [starts, hopen] using hqueue
      have hrun : st.Executes true server (st.runQueue server) := by
        refine .started hstarts ?_
        have hleads := leads_executeQueue { st with path := none } (server, st.freshLog true)
        unfold runQueue
        dsimp only
        refine (Timed.shows_iff_course.1 (shows_limited hleads _)).conclude ?_ ?_
        · exact fun s hs => ⟨rfl, s.2, hs⟩
        · intro s r hs
          refine .batch rfl hs rfl ?_
          cases r <;> rfl
      exact hrun.conclude fun s _ => (s.2.results.map counts).getD []

end Statement
end SqlStatement
