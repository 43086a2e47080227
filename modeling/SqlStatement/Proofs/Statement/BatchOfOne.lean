import SqlStatement.Proofs.Server.Offers
import SqlStatement.Proofs.Statement.Outcome
/-!
# Batches of one row

On a server that declines the offer, a batch of one row does what a single execution with the same
values does: it sends the same, fails with the same error, and reports the same count
(`Statement.executeLargeBatch_of_one`).
-/
namespace SqlStatement

/-- Two executions, each on a log of its own, record the same result or fail alike. -/
inductive AnsweredAlike {σ : Type} (log log' : Results)
    (run run' : Timed (σ × Results) (Except Failure Unit)) : Prop
  | recorded {o : Outcome} (hfailed : o ≠ .failed) (hok : run.result = .ok ())
      (hok' : run'.result = .ok ()) (hlog : log.Extends run.state.2 [o])
      (hlog' : log'.Extends run'.state.2 [o])
  | failed {f : Failure} (herror : run.result = .error f) (herror' : run'.result = .error f)
      (hlog : run.state.2 = log) (hlog' : run'.state.2 = log')

private theorem AnsweredAlike.answer_eq {σ : Type} {log log' : Results}
    {run run' : Timed (σ × Results) (Except Failure Unit)} (h : AnsweredAlike log log' run run') :
    (run'.result, run'.state.2.outcomes.drop log'.outcomes.length) =
      (run.result, run.state.2.outcomes.drop log.outcomes.length) := by
  cases h with
  | recorded _ hok hok' hlog hlog' => simp [hok, hok', hlog.1, hlog'.1]
  | failed herror herror' hlog hlog' => simp [herror, herror', hlog, hlog']

/-- An offer that is declined makes no difference: nothing is recorded for it, and executions are
answered afterwards as they would have been before, whatever log they come with. -/
structure Server.ForgetsDeclined {σ κ : Type} [Server σ κ] (Good : σ → Prop)
    (Alike : σ → σ → Prop) : Prop where
  declined : ∀ primary template rows longData server log, Good server →
    (Server.executeBatch primary template rows longData (server, log)).result = .ok false →
    ∃ offered, Alike server offered ∧
      (Server.executeBatch primary template rows longData (server, log)).state = (offered, log)
  answers : ∀ primary template row limit server server' log log', Good server →
    Alike server server' →
    AnsweredAlike log log' (Server.execute primary template row limit (server, log))
      (Server.execute primary template row limit (server', log'))

namespace ScriptedServer

def SameButOffers (a b : ScriptedServer) : Prop :=
  b = { a with record := { a.record with
    batchOffers := b.record.batchOffers
    longData := b.record.longData
    primary := b.record.primary } }

private theorem answerExecution_alike {a b : ScriptedServer} (h : SameButOffers a b) (sql : String)
    (log log' : Results) :
    (answerExecution sql (b, log')).2 = (answerExecution sql (a, log)).2 ∧
      ((∃ o, o ≠ .failed ∧ (answerExecution sql (a, log)).2 = .ok () ∧
          log.Extends (answerExecution sql (a, log)).1.2 [o] ∧
          log'.Extends (answerExecution sql (b, log')).1.2 [o]) ∨
        ∃ f, (answerExecution sql (a, log)).2 = .error f ∧
          (answerExecution sql (a, log)).1.2 = log ∧
          (answerExecution sql (b, log')).1.2 = log') := by
  have hfailure : b.failure? sql = a.failure? sql := by
    rw [h]
    rfl
  have hset : b.resultSet = a.resultSet := by rw [h]
  have hcount : b.updateCount = a.updateCount := by rw [h]
  have hid : b.nextInsertId = a.nextInsertId := by rw [h]
  unfold answerExecution
  dsimp only
  rw [hfailure, hset]
  cases a.failure? sql with
  | some f => exact ⟨rfl, .inr ⟨f, rfl, rfl, rfl⟩⟩
  | none =>
    cases a.resultSet with
    | some set => exact ⟨rfl, .inl ⟨.rows, by simp, rfl, ⟨rfl, rfl⟩, rfl, rfl⟩⟩
    | none =>
      refine ⟨rfl, .inl ⟨.update a.updateCount a.nextInsertId, by simp, rfl, ⟨rfl, rfl⟩, ?_⟩⟩
      rw [← hcount, ← hid]
      exact ⟨rfl, rfl⟩

/-- A script that records nothing of its own gives a server of this kind. -/
theorem forgetsDeclined : Server.ForgetsDeclined IsPlain SameButOffers where
  declined primary template rows longData server log hplain hdeclined := by
    have hanswer := (executeBatch_records hplain primary template rows longData log).1
    rw [hdeclined] at hanswer
    have hstate := state_executeBatch_of_declined hplain primary hanswer.symm longData log
    refine ⟨_, ?_, hstate⟩
    rfl
  answers primary template row limit server server' log log' hplain halike := by
    have hplain' : server'.beforeCalls = [] := by
      rw [halike]
      exact hplain.beforeCalls
    change AnsweredAlike log log' (execute primary template row limit (server, log))
      (execute primary template row limit (server', log'))
    have hnoted (sql : String) :
        SameButOffers (server.noteExecution primary sql row limit)
          (server'.noteExecution primary sql row limit) := by
      rw [halike]
      rfl
    obtain ⟨hsame, hanswer⟩ := answerExecution_alike (hnoted _)
      ((template.render row).toOption.getD template.sql) log log'
    unfold execute
    dsimp only
    rw [hplain.beforeCalls, hplain']
    obtain ⟨o, ho, hok, hlog, hlog'⟩ | ⟨f, herror, hlog, hlog'⟩ := hanswer
    · refine .recorded ho ?_ ?_ ?_ ?_
      · rw [result_sleep]
        exact hok
      · rw [result_sleep]
        exact hsame.trans hok
      · rw [state_sleep]
        exact hlog
      · rw [state_sleep]
        exact hlog'
    · refine .failed (f := f) ?_ ?_ ?_ ?_
      · rw [result_sleep]
        exact herror
      · rw [result_sleep]
        exact hsame.trans herror
      · rw [state_sleep]
        exact hlog
      · rw [state_sleep]
        exact hlog'

end ScriptedServer

namespace Statement

def boundRow (st : Statement) : Row :=
  st.slots.filterMap id

def queuedOnce (st : Statement) : Statement :=
  { st with queue := [st.boundRow] }

private theorem row_of_bound {st : Statement} (h : ∀ slot ∈ st.slots, slot.isSome = true) :
    st.row = .ok st.boundRow := by
  have hset : st.slots.findIdx? Option.isNone = none := by
    rw [List.findIdx?_eq_none_iff]
    intro slot hslot
    simpa using h slot hslot
  unfold row
  rw [hset]
  rfl

private theorem edit?_addBatch_of_bound {st : Statement} (hopen : st.closed = false)
    (hbound : ∀ slot ∈ st.slots, slot.isSome = true) (hqueue : st.queue = []) :
    st.edit? .addBatch = .ok st.queuedOnce := by
  change st.addBatch = _
  unfold addBatch
  rw [guardOpen_of_open hopen, row_of_bound hbound, hqueue]
  rfl

section Runs

variable {σ κ : Type} [Server σ κ] {st : Statement} {row : Row}

private theorem executeLargeUpdate_of_unlimited (hopen : st.closed = false)
    (hrow : st.row = .ok row) (hlimit : st.options.timeout = none) (server : σ) :
    let run := Server.execute (Server.isPrimary server) st.template row none
      (server, st.freshLog false)
    (st.executeLargeUpdate server).state = (run.state.1, st.ended run.state.2) ∧
      (st.executeLargeUpdate server).result =
        (run.result.mapError fun f => st.failure f (some row)).map fun _ =>
          if run.state.2.firstIsRows then 0 else run.state.2.updateCount.getD 0 := by
  have hexecute : st.execute server = st.executeRow row server := by
    unfold execute
    rw [guardOpen_of_open hopen, hrow]
    rfl
  have hlimits : st.limits server = (none, none) := by
    unfold limits
    rw [hlimit]
    split <;> rfl
  unfold executeLargeUpdate
  rw [hexecute]
  unfold executeRow
  rw [hlimits]
  simp only [limited, Timed.map, Timed.state_conclude, Timed.result_conclude]
  refine ⟨rfl, ?_⟩
  change Except.map _ (Except.map _ (Except.mapError _
    (Server.execute (Server.isPrimary server) st.template row none
      (server, st.freshLog false)).result)) = _
  cases (Server.execute (Server.isPrimary server) st.template row none
    (server, st.freshLog false)).result <;> rfl

private theorem executeQueue_of_one (hqueue : st.queue = [row]) (hlimit : st.options.timeout = none)
    {s : σ × Results}
    (hdeclined : (Server.executeBatch (Server.isPrimary s.1) st.template [row] st.longData
      s).result = .ok false) :
    let run := Server.execute (Server.isPrimary s.1) st.template row none
      (Server.executeBatch (Server.isPrimary s.1) st.template [row] st.longData s).state
    (st.executeQueue s).state =
        (run.state.1, if run.result.isOk then run.state.2 else run.state.2.addFailure) ∧
      (st.executeQueue s).result =
        (run.result.mapError fun f => st.failure f (some row)).map fun _ => .sequential := by
  unfold executeQueue
  rw [hqueue]
  dsimp only
  rw [Timed.state_andThen, Timed.result_andThen, hdeclined]
  dsimp only
  unfold executeRows
  simp only [hlimit, Option.isSome_none, Bool.false_eq_true, if_false, Timed.state_andThen,
    Timed.result_andThen]
  cases (Server.execute (Server.isPrimary s.1) st.template row none
    (Server.executeBatch (Server.isPrimary s.1) st.template [row] st.longData s).state).result with
  | ok u => exact ⟨rfl, rfl⟩
  | error f =>
    dsimp only
    split <;> exact ⟨rfl, rfl⟩

/-- What a batch of the bound values and a single execution have in common. -/
structure BatchIsSingle (st : Statement) (server : σ) : Prop where
  /-- The same call, without a limit for the server; the batch makes its offer before. -/
  calls : ∃ answer,
    (st.executeLargeUpdate (Traced.mk server [])).state.1.calls =
      [.execute (Server.isPrimary server) st.template st.boundRow none answer] ∧
    (st.queuedOnce.executeLargeBatch (Traced.mk server [])).state.1.calls =
      [.offer (Server.isPrimary server) st.template [st.boundRow] st.longData (some (.ok false)),
        .execute (Server.isPrimary server) st.template st.boundRow none answer]
  error_iff : ∀ e, (st.queuedOnce.executeLargeBatch server).result = .error e ↔
    (st.executeLargeUpdate server).result = .error e
  counts : ∀ n, (st.executeLargeUpdate server).result = .ok n →
    ∃ log, (st.executeLargeUpdate server).state.2.results = some log ∧
      ((st.queuedOnce.executeLargeBatch server).result = .ok [n] ∧ log.firstIsRows = false ∨
        (st.queuedOnce.executeLargeBatch server).result = .ok [Outcome.successNoInfo] ∧
          log.firstIsRows = true ∧ n = 0)

/-- The counts of the batch and of the single execution, by what was recorded for them. -/
theorem counts_of_recorded {o : Outcome} {single batch : Results} (ho : o ≠ .failed)
    (hsingle : single.outcomes = [o]) (hbatch : batch.outcomes = [o])
    (hjoined : batch.joined = false) :
    batch.finish.counts = [if single.firstIsRows then 0 else single.updateCount.getD 0] ∧
        single.firstIsRows = false ∨
      batch.finish.counts = [Outcome.successNoInfo] ∧ single.firstIsRows = true := by
  have hcounts : batch.finish.counts = [o.count] := by
    simp [Results.counts, Results.finish, hbatch, hjoined]
  rw [hcounts, Results.firstIsRows, Results.updateCount, hsingle]
  cases o with
  | update count insertId => exact .inl ⟨rfl, rfl⟩
  | rows => exact .inr ⟨rfl, rfl⟩
  | failed => exact absurd rfl ho

end Runs

variable {σ κ : Type} [Server σ κ] {Good : σ → Prop} {Alike : σ → σ → Prop}

private theorem queueRun_queuedOnce {st : Statement} (hlimit : st.options.timeout = none)
    {server offered : σ}
    (hdeclined : (Server.executeBatch (Server.isPrimary server) st.template [st.boundRow]
      st.longData (server, st.queuedOnce.batchLog)).result = .ok false)
    (hoffered : (Server.executeBatch (Server.isPrimary server) st.template [st.boundRow]
      st.longData (server, st.queuedOnce.batchLog)).state = (offered, st.queuedOnce.batchLog)) :
    let run := Server.execute (Server.isPrimary server) st.template st.boundRow none
      (offered, st.queuedOnce.batchLog)
    (st.queuedOnce.queueRun server).state =
        (run.state.1, if run.result.isOk then run.state.2 else run.state.2.addFailure) ∧
      (st.queuedOnce.queueRun server).result =
        (run.result.mapError fun f => st.failure f (some st.boundRow)).map
          fun _ => .sequential := by
  have hrun : st.queuedOnce.queueRun server =
      ({ st.queuedOnce with path := none } : Statement).executeQueue
        (server, st.queuedOnce.batchLog) := by
    unfold queueRun
    change limited st.options.timeout _ = _
    rw [hlimit]
    rfl
  have hone : ({ st.queuedOnce with path := none } : Statement).queue = [st.boundRow] := rfl
  rw [hrun, ← hoffered]
  exact executeQueue_of_one hone hlimit hdeclined

section Answered

variable {st : Statement} {server offered : σ} (hopen : st.closed = false)
  (hrow : st.row = .ok st.boundRow) (hlimit : st.options.timeout = none)
  (hdeclined : (Server.executeBatch (Server.isPrimary server) st.template [st.boundRow]
    st.longData (server, st.queuedOnce.batchLog)).result = .ok false)
  (hoffered : (Server.executeBatch (Server.isPrimary server) st.template [st.boundRow]
    st.longData (server, st.queuedOnce.batchLog)).state = (offered, st.queuedOnce.batchLog))
  (hanswer : AnsweredAlike (st.freshLog false) st.queuedOnce.batchLog
    (Server.execute (Server.isPrimary server) st.template st.boundRow none
      (server, st.freshLog false))
    (Server.execute (Server.isPrimary server) st.template st.boundRow none
      (offered, st.queuedOnce.batchLog)))
include hopen hrow hlimit hdeclined hoffered hanswer

private theorem calls_of_one :
    ∃ answer,
      (st.executeLargeUpdate (Traced.mk server [])).state.1.calls =
        [.execute (Server.isPrimary server) st.template st.boundRow none answer] ∧
      (st.queuedOnce.executeLargeBatch (Traced.mk server [])).state.1.calls =
        [.offer (Server.isPrimary server) st.template [st.boundRow] st.longData (some (.ok false)),
          .execute (Server.isPrimary server) st.template st.boundRow none answer] := by
  have hsingle :=
    (executeLargeUpdate_of_unlimited hopen hrow hlimit (Traced.mk server [])).1
  have hopen' : st.queuedOnce.closed = false := hopen
  have hqueued : st.queuedOnce.queue ≠ [] := List.cons_ne_nil _ _
  have hbatch := (executeBatchWith_ended hopen' hqueued Results.counts (Traced.mk server [])).1
  have htracedOffer : (Server.executeBatch (Server.isPrimary (Traced.mk server [])) st.template
      [st.boundRow] st.longData (Traced.mk server [], st.queuedOnce.batchLog)).state =
      (⟨offered, [.offer (Server.isPrimary server) st.template [st.boundRow] st.longData
        (some (.ok false))]⟩, st.queuedOnce.batchLog) := by
    rw [Traced.state_executeBatch, Traced.isPrimary_eq]
    dsimp only
    rw [hdeclined, hoffered]
    rfl
  have hqueue := (queueRun_queuedOnce hlimit
    ((Traced.result_executeBatch _ _ _ _ _ _).trans hdeclined) htracedOffer).1
  rw [Traced.isPrimary_eq, Traced.state_execute] at hsingle hqueue
  let single := Server.execute (Server.isPrimary server) st.template st.boundRow none
    (server, st.freshLog false)
  refine ⟨some (single.result, single.state.2.outcomes.drop (st.freshLog false).outcomes.length),
    ?_, ?_⟩
  · rw [hsingle]
    rfl
  · rw [executeLargeBatch, hbatch, state_runQueue, hqueue]
    dsimp only
    rw [hanswer.answer_eq]
    rfl

private theorem results_of_one :
    (∀ e, (st.queuedOnce.executeLargeBatch server).result = .error e ↔
        (st.executeLargeUpdate server).result = .error e) ∧
      ∀ n, (st.executeLargeUpdate server).result = .ok n →
        ∃ log, (st.executeLargeUpdate server).state.2.results = some log ∧
          ((st.queuedOnce.executeLargeBatch server).result = .ok [n] ∧ log.firstIsRows = false ∨
            (st.queuedOnce.executeLargeBatch server).result = .ok [Outcome.successNoInfo] ∧
              log.firstIsRows = true ∧ n = 0) := by
  obtain ⟨hstate, hresult⟩ := executeLargeUpdate_of_unlimited hopen hrow hlimit server
  have hopen' : st.queuedOnce.closed = false := hopen
  have hqueued : st.queuedOnce.queue ≠ [] := List.cons_ne_nil _ _
  obtain ⟨-, hbatch⟩ := executeBatchWith_ended hopen' hqueued Results.counts server
  obtain ⟨hqueueState, hqueueResult⟩ := queueRun_queuedOnce hlimit hdeclined hoffered
  rw [hqueueResult, hqueueState] at hbatch
  cases hanswer with
  | @recorded o ho hok hok' hlog hlog' =>
    rw [hok] at hresult
    rw [hok'] at hbatch
    change (st.queuedOnce.executeLargeBatch server).result = .ok _ at hbatch
    change _ = Except.ok _ at hresult
    refine ⟨fun e => ?_, fun n hn => ?_⟩
    · rw [hbatch, hresult]
      exact ⟨nofun, nofun⟩
    · rw [hresult] at hn
      cases hn
      rw [hbatch, hstate]
      refine ⟨_, rfl, ?_⟩
      obtain ⟨hcounts, hrows⟩ | ⟨hcounts, hrows⟩ :=
        counts_of_recorded ho hlog.1 hlog'.1 hlog'.2
      · exact .inl ⟨congrArg Except.ok hcounts, hrows⟩
      · exact .inr ⟨congrArg Except.ok hcounts, hrows, if_pos hrows⟩
  | @failed f herror herror' hlog hlog' =>
    rw [herror] at hresult
    rw [herror'] at hbatch
    change (st.queuedOnce.executeLargeBatch server).result =
      .error (st.failure f (some st.boundRow)) at hbatch
    change _ = Except.error (st.failure f (some st.boundRow)) at hresult
    refine ⟨fun e => ?_, fun n hn => ?_⟩
    · rw [hbatch, hresult, Except.error.injEq, Except.error.injEq]
    · rw [hresult] at hn
      cases hn

end Answered

/-- A statement with all its slots set and nothing queued can queue its values.  If the server
declines the offer of this row, and declined offers make no difference to it, the batch does what
a single execution does. -/
theorem executeLargeBatch_of_one (hserver : Server.ForgetsDeclined Good Alike) (st : Statement)
    (server : σ) (hgood : Good server) (hopen : st.closed = false)
    (hbound : ∀ slot ∈ st.slots, slot.isSome = true) (hqueue : st.queue = [])
    (hlimit : st.options.timeout = none)
    (hdeclined : (Server.executeBatch (Server.isPrimary server) st.template [st.boundRow]
      st.longData (server, st.queuedOnce.batchLog)).result = .ok false) :
    st.edit? .addBatch = .ok st.queuedOnce ∧
      (st.executeLargeUpdate (Traced.mk server [])).project (Prod.map Traced.server id) =
        st.executeLargeUpdate server ∧
      (st.queuedOnce.executeLargeBatch (Traced.mk server [])).project
        (Prod.map Traced.server id) = st.queuedOnce.executeLargeBatch server ∧
      st.BatchIsSingle server := by
  have hrow := row_of_bound hbound
  refine ⟨edit?_addBatch_of_bound hopen hbound hqueue,
    project_executeLargeUpdate Traced.projection st (Traced.mk server []),
    project_executeBatchWith Traced.projection _ Results.counts (Traced.mk server []), ?_⟩
  obtain ⟨offered, halike, hoffered⟩ := hserver.declined _ _ _ _ server _ hgood hdeclined
  have hanswer := hserver.answers (Server.isPrimary server) st.template st.boundRow none server
    offered (st.freshLog false) st.queuedOnce.batchLog hgood halike
  have hcalls := calls_of_one hopen hrow hlimit hdeclined hoffered hanswer
  obtain ⟨herror, hcounts⟩ := results_of_one hopen hrow hlimit hdeclined hoffered hanswer
  exact ⟨hcalls, herror, hcounts⟩

def returning : Statement :=
  { Statement.new 0 ⟨1, true, 1024, true⟩
      (.compile "insert into t values (?) returning a" .backslash false) {} with
    slots := [some (.int 7)] }

def returnsRows : ScriptedServer :=
  { resultSet := some .empty }

theorem executeLargeBatch_of_one_returning :
    returning.edit? .addBatch = .ok returning.queuedOnce ∧ returning.BatchIsSingle returnsRows ∧
      (returning.executeLargeUpdate returnsRows).result = .ok 0 ∧
      (returning.queuedOnce.executeLargeBatch returnsRows).result =
        .ok [Outcome.successNoInfo] := by
  have hbound : ∀ slot ∈ returning.slots, slot.isSome = true := by decide
  have hdeclined : (Server.executeBatch true returning.template [returning.boundRow]
      returning.longData (returnsRows, returning.queuedOnce.batchLog)).result = .ok false := rfl
  obtain ⟨hqueued, -, -, hsingle⟩ := executeLargeBatch_of_one ScriptedServer.forgetsDeclined
    returning returnsRows ⟨rfl, rfl⟩ rfl hbound rfl rfl hdeclined
  have hzero : (returning.executeLargeUpdate returnsRows).result = .ok 0 := rfl
  obtain ⟨log, hlog, ⟨-, hcount⟩ | ⟨hrows, -, -⟩⟩ := hsingle.counts 0 hzero
  · cases hlog
    cases hcount
  · exact ⟨hqueued, hsingle, hzero, hrows⟩

end Statement
end SqlStatement
