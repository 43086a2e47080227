import SqlStatement.Proofs.Server.OneByOne
import SqlStatement.Proofs.Statement.Projection
/-!
# Batches row by row

When the server declines a batch, the rows of the queue are sent one by one.  `SentRows` says
which rows are sent for which answers; the history of the server, the log and the result of the
batch all follow from it.
-/
namespace SqlStatement

/-- A row that was sent, with what was recorded for it or the failure that it met. -/
structure Issued where
  row : Row
  answer : Except Failure Outcome

namespace Issued

def failed (d : Issued) : Bool :=
  match d.answer with
  | .ok _ => false
  | .error _ => true

def outcome (d : Issued) : Outcome :=
  match d.answer with
  | .ok o => o
  | .error _ => .failed

def error? (st : Statement) (d : Issued) : Option StatementError :=
  match d.answer with
  | .ok _ => none
  | .error f => some (st.failure f (some d.row))

def call (primary : Bool) (template : Template) (d : Issued) : Call :=
  .execute primary template d.row none
    (match d.answer with
    | .ok o => some (.ok (), [o])
    | .error f => some (.error f, []))

def calls (primary : Bool) (st : Statement) (d : Issued) : List Call :=
  (if st.options.timeout.isSome then [.poll (.ok ())] else []) ++ [d.call primary st.template]

end Issued

/-- The rows of a queue that are sent one by one, and the failure of the poll that stops this, if
one does. -/
inductive SentRows (o : Options) : List Row → List Issued → Option Failure → Prop
  | finished : SentRows o [] [] none
  | interrupted {row : Row} {rows : List Row} {f : Failure}
      (hlimit : o.timeout.isSome = true) : SentRows o (row :: rows) [] (some f)
  | succeeded {row : Row} {rows : List Row} {result : Outcome} {done : List Issued}
      {stop : Option Failure} (hresult : result ≠ .failed) (hrest : SentRows o rows done stop) :
      SentRows o (row :: rows) (⟨row, .ok result⟩ :: done) stop
  | failedOn {row : Row} {rows : List Row} {f : Failure} {done : List Issued}
      {stop : Option Failure} (hon : o.continueBatch = true)
      (hrest : SentRows o rows done stop) :
      SentRows o (row :: rows) (⟨row, .error f⟩ :: done) stop
  | failedLast {row : Row} {rows : List Row} {f : Failure}
      (hoff : o.continueBatch = false) : SentRows o (row :: rows) [⟨row, .error f⟩] none

namespace SentRows

variable {o : Options} {rows : List Row} {done : List Issued} {stop : Option Failure}

theorem in_order (h : SentRows o rows done stop) :
    done.length ≤ rows.length ∧ done.map Issued.row = rows.take done.length := by
  induction h with
  | finished => exact ⟨Nat.le_refl _, rfl⟩
  | interrupted => exact ⟨Nat.zero_le _, rfl⟩
  | succeeded _ _ ih => exact ⟨Nat.succ_le_succ ih.1, congrArg (List.cons _) ih.2⟩
  | failedOn _ _ ih => exact ⟨Nat.succ_le_succ ih.1, congrArg (List.cons _) ih.2⟩
  | failedLast => exact ⟨Nat.succ_le_succ (Nat.zero_le _), rfl⟩

private theorem outcome_eq_failed_iff (h : SentRows o rows done stop) :
    ∀ d ∈ done, d.outcome = .failed ↔ d.failed = true := by
  induction h with
  | finished => simp
  | interrupted => simp
  | succeeded hresult _ ih =>
    exact List.forall_mem_cons.2 ⟨by simp [Issued.outcome, Issued.failed, hresult], ih⟩
  | failedOn _ _ ih => exact List.forall_mem_cons.2 ⟨by simp [Issued.outcome, Issued.failed], ih⟩
  | failedLast => simp [Issued.outcome, Issued.failed]

theorem polled (h : SentRows o rows done stop) (hstop : stop ≠ none) :
    o.timeout.isSome = true ∧ done.length < rows.length := by
  induction h with
  | finished => exact absurd rfl hstop
  | interrupted hlimit => exact ⟨hlimit, Nat.succ_pos _⟩
  | succeeded _ _ ih => exact ⟨(ih hstop).1, Nat.succ_lt_succ (ih hstop).2⟩
  | failedOn _ _ ih => exact ⟨(ih hstop).1, Nat.succ_lt_succ (ih hstop).2⟩
  | failedLast => exact absurd rfl hstop

private theorem all_of_continue (h : SentRows o rows done stop) (hon : o.continueBatch = true)
    (hstop : stop = none) : done.length = rows.length := by
  induction h with
  | finished => rfl
  | interrupted => cases hstop
  | succeeded _ _ ih => exact congrArg Nat.succ (ih hstop)
  | failedOn _ _ ih => exact congrArg Nat.succ (ih hstop)
  | failedLast hoff =>
    rw [hon] at hoff
    cases hoff

/-- Without going on after failures, only the last row sent can have failed, and it has if rows
are left that no failed poll stopped. -/
theorem until_failure (h : SentRows o rows done stop) (hoff : o.continueBatch = false) :
    (∀ d ∈ done.dropLast, d.failed = false) ∧
      (stop = none → done.length < rows.length → done.getLast?.any Issued.failed = true) ∧
      (stop ≠ none → ∀ d ∈ done, d.failed = false) := by
  induction h with
  | finished => simp
  | interrupted => simp
  | @succeeded row rows result done stop hresult hrest ih =>
    obtain ⟨hinit, hlast, hstopped⟩ := ih
    refine ⟨?_, ?_, ?_⟩
    · cases done with
      | nil => simp
      | cons d done =>
        rw [List.dropLast_cons_cons]
        exact List.forall_mem_cons.2 ⟨rfl, hinit⟩
    · intro hstop hlength
      have hrest := hlast hstop (Nat.lt_of_succ_lt_succ hlength)
      cases done with
      | nil => cases hrest
      | cons d done => rwa [List.getLast?_cons_cons]
    · intro hstop
      exact List.forall_mem_cons.2 ⟨rfl, hstopped hstop⟩
  | failedOn hon =>
    rw [hoff] at hon
    cases hon
  | failedLast => simp [Issued.failed]

end SentRows

namespace Statement

variable {σ κ : Type} [Server σ κ] {Good : σ → Prop}

private theorem execute_issues (hserver : Server.AnswersRows Good) (primary : Bool)
    (template : Template) (row : Row) (t : Traced σ) (log : Results) (hgood : Good t.server) :
    ∃ d : Issued, d.row = row ∧
      Good (Server.execute primary template row none (t, log)).state.1.server ∧
      (Server.execute primary template row none (t, log)).state.1.calls =
        t.calls ++ [d.call primary template] ∧
      ((∃ o, d.answer = .ok o ∧ o ≠ .failed ∧
          (Server.execute primary template row none (t, log)).result = .ok () ∧
          log.Extends (Server.execute primary template row none (t, log)).state.2 [o]) ∨
        ∃ f, d.answer = .error f ∧
          (Server.execute primary template row none (t, log)).result = .error f ∧
          (Server.execute primary template row none (t, log)).state.2 = log) := by
  obtain ⟨hkept, hanswer⟩ := hserver.answers primary template row none t.server log hgood
  rw [Traced.state_execute, Traced.result_execute]
  dsimp only
  generalize Server.execute primary template row none (t.server, log) = run at hkept hanswer ⊢
  obtain ⟨hok, hone⟩ | ⟨⟨f, hfailed⟩, hlog⟩ := hanswer
  · obtain ⟨o, ho, hextends⟩ := hone.extends
    refine ⟨⟨row, .ok o⟩, rfl, hkept, ?_, .inl ⟨o, rfl, ho, hok, hextends⟩⟩
    simp only [Traced.note, hok, hextends.1, List.drop_left, Issued.call]
  · refine ⟨⟨row, .error f⟩, rfl, hkept, ?_, .inr ⟨f, rfl, hfailed, hlog⟩⟩
    simp only [Traced.note, hfailed, hlog, List.drop_length, Issued.call]

def stopCalls (stop : Option Failure) : List Call :=
  (stop.map fun f => Call.poll (.error f)).toList

/-- The result of a loop over a queue: the failure of a poll, else the first failure of a row. -/
def verdict (st : Statement) (first : Option StatementError) (done : List Issued)
    (stop : Option Failure) : Except StatementError BatchPath :=
  match stop with
  | some f => .error (st.failure f none)
  | none =>
    match first <|> done.findSome? (Issued.error? st) with
    | some e => .error e
    | none => .ok .sequential

private theorem calls_cons {first second tail : List Call} {primary : Bool} {st : Statement}
    {d : Issued} {done : List Issued} (h : second = first ++ d.calls primary st) :
    second ++ (done.flatMap (Issued.calls primary st) ++ tail) =
      first ++ ((d :: done).flatMap (Issued.calls primary st) ++ tail) := by
  rw [h, List.flatMap_cons, List.append_assoc, List.append_assoc]

private theorem verdict_cons_ok (st : Statement) (first : Option StatementError) (row : Row)
    (o : Outcome) (done : List Issued) (stop : Option Failure) :
    st.verdict first (⟨row, .ok o⟩ :: done) stop = st.verdict first done stop := by
  cases stop <;> rfl

private theorem verdict_cons_error (st : Statement) (first : Option StatementError) (row : Row)
    (f : Failure) (done : List Issued) (stop : Option Failure) :
    st.verdict first (⟨row, .error f⟩ :: done) stop =
      st.verdict (first <|> some (st.failure f (some row))) done stop := by
  cases stop with
  | some f => rfl
  | none => cases first <;> rfl

inductive RowStep (Good : σ → Prop) (st : Statement) (primary : Bool) (row : Row)
    (rows : List Row) (first : Option StatementError) (t : Traced σ) (log : Results)
    (run : Timed (Traced σ × Results) (Except StatementError BatchPath)) : Prop
  | interrupted {f : Failure} (hlimit : st.options.timeout.isSome = true)
      (hcalls : run.state.1.calls = t.calls ++ stopCalls (some f)) (hlog : run.state.2 = log)
      (hresult : run.result = .error (st.failure f none))
  | succeeded {o : Outcome} {t' : Traced σ} {log' : Results} (ho : o ≠ .failed)
      (hgood : Good t'.server) (hcalls : t'.calls = t.calls ++ Issued.calls primary st ⟨row, .ok o⟩)
      (hlog : log.Extends log' [o])
      (hstate : run.state = (st.executeRows primary rows first (t', log')).state)
      (hresult : run.result = (st.executeRows primary rows first (t', log')).result)
  | failedOn {f : Failure} {t' : Traced σ} {next : Option StatementError}
      (hon : st.options.continueBatch = true) (hgood : Good t'.server)
      (hcalls : t'.calls = t.calls ++ Issued.calls primary st ⟨row, .error f⟩)
      (hnext : next = (first <|> some (st.failure f (some row))))
      (hstate : run.state = (st.executeRows primary rows next (t', log.addFailure)).state)
      (hresult : run.result = (st.executeRows primary rows next (t', log.addFailure)).result)
  | failedLast {f : Failure} (hoff : st.options.continueBatch = false)
      (hcalls : run.state.1.calls = t.calls ++ Issued.calls primary st ⟨row, .error f⟩)
      (hlog : run.state.2 = log.addFailure)
      (hresult : run.result = .error (st.failure f (some row)))

private theorem executeRows_step (hserver : Server.AnswersRows Good) (st : Statement)
    (primary : Bool) (row : Row) (rows : List Row) (first : Option StatementError)
    (t : Traced σ) (log : Results) (hgood : Good t.server) :
    RowStep Good st primary row rows first t log
      (st.executeRows primary (row :: rows) first (t, log)) := by
  unfold executeRows
  obtain ⟨t', f, hpolled, hlimit, hcalls⟩ | ⟨t', hpolled, hgood', hcalls⟩ :=
    Traced.polled_cases hserver.polls st.options.timeout t hgood
  · rw [hpolled]
    exact .interrupted hlimit hcalls rfl rfl
  · rw [hpolled]
    dsimp only
    obtain ⟨⟨row, answer⟩, rfl, hkept, hcall, hanswer⟩ :=
      execute_issues hserver primary st.template row t' log hgood'
    rw [hcalls, List.append_assoc] at hcall
    dsimp only at hkept hcall hanswer
    generalize Server.execute primary st.template row none (t', log) = run
      at hkept hcall hanswer ⊢
    obtain ⟨o, rfl, ho, hok, hextends⟩ | ⟨f, rfl, hfailed, hlog⟩ := hanswer
    · refine .succeeded ho hkept hcall hextends ?_ ?_
      · rw [Timed.state_andThen, hok]
      · rw [Timed.result_andThen, hok]
    · cases hcontinue : st.options.continueBatch with
      | true =>
        refine .failedOn hcontinue hkept hcall rfl ?_ ?_
        · rw [Timed.state_andThen, hfailed, ← hlog]
          simp only [if_true]
        · rw [Timed.result_andThen, hfailed, ← hlog]
          simp only [if_true]
      | false =>
        refine .failedLast (f := f) hcontinue ?_ ?_ ?_
        · rw [Timed.state_andThen, hfailed]
          exact hcall
        · rw [Timed.state_andThen, hfailed, ← hlog]
          rfl
        · rw [Timed.result_andThen, hfailed]
          rfl

/-- The loop sends rows as `SentRows` says, and leaves calls, log and result accordingly. -/
theorem executeRows_sent (hserver : Server.AnswersRows Good) (st : Statement)
    (primary : Bool) (rows : List Row) (first : Option StatementError) (t : Traced σ)
    (log : Results) (hgood : Good t.server)
    (hfirst : st.options.continueBatch = false → first = none) :
    ∃ done stop, SentRows st.options rows done stop ∧
      (st.executeRows primary rows first (t, log)).state.1.calls =
        t.calls ++ (done.flatMap (Issued.calls primary st) ++ stopCalls stop) ∧
      log.Extends (st.executeRows primary rows first (t, log)).state.2
        (done.map Issued.outcome) ∧
      (st.executeRows primary rows first (t, log)).result = st.verdict first done stop := by
  induction rows generalizing first t log with
  | nil =>
    refine ⟨[], none, .finished, ?_⟩
    cases first with
    | none => exact ⟨(List.append_nil _).symm, .refl log, rfl⟩
    | some e => exact ⟨(List.append_nil _).symm, .refl log, rfl⟩
  | cons row rows ih =>
    have hstep := executeRows_step hserver st primary row rows first t log hgood
    generalize st.executeRows primary (row :: rows) first (t, log) = run at hstep ⊢
    cases hstep with
    | @interrupted f hlimit hcalls hlog hresult =>
      refine ⟨[], some f, .interrupted hlimit, hcalls, ?_, hresult⟩
      rw [hlog]
      exact .refl log
    | @succeeded o t' log' ho hgood' hcalls hlog hstate hresult =>
      obtain ⟨done, stop, hsent, hrest, hlogs, hverdict⟩ := ih first t' log' hgood' hfirst
      refine ⟨⟨row, .ok o⟩ :: done, stop, .succeeded ho hsent, ?_, ?_, ?_⟩
      · rw [hstate]
        exact hrest.trans (calls_cons hcalls)
      · rw [hstate]
        exact hlog.trans hlogs
      · rw [hresult, hverdict, verdict_cons_ok]
    | @failedOn f t' next hon hgood' hcalls hnext hstate hresult =>
      have hnone : st.options.continueBatch = false → next = none := by
        intro hoff
        rw [hon] at hoff
        cases hoff
      obtain ⟨done, stop, hsent, hrest, hlogs, hverdict⟩ := ih next t' log.addFailure hgood' hnone
      refine ⟨⟨row, .error f⟩ :: done, stop, .failedOn hon hsent, ?_, ?_, ?_⟩
      · rw [hstate]
        exact hrest.trans (calls_cons hcalls)
      · rw [hstate]
        exact (Results.extends_addFailure log).trans hlogs
      · rw [hresult, hverdict, hnext, verdict_cons_error]
    | @failedLast f hoff hcalls hlog hresult =>
      obtain rfl := hfirst hoff
      refine ⟨[⟨row, .error f⟩], none, .failedLast hoff, ?_, ?_, hresult⟩
      · rw [hcalls]
        simp [stopCalls]
      · rw [hlog]
        exact Results.extends_addFailure log

private theorem executeQueue_sent (hserver : Server.AnswersOneByOne Good) (st : Statement)
    (t : Traced σ) (log : Results) (hgood : Good t.server) :
    ∃ done stop, SentRows st.options st.queue done stop ∧
      (st.executeQueue (t, log)).state.1.calls = t.calls ++
        .offer (Server.isPrimary t.server) st.template st.queue st.longData (some (.ok false)) ::
          (done.flatMap (Issued.calls (Server.isPrimary t.server) st) ++ stopCalls stop) ∧
      log.Extends (st.executeQueue (t, log)).state.2 (done.map Issued.outcome) ∧
      (st.executeQueue (t, log)).result = st.verdict none done stop := by
  obtain ⟨hkept, hlog, hdeclined⟩ := hserver.declines (Server.isPrimary t.server) st.template
    st.queue st.longData t.server log hgood
  unfold executeQueue
  dsimp only
  rw [Timed.state_andThen, Timed.result_andThen, Traced.state_executeBatch,
    Traced.result_executeBatch, Traced.isPrimary_eq]
  dsimp only
  rw [hdeclined, hlog]
  dsimp only
  obtain ⟨done, stop, hsent, hcalls, hextends, hresult⟩ :=
    executeRows_sent hserver.answersRows st (Server.isPrimary t.server) st.queue none
      (t.note _ (.offer (Server.isPrimary t.server) st.template st.queue st.longData
        (some (.ok false)))) log hkept fun _ => rfl
  refine ⟨done, stop, hsent, hcalls.trans ?_, hextends, hresult⟩
  rw [Traced.note, List.append_assoc]
  rfl

theorem eq_of_not_timedOut {τ α : Type} {limit : Option Duration}
    {run : Timed τ (Except StatementError α)}
    (h : ∀ d, (limited limit run).result ≠ .error (.timedOut d)) :
    (limited limit run).state = run.state ∧ (limited limit run).result = run.result := by
  cases limit with
  | none => exact ⟨rfl, rfl⟩
  | some d =>
    have hresult := Timed.result_conclude (run.cut d.millis) id
      fun s r => (s, r.getD (.error (.timedOut d)))
    have hstate := Timed.state_conclude (run.cut d.millis) id
      fun s r => (s, r.getD (.error (.timedOut d)))
    change (limited (some d) run).result = _ at hresult
    change (limited (some d) run).state = _ at hstate
    cases hcut : (run.cut d.millis).result with
    | none =>
      rw [hcut] at hresult
      exact absurd hresult (h d)
    | some a =>
      obtain ⟨hsame, ha⟩ := Timed.eq_of_result_cut hcut
      rw [hcut] at hresult
      exact ⟨hstate.trans hsame, hresult.trans ha.symm⟩

def batchLog (st : Statement) : Results :=
  { fetchSize := 0, isBatch := true, scrolling := st.options.scrolling
    expected := st.queue.length }

def queueRun (st : Statement) (server : σ) :
    Timed (σ × Results) (Except StatementError BatchPath) :=
  limited st.options.timeout (({ st with path := none } : Statement).executeQueue
    (server, st.batchLog))

theorem state_runQueue (st : Statement) (server : σ) :
    (st.runQueue server).state = ((st.queueRun server).state.1,
      { st with
        results := some (st.queueRun server).state.2.finish
        path := (st.queueRun server).result.toOption }) :=
  Timed.state_conclude _ _ _

private theorem result_runQueue (st : Statement) (server : σ) :
    (st.runQueue server).result = (st.queueRun server).result.map fun _ => () :=
  Timed.result_conclude _ _ _

private theorem executeBatchWith_of_queue {st : Statement} (hopen : st.closed = false)
    (hqueue : st.queue ≠ []) (counts : Results → List Int) (server : σ) :
    st.executeBatchWith counts server = (st.runQueue server).conclude id fun s r =>
      (s, r.map fun _ => (s.2.results.map counts).getD []) := by
  have hguard : st.guardOpen = .ok () := by rw [guardOpen, if_neg (by simp [hopen])]
  rw [executeBatchWith, hguard]
  dsimp only
  rw [if_neg (by simpa using hqueue)]

theorem executeBatchWith_ended {st : Statement} (hopen : st.closed = false)
    (hqueue : st.queue ≠ []) (counts : Results → List Int) (server : σ) :
    (st.executeBatchWith counts server).state = (st.runQueue server).state ∧
      (st.executeBatchWith counts server).result =
        (st.queueRun server).result.map fun _ => counts (st.queueRun server).state.2.finish := by
  rw [executeBatchWith_of_queue hopen hqueue, Timed.state_conclude, Timed.result_conclude,
    result_runQueue, state_runQueue]
  refine ⟨rfl, ?_⟩
  cases (st.queueRun server).result <;> rfl

theorem elapsed_executeBatchWith {st : Statement} (hopen : st.closed = false)
    (hqueue : st.queue ≠ []) (counts : Results → List Int) (server : σ) :
    (st.executeBatchWith counts server).elapsed = (st.queueRun server).elapsed := by
  rw [executeBatchWith_of_queue hopen hqueue, Timed.elapsed_conclude]
  exact Timed.elapsed_conclude _ _ _

/-- What a batch sent row by row leaves: the calls and the log, for the rows that were sent and
the failed poll that stopped it, if one did. -/
structure SentOneByOne (st : Statement) (primary : Bool) (calls : List Call) (log : Results)
    (done : List Issued) (stop : Option Failure) : Prop where
  /-- One offer that is declined, then the rows, with one poll before each if there is a limit. -/
  history : calls = .offer primary st.template st.queue st.longData (some (.ok false)) ::
    (done.flatMap (Issued.calls primary st) ++ stopCalls stop)
  in_order : done.length ≤ st.queue.length ∧
    done.map Issued.row = st.queue.take done.length
  polled : stop ≠ none → st.options.timeout.isSome = true ∧ done.length < st.queue.length
  all_of_continue : st.options.continueBatch = true → stop = none →
    done.length = st.queue.length
  until_failure : st.options.continueBatch = false →
    (∀ d ∈ done.dropLast, d.failed = false) ∧
      (stop = none → done.length < st.queue.length →
        done.getLast?.any Issued.failed = true) ∧
      (stop ≠ none → ∀ d ∈ done, d.failed = false)
  ended : log.ended = true
  counts : log.counts = done.map fun d => d.outcome.count
  outcome_eq_failed_iff : ∀ d ∈ done, d.outcome = .failed ↔ d.failed = true
  serverCounts : log.serverCounts = done.filterMap fun d => d.outcome.updateCount?

/-- A batch that no time limit ends sends its rows one by one when the server declines it. -/
theorem executeBatch_one_by_one (hserver : Server.AnswersOneByOne Good) (st : Statement)
    (counts : Results → List Int) (server : σ) (hgood : Good server) (hopen : st.closed = false)
    (hqueue : st.queue ≠ [])
    (hlimit : ∀ d, (st.executeBatchWith counts server).result ≠ .error (.timedOut d)) :
    (st.executeBatchWith counts (Traced.mk server [])).project (Prod.map Traced.server id) =
        st.executeBatchWith counts server ∧
      ∃ done stop log,
        (st.executeBatchWith counts (Traced.mk server [])).state.2.results = some log ∧
        st.SentOneByOne (Server.isPrimary server)
          (st.executeBatchWith counts (Traced.mk server [])).state.1.calls log done stop ∧
        (st.executeBatchWith counts (Traced.mk server [])).result =
          (st.verdict none done stop).map fun _ => counts log := by
  have hproject := project_executeBatchWith Traced.projection st counts (Traced.mk server [])
  refine ⟨hproject, ?_⟩
  obtain ⟨hstate, hresult⟩ :=
    executeBatchWith_ended hopen hqueue counts (Traced.mk server [])
  have hlimited (d : Duration) :
      (st.queueRun (Traced.mk server [])).result ≠ .error (.timedOut d) := by
    intro htimedOut
    have hsame := congrArg Timed.result hproject
    rw [Timed.result_project, hresult, htimedOut] at hsame
    exact hlimit d hsame.symm
  obtain ⟨hqueueState, hqueueResult⟩ := eq_of_not_timedOut hlimited
  obtain ⟨done, stop, hsent, hcalls, hextends, hverdict⟩ :=
    executeQueue_sent hserver { st with path := none } (Traced.mk server []) st.batchLog hgood
  have houtcomes : (st.queueRun (Traced.mk server [])).state.2.outcomes =
      done.map Issued.outcome := by
    rw [queueRun, hqueueState, hextends.1]
    rfl
  have hjoined : (st.queueRun (Traced.mk server [])).state.2.joined = false := by
    rw [queueRun, hqueueState, hextends.2]
    rfl
  rw [state_runQueue] at hstate
  refine ⟨done, stop, _, congrArg (fun s => s.2.results) hstate, ?_, ?_⟩
  · constructor
    · rw [hstate, queueRun, hqueueState, hcalls]
      rfl
    · exact hsent.in_order
    · exact hsent.polled
    · exact hsent.all_of_continue
    · exact hsent.until_failure
    · rfl
    · simp only [Results.counts, Results.finish, hjoined, houtcomes, List.map_map]
      rfl
    · exact hsent.outcome_eq_failed_iff
    · simp only [Results.serverCounts, Results.finish, houtcomes, List.filterMap_map]
      rfl
  · rw [hresult, queueRun, hqueueResult, hverdict]
    rfl

def threeRows : Statement :=
  { Statement.new 0 ⟨1, true, 1024, false⟩
      (.compile "insert into t values (?)" .backslash false) { timeout := some (.ofParts 1 0) } with
    queue := [[.int 1], [.int 2], [.int 3]] }

def failsSecond : ScriptedServer :=
  { failCalls := [(2, .execution "duplicate")] }

theorem executeBatch_one_by_one_second_fails :
    ∃ done stop log,
      (threeRows.executeBatchWith Results.counts (Traced.mk failsSecond [])).state.2.results =
        some log ∧
      threeRows.SentOneByOne true
        (threeRows.executeBatchWith Results.counts (Traced.mk failsSecond [])).state.1.calls
        log done stop ∧
      log.counts = [1, Outcome.executeFailed, 1] := by
  have hdeclines : failsSecond.Declines := ⟨rfl, rfl, rfl⟩
  have hlimit (d : Duration) :
      (threeRows.executeBatchWith Results.counts failsSecond).result ≠ .error (.timedOut d) := by
    intro h
    cases h
  have hcounts : (threeRows.executeBatchWith Results.counts
      (Traced.mk failsSecond [])).state.2.results.map Results.counts =
        some [1, Outcome.executeFailed, 1] := by decide
  obtain ⟨-, done, stop, log, hlog, hsent, -⟩ :=
    executeBatch_one_by_one ScriptedServer.answersOneByOne threeRows Results.counts failsSecond
      hdeclines rfl (by decide) hlimit
  rw [hlog] at hcounts
  exact ⟨done, stop, log, hlog, hsent, Option.some.inj hcounts⟩

end Statement
end SqlStatement
