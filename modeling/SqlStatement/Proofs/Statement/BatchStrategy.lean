import SqlStatement.Proofs.Server.History
import SqlStatement.Proofs.Server.Offers
import SqlStatement.Proofs.Statement.Frame
import SqlStatement.Proofs.Statement.SequentialBatch
/-!
# How a batch is sent

A queue is offered to the server once.  Only if the server declines the offer are the rows sent
one by one, and however the queue is sent, a batch that succeeds has one count for each entry.
-/
namespace SqlStatement

namespace Call

def executed? : Call → Option Row
  | .execute _ _ row _ _ => some row
  | _ => none

end Call

private theorem filterMap_executed?_calls (primary : Bool) (st : Statement) (done : List Issued)
    (stop : Option Failure) :
    (done.flatMap (Issued.calls primary st) ++ Statement.stopCalls stop).filterMap
      Call.executed? = done.map Issued.row := by
  induction done with
  | nil => cases stop <;> rfl
  | cons d done ih =>
    have hrow : (d.calls primary st).filterMap Call.executed? = [d.row] := by
      unfold Issued.calls
      split <;> rfl
    rw [List.flatMap_cons, List.append_assoc, List.filterMap_append, hrow, ih]
    rfl

private theorem isOffer_of_mem_calls {primary : Bool} {st : Statement} {done : List Issued}
    {stop : Option Failure} :
    ∀ call ∈ done.flatMap (Issued.calls primary st) ++ Statement.stopCalls stop,
      call.isOffer = false := by
  intro call hcall
  rcases List.mem_append.1 hcall with hcall | hcall
  · obtain ⟨d, -, hcall⟩ := List.mem_flatMap.1 hcall
    unfold Issued.calls at hcall
    rcases List.mem_append.1 hcall with hcall | hcall
    · split at hcall
      · rw [List.mem_singleton.1 hcall]
        rfl
      · cases hcall
    · rw [List.mem_singleton.1 hcall]
      rfl
  · cases stop with
    | none => cases hcall
    | some f =>
      rw [List.mem_singleton.1 hcall]
      rfl

private theorem SentRows.all_of_no_error {o : Options} {rows : List Row} {done : List Issued}
    {stop : Option Failure} {st : Statement} (h : SentRows o rows done stop) (hstop : stop = none)
    (herror : done.findSome? (Issued.error? st) = none) : done.length = rows.length := by
  induction h with
  | finished => rfl
  | interrupted => cases hstop
  | succeeded _ _ ih => exact congrArg Nat.succ (ih hstop herror)
  | failedOn => cases herror
  | failedLast => cases herror

namespace Statement

private theorem verdict_eq_ok {st : Statement} {done : List Issued} {stop : Option Failure}
    {path : BatchPath} (h : st.verdict none done stop = .ok path) :
    path = .sequential ∧ stop = none ∧ done.findSome? (Issued.error? st) = none := by
  cases stop with
  | some f => cases h
  | none =>
    unfold verdict at h
    cases hfirst : done.findSome? (Issued.error? st) with
    | some e =>
      rw [hfirst] at h
      cases h
    | none =>
      rw [hfirst] at h
      cases h
      exact ⟨rfl, rfl, rfl⟩

private theorem verdict_map_eq_ok {α : Type} {st : Statement} {done : List Issued}
    {stop : Option Failure} {a b : α} (hsent : SentRows st.options st.queue done stop)
    (h : (st.verdict none done stop).map (fun _ => a) = .ok b) :
    st.verdict none done stop = .ok .sequential ∧ done.length = st.queue.length ∧ a = b := by
  cases hverdict : st.verdict none done stop with
  | error e =>
    rw [hverdict] at h
    cases h
  | ok path =>
    obtain ⟨rfl, hstop, herror⟩ := verdict_eq_ok hverdict
    rw [hverdict] at h
    exact ⟨rfl, hsent.all_of_no_error hstop herror, Except.ok.inj h⟩

inductive QueueSent (st : Statement) (server : ScriptedServer) (log : Results)
    (run : Timed (Traced ScriptedServer × Results) (Except StatementError BatchPath)) : Prop
  | failed {f : Failure} (hanswer : server.batch.answer st.template st.queue = .error f)
      (hcalls : run.state.1.calls =
        [.offer server.primary st.template st.queue st.longData (some (.error f))])
      (hresult : run.result = .error (st.failure f none))
  | handled (hanswer : server.batch.answer st.template st.queue = .ok true)
      (hcalls : run.state.1.calls =
        [.offer server.primary st.template st.queue st.longData (some (.ok true))])
      (hresult : run.result = .ok .bulk)
      (hlog : server.batch.Records st.template st.queue log run.state.2)
  | declined {done : List Issued} {stop : Option Failure}
      (hanswer : server.batch.answer st.template st.queue = .ok false)
      (hsent : SentRows st.options st.queue done stop)
      (hcalls : run.state.1.calls =
        .offer server.primary st.template st.queue st.longData (some (.ok false)) ::
          (done.flatMap (Issued.calls server.primary st) ++ stopCalls stop))
      (hlog : log.Extends run.state.2 (done.map Issued.outcome))
      (hresult : run.result = st.verdict none done stop)

private theorem QueueSent.of_path {st : Statement} {server : ScriptedServer} {log : Results}
    {path : Option BatchPath}
    {run : Timed (Traced ScriptedServer × Results) (Except StatementError BatchPath)}
    (h : QueueSent { st with path } server log run) : st.QueueSent server log run := by
  cases h with
  | failed hanswer hcalls hresult => exact .failed hanswer hcalls hresult
  | handled hanswer hcalls hresult hlog => exact .handled hanswer hcalls hresult hlog
  | declined hanswer hsent hcalls hlog hresult =>
    exact .declined hanswer hsent hcalls hlog hresult

private theorem executeQueue_sent_by_answer (st : Statement) {server : ScriptedServer}
    (hplain : server.IsPlain) (log : Results) :
    st.QueueSent server log (st.executeQueue (Traced.mk server [], log)) := by
  obtain ⟨hanswer, hrecords⟩ := ScriptedServer.executeBatch_records hplain server.primary
    st.template st.queue st.longData log
  have hkept : (Server.executeBatch server.primary st.template st.queue st.longData
      (server, log)).state.1.IsPlain :=
    .of_sameScript (ScriptedServer.movesAlong_sameScript.executeBatch server.primary st.template
      st.queue st.longData server log).state hplain
  unfold executeQueue
  dsimp only
  rw [Traced.isPrimary_eq]
  change st.QueueSent server log ((Server.executeBatch server.primary st.template st.queue
    st.longData (Traced.mk server [], log)).andThen _)
  have hstate := Traced.state_executeBatch server.primary st.template st.queue st.longData
    (Traced.mk server []) log
  have hresult := Traced.result_executeBatch server.primary st.template st.queue st.longData
    (Traced.mk server []) log
  dsimp only at hstate
  rw [hanswer] at hstate hresult
  cases hbatch : server.batch.answer st.template st.queue with
  | error f =>
    rw [hbatch] at hstate hresult
    refine .failed hbatch ?_ ?_
    · rw [Timed.state_andThen, hresult, hstate]
      rfl
    · rw [Timed.result_andThen, hresult]
      rfl
  | ok taken =>
    rw [hbatch] at hstate hresult
    cases taken with
    | true =>
      refine .handled hbatch ?_ ?_ ?_
      · rw [Timed.state_andThen, hresult, hstate]
        rfl
      · rw [Timed.result_andThen, hresult]
        rfl
      · rw [Timed.state_andThen, hresult, hstate]
        exact hrecords
    | false =>
      have hlog : (Server.executeBatch server.primary st.template st.queue st.longData
          (server, log)).state.2 = log := by
        cases hrecords with
        | declined _ hlog => exact hlog
        | failed _ hlog => exact hlog
        | counted hb => simp [hb, BatchBehavior.answer] at hbatch
        | joined _ htaken => simp [hbatch] at htaken
      rw [hlog] at hstate
      obtain ⟨done, stop, hsent, hcalls, hextends, hverdict⟩ :=
        executeRows_sent ScriptedServer.answersRows_of_isPlain st server.primary st.queue none
          ((Traced.mk server []).note _ (.offer server.primary st.template st.queue st.longData
            (some (.ok false)))) log hkept fun _ => rfl
      refine .declined hbatch hsent ?_ ?_ ?_
      · rw [Timed.state_andThen, hresult, hstate]
        exact hcalls
      · rw [Timed.state_andThen, hresult, hstate]
        exact hextends
      · rw [Timed.result_andThen, hresult, hstate]
        exact hverdict

private theorem counts_of_records {st : Statement} {b : BatchBehavior} {after : Results}
    (hlog : b.Records st.template st.queue st.batchLog after)
    (hanswer : b.answer st.template st.queue = .ok true) :
    after.finish.counts.length = st.queue.length ∧
      (b = .join → 1 < st.queue.length →
        after.finish.counts = List.replicate st.queue.length Outcome.successNoInfo) := by
  cases hlog with
  | declined hdeclined => simp [hanswer] at hdeclined
  | failed hfailed => simp [hanswer] at hfailed
  | @counted os hb hlength hextends =>
    have hcounts : after.finish.counts = os.map Outcome.count := by
      have hjoined : after.joined = false := hextends.2
      have houtcomes : after.outcomes = os := hextends.1
      simp [Results.counts, Results.finish, hjoined, houtcomes]
    refine ⟨by rw [hcounts, List.length_map, hlength], ?_⟩
    intro hjoin
    rw [hb] at hjoin
    cases hjoin
  | @joined count insertId _ _ hlog =>
    have hcounts : after.finish.counts =
        if 1 ≠ st.queue.length then List.replicate st.queue.length Outcome.successNoInfo
        else [count] := by
      rw [hlog]
      simp [Results.counts, Results.finish, Results.setJoined, Results.addUpdate, Results.record,
        batchLog, Outcome.count]
    rw [hcounts]
    split
    · exact ⟨List.length_replicate, fun _ _ => rfl⟩
    · next hone => exact ⟨by simpa using hone, fun _ hmany => absurd hmany (by omega)⟩

section

variable {σ κ : Type} [Server σ κ]

theorem executeBatch_eq_map (st : Statement) (server : σ) :
    st.executeBatch server =
      (st.executeLargeBatch server).map fun r => r.map fun ns => ns.map narrowCount := by
  unfold executeBatch executeLargeBatch executeBatchWith
  split
  · rfl
  · split
    · rfl
    · rw [Timed.map_conclude]
      congr 1
      funext s r
      cases r with
      | error e => rfl
      | ok u => cases s.2.results <;> rfl

private theorem queueRun_of_not_timedOut {st : Statement} (hopen : st.closed = false)
    (hqueue : st.queue ≠ []) {counts : Results → List Int} {server : σ}
    (hlimit : ∀ d, (st.executeBatchWith counts server).result ≠ .error (.timedOut d)) :
    (st.queueRun server).state =
        (({ st with path := none } : Statement).executeQueue (server, st.batchLog)).state ∧
      (st.queueRun server).result =
        (({ st with path := none } : Statement).executeQueue (server, st.batchLog)).result := by
  have hresult := (executeBatchWith_ended hopen hqueue counts server).2
  refine eq_of_not_timedOut ?_
  intro d htimedOut
  change (st.queueRun server).result = _ at htimedOut
  rw [htimedOut] at hresult
  exact hlimit d hresult

private theorem executeBatchWith_of_empty {st : Statement} (hopen : st.closed = false)
    (hqueue : st.queue = []) (counts : Results → List Int) (server : σ) :
    st.executeBatchWith counts server = .done (server, st) (.ok []) := by
  rw [executeBatchWith, guardOpen_of_open hopen, hqueue]
  rfl

end

/-- How a scripted server is sent a queue, and what comes of it.  The offer is the first call;
`rest` are the calls after it. -/
structure Selects (st : Statement) (server : ScriptedServer) (rest : List Call)
    (run : Timed (Traced ScriptedServer × Statement) (Except StatementError (List Int))) :
    Prop where
  offered : run.state.1.calls = .offer server.primary st.template st.queue st.longData
    (some (server.batch.answer st.template st.queue)) :: rest
  offered_once : ∀ call ∈ rest, call.isOffer = false
  failed : ∀ f, server.batch.answer st.template st.queue = .error f →
    rest = [] ∧ run.result = .error (st.failure f none)
  handled : server.batch.answer st.template st.queue = .ok true →
    rest = [] ∧ run.state.2.path = some .bulk ∧ ∃ ns, run.result = .ok ns
  declined : server.batch.answer st.template st.queue = .ok false →
    ∃ done stop, SentRows st.options st.queue done stop ∧
      rest = done.flatMap (Issued.calls server.primary st) ++ stopCalls stop ∧
      run.result = (st.verdict none done stop).map fun _ => done.map fun d => d.outcome.count
  executed : server.batch.answer st.template st.queue = .ok false →
    ∀ ns, run.result = .ok ns →
      run.state.2.path = some .sequential ∧ rest.filterMap Call.executed? = st.queue
  one_count_each : ∀ ns, run.result = .ok ns → ns.length = st.queue.length
  coalesced : server.batch = .join → server.batch.answer st.template st.queue = .ok true →
    1 < st.queue.length →
      run.result = .ok (List.replicate st.queue.length Outcome.successNoInfo)

private theorem selects_of_not_timedOut {st : Statement} {server : ScriptedServer}
    (hplain : server.IsPlain) (hopen : st.closed = false) (hqueue : st.queue ≠ [])
    (hlimit : ∀ d,
      (st.executeLargeBatch (Traced.mk server [])).result ≠ .error (.timedOut d)) :
    ∃ rest, st.Selects server rest (st.executeLargeBatch (Traced.mk server [])) := by
  obtain ⟨hstate, hresult⟩ :=
    executeBatchWith_ended hopen hqueue Results.counts (Traced.mk server [])
  obtain ⟨hqueueState, hqueueResult⟩ := queueRun_of_not_timedOut hopen hqueue hlimit
  rw [state_runQueue] at hstate
  rw [hqueueState, hqueueResult] at hstate hresult
  have hsent := (executeQueue_sent_by_answer { st with path := none } hplain st.batchLog).of_path
  generalize (({ st with path := none } : Statement).executeQueue
    (Traced.mk server [], st.batchLog)) = run at hstate hresult hsent
  unfold executeLargeBatch
  cases hsent with
  | @failed f hanswer hcalls hfailed =>
    rw [hfailed] at hresult
    refine ⟨[], ?_⟩
    constructor
    · rw [hstate, hanswer]
      exact hcalls
    · simp
    · intro g hg
      rw [hanswer] at hg
      cases hg
      exact ⟨rfl, hresult⟩
    · simp [hanswer]
    · simp [hanswer]
    · simp [hanswer]
    · intro ns hns
      rw [hresult] at hns
      cases hns
    · simp [hanswer]
  | handled hanswer hcalls hhandled hlog =>
    obtain ⟨hlength, hjoined⟩ := counts_of_records hlog hanswer
    rw [hhandled] at hresult
    refine ⟨[], ?_⟩
    constructor
    · rw [hstate, hanswer]
      exact hcalls
    · simp
    · simp [hanswer]
    · intro _
      refine ⟨rfl, ?_, _, hresult⟩
      rw [hstate, hhandled]
      rfl
    · simp [hanswer]
    · simp [hanswer]
    · intro ns hns
      rw [hresult] at hns
      cases hns
      exact hlength
    · intro hjoin _ hmany
      rw [hresult, hjoined hjoin hmany]
      rfl
  | @declined done stop hanswer hsent hcalls hlog hverdict =>
    have hcounts : run.state.2.finish.counts = done.map fun d => d.outcome.count := by
      have hjoined : run.state.2.joined = false := hlog.2
      have houtcomes : run.state.2.outcomes = done.map Issued.outcome := hlog.1
      simp [Results.counts, Results.finish, hjoined, houtcomes]
    rw [hverdict, hcounts] at hresult
    refine ⟨done.flatMap (Issued.calls server.primary st) ++ stopCalls stop, ?_⟩
    constructor
    · rw [hstate, hanswer]
      exact hcalls
    · exact isOffer_of_mem_calls
    · simp [hanswer]
    · simp [hanswer]
    · exact fun _ => ⟨done, stop, hsent, rfl, hresult⟩
    · intro _ ns hns
      rw [hresult] at hns
      obtain ⟨hok, hlength, -⟩ := verdict_map_eq_ok hsent hns
      refine ⟨?_, ?_⟩
      · rw [hstate, hverdict]
        exact congrArg Except.toOption hok
      · rw [filterMap_executed?_calls, hsent.in_order.2, hlength, List.take_length]
    · intro ns hns
      rw [hresult] at hns
      obtain ⟨-, hlength, rfl⟩ := verdict_map_eq_ok hsent hns
      rw [List.length_map, hlength]
    · simp [hanswer]

/-- A queue is sent in exactly one way, as the server answers its offer. -/
theorem executeBatch_selects (st : Statement) (server : ScriptedServer) (hplain : server.IsPlain)
    (hopen : st.closed = false) :
    (st.executeLargeBatch (Traced.mk server [])).project (Prod.map Traced.server id) =
        st.executeLargeBatch server ∧
      st.executeBatch (Traced.mk server []) = ((st.executeLargeBatch (Traced.mk server [])).map
        fun r => r.map fun ns => ns.map narrowCount) ∧
      (st.queue = [] → st.executeLargeBatch (Traced.mk server []) =
        .done (Traced.mk server [], st) (.ok [])) ∧
      (st.queue ≠ [] → (∀ d, (st.executeLargeBatch server).result ≠ .error (.timedOut d)) →
        ∃ rest, st.Selects server rest (st.executeLargeBatch (Traced.mk server []))) := by
  have hproject : (st.executeLargeBatch (Traced.mk server [])).project
      (Prod.map Traced.server id) = st.executeLargeBatch server :=
    project_executeBatchWith Traced.projection st Results.counts (Traced.mk server [])
  refine ⟨hproject, executeBatch_eq_map st _, fun hqueue => ?_, fun hqueue hlimit => ?_⟩
  · exact executeBatchWith_of_empty hopen hqueue Results.counts _
  · refine selects_of_not_timedOut hplain hopen hqueue fun d htimedOut => hlimit d ?_
    rw [← hproject, Timed.result_project, htimedOut]

def joinableRows : Statement :=
  { threeRows with template := .compile "insert into t values (?)" .backslash true }

def joinsRows : ScriptedServer :=
  { batch := .join }

theorem executeBatch_selects_joined :
    ∃ rest, joinableRows.Selects joinsRows rest
        (joinableRows.executeLargeBatch (Traced.mk joinsRows [])) ∧
      (joinableRows.executeLargeBatch (Traced.mk joinsRows [])).result =
        .ok [Outcome.successNoInfo, Outcome.successNoInfo, Outcome.successNoInfo] := by
  have hlimit (d : Duration) :
      (joinableRows.executeLargeBatch joinsRows).result ≠ .error (.timedOut d) := by
    intro h
    cases h
  obtain ⟨-, -, -, hsent⟩ :=
    executeBatch_selects joinableRows joinsRows ⟨rfl, rfl⟩ rfl
  obtain ⟨rest, hselects⟩ := hsent (by decide) hlimit
  exact ⟨rest, hselects, hselects.coalesced rfl rfl (by decide)⟩

end Statement
end SqlStatement
