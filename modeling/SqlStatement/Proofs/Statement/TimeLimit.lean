import SqlStatement.Proofs.Server.Offers
import SqlStatement.Proofs.Statement.SequentialBatch
/-!
# Batches on the clock

Where every row takes the same time, the clock tells which rows of a batch are issued before its
time limit ends it (`Statement.executeBatch_on_clock`).  A row that ends together with the limit is
recorded, and the next one is still issued.  The timer of the server sleeps for thirty years at
most, so a delay counts only up to there.
-/
namespace SqlStatement

namespace Timed

variable {σ α : Type}

/-- A pause that ends before the limit or together with it is gone through, and the run goes on
with what is left of the limit.  A longer one is where the run is cut. -/
theorem cutInTurn_pause (steps limit ms : Nat) (s : σ) (rest : Timed σ α)
    (h : 0 < ms ∨ 0 < steps) :
    (ms ≤ limit ∧ ∃ steps', (pause ms s rest).cutInTurn steps limit =
        pause ms s (rest.cutInTurn steps' (limit - ms))) ∨
      (limit < ms ∧ ((pause ms s rest).cutInTurn steps limit).state = s ∧
        ((pause ms s rest).cutInTurn steps limit).result = none ∧
        ((pause ms s rest).cutInTurn steps limit).elapsed = limit) := by
  rw [cutInTurn]
  split
  · next hturn =>
    rw [hturn.1]
    exact .inl ⟨Nat.zero_le limit, steps - 1, rfl⟩
  · next hturn =>
    have hms : 0 < ms := by omega
    split
    · next hlimit => exact .inr ⟨by omega, rfl, rfl, hlimit.symm⟩
    · split
      · next hle => exact .inl ⟨hle, turn - 1, rfl⟩
      · next hlt => exact .inr ⟨by omega, rfl, rfl, rfl⟩

end Timed

namespace ScriptedServer

def sentText (template : Template) (row : Row) : String :=
  (template.render row).toOption.getD template.sql

/-- Nothing is scripted to fail when the rows are executed next, with a poll before each. -/
structure Serves (s : ScriptedServer) (template : Template) (rows : List Row) : Prop where
  calls : ∀ k < rows.length, s.failCalls.lookup (s.record.executed.length + 1 + k) = none
  texts : ∀ row ∈ rows, ∀ p ∈ s.failTexts, p.1.occursIn (sentText template row) = false
  polls : ∀ allowed, s.pollsAllowed = some allowed → s.record.polls + rows.length ≤ allowed

/-- The rows were issued in between, in their order and without a limit for the server. -/
structure Issues (before : ScriptedServer) (issued : List Row) (after : ScriptedServer) :
    Prop where
  rows : after.record.rows = before.record.rows ++ issued
  limits : after.record.limits = before.record.limits ++ List.replicate issued.length none

theorem Issues.refl (s : ScriptedServer) : s.Issues [] s :=
  ⟨(List.append_nil _).symm, (List.append_nil _).symm⟩

theorem Issues.cons {a b c : ScriptedServer} {row : Row} {rows : List Row}
    (hrow : a.Issues [row] b) (hrows : b.Issues rows c) : a.Issues (row :: rows) c := by
  constructor
  · rw [hrows.rows, hrow.rows, List.append_assoc]
    rfl
  · rw [hrows.limits, hrow.limits, List.append_assoc]
    rfl

def slept (delay : Nat) : Nat :=
  min delay Timed.longestPause

private theorem cut_sleep {τ α β : Type} (delay : Option Nat) (s : τ) (work : τ → τ × α)
    (next : τ → α → Timed τ β) (limit : Nat) :
    let run := ((sleep delay s work).andThen next).cut limit
    let wait := slept (delay.getD 0)
    (wait ≤ limit ∧ ∃ steps,
        let rest := (next (work s).1 (work s).2).cutInTurn steps (limit - wait)
        run.state = rest.state ∧ run.result = rest.result ∧ run.elapsed = wait + rest.elapsed) ∨
      (limit < wait ∧ run.state = s ∧ run.result = none ∧ run.elapsed = limit) := by
  cases delay with
  | none =>
    have hwait : slept (Option.getD none 0) = 0 := Nat.zero_min _
    rw [hwait]
    exact .inl ⟨Nat.zero_le limit, Timed.turn - 1, rfl, rfl, (Nat.zero_add _).symm⟩
  | some ms =>
    obtain ⟨hle, steps, hcut⟩ | hcut :=
      Timed.cutInTurn_pause (Timed.turn - 1) limit (slept ms) s (next (work s).1 (work s).2)
        (.inr (by decide))
    · have hrun : ((sleep (some ms) s work).andThen next).cut limit = _ := hcut
      rw [hrun]
      exact .inl ⟨hle, steps, rfl, rfl, rfl⟩
    · exact .inr hcut

def asked (s : ScriptedServer) (primary : Bool) (template : Template) (row : Row) :
    ScriptedServer :=
  (poll s).1.noteExecution primary (sentText template row) row none

variable {s : ScriptedServer} {template : Template} {row : Row} {rows : List Row}

private theorem issues_asked (s : ScriptedServer) (primary : Bool) (template : Template)
    (row : Row) : s.Issues [row] (s.asked primary template row) :=
  ⟨rfl, rfl⟩

private theorem Serves.poll_ok (h : s.Serves template (row :: rows)) : (poll s).2 = .ok () := by
  have hpolls := h.polls
  unfold poll
  dsimp only
  cases hallowed : s.pollsAllowed with
  | none => rfl
  | some allowed =>
    have hle := hpolls allowed hallowed
    rw [List.length_cons] at hle
    rw [Option.any_some, if_neg]
    simp only [decide_eq_true_eq]
    omega

theorem Serves.tail (h : s.Serves template (row :: rows)) (primary : Bool) (nextInsertId : Int) :
    Serves { s.asked primary template row with nextInsertId } template rows where
  calls k hk := by
    have hcall := h.calls (k + 1) (Nat.succ_lt_succ hk)
    have hnumber : (s.asked primary template row).record.executed.length + 1 + k =
        s.record.executed.length + 1 + (k + 1) := by
      simp only [asked, poll, noteExecution, List.length_append, List.length_singleton]
      omega
    exact hnumber ▸ hcall
  texts r hr := h.texts r (List.mem_cons_of_mem row hr)
  polls allowed hallowed := by
    have hle := h.polls allowed hallowed
    rw [List.length_cons] at hle
    change s.record.polls + 1 + rows.length ≤ allowed
    omega

private theorem Serves.failure?_eq_none (h : s.Serves template (row :: rows)) (primary : Bool) :
    (s.asked primary template row).failure? (sentText template row) = none := by
  have hcalls := h.calls 0 (Nat.succ_pos _)
  have htexts : s.failTexts.find? (fun p => p.1.occursIn (sentText template row)) = none := by
    rw [List.find?_eq_none]
    intro p hp
    simp [h.texts row List.mem_cons_self p hp]
  have hnumber : (s.asked primary template row).record.executed.length =
      s.record.executed.length + 1 + 0 := by
    simp [asked, poll, noteExecution]
  unfold failure?
  rw [hnumber]
  change (s.failCalls.lookup _ <|>
    (s.failTexts.find? fun p => p.1.occursIn (sentText template row)).map Prod.snd) = none
  rw [hcalls, htexts]
  rfl

theorem Serves.answer (h : s.Serves template (row :: rows)) (primary : Bool) (log : Results) :
    ∃ after log' o,
      answerExecution (sentText template row) (s.asked primary template row, log) =
        ((after, log'), .ok ()) ∧
      s.Issues [row] after ∧ log.Extends log' [o] ∧ SameScript s after ∧
      after.Serves template rows := by
  unfold answerExecution
  rw [h.failure?_eq_none primary]
  dsimp only
  split
  · next set _ =>
    exact ⟨_, _, .rows, rfl, ⟨rfl, rfl⟩, ⟨rfl, rfl⟩, rfl, h.tail primary s.nextInsertId⟩
  · exact ⟨_, _, .update _ _, rfl, ⟨rfl, rfl⟩, ⟨rfl, rfl⟩, rfl,
      h.tail primary (s.nextInsertId + 1)⟩

end ScriptedServer

namespace Statement

open ScriptedServer

private theorem executeRows_cons_of_serves {st : Statement} {server : ScriptedServer} {row : Row}
    {rows : List Row} {delay : Nat} (hlimit : st.options.timeout.isSome = true)
    (hserves : server.Serves st.template (row :: rows)) (hplain : server.IsPlain)
    (hdelay : server.delay = some delay) (primary : Bool) (log : Results) :
    ∃ after log' o,
      st.executeRows primary (row :: rows) none (server, log) =
        .pause (slept delay) (server.asked primary st.template row, log)
          (st.executeRows primary rows none (after, log')) ∧
      server.Issues [row] after ∧ log.Extends log' [o] ∧ SameScript server after ∧
      after.Serves st.template rows := by
  obtain ⟨after, log', o, hanswer, hfacts⟩ := hserves.answer primary log
  refine ⟨after, log', o, ?_, hfacts⟩
  have hpolled : Server.poll server = ((ScriptedServer.poll server).1, .ok ()) :=
    Prod.ext rfl hserves.poll_ok
  have hrow : Server.execute primary st.template row none ((ScriptedServer.poll server).1, log) =
      .pause (slept delay) (server.asked primary st.template row, log)
        (.done (after, log') (.ok ())) := by
    change ScriptedServer.execute primary st.template row none _ = _
    unfold ScriptedServer.execute
    dsimp only
    have hbefore : (ScriptedServer.poll server).1.beforeCalls = [] := hplain.beforeCalls
    have hpause : (ScriptedServer.poll server).1.delay = some delay := hdelay
    rw [hbefore, hpause]
    change Timed.pause (slept delay) (server.asked primary st.template row, log)
      (.done
        (answerExecution (sentText st.template row) (server.asked primary st.template row, log)).1
        (answerExecution (sentText st.template row)
          (server.asked primary st.template row, log)).2) = _
    rw [hanswer]
  rw [executeRows, if_pos hlimit, hpolled]
  dsimp only
  rw [hrow]
  rfl

structure CutAfter (server : ScriptedServer) (log : Results) (rows : List Row)
    (pause limit : Nat)
    (run : Timed (ScriptedServer × Results) (Option (Except StatementError BatchPath))) :
    Prop where
  result : run.result = if rows.length * pause ≤ limit then some (.ok .sequential) else none
  elapsed : run.elapsed = min limit (rows.length * pause)
  issued : server.Issues (rows.take (limit / pause + 1)) run.state.1
  recorded : ∃ os, os.length = min rows.length (limit / pause) ∧ log.Extends run.state.2 os

private theorem cutAfter_executeRows {st : Statement} {delay : Nat}
    (htimeout : st.options.timeout.isSome = true) (hdelay : 0 < delay) (primary : Bool)
    (rows : List Row) (server : ScriptedServer) (log : Results)
    (hserves : server.Serves st.template rows) (hplain : server.IsPlain)
    (hscript : server.delay = some delay) (steps limit : Nat) :
    CutAfter server log rows (slept delay) limit
      ((st.executeRows primary rows none (server, log)).cutInTurn steps limit) := by
  have hpause : 0 < slept delay := Nat.lt_min.2 ⟨hdelay, by decide⟩
  induction rows generalizing server log steps limit with
  | nil =>
    rw [executeRows]
    refine ⟨?_, ?_, ?_, [], ?_, .refl log⟩
    · simp [Timed.cutInTurn, Timed.result]
    · simp [Timed.cutInTurn, Timed.elapsed]
    · exact .refl server
    · simp
  | cons row rows ih =>
    obtain ⟨after, log', o, hrun, hissues, hlog, hsame, hrest⟩ :=
      executeRows_cons_of_serves htimeout hserves hplain hscript primary log
    have hscript' : after.delay = some delay := by
      rw [hsame]
      exact hscript
    rw [hrun]
    obtain ⟨hle, steps', hcut⟩ | ⟨hlt, hstate, hresult, helapsed⟩ :=
      Timed.cutInTurn_pause steps limit (slept delay) (server.asked primary st.template row, log)
        (st.executeRows primary rows none (after, log')) (.inl hpause)
    · obtain ⟨hresult, helapsed, hissued, os, hlength, hextends⟩ :=
        ih after log' hrest (.of_sameScript hsame hplain) hscript' steps' (limit - slept delay)
      have hdiv : limit / slept delay = (limit - slept delay) / slept delay + 1 :=
        Nat.div_eq_sub_div hpause hle
      have hmul : (row :: rows).length * slept delay =
          rows.length * slept delay + slept delay := Nat.succ_mul _ _
      rw [hcut]
      refine ⟨?_, ?_, ?_, o :: os, ?_, hlog.trans hextends⟩
      · have hiff : rows.length * slept delay ≤ limit - slept delay ↔
            rows.length * slept delay + slept delay ≤ limit := by omega
        simp only [Timed.result, hresult, hmul, hiff]
      · rw [hmul, Timed.elapsed, helapsed]
        omega
      · rw [hdiv]
        exact hissues.cons hissued
      · rw [hdiv, List.length_cons, List.length_cons, hlength]
        omega
    · have hdiv : limit / slept delay = 0 := Nat.div_eq_of_lt hlt
      have hmul : slept delay ≤ (row :: rows).length * slept delay :=
        Nat.le_mul_of_pos_left _ (Nat.succ_pos _)
      refine ⟨?_, ?_, ?_, [], ?_, ?_⟩
      · rw [hresult, if_neg (by omega)]
      · rw [helapsed]
        omega
      · rw [hstate, hdiv]
        exact issues_asked server primary st.template row
      · rw [hdiv]
        rfl
      · rw [hstate]
        exact .refl log

private theorem CutAfter.in_time {server : ScriptedServer} {log : Results} {rows : List Row}
    {pause limit : Nat}
    {run : Timed (ScriptedServer × Results) (Option (Except StatementError BatchPath))}
    (h : CutAfter server log rows pause limit run) (hpause : 0 < pause)
    (hrows : rows.length * pause ≤ limit) :
    run.result = some (.ok .sequential) ∧ run.elapsed = rows.length * pause ∧
      server.Issues rows run.state.1 ∧
      ∃ os, os.length = rows.length ∧ log.Extends run.state.2 os := by
  obtain ⟨hresult, helapsed, hissued, os, hlength, hextends⟩ := h
  have hfit : rows.length ≤ limit / pause := (Nat.le_div_iff_mul_le hpause).2 hrows
  rw [if_pos hrows] at hresult
  rw [List.take_of_length_le (by omega)] at hissued
  exact ⟨hresult, by omega, hissued, os, by omega, hextends⟩

private theorem CutAfter.late {server : ScriptedServer} {log : Results} {rows : List Row}
    {pause limit : Nat}
    {run : Timed (ScriptedServer × Results) (Option (Except StatementError BatchPath))}
    (h : CutAfter server log rows pause limit run) (hpause : 0 < pause)
    (hrows : limit < rows.length * pause) :
    run.result = none ∧ run.elapsed = limit ∧ limit / pause + 1 ≤ rows.length ∧
      server.Issues (rows.take (limit / pause + 1)) run.state.1 ∧
      ∃ os, os.length = limit / pause ∧ log.Extends run.state.2 os := by
  obtain ⟨hresult, helapsed, hissued, os, hlength, hextends⟩ := h
  have hover : limit / pause < rows.length := (Nat.div_lt_iff_lt_mul hpause).2 hrows
  rw [if_neg (by omega)] at hresult
  exact ⟨hresult, by omega, hover, hissued, os, by omega, hextends⟩

private theorem cut_executeQueue (st : Statement) {server : ScriptedServer} {delay : Nat}
    (htimeout : st.options.timeout.isSome = true) (hplain : server.IsPlain)
    (hdeclined : server.batch.answer st.template st.queue = .ok false)
    (hscript : server.delay = some delay) (hdelay : 0 < delay)
    (hserves : server.Serves st.template st.queue) (log : Results) (limit : Nat) :
    let run := (st.executeQueue (server, log)).cut limit
    let wait := slept (server.batchDelay.getD 0)
    (wait ≤ limit ∧ ∃ rest, CutAfter server log st.queue (slept delay) (limit - wait) rest ∧
        run.state = rest.state ∧ run.result = rest.result ∧ run.elapsed = wait + rest.elapsed) ∨
      (limit < wait ∧ server.Issues [] run.state.1 ∧ run.state.2 = log ∧ run.result = none ∧
        run.elapsed = limit) := by
  dsimp only
  let noted : ScriptedServer :=
    { server with record := { server.record with
      primary := server.record.primary ++ [server.primary] } }
  have hnoted : noted.batch.answer st.template st.queue = .ok false := hdeclined
  have hoffer : answerBatch st.template st.queue st.longData (noted, log) =
      ((noted.noteOffer st.longData, log), .ok false) :=
    answerBatch_of_declined hnoted st.longData log
  have hexecute : Server.executeBatch server.primary st.template st.queue st.longData
      (server, log) = sleep server.batchDelay (noted, log)
        (answerBatch st.template st.queue st.longData) := by
    change sleep server.batchDelay (noted, server.beforeBatch.foldl Results.apply log) _ = _
    rw [hplain.beforeBatch]
    rfl
  obtain ⟨next, hqueue, hnext⟩ : ∃ next, st.executeQueue (server, log) =
        (Server.executeBatch server.primary st.template st.queue st.longData
          (server, log)).andThen next ∧
      ∀ s, next s (.ok false) = st.executeRows server.primary st.queue none s :=
    ⟨_, rfl, fun _ => rfl⟩
  rw [hqueue, hexecute]
  refine (cut_sleep server.batchDelay (noted, log) (answerBatch st.template st.queue st.longData)
    next limit).imp ?_ ?_
  · rintro ⟨hle, steps, hrun⟩
    rw [hoffer, hnext] at hrun
    refine ⟨hle, _, ?_, hrun⟩
    obtain ⟨hresult, helapsed, hissued, hrecorded⟩ :=
      cutAfter_executeRows htimeout hdelay server.primary st.queue (noted.noteOffer st.longData)
        log ⟨hserves.calls, hserves.texts, hserves.polls⟩ ⟨hplain.beforeCalls, hplain.beforeBatch⟩
        hscript steps (limit - slept (server.batchDelay.getD 0))
    exact ⟨hresult, helapsed, ⟨hissued.rows, hissued.limits⟩, hrecorded⟩
  · rintro ⟨hlt, hstate, hended⟩
    rw [hstate]
    exact ⟨hlt, ⟨(List.append_nil _).symm, (List.append_nil _).symm⟩, rfl, hended⟩

/-- What a batch leaves that sent its rows one by one: the rows that were issued, and a closed log
with one count for each that was recorded. -/
structure LeavesIssued (st : Statement) (server : ScriptedServer) (issued recorded : Nat)
    (s : ScriptedServer × Statement) : Prop where
  issued_le : issued ≤ st.queue.length
  requests : server.Issues (st.queue.take issued) s.1
  log : ∃ log, s.2.results = some log ∧ log.ended = true ∧ log.counts.length = recorded

private theorem leavesIssued_of_extends {st : Statement} {server : ScriptedServer} {issued : Nat}
    {s : ScriptedServer × Statement} {log : Results} {os : List Outcome}
    {recorded : Nat} (hle : issued ≤ st.queue.length)
    (hissues : server.Issues (st.queue.take issued) s.1) (hlength : os.length = recorded)
    (hextends : st.batchLog.Extends log os) (hresults : s.2.results = some log.finish) :
    st.LeavesIssued server issued recorded s := by
  refine ⟨hle, hissues, _, hresults, rfl, ?_⟩
  have houtcomes : log.outcomes = os := hextends.1
  have hjoined : log.joined = false := hextends.2
  simp [Results.counts, Results.finish, houtcomes, hjoined, hlength]

/-- A batch with a time limit, on a server that declines its offer and takes the same time for
every row.  It succeeds if the offer and all rows take no longer than the limit.  Otherwise it ends
at the limit, and the rows that are over by then are recorded, those and the next one issued; none
is if the offer takes longer.  No row comes with a limit for the server, whether or not the server
has limits of its own. -/
theorem executeBatch_on_clock (st : Statement) (counts : Results → List Int)
    (server : ScriptedServer) (limit : Duration) (delay : Nat) (hopen : st.closed = false)
    (hqueue : st.queue ≠ []) (htimeout : st.options.timeout = some limit)
    (hplain : server.IsPlain)
    (hdeclined : server.batch.answer st.template st.queue = .ok false)
    (hscript : server.delay = some delay) (hdelay : 0 < delay)
    (hserves : server.Serves st.template st.queue) :
    let run := st.executeBatchWith counts server
    let wait := slept (server.batchDelay.getD 0)
    let total := wait + st.queue.length * slept delay
    (total ≤ limit.millis → (∃ ns, run.result = .ok ns) ∧ run.elapsed = total ∧
        st.LeavesIssued server st.queue.length st.queue.length run.state) ∧
      (limit.millis < total → run.result = .error (.timedOut limit) ∧
        run.elapsed = limit.millis ∧
        (limit.millis < wait → st.LeavesIssued server 0 0 run.state) ∧
        (wait ≤ limit.millis → st.LeavesIssued server ((limit.millis - wait) / slept delay + 1)
          ((limit.millis - wait) / slept delay) run.state)) := by
  dsimp only
  have hrun : st.queueRun server =
      ((({ st with path := none } : Statement).executeQueue (server, st.batchLog)).cut
        limit.millis).map fun r => r.getD (.error (.timedOut limit)) := by
    unfold queueRun
    rw [htimeout]
    rfl
  obtain ⟨hstate, hresult⟩ := executeBatchWith_ended hopen hqueue counts server
  have helapsed := elapsed_executeBatchWith hopen hqueue counts server
  rw [state_runQueue] at hstate
  simp only [hrun, Timed.map, Timed.state_conclude, Timed.result_conclude,
    Timed.elapsed_conclude] at hstate hresult helapsed
  have hpause : 0 < slept delay := Nat.lt_min.2 ⟨hdelay, by decide⟩
  have hcut := cut_executeQueue { st with path := none }
    (Option.isSome_of_eq_some htimeout) hplain hdeclined hscript hdelay hserves st.batchLog
    limit.millis
  dsimp only at hcut
  generalize (({ st with path := none } : Statement).executeQueue (server, st.batchLog)).cut
    limit.millis = run at hcut hstate hresult helapsed
  generalize slept (server.batchDelay.getD 0) = wait at hcut ⊢
  rw [hresult, helapsed, hstate]
  obtain ⟨hle, rest, hrest, hrestState, hrestResult, hrestElapsed⟩ |
    ⟨hlt, hissues, hlog, hnone, hends⟩ := hcut
  · rw [hrestState, hrestResult, hrestElapsed]
    refine ⟨fun htotal => ?_, fun htotal => ?_⟩
    · obtain ⟨hok, hall, hissued, os, hlength, hextends⟩ := hrest.in_time hpause (by omega)
      refine ⟨⟨_, by rw [hok]; rfl⟩, by rw [hall], ?_⟩
      exact leavesIssued_of_extends (Nat.le_refl _) (by rwa [List.take_length]) hlength hextends rfl
    · obtain ⟨hnone, hended, hissuedLe, hissued, os, hlength, hextends⟩ :=
        hrest.late hpause (by omega)
      refine ⟨by rw [hnone]; rfl, by omega, fun hlt => absurd hle (by omega), fun _ => ?_⟩
      exact leavesIssued_of_extends hissuedLe hissued hlength hextends rfl
  · refine ⟨fun htotal => absurd hlt (by omega), fun _ => ⟨by rw [hnone]; rfl, hends, ?_, ?_⟩⟩
    · intro _
      have hextends : st.batchLog.Extends run.state.2 [] := by
        rw [hlog]
        exact .refl st.batchLog
      exact leavesIssued_of_extends (Nat.zero_le _) hissues rfl hextends rfl
    · exact fun hle => absurd hlt (by omega)

def slowRows : ScriptedServer :=
  { delay := some 400, batchDelay := some 200 }

/-- The second row of three ends together with the limit of a second, so all three are issued. -/
theorem executeBatch_on_clock_second_ends :
    (threeRows.executeBatch slowRows).result = .error (.timedOut (.ofParts 1 0)) ∧
      (threeRows.executeBatch slowRows).elapsed = 1000 ∧
      threeRows.LeavesIssued slowRows 3 2 (threeRows.executeBatch slowRows).state := by
  have hserves : slowRows.Serves threeRows.template threeRows.queue :=
    ⟨fun _ _ => rfl, fun _ _ => nofun, nofun⟩
  obtain ⟨-, hlate⟩ := executeBatch_on_clock threeRows Results.narrowCounts slowRows
    (.ofParts 1 0) 400 rfl (by decide) rfl ⟨rfl, rfl⟩ rfl rfl (by decide) hserves
  obtain ⟨hresult, helapsed, -, hissued⟩ := hlate (by decide)
  exact ⟨hresult, helapsed, hissued (by decide)⟩

def oneRow : Statement :=
  { threeRows with
    options := { timeout := some (.ofParts 946080000 0) }
    queue := [[.int 1]] }

def sleepsThirtyYears : ScriptedServer :=
  { delay := some 946080000001 }

/-- A row that should take a millisecond more than the limit is over together with it. -/
theorem oneRow_ends_with_limit :
    oneRow.closed = false ∧ oneRow.queue.length = 1 ∧
      oneRow.options.timeout.map Duration.millis = some 946080000000 ∧
      sleepsThirtyYears.IsPlain ∧ sleepsThirtyYears.batchDelay = none ∧
      sleepsThirtyYears.batch.answer oneRow.template oneRow.queue = .ok false ∧
      sleepsThirtyYears.delay = some 946080000001 ∧
      sleepsThirtyYears.Serves oneRow.template oneRow.queue ∧
      (oneRow.executeBatch sleepsThirtyYears).result = .ok [1] ∧
      (oneRow.executeBatch sleepsThirtyYears).elapsed = 946080000000 :=
  ⟨rfl, rfl, rfl, ⟨rfl, rfl⟩, rfl, rfl, rfl, ⟨fun _ _ => rfl, fun _ _ => nofun, nofun⟩, rfl, rfl⟩

end Statement
end SqlStatement
