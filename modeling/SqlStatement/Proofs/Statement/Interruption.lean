import SqlStatement.Proofs.Server.History
import SqlStatement.Proofs.Statement.Frame
import SqlStatement.Proofs.Statement.SequentialBatch
/-!
# Interrupted batches

While a queue is sent row by row the first failure of a row is kept, and a poll that fails ends
the batch at once.  `LoopEnds` tells from the calls which of the two is the error: the failure of
the poll, which is reported in place of the one that was kept.
-/
namespace SqlStatement

namespace Call

def failedPoll? : Call → Option Failure
  | .poll (.error f) => some f
  | _ => none

def rowError? (st : Statement) : Call → Option StatementError
  | .execute _ _ row _ (some (.error f, _)) => some (st.failure f (some row))
  | _ => none

end Call

namespace Statement

/-- The calls of a loop over a queue and its result, with the failure that was kept before. -/
inductive LoopEnds (st : Statement) :
    Option StatementError → List Call → Except StatementError BatchPath → Prop
  | finished : LoopEnds st none [] (.ok .sequential)
  | failed {e : StatementError} : LoopEnds st (some e) [] (.error e)
  | interrupted {first : Option StatementError} {f : Failure} :
      LoopEnds st first [.poll (.error f)] (.error (st.failure f none))
  | goesOn {first : Option StatementError} {call : Call} {calls : List Call}
      {r : Except StatementError BatchPath} (hpoll : call.failedPoll? = none)
      (hrest : LoopEnds st (first <|> call.rowError? st) calls r) :
      LoopEnds st first (call :: calls) r

namespace LoopEnds

variable {st : Statement} {first : Option StatementError} {calls : List Call}
  {r : Except StatementError BatchPath}

private theorem of_poll (h : LoopEnds st first calls r) {f : Failure}
    (hf : .poll (.error f) ∈ calls) :
    calls.getLast? = some (.poll (.error f)) ∧ r = .error (st.failure f none) := by
  induction h with
  | finished => cases hf
  | failed => cases hf
  | interrupted =>
    cases List.mem_singleton.1 hf
    exact ⟨rfl, rfl⟩
  | @goesOn first call calls r hpoll hrest ih =>
    rcases List.mem_cons.1 hf with rfl | hf
    · cases hpoll
    · obtain ⟨hlast, hr⟩ := ih hf
      refine ⟨?_, hr⟩
      rw [List.getLast?_cons, hlast]
      rfl

private theorem of_no_poll (h : LoopEnds st first calls r) (hpolls : ∀ f, .poll (.error f) ∉ calls)
    {e : StatementError} (he : (first <|> calls.findSome? (Call.rowError? st)) = some e) :
    r = .error e := by
  induction h with
  | finished => cases he
  | failed =>
    cases he
    rfl
  | @interrupted first f => exact absurd (List.mem_singleton_self _) (hpolls f)
  | @goesOn first call calls r hpoll hrest ih =>
    refine ih (fun f hf => hpolls f (List.mem_cons_of_mem call hf)) ?_
    rw [← he, List.findSome?_cons]
    cases first <;> cases call.rowError? st <;> rfl

private theorem eq_error_iff (h : LoopEnds st none calls r) {e : StatementError}
    (he : calls.findSome? (Call.rowError? st) = some e) :
    r = .error e ↔ ∀ f, .poll (.error f) ∈ calls → st.failure f none = e := by
  constructor
  · intro hr f hf
    have hinterrupted := (h.of_poll hf).2
    rw [hr] at hinterrupted
    exact (Except.error.inj hinterrupted).symm
  · intro hsame
    by_cases hpolls : ∃ f, .poll (.error f) ∈ calls
    · obtain ⟨f, hf⟩ := hpolls
      rw [(h.of_poll hf).2, hsame f hf]
    · exact h.of_no_poll (fun f hf => hpolls ⟨f, hf⟩) he

theorem prepend {before : List Call} (hpolls : ∀ call ∈ before, call.failedPoll? = none)
    (h : LoopEnds st (first <|> before.findSome? (Call.rowError? st)) calls r) :
    LoopEnds st first (before ++ calls) r := by
  induction before generalizing first with
  | nil => cases first <;> exact h
  | cons call before ih =>
    obtain ⟨hcall, hbefore⟩ := List.forall_mem_cons.1 hpolls
    refine .goesOn hcall (ih hbefore ?_)
    rw [List.findSome?_cons] at h
    cases first <;> cases hrow : call.rowError? st <;> rw [hrow] at h <;> exact h

end LoopEnds

variable {σ κ : Type} [Server σ κ]

abbrev PollsPassed (before after : Traced σ) : Prop :=
  before.Grows (fun call => call.failedPoll? = none) after

/-- A history grew by the calls of a loop over a queue. -/
def Looped (st : Statement) (first : Option StatementError) (before after : Traced σ)
    (r : Except StatementError BatchPath) : Prop :=
  ∃ calls, after.calls = before.calls ++ calls ∧ LoopEnds st first calls r

theorem Looped.prepend {st : Statement} {first : Option StatementError} {a b c : Traced σ}
    {sent : List Call} {r : Except StatementError BatchPath} (hsent : b.calls = a.calls ++ sent)
    (hpolls : ∀ call ∈ sent, call.failedPoll? = none)
    (h : st.Looped (first <|> sent.findSome? (Call.rowError? st)) b c r) :
    st.Looped first a c r := by
  obtain ⟨calls, hcalls, hloop⟩ := h
  refine ⟨sent ++ calls, ?_, hloop.prepend hpolls⟩
  rw [hcalls, hsent, List.append_assoc]

def rowCalls (st : Statement) (primary : Bool) (row : Row)
    (answer : Option (Except Failure Unit × List Outcome)) : List Call :=
  (if st.options.timeout.isSome then [.poll (.ok ())] else []) ++
    [.execute primary st.template row none answer]

private theorem failedPoll?_of_mem_rowCalls {st : Statement} {primary : Bool} {row : Row}
    {answer : Option (Except Failure Unit × List Outcome)} :
    ∀ call ∈ st.rowCalls primary row answer, call.failedPoll? = none := by
  unfold rowCalls
  split <;> simp [Call.failedPoll?]

private theorem findSome?_rowCalls (st : Statement) (primary : Bool) (row : Row)
    (answer : Option (Except Failure Unit × List Outcome)) :
    (st.rowCalls primary row answer).findSome? (Call.rowError? st) =
      Call.rowError? st (.execute primary st.template row none answer) := by
  rw [rowCalls, List.findSome?_append, List.findSome?_singleton]
  split <;> rfl

private theorem PollsPassed.of_row {st : Statement} {primary : Bool} {row : Row}
    {answer : Option (Except Failure Unit × List Outcome)} {t s : Traced σ}
    (hs : s.calls = t.calls ++ st.rowCalls primary row answer) : PollsPassed t s :=
  ⟨_, hs, failedPoll?_of_mem_rowCalls⟩

private theorem Looped.of_row {st : Statement} {primary : Bool} {row : Row}
    {answer : Option (Except Failure Unit × List Outcome)} {first : Option StatementError}
    {t s t' : Traced σ} {r : Except StatementError BatchPath}
    (hs : s.calls = t.calls ++ st.rowCalls primary row answer)
    (h : st.Looped
      (first <|> Call.rowError? st (.execute primary st.template row none answer)) s t' r) :
    st.Looped first t t' r := by
  rw [← findSome?_rowCalls] at h
  exact h.prepend hs failedPoll?_of_mem_rowCalls

/-- Polls that fail are seen at the end of the loop only, and the calls decide its result. -/
theorem course_executeRows (st : Statement) (primary : Bool) (rows : List Row)
    (first : Option StatementError) (t : Traced σ) (log : Results)
    (hfirst : st.options.continueBatch = false → first = none) :
    (st.executeRows primary rows first (t, log)).Course (fun s => PollsPassed t s.1)
      fun s r => st.Looped first t s.1 r := by
  induction rows generalizing first t log with
  | nil =>
    cases first with
    | none => exact ⟨[], (List.append_nil _).symm, .finished⟩
    | some e => exact ⟨[], (List.append_nil _).symm, .failed⟩
  | cons row rows ih =>
    unfold executeRows
    obtain ⟨t', f, hpolled, -, hcalls⟩ | ⟨t', hpolled, -, hcalls⟩ :=
      Traced.polled_cases (P := fun _ : σ => True) (fun _ _ => trivial) st.options.timeout t
        trivial
    · rw [hpolled]
      exact ⟨_, hcalls, .interrupted⟩
    · rw [hpolled]
      have hrow := Traced.course_execute primary st.template row none t' log
      have hsent (answer : Option (Except Failure Unit × List Outcome)) :
          t'.calls ++ [.execute primary st.template row none answer] =
            t.calls ++ st.rowCalls primary row answer := by
        rw [hcalls, List.append_assoc]
        rfl
      simp only [hsent] at hrow
      refine (hrow.mono (fun _ => PollsPassed.of_row) fun _ _ h => h).andThen ?_
      intro s r hs
      obtain ⟨os, hs⟩ := hs
      obtain ⟨s, log⟩ := s
      -- The rest of the loop, with the failure that is kept from here on.
      have hrest (next : Option StatementError)
          (hkept : next = (first <|>
            Call.rowError? st (.execute primary st.template row none (some (r, os)))))
          (hnext : st.options.continueBatch = false → next = none) (log : Results) :
          (st.executeRows primary rows next (s, log)).Course (fun s => PollsPassed t s.1)
            fun s r => st.Looped first t s.1 r := by
        subst hkept
        exact (ih _ s log hnext).mono (fun _ h => (PollsPassed.of_row hs).trans h)
          fun _ _ => Looped.of_row hs
      cases r with
      | ok u => exact hrest first (by cases first <;> rfl) hfirst log
      | error f =>
        dsimp only
        split
        · next hon => exact hrest _ rfl (fun hoff => by simp [hon] at hoff) _
        · next hoff =>
          obtain rfl := hfirst (Bool.eq_false_iff.2 hoff)
          exact Looped.of_row hs ⟨[], (List.append_nil _).symm, .failed⟩

private theorem course_executeQueue (st : Statement) (t : Traced σ) (log : Results) :
    (st.executeQueue (t, log)).Course (fun s => PollsPassed t s.1) fun s r =>
      st.Looped none t s.1 r ∨ ∃ answer, s.1.calls = t.calls ++
        [.offer (Server.isPrimary t) st.template st.queue st.longData answer] := by
  have hoffer := Traced.course_executeBatch (Server.isPrimary t) st.template st.queue st.longData
    t log
  have hpassed {s : Traced σ} {answer : Option (Except Failure Bool)}
      (hs : s.calls = t.calls ++
        [.offer (Server.isPrimary t) st.template st.queue st.longData answer]) :
      PollsPassed t s := ⟨_, hs, by simp [Call.failedPoll?]⟩
  unfold executeQueue
  refine (hoffer.mono (fun s hs => hpassed hs) fun _ _ h => h).andThen ?_
  intro s r hs
  split
  · exact .inr ⟨_, hs⟩
  · exact .inr ⟨_, hs⟩
  · refine (course_executeRows st _ st.queue none s.1 s.2 fun _ => rfl).mono ?_ ?_
    · exact fun _ h => (hpassed hs).trans h
    · exact fun _ _ h => .inl (h.prepend hs (by simp [Call.failedPoll?]))

private theorem executeBatchWith_refused {st : Statement} (h : ¬(st.closed = false ∧ st.queue ≠ []))
    (counts : Results → List Int) (server : σ) :
    ∃ r, st.executeBatchWith counts server = .done (server, st) r := by
  unfold executeBatchWith
  split
  · exact ⟨_, rfl⟩
  · next hguard =>
    split
    · exact ⟨_, rfl⟩
    · next hqueue => exact absurd ⟨guardOpen_eq_ok hguard, by simpa using hqueue⟩ h

/-- The calls of a batch, as a server sees them that is watched from its start on. -/
def batchCalls (st : Statement) (counts : Results → List Int) (server : σ) : List Call :=
  (st.executeBatchWith counts (Traced.mk server [])).state.1.calls

/-- After a row has failed, a poll that fails ends the batch with its own failure.  So the first
failure of a row is the error of a batch, if no time limit ends it, unless a poll fails later with
another error. -/
theorem executeBatch_interrupted (st : Statement) (counts : Results → List Int) (server : σ) :
    (st.executeBatchWith counts (Traced.mk server [])).project (Prod.map Traced.server id) =
        st.executeBatchWith counts server ∧
      ∀ e, (st.batchCalls counts server).findSome? (Call.rowError? st) = some e →
        (∀ f, .poll (.error f) ∈ st.batchCalls counts server →
          (st.batchCalls counts server).getLast? = some (.poll (.error f)) ∧
            (st.executeBatchWith counts server).result = .error (st.failure f none)) ∧
        ((∀ d, (st.executeBatchWith counts server).result ≠ .error (.timedOut d)) →
          ((st.executeBatchWith counts server).result = .error e ↔
            ∀ f, .poll (.error f) ∈ st.batchCalls counts server → st.failure f none = e)) := by
  have hproject := project_executeBatchWith Traced.projection st counts (Traced.mk server [])
  refine ⟨hproject, ?_⟩
  intro e he
  by_cases hrun : st.closed = false ∧ st.queue ≠ []
  · obtain ⟨hstate, hresult⟩ :=
      executeBatchWith_ended hrun.1 hrun.2 counts (Traced.mk server [])
    have hcalls : st.batchCalls counts server =
        (st.queueRun (Traced.mk server [])).state.1.calls := by
      rw [batchCalls, hstate, state_runQueue]
    have hsame := congrArg Timed.result hproject
    rw [Timed.result_project, hresult] at hsame
    rw [← hsame]
    rw [hcalls] at he ⊢
    obtain (⟨calls, hloopCalls, hloop⟩ | ⟨answer, hoffered⟩) | ⟨d, htimedOut, hpassed⟩ :=
      (course_limited (course_executeQueue { st with path := none } (Traced.mk server [])
        st.batchLog) st.options.timeout).ended
    · change (st.queueRun (Traced.mk server [])).state.1.calls = calls at hloopCalls
      change LoopEnds _ none calls (st.queueRun (Traced.mk server [])).result at hloop
      rw [hloopCalls] at he ⊢
      refine ⟨fun f hf => ?_, fun _ => ?_⟩
      · obtain ⟨hlast, hr⟩ := hloop.of_poll hf
        refine ⟨hlast, ?_⟩
        rw [hr]
        rfl
      · refine Iff.trans ?_ (hloop.eq_error_iff he)
        cases (st.queueRun (Traced.mk server [])).result <;> simp [Except.map]
    · change (st.queueRun (Traced.mk server [])).state.1.calls = [_] at hoffered
      rw [hoffered] at he
      cases he
    · change (st.queueRun (Traced.mk server [])).result = _ at htimedOut
      change PollsPassed _ (st.queueRun (Traced.mk server [])).state.1 at hpassed
      obtain ⟨calls, hgrown, hpolls⟩ := hpassed
      rw [hgrown]
      refine ⟨fun f hf => ?_, fun hlimit => ?_⟩
      · cases hpolls _ hf
      · exact absurd (congrArg _ htimedOut) (hlimit d)
  · obtain ⟨r, hrefused⟩ := executeBatchWith_refused hrun counts (Traced.mk server [])
    rw [batchCalls, hrefused] at he
    cases he

def failsThenInterrupts : ScriptedServer :=
  { failCalls := [(1, .execution "duplicate")], pollsAllowed := some 1 }

theorem executeBatch_interrupted_second_poll :
    (threeRows.batchCalls Results.narrowCounts failsThenInterrupts).findSome?
        (Call.rowError? threeRows) =
      some (threeRows.failure (.execution "duplicate") (some [.int 1])) ∧
    (threeRows.batchCalls Results.narrowCounts failsThenInterrupts).getLast? =
      some (.poll (.error .interrupted)) ∧
    (threeRows.executeBatch failsThenInterrupts).result =
      .error (threeRows.failure .interrupted none) := by
  have hfirst : (threeRows.batchCalls Results.narrowCounts failsThenInterrupts).findSome?
      (Call.rowError? threeRows) =
        some (threeRows.failure (.execution "duplicate") (some [.int 1])) := rfl
  have hpolled : .poll (.error .interrupted) ∈
      threeRows.batchCalls Results.narrowCounts failsThenInterrupts :=
    List.mem_of_getLast? rfl
  have hends := executeBatch_interrupted threeRows Results.narrowCounts failsThenInterrupts
  exact ⟨hfirst, (hends.2 _ hfirst).1 .interrupted hpolled⟩

/-- The batch goes on after the first row failed, and then the interruption takes the place of
that failure. -/
theorem interruption_hides_failure :
    threeRows.options.continueBatch = true ∧ threeRows.options.timeout.isSome = true ∧
      ∃ before, threeRows.batchCalls Results.narrowCounts failsThenInterrupts =
          before ++ [.poll (.error .interrupted)] ∧
        before.findSome? (Call.rowError? threeRows) =
          some (threeRows.failure (.execution "duplicate") (some [.int 1])) ∧
        (threeRows.executeBatch failsThenInterrupts).result ≠
          .error (threeRows.failure (.execution "duplicate") (some [.int 1])) ∧
        (threeRows.executeBatch failsThenInterrupts).result =
          .error (.interrupted "query was interrupted") := by
  refine ⟨rfl, rfl, [.offer true threeRows.template threeRows.queue false (some (.ok false)),
    .poll (.ok ()), .execute true threeRows.template [.int 1] none
      (some (.error (.execution "duplicate"), []))], rfl, rfl, ?_, rfl⟩
  intro hfirst
  cases hfirst

end Statement
end SqlStatement
