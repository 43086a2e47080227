import SqlStatement.Proofs.Server.History
import SqlStatement.Proofs.Statement.Frame
import SqlStatement.Statement.Discovery
/-!
# Failing operations of statements

An operation that fails was either refused with a local error, and then the statement and its
server are as before, or a text was sent to the server meanwhile: `Statement.Failed`.
-/
namespace SqlStatement

private theorem ErrorContext.isLocal_ofFailure (ctx : ErrorContext) (f : Failure) (sql : String)
    (row : Option Row) : (ctx.ofFailure f sql row).isLocal = false := by
  unfold ofFailure
  split
  · rfl
  · dsimp only
    split <;> rfl

private theorem eq_error_of_map {ε α β : Type} {r : Except ε α} {f : α → β} {e : ε}
    (h : r.map f = .error e) : r = .error e := by
  cases r with
  | error e' => exact congrArg Except.error (Except.error.inj h)
  | ok a => cases h

namespace Statement

variable {st : Statement} {e : StatementError}

private theorem isLocal_failure (st : Statement) (f : Failure) (row : Option Row) :
    (st.failure f row).isLocal = false :=
  ErrorContext.isLocal_ofFailure _ f _ row

private theorem isLocal_of_guardOpen (h : st.guardOpen = .error e) : e.isLocal = true := by
  unfold guardOpen at h
  split at h
  · cases h
    rfl
  · cases h

theorem isLocal_of_guardOpen_bind {α : Type} {next : Except StatementError α}
    (hnext : ∀ e, next = .error e → e.isLocal = true)
    (h : (st.guardOpen >>= fun _ => next) = .error e) : e.isLocal = true := by
  rcases guardOpen_bind_eq_error h with ⟨-, rfl⟩ | ⟨-, h⟩
  · rfl
  · exact hnext e h

private theorem isLocal_of_row (h : st.row = .error e) : e.isLocal = true := by
  unfold row at h
  split at h
  · cases h
    rfl
  · cases h

theorem row_of_unset {k : Nat} (hunset : st.slots[k]? = some none)
    (hset : ∀ j < k, st.slots[j]? ≠ some none) :
    st.row = .error (.unbound ⟨k + 1, st.slots.length⟩) := by
  obtain ⟨hlt, hk⟩ := List.getElem?_eq_some_iff.1 hunset
  have hfirst : st.slots.findIdx? Option.isNone = some k := by
    rw [List.findIdx?_eq_some_iff_getElem]
    refine ⟨hlt, by rw [hk]; rfl, ?_⟩
    intro j hj hnone
    have hj' := hset j hj
    rw [List.getElem?_eq_getElem (by omega)] at hj'
    exact hj' (congrArg some (Option.isNone_iff_eq_none.1 hnone))
  rw [row, hfirst]

theorem isLocal_of_edit? {edit : Edit} (h : st.edit? edit = .error e) : e.isLocal = true := by
  cases edit?_eq_error h with
  | unset _ hrow => exact isLocal_of_row hrow
  | _ => rfl

variable {σ κ : Type}

/-- What is left of a statement and its server by an operation that failed. -/
inductive Failed (t : Traced σ) (st : Statement) (e : StatementError) :
    Traced σ × Statement → Prop
  | refused (hlocal : e.isLocal = true) : Failed t st e (t, st)
  | answered {t' : Traced σ} {st' : Statement} (hlocal : e.isLocal = false)
      (hasked : t.Asked t') : Failed t st e (t', st')

def FailsOnly {α : Type} (t : Traced σ) (st : Statement)
    (run : Timed (Traced σ × Statement) (Except StatementError α)) : Prop :=
  ∀ e, run.result = .error e → Failed t st e run.state

theorem FailsOnly.conclude {α β : Type} {t : Traced σ}
    {run : Timed (Traced σ × Statement) (Except StatementError α)} (h : FailsOnly t st run)
    (view : Traced σ × Statement → α → β) :
    FailsOnly t st (run.conclude id fun s r => (s, r.map (view s))) := by
  intro e he
  rw [Timed.result_conclude] at he
  rw [Timed.state_conclude]
  exact h e (eq_error_of_map he)

private theorem failsOnly_of_answered {α : Type} {t : Traced σ}
    {run : Timed (Traced σ × Statement) (Except StatementError α)}
    (hlocal : ∀ e, run.result = .error e → e.isLocal = false) (hasked : t.Asked run.state.1) :
    FailsOnly t st run :=
  fun e he => .answered (hlocal e he) hasked

private theorem isLocal_of_limited {τ α : Type} {limit : Option Duration}
    {run : Timed τ (Except StatementError α)}
    (hrun : ∀ e, run.result = .error e → e.isLocal = false)
    (h : (limited limit run).result = .error e) : e.isLocal = false := by
  cases limit with
  | none => exact hrun e h
  | some d =>
    rw [limited, Timed.map, Timed.result_conclude] at h
    cases hcut : (run.cut d.millis).result with
    | none =>
      rw [hcut] at h
      cases h
      rfl
    | some r =>
      rw [hcut] at h
      exact hrun e ((Timed.eq_of_result_cut hcut).2.trans h)

variable [Server σ κ]

private theorem isLocal_of_executeRow {row : Row} {server : σ}
    (h : (st.executeRow row server).result = .error e) : e.isLocal = false := by
  unfold executeRow at h
  dsimp only at h
  rw [Timed.result_conclude] at h
  refine isLocal_of_limited ?_ (eq_error_of_map h)
  intro e he
  rw [Timed.map, Timed.result_conclude] at he
  dsimp only at he
  cases hanswer : (Server.execute (Server.isPrimary server) st.template row
      (st.limits server).1 (server, _)).result with
  | ok _ =>
    rw [hanswer] at he
    cases he
  | error f =>
    rw [hanswer] at he
    cases he
    exact isLocal_failure st f _

private theorem isLocal_of_executeRows {primary : Bool} {rows : List Row}
    {first : Option StatementError} {s : σ × Results}
    (hfirst : ∀ e ∈ first, e.isLocal = false)
    (h : (st.executeRows primary rows first s).result = .error e) : e.isLocal = false := by
  induction rows generalizing first s with
  | nil =>
    cases first with
    | none => cases h
    | some failed =>
      cases h
      exact hfirst _ rfl
  | cons row rows ih =>
    unfold executeRows at h
    dsimp only at h
    split at h
    · cases h
      exact isLocal_failure st _ none
    · rw [Timed.result_andThen] at h
      split at h
      · exact ih hfirst h
      · next f _ =>
        have hfailed : (st.failure f (some row)).isLocal = false := isLocal_failure st f _
        split at h
        · refine ih ?_ h
          cases first with
          | none => simpa using hfailed
          | some failed => simpa using hfirst
        · cases h
          exact hfailed

private theorem isLocal_of_executeQueue {s : σ × Results}
    (h : (st.executeQueue s).result = .error e) : e.isLocal = false := by
  unfold executeQueue at h
  dsimp only at h
  rw [Timed.result_andThen] at h
  split at h
  · cases h
    exact isLocal_failure st _ none
  · cases h
  · exact isLocal_of_executeRows (by simp) h

private theorem isLocal_of_runQueue {server : σ} (h : (st.runQueue server).result = .error e) :
    e.isLocal = false := by
  unfold runQueue at h
  dsimp only at h
  rw [Timed.result_conclude] at h
  exact isLocal_of_limited (fun _ => isLocal_of_executeQueue) (eq_error_of_map h)

variable {t : Traced σ}

theorem failsOnly_execute : FailsOnly t st (st.execute t) := by
  unfold execute
  split
  · next refused hrow =>
    intro e he
    cases he
    exact .refused (isLocal_of_guardOpen_bind (fun _ => isLocal_of_row) hrow)
  · next row hrow =>
    have hopen := (guardOpen_bind_eq_ok hrow).1
    have hshows : (st.executeRow row t).Shows fun s => t.Asked s.1 ∧ st.Proceeds s.2 :=
      shows_executeRow hopen fun primary limit log =>
        Traced.shows_execute fun server answer => Traced.asked_note rfl server
    exact failsOnly_of_answered (fun _ => isLocal_of_executeRow) hshows.state.1

private theorem asked_executeQueue (t : Traced σ) (log : Results) :
    (st.executeQueue (t, log)).Shows fun s => t.Asked s.1 := by
  refine shows_executeQueue (Traced.movesFor_grows _) (fun a b hab ha => ha.grows hab) ?_
  exact Traced.shows_executeBatch fun server answer => Traced.asked_note rfl server

theorem failsOnly_executeBatchWith (counts : Results → List Int) :
    FailsOnly t st (st.executeBatchWith counts t) := by
  unfold executeBatchWith
  split
  · next refused hguard =>
    intro e he
    cases he
    exact .refused (isLocal_of_guardOpen hguard)
  · next hguard =>
    split
    · intro e he
      cases he
    · have hshows := shows_runQueue (guardOpen_eq_ok hguard) (asked_executeQueue t)
      exact (failsOnly_of_answered (fun _ => isLocal_of_runQueue) hshows.state.1).conclude
        fun s _ => (s.2.results.map counts).getD []

private theorem asked_probe (sql : String) (t : Traced σ) : t.Asked (probe sql t).1 := by
  have hopened : t.Asked (Server.openProbe sql t).1 := Traced.asked_note rfl _
  unfold probe
  split
  · next heq => rwa [heq] at hopened
  · next opened heq =>
    rw [heq] at hopened
    have hdescribed : opened.Grows (fun _ => True) (Server.describe opened).1 :=
      Traced.grows_note trivial _
    have hclosed : (Server.describe opened).1.Grows (fun _ => True)
        (Server.closeProbe (Server.describe opened).1).1 := Traced.grows_note trivial _
    exact hopened.grows (hdescribed.trans hclosed)

private theorem failed_load (h : (st.load t).2 = .error e) : Failed t st e (st.load t).1 := by
  have hasked := asked_probe st.template.sql t
  revert h
  unfold load
  split
  · intro h
    cases h
  · next f hprobe =>
    rw [hprobe] at hasked
    split
    · intro h
      cases h
      exact .answered (ErrorContext.isLocal_ofFailure _ f _ none) hasked
    · intro h
      cases h

theorem failed_metadata (h : (st.metadata t).2 = .error e) :
    Failed t st e (st.metadata t).1 := by
  revert h
  unfold metadata
  split
  · next refused hguard =>
    intro h
    cases h
    exact .refused (isLocal_of_guardOpen hguard)
  · split
    · intro h
      cases h
    · split
      · intro h
        cases h
      · intro h
        exact failed_load (eq_error_of_map h)

theorem failed_parameterMetadata (h : (st.parameterMetadata t).2 = .error e) :
    Failed t st e (st.parameterMetadata t).1 := by
  revert h
  unfold parameterMetadata
  split
  · next refused hguard =>
    intro h
    cases h
    exact .refused (isLocal_of_guardOpen hguard)
  · split
    · intro h
      cases h
    · exact failed_load

end Statement
end SqlStatement
