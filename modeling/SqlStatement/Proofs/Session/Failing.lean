import SqlStatement.Proofs.Session.WellFormed
import SqlStatement.Proofs.Statement.Failing
/-!
# Failing operations of sessions

An operation that ends in a local error leaves the whole session as it was, the histories of its
servers included, and tells no listener.  One that ends in another error has sent a text to a
server: `Session.FailedInto`.
-/
namespace SqlStatement

private theorem Ending.eq_error_of_ofExcept {α : Type} {reply : α → Reply}
    {r : Except StatementError α} {e : StatementError} (h : Ending.ofExcept reply r = .error e) :
    r = .error e := by
  cases r with
  | error e' => exact congrArg Except.error (Ending.error.inj h)
  | ok a => cases h

private theorem Options.isLocal_of_validate {o : Options} {e : StatementError}
    (h : o.validate = .error e) : e.isLocal = true := by
  unfold validate at h
  split at h <;> cases h
  rfl

variable {σ κ : Type} {e : StatementError}

private theorem Connection.isLocal_of_prepare [Server σ κ] {c : Connection σ} {i : Nat}
    {sql : String} {o : Options} (h : c.prepare i sql o = .error e) : e.isLocal = true := by
  unfold prepare at h
  cases hvalid : o.validate with
  | error refused =>
    rw [hvalid] at h
    cases h
    exact Options.isLocal_of_validate hvalid
  | ok _ =>
    rw [hvalid] at h
    cases h

private theorem Connection.isLocal_of_clone [Server σ κ] {c : Connection σ} {i : Nat}
    {st : Statement} (h : c.clone i st = .error e) : e.isLocal = true := by
  refine Statement.isLocal_of_guardOpen_bind ?_ h
  intro e h
  cases h

namespace Session

private theorem isLocal_of_clone [Server σ κ] {s : Session σ} {st : Statement}
    (h : s.clone st = .error e) : e.isLocal = true := by
  refine Statement.isLocal_of_guardOpen_bind ?_ h
  intro e h
  split at h
  · cases h
    rfl
  · exact Connection.isLocal_of_clone h

private theorem isLocal_of_ask [Server σ κ] {s : Session σ} {st : Statement} {q : Query}
    (h : s.ask st q = .error e) : e.isLocal = true := by
  cases q with
  | cloneText => exact isLocal_of_clone (Ending.eq_error_of_ofExcept h)
  | _ => cases h

private theorem eq_of_abandonedAfter_error {τ : Type} {patience : Option Nat} {run : Timed τ Ending}
    (h : (abandonedAfter patience run).result = .error e) :
    (abandonedAfter patience run).state = run.state ∧ run.result = .error e := by
  cases patience with
  | none => exact ⟨rfl, h⟩
  | some ms =>
    rw [abandonedAfter, Timed.map, Timed.result_conclude] at h
    rw [abandonedAfter, Timed.map, Timed.state_conclude]
    cases hcut : (run.cut ms).result with
    | none =>
      rw [hcut] at h
      cases h
    | some ending =>
      rw [hcut] at h
      have hsame := Timed.eq_of_result_cut hcut
      exact ⟨hsame.1, hsame.2.trans h⟩

/-- What an operation that ends in an error does to a session. -/
structure FailedInto (s : Session (Traced σ)) (e : StatementError) (s' : Session (Traced σ))
    (deliveries : List Delivery) : Prop where
  unchanged : e.isLocal = true → s' = s ∧ deliveries = []
  asked : e.isLocal = false → ∃ (i : Nat) (c c' : Connection (Traced σ)),
    s.connections[i]? = some c ∧ s'.connections[i]? = some c' ∧ c.server.Asked c'.server

variable {s s' : Session (Traced σ)} {answer : Answer}

private theorem failedInto_self (h : e.isLocal = true) : s.FailedInto e s [] where
  unchanged _ := ⟨rfl, rfl⟩
  asked hremote := by
    rw [h] at hremote
    cases hremote

private theorem failedInto_add {made : Except StatementError Statement}
    (hmade : ∀ e, made = .error e → e.isLocal = true) (h : s.add made = (s', answer))
    (he : answer.ending = .error e) : s.FailedInto e s' answer.deliveries := by
  cases made with
  | error refused =>
    cases h
    cases he
    exact failedInto_self (hmade _ rfl)
  | ok st =>
    cases h
    cases he

private theorem failedInto_edit {p : Nat} {st : Statement} {edit : Edit}
    (h : s.edit p st edit = (s', answer)) (he : answer.ending = .error e) :
    s.FailedInto e s' answer.deliveries := by
  unfold Session.edit at h
  split at h
  · cases h
    cases he
  · next refused hedit =>
    cases h
    cases he
    exact failedInto_self (Statement.isLocal_of_edit? hedit)

private theorem failedInto_onServer {p : Nat} {st : Statement}
    {work : Traced σ → Timed (Traced σ × Statement) Ending} (hst : s.statements[p]? = some st)
    (hwork : ∀ t, (work t).result = .error e → Statement.Failed t st e (work t).state)
    (h : s.onServer p st work = (s', answer)) (he : answer.ending = .error e) :
    s.FailedInto e s' answer.deliveries := by
  unfold onServer at h
  split at h
  · cases h
    cases he
    exact failedInto_self rfl
  · next i c hconnection =>
    obtain ⟨-, hc⟩ := connectionOf?_eq_some hconnection
    cases h
    have hfailed := hwork c.server he
    dsimp only
    generalize (work c.server).state = state at hfailed
    cases hfailed with
    | refused hlocal =>
      rw [setServer_self hc, setStatement_self hst]
      exact failedInto_self hlocal
    | @answered t' st' hremote hasked =>
      constructor
      · intro hlocal
        rw [hremote] at hlocal
        cases hlocal
      · intro _
        refine ⟨i, c, { c with server := t' }, hc, ?_, hasked⟩
        simp [setStatement, setServer, hc]

private theorem ending_ne_error_of_close [Server σ κ] {s s' : Session σ} {p : Nat} {st : Statement}
    (h : s.close p st = (s', answer)) : answer.ending ≠ .error e := by
  unfold Session.close at h
  dsimp only at h
  split at h
  · cases h
    nofun
  · split at h <;> cases h <;> nofun

private theorem ending_ne_error_of_setPools? {s s' : Session σ} {pool : Nat} {pools : Pools}
    {deliveries : List Delivery} (h : s.setPools? pool pools deliveries = some (s', answer)) :
    answer.ending ≠ .error e := by
  obtain ⟨is, -, h⟩ := Option.map_eq_some_iff.1 h
  cases h
  nofun

private theorem failed_map_ofExcept {α : Type} {reply : α → Reply} {t : Traced σ} {st : Statement}
    {run : Timed (Traced σ × Statement) (Except StatementError α)}
    (hrun : Statement.FailsOnly t st run)
    (h : (run.map (Ending.ofExcept reply)).result = .error e) :
    Statement.Failed t st e (run.map (Ending.ofExcept reply)).state := by
  rw [Timed.map, Timed.result_conclude] at h
  rw [Timed.map, Timed.state_conclude]
  exact hrun e (Ending.eq_error_of_ofExcept h)

variable [Server σ κ]

private theorem failed_run {st : Statement} {x : Execution} {t : Traced σ}
    (h : (run st x t).result = .error e) : Statement.Failed t st e (run st x t).state := by
  have hexecute : Statement.FailsOnly t st (st.execute t) := Statement.failsOnly_execute
  have hlargeUpdate : Statement.FailsOnly t st (st.executeLargeUpdate t) :=
    hexecute.conclude fun s isRows => if isRows then 0 else s.2.updateCount.getD 0
  cases x with
  | once => exact failed_map_ofExcept hexecute h
  | query =>
    exact failed_map_ofExcept (hexecute.conclude fun s _ => s.2.resultSet.getD .empty) h
  | update =>
    exact failed_map_ofExcept (hlargeUpdate.conclude fun _ => Statement.countOrMax) h
  | largeUpdate => exact failed_map_ofExcept hlargeUpdate h
  | batch => exact failed_map_ofExcept (Statement.failsOnly_executeBatchWith _) h
  | largeBatch => exact failed_map_ofExcept (Statement.failsOnly_executeBatchWith _) h

/-- An operation that ends in an error has changed nothing, or it has sent a text. -/
theorem failedInto_step {op : Op κ} (h : s.step op = some (s', answer))
    (he : answer.ending = .error e) : s.FailedInto e s' answer.deliveries := by
  cases op with
  | prepare i sql o =>
    obtain ⟨c, -, h⟩ := Option.map_eq_some_iff.1 h
    exact failedInto_add (fun _ => Connection.isLocal_of_prepare) h he
  | clone p =>
    obtain ⟨st, -, h⟩ := Option.map_eq_some_iff.1 h
    exact failedInto_add (fun _ => isLocal_of_clone) h he
  | cloneOnto p i =>
    obtain ⟨st, -, h⟩ := Option.bind_eq_some_iff.1 h
    obtain ⟨c, -, h⟩ := Option.map_eq_some_iff.1 h
    exact failedInto_add (fun _ => Connection.isLocal_of_clone) h he
  | edit p edit =>
    obtain ⟨st, -, h⟩ := Option.map_eq_some_iff.1 h
    exact failedInto_edit h he
  | ask p q =>
    obtain ⟨st, -, h⟩ := Option.map_eq_some_iff.1 h
    cases h
    exact failedInto_self (isLocal_of_ask he)
  | execute p x patience =>
    obtain ⟨st, hst, h⟩ := Option.map_eq_some_iff.1 h
    refine failedInto_onServer hst ?_ h he
    intro t herror
    obtain ⟨hstate, hresult⟩ := eq_of_abandonedAfter_error herror
    rw [hstate]
    exact failed_run hresult
  | metadata p =>
    obtain ⟨st, hst, h⟩ := Option.map_eq_some_iff.1 h
    refine failedInto_onServer hst ?_ h he
    intro t herror
    exact Statement.failed_metadata (Ending.eq_error_of_ofExcept herror)
  | parameterMetadata p =>
    obtain ⟨st, hst, h⟩ := Option.map_eq_some_iff.1 h
    refine failedInto_onServer hst ?_ h he
    intro t herror
    exact Statement.failed_parameterMetadata (Ending.eq_error_of_ofExcept herror)
  | close p =>
    obtain ⟨st, -, h⟩ := Option.map_eq_some_iff.1 h
    exact absurd he (ending_ne_error_of_close h)
  | connection i sql | connectionListing i | change i change =>
    obtain ⟨c, -, h⟩ := Option.map_eq_some_iff.1 h
    cases h
    cases he
  | newListener l => exact absurd he (ending_ne_error_of_setPools? h)
  | addListener pool name | removeListener pool name =>
    obtain ⟨_, -, h⟩ := Option.bind_eq_some_iff.1 h
    exact absurd he (ending_ne_error_of_setPools? h)
  | fire pool notice => exact absurd he (ending_ne_error_of_setPools? h)
  | poolListing pool =>
    obtain ⟨is, -, h⟩ := Option.map_eq_some_iff.1 h
    cases h
    cases he

/-- The operation needs a value for every placeholder of the statement at the position. -/
inductive NeedsRow (p : Nat) : Op κ → Prop
  | addBatch : NeedsRow p (.edit p .addBatch)
  | execute {x : Execution} (patience : Option Nat) (hx : x ≠ .batch ∧ x ≠ .largeBatch) :
      NeedsRow p (.execute p x patience)

theorem run_of_refused {st : Statement} {x : Execution} {server : σ}
    (hx : x ≠ .batch ∧ x ≠ .largeBatch) (h : st.guardOpen *> st.row = .error e) :
    run st x server = .done (server, st) (.error e) := by
  have hexecute : st.execute server = .done (server, st) (.error e) := by
    rw [Statement.execute, h]
  have hlargeUpdate : st.executeLargeUpdate server = .done (server, st) (.error e) := by
    rw [Statement.executeLargeUpdate, hexecute]
    rfl
  cases x with
  | once =>
    rw [run, hexecute]
    rfl
  | query =>
    rw [run, Statement.executeQuery, hexecute]
    rfl
  | update =>
    rw [run, Statement.executeUpdate, hlargeUpdate]
    rfl
  | largeUpdate =>
    rw [run, hlargeUpdate]
    rfl
  | batch => exact absurd rfl hx.1
  | largeBatch => exact absurd rfl hx.2

theorem onServer_done {s : Session σ} {p i : Nat} {st : Statement} {c : Connection σ}
    {ending : Ending} (hst : s.statements[p]? = some st)
    (hconnection : s.connectionOf? st = some (i, c)) {work : σ → Timed (σ × Statement) Ending}
    (hwork : work c.server = .done (c.server, st) ending) :
    s.onServer p st work = (s, { ending, statement := p }) := by
  have hc := (connectionOf?_eq_some hconnection).2
  rw [onServer, hconnection]
  dsimp only
  rw [hwork]
  dsimp only [Timed.state, Timed.result, Timed.elapsed]
  rw [setServer_self hc, setStatement_self hst]

private theorem step_of_unset {s : Session σ} {op : Op κ} {p k i : Nat} {st : Statement}
    {c : Connection σ} (hop : NeedsRow p op) (hst : s.statements[p]? = some st)
    (hopen : st.closed = false) (hconnection : s.connectionOf? st = some (i, c))
    (hunset : st.slots[k]? = some none) (hset : ∀ j < k, st.slots[j]? ≠ some none) :
    s.step op =
      some (s, { ending := .error (.unbound ⟨k + 1, st.slots.length⟩), statement := p }) := by
  have hrow := Statement.row_of_unset hunset hset
  have hguard := Statement.guardOpen_of_open hopen
  cases hop with
  | addBatch =>
    have hedit : st.edit? .addBatch = .error (.unbound ⟨k + 1, st.slots.length⟩) := by
      rw [Statement.edit?, Statement.addBatch, hguard, hrow]
      rfl
    rw [step, hst, Option.map_some, Session.edit, hedit]
  | execute patience hx =>
    have hrefused : st.guardOpen *> st.row = .error (.unbound ⟨k + 1, st.slots.length⟩) := by
      rw [hguard, hrow]
      rfl
    rw [step, hst, Option.map_some]
    refine congrArg some (onServer_done hst hconnection ?_)
    rw [run_of_refused hx hrefused, abandonedAfter_done]

/-- In every state that a run can reach, an operation that ends in a local error changes nothing
and tells nobody, and one that ends in another error has sent a text to a server.  What needs all
values of an open statement is refused at the first that is not set. -/
theorem errors_after (connections : List (Connection σ)) (pools : Pools) (ops : List (Op κ)) :
    ((start connections pools).watched.after ops).mapServers Traced.server =
      (start connections pools).after ops ∧
    (∀ op s' answer e, ((start connections pools).after ops).step op = some (s', answer) →
      answer.ending = .error e →
        ∃ t', ((start connections pools).watched.after ops).step op = some (t', answer) ∧
          t'.mapServers Traced.server = s' ∧
          ((start connections pools).watched.after ops).FailedInto e t' answer.deliveries) ∧
    ∀ p st k, ((start connections pools).after ops).statements[p]? = some st →
      st.closed = false → st.slots[k]? = some none → (∀ j < k, st.slots[j]? ≠ some none) →
        ∀ op, NeedsRow p op → ∃ answer, ((start connections pools).after ops).step op =
          some ((start connections pools).after ops, answer) ∧
          answer.ending = .error (.unbound ⟨k + 1, st.template.paramCount⟩) := by
  refine ⟨after_watched _ ops, ?_, ?_⟩
  · intro op s' answer e hstep he
    have hwatched := step_mapServers Traced.projection
      ((start connections pools).watched.after ops) op
    rw [after_watched, hstep] at hwatched
    obtain ⟨⟨t', answer'⟩, ht', hsame⟩ := Option.map_eq_some_iff.1 hwatched.symm
    cases hsame
    exact ⟨t', ht', rfl, failedInto_step ht' he⟩
  · intro p st k hst hopen hunset hset op hop
    have hmem := List.mem_of_getElem? hst
    obtain ⟨i, c, -, hconnection⟩ := connectionOf?_of_open connections pools hmem hopen
    have hslots := (hasWellFormed_after connections pools ops st hmem).slots
    rw [← hslots]
    exact ⟨_, step_of_unset hop hst hopen hconnection hunset hset, rfl⟩

def failingServer : List (Connection ScriptedServer) :=
  [⟨{ failCalls := [(1, { kind := .execution, message := "duplicate", code := 1062 })] }, {},
    none⟩]

def halfBound : List (Op ScriptChange) :=
  [.prepare 0 "insert into t values (?, ?)" none, .edit 0 (.setValue 1 (.int 7))]

theorem errors_after_bound :
    (∃ answer, ((start failingServer (.ofCount 0)).after halfBound).step (.execute 0 .once none) =
        some ((start failingServer (.ofCount 0)).after halfBound, answer) ∧
      answer.ending = .error (.unbound ⟨2, 2⟩)) ∧
    ∃ (t' : Session (Traced ScriptedServer)) (answer : Answer) (e : StatementError) (i : Nat)
        (c c' : Connection (Traced ScriptedServer)),
      ((start failingServer (.ofCount 0)).watched.after
          (halfBound ++ [.edit 0 (.setValue 2 .null)])).step (.execute 0 .once none) =
        some (t', answer) ∧
      answer.ending = .error e ∧ e.code = 1062 ∧
      ((start failingServer (.ofCount 0)).watched.after
          (halfBound ++ [.edit 0 (.setValue 2 .null)])).connections[i]? = some c ∧
      t'.connections[i]? = some c' ∧ c.server.Asked c'.server := by
  have hop : NeedsRow 0 (.execute 0 .once none : Op ScriptChange) := .execute none (by decide)
  have hset : ∀ j < 1, [some (Value.int 7), none][j]? ≠ some none := by
    intro j hj
    obtain rfl : j = 0 := by omega
    nofun
  obtain ⟨-, -, hunset⟩ := errors_after failingServer (.ofCount 0) halfBound
  obtain ⟨-, herrors, -⟩ := errors_after failingServer (.ofCount 0)
    (halfBound ++ [.edit 0 (.setValue 2 .null)])
  obtain ⟨t', ht', -, hfailed⟩ := herrors (.execute 0 .once none) _ _ _ rfl rfl
  obtain ⟨i, c, c', hc, hc', hasked⟩ := hfailed.asked rfl
  exact ⟨hunset 0 _ 1 rfl rfl rfl hset _ hop, t', _, _, i, c, c', ht', rfl, rfl, hc, hc', hasked⟩

end Session
end SqlStatement
