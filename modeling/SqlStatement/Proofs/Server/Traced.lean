import SqlStatement.Proofs.Timed.Project
import SqlStatement.Server
/-!
# Servers with a history

Any server can be watched: `Traced` keeps every call that reaches the server with its answer.  A
call that is still going on stands in the history without one.  The history changes nothing:
`Traced.projection`.
-/
namespace SqlStatement

/-- A call to a server, with its answer where there is one. -/
inductive Call where
  /-- The answer comes with what was recorded meanwhile. -/
  | execute (primary : Bool) (template : Template) (row : Row) (limit : Option Duration)
      (answer : Option (Except Failure Unit × List Outcome))
  | offer (primary : Bool) (template : Template) (rows : List Row) (longData : Bool)
      (answer : Option (Except Failure Bool))
  | poll (answer : Except Failure Unit)
  | openProbe (sql : String) (answer : Except Failure Unit)
  | describe (answer : Except Failure Description)
  | closeProbe (answer : Except Failure Unit)

structure Traced (σ : Type) where
  server : σ
  calls : List Call := []

namespace Traced

variable {σ κ : Type}

def note (t : Traced σ) (server : σ) (call : Call) : Traced σ :=
  ⟨server, t.calls ++ [call]⟩

variable [Server σ κ]

instance : Server (Traced σ) κ where
  isPrimary t := Server.isPrimary t.server
  threadId t := Server.threadId t.server
  escapeMode t := Server.escapeMode t.server
  enforcesTimeout t := Server.enforcesTimeout t.server
  execute primary template row limit s :=
    let call := Call.execute primary template row limit
    (Server.execute primary template row limit (s.1.server, s.2)).conclude
      (fun p => (s.1.note p.1 (call none), p.2))
      fun p r =>
        ((s.1.note p.1 (call (some (r, p.2.outcomes.drop s.2.outcomes.length))), p.2), r)
  executeBatch primary template rows longData s :=
    let call := Call.offer primary template rows longData
    (Server.executeBatch primary template rows longData (s.1.server, s.2)).conclude
      (fun p => (s.1.note p.1 (call none), p.2))
      fun p r => ((s.1.note p.1 (call (some r)), p.2), r)
  poll t :=
    let (server, r) := Server.poll t.server
    (t.note server (.poll r), r)
  openProbe sql t :=
    let (server, r) := Server.openProbe sql t.server
    (t.note server (.openProbe sql r), r)
  describe t :=
    let (server, r) := Server.describe t.server
    (t.note server (.describe r), r)
  closeProbe t :=
    let (server, r) := Server.closeProbe t.server
    (t.note server (.closeProbe r), r)
  change c t := { t with server := Server.change c t.server }

@[simp] theorem isPrimary_eq (t : Traced σ) :
    Server.isPrimary t = Server.isPrimary t.server := rfl

theorem state_execute (primary : Bool) (template : Template) (row : Row)
    (limit : Option Duration) (t : Traced σ) (log : Results) :
    (Server.execute primary template row limit (t, log)).state =
      let run := Server.execute primary template row limit (t.server, log)
      (t.note run.state.1 (.execute primary template row limit
        (some (run.result, run.state.2.outcomes.drop log.outcomes.length))), run.state.2) :=
  Timed.state_conclude _ _ _

theorem result_execute (primary : Bool) (template : Template) (row : Row)
    (limit : Option Duration) (t : Traced σ) (log : Results) :
    (Server.execute primary template row limit (t, log)).result =
      (Server.execute primary template row limit (t.server, log)).result :=
  Timed.result_conclude _ _ _

theorem state_executeBatch (primary : Bool) (template : Template) (rows : List Row)
    (longData : Bool) (t : Traced σ) (log : Results) :
    (Server.executeBatch primary template rows longData (t, log)).state =
      let run := Server.executeBatch primary template rows longData (t.server, log)
      (t.note run.state.1 (.offer primary template rows longData (some run.result)),
        run.state.2) :=
  Timed.state_conclude _ _ _

theorem result_executeBatch (primary : Bool) (template : Template) (rows : List Row)
    (longData : Bool) (t : Traced σ) (log : Results) :
    (Server.executeBatch primary template rows longData (t, log)).result =
      (Server.executeBatch primary template rows longData (t.server, log)).result :=
  Timed.result_conclude _ _ _

theorem polled_cases {P : σ → Prop}
    (hpolls : ∀ server, P server → P (Server.poll server).1) (limit : Option Duration)
    (t : Traced σ) (ht : P t.server) :
    (∃ t' f, (if limit.isSome then Server.poll t else (t, .ok ())) = (t', .error f) ∧
        limit.isSome = true ∧ t'.calls = t.calls ++ [.poll (.error f)]) ∨
      ∃ t', (if limit.isSome then Server.poll t else (t, .ok ())) = (t', .ok ()) ∧
        P t'.server ∧
        t'.calls = t.calls ++ if limit.isSome then [.poll (.ok ())] else [] := by
  cases limit with
  | none => exact .inr ⟨t, rfl, ht, (List.append_nil _).symm⟩
  | some d =>
    have hpolled := hpolls t.server ht
    cases hanswer : (Server.poll t.server).2 with
    | error f =>
      refine .inl ⟨t.note (Server.poll t.server).1 (.poll (.error f)), f, ?_, rfl, rfl⟩
      rw [← hanswer]
      rfl
    | ok u =>
      refine .inr ⟨t.note (Server.poll t.server).1 (.poll (.ok ())), ?_, hpolled, rfl⟩
      rw [← hanswer]
      rfl

end Traced

/-- A view of the states of a server under which all its operations are those of another. -/
structure Server.Projection {σ τ κ : Type} [Server σ κ] [Server τ κ] (f : σ → τ) : Prop where
  isPrimary : ∀ s, Server.isPrimary (f s) = Server.isPrimary s
  threadId : ∀ s, Server.threadId (f s) = Server.threadId s
  escapeMode : ∀ s, Server.escapeMode (f s) = Server.escapeMode s
  enforcesTimeout : ∀ s, Server.enforcesTimeout (f s) = Server.enforcesTimeout s
  execute : ∀ primary template row limit s log,
    (Server.execute primary template row limit (s, log)).project (Prod.map f id) =
      Server.execute primary template row limit (f s, log)
  executeBatch : ∀ primary template rows longData s log,
    (Server.executeBatch primary template rows longData (s, log)).project (Prod.map f id) =
      Server.executeBatch primary template rows longData (f s, log)
  poll : ∀ s, Prod.map f id (Server.poll s) = Server.poll (f s)
  openProbe : ∀ sql s, Prod.map f id (Server.openProbe sql s) = Server.openProbe sql (f s)
  describe : ∀ s, Prod.map f id (Server.describe s) = Server.describe (f s)
  closeProbe : ∀ s, Prod.map f id (Server.closeProbe s) = Server.closeProbe (f s)
  change : ∀ c s, f (Server.change c s) = Server.change c (f s)

/-- Without its history a watched server is the server itself. -/
theorem Traced.projection {σ κ : Type} [Server σ κ] :
    Server.Projection (Traced.server : Traced σ → σ) where
  isPrimary _ := rfl
  threadId _ := rfl
  escapeMode _ := rfl
  enforcesTimeout _ := rfl
  execute _ _ _ _ _ _ := Timed.project_conclude_eq_self (fun _ => rfl) (fun _ _ => rfl) _
  executeBatch _ _ _ _ _ _ := Timed.project_conclude_eq_self (fun _ => rfl) (fun _ _ => rfl) _
  poll _ := rfl
  openProbe _ _ := rfl
  describe _ := rfl
  closeProbe _ := rfl
  change _ _ := rfl

end SqlStatement
