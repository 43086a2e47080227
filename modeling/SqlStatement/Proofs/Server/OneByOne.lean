import SqlStatement.Proofs.Server.Moves
import SqlStatement.Proofs.Server.Traced
/-!
# Servers that take rows one by one

Such a server declines every batch, and it answers each execution with one result or a failure.
-/
namespace SqlStatement

namespace Results

def RecordsOne (before after : Results) : Prop :=
  (∃ count insertId, after = before.addUpdate count insertId) ∨
    ∃ set, after = before.addResultSet set

def Extends (before after : Results) (os : List Outcome) : Prop :=
  after.outcomes = before.outcomes ++ os ∧ after.joined = before.joined

theorem Extends.refl (log : Results) : Extends log log [] :=
  ⟨(List.append_nil _).symm, rfl⟩

theorem Extends.trans {a b c : Results} {os os' : List Outcome} (hab : Extends a b os)
    (hbc : Extends b c os') : Extends a c (os ++ os') := by
  refine ⟨?_, hbc.2.trans hab.2⟩
  rw [hbc.1, hab.1, List.append_assoc]

theorem extends_addFailure (log : Results) : Extends log log.addFailure [.failed] :=
  ⟨rfl, rfl⟩

theorem RecordsOne.extends {before after : Results} (h : before.RecordsOne after) :
    ∃ o, o ≠ .failed ∧ Extends before after [o] := by
  obtain ⟨count, insertId, rfl⟩ | ⟨set, rfl⟩ := h
  · exact ⟨.update count insertId, by simp, rfl, rfl⟩
  · exact ⟨.rows, by simp, rfl, rfl⟩

end Results

/-- Batches are declined and nothing is recorded for them; an execution records one result or
fails and records nothing.  The server may have to be in a good state, which it then keeps. -/
structure Server.AnswersOneByOne {σ κ : Type} [Server σ κ] (Good : σ → Prop) : Prop where
  declines : ∀ primary template rows longData server log, Good server →
    Good (Server.executeBatch primary template rows longData (server, log)).state.1 ∧
      (Server.executeBatch primary template rows longData (server, log)).state.2 = log ∧
      (Server.executeBatch primary template rows longData (server, log)).result = .ok false
  answers : ∀ primary template row limit server log, Good server →
    Good (Server.execute primary template row limit (server, log)).state.1 ∧
      ((Server.execute primary template row limit (server, log)).result = .ok () ∧
          log.RecordsOne (Server.execute primary template row limit (server, log)).state.2 ∨
        (∃ f, (Server.execute primary template row limit (server, log)).result = .error f) ∧
          (Server.execute primary template row limit (server, log)).state.2 = log)
  polls : ∀ server, Good server → Good (Server.poll server).1

structure Server.AnswersRows {σ κ : Type} [Server σ κ] (Good : σ → Prop) : Prop where
  answers : ∀ primary template row limit server log, Good server →
    Good (Server.execute primary template row limit (server, log)).state.1 ∧
      ((Server.execute primary template row limit (server, log)).result = .ok () ∧
          log.RecordsOne (Server.execute primary template row limit (server, log)).state.2 ∨
        (∃ f, (Server.execute primary template row limit (server, log)).result = .error f) ∧
          (Server.execute primary template row limit (server, log)).state.2 = log)
  polls : ∀ server, Good server → Good (Server.poll server).1

theorem Server.AnswersOneByOne.answersRows {σ κ : Type} [Server σ κ] {Good : σ → Prop}
    (h : Server.AnswersOneByOne Good) : Server.AnswersRows Good where
  answers := h.answers
  polls := h.polls

namespace ScriptedServer

def Declines (s : ScriptedServer) : Prop :=
  s.batch = .decline ∧ s.beforeCalls = [] ∧ s.beforeBatch = []

theorem state_sleep {τ α : Type} (millis : Option Nat) (s : τ) (work : τ → τ × α) :
    (sleep millis s work).state = (work s).1 := by
  cases millis <;> rfl

theorem result_sleep {τ α : Type} (millis : Option Nat) (s : τ) (work : τ → τ × α) :
    (sleep millis s work).result = (work s).2 := by
  cases millis <;> rfl

private theorem answerExecution_one (sql : String) (server : ScriptedServer) (log : Results) :
    (answerExecution sql (server, log)).2 = .ok () ∧
        log.RecordsOne (answerExecution sql (server, log)).1.2 ∨
      (∃ f, (answerExecution sql (server, log)).2 = .error f) ∧
        (answerExecution sql (server, log)).1.2 = log := by
  unfold answerExecution
  split
  · next f _ => exact .inr ⟨⟨f, rfl⟩, rfl⟩
  · split
    · next set _ => exact .inl ⟨rfl, .inr ⟨set, rfl⟩⟩
    · exact .inl ⟨rfl, .inl ⟨_, _, rfl⟩⟩

theorem answersRows {Good : ScriptedServer → Prop}
    (hcalls : ∀ server, Good server → server.beforeCalls = [])
    (hkept : ∀ a b, SameScript a b → Good a → Good b) : Server.AnswersRows Good where
  answers primary template row limit server log hgood := by
    have hsame := (movesAlong_sameScript.execute primary template row limit server log).state
    refine ⟨hkept _ _ hsame hgood, ?_⟩
    change (execute primary template row limit (server, log)).result = .ok () ∧
          log.RecordsOne (execute primary template row limit (server, log)).state.2 ∨
        (∃ f, (execute primary template row limit (server, log)).result = .error f) ∧
          (execute primary template row limit (server, log)).state.2 = log
    unfold execute
    dsimp only
    rw [state_sleep, result_sleep, hcalls server hgood]
    exact answerExecution_one _ (server.noteExecution primary _ row limit) log
  polls server hgood := hkept _ _ (movesAlong_sameScript.poll server) hgood

theorem Declines.of_sameScript {a b : ScriptedServer} (h : SameScript a b) (ha : a.Declines) :
    b.Declines := by
  unfold SameScript at h
  rw [h]
  exact ha

theorem answersOneByOne : Server.AnswersOneByOne Declines where
  declines primary template rows longData server log h := by
    obtain ⟨hbatch, hcalls, hbefore⟩ := h
    change Declines (executeBatch primary template rows longData (server, log)).state.1 ∧
      (executeBatch primary template rows longData (server, log)).state.2 = log ∧
      (executeBatch primary template rows longData (server, log)).result = .ok false
    unfold executeBatch
    dsimp only
    rw [state_sleep, result_sleep, hbefore]
    simp only [answerBatch, noteOffer, hbatch, List.foldl_nil, and_true]
    exact ⟨rfl, hcalls, rfl⟩
  answers := (answersRows (fun _ h => h.2.1) fun _ _ => Declines.of_sameScript).answers
  polls server h := h

end ScriptedServer
end SqlStatement
