import SqlStatement.Proofs.Timed.Shows
import SqlStatement.Server.Scripted
/-!
# Moves of servers

A server moves along a relation when every operation of a statement leads from its state to
related ones, wherever the operation is cut.  Changes from outside are free.  A relation that
speaks of what was asked need only hold of the requests of the statement: `Server.MovesFor`.
-/
namespace SqlStatement

/-- Every operation leads to states that are related to the one before. -/
structure Server.MovesAlong {σ κ : Type} [Server σ κ] (R : σ → σ → Prop) : Prop where
  refl : ∀ s, R s s
  trans : ∀ {a b c}, R a b → R b c → R a c
  execute : ∀ primary template row limit server log,
    (Server.execute primary template row limit (server, log)).Shows fun s => R server s.1
  executeBatch : ∀ primary template rows longData server log,
    (Server.executeBatch primary template rows longData (server, log)).Shows fun s => R server s.1
  poll : ∀ server, R server (Server.poll server).1
  openProbe : ∀ sql server, R server (Server.openProbe sql server).1
  describe : ∀ server, R server (Server.describe server).1
  closeProbe : ∀ server, R server (Server.closeProbe server).1

theorem Server.MovesAlong.mono {σ κ : Type} [Server σ κ] {R S : σ → σ → Prop}
    (h : Server.MovesAlong R) (hRS : ∀ a b, R a b → S a b)
    (htrans : ∀ {a b c}, S a b → S b c → S a c) : Server.MovesAlong S where
  refl s := hRS s s (h.refl s)
  trans := htrans
  execute primary template row limit server log :=
    (h.execute primary template row limit server log).mono fun s => hRS server s.1
  executeBatch primary template rows longData server log :=
    (h.executeBatch primary template rows longData server log).mono fun s => hRS server s.1
  poll server := hRS _ _ (h.poll server)
  openProbe sql server := hRS _ _ (h.openProbe sql server)
  describe server := hRS _ _ (h.describe server)
  closeProbe server := hRS _ _ (h.closeProbe server)

/-- What one statement asks of a server: its template with single rows or with all of its queue. -/
structure Requests where
  template : Template
  single : Row → Prop
  queue : List Row
  longData : Bool

structure Server.MovesFor {σ κ : Type} [Server σ κ] (q : Requests) (R : σ → σ → Prop) :
    Prop where
  refl : ∀ s, R s s
  trans : ∀ {a b c}, R a b → R b c → R a c
  execute : ∀ primary row limit server log, q.single row →
    (Server.execute primary q.template row limit (server, log)).Shows fun s => R server s.1
  executeBatch : ∀ primary server log,
    (Server.executeBatch primary q.template q.queue q.longData (server, log)).Shows fun s =>
      R server s.1
  poll : ∀ server, R server (Server.poll server).1
  openProbe : ∀ server, R server (Server.openProbe q.template.sql server).1
  describe : ∀ server, R server (Server.describe server).1
  closeProbe : ∀ server, R server (Server.closeProbe server).1

theorem Server.MovesAlong.movesFor {σ κ : Type} [Server σ κ] {R : σ → σ → Prop}
    (h : Server.MovesAlong R) (q : Requests) : Server.MovesFor q R where
  refl := h.refl
  trans := h.trans
  execute primary row limit server log _ := h.execute primary q.template row limit server log
  executeBatch primary := h.executeBatch primary q.template q.queue q.longData
  poll := h.poll
  openProbe := h.openProbe q.template.sql
  describe := h.describe
  closeProbe := h.closeProbe

theorem Server.movesAlong_true {σ κ : Type} [Server σ κ] :
    Server.MovesAlong fun _ _ : σ => True where
  refl _ := trivial
  trans _ _ := trivial
  execute _ _ _ _ _ _ := Timed.shows_true _
  executeBatch _ _ _ _ _ _ := Timed.shows_true _
  poll _ := trivial
  openProbe _ _ := trivial
  describe _ := trivial
  closeProbe _ := trivial

def Server.KeepsMode (σ : Type) {κ : Type} [Server σ κ] : Prop :=
  Server.MovesAlong fun a b : σ => Server.escapeMode b = Server.escapeMode a

namespace ScriptedServer

def SameScript (a b : ScriptedServer) : Prop :=
  b = { a with record := b.record, nextInsertId := b.nextInsertId }

theorem SameScript.refl (a : ScriptedServer) : SameScript a a := rfl

theorem SameScript.trans {a b c : ScriptedServer} (hab : SameScript a b) (hbc : SameScript b c) :
    SameScript a c := by
  unfold SameScript at *
  rw [hbc, hab]

theorem shows_sleep {τ α : Type} {P : τ → Prop} (millis : Option Nat) {s : τ} {work : τ → τ × α}
    (hs : P s) (hwork : P (work s).1) : (sleep millis s work).Shows P := by
  cases millis with
  | none => exact hwork
  | some ms => exact Timed.shows_sleep ms hs hwork

private theorem sameScript_countUpdate (s : ScriptedServer × Results) :
    SameScript s.1 (countUpdate s).1 := rfl

private theorem sameScript_record (s : ScriptedServer) (record : Record) :
    SameScript s { s with record } := rfl

private theorem sameScript_foldl_countUpdate (rows : List Row) (s : ScriptedServer × Results) :
    SameScript s.1 (rows.foldl (fun s _ => countUpdate s) s).1 := by
  induction rows generalizing s with
  | nil => rfl
  | cons row rows ih => exact (sameScript_countUpdate s).trans (ih (countUpdate s))

private theorem sameScript_answerExecution (sql : String) (s : ScriptedServer × Results) :
    SameScript s.1 (answerExecution sql s).1.1 := by
  unfold answerExecution
  split
  · rfl
  · split <;> rfl

private theorem sameScript_answerBatch (template : Template) (rows : List Row) (longData : Bool)
    (s : ScriptedServer × Results) :
    SameScript s.1 (answerBatch template rows longData s).1.1 := by
  have hnoted : SameScript s.1 (s.1.noteOffer longData) := sameScript_record s.1 _
  unfold answerBatch
  dsimp only
  split
  · exact hnoted
  · exact hnoted
  · exact hnoted.trans (sameScript_foldl_countUpdate rows (s.1.noteOffer longData, s.2))
  · split <;> rfl

/-- Nothing a statement asks for changes the script. -/
theorem movesAlong_sameScript : Server.MovesAlong SameScript where
  refl := SameScript.refl
  trans := SameScript.trans
  execute primary template row limit server log :=
    have hnoted := sameScript_record server _
    shows_sleep _ hnoted (hnoted.trans (sameScript_answerExecution _ _))
  executeBatch primary template rows longData server log :=
    have hnoted := sameScript_record server _
    shows_sleep _ hnoted (hnoted.trans (sameScript_answerBatch template rows longData _))
  poll _ := rfl
  openProbe sql server := by
    change SameScript server (openProbe sql server).1
    unfold openProbe
    split <;> rfl
  describe _ := rfl
  closeProbe _ := rfl

theorem keepsMode : Server.KeepsMode ScriptedServer :=
  movesAlong_sameScript.mono (fun a b h => by rw [h]; rfl) fun hab hbc => hbc.trans hab

end ScriptedServer
end SqlStatement
