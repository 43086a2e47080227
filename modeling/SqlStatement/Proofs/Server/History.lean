import SqlStatement.Proofs.Server.Moves
import SqlStatement.Proofs.Server.Traced
/-!
# Histories of watched servers

The history of a watched server only grows.  While a statement is at work it grows by requests of
that statement alone, `Traced.movesFor_grows`, and an execution or an offer is in it from the
start, however early the run is cut.
-/
namespace SqlStatement

namespace Call

def IsOf (q : Requests) : Call → Prop
  | .execute _ template row _ _ => template = q.template ∧ q.single row
  | .offer _ template rows longData _ =>
    template = q.template ∧ rows = q.queue ∧ longData = q.longData
  | .openProbe sql _ => sql = q.template.sql
  | .poll _ | .describe _ | .closeProbe _ => True

/-- The call sends a SQL text to the server. -/
def isSent : Call → Bool
  | .execute .. | .offer .. | .openProbe .. => true
  | .poll _ | .describe _ | .closeProbe _ => false

def isOffer : Call → Bool
  | .offer .. => true
  | _ => false

end Call

namespace Traced

variable {σ κ : Type} {P : Call → Prop} {a b c t : Traced σ}

def Grows (P : Call → Prop) (before after : Traced σ) : Prop :=
  ∃ calls, after.calls = before.calls ++ calls ∧ ∀ call ∈ calls, P call

def Asked (before after : Traced σ) : Prop :=
  ∃ calls, after.calls = before.calls ++ calls ∧ ∃ call ∈ calls, call.isSent = true

theorem Grows.refl (P : Call → Prop) (t : Traced σ) : Grows P t t :=
  ⟨[], (List.append_nil _).symm, List.forall_mem_nil _⟩

theorem Grows.trans (hab : Grows P a b) (hbc : Grows P b c) : Grows P a c := by
  obtain ⟨first, hfirst, hP⟩ := hab
  obtain ⟨second, hsecond, hP'⟩ := hbc
  refine ⟨first ++ second, ?_, List.forall_mem_append.2 ⟨hP, hP'⟩⟩
  rw [hsecond, hfirst, List.append_assoc]

theorem Grows.mono {P' : Call → Prop} (h : Grows P a b) (hP : ∀ call, P call → P' call) :
    Grows P' a b := by
  obtain ⟨calls, hcalls, hall⟩ := h
  exact ⟨calls, hcalls, fun call hcall => hP call (hall call hcall)⟩

theorem grows_note {call : Call} (h : P call) (server : σ) : Grows P t (t.note server call) :=
  ⟨[call], rfl, List.forall_mem_singleton.2 h⟩

theorem asked_note {call : Call} (h : call.isSent = true) (server : σ) :
    Asked t (t.note server call) :=
  ⟨[call], rfl, call, List.mem_singleton_self call, h⟩

theorem Asked.grows (hab : Asked a b) (hbc : Grows P b c) : Asked a c := by
  obtain ⟨first, hfirst, call, hcall, hsent⟩ := hab
  obtain ⟨second, hsecond, -⟩ := hbc
  refine ⟨first ++ second, ?_, call, List.mem_append_left second hcall, hsent⟩
  rw [hsecond, hfirst, List.append_assoc]

variable [Server σ κ] {Q : Traced σ → Prop}

theorem shows_execute {primary : Bool} {template : Template} {row : Row}
    {limit : Option Duration} {log : Results}
    (h : ∀ server answer, Q (t.note server (.execute primary template row limit answer))) :
    (Server.execute primary template row limit (t, log)).Shows fun s => Q s.1 :=
  (Timed.shows_true _).conclude (fun p _ => h p.1 none) fun _ => h _ _

theorem shows_executeBatch {primary : Bool} {template : Template} {rows : List Row}
    {longData : Bool} {log : Results}
    (h : ∀ server answer, Q (t.note server (.offer primary template rows longData answer))) :
    (Server.executeBatch primary template rows longData (t, log)).Shows fun s => Q s.1 :=
  (Timed.shows_true _).conclude (fun p _ => h p.1 none) fun _ => h _ _

theorem course_execute (primary : Bool) (template : Template) (row : Row)
    (limit : Option Duration) (t : Traced σ) (log : Results) :
    (Server.execute primary template row limit (t, log)).Course
      (fun s => s.1.calls = t.calls ++ [.execute primary template row limit none])
      fun s r => ∃ os,
        s.1.calls = t.calls ++ [.execute primary template row limit (some (r, os))] :=
  (Timed.shows_iff_course.1 (Timed.shows_true _)).conclude (fun _ _ => rfl)
    fun _ _ _ => ⟨_, rfl⟩

theorem course_executeBatch (primary : Bool) (template : Template) (rows : List Row)
    (longData : Bool) (t : Traced σ) (log : Results) :
    (Server.executeBatch primary template rows longData (t, log)).Course
      (fun s => s.1.calls = t.calls ++ [.offer primary template rows longData none])
      fun s r => s.1.calls = t.calls ++ [.offer primary template rows longData (some r)] :=
  (Timed.shows_iff_course.1 (Timed.shows_true _)).conclude (fun _ _ => rfl) fun _ _ _ => rfl

/-- The requests of a statement are all that it adds to a history. -/
theorem movesFor_grows (q : Requests) :
    Server.MovesFor q (Grows (Call.IsOf q) : Traced σ → Traced σ → Prop) where
  refl := .refl _
  trans := .trans
  execute _ _ _ _ _ hrow := shows_execute fun server _ => grows_note ⟨rfl, hrow⟩ server
  executeBatch _ _ _ := shows_executeBatch fun server _ => grows_note ⟨rfl, rfl, rfl⟩ server
  poll _ := grows_note trivial _
  openProbe _ :=
    have hprobe (answer : Except Failure Unit) :
        Call.IsOf q (.openProbe q.template.sql answer) := rfl
    grows_note (hprobe _) _
  describe _ := grows_note trivial _
  closeProbe _ := grows_note trivial _

end Traced
end SqlStatement
