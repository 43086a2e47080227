import SqlStatement.Proofs.Server.Moves
/-!
# What a run records

`Server.Leads` tells how a server and the log of a run come to be what they are: by the requests
of one statement, each seen at any of its pauses, and by notes of the failures that it met.
Nothing else writes on the log.
-/
namespace SqlStatement

/-- Requests lead from a server with a log to other states of both. -/
inductive Server.Leads {σ κ : Type} [Server σ κ] (q : Requests) (start : σ × Results) :
    σ × Results → Prop
  | start : Server.Leads q start start
  | executes {s s' : σ × Results} {primary : Bool} {row : Row} {limit : Option Duration}
      (hs : Server.Leads q start s) (hrow : q.single row)
      (hs' : s' ∈ (Server.execute primary q.template row limit s).shown) : Server.Leads q start s'
  | offers {s s' : σ × Results} {primary : Bool} (hs : Server.Leads q start s)
      (hs' : s' ∈ (Server.executeBatch primary q.template q.queue q.longData s).shown) :
      Server.Leads q start s'
  | polls {server : σ} {log : Results} (hs : Server.Leads q start (server, log)) :
      Server.Leads q start ((Server.poll server).1, log)
  | notesFailure {server : σ} {log : Results} (hs : Server.Leads q start (server, log)) :
      Server.Leads q start (server, log.addFailure)

namespace Server.Leads

variable {σ κ : Type} [Server σ κ] {q : Requests} {start s : σ × Results}

theorem moves {R : σ → σ → Prop} (h : Server.MovesFor q R) (hs : Server.Leads q start s) :
    R start.1 s.1 := by
  induction hs with
  | start => exact h.refl start.1
  | @executes s s' primary row limit _ hrow hs' ih =>
    exact h.trans ih ((h.execute primary row limit s.1 s.2 hrow).of_mem_shown hs')
  | @offers s s' primary _ hs' ih =>
    exact h.trans ih ((h.executeBatch primary s.1 s.2).of_mem_shown hs')
  | polls _ ih => exact h.trans ih (h.poll _)
  | notesFailure _ ih => exact ih

theorem shows_execute (hs : Server.Leads q start s) (primary : Bool) {row : Row}
    (hrow : q.single row) (limit : Option Duration) :
    (Server.execute primary q.template row limit s).Shows (Server.Leads q start) :=
  (Timed.shows_shown _).mono fun _ hs' => .executes hs hrow hs'

theorem shows_executeBatch (hs : Server.Leads q start s) (primary : Bool) :
    (Server.executeBatch primary q.template q.queue q.longData s).Shows
      (Server.Leads q start) :=
  (Timed.shows_shown _).mono fun _ hs' => .offers hs hs'

end Server.Leads
end SqlStatement
