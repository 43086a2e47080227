import SqlStatement.Failure
import SqlStatement.Results
import SqlStatement.Sql.Template
import SqlStatement.Timed
/-!
# Servers

What a statement needs of the server that it runs on.  A server is a type of states with the
operations below; each execution gets the log on which it records what happened.  Executions and
offers take time and can be cut at their pauses.  The three calls of a probe are answered at once,
so nothing here is about a probe that is given up between its calls.
-/
namespace SqlStatement

/-- The states of a server and a connection to it; `κ` are the changes that come from outside. -/
class Server (σ : Type) (κ : outParam Type) where
  isPrimary : σ → Bool
  threadId : σ → Nat
  escapeMode : σ → EscapeMode
  enforcesTimeout : σ → Bool
  /-- Executes a template with one row.  The limit is given only if the server enforces it. -/
  execute (primary : Bool) (template : Template) (row : Row) (limit : Option Duration) :
    σ × Results → Timed (σ × Results) (Except Failure Unit)
  /-- Executes a template with many rows at once; `false` says that this is not possible and
  that nothing was sent. -/
  executeBatch (primary : Bool) (template : Template) (rows : List Row) (longData : Bool) :
    σ × Results → Timed (σ × Results) (Except Failure Bool)
  poll : σ → σ × Except Failure Unit
  /-- Prepares a text on the server in order to describe it.  No call of a probe pauses. -/
  openProbe (sql : String) : σ → σ × Except Failure Unit
  describe : σ → σ × Except Failure Description
  closeProbe : σ → σ × Except Failure Unit
  change : κ → σ → σ

end SqlStatement
