import SqlStatement.Pools
import SqlStatement.Statement.Edit
/-!
# Operations of sessions

What can be asked of a session, and what it answers.  Statements, connections and pools are named
by their position, listeners by the latest name given to them.
-/
namespace SqlStatement

inductive Execution where
  | once
  | query
  | update
  | largeUpdate
  | batch
  | largeBatch
deriving DecidableEq, Repr

def Execution.isBatch : Execution → Bool
  | .batch | .largeBatch => true
  | _ => false

inductive Query where
  | state
  | value (index : Nat)
  | options
  | cloneText
  | listing

inductive Op (κ : Type) where
  | prepare (connection : Nat) (sql : String) (options : Option Options)
  | clone (statement : Nat)
  | cloneOnto (statement connection : Nat)
  | edit (statement : Nat) (e : Edit)
  | ask (statement : Nat) (q : Query)
  | execute (statement : Nat) (e : Execution) (patience : Option Nat)
  /-- Asks for the shape of the rows.  Neither this nor the next question has a patience: as probes
  do not pause, the caller cannot give up a question halfway and leave a probe open. -/
  | metadata (statement : Nat)
  | parameterMetadata (statement : Nat)
  | close (statement : Nat)
  | connection (connection : Nat) (sql : String)
  | connectionListing (connection : Nat)
  | change (connection : Nat) (c : κ)
  | newListener (l : Listener)
  | addListener (pool : Nat) (name : String)
  | removeListener (pool : Nat) (name : String)
  | fire (pool : Nat) (notice : Notice)
  | poolListing (pool : Nat)

inductive Reply where
  | nothing
  | bool (b : Bool)
  | count (n : Int)
  | counts (ns : List Int)
  | rows (set : ResultSet)
  | shape (s : Option RowShape)
  | parameters (s : ParameterShape)
  | value (v : Option Value)
  | options (o : Options)
  | text (s : String)
  | cloneText (text : String) (paramCount : Nat)
  | statement (position : Nat)
  | connection (options : Options) (pooled : Bool) (label excerpt : String)
  | pool (listeners : Nat)

inductive Ending where
  | reply (r : Reply)
  | error (e : StatementError)
  | abandoned

def Ending.ofExcept {α : Type} (reply : α → Reply) : Except StatementError α → Ending
  | .ok a => .reply (reply a)
  | .error e => .error e

structure Answer where
  ending : Ending
  elapsed : Nat := 0
  deliveries : List Delivery := []
  statement : Option Nat := none

end SqlStatement
