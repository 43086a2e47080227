import SqlStatement.ErrorContext
import SqlStatement.OptionsText
import SqlStatement.Results
import SqlStatement.Text.Listing
/-!
# Statements

A statement binds values to the placeholders of a template, queues rows of bound values, and
keeps what its last execution produced.  The operations here need no server: an error leaves the
statement as it was.
-/
namespace SqlStatement

inductive BatchPath where
  | bulk
  | sequential
deriving DecidableEq, Repr

/-- What was found out about a statement.  The shape of its rows stays unknown until a server
describes rows. -/
structure MetadataCache where
  rows : Option RowShape := none
  parameters : Option ParameterShape := none
deriving DecidableEq, Repr

structure Statement where
  template : Template
  options : Options
  context : ErrorContext
  slots : List (Option Value)
  queue : List Row := []
  longData : Bool := false
  cache : MetadataCache := {}
  results : Option Results := none
  /-- How the last batch was sent, if it succeeded. -/
  path : Option BatchPath := none
  connection : Option Nat
  closed : Bool := false

namespace Statement

def new (connection : Nat) (context : ErrorContext) (template : Template) (options : Options) :
    Statement :=
  { template, options, context
    slots := List.replicate template.paramCount none
    connection := some connection }

def guardOpen (st : Statement) : Except StatementError Unit :=
  if st.closed then .error .closed else .ok ()

def value? (st : Statement) (index : Nat) : Option Value :=
  if index = 0 then none else st.slots[index - 1]?.join

def setValue (st : Statement) (index : Nat) (v : Value) : Except StatementError Statement := do
  st.guardOpen
  if 1 ≤ index ∧ index ≤ st.slots.length then
    return { st with
      slots := st.slots.set (index - 1) (some v)
      longData := st.longData || v.isLongData }
  else .error (st.context.indexOutOfRange index v st.template.sql)

def clearValues (st : Statement) : Except StatementError Statement := do
  st.guardOpen
  return { st with slots := List.replicate st.template.paramCount none }

def row (st : Statement) : Except StatementError Row :=
  match st.slots.findIdx? Option.isNone with
  | some i => .error (.unbound ⟨i + 1, st.slots.length⟩)
  | none => .ok (st.slots.filterMap id)

def addBatch (st : Statement) : Except StatementError Statement := do
  st.guardOpen
  let row ← st.row
  return { st with queue := st.queue ++ [row] }

def addBatchText (_ : Statement) (_ : String) : Except StatementError Statement :=
  .error .textInBatch

def clearBatch (st : Statement) : Except StatementError Statement := do
  st.guardOpen
  return { st with queue := [], longData := false }

def setTimeout (st : Statement) (limit : Option Duration) : Except StatementError Statement := do
  st.guardOpen
  if limit.any Duration.isZero then .error (.options .zeroStatementTimeout)
  else return { st with options := { st.options with timeout := limit } }

def setFetchSize (st : Statement) (size : Nat) : Except StatementError Statement := do
  st.guardOpen
  return { st with options := { st.options with fetchSize := size } }

def setContinueBatch (st : Statement) (on : Bool) : Except StatementError Statement := do
  st.guardOpen
  return { st with options := { st.options with continueBatch := on } }

def release (st : Statement) : Statement :=
  { st with closed := true, results := none, queue := [], longData := false }

def detach (st : Statement) : Statement :=
  { st with connection := none }

def serverCounts (st : Statement) : List Int :=
  (st.results.map Results.serverCounts).getD []

def narrowServerCounts (st : Statement) : List Int :=
  (st.results.map Results.narrowServerCounts).getD []

def updateCount (st : Statement) : Option Int :=
  st.results.bind Results.updateCount

def resultSet (st : Statement) : Option ResultSet :=
  st.results.bind Results.resultSet

def text (st : Statement) : String :=
  let slot : Option Value → String := fun
    | some v => v.display
    | none => "null"
  "sql : '" ++ st.template.sql ++ "', parameters : [" ++ ",".intercalate (st.slots.map slot) ++
    "]"

def listing (st : Statement) : String :=
  "ClientPreparedStatement \x7b sql: " ++ Text.listed st.template.sql ++
    ", param_count: " ++ toString st.slots.length ++
    ", batch_size: " ++ toString st.queue.length ++
    ", closed: " ++ (if st.closed then "true" else "false") ++ ", .. \x7d"

end Statement
end SqlStatement
