import SqlStatement.Statement.Basic
/-!
# Edits of statements

The changes to a statement that need no server, as data.  A refused edit leaves the statement as
it was.
-/
namespace SqlStatement

inductive Edit where
  | setValue (index : Nat) (v : Value)
  | clearValues
  | addBatch
  | addBatchText (sql : String)
  | clearBatch
  | setTimeout (limit : Option Duration)
  | setFetchSize (size : Nat)
  | setContinueBatch (on : Bool)

namespace Statement

def edit? (st : Statement) : Edit → Except StatementError Statement
  | .setValue index v => st.setValue index v
  | .clearValues => st.clearValues
  | .addBatch => st.addBatch
  | .addBatchText sql => st.addBatchText sql
  | .clearBatch => st.clearBatch
  | .setTimeout limit => st.setTimeout limit
  | .setFetchSize size => st.setFetchSize size
  | .setContinueBatch on => st.setContinueBatch on

end Statement
end SqlStatement
