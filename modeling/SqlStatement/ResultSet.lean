import SqlStatement.Shape
import SqlStatement.Value.Basic
/-!
# Result sets

A result set is a table with the shape of its rows, or nothing at all: the answer of a statement
that produces no rows.
-/
namespace SqlStatement

inductive ResultSet where
  | empty
  | table (shape : RowShape) (rows : List Row)

namespace ResultSet

def shape? : ResultSet → Option RowShape
  | .empty => none
  | .table shape _ => some shape

def rows : ResultSet → List Row
  | .empty => []
  | .table _ rows => rows

def size (s : ResultSet) : Nat :=
  s.rows.length

/-- Adds a row; a set without a shape stays empty. -/
def addRow (s : ResultSet) (row : Row) : ResultSet :=
  match s with
  | .empty => .empty
  | .table shape rows => .table shape (rows ++ [row])

end ResultSet

def RowShape.value? (shape : RowShape) (row : Row) (name : String) : Option Value :=
  (shape.indexOf? name).bind fun i => row[i]?

end SqlStatement
