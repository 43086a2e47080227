import SqlStatement.Sql.RowLayout
import SqlStatement.Value.Literal
/-!
# Templates

A template is a SQL text read once: its pieces between the placeholders and, on demand, the
layout of its row of values.  Rendering puts the literals of values into the gaps.
-/
namespace SqlStatement

structure Template where
  sql : String
  /-- The mode in which the text was read and in which values are written. -/
  mode : EscapeMode
  pieces : Sql.Pieces
  layout : Option Sql.RowLayout
deriving DecidableEq, Repr

/-- The first position, counted from one, that has no value, and the number of positions. -/
structure Unbound where
  position : Nat
  count : Nat
deriving DecidableEq, Repr

namespace Template

/-- Reads a SQL text; `joinRows` asks for the layout of its row. -/
def compile (sql : String) (mode : EscapeMode) (joinRows : Bool) : Template :=
  let ls := Sql.lexemes mode sql.toList
  { sql, mode
    pieces := Sql.Pieces.ofLexemes ls
    layout := if joinRows then Sql.RowLayout.ofLexemes? ls else none }

def paramCount (t : Template) : Nat :=
  t.pieces.gaps

def canJoinRows (t : Template) : Bool :=
  t.layout.isSome

def literals (t : Template) (row : Row) : List (List Char) :=
  row.map (Value.literal t.mode)

/-- The SQL text with a value at each placeholder; surplus values are ignored. -/
def render (t : Template) (row : Row) : Except Unbound String :=
  if row.length < t.paramCount then .error ⟨row.length + 1, t.paramCount⟩
  else .ok (String.ofList (t.pieces.fill (t.literals row)))

/-- One insert that carries all the rows, if the template has a layout and there are rows. -/
def renderJoined? (t : Template) (rows : List Row) : Option String :=
  if rows.isEmpty then none
  else t.layout.map fun layout => String.ofList (layout.fillRows (rows.map t.literals))

end Template
end SqlStatement
