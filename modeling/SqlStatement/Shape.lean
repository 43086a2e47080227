import Std.Data.HashMap
/-!
# Descriptions of columns and parameters

The shape of the rows that a statement produces and of the parameters that it takes.  Columns
are found by position, counted from one, or by name, the first of a name counting.
-/
namespace SqlStatement

structure Column where
  name : String
  table : String := ""
  typeName : String
  nullable : Bool := true
  precision : Nat := 0
  scale : Nat := 0
deriving DecidableEq, Repr

structure RowShape where
  columns : List Column
deriving DecidableEq, Repr

namespace RowShape

def size (s : RowShape) : Nat :=
  s.columns.length

def names (s : RowShape) : List String :=
  s.columns.map Column.name

def column? (s : RowShape) (position : Nat) : Option Column :=
  if position = 0 then none else s.columns[position - 1]?

/-- Adds a column with its index; a name that is known already keeps its index. -/
def addName (known : Std.HashMap String Nat) (column : Column × Nat) : Std.HashMap String Nat :=
  known.insertIfNew column.1.name column.2

def nameIndex (s : RowShape) : Std.HashMap String Nat :=
  s.columns.zipIdx.foldl addName ∅

/-- The index, counted from zero, of the first column of the given name. -/
def indexOf? (s : RowShape) (name : String) : Option Nat :=
  s.nameIndex[name]?

end RowShape

structure Parameter where
  typeName : String
  nullable : Bool
  signed : Bool
  precision : Nat
  scale : Nat
deriving DecidableEq, Repr

inductive ParameterShape where
  | known (parameters : List Parameter)
  | unknown
deriving DecidableEq, Repr

namespace ParameterShape

def isUnknown : ParameterShape → Bool
  | .unknown => true
  | .known _ => false

def count? : ParameterShape → Option Nat
  | .known parameters => some parameters.length
  | .unknown => none

def parameter? (s : ParameterShape) (position : Nat) : Option Parameter :=
  match s with
  | .known parameters => if position = 0 then none else parameters[position - 1]?
  | .unknown => none

end ParameterShape

structure Description where
  rows : Option RowShape
  parameters : ParameterShape
deriving DecidableEq, Repr

end SqlStatement
