/-!
# Failures reported by a server
-/
namespace SqlStatement

inductive FailureKind where
  | badText
  | execution
  | unsupported
  | interrupted
  | connection
deriving DecidableEq, Repr

structure Failure where
  kind : FailureKind
  message : String
  sqlState : Option String := none
  code : Int := 0
deriving DecidableEq, Repr

namespace Failure

def badText (message : String) : Failure :=
  { kind := .badText, message, sqlState := some "42000" }

def execution (message : String) : Failure :=
  { kind := .execution, message }

def unsupported (message : String) : Failure :=
  { kind := .unsupported, message, sqlState := some "0A000" }

def interrupted : Failure :=
  { kind := .interrupted, message := "query was interrupted", sqlState := some "70100" }

def isClass42 (state : String) : Bool :=
  "42".toList.isPrefixOf state.toList

/-- The SQL text is at fault: by the kind of the failure, or by the class of its state. -/
def blamesText (f : Failure) : Bool :=
  f.kind == .badText || f.sqlState.any isClass42

end Failure
end SqlStatement
