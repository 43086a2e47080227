import SqlStatement.Failure
import SqlStatement.Options
import SqlStatement.Sql.Template
/-!
# Errors of statements

Every error is a cause; its message, its SQLSTATE and its vendor code follow from it.  Errors
are local when they are raised before anything is sent to the server.
-/
namespace SqlStatement

structure ServerError where
  message : String
  sqlState : Option String
  code : Int
  context : String
deriving DecidableEq, Repr

def ServerError.text (e : ServerError) : String :=
  (if e.code = 0 then "" else s!"({e.code}) ") ++ e.message ++
    if e.context.isEmpty then "" else "\n" ++ e.context

inductive OptionsFault where
  /-- The options text is no JSON or has fields of the wrong form. -/
  | unreadable
  | unknownScrolling (name : String)
  | zeroTimeout
  | zeroStatementTimeout
deriving DecidableEq, Repr

def OptionsFault.text : OptionsFault → String
  | .unreadable => "invalid statement options:"
  | .unknownScrolling name =>
    "unknown result set type '" ++ name ++ "' (expected one of: " ++
      ", ".intercalate (Scrolling.all.map Scrolling.name) ++ ")"
  | .zeroTimeout => "query_timeout must be greater than zero (use None to disable)"
  | .zeroStatementTimeout => "query timeout must be greater than zero"

inductive StatementError where
  /-- No placeholder has the given index; `value` and `context` are for the message. -/
  | indexOutOfRange (index : Nat) (value context : String)
  | unbound (u : Unbound)
  | badText (e : ServerError)
  | execution (e : ServerError)
  | closed
  | timedOut (limit : Duration)
  | interrupted (message : String)
  /-- A SQL text was to be queued on a prepared statement. -/
  | textInBatch
  | options (fault : OptionsFault)
deriving DecidableEq, Repr

namespace StatementError

def message : StatementError → String
  | .indexOutOfRange index value context =>
    s!"Could not set parameter at position {index} (values was {value})\nQuery - {context}"
  | .unbound u =>
    s!"Parameter at position {u.position} is not set (statement expects {u.count} parameters)"
  | .badText e => "Syntax error: " ++ e.text
  | .execution e => "SQL execution error: " ++ e.text
  | .closed => "Statement is closed"
  | .timedOut limit => "Query timed out after " ++ limit.text
  | .interrupted message => "Statement execution interrupted: " ++ message
  | .textInBatch => "Unsupported operation: Cannot do addBatch(String) on preparedStatement"
  | .options fault => "Configuration error: " ++ fault.text

def sqlState : StatementError → Option String
  | .indexOutOfRange .. => some "07009"
  | .unbound _ => some "07004"
  | .badText e | .execution e => e.sqlState
  | .closed => some "HY000"
  | .timedOut _ | .interrupted _ => some "70100"
  | .textInBatch => some "0A000"
  | .options _ => none

def code : StatementError → Int
  | .badText e | .execution e => e.code
  | _ => 0

/-- The error was raised before anything was sent. -/
def isLocal : StatementError → Bool
  | .indexOutOfRange .. | .unbound _ | .closed | .textInBatch | .options _ => true
  | .badText _ | .execution _ | .timedOut _ | .interrupted _ => false

end StatementError
end SqlStatement
