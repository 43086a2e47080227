import SqlStatement.Error
/-!
# Contexts of errors

An error tells on which connection it happened and, as far as the options allow, for which query
and values.  The context is fixed when a statement is made.
-/
namespace SqlStatement

structure ErrorContext where
  threadId : Nat
  primary : Bool
  maxQueryChars : Nat
  dumpQueries : Bool
deriving DecidableEq, Repr

/-- At most the given number of characters, with three dots where some are left out; zero means
no limit. -/
def excerpt (sql : String) (limit : Nat) : String :=
  if limit = 0 ∨ sql.toList.length ≤ limit then sql
  else String.ofList (sql.toList.take limit) ++ "..."

namespace ErrorContext

def label (ctx : ErrorContext) : String :=
  s!"conn:{ctx.threadId}(" ++ (if ctx.primary then "M" else "S") ++ ")"

def queryExcerpt (ctx : ErrorContext) (sql : String) : String :=
  excerpt sql ctx.maxQueryChars

def indexOutOfRange (ctx : ErrorContext) (index : Nat) (value : Value) (sql : String) :
    StatementError :=
  .indexOutOfRange index value.display (ctx.label ++ " - \"" ++ ctx.queryExcerpt sql ++ "\"")

def serverContext (ctx : ErrorContext) (sql : String) (row : Option Row) : String :=
  "Query - " ++ ctx.label ++
    if ctx.dumpQueries then
      " - \"" ++ ctx.queryExcerpt sql ++ "\"" ++
        match row.getD [] with
        | [] => ""
        | values => ", parameters [" ++ ",".intercalate (values.map Value.display) ++ "]"
    else ""

/-- The error for a server failure.  Interruptions keep their message alone; all other failures
are told apart by whether they blame the SQL text. -/
def ofFailure (ctx : ErrorContext) (f : Failure) (sql : String) (row : Option Row) :
    StatementError :=
  if f.kind = .interrupted then .interrupted f.message
  else
    let e : ServerError := ⟨f.message, f.sqlState, f.code, ctx.serverContext sql row⟩
    if f.blamesText then .badText e else .execution e

end ErrorContext
end SqlStatement
