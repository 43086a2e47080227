import SqlStatement.Duration
/-!
# Options of statements

How statements read their SQL text, run and report errors, with the checks on the values.
-/
namespace SqlStatement

inductive Scrolling where
  | forwardOnly
  | insensitive
  | sensitive
deriving DecidableEq, Repr

namespace Scrolling

def all : List Scrolling :=
  [.forwardOnly, .insensitive, .sensitive]

def name : Scrolling → String
  | .forwardOnly => "forward-only"
  | .insensitive => "scroll-insensitive"
  | .sensitive => "scroll-sensitive"

def ofName? (s : String) : Option Scrolling :=
  all.find? fun k => k.name == s

def ofNameIgnoringCase? (s : String) : Option Scrolling :=
  all.find? fun k => k.name.toList == s.toList.map Char.toLower

def label : Scrolling → String
  | .forwardOnly => "ForwardOnly"
  | .insensitive => "ScrollInsensitive"
  | .sensitive => "ScrollSensitive"

end Scrolling

structure Options where
  joinBatches : Bool := false
  continueBatch : Bool := true
  /-- The number of characters of SQL text in messages; zero means all. -/
  maxQueryChars : Nat := 1024
  dumpQueries : Bool := false
  timeout : Option Duration := none
  fetchSize : Nat := 0
  scrolling : Scrolling := .forwardOnly
deriving DecidableEq, Repr

namespace Options

def isValid (o : Options) : Bool :=
  !o.timeout.any Duration.isZero

private def boolText (b : Bool) : String :=
  if b then "true" else "false"

def listing (o : Options) : String :=
  let timeout :=
    match o.timeout with
    | none => "None"
    | some d => "Some(" ++ d.text ++ ")"
  "StatementOptions \x7b rewrite_batched_statements: " ++ boolText o.joinBatches ++
    ", continue_batch_on_error: " ++ boolText o.continueBatch ++
    ", max_query_size_to_log: " ++ toString o.maxQueryChars ++
    ", dump_queries_on_exception: " ++ boolText o.dumpQueries ++
    ", query_timeout: " ++ timeout ++
    ", fetch_size: " ++ toString o.fetchSize ++
    ", result_set_type: " ++ o.scrolling.label ++ " \x7d"

end Options
end SqlStatement
