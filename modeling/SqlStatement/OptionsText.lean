import SqlStatement.Error
import SqlStatement.Json.Reader
/-!
# Options in JSON

Options are read from an object by the names of their fields, or from an array by their order.
Missing fields keep their defaults, unknown names are ignored, and a known name may come once.
-/
namespace SqlStatement

namespace Options

def fieldNames : List String :=
  ["rewrite_batched_statements", "continue_batch_on_error", "max_query_size_to_log",
    "dump_queries_on_exception", "query_timeout", "fetch_size", "result_set_type"]

abbrev Fields := List (String × Json.Document)

def namedFields? (fields : List (List Char × Json.Document)) : Option Fields :=
  fields.mapM fun (raw, d) => (Json.unescape? raw).map fun name => (String.ofList name, d)

def namesOnce (names : List String) (fields : Fields) : Bool :=
  names.all fun name => fields.countP (fun f => f.1 == name) ≤ 1

def documents? : Json.Document → Option Fields
  | .object fields =>
    (namedFields? fields).bind fun named => if namesOnce fieldNames named then some named else none
  | .array items =>
    if items.length ≤ fieldNames.length then some (fieldNames.zip items) else none
  | _ => none

private def bool? : Json.Document → Option Bool
  | .bool b => some b
  | _ => none

private def natBelow? (bound : Nat) : Json.Document → Option Nat
  | .number n => n.natBelow? bound
  | _ => none

private def text? : Json.Document → Option String
  | .string raw => (Json.unescape? raw).map String.ofList
  | _ => none

def duration? : Json.Document → Option Duration
  | .object fields =>
    (namedFields? fields).bind fun named =>
      match named with
      | [("secs", s), ("nanos", n)] | [("nanos", n), ("secs", s)] => parts? s n
      | _ => none
  | .array [s, n] => parts? s n
  | _ => none
where
  /-- The whole seconds must fit 64 bits after the carry. -/
  parts? (s n : Json.Document) : Option Duration :=
    (natBelow? UInt64.size s).bind fun secs => (natBelow? UInt32.size n).bind fun nanos =>
      let d := Duration.ofParts secs nanos
      if d.secs < UInt64.size then some d else none

def timeout? : Json.Document → Option (Option Duration)
  | .null => some none
  | d => (duration? d).map some

/-- The name of a kind, or an object that has it as its only field, with null. -/
def scrolling? : Json.Document → Option Scrolling
  | .object [(raw, .null)] => (text? (.string raw)).bind Scrolling.ofName?
  | d => (text? d).bind Scrolling.ofName?

def fieldOr {α : Type} (fields : Fields) (name : String) (read? : Json.Document → Option α)
    (default : α) : Option α :=
  match fields.lookup name with
  | none => some default
  | some d => read? d

def ofFields? (fields : Fields) : Option Options := do
  let defaults : Options := {}
  return {
    joinBatches := ← fieldOr fields "rewrite_batched_statements" bool? defaults.joinBatches
    continueBatch := ← fieldOr fields "continue_batch_on_error" bool? defaults.continueBatch
    maxQueryChars :=
      ← fieldOr fields "max_query_size_to_log" (natBelow? UInt64.size) defaults.maxQueryChars
    dumpQueries := ← fieldOr fields "dump_queries_on_exception" bool? defaults.dumpQueries
    timeout := ← fieldOr fields "query_timeout" timeout? defaults.timeout
    fetchSize := ← fieldOr fields "fetch_size" (natBelow? UInt32.size) defaults.fetchSize
    scrolling := ← fieldOr fields "result_set_type" scrolling? defaults.scrolling }

def validate (o : Options) : Except StatementError Unit :=
  if o.isValid then .ok () else .error (.options .zeroTimeout)

def ofText (text : String) : Except StatementError Options :=
  match (Json.Document.ofText? text).bind documents? |>.bind ofFields? with
  | none => .error (.options .unreadable)
  | some o => o.validate.map fun _ => o

end Options

def Scrolling.ofText (name : String) : Except StatementError Scrolling :=
  match ofNameIgnoringCase? name with
  | some kind => .ok kind
  | none => .error (.options (.unknownScrolling name))

end SqlStatement
