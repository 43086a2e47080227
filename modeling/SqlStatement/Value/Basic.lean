import SqlStatement.Json.Value
import SqlStatement.Value.Timestamp
/-!
# Values bound to placeholders
-/
namespace SqlStatement

inductive Value where
  | null
  | int (n : Int)
  | double (x : Number.Double)
  | text (s : String)
  | bool (b : Bool)
  | timestamp (t : Timestamp)
  | json (v : Json)
  | blob (bytes : List UInt8)
  | stream (bytes : List UInt8)

namespace Value

def isNull : Value → Bool
  | .null => true
  | _ => false

def isLongData : Value → Bool
  | .stream _ => true
  | _ => false

def int? : Value → Option Int
  | .int n => some n
  | _ => none

def text? : Value → Option String
  | .text s => some s
  | _ => none

end Value

/-- One value for each placeholder of a statement, fixed when it was queued or sent. -/
abbrev Row := List Value

end SqlStatement
