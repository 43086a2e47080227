import SqlStatement.Sql.Region
import SqlStatement.Value.Basic
/-!
# Values as SQL literals

A text is quoted: quotes are doubled, and where the server reads backslashes as escapes, a
backslash and a NUL are written as escapes.  Bytes are written in base sixteen.
-/
namespace SqlStatement.Value

/-- Plain notation for the exponents -4 to 15, and no sign before positive exponents. -/
def doubleFormat : Number.DecimalFormat where
  tie := .up
  plainFrom := -4
  plainBelow := 16
  plusSign := false

def quoteChar (mode : EscapeMode) (c : Char) : List Char :=
  if c = '\x27' then ['\x27', '\x27']
  else
    match mode with
    | .plain => [c]
    | .backslash =>
      if c = '\\' then ['\\', '\\'] else if c = '\x00' then ['\\', '0'] else [c]

def quoted (mode : EscapeMode) (chars : List Char) : List Char :=
  '\x27' :: chars.flatMap (quoteChar mode) ++ ['\x27']

def byteDigits (b : UInt8) : List Char :=
  [Nat.digitChar (b.toNat / 16), Nat.digitChar (b.toNat % 16)]

def hexadecimal (bytes : List UInt8) : List Char :=
  'X' :: '\x27' :: bytes.flatMap byteDigits ++ ['\x27']

/-- The literal of a value.  Doubles that are not finite have none and are sent as NULL. -/
def literal (mode : EscapeMode) : Value → List Char
  | .null => "NULL".toList
  | .int n => Number.intDigits n
  | .double x => if x.isFinite then doubleFormat.text x else "NULL".toList
  | .text s => quoted mode s.toList
  | .bool b => [if b then '1' else '0']
  | .timestamp t => '\x27' :: t.text ++ ['\x27']
  | .json v => quoted mode v.compact
  | .blob bytes | .stream bytes => hexadecimal bytes

/-- How a value is shown in messages: its literal, except for streams and for doubles that are
not finite. -/
def display (v : Value) : String :=
  match v with
  | .stream bytes => s!"<stream of {bytes.length} bytes>"
  | .double x =>
    if x.isFinite then String.ofList (v.literal .backslash)
    else if x.isNaN then "NaN"
    else if x.isNegative then "-inf"
    else "inf"
  | _ => String.ofList (v.literal .backslash)

end SqlStatement.Value
