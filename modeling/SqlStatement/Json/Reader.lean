import SqlStatement.Json.Document
import SqlStatement.Json.Value
/-!
# Reading JSON values

A document gives a value when its strings have no lone surrogates and its numbers are in range.
A number that is not a plain integer of 64 bits is read as a double: its significand, cut to the
leading digits that fit 64 bits, and its power of ten are rounded first, their product last.
-/
namespace SqlStatement.Json

def codeUnit (a b c d : Char) : Nat :=
  [a, b, c, d].foldl (fun n x => 16 * n + (hexValue? x).getD 0) 0

private def shortEscape (c : Char) : Char :=
  if c = 'b' then '\x08'
  else if c = 'f' then '\x0c'
  else if c = 'n' then '\n'
  else if c = 'r' then '\r'
  else if c = 't' then '\t'
  else c

/-- The string that a body spells; surrogates must come in pairs. -/
def unescape? : List Char → Option (List Char)
  | [] => some []
  | '\\' :: 'u' :: a :: b :: c :: d :: rest =>
    let unit := codeUnit a b c d
    if 0xD800 ≤ unit ∧ unit < 0xDC00 then
      match rest with
      | '\\' :: 'u' :: e :: f :: g :: h :: rest' =>
        let low := codeUnit e f g h
        if 0xDC00 ≤ low ∧ low < 0xE000 then
          (unescape? rest').map
            (Char.ofNat (0x10000 + (unit - 0xD800) * 0x400 + (low - 0xDC00)) :: ·)
        else none
      | _ => none
    else if 0xDC00 ≤ unit ∧ unit < 0xE000 then none
    else (unescape? rest).map (Char.ofNat unit :: ·)
  | '\\' :: c :: rest => (unescape? rest).map (shortEscape c :: ·)
  | c :: rest => (unescape? rest).map (c :: ·)

namespace NumberText

def isPlain (n : NumberText) : Bool :=
  n.fraction.isNone && n.power.isNone

def natBelow? (n : NumberText) (bound : Nat) : Option Nat :=
  let value := Number.natOfDigits n.whole
  if n.isPlain ∧ n.negative = false ∧ value < bound then some value else none

/-- Adds digits to a significand as long as it stays within 64 bits; gives the digits left. -/
def absorb (significand : Nat) : List Char → Nat × List Char
  | [] => (significand, [])
  | c :: cs =>
    let next := 10 * significand + Number.natOfDigits [c]
    if next < UInt64.size then absorb next cs else (significand, c :: cs)

def significandAndPower (n : NumberText) : Nat × Int :=
  let (s, skipped) := absorb 0 n.whole
  let (s, unread) := absorb s (n.fraction.getD [])
  (s, skipped.length - ((n.fraction.getD []).length - unread.length : Nat))

def powerOfTen (power : Nat) : Number.Double :=
  .ofNat (Nat.pow 10 power)

/-- Divides by ten to the given power, at most 308 places at a time. -/
def scaleDown (x : Number.Double) (power : Nat) : Number.Double :=
  if h : 308 < power ∧ x.isZero = false then scaleDown (x.div (powerOfTen 308)) (power - 308)
  else if x.isZero then x
  else x.div (powerOfTen power)
termination_by power

def magnitude? (significand : Nat) (power : Int) : Option Number.Double :=
  let x := Number.Double.ofNat significand
  if power < 0 then some (scaleDown x (-power).toNat)
  else if 308 < power then if x.isZero then some x else none
  else
    let y := x.mul (powerOfTen power.toNat)
    if y.isInfinite then none else some y

def double? (n : NumberText) : Option Number.Double :=
  let (significand, shift) := n.significandAndPower
  let (negative, digits) := n.power.getD (false, [])
  let power := Number.natOfDigits digits
  let found :=
    if (power : Int) ≤ Int32.maxValue.toInt then
      magnitude? significand (shift + if negative then -(power : Int) else power)
    else if significand ≠ 0 ∧ negative = false then none
    else some (Number.Double.ofNat 0)
  found.map (Number.Double.withSign n.negative)

/-- The value of a number: an integer if it is plain and fits 64 bits with or without a sign. -/
def value? (n : NumberText) : Option Json :=
  let value := Number.natOfDigits n.whole
  if n.isPlain ∧ n.negative = false ∧ value < UInt64.size then some (.int value)
  else if n.isPlain ∧ n.negative ∧ 0 < value ∧ Int64.minValue.toInt ≤ -(value : Int) then
    some (.int (-(value : Int)))
  else n.double?.map .double

end NumberText

mutual

def Document.value? : Document → Option Json
  | .null => some .null
  | .bool b => some (.bool b)
  | .number n => n.value?
  | .string raw => (unescape? raw).map fun cs => .string (String.ofList cs)
  | .array items => (Document.items? items).map .array
  | .object fields => (Document.fields? fields).map Json.ofFields

def Document.items? : List Document → Option (List Json)
  | [] => some []
  | d :: ds => d.value?.bind fun v => (Document.items? ds).map (v :: ·)

def Document.fields? : List (List Char × Document) → Option (List (String × Json))
  | [] => some []
  | (name, d) :: ds =>
    (unescape? name).bind fun n => d.value?.bind fun v =>
      (Document.fields? ds).map ((String.ofList n, v) :: ·)

end

def ofText? (text : String) : Option Json :=
  (Document.ofText? text).bind Document.value?

end SqlStatement.Json
