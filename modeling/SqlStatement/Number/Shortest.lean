import SqlStatement.Number.Double
/-!
# Shortest decimals of doubles

Among the decimals that read back as a given double, `Double.shortest` takes one with the fewest
digits, of those the nearest, and of two equally near ones the one its format asks for.
`DecimalFormat` says how the chosen digits are laid out.
-/
namespace SqlStatement.Number

inductive TieRule where
  | up
  | even
deriving DecidableEq, Repr

def TieRule.takesAbove (tie : TieRule) (num den : Nat) : Bool :=
  match compare (2 * (num % den)) den with
  | .lt => false
  | .gt => true
  | .eq => tie == .up || num / den % 2 == 1

def Decimal.compareBinary (d : Decimal) (m : Nat) (scale : Int) : Ordering :=
  compare ((d.digits * Nat.pow 10 d.exponent.toNat) <<< (-scale).toNat)
    ((m <<< scale.toNat) * Nat.pow 10 (-d.exponent).toNat)

namespace Double

/-- The decimal lies between the midpoints to the neighbours of the magnitude; the midpoints
themselves read back exactly when the significand is even. -/
def isReadFrom (x : Double) (d : Decimal) : Bool :=
  let low := d.compareBinary (4 * x.significand - if x.isNarrowBelow then 1 else 2) (x.scale - 2)
  let high := d.compareBinary (4 * x.significand + 2) (x.scale - 2)
  let ends := x.significand % 2 == 0
  (low == .gt || ends && low == .eq) && (high == .lt || ends && high == .eq)

def wholeDigits (x : Double) : Int :=
  let (num, den) := x.ratio
  (natDigits (num * Nat.pow 10 324 / den)).length - 324

/-- The two multiples of a power of ten around the magnitude that read back as it, the nearer
one first. -/
def onGrid? (tie : TieRule) (x : Double) (exponent : Int) : Option Decimal :=
  let (num, den) := x.ratio
  let num := num * Nat.pow 10 (-exponent).toNat
  let den := den * Nat.pow 10 exponent.toNat
  let below : Decimal := ⟨num / den, exponent⟩
  let above : Decimal := ⟨num / den + 1, exponent⟩
  let byDistance := if tie.takesAbove num den then [above, below] else [below, above]
  byDistance.find? x.isReadFrom

def exactDecimal (x : Double) : Decimal :=
  if 0 ≤ x.scale then ⟨x.significand <<< x.scale.toNat, 0⟩
  else ⟨x.significand * Nat.pow 5 (-x.scale).toNat, x.scale⟩

/-- The shortest decimal that reads back as the magnitude of a finite double other than zero. -/
def shortest (tie : TieRule) (x : Double) : Decimal :=
  let whole := x.wholeDigits
  let found := (List.range 17).findSome? fun (n : Nat) => x.onGrid? tie (whole - n - 1)
  let d := found.getD x.exactDecimal
  Decimal.stripZeros d.digits d.exponent

end Double

structure DecimalFormat where
  tie : TieRule
  /-- The least exponent of the leading digit that is written with a point only. -/
  plainFrom : Int
  plainBelow : Int
  plusSign : Bool
deriving DecidableEq, Repr

namespace DecimalFormat

def exponentPart (f : DecimalFormat) (e : Int) : List Char :=
  'e' :: (if 0 ≤ e ∧ f.plusSign then ['+'] else []) ++ intDigits e

def pointAfter (digits : List Char) (whole : Int) : List Char :=
  if whole ≤ 0 then '0' :: '.' :: List.replicate (-whole).toNat '0' ++ digits
  else if digits.length ≤ whole.toNat then
    digits ++ List.replicate (whole.toNat - digits.length) '0' ++ ['.', '0']
  else digits.take whole.toNat ++ '.' :: digits.drop whole.toNat

def layOut (f : DecimalFormat) (d : Decimal) : List Char :=
  let digits := natDigits d.digits
  let e := d.exponent + digits.length - 1
  if f.plainFrom ≤ e ∧ e < f.plainBelow then pointAfter digits (e + 1)
  else digits.take 1 ++ (if 1 < digits.length then '.' :: digits.drop 1 else []) ++
    f.exponentPart e

def text (f : DecimalFormat) (x : Double) : List Char :=
  (if x.isNegative then ['-'] else []) ++
    if x.isZero then ['0', '.', '0'] else f.layOut (x.shortest f.tie)

end DecimalFormat
end SqlStatement.Number
