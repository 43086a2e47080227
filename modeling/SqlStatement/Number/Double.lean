import SqlStatement.Number.Decimal
/-!
# Double-precision numbers

A double is its 64 bits.  A finite one stands for `significand * 2 ^ scale`, up to its sign, and
every rational has a nearest double (`Double.ofRatio`), halves going to the even significand.
-/
namespace SqlStatement.Number

structure Double where
  bits : UInt64
deriving DecidableEq, Repr

namespace Double

def isNegative (x : Double) : Bool :=
  1 <<< 63 ≤ x.bits.toNat

def exponentField (x : Double) : Nat :=
  x.bits.toNat >>> 52 % 2048

def fractionField (x : Double) : Nat :=
  x.bits.toNat % 1 <<< 52

def isFinite (x : Double) : Bool :=
  x.exponentField != 2047

def isNaN (x : Double) : Bool :=
  x.exponentField == 2047 && x.fractionField != 0

/-- The integer that the scale multiplies: the fraction with its hidden bit. -/
def significand (x : Double) : Nat :=
  if x.exponentField = 0 then x.fractionField else 1 <<< 52 + x.fractionField

def scale (x : Double) : Int :=
  if x.exponentField = 0 then -1074 else (x.exponentField : Int) - 1075

def isNarrowBelow (x : Double) : Bool :=
  x.fractionField == 0 && 1 < x.exponentField

def ofMagnitudeBits (negative : Bool) (bits : Nat) : Double :=
  ⟨UInt64.ofNat (bits + if negative then 1 <<< 63 else 0)⟩

/-- The quotient rounded to the nearest integer, a half to the even one. -/
def roundDiv (num den : Nat) : Nat :=
  let q := num / den
  let twice := 2 * (num % den)
  if twice < den then q else if den < twice then q + 1 else q + q % 2

/-- The bits of the magnitude nearest to `num / den`, which is not zero: significands of 53 bits
above the least normal scale, the bits of infinity where the range ends. -/
def magnitudeBits (num den : Nat) : Nat :=
  let scale := max ((num.log2 : Int) - den.log2 - 53) (-1074)
  let top := roundDiv (num <<< (-scale).toNat) (den <<< scale.toNat)
  let (m, e) :=
    if top < 1 <<< 53 then (top, scale)
    else
      (roundDiv (num <<< (-(scale + 1)).toNat) (den <<< (scale + 1).toNat), scale + 1)
  let bits := m + (e + 1074).toNat <<< 52
  min bits (2047 <<< 52)

/-- The double nearest to a ratio, with the given sign; infinite where the range ends. -/
def ofRatio (negative : Bool) (num den : Nat) : Double :=
  ofMagnitudeBits negative (if num = 0 then 0 else magnitudeBits num den)

def ratio (x : Double) : Nat × Nat :=
  (x.significand <<< x.scale.toNat, 1 <<< (-x.scale).toNat)

def isInfinite (x : Double) : Bool :=
  !x.isFinite && !x.isNaN

def isZero (x : Double) : Bool :=
  x.exponentField == 0 && x.fractionField == 0

def mul (x y : Double) : Double :=
  let (a, b) := x.ratio
  let (c, d) := y.ratio
  ofRatio (x.isNegative != y.isNegative) (a * c) (b * d)

def div (x y : Double) : Double :=
  let (a, b) := x.ratio
  let (c, d) := y.ratio
  ofRatio (x.isNegative != y.isNegative) (a * d) (b * c)

def ofNat (n : Nat) : Double :=
  ofRatio false n 1

def withSign (negative : Bool) (x : Double) : Double :=
  ofMagnitudeBits negative (x.bits.toNat % 1 <<< 63)

end Double
end SqlStatement.Number
