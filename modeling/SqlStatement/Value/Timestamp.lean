import SqlStatement.Number.Decimal
/-!
# Timestamps

A date and a time of day without a zone.  Nanoseconds from a whole second on stand for a leap
second, which is shown as the second after.
-/
namespace SqlStatement

structure Timestamp where
  year : Int
  month : Nat
  day : Nat
  hour : Nat
  minute : Nat
  second : Nat
  nanos : Nat
deriving DecidableEq, Repr

namespace Timestamp

/-- Years of up to four digits are padded; all others carry a sign. -/
def yearText (year : Int) : List Char :=
  if 0 ≤ year ∧ year ≤ 9999 then Number.paddedDigits 4 year.toNat
  else (if year < 0 then '-' else '+') :: Number.paddedDigits 4 year.natAbs

def fractionText (nanos : Nat) : List Char :=
  if nanos = 0 then []
  else if nanos % 1000000 = 0 then '.' :: Number.paddedDigits 3 (nanos / 1000000)
  else if nanos % 1000 = 0 then '.' :: Number.paddedDigits 6 (nanos / 1000)
  else '.' :: Number.paddedDigits 9 nanos

def text (t : Timestamp) : List Char :=
  yearText t.year ++ '-' :: Number.paddedDigits 2 t.month ++ '-' :: Number.paddedDigits 2 t.day ++
    ' ' :: Number.paddedDigits 2 t.hour ++ ':' :: Number.paddedDigits 2 t.minute ++
    ':' :: Number.paddedDigits 2 (t.second + t.nanos / 1000000000) ++
    fractionText (t.nanos % 1000000000)

end Timestamp
end SqlStatement
