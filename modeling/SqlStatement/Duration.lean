import SqlStatement.Number.Decimal
/-!
# Durations

A length of time in nanoseconds, its text in the largest unit that it reaches, and its length on
a clock of whole milliseconds.
-/
namespace SqlStatement

structure Duration where
  nanos : Nat
deriving DecidableEq, Repr

namespace Duration

def ofParts (secs nanos : Nat) : Duration :=
  ⟨secs * 1000000000 + nanos⟩

def secs (d : Duration) : Nat :=
  d.nanos / 1000000000

def subsecNanos (d : Duration) : Nat :=
  d.nanos % 1000000000

def isZero (d : Duration) : Bool :=
  d.nanos == 0

/-- The whole milliseconds until a limit of this length is reached. -/
def millis (d : Duration) : Nat :=
  (d.nanos + 999999) / 1000000

private def inUnit (nanos width : Nat) (unit : String) : String :=
  let fraction := Number.paddedDigits width (nanos % Nat.pow 10 width)
  let digits := (fraction.reverse.dropWhile (· == '0')).reverse
  String.ofList (Number.natDigits (nanos / Nat.pow 10 width) ++
    if width = 0 ∨ digits.isEmpty then [] else '.' :: digits) ++ unit

def text (d : Duration) : String :=
  if 1000000000 ≤ d.nanos then inUnit d.nanos 9 "s"
  else if 1000000 ≤ d.nanos then inUnit d.nanos 6 "ms"
  else if 1000 ≤ d.nanos then inUnit d.nanos 3 "µs"
  else inUnit d.nanos 0 "ns"

end Duration
end SqlStatement
