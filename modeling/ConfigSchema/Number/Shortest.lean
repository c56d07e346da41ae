import ConfigSchema.Number.Double

/-! # Shortest decimals

A decimal reads back as a double when it lies in the interval of numbers that round to it; the ends
belong to the interval exactly when the significand is even. On each decimal grid only the two
neighbours of the double need a look: if any point of the grid lies in the interval, one of them
does. -/
namespace ConfigSchema

/-- A positive decimal `digits · 10 ^ exponent`, its digits from the first to the last. -/
structure Decimal where
  digits : List Nat
  exponent : Int
deriving DecidableEq, Repr

namespace Decimal

/-- The decimal digits of a number, first to last; zero has none. -/
def digitsOf (n : Nat) : List Nat :=
  if _h : n = 0 then [] else digitsOf (n / 10) ++ [n % 10]
termination_by n
decreasing_by omega

def ofNat (n : Nat) (exponent : Int) : Decimal :=
  let digits := digitsOf n
  let zeros := (digits.reverse.takeWhile (· == 0)).length
  ⟨digits.take (digits.length - zeros), exponent + zeros⟩

def leading (d : Decimal) : Int := d.digits.length + d.exponent - 1

end Decimal

namespace Double

/-- The interval of numbers that round to a positive double, and the double itself, over one
denominator. -/
structure Interval where
  low : Nat
  mid : Nat
  high : Nat
  den : Nat
  closed : Bool

/-- Doubles lie `2 · half` apart above the given one; at the foot of a binade the gap below is
half as wide. -/
def interval (x : Double) : Interval :=
  let half := 2 * Nat.pow 2 (x.binade - 1)
  let below := if x.binade > 1 && x.significand == binadeRanks then half / 2 else half
  let mid := 4 * x.magnitude
  ⟨mid - below, mid, mid + half, 4 * stepsPerOne, x.significand % 2 == 0⟩

def leadingExponent (num den : Nat) : Int :=
  if num ≥ den then (decimalLength (num / den) : Int) - 1
  else -(decimalLength ((den + num - 1) / num - 1) : Int)

/-- The neighbour of the double on the grid of multiples of `10 ^ exponent` that lies in the
interval, the nearer one if both do. -/
def Interval.onGrid? (i : Interval) (exponent : Int) : Option Nat :=
  let up := if exponent < 0 then Nat.pow 10 exponent.natAbs else 1
  let step := if exponent < 0 then i.den else i.den * Nat.pow 10 exponent.natAbs
  let below := i.mid * up / step
  let inside (n : Nat) : Bool :=
    let at' := n * step
    if i.closed then i.low * up ≤ at' && at' ≤ i.high * up
    else i.low * up < at' && at' < i.high * up
  let gapBelow := i.mid * up - below * step
  let gapAbove := (below + 1) * step - i.mid * up
  if inside below && below > 0 then
    if inside (below + 1) && (gapAbove < gapBelow || (gapAbove == gapBelow && below % 2 == 1)) then
      some (below + 1)
    else some below
  else if inside (below + 1) then some (below + 1)
  else none

/-- The first hit on grids ever finer, starting with the given number of digits. -/
def Interval.search (i : Interval) (leading : Int) : (grids : Nat) → (digits : Nat) → Decimal
  | 0, digits => Decimal.ofNat (i.mid / i.den) (leading + 1 - digits)
  | grids + 1, digits =>
    match i.onGrid? (leading + 1 - digits) with
    | some n => Decimal.ofNat n (leading + 1 - digits)
    | none => i.search leading grids (digits + 1)

/-- The shortest decimal that reads back as the magnitude of a double, nearest among those of its
length. Seventeen digits always suffice. Zero has no digits. -/
def shortest (x : Double) : Decimal :=
  if x.isZero then ⟨[], 0⟩
  else
    let i := x.interval
    i.search (leadingExponent i.mid i.den) 17 1

end Double

end ConfigSchema
