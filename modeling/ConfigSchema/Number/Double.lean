/-! # Doubles

A finite double is kept as its sign and the rank of its magnitude among the representable
magnitudes. `Double.units` is its exact value, counted in the smallest positive step `2⁻¹⁰⁷⁴`; the
order of doubles is the order of their units, so both zeros are equal. Every rounding is to the
nearest double, and a value halfway between two goes to the one with the even rank. Only
`Double.scale?` rounds more than once. -/
namespace ConfigSchema

/-- How many magnitudes are finite; the next rank stands for infinity. -/
abbrev finiteRanks : Nat := 0x7FF0000000000000

/-- How many ranks a binade has. -/
abbrev binadeRanks : Nat := 0x10000000000000

/-- How many of the smallest steps make one. -/
def stepsPerOne : Nat := Nat.pow 2 1074

/-- A finite double: ranks count the representable magnitudes upward from zero. -/
structure Double where
  negative : Bool
  rank : Fin finiteRanks
deriving DecidableEq, Repr

namespace Double

/-! ## Exact values -/

/-- The exponent field of a magnitude: zero for the numbers below the first full binade. -/
def binade (x : Double) : Nat := x.rank.val / binadeRanks

/-- The significant bits of a magnitude as a whole number. -/
def significand (x : Double) : Nat :=
  if x.binade = 0 then x.rank.val % binadeRanks else binadeRanks + x.rank.val % binadeRanks

def magnitude (x : Double) : Nat := x.significand * Nat.pow 2 (x.binade - 1)

/-- The value, counted in steps of `2⁻¹⁰⁷⁴`. -/
def units (x : Double) : Int := if x.negative then -(x.magnitude : Int) else x.magnitude

def zero (negative : Bool) : Double := ⟨negative, ⟨0, by decide⟩⟩

def greatest (negative : Bool) : Double := ⟨negative, ⟨finiteRanks - 1, by decide⟩⟩

def isZero (x : Double) : Bool := x.rank.val == 0

/-! ## Rounding -/

/-- The rank nearest to the quotient `num / den` of units. Ranks within a binade are one unit of
its last place apart, so the rank is the rounded quotient moved to its binade; a carry out of the
binade lands on the first rank of the next one. -/
def nearestRank (num den : Nat) : Nat :=
  let binades := (num / den).log2 - 52
  let step := den * Nat.pow 2 binades
  let below := num / step
  let rest := num % step
  let up := 2 * rest > step || (2 * rest == step && below % 2 == 1)
  binades * binadeRanks + below + if up then 1 else 0

def ofRank? (negative : Bool) (rank : Nat) : Option Double :=
  if h : rank < finiteRanks then some ⟨negative, ⟨rank, h⟩⟩ else none

/-- The double nearest to an integer; integers beyond the greatest double go to it. -/
def ofInt (n : Int) : Double :=
  let negative := decide (n < 0)
  (ofRank? negative (nearestRank (n.natAbs * stepsPerOne) 1)).getD (greatest negative)

def decimalLength (n : Nat) : Nat :=
  if h : n = 0 then 0 else decimalLength (n / 10) + 1
termination_by n
decreasing_by omega

/-- The double nearest to `significand · 10 ^ exponent`, or nothing when that rounds beyond the
greatest double. Far outside the range of doubles the power of ten is not computed. -/
def ofDecimal? (negative : Bool) (significand : Nat) (exponent : Int) : Option Double :=
  let leading := decimalLength significand + exponent
  if significand = 0 || leading < -400 then some (zero negative)
  else if leading > 400 then none
  else if exponent < 0 then
    ofRank? negative (nearestRank (significand * stepsPerOne) (Nat.pow 10 exponent.natAbs))
  else
    ofRank? negative (nearestRank (significand * Nat.pow 10 exponent.natAbs * stepsPerOne) 1)

/-! ## Products and quotients -/

/-- The product, unless it is beyond the greatest double. -/
def mul? (x y : Double) : Option Double :=
  ofRank? (x.negative != y.negative) (nearestRank (x.magnitude * y.magnitude) stepsPerOne)

/-- The quotient, unless it is beyond the greatest double. The divisor must not be zero. -/
def div? (x y : Double) : Option Double :=
  ofRank? (x.negative != y.negative) (nearestRank (x.magnitude * stepsPerOne) y.magnitude)

/-- The greatest exponent of a power of ten that is a double. -/
def greatestPower : Nat := 308

/-- The double nearest to a power of ten. -/
def powerOfTen (exponent : Nat) : Double := (ofDecimal? false 1 exponent).getD (greatest false)

/-- A double times a power of ten, rounded for the power and again for each step. An exponent that
is too small for a power is used up in steps, as long as there is something left to divide. -/
def scale? (x : Double) (exponent : Int) : Option Double :=
  if _ : exponent.natAbs ≤ greatestPower then
    if 0 ≤ exponent then x.mul? (powerOfTen exponent.natAbs)
    else x.div? (powerOfTen exponent.natAbs)
  else if x.isZero then some x
  else if _ : 0 ≤ exponent then none
  else do (← x.div? (powerOfTen greatestPower)).scale? (exponent + greatestPower)
termination_by exponent.natAbs
decreasing_by
  unfold greatestPower at *
  omega

/-! ## Order -/

def lt (x y : Double) : Bool := decide (x.units < y.units)

def eq (x y : Double) : Bool := decide (x.units = y.units)

end Double

/-- A double, an infinity, or the value that is not a number. -/
inductive ExtendedDouble
  | finite (x : Double)
  | infinite (negative : Bool)
  | nan
deriving DecidableEq, Repr

namespace ExtendedDouble

def toDouble? : ExtendedDouble → Option Double
  | finite x => some x
  | infinite _ | nan => none

/-- Numeric comparison; a value that is not a number is never below nor above another. -/
def lt : ExtendedDouble → ExtendedDouble → Bool
  | finite x, finite y => x.lt y
  | finite _, infinite negative => !negative
  | infinite negative, finite _ => negative
  | infinite negative, infinite negative' => negative && !negative'
  | nan, _ => false
  | _, nan => false

end ExtendedDouble

end ConfigSchema
