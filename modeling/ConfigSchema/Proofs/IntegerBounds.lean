import ConfigSchema.Proofs.Rounding
import ConfigSchema.Validation

/-! # Bounds on integers (`check_number`)

An integer is rounded before `check_number` compares it. Rounding never takes it across a bound, but
it may take it onto one (`Integer64.ofInt_lt_iff`): an integer that rounds to the bound it is beyond
is not reported, and every other one is (`SchemaNode.integer_bounds`). -/
namespace ConfigSchema

namespace Integer64

/-- The value, counted in the steps in which doubles are. -/
def units (n : Integer64) : Int := n.val * stepsPerOne

/-- Among doubles this number stands for the integer. -/
def RoundsTo (n : Integer64) (x : Double) : Prop := (Double.ofInt n.val).units = x.units

instance (n : Integer64) (x : Double) : Decidable (n.RoundsTo x) :=
  inferInstanceAs (Decidable (_ = _))

/-- A rounded integer is less than a double if the integer is and does not round to it. -/
theorem ofInt_lt_iff (n : Integer64) (x : Double) :
    (Double.ofInt n.val).lt x = true ↔ n.units < x.units ∧ ¬ n.RoundsTo x := by
  have nearest := Double.ofInt_isNearestTo n
  rw [Double.lt, decide_eq_true_eq, RoundsTo, units]
  constructor
  · intro less
    refine ⟨?_, by omega⟩
    by_contra notLess
    have := nearest.le_units (Int.not_lt.1 notLess)
    omega
  · rintro ⟨less, different⟩
    have := nearest.units_le (Int.le_of_lt less)
    omega

/-- A rounded integer is greater than a double if the integer is and does not round to it. -/
theorem lt_ofInt_iff (n : Integer64) (x : Double) :
    x.lt (Double.ofInt n.val) = true ↔ x.units < n.units ∧ ¬ n.RoundsTo x := by
  have nearest := Double.ofInt_isNearestTo n
  rw [Double.lt, decide_eq_true_eq, RoundsTo, units]
  constructor
  · intro greater
    refine ⟨?_, by omega⟩
    by_contra notGreater
    have := nearest.units_le (Int.not_lt.1 notGreater)
    omega
  · rintro ⟨greater, different⟩
    have := nearest.le_units (Int.le_of_lt greater)
    omega

end Integer64

namespace NumberRules

/-- The rules of a number whose bounds, as far as they are set, are finite. -/
def between (min max : Option Double) (examples : List Number) : NumberRules :=
  ⟨min.map .finite, max.map .finite, examples⟩

theorem filter_map_finite (bound : Option Double) (p : ExtendedDouble → Bool) :
    (bound.map ExtendedDouble.finite).filter p =
      (bound.filter fun x => p (.finite x)).map .finite := by
  cases bound with
  | none => rfl
  | some x => cases h : p (.finite x) <;> simp [Option.filter, h]

/-- The broken lower bound is reported, and the broken upper bound if the lower one is kept. -/
theorem violation?_integer (min max : Option Double) (examples : List Number) (path : String)
    (n : Integer64) :
    (between min max examples).violation? path (.number (.integer n)) =
      ((min.filter (Double.ofInt n.val).lt).map
          fun low => .belowMinimum path (.finite low) (.integer n)).or
        ((max.filter (Double.lt · (Double.ofInt n.val))).map
          fun high => .aboveMaximum path (.finite high) (.integer n)) := by
  simp only [violation?, between, filter_map_finite, ExtendedDouble.lt, Number.toDouble]
  cases min.filter fun x => (Double.ofInt n.val).lt x with
  | some low => rfl
  | none => cases max.filter fun x => x.lt (Double.ofInt n.val) <;> rfl

end NumberRules

/-- **Bounds on integers.** An integer below the lower bound is reported unless it rounds to this
bound, and one above the upper bound unless it rounds to that one or is reported already; nothing
else is reported, so an integer within the bounds never is. Rounding is to the nearest double, and
an integer up to `2⁵³` rounds to no other number, so that all of these are reported that should
be. -/
theorem SchemaNode.integer_bounds (node : Declaration Number) (min max : Option Double)
    (examples : List Number) (path : String) (n : Integer64) :
    let found := (SchemaNode.number node (.between min max examples)).valueViolations path
      (.number (.integer n))
    (∀ low, found = [.belowMinimum path (.finite low) (.integer n)] ↔
      min = some low ∧ n.units < low.units ∧ ¬ n.RoundsTo low) ∧
    (∀ high, found = [.aboveMaximum path (.finite high) (.integer n)] ↔
      max = some high ∧ high.units < n.units ∧ ¬ n.RoundsTo high ∧
        ∀ low ∈ min, low.units ≤ n.units ∨ n.RoundsTo low) ∧
    (found = [] ↔
      (∀ low ∈ min, low.units ≤ n.units ∨ n.RoundsTo low) ∧
        ∀ high ∈ max, n.units ≤ high.units ∨ n.RoundsTo high) ∧
    (Double.ofInt n.val).IsNearestTo n.val ∧
    (n.val.natAbs ≤ 2 ^ 53 → ∀ x, n.RoundsTo x ↔ n.units = x.units) := by
  intro found
  have found_eq : found =
      ((NumberRules.between min max examples).violation? path (.number (.integer n))).toList := by
    simp only [found, valueViolations]
  rw [NumberRules.violation?_integer] at found_eq
  have keepsLow : ∀ low : Double, (Double.ofInt n.val).lt low = false ↔
      low.units ≤ n.units ∨ n.RoundsTo low := by
    intro low
    rw [← Bool.not_eq_true, n.ofInt_lt_iff, not_and_or, Int.not_lt, not_not]
  have keepsHigh : ∀ high : Double, high.lt (Double.ofInt n.val) = false ↔
      n.units ≤ high.units ∨ n.RoundsTo high := by
    intro high
    rw [← Bool.not_eq_true, n.lt_ofInt_iff, not_and_or, Int.not_lt, not_not]
  refine ⟨fun low => ?below, fun high => ?above, ?kept, Double.ofInt_isNearestTo n,
    fun small x => ?unrounded⟩
  case below =>
    simp [found_eq, Option.toList_eq_singleton_iff, Option.or_eq_some_iff,
      Option.filter_eq_some_iff, n.ofInt_lt_iff]
  case above =>
    have reported : found = [.aboveMaximum path (.finite high) (.integer n)] ↔
        (∀ low ∈ min, low.units ≤ n.units ∨ n.RoundsTo low) ∧
          max = some high ∧ high.units < n.units ∧ ¬ n.RoundsTo high := by
      simp [found_eq, Option.toList_eq_singleton_iff, Option.or_eq_some_iff,
        Option.filter_eq_some_iff, n.lt_ofInt_iff, keepsLow]
    rw [reported]
    exact ⟨fun ⟨kept, set, above, apart⟩ => ⟨set, above, apart, kept⟩,
      fun ⟨set, above, apart, kept⟩ => ⟨kept, set, above, apart⟩⟩
  case kept => simp [found_eq, Option.or_eq_none_iff, keepsLow, keepsHigh]
  case unrounded => rw [Integer64.RoundsTo, Double.units_ofInt small, Integer64.units]

/-- The first integer that is no double. -/
def firstRounded : Integer64 := ⟨0x20000000000001, by decide, by decide⟩

/-- The double that it rounds to. -/
def lastExact : Double := .ofInt 0x20000000000000

/-- An integer above a bound that it rounds to is not reported. -/
theorem SchemaNode.integer_above_bound_unreported :
    lastExact.units = 0x20000000000000 * stepsPerOne ∧ lastExact.units < firstRounded.units ∧
      (SchemaNode.number { name := "count" } (.between none (some lastExact) [])).valueViolations
        "app.count" (.number (.integer firstRounded)) = [] := by
  decide +kernel

/-- Against a bound one lower the same integer is reported. -/
theorem SchemaNode.integer_bounds_firstRounded :
    firstRounded.val.natAbs = 2 ^ 53 + 1 ∧
      (SchemaNode.number { name := "count" }
          (.between none (some (.ofInt 0x1FFFFFFFFFFFFF)) [])).valueViolations
        "app.count" (.number (.integer firstRounded)) =
        [.aboveMaximum "app.count" (.finite (.ofInt 0x1FFFFFFFFFFFFF))
          (.integer firstRounded)] := by
  have reported := (integer_bounds { name := "count" } none (some (.ofInt 0x1FFFFFFFFFFFFF)) []
    "app.count" firstRounded).2.1 (.ofInt 0x1FFFFFFFFFFFFF)
  have above : (Double.ofInt 0x1FFFFFFFFFFFFF).units < firstRounded.units := by decide +kernel
  have apart : ¬ firstRounded.RoundsTo (.ofInt 0x1FFFFFFFFFFFFF) := by decide +kernel
  exact ⟨by decide, reported.2 ⟨rfl, above, apart, by simp⟩⟩

end ConfigSchema
