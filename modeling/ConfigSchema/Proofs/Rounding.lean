import ConfigSchema.Json.Basic
import Mathlib.Tactic.Linarith
import Mathlib.Tactic.Ring

/-! # Rounding to the nearest double

No double has a magnitude nearer to a quotient than the one it is rounded to, and of two that are
equally near the one with the even rank is taken (`Double.nearestRank_nearest`). So an integer of 64
bits is rounded to the nearest double (`Double.ofInt_isNearestTo`), and one with at most 53
significant bits is not changed (`Double.units_ofInt`). -/
namespace ConfigSchema

namespace Double

/-! ## Magnitudes -/

/-- From the foot of a binade on, or from zero, ranks are one last place apart, up to and including
the foot of the next binade. -/
theorem magnitude_of_rank {x : Double} {binades places : Nat}
    (rank : x.rank.val = binades * binadeRanks + places) (upper : places ≤ 2 * binadeRanks)
    (full : binades = 0 ∨ binadeRanks ≤ places) : x.magnitude = places * 2 ^ binades := by
  have positive : 0 < binadeRanks := by decide
  rw [magnitude, significand, binade, rank]
  rcases Nat.lt_or_ge places binadeRanks with small | large
  · obtain rfl : binades = 0 := by omega
    rw [Nat.zero_mul, Nat.zero_add, Nat.div_eq_of_lt small, if_pos rfl, Nat.mod_eq_of_lt small]
    rfl
  · obtain ⟨rest, rfl⟩ := Nat.exists_eq_add_of_le large
    rcases Nat.lt_or_ge rest binadeRanks with within | carried
    · have split : binades * binadeRanks + (binadeRanks + rest) =
          rest + binadeRanks * (binades + 1) := by ring
      rw [split, Nat.add_mul_div_left _ _ positive, Nat.add_mul_mod_self_left,
        Nat.div_eq_of_lt within, Nat.mod_eq_of_lt within, Nat.zero_add,
        if_neg (Nat.succ_ne_zero binades)]
      rfl
    · -- A carry: the significand starts anew, one binade further up.
      obtain rfl : rest = binadeRanks := by omega
      have split : binades * binadeRanks + (binadeRanks + binadeRanks) =
          binadeRanks * (binades + 2) := by ring
      rw [split, Nat.mul_div_cancel_left _ positive, Nat.mul_mod_right,
        if_neg (Nat.succ_ne_zero _)]
      show (binadeRanks + 0) * 2 ^ (binades + 1) = _
      rw [pow_succ]
      ring

theorem magnitude_eq (x : Double) : x.magnitude = x.significand * 2 ^ (x.binade - 1) := rfl

theorem significand_lt (x : Double) : x.significand < 2 * binadeRanks := by
  have := Nat.mod_lt x.rank.val (show 0 < binadeRanks by decide)
  rw [significand]
  split <;> omega

/-- From the foot of a binade on, magnitudes are whole numbers of its last places. -/
theorem dvd_magnitude {x : Double} {binades : Nat}
    (large : binadeRanks * 2 ^ binades ≤ x.magnitude) : 2 ^ binades ∣ x.magnitude := by
  rw [magnitude_eq] at large ⊢
  refine Dvd.dvd.mul_left (pow_dvd_pow 2 ?_) _
  by_contra less
  have finer : 2 * 2 ^ (x.binade - 1) ≤ 2 ^ binades := by
    rw [← pow_succ']
    exact Nat.pow_le_pow_right (by decide) (by omega)
  have below : x.significand * 2 ^ (x.binade - 1) < 2 * binadeRanks * 2 ^ (x.binade - 1) :=
    Nat.mul_lt_mul_of_pos_right x.significand_lt (by positivity)
  nlinarith [show 0 < binadeRanks by decide]

theorem magnitude_zero (negative : Bool) : (zero negative).magnitude = 0 := by
  simp [magnitude, significand, binade, zero]

theorem units_eq_zero {x : Double} (none : x.magnitude = 0) : x.units = 0 := by
  simp [units, none]

/-! ## Quotients -/

/-- A number of last places of a binade that is nearest to a quotient, the even one of two. -/
structure NearestPlaces (num den binades places : Nat) : Prop where
  upper : places ≤ 2 * binadeRanks
  full : binades = 0 ∨ binadeRanks ≤ places ∧ binadeRanks * (den * 2 ^ binades) ≤ num
  near : 2 * ((num : Int) - (places * (den * 2 ^ binades) : Nat)).natAbs ≤ den * 2 ^ binades
  even : 2 * ((num : Int) - (places * (den * 2 ^ binades) : Nat)).natAbs = den * 2 ^ binades →
    places % 2 = 0

/-- A quotient is rounded to the nearest number of last places of its own binade. -/
theorem exists_nearestPlaces (num : Nat) {den : Nat} (positive : 0 < den) :
    ∃ binades places, binades = (num / den).log2 - 52 ∧
      nearestRank num den = binades * binadeRanks + places ∧
      NearestPlaces num den binades places := by
  obtain ⟨binades, binades_eq⟩ : ∃ binades, binades = (num / den).log2 - 52 := ⟨_, rfl⟩
  obtain ⟨step, step_eq⟩ : ∃ step, step = den * 2 ^ binades := ⟨_, rfl⟩
  have step_pos : 0 < step := step_eq ▸ Nat.mul_pos positive (by positivity)
  have whole : num / step = num / den / 2 ^ binades := by rw [step_eq, Nat.div_div_eq_div_mul]
  have upper : num / step < 2 * binadeRanks := by
    rw [whole, Nat.div_lt_iff_lt_mul (by positivity)]
    refine Nat.lt_of_lt_of_le Nat.lt_log2_self ?_
    rw [show 2 * binadeRanks = 2 ^ 53 by decide, ← pow_add]
    exact Nat.pow_le_pow_right (by decide) (by omega)
  have lower : binades = 0 ∨ binadeRanks ≤ num / step := by
    refine or_iff_not_imp_left.2 fun some => ?_
    have large : num / den ≠ 0 := by
      intro none
      rw [none, Nat.log2_zero] at binades_eq
      omega
    rw [whole, Nat.le_div_iff_mul_le (by positivity), show binadeRanks = 2 ^ 52 by decide,
      ← pow_add, show 52 + binades = (num / den).log2 by omega]
    exact Nat.log2_self_le large
  have rank : nearestRank num den = binades * binadeRanks + (num / step +
      if 2 * (num % step) > step ∨ 2 * (num % step) = step ∧ num / step % 2 = 1 then 1 else 0) := by
    rw [nearestRank, ← Nat.add_assoc]
    simp [step_eq, binades_eq]
  have division := Nat.div_add_mod' num step
  have rest_lt := Nat.mod_lt num step_pos
  generalize num / step = below at *
  generalize num % step = rest at *
  refine ⟨binades, _, binades_eq, rank, ?upper, ?full, ?near, ?even⟩
  case upper => split <;> omega
  case full =>
    refine lower.imp_right fun large => ⟨Nat.le_add_right_of_le large, ?_⟩
    rw [← step_eq, ← division]
    exact Nat.le_add_right_of_le (Nat.mul_le_mul_right step large)
  case near =>
    rw [← step_eq, Nat.add_mul]
    split <;> omega
  case even =>
    rw [← step_eq, Nat.add_mul]
    split <;> omega

/-- No other number of last places is nearer, and another one as near only if this one is even. -/
theorem NearestPlaces.le_other {num den binades places : Nat}
    (nearest : NearestPlaces num den binades places) (other : Nat) :
    ((num : Int) - (places * (den * 2 ^ binades) : Nat)).natAbs ≤
        ((num : Int) - (other * (den * 2 ^ binades) : Nat)).natAbs ∧
      (((num : Int) - (places * (den * 2 ^ binades) : Nat)).natAbs =
          ((num : Int) - (other * (den * 2 ^ binades) : Nat)).natAbs →
        other = places ∨ places % 2 = 0) := by
  obtain ⟨-, -, near, even⟩ := nearest
  generalize den * 2 ^ binades = step at *
  rcases Nat.lt_trichotomy other places with less | rfl | greater
  · have apart : (other + 1) * step ≤ places * step := Nat.mul_le_mul_right step less
    rw [Nat.succ_mul] at apart
    omega
  · exact ⟨Nat.le_refl _, fun _ => .inl rfl⟩
  · have apart : (places + 1) * step ≤ other * step := Nat.mul_le_mul_right step greater
    rw [Nat.succ_mul] at apart
    omega

/-- How far a magnitude is from a quotient, in parts of the denominator. -/
def gap (num den : Nat) (x : Double) : Nat := ((num : Int) - (x.magnitude * den : Nat)).natAbs

theorem gap_zero (negative : Bool) (num : Nat) : (zero negative).gap num 1 = num := by
  simp [gap, magnitude_zero]

/-- **Rounding is to the nearest magnitude.** No magnitude is nearer to a quotient than that of the
rank it is rounded to, and if another one is as near, the rank is even. -/
theorem nearestRank_nearest {num den : Nat} (positive : 0 < den) {x : Double}
    (rank : x.rank.val = nearestRank num den) (y : Double) :
    x.gap num den ≤ y.gap num den ∧
      (x.gap num den = y.gap num den → y.magnitude = x.magnitude ∨ x.rank.val % 2 = 0) := by
  obtain ⟨binades, places, -, rank_eq, nearest⟩ := exists_nearestPlaces num positive
  rw [rank_eq] at rank
  have x_eq := magnitude_of_rank rank nearest.upper (nearest.full.imp_right And.left)
  have inStep : ∀ k, k * 2 ^ binades * den = k * (den * 2 ^ binades) := fun k => by ring
  have even : places % 2 = 0 → x.rank.val % 2 = 0 := by
    intro even
    have half : binades * binadeRanks = 2 * (binades * 2 ^ 51) := by
      rw [show binadeRanks = 2 * 2 ^ 51 by decide]
      ring
    omega
  have multiple : ∀ k, y.magnitude = k * 2 ^ binades → x.gap num den ≤ y.gap num den ∧
      (x.gap num den = y.gap num den → y.magnitude = x.magnitude ∨ x.rank.val % 2 = 0) := by
    intro k k_eq
    obtain ⟨near, tie⟩ := nearest.le_other k
    rw [gap, gap, x_eq, k_eq, inStep, inStep]
    exact ⟨near, fun same => (tie same).imp (fun same => by rw [same]) even⟩
  rcases Nat.lt_or_ge y.magnitude (binadeRanks * 2 ^ binades) with small | large
  · rcases nearest.full with rfl | ⟨-, full⟩
    · exact multiple y.magnitude (by rw [pow_zero, Nat.mul_one])
    · -- Between `y` and the quotient lies the foot of the binade, which is no nearer than `x`.
      obtain ⟨near, -⟩ := nearest.le_other binadeRanks
      have beyond : y.magnitude * den < binadeRanks * (den * 2 ^ binades) := by
        rw [← inStep]
        exact Nat.mul_lt_mul_of_pos_right small positive
      rw [gap, gap, x_eq, inStep]
      omega
  · obtain ⟨k, k_eq⟩ := dvd_magnitude large
    exact multiple k (by rw [k_eq, Nat.mul_comm])

theorem log2_mul_two_pow_lt {a places : Nat} (small : a < 2 ^ places) (positive : 0 < places)
    (steps : Nat) : (a * 2 ^ steps).log2 < places + steps := by
  by_cases none : a * 2 ^ steps = 0
  · rw [none, Nat.log2_zero]
    omega
  · rw [Nat.log2_lt none, pow_add]
    exact Nat.mul_lt_mul_of_pos_right small (by positivity)

/-- A whole number with at most 53 significant bits is the magnitude of its rank. -/
theorem magnitude_of_nearestRank {a steps : Nat} (small : a < 2 ^ 53) {x : Double}
    (rank : x.rank.val = nearestRank (a * 2 ^ steps) 1) : x.magnitude = a * 2 ^ steps := by
  obtain ⟨binades, places, binades_eq, rank_eq, nearest⟩ :=
    exists_nearestPlaces (a * 2 ^ steps) Nat.one_pos
  have log := log2_mul_two_pow_lt small (by decide) steps
  rw [Nat.div_one] at binades_eq
  obtain ⟨more, rfl⟩ := Nat.exists_eq_add_of_le (show binades ≤ steps by omega)
  have split : a * 2 ^ (binades + more) = a * 2 ^ more * (1 * 2 ^ binades) := by
    rw [pow_add]
    ring
  have near := (nearest.le_other (a * 2 ^ more)).1
  rw [rank_eq] at rank
  rw [magnitude_of_rank rank nearest.upper (nearest.full.imp_right And.left)]
  rw [← split, Nat.one_mul] at near
  omega

/-! ## Integers -/

/-- How far a double is from an integer, counted in steps of `2⁻¹⁰⁷⁴`. -/
def distance (x : Double) (n : Int) : Nat := (n * stepsPerOne - x.units).natAbs

/-- No double is nearer to an integer, and if another one is as near, the rank is even. -/
structure IsNearestTo (x : Double) (n : Int) : Prop where
  near : ∀ y : Double, x.distance n ≤ y.distance n
  even : ∀ y : Double, x.distance n = y.distance n → y.units = x.units ∨ x.rank.val % 2 = 0

namespace IsNearestTo

variable {x : Double} {n : Int}

/-- Rounding does not pass over a double below. -/
theorem le_units (nearest : x.IsNearestTo n) {y : Double} (le : y.units ≤ n * stepsPerOne) :
    y.units ≤ x.units := by
  have near := nearest.near y
  rw [distance, distance] at near
  omega

/-- Rounding does not pass over a double above. -/
theorem units_le (nearest : x.IsNearestTo n) {y : Double} (le : n * stepsPerOne ≤ y.units) :
    x.units ≤ y.units := by
  have near := nearest.near y
  rw [distance, distance] at near
  omega

end IsNearestTo

theorem stepsPerOne_eq : stepsPerOne = 2 ^ 1074 := by decide +kernel

/-- An integer counted in steps, as a sign and a magnitude. -/
theorem mul_stepsPerOne (n : Int) :
    n * stepsPerOne =
      if n < 0 then -((n.natAbs * stepsPerOne : Nat) : Int)
      else (n.natAbs * stepsPerOne : Nat) := by
  rw [Int.natCast_mul]
  split
  · rw [← Int.neg_mul, show -(n.natAbs : Int) = n by omega]
  · rw [show (n.natAbs : Int) = n by omega]

theorem distance_of_same_sign {x : Double} {n : Int} (sign : x.negative = decide (n < 0)) :
    x.distance n = x.gap (n.natAbs * stepsPerOne) 1 := by
  rw [distance, gap, units, sign, mul_stepsPerOne, Nat.mul_one]
  by_cases negative : n < 0
  · simp only [negative, decide_true, if_true]
    omega
  · simp only [negative, decide_false, Bool.false_eq_true, if_false]

theorem distance_of_other_sign {x : Double} {n : Int} (sign : x.negative ≠ decide (n < 0)) :
    x.distance n = n.natAbs * stepsPerOne + x.magnitude := by
  rw [distance, units, mul_stepsPerOne]
  by_cases negative : n < 0
  · have positive : x.negative = false := by simpa [negative] using sign
    simp only [negative, positive, if_true, Bool.false_eq_true, if_false]
    omega
  · have negative' : x.negative = true := by simpa [negative] using sign
    simp only [negative, negative', if_true, if_false]
    omega

/-- An integer of 64 bits lies far below the infinities. -/
theorem nearestRank_lt_finiteRanks (n : Integer64) :
    nearestRank (n.val.natAbs * stepsPerOne) 1 < finiteRanks := by
  obtain ⟨binades, places, binades_eq, rank_eq, nearest⟩ :=
    exists_nearestPlaces (n.val.natAbs * stepsPerOne) Nat.one_pos
  have small : n.val.natAbs < 2 ^ 64 := by
    have lower := n.lower
    have upper := n.upper
    unfold Integer64.least at lower
    unfold Integer64.bound at upper
    omega
  have log : (n.val.natAbs * stepsPerOne).log2 < 64 + 1074 := by
    rw [stepsPerOne_eq]
    exact log2_mul_two_pow_lt small (by decide) 1074
  rw [Nat.div_one] at binades_eq
  have most : binades * binadeRanks ≤ 1085 * binadeRanks := Nat.mul_le_mul_right _ (by omega)
  have upper := nearest.upper
  rw [rank_eq]
  unfold finiteRanks
  unfold binadeRanks at *
  omega

theorem ofInt_eq (n : Integer64) :
    ofInt n.val = ⟨decide (n.val < 0), ⟨_, nearestRank_lt_finiteRanks n⟩⟩ := by
  rw [ofInt, ofRank?, dif_pos (nearestRank_lt_finiteRanks n)]
  rfl

theorem negative_ofInt (n : Integer64) : (ofInt n.val).negative = decide (n.val < 0) := by
  rw [ofInt_eq]

theorem rank_ofInt (n : Integer64) :
    (ofInt n.val).rank.val = nearestRank (n.val.natAbs * stepsPerOne) 1 := by
  rw [ofInt_eq]

/-- **An integer is rounded to the nearest double**, the even one of two. -/
theorem ofInt_isNearestTo (n : Integer64) : (ofInt n.val).IsNearestTo n.val := by
  have own := distance_of_same_sign (negative_ofInt n)
  have nearest := nearestRank_nearest Nat.one_pos (rank_ofInt n)
  have both : ∀ y : Double, (ofInt n.val).distance n.val ≤ y.distance n.val ∧
      ((ofInt n.val).distance n.val = y.distance n.val →
        y.units = (ofInt n.val).units ∨ (ofInt n.val).rank.val % 2 = 0) := by
    intro y
    by_cases sign : y.negative = decide (n.val < 0)
    · obtain ⟨near, tie⟩ := nearest y
      rw [own, distance_of_same_sign sign]
      refine ⟨near, fun same => (tie same).imp_left fun same => ?_⟩
      rw [units, units, same, sign, negative_ofInt]
    · -- Zero lies between the integer and a double of the other sign.
      obtain ⟨near, tie⟩ := nearest (zero false)
      rw [gap_zero] at near tie
      rw [magnitude_zero] at tie
      rw [own, distance_of_other_sign sign]
      refine ⟨by omega, fun same => (tie (by omega)).imp_left fun none => ?_⟩
      have none' : y.magnitude = 0 := by omega
      rw [units_eq_zero none.symm, units_eq_zero none']
  exact ⟨fun y => (both y).1, fun y => (both y).2⟩

/-- An integer up to `2⁵³` is a double itself. -/
theorem units_ofInt {n : Integer64} (small : n.val.natAbs ≤ 2 ^ 53) :
    (ofInt n.val).units = n.val * stepsPerOne := by
  have magnitude : (ofInt n.val).magnitude = n.val.natAbs * stepsPerOne := by
    have rank := rank_ofInt n
    rcases Nat.lt_or_eq_of_le small with below | top
    · rw [stepsPerOne_eq] at rank ⊢
      exact magnitude_of_nearestRank below rank
    · have moved : 2 ^ 53 * stepsPerOne = 1 * 2 ^ (53 + 1074) := by
        rw [stepsPerOne_eq, pow_add, Nat.one_mul]
      rw [top, moved] at rank ⊢
      exact magnitude_of_nearestRank (by decide) rank
  rw [units, negative_ofInt, magnitude, mul_stepsPerOne]
  simp only [decide_eq_true_eq]

end Double

end ConfigSchema
