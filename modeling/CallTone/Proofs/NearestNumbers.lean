import CallTone.Binary64.Decimal
import Mathlib.Algebra.Order.Field.Power
import Mathlib.Data.Nat.Log
import Mathlib.Tactic.FieldSimp
import Mathlib.Tactic.Linarith
import Mathlib.Tactic.NormNum
import Mathlib.Tactic.Positivity
import Mathlib.Tactic.Ring

/-! Rounding a quotient of naturals to a binary number. Around every finite number lie
the rationals that are nearer to it than to its neighbours; where two neighbours are
equally near, the even one has the tie. A quotient from that range is rounded to the
number: its leading bit fixes the exponent of the grid that it is rounded on, and only
just below a power of two is that grid finer than the one that the number stands on. -/
namespace CallTone.NearestNumbers
open Binary64

variable {x : Binary64} {s : Scaled} {q : ℚ} {n d r : Nat}

/-! Quotients -/

/-- The rational that a pair of naturals is the quotient of. -/
def quotient (pair : Nat × Nat) : ℚ := pair.1 / pair.2

theorem shift_ratio_value (n d : Nat) (shift : Int) :
    quotient (shiftRatio n d shift) = (n : ℚ) / d * 2 ^ shift := by
  cases shift with
  | ofNat up =>
    simp only [quotient, shiftRatio, Nat.shiftLeft_eq, Nat.cast_mul, Nat.cast_pow, Nat.cast_ofNat,
      Int.ofNat_eq_natCast, zpow_natCast]
    ring
  | negSucc down =>
    simp only [quotient, shiftRatio, Nat.shiftLeft_eq, Nat.cast_mul, Nat.cast_pow, Nat.cast_ofNat,
      zpow_negSucc]
    field_simp

theorem shift_ratio_pos (positive : 0 < d) (shift : Int) : 0 < (shiftRatio n d shift).2 := by
  cases shift with
  | ofNat up => exact positive
  | negSucc down =>
    rw [shiftRatio, Nat.shiftLeft_eq]
    positivity

/-- The leading bits of two naturals enclose their quotient. -/
theorem quotient_bounds (given : n ≠ 0) (positive : d ≠ 0) :
    (2 : ℚ) ^ ((n.log2 : Int) - d.log2 - 1) < (n : ℚ) / d ∧
      (n : ℚ) / d < 2 ^ ((n.log2 : Int) - d.log2 + 1) := by
  have two : (2 : ℚ) ≠ 0 := by norm_num
  have lowN : (2 : ℚ) ^ n.log2 ≤ n := by exact_mod_cast Nat.log2_self_le given
  have highN : (n : ℚ) < 2 ^ (n.log2 + 1) := by exact_mod_cast Nat.lt_log2_self
  have lowD : (2 : ℚ) ^ d.log2 ≤ d := by exact_mod_cast Nat.log2_self_le positive
  have highD : (d : ℚ) < 2 ^ (d.log2 + 1) := by exact_mod_cast Nat.lt_log2_self
  have some : (0 : ℚ) < d := by exact_mod_cast Nat.pos_of_ne_zero positive
  constructor
  · have split : (2 : ℚ) ^ ((n.log2 : Int) - d.log2 - 1) * 2 ^ (d.log2 + 1) = 2 ^ n.log2 := by
      rw [← zpow_natCast, ← zpow_natCast, ← zpow_add₀ two]
      congr 1
      push_cast
      ring
    rw [lt_div_iff₀ some]
    calc (2 : ℚ) ^ ((n.log2 : Int) - d.log2 - 1) * d
        < 2 ^ ((n.log2 : Int) - d.log2 - 1) * 2 ^ (d.log2 + 1) :=
          mul_lt_mul_of_pos_left highD (by positivity)
      _ = 2 ^ n.log2 := split
      _ ≤ n := lowN
  · have split : (2 : ℚ) ^ ((n.log2 : Int) - d.log2 + 1) * 2 ^ d.log2 = 2 ^ (n.log2 + 1) := by
      rw [← zpow_natCast, ← zpow_natCast, ← zpow_add₀ two]
      congr 1
      push_cast
      ring
    rw [div_lt_iff₀ some]
    calc (n : ℚ) < 2 ^ (n.log2 + 1) := highN
      _ = 2 ^ ((n.log2 : Int) - d.log2 + 1) * 2 ^ d.log2 := split.symm
      _ ≤ 2 ^ ((n.log2 : Int) - d.log2 + 1) * d := mul_le_mul_of_nonneg_left lowD (by positivity)

theorem whole_part_lt_iff (positive : 0 < d) (bound : Nat) :
    n / d < bound ↔ (n : ℚ) / d < bound := by
  have some : (0 : ℚ) < d := by exact_mod_cast positive
  rw [Nat.div_lt_iff_lt_mul positive, div_lt_iff₀ some]
  norm_cast

/-! Rounding on a grid -/

/-- The natural that a quotient is rounded to, with all fractions cleared. -/
theorem half_even_eq (positive : 0 < d) (low : 2 * r * d ≤ 2 * n + d)
    (high : 2 * n ≤ 2 * r * d + d)
    (inside : r % 2 = 1 → 2 * r * d < 2 * n + d ∧ 2 * n < 2 * r * d + d) :
    roundHalfEven n d = r := by
  have parts := Nat.div_add_mod n d
  have small := Nat.mod_lt n positive
  rw [roundHalfEven]
  generalize n / d = quotient at parts ⊢
  generalize n % d = rest at parts small ⊢
  subst parts
  -- the quotient is `r` or the natural before it, by how the rest compares with a half
  have reached : r ≤ quotient + 1 := by
    by_contra far
    have step := Nat.mul_le_mul_right d (show quotient + 2 ≤ r by omega)
    nlinarith
  have passed : quotient ≤ r := by
    by_contra far
    have step := Nat.mul_le_mul_right d (show r + 1 ≤ quotient by omega)
    nlinarith
  obtain same | before : quotient = r ∨ quotient + 1 = r := by omega
  · subst same
    have below : 2 * rest ≤ d := by nlinarith
    split
    · rfl
    split
    · omega
    · by_cases isOdd : quotient % 2 = 1
      · have strict := (inside isOdd).2
        nlinarith
      · omega
  · subst before
    have above : d ≤ 2 * rest := by nlinarith
    split
    · omega
    split
    · rfl
    · by_cases isOdd : (quotient + 1) % 2 = 1
      · have strict := (inside isOdd).1
        nlinarith
      · omega

/-- A quotient is rounded to the natural that it is at most a half away from, and when
that natural is odd less than a half. -/
theorem rounded_to (positive : 0 < d) (low : (r : ℚ) - 1 / 2 ≤ n / d)
    (high : (n : ℚ) / d ≤ r + 1 / 2)
    (inside : r % 2 = 1 → (r : ℚ) - 1 / 2 < n / d ∧ (n : ℚ) / d < r + 1 / 2) :
    roundHalfEven n d = r := by
  have some : (0 : ℚ) < d := by exact_mod_cast positive
  rw [le_div_iff₀ some] at low
  rw [div_le_iff₀ some] at high
  rw [lt_div_iff₀ some, div_lt_iff₀ some] at inside
  refine half_even_eq positive ?_ ?_ fun odd => ⟨?_, ?_⟩
  · have cleared : (2 * r * d : ℚ) ≤ 2 * n + d := by linarith
    exact_mod_cast cleared
  · have cleared : (2 * n : ℚ) ≤ 2 * r * d + d := by linarith
    exact_mod_cast cleared
  · have cleared : (2 * r * d : ℚ) < 2 * n + d := by linarith [(inside odd).1]
    exact_mod_cast cleared
  · have cleared : (2 * n : ℚ) < 2 * r * d + d := by linarith [(inside odd).2]
    exact_mod_cast cleared

/-- The exponent of the grid that a quotient is rounded on. -/
def gridExponent (n d : Nat) : Int :=
  let estimate : Int := max ((n.log2 : Int) - d.log2 - 52) (-1074)
  let coarse := shiftRatio n d (-estimate)
  if coarse.1 / coarse.2 < 1 <<< 52 ∧ -1074 < estimate then estimate - 1 else estimate

theorem of_ratio_eq (negative : Bool) (given : n ≠ 0) :
    ofRatio negative n d =
      ofMagnitude negative (((gridExponent n d + 1074).toNat <<< 52) +
        roundHalfEven (shiftRatio n d (-gridExponent n d)).1
          (shiftRatio n d (-gridExponent n d)).2) := by
  rw [ofRatio, if_neg given]
  rfl

/-- On its grid a quotient has at most 53 bits, and as many unless the grid is the finest
one. -/
theorem grid_exponent_bounds (given : n ≠ 0) (positive : d ≠ 0) :
    -1074 ≤ gridExponent n d ∧ (n : ℚ) / d < 2 ^ (gridExponent n d + 53) ∧
      (gridExponent n d = -1074 ∨ 2 ^ (gridExponent n d + 52) ≤ (n : ℚ) / d) := by
  obtain ⟨low, high⟩ := quotient_bounds given positive
  have one : (1 : ℚ) < 2 := by norm_num
  unfold gridExponent
  simp only
  generalize estimated : max ((n.log2 : Int) - d.log2 - 52) (-1074) = estimate
  have coarse : (shiftRatio n d (-estimate)).1 / (shiftRatio n d (-estimate)).2 < 1 <<< 52 ↔
      (n : ℚ) / d < 2 ^ (estimate + 52) := by
    rw [whole_part_lt_iff (shift_ratio_pos (Nat.pos_of_ne_zero positive) _)]
    have value := shift_ratio_value n d (-estimate)
    rw [quotient] at value
    rw [value, zpow_neg, ← div_eq_mul_inv, div_lt_iff₀ (by positivity),
      zpow_add₀ (by norm_num)]
    norm_num [Nat.shiftLeft_eq, mul_comm]
  simp only [coarse]
  split
  · next lower =>
    refine ⟨by omega, ?_, .inr ?_⟩
    · rw [show estimate - 1 + 53 = estimate + 52 by ring]
      exact lower.1
    · refine le_of_lt (lt_of_le_of_lt ?_ low)
      exact zpow_le_zpow_right₀ one.le (by omega)
  · next kept =>
    refine ⟨by omega, ?_, ?_⟩
    · refine lt_of_lt_of_le high ?_
      exact zpow_le_zpow_right₀ one.le (by omega)
    · by_cases finest : estimate = -1074
      · exact .inl finest
      · exact .inr (not_lt.mp fun below => kept ⟨below, by omega⟩)

/-! Numbers and what lies around them -/

theorem finite_iff : x.isFinite = true ↔ x.magnitude < infinityMagnitude := decide_eq_true_iff

/-- A finite number by its significand and exponent: the magnitude counts the numbers
below it. -/
theorem scaled_bounds (finite : x.isFinite = true) :
    x.magnitude = (x.scaled.exponent + 1074).toNat <<< 52 + x.scaled.significand ∧
      -1074 ≤ x.scaled.exponent ∧ x.scaled.exponent ≤ 971 ∧ x.scaled.significand < 2 ^ 53 ∧
      (x.scaled.exponent = -1074 ∨ 2 ^ 52 ≤ x.scaled.significand) := by
  have below := finite_iff.mp finite
  unfold scaled
  simp only [infinityMagnitude, Nat.shiftRight_eq_div_pow, Nat.shiftLeft_eq] at below ⊢
  split
  · dsimp only
    omega
  · simp only [Int.ofNat_eq_natCast]
    omega

theorem scaled_given (finite : x.isFinite = true) (given : x.magnitude ≠ 0) :
    1 ≤ x.scaled.significand := by
  obtain ⟨whole, low, -, -, place⟩ := scaled_bounds finite
  rcases place with finest | normal
  · rw [finest] at whole
    simp only [Int.reduceNeg, neg_add_cancel, Int.toNat_zero, Nat.zero_shiftLeft,
      Nat.zero_add] at whole
    omega
  · omega

/-- How far below the number its range reaches, in units of its last place: a half, and
half of that where the numbers below stand closer. -/
def gapBelow (s : Scaled) : ℚ :=
  if s.significand = 1 <<< 52 ∧ -1074 < s.exponent then 1 / 4 else 1 / 2

theorem gap_below_bounds (s : Scaled) : 1 / 4 ≤ gapBelow s ∧ gapBelow s ≤ 1 / 2 := by
  unfold gapBelow
  split <;> norm_num

/-- A rational lies in the range of a number. The ends belong to it when the significand
is even. -/
structure RoundsTo (s : Scaled) (q : ℚ) : Prop where
  low : (s.significand - gapBelow s) * 2 ^ s.exponent ≤ q
  high : q ≤ (s.significand + 1 / 2) * 2 ^ s.exponent
  inside : s.significand % 2 = 1 →
    (s.significand - gapBelow s) * 2 ^ s.exponent < q ∧
      q < (s.significand + 1 / 2) * 2 ^ s.exponent

/-- On the grid of the number a rational of its range is at most a half away from the
significand. -/
theorem rounds_on_grid (rounds : RoundsTo s q) :
    s.significand - gapBelow s ≤ q * 2 ^ (-s.exponent) ∧
      q * 2 ^ (-s.exponent) ≤ s.significand + 1 / 2 ∧
      (s.significand % 2 = 1 → s.significand - gapBelow s < q * 2 ^ (-s.exponent) ∧
        q * 2 ^ (-s.exponent) < s.significand + 1 / 2) := by
  have power : (0 : ℚ) < 2 ^ s.exponent := by positivity
  rw [zpow_neg, ← div_eq_mul_inv, le_div_iff₀ power, div_le_iff₀ power, lt_div_iff₀ power,
    div_lt_iff₀ power]
  exact ⟨rounds.low, rounds.high, rounds.inside⟩

section
variable (given : n ≠ 0) (positive : d ≠ 0) (rounds : RoundsTo s (n / d))
include given positive rounds

/-- A rational of the range of a number is not rounded on a coarser grid: there it would
have too few bits. -/
theorem grid_not_coarser (finest : -1074 ≤ s.exponent) (bits : s.significand < 2 ^ 53) :
    gridExponent n d ≤ s.exponent := by
  obtain ⟨-, -, above⟩ := grid_exponent_bounds given positive
  by_contra coarser
  have reached := above.resolve_left (by omega)
  have fits : (s.significand + 1 / 2 : ℚ) < 2 ^ 53 := by
    have cast : (s.significand : ℚ) + 1 ≤ 2 ^ 53 := by exact_mod_cast bits
    linarith
  have grid : (2 : ℚ) ^ (s.exponent + 53) ≤ 2 ^ (gridExponent n d + 52) :=
    zpow_le_zpow_right₀ (by norm_num) (by omega)
  rw [zpow_add₀ (by norm_num)] at grid
  have power : (0 : ℚ) < 2 ^ s.exponent := by positivity
  have short := mul_lt_mul_of_pos_right fits power
  have upper := rounds.high
  norm_num at grid short
  linarith

/-- Where the significand has all its bits, the grid is at most one place finer. -/
theorem grid_not_far_finer (leading : 2 ^ 52 ≤ s.significand) :
    s.exponent - 1 ≤ gridExponent n d := by
  obtain ⟨-, below, -⟩ := grid_exponent_bounds given positive
  have many : (2 : ℚ) ^ 52 ≤ s.significand := by exact_mod_cast leading
  have gap := gap_below_bounds s
  by_contra far
  have grid : (2 : ℚ) ^ (gridExponent n d + 53) ≤ 2 ^ (s.exponent + 51) :=
    zpow_le_zpow_right₀ (by norm_num) (by omega)
  rw [zpow_add₀ (by norm_num) s.exponent] at grid
  have long : (2 : ℚ) ^ 51 * 2 ^ s.exponent < (s.significand - gapBelow s) * 2 ^ s.exponent :=
    mul_lt_mul_of_pos_right (by linarith) (by positivity)
  have lower := rounds.low
  norm_num at grid long
  linarith

/-- Only just below a power of two is it finer at all. -/
theorem grid_finer_power (leading : 2 ^ 52 ≤ s.significand)
    (finer : gridExponent n d = s.exponent - 1) : s.significand = 2 ^ 52 := by
  obtain ⟨-, below, -⟩ := grid_exponent_bounds given positive
  have gap := gap_below_bounds s
  by_contra other
  have further : (2 : ℚ) ^ 52 + 1 ≤ s.significand := by
    have whole : 2 ^ 52 + 1 ≤ s.significand := by omega
    exact_mod_cast whole
  rw [finer, show s.exponent - 1 + 53 = s.exponent + 52 by ring, zpow_add₀ (by norm_num)] at below
  have power : (0 : ℚ) < 2 ^ s.exponent := by positivity
  have long : ((2 : ℚ) ^ 52 + 1 / 2) * 2 ^ s.exponent ≤
      (s.significand - gapBelow s) * 2 ^ s.exponent :=
    mul_le_mul_of_nonneg_right (by linarith) power.le
  have lower := rounds.low
  norm_num at below long
  linarith

/-- A rational of the range of a number is rounded on the grid of the number, or just
below a power of two on the next finer one. -/
theorem grid_exponent_found (finest : -1074 ≤ s.exponent) (bits : s.significand < 2 ^ 53)
    (normal : s.exponent = -1074 ∨ 2 ^ 52 ≤ s.significand) :
    gridExponent n d = s.exponent ∨
      gridExponent n d = s.exponent - 1 ∧ s.significand = 2 ^ 52 ∧ -1074 < s.exponent := by
  have notCoarser := grid_not_coarser given positive rounds finest bits
  have lowest := (grid_exponent_bounds given positive).1
  by_cases same : gridExponent n d = s.exponent
  · exact .inl same
  have leading : 2 ^ 52 ≤ s.significand := normal.resolve_left (by omega)
  have notFar := grid_not_far_finer given positive rounds leading
  have finer : gridExponent n d = s.exponent - 1 := by omega
  exact .inr ⟨finer, grid_finer_power given positive rounds leading finer, by omega⟩

end

/-- Just below a power of two the finer grid has twice as many places, and the rational is
rounded up to the power. -/
theorem rounded_to_power (given : n ≠ 0) (positive : 0 < d) (rounds : RoundsTo s (n / d))
    (finer : gridExponent n d = s.exponent - 1) (power : s.significand = 2 ^ 52)
    (above : -1074 < s.exponent) :
    roundHalfEven (shiftRatio n d (-gridExponent n d)).1
      (shiftRatio n d (-gridExponent n d)).2 = 2 ^ 53 := by
  have divides := shift_ratio_pos (n := n) positive (-gridExponent n d)
  have value := shift_ratio_value n d (-gridExponent n d)
  rw [quotient] at value
  obtain ⟨low, -, -⟩ := rounds_on_grid rounds
  have quarter : gapBelow s = 1 / 4 := by rw [gapBelow, if_pos ⟨power, above⟩]
  rw [power, quarter] at low
  have below := (grid_exponent_bounds given positive.ne').2.1
  have shifted : (n : ℚ) / d * 2 ^ (-gridExponent n d) =
      2 * ((n : ℚ) / d * 2 ^ (-s.exponent)) := by
    rw [finer, show -(s.exponent - 1) = 1 + -s.exponent by ring, zpow_add₀ (by norm_num)]
    ring
  have belowTwice : (n : ℚ) / d * 2 ^ (-gridExponent n d) < 2 ^ 53 := by
    rw [zpow_neg, ← div_eq_mul_inv, div_lt_iff₀ (by positivity), ← zpow_natCast,
      ← zpow_add₀ (by norm_num)]
    rwa [add_comm (gridExponent n d)] at below
  refine rounded_to divides ?_ ?_ (by norm_num)
  · rw [value, shifted]
    push_cast at low ⊢
    linarith
  · rw [value]
    push_cast
    linarith

/-- Rounded on its grid, a rational of the range of a number comes to the magnitude of
the number. -/
theorem magnitude_found (given : n ≠ 0) (positive : 0 < d) (finite : x.isFinite = true)
    (rounds : RoundsTo x.scaled (n / d)) :
    ((gridExponent n d + 1074).toNat <<< 52) +
        roundHalfEven (shiftRatio n d (-gridExponent n d)).1
          (shiftRatio n d (-gridExponent n d)).2 = x.magnitude := by
  obtain ⟨whole, finest, -, bits, normal⟩ := scaled_bounds finite
  rcases grid_exponent_found given positive.ne' rounds finest bits normal with
    same | ⟨finer, power, above⟩
  · have gap := gap_below_bounds x.scaled
    obtain ⟨low, high, inside⟩ := rounds_on_grid rounds
    have value := shift_ratio_value n d (-gridExponent n d)
    rw [quotient] at value
    rw [same] at value ⊢
    rw [whole, rounded_to (shift_ratio_pos positive _)]
    · rw [value]
      linarith
    · rw [value]
      exact high
    · intro odd
      rw [value]
      exact ⟨by linarith [(inside odd).1], (inside odd).2⟩
  · -- the power of two counts as one more step of the finer grid's exponent
    rw [rounded_to_power given positive rounds finer power above, finer, whole, power,
      Nat.shiftLeft_eq, Nat.shiftLeft_eq]
    omega

theorem rounds_to_pos (given : 1 ≤ s.significand) (rounds : RoundsTo s q) : 0 < q := by
  have some : (1 : ℚ) ≤ s.significand := by exact_mod_cast given
  have gap := gap_below_bounds s
  refine lt_of_lt_of_le ?_ rounds.low
  have power : (0 : ℚ) < 2 ^ s.exponent := by positivity
  exact mul_pos (by linarith) power

/-- A quotient from the range of a finite number is rounded to the number. -/
theorem ratio_rounds (finite : x.isFinite = true) (some : x.magnitude ≠ 0) (positive : 0 < d)
    (rounds : RoundsTo x.scaled (n / d)) : ofRatio x.negative n d = x := by
  have given : n ≠ 0 := by
    rintro rfl
    have above := rounds_to_pos (scaled_given finite some) rounds
    norm_num at above
  have below : x.magnitude ≤ infinityMagnitude := Nat.le_of_lt (finite_iff.mp finite)
  rw [of_ratio_eq x.negative given, magnitude_found given positive finite rounds]
  simp only [ofMagnitude, Nat.min_eq_left below]

end CallTone.NearestNumbers
