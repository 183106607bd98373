/-!
Binary floating-point numbers of 64 bits. A number is its sign bit and its 63 magnitude bits, so
that comparison and rounding are exact integer arithmetic. The order is read off `key`: the
magnitude bits of a larger number are a larger integer, both zeros have the key zero, and a NaN
compares with nothing. Rounding takes the exact quotient of two naturals to the nearest number, a
tie to the even neighbour.
-/
namespace CallTone

/-- A number of IEEE 754 format binary64, by its bit fields. -/
structure Binary64 where
  negative : Bool
  /-- The 11 exponent bits followed by the 52 fraction bits. -/
  magnitude : Nat
  magnitude_lt : magnitude < 1 <<< 63
deriving DecidableEq

namespace Binary64

/-- The magnitude bits of infinity; larger ones are NaNs. -/
def infinityMagnitude : Nat := 2047 <<< 52

/-- The number with these magnitude bits, or infinity when they run past it. -/
def ofMagnitude (negative : Bool) (magnitude : Nat) : Binary64 where
  negative := negative
  magnitude := min magnitude infinityMagnitude
  magnitude_lt := Nat.lt_of_le_of_lt (Nat.min_le_right _ _) (by decide)

def zero : Binary64 := ⟨false, 0, by decide⟩

def one : Binary64 := ⟨false, 1023 <<< 52, by decide⟩

def infinity (negative : Bool) : Binary64 := ⟨negative, infinityMagnitude, by decide⟩

/-- A quiet NaN. -/
def nan : Binary64 := ⟨false, infinityMagnitude + (1 <<< 51), by decide⟩

instance : Inhabited Binary64 := ⟨zero⟩

def neg (x : Binary64) : Binary64 := { x with negative := !x.negative }

def isNaN (x : Binary64) : Bool := decide (infinityMagnitude < x.magnitude)

def isInfinite (x : Binary64) : Bool := decide (x.magnitude = infinityMagnitude)

def isFinite (x : Binary64) : Bool := decide (x.magnitude < infinityMagnitude)

/-- The integer that stands for the number in comparisons. -/
def key (x : Binary64) : Int := if x.negative then -(x.magnitude : Int) else x.magnitude

instance : LE Binary64 := ⟨fun x y => x.isNaN = false ∧ y.isNaN = false ∧ x.key ≤ y.key⟩

instance : LT Binary64 := ⟨fun x y => x.isNaN = false ∧ y.isNaN = false ∧ x.key < y.key⟩

instance (x y : Binary64) : Decidable (x ≤ y) :=
  inferInstanceAs (Decidable (_ ∧ _ ∧ _))

instance (x y : Binary64) : Decidable (x < y) :=
  inferInstanceAs (Decidable (_ ∧ _ ∧ _))

/-- Whether two numbers are equal as numbers: the zeros are, a NaN never is. -/
def equals (x y : Binary64) : Bool := !x.isNaN && !y.isNaN && x.key == y.key

theorem le_def (x y : Binary64) :
    x ≤ y ↔ x.isNaN = false ∧ y.isNaN = false ∧ x.key ≤ y.key := Iff.rfl

theorem lt_def (x y : Binary64) :
    x < y ↔ x.isNaN = false ∧ y.isNaN = false ∧ x.key < y.key := Iff.rfl

def larger (x y : Binary64) : Binary64 := if x < y then y else x

def smaller (x y : Binary64) : Binary64 := if y < x then y else x

/-- A finite number is `significand * 2 ^ exponent`, up to its sign. -/
structure Scaled where
  significand : Nat
  exponent : Int
deriving DecidableEq, Repr

/-- The exact value of the magnitude bits of a finite number. -/
def scaled (x : Binary64) : Scaled :=
  let biased : Nat := x.magnitude >>> 52
  let fraction := x.magnitude % (1 <<< 52)
  if biased = 0 then ⟨fraction, -1074⟩ else ⟨(1 <<< 52) + fraction, Int.ofNat biased - 1075⟩

/-- The quotient rounded to the nearest natural, a half to the even one. -/
def roundHalfEven (numerator denominator : Nat) : Nat :=
  let quotient := numerator / denominator
  let twice := 2 * (numerator % denominator)
  if twice < denominator then quotient
  else if denominator < twice then quotient + 1
  else quotient + quotient % 2

/-- `numerator * 2 ^ shift / denominator` as a pair of naturals, for a shift of either sign. -/
def shiftRatio (numerator denominator : Nat) (shift : Int) : Nat × Nat :=
  match shift with
  | .ofNat up => (numerator <<< up, denominator)
  | .negSucc down => (numerator, denominator <<< (down + 1))

/-- The number nearest to `numerator / denominator`, an infinity past the largest one. -/
def ofRatio (negative : Bool) (numerator denominator : Nat) : Binary64 :=
  if numerator = 0 then { zero with negative := negative } else
  let estimate : Int := max ((numerator.log2 : Int) - denominator.log2 - 52) (-1074)
  let coarse := shiftRatio numerator denominator (-estimate)
  let exponent := if coarse.1 / coarse.2 < 1 <<< 52 ∧ -1074 < estimate then estimate - 1 else estimate
  let fine := shiftRatio numerator denominator (-exponent)
  ofMagnitude negative (((exponent + 1074).toNat <<< 52) + roundHalfEven fine.1 fine.2)

/-- The number nearest to an integer, an infinity past the largest one. -/
def ofInt (n : Int) : Binary64 := ofRatio (decide (n < 0)) n.natAbs 1

/-- The number nearest to an integer, when the integer is within the finite range. -/
def ofInt? (n : Int) : Option Binary64 :=
  let x := ofInt n
  if x.isFinite then some x else none

/-- The exact value as a quotient of naturals, sign left out. -/
def ratio (x : Binary64) : Nat × Nat := shiftRatio x.scaled.significand 1 x.scaled.exponent

/-- The integer that a finite number is, if it is one. -/
def toInt? (x : Binary64) : Option Int :=
  if x.isFinite && x.ratio.1 % x.ratio.2 == 0 then
    let n : Int := (x.ratio.1 / x.ratio.2 : Nat)
    some (if x.negative then -n else n)
  else none

/-- The rounded product of two numbers that are not negative. -/
def mulNonneg (x y : Binary64) : Binary64 :=
  if x.isFinite && y.isFinite then
    ofRatio false (x.ratio.1 * y.ratio.1) (x.ratio.2 * y.ratio.2)
  else nan

/-- The rounded sum of two numbers that are not negative. -/
def addNonneg (x y : Binary64) : Binary64 :=
  if x.isFinite && y.isFinite then
    ofRatio false (x.ratio.1 * y.ratio.2 + y.ratio.1 * x.ratio.2) (x.ratio.2 * y.ratio.2)
  else nan

end Binary64
end CallTone
