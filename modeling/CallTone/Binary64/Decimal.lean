import CallTone.Binary64

/-!
Decimal texts of binary numbers, in both directions. Writing takes the fewest digits that read
back as the number, and of the candidates with that many digits the nearest (the even one of two
equally near); a text is positional
from `10 ^ -4` up to `10 ^ 16` and has an exponent of two digits or more elsewhere. Fixed places
round the exact binary value, a half to the even digit. Reading rounds the exact decimal value.
-/
namespace CallTone.Binary64

/-- The digits of a natural in base ten, most significant first. -/
def decimalDigits (n : Nat) : List Char := Nat.toDigits 10 n

/-- A positive decimal number `digits * 10 ^ exponent`. -/
structure Decimal where
  digits : Nat
  exponent : Int
deriving DecidableEq, Repr

/-- Moves trailing zero digits into the exponent. -/
def Decimal.strip : Nat → Decimal → Decimal
  | 0, d => d
  | fuel + 1, d =>
    if d.digits ≠ 0 ∧ d.digits % 10 = 0 then Decimal.strip fuel ⟨d.digits / 10, d.exponent + 1⟩ else d

/-- `10 ^ exponent` as a pair of naturals, for an exponent of either sign. -/
def powerOfTen : Int → Nat × Nat
  | .ofNat up => (Nat.pow 10 up, 1)
  | .negSucc down => (1, Nat.pow 10 (down + 1))

/-- The reals that round to a number `value / unit` lie between `low / unit` and `high / unit`. -/
structure Interval where
  low : Nat
  value : Nat
  high : Nat
  unit : Nat
  /-- The bounds themselves round to the number. -/
  closed : Bool

/-- The reals that round to a positive finite number. -/
def interval (x : Binary64) : Interval :=
  let s := x.scaled
  let atPower := s.significand = 1 <<< 52 ∧ -1074 < s.exponent
  let low := if atPower then 4 * s.significand - 1 else 4 * s.significand - 2
  let scale := shiftRatio 1 4 s.exponent
  { low := low * scale.1
    value := 4 * s.significand * scale.1
    high := (4 * s.significand + 2) * scale.1
    unit := scale.2
    closed := s.significand % 2 = 0 }

/-- Whether the decimal lies among the reals that round to the number. -/
def Interval.holds (i : Interval) (d : Decimal) : Bool :=
  let p := powerOfTen d.exponent
  let left := d.digits * p.1 * i.unit
  if i.closed then decide (i.low * p.2 ≤ left ∧ left ≤ i.high * p.2)
  else decide (i.low * p.2 < left ∧ left < i.high * p.2)

/-- The exponent of the leading decimal digit of `value / unit`: the largest `e` with
`10 ^ e ≤ value / unit`, found by stepping from a starting point that is not too large. -/
def leadingExponent (value unit : Nat) : Nat → Int → Int
  | 0, e => e
  | fuel + 1, e =>
    let p := powerOfTen (e + 1)
    if p.1 * unit ≤ value * p.2 then leadingExponent value unit fuel (e + 1) else e

/-- The decimals with the given last place that are next to the number, below and above. -/
def Interval.neighbours (i : Interval) (place : Int) : Decimal × Decimal :=
  let p := powerOfTen place
  let below := i.value * p.2 / (i.unit * p.1)
  (⟨below, place⟩, ⟨below + 1, place⟩)

/-- The neighbour in one decimal place that rounds to the number, if any: of two the nearer, and
the even one when both are equally near. -/
def Interval.nearest? (i : Interval) (place : Int) : Option Decimal :=
  let p := powerOfTen place
  let (below, above) := i.neighbours place
  match i.holds below, i.holds above with
  | true, true =>
    let gapBelow := i.value * p.2 - below.digits * p.1 * i.unit
    let gapAbove := above.digits * p.1 * i.unit - i.value * p.2
    if gapAbove < gapBelow ∨ (gapAbove = gapBelow ∧ below.digits % 2 = 1) then some above
    else some below
  | true, false => some below
  | false, true => some above
  | false, false => none

/-- Tries the places from `place` downwards. -/
def Interval.firstNearest (i : Interval) : Nat → Int → Option Decimal
  | 0, _ => none
  | fuel + 1, place =>
    match i.nearest? place with
    | some d => some d
    | none => i.firstNearest fuel (place - 1)

/-- The shortest decimal that reads back as a positive finite number: seventeen digits always do. -/
def shortest (x : Binary64) : Decimal :=
  let i := x.interval
  let start : Int := ((i.value.log2 : Int) - i.unit.log2 - 1) * 30103 / 100000 - 1
  let lead := leadingExponent i.value i.unit 8 start
  match i.firstNearest 18 lead with
  | some d => Decimal.strip 20 d
  | none => ⟨i.value / i.unit, 0⟩

def exponentText (e : Int) : List Char :=
  let digits := decimalDigits e.natAbs
  (if e < 0 then '-' else '+') :: (if digits.length < 2 then '0' :: digits else digits)

/-- The decimal in positional form, or with an exponent where that form runs long. -/
def Decimal.text (d : Decimal) : List Char :=
  let digits := decimalDigits d.digits
  let point : Int := digits.length + d.exponent
  if -4 < point ∧ point ≤ 16 then
    if point ≤ 0 then '0' :: '.' :: (List.replicate point.natAbs '0' ++ digits)
    else if point < digits.length then
      digits.take point.toNat ++ '.' :: digits.drop point.toNat
    else digits ++ List.replicate (point.toNat - digits.length) '0' ++ ['.', '0']
  else
    match digits with
    | [single] => single :: 'e' :: exponentText (point - 1)
    | first :: rest => first :: '.' :: rest ++ 'e' :: exponentText (point - 1)
    | [] => []

/-- The text of a number: the fewest digits that read back, `inf` and `nan` for what is not real. -/
def text (x : Binary64) : String :=
  if x.isNaN then "nan" else
  let sign := if x.negative then ['-'] else []
  if x.isInfinite then String.ofList (sign ++ ['i', 'n', 'f'])
  else if x.magnitude = 0 then String.ofList (sign ++ ['0', '.', '0'])
  else String.ofList (sign ++ x.shortest.text)

/-- The text with exactly two places after the point. -/
def textTwoPlaces (x : Binary64) : String :=
  if x.isNaN then "nan" else
  let sign := if x.negative then ['-'] else []
  if x.isInfinite then String.ofList (sign ++ ['i', 'n', 'f']) else
  let hundredths := decimalDigits (roundHalfEven (100 * x.ratio.1) x.ratio.2)
  let padded := List.replicate (3 - hundredths.length) '0' ++ hundredths
  let whole := padded.length - 2
  String.ofList (sign ++ padded.take whole ++ '.' :: padded.drop whole)

/-- The number nearest to `digits * 10 ^ exponent`. Exponents beyond every number are cut off
before the power is formed. -/
def ofDecimal (negative : Bool) (digits : Nat) (exponent : Int) : Binary64 :=
  if digits = 0 then { zero with negative := negative }
  else if 400 < exponent then infinity negative
  else if exponent + (decimalDigits digits).length < -400 then { zero with negative := negative }
  else
    let p := powerOfTen exponent
    ofRatio negative (digits * p.1) p.2

end CallTone.Binary64
