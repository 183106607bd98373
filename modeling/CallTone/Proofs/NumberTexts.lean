import CallTone.Json.Reader
import CallTone.Json.Writer
import CallTone.Proofs.ShortestDecimals

/-! The texts of numbers are read back. A numeral has digits, perhaps places after a point
and perhaps an exponent, and reading one takes it off the front of a text up to the first
character that cannot go on. However a decimal is laid out, its numeral stands for the
same rational, which is all that reading a binary number depends on. -/
namespace CallTone.NumberTexts
open Binary64 Json Text NearestNumbers ShortestDecimals

variable {cs ds rest : List Char} {x : Binary64} {d : Decimal}

/-! Digits -/

/-- All characters are digits from `0` to `9`. -/
def Digits (cs : List Char) : Prop := ∀ c ∈ cs, isAsciiDigit c = true

/-- What follows cannot be part of a number. -/
def NumberEnds (rest : List Char) : Prop :=
  ∀ c ∈ rest.head?, isAsciiDigit c = false ∧ c ≠ '.' ∧ c ≠ 'e' ∧ c ≠ 'E'

theorem decimal_digits (n : Nat) : Digits (decimalDigits n) := by
  intro c member
  have digit := Nat.isDigit_of_mem_toDigits (by decide) (by decide) member
  simpa [isAsciiDigit, Char.isDigit, Char.le_def] using digit

theorem decimal_digits_given (n : Nat) : decimalDigits n ≠ [] := Nat.toDigits_ne_nil

theorem zeros_digits (n : Nat) : Digits (List.replicate n '0') := by
  intro c member
  rw [List.eq_of_mem_replicate member]
  decide

theorem digits_append (first : Digits cs) (second : Digits ds) : Digits (cs ++ ds) := by
  intro c member
  rcases List.mem_append.mp member with before | after
  · exact first c before
  · exact second c after

/-- Only the digits of zero start with a zero. -/
theorem leading_digit {n : Nat} (given : n ≠ 0) : (decimalDigits n).head? ≠ some '0' := by
  induction n using Nat.strongRecOn with
  | ind n ih =>
    unfold decimalDigits at ih ⊢
    by_cases small : n < 10
    · rw [Nat.toDigits_of_lt_base small]
      simpa [Nat.digitChar_eq_zero] using given
    · have more : Nat.toDigits 10 (n / 10) ≠ [] := Nat.toDigits_ne_nil
      rw [Nat.toDigits_of_base_le (by decide) (by omega), List.head?_append_of_ne_nil _ more]
      exact ih (n / 10) (by omega) (by omega)

theorem digits_value_eq (cs : List Char) : digitsValue cs = Nat.ofDigitChars 10 cs 0 :=
  Nat.ofDigitChars_eq_foldl.symm

theorem digits_value_decimal (n : Nat) : digitsValue (decimalDigits n) = n := by
  rw [digits_value_eq, decimalDigits, Nat.ofDigitChars_toDigits (by decide) (by decide)]

theorem digits_value_append (cs ds : List Char) :
    digitsValue (cs ++ ds) = digitsValue cs * 10 ^ ds.length + digitsValue ds := by
  rw [digits_value_eq, digits_value_eq, digits_value_eq, Nat.ofDigitChars_append,
    Nat.ofDigitChars_eq_ofDigitChars_zero, Nat.mul_comm]

theorem digits_value_zeros (n : Nat) : digitsValue (List.replicate n '0') = 0 := by
  rw [digits_value_eq, Nat.ofDigitChars_replicate_zero, Nat.mul_zero]

theorem read_digits (digits : Digits cs) (ends : ∀ c ∈ rest.head?, isAsciiDigit c = false) :
    readDigits (cs ++ rest) = (cs, rest) := by
  induction cs with
  | nil =>
    cases rest with
    | nil => rfl
    | cons c rest => rw [List.nil_append, readDigits, if_neg (by simpa using ends c rfl)]
  | cons c cs ih =>
    rw [List.cons_append, readDigits, if_pos (digits c List.mem_cons_self),
      ih fun other member => digits other (List.mem_cons_of_mem c member)]

/-! Numerals -/

/-- The parts of an unsigned number as it is written. -/
structure Numeral where
  whole : List Char
  places : Option (List Char)
  exponent : Option Int

namespace Numeral

def placesText : Option (List Char) → List Char
  | none => []
  | some places => '.' :: places

def exponentPart : Option Int → List Char
  | none => []
  | some exponent => 'e' :: exponentText exponent

/-- The characters of a numeral. -/
def text (n : Numeral) : List Char := n.whole ++ (placesText n.places ++ exponentPart n.exponent)

/-- The numeral is one of JSON: there are digits wherever there can be some, and no zero
leads others. -/
structure Proper (n : Numeral) : Prop where
  whole : Digits n.whole
  given : n.whole ≠ []
  leading : n.whole.length = 1 ∨ n.whole.head? ≠ some '0'
  places : ∀ places ∈ n.places, Digits places ∧ places ≠ []

/-- All digits of a numeral, as a natural. -/
def digits (n : Numeral) : Nat := digitsValue (n.whole ++ n.places.getD [])

/-- The place of the last digit of a numeral. -/
def lastPlace (n : Numeral) : Int := n.exponent.getD 0 - (n.places.getD []).length

/-- The value that a numeral is read as: an integer when it has only digits. -/
def json (n : Numeral) (negative : Bool) : Json :=
  match n.places, n.exponent with
  | none, none => .int (if negative then -(digitsValue n.whole : Int) else digitsValue n.whole)
  | _, _ => .real (ofDecimal negative n.digits n.lastPlace)

end Numeral

/-- An exponent is written with its sign and at least two digits. -/
theorem exponent_text (e : Int) : ∃ ds, Digits ds ∧ ds ≠ [] ∧ digitsValue ds = e.natAbs ∧
    exponentText e = (if e < 0 then '-' else '+') :: ds := by
  by_cases short : (decimalDigits e.natAbs).length < 2
  · refine ⟨List.replicate 1 '0' ++ decimalDigits e.natAbs, ?_, by simp, ?_, ?_⟩
    · exact digits_append (zeros_digits 1) (decimal_digits e.natAbs)
    · rw [digits_value_append, digits_value_zeros, digits_value_decimal]
      omega
    · simp only [exponentText, if_pos short]
      rfl
  · refine ⟨_, decimal_digits _, decimal_digits_given _, digits_value_decimal _, ?_⟩
    simp only [exponentText, if_neg short]

theorem read_fraction {places : Option (List Char)}
    (proper : ∀ given ∈ places, Digits given ∧ given ≠ [])
    (ends : ∀ c ∈ rest.head?, isAsciiDigit c = false ∧ c ≠ '.') :
    readFraction (Numeral.placesText places ++ rest) = some (places, rest) := by
  cases places with
  | none =>
    rw [Numeral.placesText, List.nil_append]
    unfold readFraction
    split
    · exact absurd rfl (ends '.' rfl).2
    · rfl
  | some places =>
    obtain ⟨digits, given⟩ := proper places rfl
    rw [Numeral.placesText, List.cons_append, readFraction,
      read_digits digits fun c first => (ends c first).1]
    cases places with
    | nil => exact absurd rfl given
    | cons first others => rfl

theorem read_exponent (exponent : Option Int) (ends : NumberEnds rest) :
    Json.readExponent (Numeral.exponentPart exponent ++ rest) = some (exponent, rest) := by
  cases exponent with
  | none =>
    rw [Numeral.exponentPart, List.nil_append]
    cases rest with
    | nil => rfl
    | cons c rest =>
      obtain ⟨-, -, small, capital⟩ := ends c rfl
      rw [Json.readExponent, if_neg (by simp [small, capital])]
  | some e =>
    obtain ⟨ds, digits, given, natural, written⟩ := exponent_text e
    have signed : takeSign (exponentText e ++ rest) = (decide (e < 0), ds ++ rest) := by
      rw [written]
      by_cases below : e < 0
      · simp [below, takeSign]
      · simp [below, takeSign]
    rw [Numeral.exponentPart, List.cons_append, Json.readExponent, if_pos (.inl rfl), signed]
    simp only [read_digits digits fun c first => (ends c first).1]
    cases ds with
    | nil => exact absurd rfl given
    | cons first others =>
      simp only [natural, decide_eq_true_eq]
      split
      · next below => rw [show -((e.natAbs : Nat) : Int) = e by omega]
      · next above => rw [show ((e.natAbs : Nat) : Int) = e by omega]

/-- The exponent, or what follows when there is none, ends the digits before it. -/
theorem exponent_ends (exponent : Option Int) (ends : NumberEnds rest) :
    ∀ c ∈ (Numeral.exponentPart exponent ++ rest).head?, isAsciiDigit c = false ∧ c ≠ '.' := by
  intro c first
  cases exponent with
  | none => exact ⟨(ends c first).1, (ends c first).2.1⟩
  | some e =>
    cases first
    decide

/-- So do the places. -/
theorem places_end (places : Option (List Char)) (exponent : Option Int)
    (ends : NumberEnds rest) :
    ∀ c ∈ (Numeral.placesText places ++ (Numeral.exponentPart exponent ++ rest)).head?,
      isAsciiDigit c = false := by
  intro c first
  cases places with
  | none => exact (exponent_ends exponent ends c first).1
  | some digits =>
    cases first
    decide

/-- Reading takes a numeral off the front of a text. -/
theorem numeral_read {n : Numeral} (proper : n.Proper) (ends : NumberEnds rest) (negative : Bool) :
    readUnsigned negative (n.text ++ rest) = some (n.json negative, rest) := by
  obtain ⟨first, others, whole⟩ := List.exists_cons_of_ne_nil proper.given
  have leads : ¬ ((first :: others).length ≠ 1 ∧ (first :: others).head? = some '0') := by
    rintro ⟨more, zero⟩
    rw [← whole] at more zero
    exact proper.leading.elim more (absurd zero)
  rw [readUnsigned, Numeral.text, List.append_assoc, List.append_assoc,
    read_digits proper.whole (places_end n.places n.exponent ends), whole]
  simp only [if_neg leads, read_fraction proper.places (exponent_ends n.exponent ends),
    read_exponent n.exponent ends]
  unfold Numeral.json Numeral.digits Numeral.lastPlace
  rw [whole]
  cases n.places with
  | none => cases n.exponent <;> rfl
  | some places => cases n.exponent <;> rfl

/-! Decimals as numerals -/

/-- The numeral writes the decimal: it stands for the same rational and is not read as an
integer. -/
structure Writes (n : Numeral) (d : Decimal) : Prop where
  proper : n.Proper
  real : n.places ≠ none ∨ n.exponent ≠ none
  same : (n.digits : ℚ) * 10 ^ n.lastPlace = value d

private theorem same_value {n : Numeral} (digits : n.digits = d.digits)
    (place : n.lastPlace = d.exponent) : (n.digits : ℚ) * 10 ^ n.lastPlace = value d := by
  rw [digits, place, value]

/-- A decimal below one, written with zeros after the point. -/
theorem writes_small (zeros : Nat)
    (place : ((decimalDigits d.digits).length : Int) + d.exponent = -zeros) :
    Writes ⟨['0'], some (List.replicate zeros '0' ++ decimalDigits d.digits), none⟩ d where
  proper := {
    whole := zeros_digits 1
    given := by simp
    leading := .inl rfl
    places := by
      rintro _ ⟨⟩
      exact ⟨digits_append (zeros_digits _) (decimal_digits _), by simp [decimal_digits_given]⟩ }
  real := .inl nofun
  same := by
    apply same_value
    · rw [Numeral.digits, digits_value_append, Option.getD_some, digits_value_append,
        digits_value_zeros, digits_value_decimal]
      change 0 * _ + _ = _
      omega
    · simp only [Numeral.lastPlace, Option.getD_none, Option.getD_some, List.length_append,
        List.length_replicate, Nat.cast_add]
      omega

/-- A decimal with its point between two of its digits. -/
theorem writes_middle (given : d.digits ≠ 0) (point : Nat) (some : 0 < point)
    (within : point < (decimalDigits d.digits).length)
    (place : ((decimalDigits d.digits).length : Int) + d.exponent = point) :
    Writes ⟨(decimalDigits d.digits).take point, .some ((decimalDigits d.digits).drop point), none⟩
      d where
  proper := {
    whole := fun c member => decimal_digits _ c (List.mem_of_mem_take member)
    given := by
      rw [Ne, List.take_eq_nil_iff]
      rintro (none | none)
      · omega
      · exact decimal_digits_given _ none
    leading := by
      refine .inr ?_
      rw [List.head?_take, if_neg (by omega)]
      exact leading_digit given
    places := by
      rintro _ ⟨⟩
      refine ⟨fun c member => decimal_digits _ c (List.mem_of_mem_drop member), ?_⟩
      rw [Ne, List.drop_eq_nil_iff]
      omega }
  real := .inl nofun
  same := by
    apply same_value
    · rw [Numeral.digits, Option.getD_some, List.take_append_drop, digits_value_decimal]
    · simp only [Numeral.lastPlace, Option.getD_none, Option.getD_some, List.length_drop]
      omega

/-- A decimal without places, written with zeros up to the point and one after it. -/
theorem writes_large (given : d.digits ≠ 0) (zeros : Nat) (place : d.exponent = zeros) :
    Writes ⟨decimalDigits d.digits ++ List.replicate zeros '0', some ['0'], none⟩ d where
  proper := {
    whole := digits_append (decimal_digits _) (zeros_digits _)
    given := by simp [decimal_digits_given]
    leading := by
      refine .inr ?_
      rw [List.head?_append_of_ne_nil _ (decimal_digits_given _)]
      exact leading_digit given
    places := by
      rintro _ ⟨⟩
      exact ⟨zeros_digits 1, by simp⟩ }
  real := .inl nofun
  same := by
    have digits : (Numeral.mk (decimalDigits d.digits ++ List.replicate zeros '0') (some ['0'])
        none).digits = d.digits * 10 ^ zeros * 10 := by
      rw [Numeral.digits, Option.getD_some, digits_value_append, digits_value_append,
        digits_value_zeros, digits_value_decimal, List.length_replicate]
      rfl
    rw [digits, value, place]
    change ((d.digits * 10 ^ zeros * 10 : Nat) : ℚ) * 10 ^ (-1 : Int) = _
    rw [zpow_natCast, zpow_neg_one]
    push_cast
    field_simp

/-- A decimal with its point after the first of its digits, if there are more, and an
exponent. -/
theorem writes_scientific {first : Char} {others : List Char}
    (split : decimalDigits d.digits = first :: others) :
    Writes ⟨[first], if others = [] then none else some others,
      some (((decimalDigits d.digits).length : Int) + d.exponent - 1)⟩ d where
  proper := {
    whole := by
      intro c member
      rw [List.mem_singleton.mp member]
      exact decimal_digits d.digits first (by rw [split]; exact List.mem_cons_self)
    given := by simp
    leading := .inl rfl
    places := by
      intro places member
      by_cases none : others = []
      · rw [if_pos none] at member
        cases member
      · rw [if_neg none] at member
        cases member
        refine ⟨fun c among => decimal_digits d.digits c ?_, none⟩
        rw [split]
        exact List.mem_cons_of_mem first among }
  real := .inr nofun
  same := by
    have kept : (if others = [] then none else some others).getD [] = others := by
      by_cases none : others = []
      · rw [if_pos none, none]
        rfl
      · rw [if_neg none]
        rfl
    apply same_value
    · rw [Numeral.digits, kept, List.singleton_append, ← split, digits_value_decimal]
    · rw [Numeral.lastPlace, kept, split]
      simp only [Option.getD_some, List.length_cons, Nat.cast_add, Nat.cast_one]
      omega

/-- However it is laid out, a decimal is written as a numeral. -/
theorem decimal_written (given : d.digits ≠ 0) : ∃ n : Numeral, Writes n d ∧ d.text = n.text := by
  obtain ⟨first, others, split⟩ := List.exists_cons_of_ne_nil (decimal_digits_given d.digits)
  unfold Decimal.text
  simp only
  generalize pointed : ((decimalDigits d.digits).length : Int) + d.exponent = point
  split
  · split
    · next small =>
      refine ⟨_, writes_small point.natAbs (by omega), ?_⟩
      simp [Numeral.text, Numeral.placesText, Numeral.exponentPart]
    split
    · next above within =>
      refine ⟨_, writes_middle given point.toNat (by omega) (by omega) (by omega), ?_⟩
      simp [Numeral.text, Numeral.placesText, Numeral.exponentPart]
    · next above without =>
      refine ⟨_, writes_large given (point.toNat - (decimalDigits d.digits).length) (by omega), ?_⟩
      simp [Numeral.text, Numeral.placesText, Numeral.exponentPart]
  · refine ⟨_, writes_scientific split, ?_⟩
    rw [pointed, split]
    cases others with
    | nil => simp [Numeral.text, Numeral.placesText, Numeral.exponentPart]
    | cons second others => simp [Numeral.text, Numeral.placesText, Numeral.exponentPart]

/-! Binary numbers -/

theorem finite_text (finite : x.isFinite = true) :
    realText x = (if x.negative then ['-'] else []) ++
      if x.magnitude = 0 then ['0', '.', '0'] else x.shortest.text := by
  have below := finite_iff.mp finite
  have number : x.isNaN = false := decide_eq_false (by omega)
  have bounded : x.isInfinite = false := decide_eq_false (by omega)
  rw [realText, if_neg (by simp [number]), if_neg (by simp [bounded]), Binary64.text,
    if_neg (by simp [number]), if_neg (by simp [bounded])]
  split <;> simp

theorem zero_read (zero : x.magnitude = 0) :
    (Numeral.mk ['0'] (some ['0']) none).json x.negative = .real x := by
  have same : ({ Binary64.zero with negative := x.negative } : Binary64) = x := by
    cases x
    cases zero
    rfl
  change Json.real { Binary64.zero with negative := x.negative } = _
  rw [same]

/-- A numeral that writes the shortest decimal of a number is read as the number. -/
theorem shortest_read {n : Numeral} (finite : x.isFinite = true) (some : x.magnitude ≠ 0)
    (writes : Writes n x.shortest) : n.json x.negative = .real x := by
  have rounds := shortest_rounds finite some
  rw [← writes.same] at rounds
  have back := decimal_read finite some rounds
  unfold Numeral.json
  split
  · next noPlaces noExponent => exact absurd writes.real (by simp [noPlaces, noExponent])
  · rw [back]

/-- The text of a finite number is its sign and a numeral that is read as the number. -/
theorem real_written (finite : x.isFinite = true) : ∃ n : Numeral, n.Proper ∧
    realText x = (if x.negative then ['-'] else []) ++ n.text ∧ n.json x.negative = .real x := by
  rw [finite_text finite]
  by_cases zero : x.magnitude = 0
  · refine ⟨⟨['0'], some ['0'], none⟩, ⟨zeros_digits 1, by simp, .inl rfl, ?_⟩, ?_, zero_read zero⟩
    · rintro _ ⟨⟩
      exact ⟨zeros_digits 1, by simp⟩
    · rw [if_pos zero]
      rfl
  · have given : x.shortest.digits ≠ 0 := by
      intro none
      have positive := rounds_to_pos (scaled_given finite zero) (shortest_rounds finite zero)
      rw [value, none] at positive
      norm_num at positive
    obtain ⟨n, writes, laid⟩ := decimal_written given
    exact ⟨n, writes.proper, by rw [if_neg zero, laid], shortest_read finite zero writes⟩

/-- The text of an integer is its sign and a numeral that is read as the integer. -/
theorem int_written (i : Int) : ∃ n : Numeral, n.Proper ∧
    (toString i).toList = (if i < 0 then ['-'] else []) ++ n.text ∧
      n.json (decide (i < 0)) = .int i := by
  refine ⟨⟨decimalDigits i.natAbs, none, none⟩, ⟨decimal_digits _, decimal_digits_given _, ?_,
    nofun⟩, ?_, ?_⟩
  · by_cases zero : i.natAbs = 0
    · rw [zero]
      exact .inl rfl
    · exact .inr (leading_digit zero)
  · cases i with
    | ofNat m =>
      change (toString m).toList = _
      rw [Nat.toString_eq_ofList_toDigits, if_neg (by simp), String.toList_ofList]
      simp [Numeral.text, Numeral.placesText, Numeral.exponentPart, decimalDigits]
    | negSucc m =>
      change ("-" ++ toString (m + 1)).toList = _
      rw [Nat.toString_eq_ofList_toDigits, if_pos (Int.negSucc_lt_zero m), String.toList_append,
        String.toList_ofList]
      simp [Numeral.text, Numeral.placesText, Numeral.exponentPart, decimalDigits]
  · simp only [Numeral.json, digits_value_decimal, decide_eq_true_eq]
    split
    · next below => rw [show -((i.natAbs : Nat) : Int) = i by omega]
    · next above => rw [show ((i.natAbs : Nat) : Int) = i by omega]

/-- A numeral starts with a digit. -/
theorem numeral_head {n : Numeral} (proper : n.Proper) :
    ∃ c others, n.text = c :: others ∧ isAsciiDigit c = true := by
  obtain ⟨first, others, whole⟩ := List.exists_cons_of_ne_nil proper.given
  refine ⟨first, _, by rw [Numeral.text, whole, List.cons_append], ?_⟩
  exact proper.whole first (by rw [whole]; exact List.mem_cons_self)

/-- A number is read with its sign. -/
theorem signed_read {n : Numeral} (proper : n.Proper) (ends : NumberEnds rest) (negative : Bool) :
    readNumber ((if negative then ['-'] else []) ++ n.text ++ rest) =
      some (n.json negative, rest) := by
  cases negative with
  | true =>
    rw [if_pos rfl]
    exact numeral_read proper ends true
  | false =>
    rw [if_neg (by decide), List.nil_append]
    obtain ⟨c, others, starts, digit⟩ := numeral_head proper
    have read := numeral_read proper ends false
    rw [starts, List.cons_append] at read ⊢
    unfold readNumber
    split
    · next sign =>
      cases sign
      exact absurd digit (by decide)
    · exact read

end CallTone.NumberTexts
