import CallTone.Binary64.Decimal
import CallTone.Text.Blank
import CallTone.Text.Capital
import CallTone.Text.Digit
import CallTone.Text.Quoted

/-!
Numerals that people type. White space around them is skipped, the digits may be of any script, and
a single underscore may stand between two digits. Integers are read in a given base; numbers with a
fraction are read in base ten and rounded to the nearest binary number.
-/
namespace CallTone.Text

/-- The value of a digit in bases up to 36: a decimal digit of any script or a basic letter. -/
def numeralDigit? (c : Char) : Option Nat :=
  match digitValue? c with
  | some n => some n
  | none =>
    if 'a' ≤ c && c ≤ 'z' then some (c.toNat - 'a'.toNat + 10)
    else if 'A' ≤ c && c ≤ 'Z' then some (c.toNat - 'A'.toNat + 10)
    else none

/-- Drops single underscores that stand between two characters, and refuses all others. -/
def dropUnderscores : List Char → Option (List Char)
  | [] => some []
  | '_' :: _ => none
  | [c] => some [c]
  | c :: '_' :: d :: rest => (dropUnderscores (d :: rest)).map (c :: ·)
  | [_, '_'] => none
  | c :: d :: rest => (dropUnderscores (d :: rest)).map (c :: ·)

def digitsBelow (base : Nat) : List Char → Option (List Nat)
  | [] => some []
  | c :: rest =>
    match numeralDigit? c, digitsBelow base rest with
    | some n, some ns => if n < base then some (n :: ns) else none
    | _, _ => none

/-- The natural with the given digits, most significant first. -/
def ofDigits (base : Nat) (digits : List Nat) : Nat := digits.foldl (fun n d => base * n + d) 0

def takeSign : List Char → Bool × List Char
  | '-' :: rest => (true, rest)
  | '+' :: rest => (false, rest)
  | cs => (false, cs)

/-- The letters that may mark a base after a leading zero. -/
def baseMarks : Nat → List Char
  | 2 => ['b', 'B']
  | 8 => ['o', 'O']
  | 16 => ['x', 'X']
  | _ => []

/-- Drops the mark of the base, and one underscore after it. -/
def dropBaseMark (base : Nat) : List Char → List Char
  | '0' :: mark :: rest =>
    if (baseMarks base).contains mark then
      match rest with
      | '_' :: digits => digits
      | digits => digits
    else '0' :: mark :: rest
  | cs => cs

/-- Why a text is not read as an integer. -/
inductive IntegerFault where
  | malformed
  /-- More decimal digits than are read. -/
  | tooLong (digits : Nat)
deriving DecidableEq

/-- The most digits of an integer in a base that is not a power of two. -/
def integerDigitLimit : Nat := 4300

def readInteger (base : Nat) (cs : List Char) : Except IntegerFault Int :=
  let (negative, body) := takeSign (trim cs)
  match dropUnderscores (dropBaseMark base body) with
  | some (c :: rest) =>
    match digitsBelow base (c :: rest) with
    | none => .error .malformed
    | some digits =>
      if base = 10 ∧ integerDigitLimit < digits.length then .error (.tooLong digits.length)
      else
        let n : Int := ofDigits base digits
        .ok (if negative then -n else n)
  | _ => .error .malformed

/-- The message about a text that is not an integer. The quoted text is cut off where it is long. -/
def IntegerFault.message (base : Nat) (s : String) : IntegerFault → String
  | .malformed =>
    "invalid literal for int() with base " ++ toString base ++ ": " ++
      String.ofList ((quoteChars s.toList).take 200)
  | .tooLong digits =>
    "Exceeds the limit (" ++ toString integerDigitLimit ++
      " digits) for integer string conversion: value has " ++ toString digits ++
      " digits; use sys.set_int_max_str_digits() to increase the limit"

/-- Drops underscores between two decimal digits, and refuses all others. -/
def dropDigitUnderscores : List Char → Option (List Char)
  | [] => some []
  | '_' :: _ => none
  | c :: '_' :: d :: rest =>
    if (digitValue? c).isSome && (digitValue? d).isSome then
      (dropDigitUnderscores (d :: rest)).map (c :: ·)
    else none
  | c :: rest => (dropDigitUnderscores rest).map (c :: ·)

/-- The decimal digits at the front of a text and what follows them. -/
def takeDigits : List Char → List Nat × List Char
  | [] => ([], [])
  | c :: rest =>
    match digitValue? c with
    | none => ([], c :: rest)
    | some n =>
      let (ns, after) := takeDigits rest
      (n :: ns, after)

/-- The exponent of a numeral: nothing, or `e` with an optional sign and at least one digit. -/
def readExponent : List Char → Option Int
  | [] => some 0
  | e :: rest =>
    if e = 'e' ∨ e = 'E' then
      let (negative, body) := takeSign rest
      match takeDigits body with
      | ([], _) => none
      | (digits, []) =>
        let n : Int := ofDigits 10 digits
        some (if negative then -n else n)
      | _ => none
    else none

/-- An unsigned decimal numeral with an optional fraction and exponent. -/
def readUnsignedDecimal (negative : Bool) (cs : List Char) : Option Binary64 :=
  let (whole, rest) := takeDigits cs
  let (fraction, after) :=
    match rest with
    | '.' :: more => takeDigits more
    | _ => ([], rest)
  if whole.isEmpty && fraction.isEmpty then none
  else
    (readExponent after).map fun exponent =>
      Binary64.ofDecimal negative (ofDigits 10 (whole ++ fraction)) (exponent - fraction.length)

/-- The number that a text denotes, the words for infinity and NaN included. -/
def readDecimal (cs : List Char) : Option Binary64 :=
  let (negative, body) := takeSign (trim cs)
  let word := smallLetters (String.ofList body)
  if word = "inf" ∨ word = "infinity" then some (Binary64.infinity negative)
  else if word = "nan" then some { Binary64.nan with negative := negative }
  else (dropDigitUnderscores body).bind (readUnsignedDecimal negative)

end CallTone.Text
