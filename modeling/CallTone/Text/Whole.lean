import CallTone.Text.Blank
import CallTone.Text.Digit

/-!
Whole numbers in settings. A text in canonical form (an optional minus and digits without a leading
zero) is read as it stands. Any other text is tidied once and read again: white space around it, one
plus, leading zeros, a fraction of zeros and single underscores between digits are dropped.
-/
namespace CallTone.Text.Whole

/-- Why a text is not read as a whole number. -/
inductive Fault where
  | malformed
  /-- More digits than are read. -/
  | tooLong
deriving DecidableEq, Repr

def digitLimit : Nat := 4300

/-- The natural in canonical form. -/
def readDigits (cs : List Char) : Except Fault Nat :=
  if cs.isEmpty || !cs.all isAsciiDigit || (cs.head? == some '0' && 1 < cs.length) then
    .error .malformed
  else if digitLimit < cs.length then .error .tooLong
  else .ok (cs.foldl (fun n c => 10 * n + (c.toNat - 48)) 0)

/-- The whole number in canonical form. -/
def readCanonical : List Char → Except Fault Int
  | '-' :: digits => (readDigits digits).map fun n => -(n : Int)
  | digits => (readDigits digits).map Int.ofNat

/-- Drops zeros, and underscores among them, before the first other digit or a minus. Of zeros alone
the last character stays, as does a zero before a point. -/
def dropZerosAfter (last : Char) : List Char → Option (List Char)
  | [] => some [last]
  | c :: rest =>
    if c = '0' ∨ c = '_' then dropZerosAfter c rest
    else if c = '-' ∨ isAsciiDigit c then some (c :: rest)
    else if c = '.' then some (last :: c :: rest)
    else none

/-- Drops leading zeros; a text that starts with neither a digit nor a minus is refused. -/
def dropZeros : List Char → Option (List Char)
  | '0' :: rest => dropZerosAfter '0' rest
  | c :: rest => if c = '-' ∨ isAsciiDigit c then some (c :: rest) else none
  | [] => none

def dropZeroFraction (cs : List Char) : List Char :=
  match cs.dropWhile (· ≠ '.') with
  | '.' :: zero :: zeros =>
    if zero = '0' ∧ zeros.all (· = '0') then cs.takeWhile (· ≠ '.') else cs
  | _ => cs

def hasDoubleUnderscore : List Char → Bool
  | '_' :: '_' :: _ => true
  | _ :: rest => hasDoubleUnderscore rest
  | [] => false

/-- Drops underscores when each stands alone between two other characters. -/
def dropUnderscores (cs : List Char) : List Char :=
  if cs.head? = some '_' ∨ cs.getLast? = some '_' ∨ hasDoubleUnderscore cs then cs
  else cs.filter (· ≠ '_')

def dropPlus : List Char → Option (List Char)
  | '+' :: c :: rest => if isAsciiDigit c then some (c :: rest) else none
  | cs => some cs

/-- The text in the form in which it is read again. -/
def tidy (cs : List Char) : Option (List Char) :=
  ((dropPlus (trim cs)).bind dropZeros).map fun digits => dropUnderscores (dropZeroFraction digits)

def read (cs : List Char) : Except Fault Int :=
  match readCanonical cs with
  | .ok n => .ok n
  | .error .tooLong => .error .tooLong
  | .error .malformed =>
    match tidy cs with
    | none => .error .malformed
    | some digits => (readCanonical digits).mapError fun _ => .malformed

end CallTone.Text.Whole
