import CallTone.Text.Digit
import CallTone.Yaml.Tag

/-!
Plain texts: what a text means when nothing is said about it. Words for truth and for nothing,
numbers in several notations, days and moments are told by their form; every other text is itself.
-/
namespace CallTone.Yaml.Plain

def isDigitOrUnderscore (c : Char) : Bool := Text.isAsciiDigit c || c == '_'

def dropSign : List Char → List Char
  | '-' :: rest => rest
  | '+' :: rest => rest
  | cs => cs

def truthWords : List String :=
  ["yes", "Yes", "YES", "no", "No", "NO", "true", "True", "TRUE", "false", "False", "FALSE", "on",
    "On", "ON", "off", "Off", "OFF"]

def nullWords : List String := ["", "~", "null", "Null", "NULL"]

/-- Whether the text is an exponent or empty. -/
def isExponent : List Char → Bool
  | [] => true
  | e :: sign :: digits =>
    (e == 'e' || e == 'E') && (sign == '-' || sign == '+') && !digits.isEmpty &&
      digits.all Text.isAsciiDigit
  | _ => false

/-- Whether the text is groups of one or two digits below sixty, each after a colon, up to a point
or the end; yields what follows. -/
def dropSixties : List Char → Option (List Char)
  | ':' :: a :: b :: rest =>
    if Text.isAsciiDigit a ∧ a ≤ '5' ∧ Text.isAsciiDigit b then dropSixties rest
    else if Text.isAsciiDigit a ∧ (b = ':' ∨ b = '.') then dropSixties (b :: rest)
    else none
  | [':', a] => if Text.isAsciiDigit a then some [] else none
  | ':' :: _ => none
  | rest => some rest

/-- Whether the text starts with a digit and goes on with digits and underscores. -/
def isDigits : List Char → Bool
  | c :: rest => Text.isAsciiDigit c && rest.all isDigitOrUnderscore
  | [] => false

def isInt (cs : List Char) : Bool :=
  match dropSign cs with
  | '0' :: 'b' :: rest => !rest.isEmpty && rest.all fun c => c == '0' || c == '1' || c == '_'
  | '0' :: 'x' :: rest => !rest.isEmpty && rest.all fun c => (Text.hexValue? c).isSome || c == '_'
  | '0' :: rest => rest.all fun c => ('0' ≤ c && c ≤ '7') || c == '_'
  | c :: rest =>
    Text.isAsciiDigit c &&
      (match rest.dropWhile isDigitOrUnderscore with
        | [] => true
        | after => dropSixties after == some [])
  | [] => false

/-- Whether the text is a point with digits around it as a number needs, and an exponent. -/
def isDecimal (isSigned : Bool) (cs : List Char) : Bool :=
  let whole := cs.takeWhile isDigitOrUnderscore
  match cs.dropWhile isDigitOrUnderscore with
  | '.' :: rest =>
    let exponent := rest.dropWhile isDigitOrUnderscore
    isExponent exponent &&
      (if whole.isEmpty then !isSigned && isDigits (rest.takeWhile isDigitOrUnderscore)
        else isDigits whole)
  | _ => false

/-- Whether the text is a number in sixties with a point. -/
def isSixtiesDecimal (cs : List Char) : Bool :=
  isDigits (cs.takeWhile isDigitOrUnderscore) &&
    (match cs.dropWhile isDigitOrUnderscore with
      | ':' :: rest =>
        match dropSixties (':' :: rest) with
        | some ('.' :: digits) => digits.all isDigitOrUnderscore
        | _ => false
      | _ => false)

def isFloat (cs : List Char) : Bool :=
  let body := dropSign cs
  let isSigned := body.length ≠ cs.length
  isDecimal isSigned body || isSixtiesDecimal body ||
    [".inf", ".Inf", ".INF"].contains (String.ofList body) ||
    [".nan", ".NaN", ".NAN"].contains (String.ofList cs)

/-- A day or moment in parts: year, month and day, and the time of day where it is given. -/
structure Stamp where
  year : List Char
  month : List Char
  day : List Char
  time : Option (List Char × List Char × List Char × List Char)
  /-- The sign, hours and minutes of the offset; without a sign it is zero. -/
  zone : Option (Option (Char × List Char × List Char))

def takeOneOrTwo : List Char → Option (List Char × List Char)
  | a :: b :: rest =>
    if Text.isAsciiDigit a then
      if Text.isAsciiDigit b then some ([a, b], rest) else some ([a], b :: rest)
    else none
  | [a] => if Text.isAsciiDigit a then some ([a], []) else none
  | [] => none

/-- Exactly a number of digits and what follows. -/
def takeDigits (n : Nat) (cs : List Char) : Option (List Char × List Char) :=
  let digits := cs.take n
  if digits.length = n ∧ digits.all Text.isAsciiDigit then some (digits, cs.drop n) else none

/-- What follows a given character. -/
def dropMark (mark : Char) : List Char → Option (List Char)
  | c :: rest => if c = mark then some rest else none
  | [] => none

/-- The offset at the end of a moment. -/
def readZone (cs : List Char) : Option (Option (Option (Char × List Char × List Char))) :=
  match cs.dropWhile fun c => c == ' ' || c == '\t' with
  | [] => if cs.isEmpty then some none else none
  | ['Z'] => some (some none)
  | sign :: rest =>
    if sign = '-' ∨ sign = '+' then
      match takeOneOrTwo rest with
      | some (hours, []) => some (some (some (sign, hours, [])))
      | some (hours, ':' :: minutes) =>
        match takeDigits 2 minutes with
        | some (minutes, []) => some (some (some (sign, hours, minutes)))
        | _ => none
      | _ => none
    else none

/-- The time of day and the offset, after what parts them from the day. -/
def readTime (cs : List Char) :
    Option ((List Char × List Char × List Char × List Char) ×
      Option (Option (Char × List Char × List Char))) := do
  let (hour, rest) ← takeOneOrTwo cs
  let (minute, rest) ← takeDigits 2 (← dropMark ':' rest)
  let (second, rest) ← takeDigits 2 (← dropMark ':' rest)
  let (fraction, rest) :=
    match rest with
    | '.' :: more => (more.takeWhile Text.isAsciiDigit, more.dropWhile Text.isAsciiDigit)
    | _ => ([], rest)
  let zone ← readZone rest
  return ((hour, minute, second, fraction), zone)

/-- The parts of a day or moment. -/
def readStamp (cs : List Char) : Option Stamp := do
  let (year, rest) ← takeDigits 4 cs
  let (month, rest) ← takeOneOrTwo (← dropMark '-' rest)
  let (day, rest) ← takeOneOrTwo (← dropMark '-' rest)
  match rest with
  | [] => return ⟨year, month, day, none, none⟩
  | c :: more =>
    if c = 'T' ∨ c = 't' then
      let (time, zone) ← readTime more
      return ⟨year, month, day, some time, zone⟩
    else if c = ' ' ∨ c = '\t' then
      let (time, zone) ← readTime (more.dropWhile fun c => c == ' ' || c == '\t')
      return ⟨year, month, day, some time, zone⟩
    else none

/-- Whether the text is a day, in full, or a moment. -/
def isTimestamp (cs : List Char) : Bool :=
  match readStamp cs with
  | none => false
  | some stamp => stamp.time.isSome || (stamp.month.length == 2 && stamp.day.length == 2)

/-- What a plain text is. -/
def tagOf (cs : List Char) : Tag :=
  let s := String.ofList cs
  if truthWords.contains s then .bool
  else if isFloat cs then .float
  else if isInt cs then .int
  else if s = "<<" then .merge
  else if nullWords.contains s then .null
  else if isTimestamp cs then .timestamp
  else if s = "=" then .value
  else .str

end CallTone.Yaml.Plain
