import CallTone.Binary64.Decimal
import CallTone.Json
import CallTone.Text.Digit
import CallTone.Text.Numeral

/-!
Reading JSON texts. Every reader takes what it needs off the front of the characters and returns the
rest; the depth of nesting is bounded by the number of characters, which is the fuel of `read`.
-/
namespace CallTone.Json

def skipBlanks : List Char → List Char
  | [] => []
  | c :: rest =>
    if c = ' ' ∨ c = '\t' ∨ c = '\n' ∨ c = '\r' then skipBlanks rest else c :: rest

/-- The unit that four hexadecimal digits denote. -/
def readUnit : List Char → Option (Nat × List Char)
  | a :: b :: c :: d :: rest =>
    match Text.hexValue? a, Text.hexValue? b, Text.hexValue? c, Text.hexValue? d with
    | some a, some b, some c, some d => some (((a * 16 + b) * 16 + c) * 16 + d, rest)
    | _, _, _, _ => none
  | _ => none

/-- The character of a short escape. -/
def shortEscape? : Char → Option Char
  | '"' => some '"'
  | '\\' => some '\\'
  | '/' => some '/'
  | 'b' => some '\x08'
  | 'f' => some '\x0c'
  | 'n' => some '\n'
  | 'r' => some '\r'
  | 't' => some '\t'
  | _ => none

/-- The character after a backslash; a high surrogate takes the low one that follows it. -/
def readEscape : List Char → Option (Char × List Char)
  | 'u' :: rest =>
    match readUnit rest with
    | none => none
    | some (unit, after) =>
      if 0xD800 ≤ unit ∧ unit < 0xDC00 then
        match after with
        | '\\' :: 'u' :: more =>
          match readUnit more with
          | some (low, tail) =>
            if 0xDC00 ≤ low ∧ low < 0xE000 then
              some (Char.ofNat (0x10000 + (unit - 0xD800) * 0x400 + (low - 0xDC00)), tail)
            else none
          | none => none
        | _ => none
      else if 0xDC00 ≤ unit ∧ unit < 0xE000 then none
      else some (Char.ofNat unit, after)
  | c :: rest => (shortEscape? c).map (·, rest)
  | [] => none

/-- The characters of a string up to its closing quote. -/
def readString : Nat → List Char → Option (List Char × List Char)
  | 0, _ => none
  | _ + 1, [] => none
  | _ + 1, '"' :: rest => some ([], rest)
  | fuel + 1, '\\' :: rest =>
    match readEscape rest with
    | none => none
    | some (c, after) => (readString fuel after).map fun (cs, tail) => (c :: cs, tail)
  | fuel + 1, c :: rest =>
    if c.toNat < 0x20 then none
    else (readString fuel rest).map fun (cs, tail) => (c :: cs, tail)

def readDigits : List Char → List Char × List Char
  | [] => ([], [])
  | c :: rest =>
    if Text.isAsciiDigit c then
      let (digits, after) := readDigits rest
      (c :: digits, after)
    else ([], c :: rest)

def digitsValue (digits : List Char) : Nat := digits.foldl (fun n c => 10 * n + (c.toNat - 48)) 0

/-- The fraction of a number: its digits, and whether there is one. -/
def readFraction : List Char → Option (Option (List Char) × List Char)
  | '.' :: rest =>
    match readDigits rest with
    | ([], _) => none
    | (digits, after) => some (some digits, after)
  | cs => some (none, cs)

/-- The exponent of a number, and whether there is one. -/
def readExponent : List Char → Option (Option Int × List Char)
  | [] => some (none, [])
  | e :: rest =>
    if e = 'e' ∨ e = 'E' then
      let (negative, body) := Text.takeSign rest
      match readDigits body with
      | ([], _) => none
      | (digits, after) =>
        let n : Int := digitsValue digits
        some (some (if negative then -n else n), after)
    else some (none, e :: rest)

/-- A number without its sign. -/
def readUnsigned (negative : Bool) (cs : List Char) : Option (Json × List Char) :=
  match readDigits cs with
  | ([], _) => none
  | (whole, rest) =>
    if whole.length ≠ 1 ∧ whole.head? = some '0' then none
    else
      match readFraction rest with
      | none => none
      | some (fraction, more) =>
        match readExponent more with
        | none => none
        | some (exponent, after) =>
          match fraction, exponent with
          | none, none =>
            let n : Int := digitsValue whole
            some (.int (if negative then -n else n), after)
          | _, _ =>
            let places := fraction.getD []
            some (.real (Binary64.ofDecimal negative (digitsValue (whole ++ places))
              (exponent.getD 0 - places.length)), after)

def readNumber : List Char → Option (Json × List Char)
  | '-' :: rest => readUnsigned true rest
  | cs => readUnsigned false cs

def dropWord : List Char → List Char → Option (List Char)
  | [], cs => some cs
  | _ :: _, [] => none
  | w :: word, c :: cs => if w = c then dropWord word cs else none

mutual

/-- A value at the front, blanks before it skipped. -/
def readValue : Nat → List Char → Option (Json × List Char)
  | 0, _ => none
  | fuel + 1, cs =>
    match skipBlanks cs with
    | '"' :: rest =>
      (readString (rest.length + 1) rest).map fun (s, after) => (.str (String.ofList s), after)
    | '[' :: rest =>
      match skipBlanks rest with
      | ']' :: after => some (.arr [], after)
      | body => (readItems fuel body).map fun (items, after) => (.arr items, after)
    | '\x7b' :: rest =>
      match skipBlanks rest with
      | '\x7d' :: after => some (.obj [], after)
      | body => (readMembers fuel body).map fun (members, after) => (.obj members, after)
    | 't' :: rest => (dropWord "rue".toList rest).map (.bool true, ·)
    | 'f' :: rest => (dropWord "alse".toList rest).map (.bool false, ·)
    | 'n' :: rest => (dropWord "ull".toList rest).map (.null, ·)
    | other => readNumber other

def readItems : Nat → List Char → Option (List Json × List Char)
  | 0, _ => none
  | fuel + 1, cs =>
    match readValue fuel cs with
    | none => none
    | some (item, rest) =>
      match skipBlanks rest with
      | ',' :: more => (readItems fuel more).map fun (items, after) => (item :: items, after)
      | ']' :: after => some ([item], after)
      | _ => none

def readMembers : Nat → List Char → Option (List (String × Json) × List Char)
  | 0, _ => none
  | fuel + 1, cs =>
    match skipBlanks cs with
    | '"' :: rest =>
      match readString (rest.length + 1) rest with
      | none => none
      | some (name, afterName) =>
        match skipBlanks afterName with
        | ':' :: body =>
          match readValue fuel body with
          | none => none
          | some (value, afterValue) =>
            match skipBlanks afterValue with
            | ',' :: more =>
              (readMembers fuel more).map fun (members, after) =>
                ((String.ofList name, value) :: members, after)
            | '\x7d' :: after => some ([(String.ofList name, value)], after)
            | _ => none
        | _ => none
    | _ => none

end

/-- The value that a text denotes, if it is a JSON text. -/
def read (s : String) : Option Json :=
  let cs := s.toList
  match readValue (2 * cs.length + 2) cs with
  | some (value, rest) => if (skipBlanks rest).isEmpty then some value else none
  | none => none

end CallTone.Json
