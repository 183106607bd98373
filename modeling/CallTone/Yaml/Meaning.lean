import CallTone.Text.Capital
import CallTone.Text.Numeral
import CallTone.Text.Pieces
import CallTone.Value
import CallTone.Yaml.Plain

/-!
Meanings: the value that a text has under a tag. A text whose form gave it the tag nearly always has
one; a text that was tagged by hand may fail to, in the way of the reader that it is given to.
-/
namespace CallTone.Yaml

/-- A failure of a reader. -/
def readerFault (kind : Failure.Kind) (message : String) : Fault := .broken ⟨kind, message⟩

/-- The fault about a text that is too short. -/
def tooShort : Fault := readerFault .index "string index out of range"

/-- The integer that a text denotes in a base. -/
def readIn (base : Nat) (cs : List Char) : Except Fault Int :=
  match Text.readInteger base cs with
  | .ok n => .ok n
  | .error fault => .error (readerFault .value (fault.message base (String.ofList cs)))

def readParts : List (List Char) → Except Fault (List Int)
  | [] => .ok []
  | part :: rest =>
    match readIn 10 part with
    | .error fault => .error fault
    | .ok n => (readParts rest).map (n :: ·)

/-- The sign of a text that is not empty, and what follows it. -/
def signOf : List Char → Except Fault (Bool × List Char)
  | [] => .error tooShort
  | '-' :: rest => .ok (true, rest)
  | '+' :: rest => .ok (false, rest)
  | cs => .ok (false, cs)

/-- The integer of an unsigned text: in base two, eight or sixteen by its first characters, in
sixties when it has colons, else in base ten. -/
def readUnsigned : List Char → Except Fault Int
  | [] => .error tooShort
  | ['0'] => .ok 0
  | '0' :: 'b' :: digits => readIn 2 digits
  | '0' :: 'x' :: digits => readIn 16 digits
  | '0' :: digits => readIn 8 ('0' :: digits)
  | cs =>
    if cs.contains ':' then
      (readParts (Text.splitOn ':' cs)).map fun parts => parts.foldl (fun n part => 60 * n + part) 0
    else readIn 10 cs

def readInt (cs : List Char) : Except Fault Int :=
  match signOf (cs.filter (· ≠ '_')) with
  | .error fault => .error fault
  | .ok (negative, body) => (readUnsigned body).map fun n => if negative then -n else n

def readNumber (cs : List Char) : Except Fault Binary64 :=
  match Text.readDecimal cs with
  | some x => .ok x
  | none =>
    .error (readerFault .value ("could not convert string to float: " ++
      Text.quoted (String.ofList cs)))

def readNumbers : List (List Char) → Except Fault (List Binary64)
  | [] => .ok []
  | part :: rest =>
    match readNumber part with
    | .error fault => .error fault
    | .ok x => (readNumbers rest).map (x :: ·)

/-- The sum of the parts of a number in sixties, the least first. -/
def sumSixties (sum : Binary64) (base : Nat) : List Binary64 → Binary64
  | [] => sum
  | part :: rest =>
    sumSixties (sum.addNonneg (part.mulNonneg (Binary64.ofInt base))) (base * 60) rest

def readFloat (cs : List Char) : Except Fault Binary64 :=
  match signOf (((cs.filter (· ≠ '_')).map Text.smallLetter)) with
  | .error fault => .error fault
  | .ok (negative, body) =>
    let signed (x : Binary64) : Binary64 := if negative then x.neg else x
    if body = ".inf".toList then .ok (Binary64.infinity negative)
    else if body = ".nan".toList then .ok Binary64.nan
    else if body.contains ':' then
      (readNumbers (Text.splitOn ':' body)).map fun parts =>
        signed (sumSixties Binary64.zero 1 parts.reverse)
    else (readNumber body).map signed

/-- The words for truth values. -/
def truthMeanings : List (String × Bool) :=
  [("yes", true), ("no", false), ("true", true), ("false", false), ("on", true), ("off", false)]

def readBool (cs : List Char) : Except Fault Bool :=
  let word := Text.smallLetters (String.ofList cs)
  match truthMeanings.lookup word with
  | some b => .ok b
  | none => .error (readerFault .missingKey (Text.quoted word))

/-- The value of a character in base 64. -/
def sixBits? (c : Char) : Option Nat :=
  if 'A' ≤ c && c ≤ 'Z' then some (c.toNat - 65)
  else if 'a' ≤ c && c ≤ 'z' then some (c.toNat - 71)
  else if Text.isAsciiDigit c then some (c.toNat + 4)
  else if c = '+' then some 62
  else if c = '/' then some 63
  else none

/-- The octets of a text in base 64. Characters outside the alphabet are passed over, padding ends a
group that can end, and a group that is left open is a fault. -/
def readBase64 (place rest pads : Nat) : List Char → Except Fault (List Nat)
  | [] => if place = 0 then .ok [] else .error .malformed
  | c :: cs =>
    if c = '=' then
      if 2 ≤ place then
        if 4 ≤ place + pads + 1 then .ok [] else readBase64 place rest (pads + 1) cs
      else readBase64 place rest pads cs
    else
      match sixBits? c with
      | none => readBase64 place rest pads cs
      | some n =>
        match place with
        | 0 => readBase64 1 n 0 cs
        | 1 => (readBase64 2 (n % 16) 0 cs).map fun more => (rest * 4 + n / 16) :: more
        | 2 => (readBase64 3 (n % 4) 0 cs).map fun more => (rest * 16 + n / 4) :: more
        | _ => (readBase64 0 0 0 cs).map fun more => (rest * 64 + n) :: more

def readBinary (cs : List Char) : Except Fault (List Nat) :=
  if cs.all Text.isAscii then readBase64 0 0 0 cs else .error .malformed

/-- The number that plain digits denote. -/
def digitsNumber (cs : List Char) : Nat := cs.foldl (fun n c => 10 * n + (c.toNat - 48)) 0

/-- The day with these parts, if there is one. -/
def dayOf (year month day : Nat) : Except Fault Day :=
  if year = 0 then .error (readerFault .value "year 0 is out of range")
  else if month = 0 ∨ 12 < month then .error (readerFault .value "month must be in 1..12")
  else if day = 0 ∨ Day.daysInMonth year month < day then
    .error (readerFault .value "day is out of range for month")
  else .ok ⟨year, month, day⟩

/-- A span of minutes in the form that shows its parts. -/
def spanText (minutes : Int) : String :=
  let days := minutes / 1440
  let seconds := minutes % 1440 * 60
  let parts := (if days = 0 then [] else ["days=" ++ toString days]) ++
    (if seconds = 0 then [] else ["seconds=" ++ toString seconds])
  "datetime.timedelta(" ++ String.intercalate ", " parts ++ ")"

/-- The offset of a moment in minutes. -/
def offsetOf : Option (Option (Char × List Char × List Char)) → Except Fault (Option Int)
  | none => .ok none
  | some none => .ok (some 0)
  | some (some (sign, hours, minutes)) =>
    let size : Int := digitsNumber hours * 60 + digitsNumber minutes
    let offset := if sign = '-' then -size else size
    if size < 1440 then .ok (some offset)
    else
      .error (readerFault .value ("offset must be a timedelta strictly between " ++
        "-timedelta(hours=24) and timedelta(hours=24), not " ++ spanText offset))

/-- The microseconds that the digits after a point denote. -/
def fractionOf (digits : List Char) : Nat :=
  digitsNumber ((digits ++ List.replicate 6 '0').take 6)

/-- The moment with these parts, if there is one. -/
def momentOf (day : Except Fault Day) (hour minute second fraction : List Char)
    (zone : Option (Option (Char × List Char × List Char))) : Except Fault Moment :=
  match offsetOf zone, day with
  | .error fault, _ | .ok _, .error fault => .error fault
  | .ok offset, .ok day =>
    let hour := digitsNumber hour
    let minute := digitsNumber minute
    let second := digitsNumber second
    if 23 < hour then .error (readerFault .value "hour must be in 0..23")
    else if 59 < minute then .error (readerFault .value "minute must be in 0..59")
    else if 59 < second then .error (readerFault .value "second must be in 0..59")
    else .ok ⟨day, hour, minute, second, fractionOf fraction, offset⟩

def readTimestamp (cs : List Char) : Except Fault Value :=
  match Plain.readStamp cs with
  | none => .error (readerFault .attribute "'NoneType' object has no attribute 'groupdict'")
  | some stamp =>
    let day := dayOf (digitsNumber stamp.year) (digitsNumber stamp.month) (digitsNumber stamp.day)
    match stamp.time with
    | none => day.map .day
    | some (hour, minute, second, fraction) =>
      (momentOf day hour minute second fraction stamp.zone).map .moment

/-- The value that a text has under a tag that is for texts; under any other it has none. Readers of
anything but texts find a replacement character in place of a half. -/
def meaningOf (tag : Tag) (letters : Letters) : Except Fault Value :=
  let cs := letters.map fun letter => letter.char?.getD '\ufffd'
  match tag with
  | .null => .ok .null
  | .bool => (readBool cs).map .bool
  | .int => (readInt cs).map .int
  | .float => (readFloat cs).map .real
  | .binary => (readBinary cs).map .octets
  | .timestamp => readTimestamp cs
  | .str => .ok (.str ⟨letters⟩)
  | _ => .error .malformed

end CallTone.Yaml
