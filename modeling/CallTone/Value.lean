import CallTone.Binary64.Decimal
import CallTone.Json
import CallTone.Moment
import CallTone.Text.Quoted

/-!
Raw values: what a document yields before it is checked against the settings. Besides texts, numbers
and truth values there are octets, days and moments; values are collected in lists, sets, pairs and
maps. A map finds an entry by its key: numbers are the same key when they are equal, whatever their
kind, and truth values count as 0 and 1.
-/
namespace CallTone

/-- A raw value. -/
inductive Value where
  | null
  | bool (value : Bool)
  | int (value : Int)
  | real (value : Binary64)
  | str (value : Text)
  | octets (value : List Nat)
  | day (value : Day)
  | moment (value : Moment)
  | list (items : List Value)
  | set (items : List Value)
  | pair (first second : Value)
  | map (entries : List (Value × Value))

namespace Value

instance : Inhabited Value := ⟨.null⟩

def kindName : Value → String
  | .null => "NoneType"
  | .bool _ => "bool"
  | .int _ => "int"
  | .real _ => "float"
  | .str _ => "str"
  | .octets _ => "bytes"
  | .day _ => "date"
  | .moment _ => "datetime"
  | .list _ => "list"
  | .set _ => "set"
  | .pair _ _ => "tuple"
  | .map _ => "dict"

/-- The name of a value's kind together with the family it belongs to. -/
def fullKindName : Value → String
  | .day _ => "datetime.date"
  | .moment _ => "datetime.datetime"
  | value => value.kindName

def isEmpty : Value → Bool
  | .null => true
  | .bool b => !b
  | .int n => n == 0
  | .real x => x.equals Binary64.zero
  | .str t => t.letters.isEmpty
  | .octets os => os.isEmpty
  | .list items | .set items => items.isEmpty
  | .map entries => entries.isEmpty
  | .day _ | .moment _ | .pair _ _ => false

def canBeKey : Value → Bool
  | .list _ | .set _ | .map _ => false
  | .pair first second => first.canBeKey && second.canBeKey
  | _ => true

/-- The number that a value is as a key. -/
def number? : Value → Option (Int ⊕ Binary64)
  | .bool b => some (.inl (if b then 1 else 0))
  | .int n => some (.inl n)
  | .real x => some (match x.toInt? with | some n => .inl n | none => .inr x)
  | _ => none

def sameKey (v w : Value) : Bool :=
  match v.number?, w.number? with
  | some (.inl m), some (.inl n) => m == n
  | some (.inr x), some (.inr y) => x.equals y
  | some _, _ | _, some _ => false
  | none, none =>
    match v, w with
    | .null, .null => true
    | .str s, .str t => s == t
    | .octets a, .octets b => a == b
    | .day d, .day e => d == e
    | .moment m, .moment n => m.same n
    | _, _ => false

/-- The entries with one more: a known key keeps its place and its spelling and takes the new
value. -/
def insertEntry (key value : Value) : List (Value × Value) → List (Value × Value)
  | [] => [(key, value)]
  | (k, v) :: rest => if k.sameKey key then (k, value) :: rest else (k, v) :: insertEntry key value rest

def lookup (name : String) : List (Value × Value) → Option Value
  | [] => none
  | (.str key, value) :: rest => if key = name then some value else lookup name rest
  | _ :: rest => lookup name rest

def dayText (d : Day) : String :=
  "datetime.date(" ++ toString d.year ++ ", " ++ toString d.month ++ ", " ++ toString d.day ++ ")"

/-- An offset in the form that shows its parts. -/
def offsetText (minutes : Int) : String :=
  if minutes = 0 then "datetime.timezone.utc"
  else
    let seconds := minutes * 60
    let days := seconds / 86400
    let rest := seconds % 86400
    let inner := (if days = 0 then "" else "days=" ++ toString days) ++
      (if days ≠ 0 ∧ rest ≠ 0 then ", " else "") ++
      (if rest = 0 then "" else "seconds=" ++ toString rest)
    "datetime.timezone(datetime.timedelta(" ++ inner ++ "))"

/-- A moment in the form that shows its parts; seconds and their fraction only where they count. -/
def momentText (m : Moment) : String :=
  let parts := [m.day.year, m.day.month, m.day.day, m.hour, m.minute] ++
    (if m.microsecond ≠ 0 then [m.second, m.microsecond]
      else if m.second ≠ 0 then [m.second] else [])
  "datetime.datetime(" ++ String.intercalate ", " (parts.map toString) ++
    (match m.offset with
      | none => ""
      | some minutes => ", tzinfo=" ++ offsetText minutes) ++ ")"

/-- A key in the form that shows its kind. -/
def shown : Value → String
  | .null => "None"
  | .bool b => if b then "True" else "False"
  | .int n => toString n
  | .real x => x.text
  | .str t => t.shown
  | .octets os => Text.quotedBytes os
  | .day d => dayText d
  | .moment m => momentText m
  | .pair first second => "(" ++ first.shown ++ ", " ++ second.shown ++ ")"
  | .list _ => "[...]"
  | .set _ => "set(...)"
  | .map _ => "\x7b...\x7d"

mutual

/-- The raw value that a JSON value stands for. -/
def ofJson : Json → Value
  | .null => .null
  | .bool b => .bool b
  | .int n => .int n
  | .real x => .real x
  | .str s => .str s
  | .arr items => .list (ofJsonItems items)
  | .obj members => .map (ofJsonMembers members)

/-- The raw values that the items of an array stand for. -/
def ofJsonItems : List Json → List Value
  | [] => []
  | item :: rest => ofJson item :: ofJsonItems rest

/-- The entries that the members of an object stand for. -/
def ofJsonMembers : List (String × Json) → List (Value × Value)
  | [] => []
  | (name, member) :: rest => (.str name, ofJson member) :: ofJsonMembers rest

end

end Value
end CallTone
