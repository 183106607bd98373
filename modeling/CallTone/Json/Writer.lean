import CallTone.Binary64.Decimal
import CallTone.Json
import CallTone.Text.Digit

/-!
JSON texts. Everything outside printable ASCII is escaped, by UTF-16 units where it has no short
escape, so a text is pure ASCII. The indented form puts each item and each member on a line of its
own, two spaces deeper than what holds it, and writes the members of an object in the order of
their names.
-/
namespace CallTone.Json

def escapeUnit (n : Nat) : List Char := '\\' :: 'u' :: Text.hexText 4 n

/-- One character inside a string. -/
def escapeChar (c : Char) : List Char :=
  if c = '"' then ['\\', '"']
  else if c = '\\' then ['\\', '\\']
  else if c = '\n' then ['\\', 'n']
  else if c = '\r' then ['\\', 'r']
  else if c = '\t' then ['\\', 't']
  else if c = '\x0c' then ['\\', 'f']
  else if c = '\x08' then ['\\', 'b']
  else if 0x20 ≤ c.toNat ∧ c.toNat ≤ 0x7E then [c]
  else if c.toNat < 0x10000 then escapeUnit c.toNat
  else
    let n := c.toNat - 0x10000
    escapeUnit (0xD800 + n / 0x400) ++ escapeUnit (0xDC00 + n % 0x400)

def stringText (s : String) : List Char := '"' :: s.toList.flatMap escapeChar ++ ['"']

/-- A binary number, with capitalised words for what is not real. -/
def realText (x : Binary64) : List Char :=
  if x.isNaN then "NaN".toList
  else if x.isInfinite then
    (if x.negative then "-Infinity" else "Infinity").toList
  else x.text.toList

/-- Puts a member into members that rise by name, after those of the same name. -/
def insertMember {α : Type} (member : String × α) : List (String × α) → List (String × α)
  | [] => [member]
  | first :: rest =>
    if member.1 < first.1 then member :: first :: rest else first :: insertMember member rest

def sortMembers {α : Type} (members : List (String × α)) : List (String × α) :=
  members.foldl (fun sorted member => insertMember member sorted) []

def lineBreak (depth : Nat) : List Char := '\n' :: List.replicate (2 * depth) ' '

def joinWith (separator : List Char) : List (List Char) → List Char
  | [] => []
  | [only] => only
  | first :: rest => first ++ separator ++ joinWith separator rest

mutual

/-- The indented text of a value that stands at a depth. -/
def indentedText (depth : Nat) : Json → List Char
  | .null => "null".toList
  | .bool b => (if b then "true" else "false").toList
  | .int n => (toString n).toList
  | .real x => realText x
  | .str s => stringText s
  | .arr [] => ['[', ']']
  | .arr (item :: items) =>
    '[' :: lineBreak (depth + 1) ++
      joinWith (',' :: lineBreak (depth + 1)) (itemTexts (depth + 1) (item :: items)) ++
      lineBreak depth ++ [']']
  | .obj [] => ['\x7b', '\x7d']
  | .obj (member :: members) =>
    '\x7b' :: lineBreak (depth + 1) ++
      joinWith (',' :: lineBreak (depth + 1))
        ((sortMembers (memberTexts (depth + 1) (member :: members))).map (·.2)) ++
      lineBreak depth ++ ['\x7d']

def itemTexts (depth : Nat) : List Json → List (List Char)
  | [] => []
  | item :: items => indentedText depth item :: itemTexts depth items

/-- The texts of the members of an object, each under its name. -/
def memberTexts (depth : Nat) : List (String × Json) → List (String × List Char)
  | [] => []
  | (name, value) :: members =>
    (name, stringText name ++ ':' :: ' ' :: indentedText depth value) :: memberTexts depth members

end

/-- The indented text of a value. -/
def indented (j : Json) : String := String.ofList (indentedText 0 j)

mutual

/-- The text of a value on one line. -/
def lineText : Json → List Char
  | .null => "null".toList
  | .bool b => (if b then "true" else "false").toList
  | .int n => (toString n).toList
  | .real x => realText x
  | .str s => stringText s
  | .arr items => '[' :: joinWith [','] (itemLines items) ++ [']']
  | .obj members => '\x7b' :: joinWith [','] (memberLines members) ++ ['\x7d']

/-- The one-line texts of the items of an array. -/
def itemLines : List Json → List (List Char)
  | [] => []
  | item :: items => lineText item :: itemLines items

/-- The one-line texts of the members of an object. -/
def memberLines : List (String × Json) → List (List Char)
  | [] => []
  | (name, value) :: members => (stringText name ++ ':' :: lineText value) :: memberLines members

end

/-- The text of a value on one line. -/
def line (j : Json) : String := String.ofList (lineText j)

end CallTone.Json
