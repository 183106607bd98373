import CallTone.Text.Digit
import CallTone.Text.Letter
import CallTone.Text.Printable

/-!
Quoted texts, as messages show a text whose ends and odd characters must be visible. The quote is
single, or double when the text holds single quotes and no double ones; the quote and the backslash
are escaped, and a character that is not printable is written by its code.
-/
namespace CallTone.Text

/-- The quote that a text is put in. -/
def quoteFor (cs : List Char) : Char :=
  if cs.contains '\'' && !cs.contains '"' then '"' else '\''

def quoteChar (mark c : Char) : List Char :=
  if c = mark ∨ c = '\\' then ['\\', c]
  else if c = '\t' then ['\\', 't']
  else if c = '\n' then ['\\', 'n']
  else if c = '\r' then ['\\', 'r']
  else if isPrintable c then [c]
  else if c.toNat < 0x100 then '\\' :: 'x' :: hexText 2 c.toNat
  else if c.toNat < 0x10000 then '\\' :: 'u' :: hexText 4 c.toNat
  else '\\' :: 'U' :: hexText 8 c.toNat

def quoteChars (cs : List Char) : List Char :=
  let mark := quoteFor cs
  mark :: cs.flatMap (quoteChar mark) ++ [mark]

/-- The string in quotes. -/
def quoted (s : String) : String := String.ofList (quoteChars s.toList)

/-- A letter inside quotes; a half is written by its code. -/
def quoteLetter (mark : Char) : Letter → List Char
  | .char c => quoteChar mark c
  | .half place => '\\' :: 'u' :: hexText 4 (Letter.half place).code

/-- The text in quotes. -/
def shown (text : Text) : String :=
  let mark := quoteFor text.chars
  String.ofList (mark :: text.letters.flatMap (quoteLetter mark) ++ [mark])

/-- The bytes in quotes after a `b`: what is not printable ASCII is written by its code. -/
def quotedBytes (bytes : List Nat) : String :=
  let cs := bytes.map Char.ofNat
  let mark := quoteFor cs
  let body := cs.flatMap fun c =>
    if c.toNat < 0x7F then quoteChar mark c else '\\' :: 'x' :: hexText 2 c.toNat
  String.ofList ('b' :: mark :: body ++ [mark])

end CallTone.Text
