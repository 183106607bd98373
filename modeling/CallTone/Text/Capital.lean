/-!
Capital letters, for comparing a word with a name in basic capital letters. Besides the basic
alphabet a few characters, such as the long s and the ligatures, have basic capitals.
-/
namespace CallTone.Text

/-- The capitals of a character, itself when it has no basic ones. -/
def capitalsOf (c : Char) : List Char :=
  if 'a' ≤ c && c ≤ 'z' then [Char.ofNat (c.toNat - 32)]
  else match c.toNat with
    | 0xDF => ['S', 'S']
    | 0x131 => ['I']
    | 0x17F => ['S']
    | 0xFB00 => ['F', 'F']
    | 0xFB01 => ['F', 'I']
    | 0xFB02 => ['F', 'L']
    | 0xFB03 => ['F', 'F', 'I']
    | 0xFB04 => ['F', 'F', 'L']
    | 0xFB05 => ['S', 'T']
    | 0xFB06 => ['S', 'T']
    | _ => [c]

def capitals (s : String) : String := String.ofList (s.toList.flatMap capitalsOf)

/-- A letter of the basic alphabet as a small letter, every other character itself. -/
def smallLetter (c : Char) : Char := if 'A' ≤ c && c ≤ 'Z' then Char.ofNat (c.toNat + 32) else c

/-- The text with the letters of the basic alphabet small. -/
def smallLetters (s : String) : String := String.ofList (s.toList.map smallLetter)

end CallTone.Text
