import CallTone.Text.Digit
import CallTone.Text.Utf8

/-!
Percent encoding. Letters, digits and `_.-~/` stand for themselves, every other character is the
octets of its UTF-8 form as `%` and two capital hexadecimal digits. Decoding reads each run of ASCII
characters on its own as octets, leaves a `%` without two hexadecimal digits alone, and puts a
replacement character for what is not UTF-8.
-/
namespace CallTone.Text.Percent

/-- Whether the character stands for itself. -/
def isPlain (c : Char) : Bool :=
  isAsciiLetter c || isAsciiDigit c || c == '_' || c == '.' || c == '-' || c == '~' || c == '/'

/-- A hexadecimal digit as a capital letter from ten on. -/
def capitalHexDigit (n : Nat) : Char := if n < 10 then Char.ofNat (48 + n) else Char.ofNat (55 + n)

/-- An octet as `%` and two digits. -/
def encodeOctet (b : Nat) : List Char := ['%', capitalHexDigit (b / 16), capitalHexDigit (b % 16)]

def encodeChar (c : Char) : List Char :=
  if isPlain c then [c] else (Utf8.encodeChar c).flatMap encodeOctet

def encode (cs : List Char) : List Char := cs.flatMap encodeChar

/-- The octets of a run of ASCII characters, with its escapes read. -/
def octets : List Char → List Nat
  | [] => []
  | '%' :: a :: b :: rest =>
    match hexValue? a, hexValue? b with
    | some high, some low => (16 * high + low) :: octets rest
    | _, _ => '%'.toNat :: octets (a :: b :: rest)
  | c :: rest => c.toNat :: octets rest

/-- The text of a run of ASCII characters. -/
def decodeRun (run : List Char) : List Char := Utf8.decodeLossy (octets run)

/-- The decoded text, with the ASCII characters since the last other one in `run`, latest first. -/
def decodeFrom (run : List Char) : List Char → List Char
  | [] => decodeRun run.reverse
  | c :: rest =>
    if isAscii c then decodeFrom (c :: run) rest
    else decodeRun run.reverse ++ c :: decodeFrom [] rest

def decode (cs : List Char) : List Char := decodeFrom [] cs

end CallTone.Text.Percent
