import CallTone.Failure
import CallTone.Text.Capital
import CallTone.Text.Letter
import CallTone.Text.Percent
import CallTone.Uri.Host

/-!
Uniform resource identifiers, split into scheme, authority and path. Control characters and spaces
at the front, and tabs and line breaks anywhere, are dropped; query and fragment are cut off. The
scheme is compared in small letters. An authority is refused when its square brackets do not enclose
an address, or when compatibility normalisation would bring one of the delimiters `/?#@:` into it.
-/
namespace CallTone

/-- The parts of an identifier that say where a sound is. -/
structure Uri where
  scheme : String
  authority : String
  path : String
deriving DecidableEq, Repr

namespace Uri

inductive Fault where
  /-- The square brackets of the authority do not match or stand in the wrong place. -/
  | brackets
  | host (fault : HostFault)
  /-- The authority normalises to one with a delimiter in it. -/
  | compatibility (authority : String)
deriving DecidableEq, Repr

def Fault.message : Fault → String
  | .brackets => "Invalid IPv6 URL"
  | .host fault => fault.message
  | .compatibility authority =>
    "netloc '" ++ authority ++ "' contains invalid characters under NFKC normalization"

def isSchemeChar (c : Char) : Bool :=
  Text.isAsciiLetter c || Text.isAsciiDigit c || c == '+' || c == '-' || c == '.'

/-- Whether compatibility normalisation turns the character into text with one of `/?#@:`. -/
def hidesDelimiter (c : Char) : Bool :=
  [0x2047, 0x2048, 0x2049, 0x2100, 0x2101, 0x2105, 0x2106, 0x2A74, 0xFE13, 0xFE16, 0xFE55, 0xFE56,
    0xFE5F, 0xFE6B, 0xFF03, 0xFF0F, 0xFF1A, 0xFF1F, 0xFF20].contains c.toNat

/-- The text without leading controls and spaces, and without tabs and line breaks. -/
def clean (cs : List Char) : List Char :=
  (cs.dropWhile fun c => c.toNat ≤ 0x20).filter fun c => c ≠ '\t' ∧ c ≠ '\n' ∧ c ≠ '\r'

/-- The scheme, in small letters, and what follows its colon. A text without a scheme has the
empty one. -/
def splitScheme (cs : List Char) : List Char × List Char :=
  let scheme := cs.takeWhile (· ≠ ':')
  match cs.dropWhile (· ≠ ':') with
  | ':' :: rest =>
    match scheme with
    | first :: _ =>
      if Text.isAsciiLetter first && scheme.all isSchemeChar then
        (scheme.map Text.smallLetter, rest)
      else ([], cs)
    | [] => ([], cs)
  | _ => ([], cs)

def endsAuthority (c : Char) : Bool := c == '/' || c == '?' || c == '#'

/-- The authority after two slashes and what follows it. -/
def splitAuthority : List Char → List Char × List Char
  | '/' :: '/' :: rest =>
    (rest.takeWhile fun c => !endsAuthority c, rest.dropWhile fun c => !endsAuthority c)
  | cs => ([], cs)

/-- What follows the last separator, all when there is none. -/
def afterLast (separator : Char) (cs : List Char) : List Char :=
  (cs.reverse.takeWhile (· ≠ separator)).reverse

/-- Checks an authority with square brackets: nothing before them, an address in them, and after
them nothing or a colon and what follows it. -/
def checkBrackets (authority : List Char) : Except Fault Unit :=
  let located := afterLast '@' authority
  match located.dropWhile (· ≠ '[') with
  | '[' :: bracketed =>
    if (located.takeWhile (· ≠ '[')) ≠ [] then .error .brackets
    else
      let after := (bracketed.dropWhile (· ≠ ']')).drop 1
      if after ≠ [] ∧ after.head? ≠ some ':' then .error .brackets
      else (checkHost (bracketed.takeWhile (· ≠ ']'))).mapError .host
  | _ => (checkHost (located.takeWhile (· ≠ ':'))).mapError .host

def checkAuthority (authority : List Char) : Except Fault Unit :=
  let opens := authority.contains '['
  let closes := authority.contains ']'
  if opens ≠ closes then .error .brackets
  else if opens then checkBrackets authority
  else .ok ()

/-- The parts of an identifier. -/
def parse (s : String) : Except Fault Uri :=
  let (scheme, afterScheme) := splitScheme (clean s.toList)
  let (authority, afterAuthority) := splitAuthority afterScheme
  match checkAuthority authority with
  | .error fault => .error fault
  | .ok () =>
    let path := (afterAuthority.takeWhile (· ≠ '#')).takeWhile (· ≠ '?')
    if authority.any hidesDelimiter then .error (.compatibility (String.ofList authority))
    else .ok ⟨String.ofList scheme, String.ofList authority, String.ofList path⟩

/-- The `file` identifier of a path, with every character that would be cut off or dropped
percent-encoded. -/
def ofFile (path : String) : String :=
  "file://" ++ String.ofList (Text.Percent.encode path.toList)

/-- The failure to encode letters that are no characters. -/
def unencodable (stray : Text.Stray) : Failure := ⟨.unicodeEncoding, stray.message⟩

end Uri
end CallTone
