import CallTone.Failure

/-!
Cursors: a place in the text of a document, with what follows it, and the line and column that it is
on. The end of the text shows as NUL, which no document holds.
-/
namespace CallTone.Yaml

/-- Why a document is not read. -/
inductive Fault where
  /-- The text is no document, or one that says something that cannot be. -/
  | malformed
  /-- Reading broke off with a failure of its own. -/
  | broken (failure : Failure)
deriving DecidableEq, Repr

def isBreak (c : Char) : Bool :=
  c == '\n' || c == '\r' || c == '\x85' || c == '\u2028' || c == '\u2029'

/-- Whether the character stands for the end of the text. -/
def isEnd (c : Char) : Bool := c == '\x00'

def endsLine (c : Char) : Bool := isEnd c || isBreak c

/-- Whether a word of a directive, tag or header ends here. -/
def endsWord (c : Char) : Bool := c == ' ' || endsLine c

/-- Whether an indicator that needs a blank after it may stand before this character. -/
def isBlankOrEnd (c : Char) : Bool := c == '\t' || endsWord c

/-- Whether the character may be part of an anchor or a handle. -/
def isWordChar (c : Char) : Bool :=
  ('0' ≤ c && c ≤ '9') || ('A' ≤ c && c ≤ 'Z') || ('a' ≤ c && c ≤ 'z') || c == '-' || c == '_'

structure Cursor where
  rest : List Char
  index : Nat
  line : Nat
  column : Nat

namespace Cursor

def start (text : List Char) : Cursor := ⟨text, 0, 0, 0⟩

/-- The character some places ahead. -/
def ahead (c : Cursor) (n : Nat) : Char := c.rest.getD n '\x00'

def here (c : Cursor) : Char := c.ahead 0

/-- The place after one character. A byte order mark takes no column. -/
def next (c : Cursor) : Cursor :=
  match c.rest with
  | [] => c
  | ch :: rest =>
    if isBreak ch && !(ch == '\r' && rest.head? == some '\n') then
      ⟨rest, c.index + 1, c.line + 1, 0⟩
    else if ch = '\ufeff' then ⟨rest, c.index + 1, c.line, c.column⟩
    else ⟨rest, c.index + 1, c.line, c.column + 1⟩

/-- The place some characters further on. -/
def forward (c : Cursor) : Nat → Cursor
  | 0 => c
  | n + 1 => c.next.forward n

/-- The characters from here on that pass a test. -/
def run (c : Cursor) (test : Char → Bool) : List Char := c.rest.takeWhile test

def skip (c : Cursor) (test : Char → Bool) : Cursor := c.forward (c.run test).length

def skipSpaces (c : Cursor) : Cursor := c.skip (· == ' ')

/-- The line break that is here, in its plain form, and the place after it. -/
def takeBreak (c : Cursor) : List Char × Cursor :=
  if c.here = '\r' ∧ c.ahead 1 = '\n' then (['\n'], c.forward 2)
  else if c.here = '\r' ∨ c.here = '\n' ∨ c.here = '\x85' then (['\n'], c.next)
  else if isBreak c.here then ([c.here], c.next)
  else ([], c)

/-- Whether three equal characters and a blank stand here. -/
def atTriple (c : Cursor) (ch : Char) : Bool :=
  c.here == ch && c.ahead 1 == ch && c.ahead 2 == ch && isBlankOrEnd (c.ahead 3)

/-- Whether a document starts or ends here, given that a line does. -/
def atSeparator (c : Cursor) : Bool := c.atTriple '-' || c.atTriple '.'

/-- The place after spaces and a comment. -/
def skipComment (c : Cursor) : Cursor :=
  let c := c.skipSpaces
  if c.here = '#' then c.skip fun ch => !endsLine ch else c

/-- The place after the rest of a line that may hold only a comment. -/
def endLine (c : Cursor) : Except Fault Cursor :=
  let c := c.skipComment
  if endsLine c.here then .ok c.takeBreak.2 else .error .malformed

end Cursor
end CallTone.Yaml
