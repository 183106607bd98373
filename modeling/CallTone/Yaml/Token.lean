import CallTone.Yaml.Tag

/-!
Tokens: the marks and texts that a document is made of. Indentation is told by tokens that open and
close blocks. A key need not be marked: whatever stands on one line before a colon may turn out to
be one, so a place where a key may have started is kept in mind until the colon comes or can no
longer come.
-/
namespace CallTone.Yaml

inductive Token where
  | directive (directive : Directive)
  | documentStart
  | documentEnd
  | blockSequenceStart
  | blockMappingStart
  | blockEnd
  | flowSequenceStart
  | flowMappingStart
  | flowSequenceEnd
  | flowMappingEnd
  | blockEntry
  | flowEntry
  | key
  | value
  | alias (name : List Char)
  | anchor (name : List Char)
  | tag (tag : WrittenTag)
  | scalar (text : Letters) (isPlain : Bool)
  | streamEnd
deriving DecidableEq

/-- A place where a key may have started. -/
structure PossibleKey where
  /-- How many tokens come before it. -/
  position : Nat
  /-- Whether a key has to be here, since a block with this indentation is open. -/
  required : Bool
  index : Nat
  line : Nat
  column : Nat

/-- What is known while tokens are read. -/
structure Tokenizing where
  cursor : Cursor
  tokens : Array Token
  /-- How many brackets are open; not zero also when more were closed than opened. -/
  flowLevel : Int
  /-- The indentation of the innermost block, and those around it. -/
  indent : Int
  outer : List Int
  keyAllowed : Bool
  /-- The possible keys, each with the flow level that it is on. -/
  possible : List (Int × PossibleKey)

namespace Tokenizing

def start (text : List Char) : Tokenizing :=
  ⟨Cursor.start text, #[], 0, -1, [], true, []⟩

def inFlow (s : Tokenizing) : Bool := s.flowLevel != 0

def push (s : Tokenizing) (token : Token) : Tokenizing := { s with tokens := s.tokens.push token }

def insert (s : Tokenizing) (position : Nat) (token : Token) : Tokenizing :=
  { s with tokens := (s.tokens.extract 0 position).push token ++
      s.tokens.extract position s.tokens.size }

/-- Goes to the next token, over spaces, comments and line breaks. -/
def skipGap : Nat → Tokenizing → Tokenizing
  | 0, s => s
  | fuel + 1, s =>
    let c := s.cursor.skipComment
    if isBreak c.here then
      skipGap fuel { s with cursor := c.takeBreak.2, keyAllowed := s.keyAllowed || !s.inFlow }
    else { s with cursor := c }

/-- Goes to the next token; a byte order mark at the very start is skipped too. -/
def toNextToken (s : Tokenizing) : Tokenizing :=
  let c := if s.cursor.index = 0 ∧ s.cursor.here = '\ufeff' then s.cursor.next else s.cursor
  skipGap (c.rest.length + 1) { s with cursor := c }

/-- Whether a possible key can no longer become one. -/
def isStale (c : Cursor) (key : PossibleKey) : Bool :=
  key.line != c.line || 1024 < c.index - key.index

/-- Forgets the possible keys that can no longer become keys. -/
def dropStale (s : Tokenizing) : Except Fault Tokenizing :=
  if s.possible.any fun entry => isStale s.cursor entry.2 && entry.2.required then .error .malformed
  else .ok { s with possible := s.possible.filter fun entry => !isStale s.cursor entry.2 }

def dropKey (s : Tokenizing) : Except Fault Tokenizing :=
  match s.possible.lookup s.flowLevel with
  | some key =>
    if key.required then .error .malformed
    else .ok { s with possible := s.possible.filter fun entry => entry.1 != s.flowLevel }
  | none => .ok s

/-- Keeps in mind that a key may start here. -/
def saveKey (s : Tokenizing) : Except Fault Tokenizing :=
  if s.keyAllowed then
    (dropKey s).map fun s =>
      let c := s.cursor
      let required := !s.inFlow && s.indent == c.column
      { s with possible :=
          (s.flowLevel, ⟨s.tokens.size, required, c.index, c.line, c.column⟩) :: s.possible }
  else .ok s

def closeBlocks (column : Int) : List Int → Tokenizing → Tokenizing
  | [], s => s
  | indent :: outer, s =>
    if s.indent > column then
      closeBlocks column outer { s.push .blockEnd with indent := indent, outer := outer }
    else s

/-- Closes blocks, unless brackets are open. -/
def unwind (s : Tokenizing) (column : Int) : Tokenizing :=
  if s.inFlow then s else closeBlocks column s.outer s

/-- Opens a block at a column, when it is indented further than the present one. -/
def openBlock (s : Tokenizing) (column : Nat) (position : Nat) (token : Token) : Tokenizing :=
  if !s.inFlow && s.indent < column then
    { s.insert position token with indent := column, outer := s.indent :: s.outer }
  else s

def forward (s : Tokenizing) (n : Nat) : Tokenizing := { s with cursor := s.cursor.forward n }

/-- Sets whether a key may start next. -/
def allowKey (s : Tokenizing) (allowed : Bool) : Tokenizing := { s with keyAllowed := allowed }

def readEnd (s : Tokenizing) : Except Fault Tokenizing :=
  (dropKey (s.unwind (-1))).map fun s => { s.push .streamEnd with keyAllowed := false, possible := [] }

def readDirective (s : Tokenizing) : Except Fault Tokenizing :=
  match dropKey (s.unwind (-1)) with
  | .error fault => .error fault
  | .ok s =>
    (takeDirective s.cursor).map fun (directive, c) =>
      { s.push (.directive directive) with cursor := c, keyAllowed := false }

/-- Reads the mark between documents. -/
def readSeparator (s : Tokenizing) (token : Token) : Except Fault Tokenizing :=
  (dropKey (s.unwind (-1))).map fun s => ((s.push token).forward 3).allowKey false

def readFlowStart (s : Tokenizing) (token : Token) : Except Fault Tokenizing :=
  (saveKey s).map fun s =>
    { (s.push token).forward 1 with flowLevel := s.flowLevel + 1, keyAllowed := true }

def readFlowEnd (s : Tokenizing) (token : Token) : Except Fault Tokenizing :=
  (dropKey s).map fun s =>
    { (s.push token).forward 1 with flowLevel := s.flowLevel - 1, keyAllowed := false }

def readFlowEntry (s : Tokenizing) : Except Fault Tokenizing :=
  (dropKey (s.allowKey true)).map fun s => (s.push .flowEntry).forward 1

def readBlockEntry (s : Tokenizing) : Except Fault Tokenizing :=
  if !s.inFlow && !s.keyAllowed then .error .malformed
  else
    let s := s.openBlock s.cursor.column s.tokens.size .blockSequenceStart
    (dropKey (s.allowKey true)).map fun s => (s.push .blockEntry).forward 1

def readKey (s : Tokenizing) : Except Fault Tokenizing :=
  if !s.inFlow && !s.keyAllowed then .error .malformed
  else
    let s := s.openBlock s.cursor.column s.tokens.size .blockMappingStart
    (dropKey (s.allowKey !s.inFlow)).map fun s => (s.push .key).forward 1

/-- Reads a colon. What was kept in mind as a possible key becomes one. -/
def readValue (s : Tokenizing) : Except Fault Tokenizing :=
  match s.possible.lookup s.flowLevel with
  | some key =>
    let s := { s with possible := s.possible.filter fun entry => entry.1 != s.flowLevel }
    let s := (s.insert key.position .key).openBlock key.column key.position .blockMappingStart
    .ok (((s.allowKey false).push .value).forward 1)
  | none =>
    if !s.inFlow && !s.keyAllowed then .error .malformed
    else
      let s := s.openBlock s.cursor.column s.tokens.size .blockMappingStart
      (dropKey (s.allowKey !s.inFlow)).map fun s => (s.push .value).forward 1

/-- Whether the character may follow the name of an anchor. -/
def endsAnchor (c : Char) : Bool := isBlankOrEnd c || ['?', ':', ',', ']', '}', '%', '@', '`'].contains c

def readAnchor (s : Tokenizing) (token : List Char → Token) : Except Fault Tokenizing :=
  match saveKey s with
  | .error fault => .error fault
  | .ok s =>
    let name := s.cursor.next.run isWordChar
    let after := (s.allowKey false).forward (name.length + 1)
    if name.isEmpty || !endsAnchor after.cursor.here then .error .malformed
    else .ok (after.push (token name))

def readTag (s : Tokenizing) : Except Fault Tokenizing :=
  match saveKey s with
  | .error fault => .error fault
  | .ok s =>
    (takeTag s.cursor).map fun (tag, c) =>
      { s.push (.tag tag) with cursor := c, keyAllowed := false }

def readBlockScalar (s : Tokenizing) (folded : Bool) : Except Fault Tokenizing :=
  match dropKey (s.allowKey true) with
  | .error fault => .error fault
  | .ok s =>
    (blockScalar folded (s.indent + 1).toNat s.cursor).map fun (text, c) =>
      { s.push (.scalar (Letters.ofChars text) false) with cursor := c }

def readQuoted (s : Tokenizing) : Except Fault Tokenizing :=
  match saveKey s with
  | .error fault => .error fault
  | .ok s =>
    (quotedScalar s.cursor).map fun (text, c) =>
      { s.push (.scalar text false) with cursor := c, keyAllowed := false }

/-- Reads a plain scalar. After one that ends with its line, a key may start. -/
def readPlain (s : Tokenizing) : Except Fault Tokenizing :=
  (saveKey s).map fun s =>
    let (text, crossed, c) := plainScalar s.inFlow (s.indent + 1).toNat s.cursor
    { s.push (.scalar (Letters.ofChars text) true) with cursor := c, keyAllowed := crossed }

def startsPlain (s : Tokenizing) : Bool :=
  let ch := s.cursor.here
  let isIndicator := ['-', '?', ':', ',', '[', ']', '{', '}', '#', '&', '*', '!', '|', '>', '\'', '"',
    '%', '@', '`'].contains ch
  (!isBlankOrEnd ch && !isIndicator) ||
    (!isBlankOrEnd (s.cursor.ahead 1) && (ch == '-' || (!s.inFlow && (ch == '?' || ch == ':'))))

def readToken (s : Tokenizing) : Except Fault Tokenizing :=
  let c := s.cursor
  let ch := c.here
  let spaced := isBlankOrEnd (c.ahead 1)
  if isEnd ch then s.readEnd
  else if ch = '%' ∧ c.column = 0 then s.readDirective
  else if c.column = 0 ∧ c.atTriple '-' then s.readSeparator .documentStart
  else if c.column = 0 ∧ c.atTriple '.' then s.readSeparator .documentEnd
  else if ch = '[' then s.readFlowStart .flowSequenceStart
  else if ch = '{' then s.readFlowStart .flowMappingStart
  else if ch = ']' then s.readFlowEnd .flowSequenceEnd
  else if ch = '}' then s.readFlowEnd .flowMappingEnd
  else if ch = ',' then s.readFlowEntry
  else if ch = '-' ∧ spaced then s.readBlockEntry
  else if ch = '?' ∧ (s.inFlow || spaced) then s.readKey
  else if ch = ':' ∧ (s.inFlow || spaced) then s.readValue
  else if ch = '*' then s.readAnchor .alias
  else if ch = '&' then s.readAnchor .anchor
  else if ch = '!' then s.readTag
  else if ch = '|' ∧ !s.inFlow then s.readBlockScalar false
  else if ch = '>' ∧ !s.inFlow then s.readBlockScalar true
  else if ch = '\'' ∨ ch = '"' then s.readQuoted
  else if s.startsPlain then s.readPlain
  else .error .malformed

/-- Goes to the next token and reads it. -/
def step (s : Tokenizing) : Except Fault Tokenizing :=
  match s.toNextToken.dropStale with
  | .error fault => .error fault
  | .ok s => (s.unwind s.cursor.column).readToken

/-- Reads all tokens, or those before the first fault. -/
def run : Nat → Tokenizing → List Token × Fault
  | 0, s => (s.tokens.toList, .malformed)
  | fuel + 1, s =>
    match s.step with
    | .error fault => (s.tokens.toList, fault)
    | .ok after =>
      if after.tokens.back? = some .streamEnd then (after.tokens.toList, .malformed)
      else run fuel after

end Tokenizing

/-- The tokens of a text, and the fault that follows them when they do not reach its end. -/
def Token.ofText (text : List Char) : List Token × Fault :=
  Tokenizing.run (text.length + 2) (Tokenizing.start text)

end CallTone.Yaml
