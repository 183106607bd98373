import CallTone.Text.Digit
import CallTone.Text.Letter
import CallTone.Yaml.Cursor

/-!
Scalars: the three ways to write a text in a document. A plain scalar runs on over lines that are
indented, a quoted one up to its closing quote; in both, a single line break counts as a space and
each further one as itself. A block scalar keeps the lines below its header, or folds them.
-/
namespace CallTone.Yaml

/-- The text of a scalar: characters, and halves of surrogate pairs where an escape writes one. -/
abbrev Letters := List Letter

def Letters.ofChars (cs : List Char) : Letters := cs.map .char

/-- What a line break counts as, with the empty lines after it. -/
def foldedBreak (lineBreak breaks : List Char) : List Char :=
  if lineBreak ≠ ['\n'] then lineBreak ++ breaks
  else if breaks.isEmpty then [' ']
  else breaks

/-! ### Plain scalars -/

/-- Whether the character ends a plain scalar between brackets. -/
def endsPlainInFlow (c : Char) : Bool := [',', '?', '[', ']', '{', '}'].contains c

/-- The characters of a plain scalar up to a blank or an indicator. -/
def plainRun (flow : Bool) : List Char → List Char
  | [] => []
  | c :: rest =>
    let after := rest.headD '\x00'
    let isKeyEnd := c == ':' && (isBlankOrEnd after ||
      (flow && [',', '[', ']', '{', '}'].contains after))
    if isBlankOrEnd c || isKeyEnd || (flow && endsPlainInFlow c) then []
    else c :: plainRun flow rest

/-- The empty lines and spaces inside a plain scalar; none when a document ends there. -/
def plainBreaks : Nat → Cursor → Option (List Char) × Cursor
  | 0, c => (some [], c)
  | fuel + 1, c =>
    if c.here = ' ' then plainBreaks fuel c.next
    else if isBreak c.here then
      let (lineBreak, c) := c.takeBreak
      if c.atSeparator then (none, c)
      else
        let (breaks, c) := plainBreaks fuel c
        (breaks.map (lineBreak ++ ·), c)
    else (some [], c)

/-- What separates two runs of a plain scalar: its text, which is empty when the scalar ends, and
whether it crosses a line. -/
structure PlainGap where
  text : List Char
  crossesLine : Bool
  after : Cursor

/-- The gap that starts here. -/
def plainGap (c : Cursor) : PlainGap :=
  let blanks := c.run (· == ' ')
  let c := c.skipSpaces
  if isBreak c.here then
    let (lineBreak, c) := c.takeBreak
    if c.atSeparator then ⟨[], true, c⟩
    else
      match plainBreaks (c.rest.length + 1) c with
      | (none, c) => ⟨[], true, c⟩
      | (some breaks, c) => ⟨foldedBreak lineBreak breaks, true, c⟩
  else ⟨blanks, false, c⟩

/-- A plain scalar: its text, whether the last thing read was a line break, and the place after. -/
def plainFrom (flow : Bool) (indent : Nat) : Nat → Bool → Cursor → List Char × Bool × Cursor
  | 0, crossed, c => ([], crossed, c)
  | fuel + 1, crossed, c =>
    let run := if c.here = '#' then [] else plainRun flow c.rest
    if run.isEmpty then ([], crossed, c)
    else
      let gap := plainGap (c.forward run.length)
      if gap.text.isEmpty || gap.after.here == '#' || (!flow && gap.after.column < indent) then
        (run, gap.crossesLine, gap.after)
      else
        let (more, crossed, c) := plainFrom flow indent fuel gap.crossesLine gap.after
        (if more.isEmpty then run else run ++ gap.text ++ more, crossed, c)

/-- The plain scalar that starts here, below a given indentation. -/
def plainScalar (flow : Bool) (indent : Nat) (c : Cursor) : List Char × Bool × Cursor :=
  plainFrom flow indent (c.rest.length + 1) false c

/-! ### Quoted scalars -/

/-- The character that a one-letter escape stands for. -/
def escaped? : Char → Option Char
  | '0' => some '\x00'
  | 'a' => some '\x07'
  | 'b' => some '\x08'
  | 't' | '\t' => some '\t'
  | 'n' => some '\n'
  | 'v' => some '\x0b'
  | 'f' => some '\x0c'
  | 'r' => some '\r'
  | 'e' => some '\x1b'
  | ' ' => some ' '
  | '"' => some '"'
  | '\\' => some '\\'
  | '/' => some '/'
  | 'N' => some '\x85'
  | '_' => some '\xa0'
  | 'L' => some '\u2028'
  | 'P' => some '\u2029'
  | _ => none

/-- How many hexadecimal digits follow an escape by code. -/
def escapeLength? : Char → Option Nat
  | 'x' => some 2
  | 'u' => some 4
  | 'U' => some 8
  | _ => none

def hexNumber? (cs : List Char) : Option Nat :=
  cs.foldl (fun n c => n.bind fun n => (Text.hexValue? c).map fun d => 16 * n + d) (some 0)

def letterOfCode (code : Nat) : Except Fault Letter :=
  if 0x7FFFFFFF < code then
    .error (.broken ⟨.overflow, "Python int too large to convert to C int"⟩)
  else if 0x10FFFF < code then
    .error (.broken ⟨.value, "chr() arg not in range(0x110000)"⟩)
  else if surrogate : 0xD800 ≤ code ∧ code ≤ 0xDFFF then .ok (.half ⟨code - 0xD800, by omega⟩)
  else .ok (.char (Char.ofNat code))

/-- The empty lines inside a quoted scalar, in which no document may start or end. -/
def quotedBreaks : Nat → Cursor → Except Fault (List Char × Cursor)
  | 0, c => .ok ([], c)
  | fuel + 1, c =>
    if c.atSeparator then .error .malformed
    else
      let c := c.skip fun ch => ch == ' ' || ch == '\t'
      if isBreak c.here then
        let (lineBreak, c) := c.takeBreak
        match quotedBreaks fuel c with
        | .error fault => .error fault
        | .ok (breaks, c) => .ok (lineBreak ++ breaks, c)
      else .ok ([], c)

/-- Blanks and line breaks inside a quoted scalar. -/
def quotedGap (c : Cursor) : Except Fault (List Char × Cursor) :=
  let blank := fun ch => ch == ' ' || ch == '\t'
  let blanks := c.run blank
  let c := c.skip blank
  if isEnd c.here then .error .malformed
  else if isBreak c.here then
    let (lineBreak, c) := c.takeBreak
    (quotedBreaks (c.rest.length + 1) c).map fun (breaks, c) => (foldedBreak lineBreak breaks, c)
  else .ok (blanks, c)

/-- What follows a backslash. -/
def quotedEscape (c : Cursor) : Except Fault (Letters × Cursor) :=
  match escaped? c.here with
  | some ch => .ok ([Letter.char ch], c.next)
  | none =>
    match escapeLength? c.here with
    | some length =>
      let digits := c.next.rest.take length
      match (if digits.length = length then hexNumber? digits else none) with
      | none => .error .malformed
      | some code => (letterOfCode code).map fun letter => ([letter], c.forward (length + 1))
    | none =>
      if isBreak c.here then
        let c := c.takeBreak.2
        (quotedBreaks (c.rest.length + 1) c).map fun (breaks, c) => (Letters.ofChars breaks, c)
      else .error .malformed

/-- The rest of a scalar in double or single quotes. -/
def quotedFrom (double : Bool) : Nat → Cursor → Except Fault (Letters × Cursor)
  | 0, _ => .error .malformed
  | fuel + 1, c =>
    let goOn (piece : Letters) (c : Cursor) : Except Fault (Letters × Cursor) :=
      (quotedFrom double fuel c).map fun (more, c) => (piece ++ more, c)
    if isBlankOrEnd c.here then
      match quotedGap c with
      | .error fault => .error fault
      | .ok (gap, c) => goOn (Letters.ofChars gap) c
    else if double then
      if c.here = '"' then .ok ([], c.next)
      else if c.here = '\\' then
        match quotedEscape c.next with
        | .error fault => .error fault
        | .ok (letters, c) => goOn letters c
      else goOn [Letter.char c.here] c.next
    else if c.here = '\'' then
      if c.ahead 1 = '\'' then goOn [Letter.char '\''] (c.forward 2) else .ok ([], c.next)
    else goOn [Letter.char c.here] c.next

def quotedScalar (c : Cursor) : Except Fault (Letters × Cursor) :=
  quotedFrom (c.here == '"') (c.rest.length + 1) c.next

/-! ### Block scalars -/

/-- What becomes of the line breaks at the end of a block scalar. -/
inductive Chomping where
  | strip
  | clip
  | keep
deriving DecidableEq

/-- The chomping indicator that is here, if any. -/
def takeChomping (c : Cursor) : Option Chomping × Cursor :=
  if c.here = '+' then (some .keep, c.next)
  else if c.here = '-' then (some .strip, c.next)
  else (none, c)

/-- The indentation indicator that is here, if any; it is not zero. -/
def takeIndentation (c : Cursor) : Except Fault (Option Nat × Cursor) :=
  if Text.isAsciiDigit c.here then
    if c.here = '0' then .error .malformed else .ok (some (c.here.toNat - 48), c.next)
  else .ok (none, c)

/-- The indicators of a block scalar, in either order. -/
def blockHeader (c : Cursor) : Except Fault (Chomping × Option Nat × Cursor) :=
  let (before, c) := takeChomping c
  match takeIndentation c with
  | .error fault => .error fault
  | .ok (indentation, c) =>
    let (after, c) := if before.isNone && indentation.isSome then takeChomping c else (none, c)
    if endsWord c.here then .ok ((before.or after).getD .clip, indentation, c)
    else .error .malformed

/-- The empty lines before the first line of a block scalar, and its indentation. -/
def blockIndentation : Nat → Nat → Cursor → List Char × Nat × Cursor
  | 0, widest, c => ([], widest, c)
  | fuel + 1, widest, c =>
    if c.here = ' ' then blockIndentation fuel (max widest c.next.column) c.next
    else if isBreak c.here then
      let (lineBreak, c) := c.takeBreak
      let (breaks, widest, c) := blockIndentation fuel widest c
      (lineBreak ++ breaks, widest, c)
    else ([], widest, c)

/-- The place after spaces up to a column. -/
def skipToColumn (column : Nat) (c : Cursor) : Cursor :=
  c.forward (min (column - c.column) (c.run (· == ' ')).length)

/-- The empty lines before a line of a block scalar. -/
def blockBreaks (indent : Nat) : Nat → Cursor → List Char × Cursor
  | 0, c => ([], c)
  | fuel + 1, c =>
    let c := skipToColumn indent c
    if isBreak c.here then
      let (lineBreak, c) := c.takeBreak
      let (breaks, c) := blockBreaks indent fuel c
      (lineBreak ++ breaks, c)
    else ([], c)

/-- The lines of a block scalar: their text, the last line break and the empty lines after it. -/
def blockLines (folded : Bool) (indent : Nat) :
    Nat → Cursor → List Char × List Char × List Char × Cursor
  | 0, c => ([], [], [], c)
  | fuel + 1, c =>
    let isIndented := c.here == ' ' || c.here == '\t'
    let text := c.run fun ch => !endsLine ch
    let (lineBreak, c) := (c.forward text.length).takeBreak
    let (breaks, c) := blockBreaks indent (c.rest.length + 1) c
    if c.column = indent ∧ !isEnd c.here then
      let isFolded := folded && lineBreak == ['\n'] && !isIndented && c.here != ' ' && c.here != '\t'
      let joint := if isFolded then (if breaks.isEmpty then [' '] else []) else lineBreak
      let (more, tail) := blockLines folded indent fuel c
      (text ++ joint ++ breaks ++ more, tail)
    else (text, lineBreak, breaks, c)

/-- The block scalar that starts here, inside a block of a given indentation. -/
def blockScalar (folded : Bool) (outer : Nat) (c : Cursor) :
    Except Fault (List Char × Cursor) :=
  match blockHeader c.next with
  | .error fault => .error fault
  | .ok (chomping, indentation, c) =>
    match c.endLine with
    | .error fault => .error fault
    | .ok c =>
      let least := max outer 1
      let (breaks, indent, c) :=
        match indentation with
        | none =>
          let (breaks, widest, c) := blockIndentation (c.rest.length + 1) 0 c
          (breaks, max least widest, c)
        | some n =>
          let indent := least + n - 1
          let (breaks, c) := blockBreaks indent (c.rest.length + 1) c
          (breaks, indent, c)
      let (text, lineBreak, tail, c) :=
        if c.column = indent ∧ !isEnd c.here then
          let (text, rest) := blockLines folded indent (c.rest.length + 1) c
          (breaks ++ text, rest)
        else ([], [], breaks, c)
      match chomping with
      | .strip => .ok (text, c)
      | .clip => .ok (text ++ lineBreak, c)
      | .keep => .ok (text ++ lineBreak ++ tail, c)

end CallTone.Yaml
