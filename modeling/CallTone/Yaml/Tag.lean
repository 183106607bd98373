import CallTone.Text.Utf8
import CallTone.Yaml.Scalar

/-!
Tags: what a node of a document is said to be. A tag is written with a handle, which stands for the
start of its name, or in full. Directives at the head of a document give handles their meaning.
-/
namespace CallTone.Yaml

structure WrittenTag where
  /-- The handle; none when the tag is written in full. -/
  handle : Option (List Char)
  suffix : List Char
deriving DecidableEq

inductive Tag where
  | null
  | bool
  | int
  | float
  | binary
  | timestamp
  | omap
  | pairs
  | set
  | str
  | seq
  | map
  | merge
  | value
  /-- A tag that says nothing known here. -/
  | unknown
deriving DecidableEq, Repr

namespace Tag

/-- What the names of the known tags start with. -/
def knownStart : String := "tag:yaml.org,2002:"

/-- The known tags and the ends of their names. -/
def known : List (String × Tag) :=
  [("null", .null), ("bool", .bool), ("int", .int), ("float", .float), ("binary", .binary),
    ("timestamp", .timestamp), ("omap", .omap), ("pairs", .pairs), ("set", .set), ("str", .str),
    ("seq", .seq), ("map", .map), ("merge", .merge), ("value", .value)]

/-- The tag with a full name. -/
def ofName (name : String) : Tag :=
  match known.find? fun entry => knownStart ++ entry.1 = name with
  | some entry => entry.2
  | none => .unknown

end Tag

/-- Handles and what they stand for. -/
abbrev Handles := List (List Char × List Char)

def Handles.standard : Handles := [(['!'], ['!']), (['!', '!'], Tag.knownStart.toList)]

/-- A tag handle: one or two exclamation marks, with a word between them. -/
def takeHandle (c : Cursor) : Except Fault (List Char × Cursor) :=
  if c.here ≠ '!' then .error .malformed
  else if c.ahead 1 = ' ' then .ok (['!'], c.next)
  else
    let word := c.next.run isWordChar
    let after := c.forward (word.length + 1)
    if after.here = '!' then .ok ('!' :: word ++ ['!'], after.next) else .error .malformed

def isTagChar (c : Char) : Bool :=
  isWordChar c ||
    [';', '/', '?', ':', '@', '&', '=', '+', '$', ',', '.', '!', '~', '*', '\'', '(', ')', '[',
      ']'].contains c

/-- The octets of percent escapes. -/
def escapedOctets : List Char → Option (List Nat × List Char)
  | '%' :: a :: b :: rest =>
    match Text.hexValue? a, Text.hexValue? b, escapedOctets rest with
    | some x, some y, some (octets, rest) => some ((16 * x + y) :: octets, rest)
    | _, _, _ => none
  | '%' :: _ => none
  | cs => some ([], cs)

def tagName : Nat → Cursor → Except Fault (List Char × Cursor)
  | 0, c => .ok ([], c)
  | fuel + 1, c =>
    if c.here = '%' then
      match escapedOctets c.rest with
      | none => .error .malformed
      | some (octets, _) =>
        match Text.Utf8.decode octets with
        | .error _ => .error .malformed
        | .ok text =>
          (tagName fuel (c.forward (3 * octets.length))).map fun (more, c) => (text ++ more, c)
    else
      let run := c.run isTagChar
      if run.isEmpty then .ok ([], c)
      else
        (tagName fuel (c.forward run.length)).map fun (more, c) => (run ++ more, c)

/-- The name of a tag, which is not empty. -/
def takeTagName (c : Cursor) : Except Fault (List Char × Cursor) :=
  match tagName (c.rest.length + 1) c with
  | .error fault => .error fault
  | .ok ([], _) => .error .malformed
  | .ok named => .ok named

/-- Whether another exclamation mark comes before the next blank, so that a handle is written. -/
def hasHandle : List Char → Bool
  | [] => false
  | c :: rest => if endsWord c then false else if c = '!' then true else hasHandle rest

/-- The tag that starts here, without a check of what follows. -/
def writtenTag (c : Cursor) : Except Fault (WrittenTag × Cursor) :=
  if c.ahead 1 = '<' then
    match takeTagName (c.forward 2) with
    | .error fault => .error fault
    | .ok (suffix, c) => if c.here = '>' then .ok (⟨none, suffix⟩, c.next) else .error .malformed
  else if isBlankOrEnd (c.ahead 1) then .ok (⟨none, ['!']⟩, c.next)
  else
    match (if hasHandle c.next.rest then takeHandle c else .ok (['!'], c.next)) with
    | .error fault => .error fault
    | .ok (handle, c) => (takeTagName c).map fun (suffix, c) => (⟨some handle, suffix⟩, c)

def takeTag (c : Cursor) : Except Fault (WrittenTag × Cursor) :=
  match writtenTag c with
  | .error fault => .error fault
  | .ok (tag, c) => if endsWord c.here then .ok (tag, c) else .error .malformed

inductive Directive where
  | version (major : Nat)
  | handle (name meaning : List Char)
  /-- A directive that changes nothing. -/
  | other
deriving DecidableEq

/-- A number in a directive. -/
def takeNumber (c : Cursor) : Except Fault (Nat × Cursor) :=
  match c.run Text.isAsciiDigit with
  | [] => .error .malformed
  | digits => .ok (digits.foldl (fun n d => 10 * n + (d.toNat - 48)) 0, c.forward digits.length)

def versionDirective (c : Cursor) : Except Fault (Directive × Cursor) :=
  match takeNumber c.skipSpaces with
  | .error fault => .error fault
  | .ok (major, c) =>
    if c.here ≠ '.' then .error .malformed
    else
      match takeNumber c.next with
      | .error fault => .error fault
      | .ok (_, c) => if endsWord c.here then .ok (.version major, c) else .error .malformed

def handleDirective (c : Cursor) : Except Fault (Directive × Cursor) :=
  match takeHandle c.skipSpaces with
  | .error fault => .error fault
  | .ok (name, c) =>
    if c.here ≠ ' ' then .error .malformed
    else
      match takeTagName c.skipSpaces with
      | .error fault => .error fault
      | .ok (meaning, c) =>
        if endsWord c.here then .ok (.handle name meaning, c) else .error .malformed

/-- The directive that starts here, with the rest of its line. -/
def takeDirective (c : Cursor) : Except Fault (Directive × Cursor) :=
  let name := c.next.run isWordChar
  let c := c.forward (name.length + 1)
  if name.isEmpty || !endsWord c.here then .error .malformed
  else
    let read :=
      if name = "YAML".toList then versionDirective c
      else if name = "TAG".toList then handleDirective c
      else .ok (.other, c.skip fun ch => !endsLine ch)
    match read with
    | .error fault => .error fault
    | .ok (directive, c) => c.endLine.map fun c => (directive, c)

end CallTone.Yaml
