import CallTone.Binary64
import CallTone.Settings.Checked
import CallTone.Table
import CallTone.Text.Capital
import CallTone.Text.Utf8
import CallTone.Text.Whole
import CallTone.Value

/-!
Reading the parts of a raw value: texts, whole numbers, truth values, lists, maps and named fields.
Reading is lenient where a value can only mean one thing: a whole number may be written as a text or
with a fraction of zero, a truth value as 0 or 1 or as a word. Texts are read into a type of texts;
one that has no place in it is a fault, so that among texts in general every text is taken as it is.
-/
namespace CallTone.Settings

section
variable {τ : Type} [Spelling τ]

/-- A text as one of the type asked for. -/
def spellText (text : Text) : Checked τ :=
  match Spelling.ofText? text with
  | some written => .valid written
  | none => .fault .brokenText

/-- A text; octets stand for the text that they encode. -/
def readText : Value → Checked τ
  | .str text => spellText text
  | .octets os =>
    match Text.Utf8.decode os with
    | .ok cs => .valid (Spelling.ofString (String.ofList cs))
    | .error _ => .fault .brokenText
  | _ => .fault .notText

end

def readWholeText (cs : List Char) : Checked Int :=
  match Text.Whole.read cs with
  | .ok n => .valid n
  | .error .malformed => .fault .wholeUnreadable
  | .error .tooLong => .fault .wholeTooLong

/-- What a whole number of 64 bits stays below. -/
def wholeBound : Int := Int.ofNat (1 <<< 63)

/-- The whole number that a real one is, when it lies within 64 bits. -/
def wholeOfReal? (x : Binary64) : Option Int :=
  match x.toInt? with
  | some n => if -wholeBound < n ∧ n < wholeBound then some n else none
  | none => none

def readWhole : Value → Checked Int
  | .int n => .valid n
  | .bool b => .valid (if b then 1 else 0)
  | .str text =>
    match text.string? with
    | some s => readWholeText s.toList
    | none => .fault .brokenText
  | .octets os =>
    match Text.Utf8.decode os with
    | .ok cs => readWholeText cs
    | .error _ => .fault .wholeUnreadable
  | .real x =>
    if !x.isFinite then .fault .notFinite
    else
      match wholeOfReal? x with
      | some n => .valid n
      | none => .fault .wholeFromReal
  | _ => .fault .notWhole

def truthWords : List (String × Bool) :=
  [("0", false), ("off", false), ("f", false), ("false", false), ("n", false), ("no", false),
    ("1", true), ("on", true), ("t", true), ("true", true), ("y", true), ("yes", true)]

/-- The truth value that a word denotes, in small or capital letters. -/
def readTruthText (cs : List Char) : Checked Bool :=
  match truthWords.lookup (Text.smallLetters (String.ofList cs)) with
  | some b => .valid b
  | none => .fault .truthUnreadable

def truthOfWhole (n : Int) : Checked Bool :=
  if n = 0 then .valid false else if n = 1 then .valid true else .fault .truthUnreadable

def readTruth : Value → Checked Bool
  | .bool b => .valid b
  | .int n => truthOfWhole n
  | .str text =>
    match text.string? with
    | some s => readTruthText s.toList
    | none => .fault .brokenText
  | .octets os =>
    match Text.Utf8.decode os with
    | .ok cs => readTruthText cs
    | .error _ => .fault .truthUnreadable
  | .real x =>
    match wholeOfReal? x with
    | some n => truthOfWhole n
    | none => .fault .notTruth
  | _ => .fault .notTruth

/-- A value that may also be null. -/
def readOptional {α : Type} (read : Value → Checked α) : Value → Checked (Option α)
  | .null => .valid none
  | value => (read value).map some

/-- A list of values of one sort; a set or a pair counts as the list of its members. -/
def readList {α : Type} (read : Value → Checked α) : Value → Checked (List α)
  | .list items | .set items => Checked.allFrom read 0 items
  | .pair first second => Checked.allFrom read 0 [first, second]
  | _ => .fault .notList

/-- The step to the entry of a key. -/
def stepOf : Value → Step
  | .str text => .name text.told
  | .bool b => .index (if b then 1 else 0)
  | .int n => if -wholeBound ≤ n ∧ n < wholeBound then .index n else .name (toString n)
  | key => .name key.shown

section
variable {τ : Type} [Spelling τ]

/-- An entry of a map: its key, then its value. -/
def readEntry {α : Type} (read : Value → Checked α) (entry : Value × Value) : Checked (τ × α) :=
  Checked.both (((readText entry.1).under .key).under (stepOf entry.1))
    ((read entry.2).under (stepOf entry.1))

/-- A map from texts to values of one sort. -/
def readMap {α : Type} [DecidableEq τ] (read : Value → Checked α) : Value → Checked (Table τ α)
  | .map entries => (Checked.all (readEntry read) entries).map Table.ofPairs
  | _ => .fault .notMap

end

def readSection : Value → Checked (List (Value × Value))
  | .map entries => .valid entries
  | _ => .fault .notSection

/-- A field that need not be given. -/
def readField {α : Type} (fields : List (Value × Value)) (name : String) (absent : α)
    (read : Value → Checked α) : Checked α :=
  match Value.lookup name fields with
  | none => .valid absent
  | some value => (read value).under (.name name)

/-- A field that has to be given. -/
def readRequired {α : Type} (fields : List (Value × Value)) (name : String)
    (read : Value → Checked α) : Checked α :=
  match Value.lookup name fields with
  | none => .invalid [⟨[.name name], .missing⟩]
  | some value => (read value).under (.name name)

end CallTone.Settings
