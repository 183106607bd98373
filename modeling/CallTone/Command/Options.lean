import CallTone.Call
import CallTone.Command.Usage
import CallTone.Text.Numeral

/-!
Options: the words of a command line and what they ask for. An option may be shortened as long as
only one option of its section starts so, and its value may stand in the next word or after an equals
sign. Words after `--` are values whatever they look like.

All words of a section are told apart before any is used, and they are used from left to right; the
first fault ends the reading, as does a request for help.
-/
namespace CallTone.Command

inductive OptionName where
  | help
  | config
  | logLevel
  | ringtone
  | caller
  | user
  | hapticMuted
  | json
deriving DecidableEq, Repr

namespace OptionName

def spellings : OptionName → List String
  | .help => ["-h", "--help"]
  | .config => ["--config"]
  | .logLevel => ["--log-level"]
  | .ringtone => ["--ringtone"]
  | .caller => ["--caller"]
  | .user => ["--user"]
  | .hapticMuted => ["--haptic-muted"]
  | .json => ["--json"]

def takesValue : OptionName → Bool
  | .config | .logLevel | .ringtone | .caller | .user => true
  | .help | .hapticMuted | .json => false

/-- An option as faults name it. -/
def shown (option : OptionName) : String := String.intercalate "/" option.spellings

end OptionName

def Section.options : Section → List OptionName
  | .whole => [.help, .config, .logLevel]
  | .resolve => [.help, .ringtone, .caller, .user, .hapticMuted, .json]
  | .haptic => [.help, .json]
  | .doctor => [.help]

def Section.spellings (part : Section) : List (String × OptionName) :=
  part.options.flatMap fun option => option.spellings.map fun spelling => (spelling, option)

/-- Why a command line is refused. -/
inductive Misuse where
  | ambiguous (word : String) (spellings : List String)
  | missingValue (option : OptionName)
  | unwantedValue (option : OptionName) (value : String)
  | notInteger (option : OptionName) (value : String)
  | notChoice (argument value : String) (choices : List String)
  | missingCommand
  | unrecognized (words : List String)
deriving DecidableEq, Repr

def Misuse.message : Misuse → String
  | .ambiguous word spellings =>
    "ambiguous option: " ++ word ++ " could match " ++ String.intercalate ", " spellings
  | .missingValue option => "argument " ++ option.shown ++ ": expected one argument"
  | .unwantedValue option value =>
    "argument " ++ option.shown ++ ": ignored explicit argument " ++ Text.quoted value
  | .notInteger option value =>
    "argument " ++ option.shown ++ ": invalid int value: " ++ Text.quoted value
  | .notChoice argument value choices =>
    "argument " ++ argument ++ ": invalid choice: " ++ Text.quoted value ++ " (choose from " ++
      String.intercalate ", " (choices.map Text.quoted) ++ ")"
  | .missingCommand => "the following arguments are required: command"
  | .unrecognized words => "unrecognized arguments: " ++ String.intercalate " " words

/-- Why reading a command line ends early. -/
inductive Stop where
  | help (part : Section)
  | misuse (part : Section) (misuse : Misuse)
deriving DecidableEq, Repr

/-- What a word of a command line is. -/
inductive Word where
  /-- A value, or a word that stands for itself. -/
  | plain (text : String)
  /-- The mark after which all words are plain. -/
  | dashes
  /-- An option, which may bring a value of its own. -/
  | option (text : String) (name : OptionName) (isShort : Bool) (value : Option String)
  /-- What looks like an option and is none. -/
  | unknown (text : String)
deriving DecidableEq, Repr

def isNegativeNumber (text : String) : Bool :=
  let isDigit := fun c => (Text.digitValue? c).isSome
  match text.toList with
  | '-' :: cs =>
    let cs := if cs.getLast? = some '\n' then cs.dropLast else cs
    match cs.dropWhile isDigit with
    | [] => !cs.isEmpty
    | '.' :: digits => !digits.isEmpty && digits.all isDigit
    | _ => false
  | _ => false

/-- The text before the first equals sign, and after it when there is one. -/
def splitEquals (text : String) : String × Option String :=
  let cs := text.toList
  match cs.dropWhile (· ≠ '=') with
  | '=' :: value => (String.ofList (cs.takeWhile (· ≠ '=')), some (String.ofList value))
  | _ => (text, none)

def starts (start text : String) : Bool := start.toList.isPrefixOf text.toList

/-- The options that a shortened word may mean: their spelling, and the value that the word brings. -/
def candidates (part : Section) (text : String) : List (String × Word) :=
  if starts "--" text then
    let (start, value) := splitEquals text
    part.spellings.filterMap fun (spelling, option) =>
      if starts start spelling then some (spelling, .option text option false value) else none
  else
    part.spellings.filterMap fun (spelling, option) =>
      if spelling.toList = text.toList.take 2 then
        some (spelling, .option text option true (some (String.ofList (text.toList.drop 2))))
      else if starts text spelling then some (spelling, .option text option false none)
      else none

def isShortSpelling (spelling : String) : Bool := !starts "--" spelling

/-- Tells what a word is, when it does not follow `--`. -/
def classify (part : Section) (text : String) : Except Misuse Word :=
  if !starts "-" text || text = "-" then .ok (.plain text)
  else
    match part.spellings.lookup text with
    | some option => .ok (.option text option (isShortSpelling text) none)
    | none =>
      let (spelling, value) := splitEquals text
      match value, part.spellings.lookup spelling with
      | some value, some option =>
        .ok (.option text option (isShortSpelling spelling) (some value))
      | _, _ =>
        match candidates part text with
        | [(_, word)] => .ok word
        | [] =>
          if isNegativeNumber text || text.toList.contains ' ' then .ok (.plain text)
          else .ok (.unknown text)
        | several => .error (.ambiguous text (several.map Prod.fst))

def classifyAll (part : Section) : List String → Except Misuse (List Word)
  | [] => .ok []
  | text :: rest =>
    if text = "--" then .ok (.dashes :: rest.map .plain)
    else
      match classify part text with
      | .error misuse => .error misuse
      | .ok word => (classifyAll part rest).map (word :: ·)

def Word.text : Word → String
  | .plain text | .option text _ _ _ | .unknown text => text
  | .dashes => "--"

/-- The value of an option. A value that is only `--` is dropped and leaves it blank. -/
inductive Given where
  | text (text : String)
  | blank
deriving DecidableEq, Repr

def Given.ofText (text : String) : Given := if text = "--" then .blank else .text text

inductive GivenUser where
  | id (id : Int)
  | blank
deriving DecidableEq, Repr

/-- What a command line asks for. -/
structure Options where
  config : Option Given := none
  logLevel : Given := .text "WARNING"
  ringtone : Option Given := none
  caller : Option Given := none
  user : Option GivenUser := none
  hapticMuted : Bool := false
  json : Bool := false
deriving DecidableEq, Repr

namespace Options

/-- The options with a value given. -/
def giveValue (options : Options) (option : OptionName) (value : String) :
    Except Misuse Options :=
  let given := Given.ofText value
  match option with
  | .config => .ok { options with config := some given }
  | .logLevel => .ok { options with logLevel := given }
  | .ringtone => .ok { options with ringtone := some given }
  | .caller =>
    match given with
    | .blank => .ok { options with caller := some .blank }
    | .text word =>
      if (CallerClass.ofWord? word).isSome then .ok { options with caller := some given }
      else .error (.notChoice option.shown word (CallerClass.all.map CallerClass.word))
  | .user =>
    match given with
    | .blank => .ok { options with user := some .blank }
    | .text text =>
      match Text.readInteger 10 text.toList with
      | .ok n => .ok { options with user := some (.id n) }
      | .error _ => .error (.notInteger option text)
  | .help | .hapticMuted | .json => .ok options

def setSwitch (options : Options) : OptionName → Options
  | .hapticMuted => { options with hapticMuted := true }
  | .json => { options with json := true }
  | _ => options

end Options

/-- What the letters after a short switch ask for; all of them have to be that switch again. -/
def checkLetters (option : OptionName) : List Char → Except Misuse Unit
  | [] => .ok ()
  | letter :: rest =>
    if option.spellings.contains (String.ofList ['-', letter]) then checkLetters option rest
    else .error (.unwantedValue option (String.ofList (letter :: rest)))

/-- Uses a switch, which takes no value. -/
def useSwitch (part : Section) (options : Options) (option : OptionName) (isShort : Bool)
    (value : Option String) : Except Stop Options :=
  let checked : Except Misuse Unit :=
    match value with
    | none => .ok ()
    | some value =>
      if isShort && value ≠ "" then checkLetters option value.toList
      else .error (.unwantedValue option value)
  match checked with
  | .error misuse => .error (.misuse part misuse)
  | .ok () => if option = .help then .error (.help part) else .ok (options.setSwitch option)

/-- What using the words of a section comes to: the options, the words that nothing took, and where
the first plain word was met, if reading ends there. -/
structure Used where
  options : Options
  extras : List String
  /-- The words from the first plain one on. -/
  command : Option (List String)

/-- Uses the words of a section from left to right. The whole hands over to a command at the first
plain word; a command leaves plain words alone. -/
def useWords (part : Section) (options : Options) : List Word → Except Stop Used
  | [] => .ok ⟨options, [], none⟩
  | .option _ option isShort value :: rest =>
    if option.takesValue then
      match value, rest with
      | some value, rest =>
        match options.giveValue option value with
        | .error misuse => .error (.misuse part misuse)
        | .ok options => useWords part options rest
      | none, .plain value :: rest =>
        match options.giveValue option value with
        | .error misuse => .error (.misuse part misuse)
        | .ok options => useWords part options rest
      | none, _ => .error (.misuse part (.missingValue option))
    else
      match useSwitch part options option isShort value with
      | .error stop => .error stop
      | .ok options => useWords part options rest
  | .unknown text :: rest =>
    (useWords part options rest).map fun used => { used with extras := text :: used.extras }
  | .dashes :: rest =>
    if part = .whole ∧ rest ≠ [] then .ok ⟨options, [], some ("--" :: rest.map Word.text)⟩
    else (useWords part options rest).map fun used => { used with extras := "--" :: used.extras }
  | .plain text :: rest =>
    if part = .whole then .ok ⟨options, [], some (text :: rest.map Word.text)⟩
    else (useWords part options rest).map fun used => { used with extras := text :: used.extras }

def readSection (part : Section) (options : Options) (words : List String) : Except Stop Used :=
  match classifyAll part words with
  | .error misuse => .error (.misuse part misuse)
  | .ok words => useWords part options words

/-- Refuses words that nothing took. -/
def checkExtras (extras : List String) : Except Stop Unit :=
  if extras = [] then .ok () else .error (.misuse .whole (.unrecognized extras))

/-- What a command line asks for: the command and its options. -/
def readOptions (words : List String) : Except Stop (Section × Options) :=
  match readSection .whole {} words with
  | .error stop => .error stop
  | .ok ⟨_, _, none⟩ => .error (.misuse .whole .missingCommand)
  | .ok ⟨_, _, some []⟩ => .error (.misuse .whole .missingCommand)
  | .ok ⟨options, extras, some (word :: rest)⟩ =>
    match Section.ofWord? word with
    | none =>
      .error (.misuse .whole (.notChoice "command" word (Section.commands.map Section.word)))
    | some command =>
      match readSection command options rest with
      | .error stop => .error stop
      | .ok used => (checkExtras (extras ++ used.extras)).map fun _ => (command, used.options)

end CallTone.Command
