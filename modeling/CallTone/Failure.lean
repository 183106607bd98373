/-!
Failures: what a part that the resolver relies on may answer instead of a value. A failure has a
kind, by which callers decide whether they absorb it, and a message. Each module states its own
causes and their words; here is only what they have in common.
-/
namespace CallTone

inductive Failure.Kind where
  /-- Blocking work was tried on the dispatch thread. -/
  | wrongThread
  /-- A package is not there for a user. -/
  | packageNotFound
  /-- A sound reference leads to nothing that can be played. -/
  | soundLoad
  /-- The device description does not fit the question. -/
  | config
  /-- An audio file cannot be decoded. -/
  | decoding
  /-- The operating system refuses an operation. -/
  | system
  | fileNotFound
  | isADirectory
  | notADirectory
  /-- Octets are not a text. -/
  | unicodeDecoding
  /-- A text has letters that are no characters. -/
  | unicodeEncoding
  | value
  | type
  | attribute
  | runtime
  | missingKey
  | index
  | overflow
  /-- A kind that nothing here tells apart from others. -/
  | other (name : String)
deriving DecidableEq, Repr

/-- A failure and its message. -/
structure Failure where
  kind : Failure.Kind
  message : String
deriving DecidableEq, Repr

namespace Failure

def Kind.label : Kind → String
  | .wrongThread => "WrongThreadError"
  | .packageNotFound => "PackageNotFoundError"
  | .soundLoad => "SoundLoadError"
  | .config => "ConfigError"
  | .decoding => "MutagenError"
  | .system => "OSError"
  | .fileNotFound => "FileNotFoundError"
  | .isADirectory => "IsADirectoryError"
  | .notADirectory => "NotADirectoryError"
  | .unicodeDecoding => "UnicodeDecodeError"
  | .unicodeEncoding => "UnicodeEncodeError"
  | .value => "ValueError"
  | .type => "TypeError"
  | .attribute => "AttributeError"
  | .runtime => "RuntimeError"
  | .missingKey => "KeyError"
  | .index => "IndexError"
  | .overflow => "OverflowError"
  | .other name => name

/-- The kinds that have a constructor of their own. -/
def Kind.named : List Kind :=
  [.wrongThread, .packageNotFound, .soundLoad, .config, .decoding, .system, .fileNotFound,
    .isADirectory, .notADirectory, .unicodeDecoding, .unicodeEncoding, .value, .type, .attribute,
    .runtime, .missingKey, .index, .overflow]

def Kind.ofLabel (label : String) : Kind :=
  (named.find? fun kind => kind.label = label).getD (.other label)

/-- The kinds that the ringtone parts themselves raise. -/
def Kind.isRingtoneKind : Kind → Bool
  | .wrongThread | .packageNotFound | .soundLoad | .config => true
  | _ => false

/-- The kinds that the operating system raises. -/
def Kind.isSystemKind : Kind → Bool
  | .system | .fileNotFound | .isADirectory | .notADirectory => true
  | _ => false

def report (failure : Failure) : String := failure.kind.label ++ ": " ++ failure.message

end Failure
end CallTone
