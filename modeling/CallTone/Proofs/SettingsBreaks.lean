import CallTone.Command.Run
import CallTone.Proofs.PrintedPaths

/-! Where the reading of settings breaks off. Most that can be wrong with a raw value is
a fault with a place. Three fields are read as paths without the usual care: the
vibration sound, whose home may not be known, and the cached ringtone and the media,
which are taken for paths before it is known that they are texts. Nothing else breaks
the reading off, and the first of these three that does decides. -/
namespace CallTone.SettingsBreaks
open Settings

variable {τ : Type} [DecidableEq τ] [Spelling τ]

/-! Paths under a home -/

/-- What follows a `~` at the start. -/
def afterTilde? : List Letter → Option (List Letter)
  | .char '~' :: name => some name
  | _ => none

/-- The name after the `~` that a relative path starts with. -/
def homeName? (text : Text) : Option (List Letter) :=
  match Path.ofText text with
  | ⟨.none, first :: _⟩ => afterTilde? first.letters
  | _ => none

/-- Letters that the name of a user cannot hold: NUL, and halves that stand for no octet. -/
def isUnnameableLetter : Letter → Bool
  | .char c => c = '\x00'
  | .half place => !Path.isOctet place

/-- Whether a text asks for a home by a name that cannot be looked up. -/
def isUnnameable (text : Text) : Bool :=
  (homeName? text).any fun name => name.any isUnnameableLetter

/-- A home whose place starts with `~` again. -/
def IsNested (home : Text) : Prop := home.letters.head? = some (.char '~')

instance (home : Text) : Decidable (IsNested home) :=
  inferInstanceAs (Decidable (home.letters.head? = some (.char '~')))

/-- Whether a text asks for a home that is not known, or for one that starts with `~` itself. -/
def isHomeless (homes : Path.Homes) (text : Text) : Bool :=
  (homeName? text).any fun name =>
    !name.any isUnnameableLetter && (homes.home? ⟨name⟩).all fun home => decide (IsNested home)

/-! What breaks off -/

/-- What the path of a text breaks off with. -/
def textBreak? (homes : Path.Homes) (text : Text) : Option Failure.Kind :=
  if isHomeless homes text then some .runtime else none

/-- What a raw value that is taken for a path breaks off with. -/
def pathBreak? (homes : Path.Homes) : Value → Option Failure.Kind
  | .str text => textBreak? homes text
  | _ => some .type

/-- What the vibration sound breaks off with, which is read as a text first. -/
def vibrationBreak? (homes : Path.Homes) : Value → Option Failure.Kind
  | .str text => textBreak? homes text
  | .octets os =>
    match Text.Utf8.decode os with
    | .ok text => textBreak? homes (String.ofList text)
    | .error _ => none
  | _ => none

/-- What the cached ringtone breaks off with. -/
def cacheBreak? (homes : Path.Homes) : Value → Option Failure.Kind
  | .null => none
  | raw => pathBreak? homes raw

/-- Whether a raw value is a path under a home that cannot be looked up: a fault that
ends the reading of the media. -/
def isUnnameablePath : Value → Bool
  | .str text => isUnnameable text
  | _ => false

/-- What the paths of the media break off with. -/
def pathsBreak? (homes : Path.Homes) (raws : List Value) : Option Failure.Kind :=
  (raws.takeWhile fun raw => !isUnnameablePath raw).findSome? (pathBreak? homes)

/-- What the media break off with: what counts as nothing stands for none. -/
def mediaBreak? (homes : Path.Homes) : Value → Option Failure.Kind
  | .map entries => pathsBreak? homes (entries.map Prod.snd)
  | raw => if raw.isEmpty then none else some .attribute

/-- The raw value of a field, where there are fields. -/
def field? (name : String) : Value → Option Value
  | .map fields => Value.lookup name fields
  | _ => none

/-- What the reading of settings breaks off with. -/
def firstBreak? (homes : Path.Homes) (raw : Value) : Option Failure.Kind :=
  let device := field? "device" raw
  (((field? "resolver" raw).bind (field? "vibration_sound_path")).bind (vibrationBreak? homes)).or
    (((device.bind (field? "ringtone_cache")).bind (cacheBreak? homes)).or
      ((device.bind (field? "media")).bind (mediaBreak? homes)))

/-! Checked values -/

section
variable {homes : Path.Homes} {kind : Failure.Kind}

end

section
open Command

end

/-! Main result -/

end CallTone.SettingsBreaks
