import CallTone.App
import CallTone.Json.Writer

/-!
Descriptions: what is shown of a selection. A selection that can be played is shown with its file,
length, volume and haptics; one that cannot only with its reference. A description is written as
lines for people or as JSON for programs.
-/
namespace CallTone

/-- What is shown of a handle. -/
structure HandleView where
  path : Option String
  seconds : Option Binary64
  volume : Binary64
  hapticChannelsMuted : Bool
deriving DecidableEq

/-- What is shown of a selection. -/
inductive Description where
  | nothing
  | silent (uri : String)
  | playable (uri : String) (handle : HandleView)
deriving DecidableEq

/-- What is shown of a loaded sound. Its path is always shown, since no path is written as nothing. -/
def LoadedRingtone.view (ringtone : LoadedRingtone) : HandleView :=
  ⟨some ringtone.path.toString, ringtone.seconds, ringtone.volume,
    ringtone.attributes.hapticChannelsMuted⟩

namespace Description

/-- The description of a selection, whose handle is shown in a given way. -/
def ofSelection {Handle : Type} (view : Handle → HandleView) :
    Option (Selection Handle) → Description
  | none => .nothing
  | some selection =>
    match selection.handle with
    | none => .silent selection.uri
    | some handle => .playable selection.uri (view handle)

def toJson : Description → Json
  | .nothing => .obj [("uri", .null), ("playable", .bool false)]
  | .silent uri => .obj [("uri", .str uri), ("playable", .bool false)]
  | .playable uri handle => .obj [
      ("uri", .str uri),
      ("playable", .bool true),
      ("path", Json.ofOption .str handle.path),
      ("duration_seconds", Json.ofOption .real handle.seconds),
      ("volume", .real handle.volume),
      ("haptic_channels_muted", .bool handle.hapticChannelsMuted)]

def truthText (b : Bool) : String := if b then "True" else "False"

def lines : Description → List String
  | .nothing => ["No ringtone available"]
  | .silent uri => ["Ringtone: " ++ uri, "  (not playable)"]
  | .playable uri handle =>
    ["Ringtone: " ++ uri, "  file: " ++ handle.path.getD "None"] ++
      (match handle.seconds with
        | none => []
        | some seconds => ["  duration: " ++ seconds.textTwoPlaces ++ "s"]) ++
      ["  volume: " ++ handle.volume.textTwoPlaces,
        "  haptics muted: " ++ truthText handle.hapticChannelsMuted]

/-- The description written for people or for programs. -/
def render (description : Description) (json : Bool) : String :=
  if json then description.toJson.indented else String.intercalate "\n" description.lines

end Description

namespace App

/-- Resolves the ringtone of a call on a worker thread and writes what was found. -/
def resolveText (app : App) (ringtone caller : Option String) (user : Option Int)
    (hapticChannelsMuted json : Bool) : Answer String :=
  match IncomingCall.describe ringtone caller user with
  | .error failure => ⟨.error failure, []⟩
  | .ok call =>
    (app.getRingtone worker (app.withUser call) hapticChannelsMuted).map fun selection =>
      (Description.ofSelection LoadedRingtone.view selection).render json

/-- Resolves the sound of a silent ring on a worker thread and writes what was found. -/
def hapticText (app : App) (json : Bool) : Answer String :=
  (app.getHapticOnly worker).map fun selection =>
    (Description.ofSelection LoadedRingtone.view (some selection)).render json

end App
end CallTone
