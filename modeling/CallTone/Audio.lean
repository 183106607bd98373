import CallTone.Binary64.Decimal
import CallTone.Failure

/-!
How a ringtone is played: its audio attributes, and the volume curve applied while it starts. A curve
has points in time, from the start at 0 to the end at 1 and each later than the one before, and a
volume between 0 and 1 at each point. The checks run in a fixed order and the first one that fails
names the fault.
-/
namespace CallTone

/-- What a sound is played for. -/
inductive AudioUsage where
  | media
  | alarm
  | notification
  | notificationRingtone
deriving DecidableEq, Repr

/-- What a sound consists of. -/
inductive ContentType where
  | music
  | speech
  | sonification
deriving DecidableEq, Repr

def AudioUsage.word : AudioUsage → String
  | .media => "media"
  | .alarm => "alarm"
  | .notification => "notification"
  | .notificationRingtone => "notification_ringtone"

def ContentType.word : ContentType → String
  | .music => "music"
  | .speech => "speech"
  | .sonification => "sonification"

/-- The attributes that a player is given with a sound. -/
structure AudioAttributes where
  usage : AudioUsage
  contentType : ContentType
  hapticChannelsMuted : Bool
deriving DecidableEq, Repr

def AudioAttributes.ringtone (hapticChannelsMuted : Bool) : AudioAttributes :=
  ⟨.notificationRingtone, .sonification, hapticChannelsMuted⟩

/-- A volume curve: its duration in milliseconds, and the times and volumes of its points. -/
structure VolumeShaper where
  durationMs : Int
  times : List Binary64
  volumes : List Binary64
deriving DecidableEq

namespace VolumeShaper

/-- Why numbers do not make a curve. -/
inductive Fault where
  | duration
  | lengths
  | ends
  | order
  | volume (value : Binary64)
deriving DecidableEq

def Fault.message : Fault → String
  | .duration => "duration_ms must be positive"
  | .lengths => "times and volumes must be non-empty and the same length"
  | .ends => "times must start at 0.0 and end at 1.0"
  | .order => "times must be strictly increasing"
  | .volume value => "volume " ++ value.text ++ " outside [0, 1]"

def Fault.failure (fault : Fault) : Failure := ⟨.value, fault.message⟩

/-- Whether some time is at or before the one that precedes it. -/
def stepsBack : List Binary64 → Bool
  | previous :: current :: rest => decide (current ≤ previous) || stepsBack (current :: rest)
  | _ => false

def isGain (value : Binary64) : Bool := decide (Binary64.zero ≤ value) && decide (value ≤ Binary64.one)

def spansUnit (times : List Binary64) : Bool :=
  match times.head?, times.getLast? with
  | some first, some last => first.equals Binary64.zero && last.equals Binary64.one
  | _, _ => false

/-- The curve through the given points, or the first fault. -/
def make (durationMs : Int) (times volumes : List Binary64) : Except Fault VolumeShaper :=
  if durationMs ≤ 0 then .error .duration
  else if times.isEmpty || times.length ≠ volumes.length then .error .lengths
  else if !spansUnit times then .error .ends
  else if stepsBack times then .error .order
  else
    match volumes.find? fun value => !isGain value with
    | some value => .error (.volume value)
    | none => .ok ⟨durationMs, times, volumes⟩

/-- The curve that rises from silence to full volume. -/
def ramp (durationMs : Int) : Except Fault VolumeShaper :=
  make durationMs [Binary64.zero, Binary64.one] [Binary64.zero, Binary64.one]

end VolumeShaper
end CallTone
