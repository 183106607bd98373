/-!
Kinds of sound. Each kind has a key in a user's sound settings and a systemwide alias: a reference
that always stands for the current default of that kind.
-/
namespace CallTone

/-- The kinds of sound a user can choose. -/
inductive SoundKind where
  | ringtone
  | notification
  | alarm
deriving DecidableEq, Repr

namespace SoundKind

def all : List SoundKind := [.ringtone, .notification, .alarm]

def name : SoundKind → String
  | .ringtone => "RINGTONE"
  | .notification => "NOTIFICATION"
  | .alarm => "ALARM"

def settingKey : SoundKind → String
  | .ringtone => "ringtone"
  | .notification => "notification_sound"
  | .alarm => "alarm_alert"

/-- What every alias starts with. -/
def aliasStart : String := "content://settings/system/"

def aliasUri (kind : SoundKind) : String := aliasStart ++ kind.settingKey

/-- The kind whose alias a reference is. -/
def ofAlias? (uri : String) : Option SoundKind := all.find? fun kind => kind.aliasUri = uri

def ofName? (text : String) : Option SoundKind := all.find? fun kind => kind.name = text

def settingKeys : List String := all.map settingKey

theorem ofAlias?_aliasUri (kind : SoundKind) : ofAlias? kind.aliasUri = some kind := by
  cases kind <;> decide

end SoundKind
end CallTone
