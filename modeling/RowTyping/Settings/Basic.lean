import RowTyping.Primitive

namespace RowTyping

structure Settings where
  /-- Units at which temporal values may be masked. -/
  timeUnits : List TimeUnit := TimeUnit.all
  literalInt : Primitive := .int .w64
  literalFloat : Primitive := .float64
  /-- Whether string operations on masked strings are typed. -/
  stringOps : Bool := true
deriving DecidableEq, Repr

/-- Why settings are refused although each value is well formed. -/
inductive SettingsFault where
  | noTimeUnits
  | literalIntNotInteger (found : Primitive)
  | literalFloatNotFloat (found : Primitive)
deriving DecidableEq, Repr

def SettingsFault.message : SettingsFault → String
  | .noTimeUnits => "time_units cannot be empty"
  | .literalIntNotInteger found => "literal_int must be an integer type, got " ++ found.name
  | .literalFloatNotFloat found => "literal_float must be a float type, got " ++ found.name

namespace Settings

def accepts (settings : Settings) (unit : TimeUnit) : Bool := settings.timeUnits.contains unit

/-- The first fault of the settings, looking at units, integer literals, float literals. -/
def fault? (settings : Settings) : Option SettingsFault :=
  if settings.timeUnits.isEmpty then some .noTimeUnits
  else if !settings.literalInt.isInteger then some (.literalIntNotInteger settings.literalInt)
  else if !settings.literalFloat.isFloat then some (.literalFloatNotFloat settings.literalFloat)
  else none

end Settings

end RowTyping
