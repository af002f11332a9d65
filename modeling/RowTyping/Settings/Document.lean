import RowTyping.Settings.Basic
import RowTyping.Toml.Document
import RowTyping.Toml.Printer

namespace RowTyping

inductive SettingKey where
  | timeUnits
  | literalInt
  | literalFloat
  | stringOps
deriving DecidableEq, Repr

namespace SettingKey

/-- Every key, in the order in which settings are written. -/
def all : List SettingKey := [.timeUnits, .literalInt, .literalFloat, .stringOps]

def name : SettingKey → String
  | .timeUnits => "time_units"
  | .literalInt => "literal_int"
  | .literalFloat => "literal_float"
  | .stringOps => "string_udfs"

def ofName? (text : String) : Option SettingKey := all.find? (·.name = text)

end SettingKey

inductive FileFault where
  | missing
  | isDirectory
  | notUtf8
  | unreadable (reason : String)
deriving DecidableEq, Repr

def FileFault.message : FileFault → String
  | .missing => "No such file or directory (os error 2)"
  | .isDirectory => "Is a directory (os error 21)"
  | .notUtf8 => "stream did not contain valid UTF-8"
  | .unreadable reason => reason

/-- Why no settings come out of a file or text. -/
inductive SettingsError where
  | file (fault : FileFault)
  /-- The text is not TOML, or a value is of the wrong sort. -/
  | malformed
  | unknownTimeUnit (name : String)
  | unknownPrimitive (failure : TypeError)
  | invalid (fault : SettingsFault)
deriving DecidableEq, Repr

/-- The text shown for what is wrong with a value of the settings, if it has one. -/
def SettingsError.detail? : SettingsError → Option String
  | .unknownTimeUnit name =>
    some s!"unknown variant `{name}`, expected one of `s`, `ms`, `us`, `ns`"
  | .unknownPrimitive failure => some failure.message
  | .file fault => some fault.message
  | .invalid fault => some fault.message
  | .malformed => none

def SettingsError.message (failure : SettingsError) : String :=
  let heading := match failure with
    | .file _ => "Failed to read config file"
    | .invalid _ => "Invalid config"
    | .malformed | .unknownTimeUnit _ | .unknownPrimitive _ => "Failed to parse config"
  match failure.detail? with
  | some detail => heading ++ ": " ++ detail
  | none => heading

namespace Settings

/-- Whether a value stands for no content: an empty table or array. -/
def isEmptyContent : Toml.Value → Bool
  | .table _ [] | .array [] | .tables [] => true
  | _ => false

def unitNamed (name : String) : Except SettingsError TimeUnit :=
  match TimeUnit.ofName? name with
  | some unit => .ok unit
  | none => .error (.unknownTimeUnit name)

/-- A time unit is written as its name, or as a table with its name as only key and nothing
under it. -/
def readUnit : Toml.Value → Except SettingsError TimeUnit
  | .string name => unitNamed name
  | .table _ [(name, content)] => do
    let unit ← unitNamed name
    if isEmptyContent content then .ok unit else .error .malformed
  | _ => .error .malformed

/-- Time units are an array, or an array of tables. -/
def readUnits : Toml.Value → Except SettingsError (List TimeUnit)
  | .array items => items.mapM readUnit
  | .tables rows => rows.mapM fun row => readUnit (.table .defined row)
  | _ => .error .malformed

def readPrimitive : Toml.Value → Except SettingsError Primitive
  | .string name => (Primitive.ofName name).mapError .unknownPrimitive
  | _ => .error .malformed

def readFlag : Toml.Value → Except SettingsError Bool
  | .boolean flag => .ok flag
  | _ => .error .malformed

def readEntry (settings : Settings) (entry : String × Toml.Value) : Except SettingsError Settings :=
  match SettingKey.ofName? entry.1 with
  | some .timeUnits => (readUnits entry.2).map fun units => { settings with timeUnits := units }
  | some .literalInt => (readPrimitive entry.2).map fun type => { settings with literalInt := type }
  | some .literalFloat =>
    (readPrimitive entry.2).map fun type => { settings with literalFloat := type }
  | some .stringOps => (readFlag entry.2).map fun flag => { settings with stringOps := flag }
  | none => .ok settings

/-- The settings of a document, whether or not they are valid. -/
def ofEntries (entries : Toml.Entries) : Except SettingsError Settings :=
  entries.foldlM readEntry {}

/-- Settings without a fault. -/
def validated (settings : Settings) : Except SettingsError Settings :=
  match settings.fault? with
  | some fault => .error (.invalid fault)
  | none => .ok settings

def ofText (text : String) : Except SettingsError Settings :=
  match Toml.parse? text with
  | some entries => (ofEntries entries).bind validated
  | none => .error .malformed

def valueText (settings : Settings) : SettingKey → String
  | .timeUnits => Toml.arrayText (settings.timeUnits.map fun unit => Toml.quoted unit.name)
  | .literalInt => Toml.quoted settings.literalInt.name
  | .literalFloat => Toml.quoted settings.literalFloat.name
  | .stringOps => Toml.flagText settings.stringOps

def renderKeys (settings : Settings) (keys : List SettingKey) : String :=
  String.join (keys.map fun key => Toml.entryText key.name (settings.valueText key))

def render (settings : Settings) : String := settings.renderKeys SettingKey.all

end Settings

inductive FileState where
  | missing
  | directory
  | contents (bytes : ByteArray)
  | unreadable (reason : String)

namespace Settings

def ofFile : FileState → Except SettingsError Settings
  | .missing => .error (.file .missing)
  | .directory => .error (.file .isDirectory)
  | .contents bytes =>
    match String.fromUTF8? bytes with
    | some text => ofText text
    | none => .error (.file .notUtf8)
  | .unreadable reason => .error (.file (.unreadable reason))

/-- The settings of a file, or the default settings if nothing is there. -/
def ofFileOrDefault : FileState → Except SettingsError Settings
  | .missing => .ok {}
  | file => ofFile file

end Settings

end RowTyping
