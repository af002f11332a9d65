import RowTyping.Proofs.Spelling
import RowTyping.Proofs.TomlReading
import RowTyping.Settings.Document
import Mathlib.Data.List.Nodup

namespace RowTyping

open Toml (Quotable WrittenEntry document)

/-! Names stand for themselves between quotes, and they are read back. -/

private theorem TimeUnit.name_quotable (unit : TimeUnit) : Quotable unit.name := by
  cases unit <;> exact ⟨by decide, List.all_eq_true.mp rfl⟩

private theorem Primitive.name_quotable (p : Primitive) : Quotable p.name := by
  cases p with
  | int width | uint width => cases width <;> exact ⟨by decide, List.all_eq_true.mp rfl⟩
  | datetime unit | timedelta unit => cases unit <;> exact ⟨by decide, List.all_eq_true.mp rfl⟩
  | _ => exact ⟨by decide, List.all_eq_true.mp rfl⟩

theorem Primitive.ofName_name (p : Primitive) : ofName p.name = .ok p := by
  have letters : Text.trim p.name.toList = p.name.toList := by
    have trimmed := congrArg String.toList p.trimmed_name
    rwa [Text.trimmed, String.toList_ofList] at trimmed
  rw [ofName, letters]
  exact ofTrimmed_of_spelled p.spelled_name

namespace SettingKey

private theorem name_bare (key : SettingKey) : ∀ c ∈ key.name.toList, Toml.isBareKeyChar c := by
  cases key <;> exact List.all_eq_true.mp rfl

theorem ofName?_name (key : SettingKey) : ofName? key.name = some key := by
  cases key <;> rfl

theorem name_injective : Function.Injective name := by
  intro first second same
  have read := congrArg ofName? same
  rw [ofName?_name, ofName?_name] at read
  exact Option.some.inj read

end SettingKey

namespace Settings

/-! Writing. Each key gives an entry of the document. -/

def entryValue (settings : Settings) : SettingKey → Toml.Value
  | .timeUnits => .array (settings.timeUnits.map fun unit => .string unit.name)
  | .literalInt => .string settings.literalInt.name
  | .literalFloat => .string settings.literalFloat.name
  | .stringOps => .boolean settings.stringOps

private theorem valueText_timeUnits (settings : Settings) :
    settings.valueText .timeUnits =
      Toml.arrayText ((settings.timeUnits.map TimeUnit.name).map Toml.quoted) := by
  rw [List.map_map]
  rfl

private theorem unitNames_quotable (units : List TimeUnit) :
    ∀ word ∈ units.map TimeUnit.name, Quotable word := by
  intro word member
  obtain ⟨unit, _, rfl⟩ := List.mem_map.mp member
  exact unit.name_quotable

theorem value_valueText (settings : Settings) (key : SettingKey) (rest : List Char) :
    Toml.value (Toml.depthLimit - 1) ((settings.valueText key).toList ++ '\n' :: rest) =
      some (settings.entryValue key, '\n' :: rest) := by
  cases key with
  | timeUnits =>
    have read := Toml.value_array 78 (unitNames_quotable settings.timeUnits) ('\n' :: rest)
    rw [← valueText_timeUnits, List.map_map] at read
    exact read
  | literalInt => exact Toml.value_quoted _ settings.literalInt.name_quotable _
  | literalFloat => exact Toml.value_quoted _ settings.literalFloat.name_quotable _
  | stringOps => exact Toml.value_flag 78 settings.stringOps rest

private theorem valueText_starts (settings : Settings) (key : SettingKey) (rest : List Char) :
    Toml.Reader.Stops Toml.isLineBlank ((settings.valueText key).toList ++ rest) := by
  cases key with
  | timeUnits =>
    obtain ⟨inside, layout, _⟩ :=
      Toml.arrayItems_arrayText 0 _ (unitNames_quotable settings.timeUnits) rest
    rw [valueText_timeUnits, layout]
    rfl
  | literalInt | literalFloat =>
    rw [valueText, Toml.quoted_toList]
    rfl
  | stringOps =>
    rw [valueText]
    cases settings.stringOps <;> rfl

def entry (settings : Settings) (key : SettingKey) : WrittenEntry where
  key := key.name
  text := settings.valueText key
  value := settings.entryValue key
  nonempty := by cases key <;> decide
  bare := key.name_bare
  starts := fun _ => settings.valueText_starts key _
  reads := settings.value_valueText key

private theorem renderKeys_eq (settings : Settings) (keys : List SettingKey) :
    settings.renderKeys keys = document (keys.map settings.entry) := by
  rw [renderKeys, document, List.map_map]
  rfl

/-! Reading. Each entry replaces what the settings held for its key. -/

/-- Settings that take the value of one key from others. -/
def adopt (source settings : Settings) : SettingKey → Settings
  | .timeUnits => { settings with timeUnits := source.timeUnits }
  | .literalInt => { settings with literalInt := source.literalInt }
  | .literalFloat => { settings with literalFloat := source.literalFloat }
  | .stringOps => { settings with stringOps := source.stringOps }

private theorem readUnit_name (unit : TimeUnit) : readUnit (.string unit.name) = .ok unit := by
  cases unit <;> rfl

private theorem readUnits_names (units : List TimeUnit) :
    readUnits (.array (units.map fun unit => .string unit.name)) = .ok units := by
  change (units.map fun unit => Toml.Value.string unit.name).mapM readUnit = .ok units
  induction units with
  | nil => rfl
  | cons unit units ih =>
    rw [List.map_cons, List.mapM_cons, readUnit_name, ih]
    rfl

private theorem readPrimitive_name (p : Primitive) : readPrimitive (.string p.name) = .ok p := by
  rw [readPrimitive, p.ofName_name]
  rfl

theorem readEntry_entry (source settings : Settings) (key : SettingKey) :
    settings.readEntry (key.name, source.entryValue key) = .ok (source.adopt settings key) := by
  rw [readEntry, key.ofName?_name]
  cases key with
  | timeUnits =>
    simp only [entryValue, readUnits_names]
    rfl
  | literalInt | literalFloat =>
    simp only [entryValue, readPrimitive_name]
    rfl
  | stringOps => rfl

private theorem foldlM_readEntry (source settings : Settings) (keys : List SettingKey) :
    (keys.map fun key => (key.name, source.entryValue key)).foldlM readEntry settings =
      .ok (keys.foldl source.adopt settings) := by
  induction keys generalizing settings with
  | nil => rfl
  | cons key keys ih =>
    rw [List.map_cons, List.foldlM_cons, readEntry_entry]
    exact ih (source.adopt settings key)

/-- Different keys are read back over the defaults, in any order. -/
theorem ofText_renderKeys (settings : Settings) {keys : List SettingKey} (distinct : keys.Nodup) :
    ofText (settings.renderKeys keys) = (keys.foldl settings.adopt {}).validated := by
  have distinctNames : ((keys.map settings.entry).map WrittenEntry.key).Nodup := by
    rw [List.map_map]
    exact List.Nodup.map SettingKey.name_injective distinct
  have read := Toml.parse?_document distinctNames
  rw [List.map_map] at read
  rw [ofText, renderKeys_eq, read]
  exact congrArg (Except.bind · validated) (foldlM_readEntry settings {} keys)

/-- The settings with the chosen keys, and with defaults for the others. -/
def keeping (settings : Settings) (kept : SettingKey → Bool) : Settings where
  timeUnits := if kept .timeUnits then settings.timeUnits else ({} : Settings).timeUnits
  literalInt := if kept .literalInt then settings.literalInt else ({} : Settings).literalInt
  literalFloat := if kept .literalFloat then settings.literalFloat else ({} : Settings).literalFloat
  stringOps := if kept .stringOps then settings.stringOps else ({} : Settings).stringOps

private theorem foldl_adopt (settings : Settings) (kept : SettingKey → Bool) :
    (SettingKey.all.filter kept).foldl settings.adopt {} = settings.keeping kept := by
  simp only [SettingKey.all, List.filter_cons, List.filter_nil, keeping]
  split <;> split <;> split <;> split <;> rfl

/-- Settings are written so that they can be read back: the text of any choice of their keys is
read as these keys over the defaults, unless the settings with these keys have a fault, which is
then the failure. The whole text of faultless settings gives the settings again. -/
theorem ofText_reads_written (settings : Settings) (kept : SettingKey → Bool) :
    ((settings.keeping kept).fault? = none →
        ofText (settings.renderKeys (SettingKey.all.filter kept)) =
          .ok (settings.keeping kept)) ∧
      (∀ fault, (settings.keeping kept).fault? = some fault →
        ofText (settings.renderKeys (SettingKey.all.filter kept)) = .error (.invalid fault)) ∧
      (settings.fault? = none → ofText settings.render = .ok settings) := by
  have read : ∀ chosen : SettingKey → Bool,
      ofText (settings.renderKeys (SettingKey.all.filter chosen)) =
        (settings.keeping chosen).validated := by
    intro chosen
    have distinct : (SettingKey.all.filter chosen).Nodup := List.Nodup.filter chosen (by decide)
    rw [settings.ofText_renderKeys distinct, foldl_adopt]
  refine ⟨?_, ?_, ?_⟩
  · intro faultless
    rw [read, validated, faultless]
  · intro fault found
    rw [read, validated, found]
  · intro faultless
    have whole := read fun _ => true
    have same : settings.keeping (fun _ => true) = settings := rfl
    rw [same, validated, faultless] at whole
    exact whole

def repeatedUnits : Settings := { timeUnits := [.ms, .s, .ms], literalFloat := .bool }

/-- Repeated units are kept in order, and a fault counts only if its key is written. -/
theorem repeatedUnits_reads_written :
    repeatedUnits.renderKeys [.timeUnits, .stringOps] =
        "time_units = [\n    \"ms\",\n    \"s\",\n    \"ms\",\n]\nstring_udfs = true\n" ∧
      ofText (repeatedUnits.renderKeys [.timeUnits, .stringOps]) =
        .ok { timeUnits := [.ms, .s, .ms] } ∧
      ofText repeatedUnits.render = .error (.invalid (.literalFloatNotFloat .bool)) := by
  have someKeys := ofText_reads_written repeatedUnits fun key =>
    key == .timeUnits || key == .stringOps
  have allKeys := ofText_reads_written repeatedUnits fun _ => true
  exact ⟨by decide +kernel, someKeys.1 rfl, allKeys.2.1 _ rfl⟩

end Settings

end RowTyping
