import CommandHost.Text.Blank
import CommandHost.Value.Basic

/-!
# Settings of the command reader

Two texts can be chosen: the selector, which marks an object target, and the
sentinel, which stands for a blank inside quotes. `setSelector` and
`setSentinel` change one of them or refuse the value. `assign` does this to the
settings of a reader in use, and `ofConfig` is how a reader gets its first ones.
-/

namespace CommandHost

/-- The settings of the command reader. -/
structure ReaderSettings where
  selector : String
  sentinel : String
  deriving DecidableEq, Repr

/-- The settings that hold unless others are chosen. -/
def ReaderSettings.standard : ReaderSettings := ⟨"#", "_%20_"⟩

instance : Inhabited ReaderSettings := ⟨.standard⟩

/-- The settings of the command reader, by name. -/
inductive ReaderSetting where
  | selector
  | sentinel
  deriving DecidableEq, Repr, Inhabited

/-- Why a value is refused as a setting. -/
inductive SettingFault where
  | selectorNoText
  | selectorEmpty
  | sentinelNoText
  | sentinelUnfit
  deriving DecidableEq, Repr

/-- The text of a refusal. -/
def SettingFault.message : SettingFault → String
  | selectorNoText => "Object selector must be a string."
  | selectorEmpty => "Object selector must not be empty."
  | sentinelNoText => "Space sentinel must be a string."
  | sentinelUnfit => "Space sentinel must be non-empty and contain no whitespace."

/-- The class of a refusal: a value of the wrong kind, or a text that is unfit. -/
def SettingFault.className : SettingFault → String
  | selectorNoText | sentinelNoText => "TypeError"
  | selectorEmpty | sentinelUnfit => "ValueError"

namespace ReaderSettings

/-- Chooses the selector. -/
def setSelector (settings : ReaderSettings) (value : Value) : Except SettingFault ReaderSettings :=
  match value with
  | .text content =>
    if content = "" then .error .selectorEmpty else .ok { settings with selector := content }
  | _ => .error .selectorNoText

/-- Chooses the sentinel. -/
def setSentinel (settings : ReaderSettings) (value : Value) : Except SettingFault ReaderSettings :=
  match value with
  | .text content =>
    if content = "" || content.toList.any Text.isBlank then .error .sentinelUnfit
    else .ok { settings with sentinel := content }
  | _ => .error .sentinelNoText

/-- Chooses one of the settings. -/
def choose (settings : ReaderSettings) (setting : ReaderSetting) (value : Value) :
    Except SettingFault ReaderSettings :=
  match setting with
  | .selector => settings.setSelector value
  | .sentinel => settings.setSentinel value

/-- Assigns a value to a setting of a reader in use. -/
def assign (setting : ReaderSetting) (value : Value) :
    EStateM SettingFault ReaderSettings Unit := do
  match (← get).choose setting value with
  | .ok chosen => set chosen
  | .error fault => throw fault

/-- The settings of a new reader: those of a configuration are assigned, one after the
other, where none were. -/
def ofConfig (config : ReaderSettings) : Except SettingFault ReaderSettings :=
  let assigned := (do
    assign .selector (.text config.selector)
    assign .sentinel (.text config.sentinel)).run ⟨"", ""⟩
  match assigned with
  | .ok _ settings => .ok settings
  | .error fault _ => .error fault

end ReaderSettings

end CommandHost
