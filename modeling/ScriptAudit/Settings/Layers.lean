import ScriptAudit.Settings.Admission
import ScriptAudit.Settings.Store

/-!
# Layers of settings

Settings are merged from several layers, a later one taking precedence: the table of the home
directory, that of the project, that of a file named by the caller, the environment, and the values
given by the caller.  What no layer sets keeps its default.

The variables of the environment are understood first.  After that every key must belong to a
setting, and the value that takes precedence must be accepted; a value that is overridden is never
looked at.  Keys are looked at in the order in which they first came, and the first fault ends it.

Settings with a pair of limits that stands the wrong way round are remarked upon, so such limits
must not be too long to be written.

## Main definitions

* `ScriptAudit.Table`, `ScriptAudit.Environment` — loosely typed entries, and variables.
* `ScriptAudit.Layers` — the layers of settings.
* `ScriptAudit.Layers.merged` — the value of every key that occurs in a layer.
* `ScriptAudit.Settings.ofTable` — the settings that given entries make.
* `ScriptAudit.Settings.ofLayers` — the settings that given layers make.
-/

set_option autoImplicit false

namespace ScriptAudit

/-- Loosely typed entries, in the order in which they are given. -/
abbrev Table := List (String × Value)

/-! ## The environment -/

/-- Variables with their texts. -/
abbrev Environment := List (String × String)

namespace Environment

/-- The text of a variable, the last one of its name. -/
def text? (environment : Environment) (name : String) : Option String :=
  (environment.reverse.find? (·.1 == name)).map (·.2)

/-- The entries that the environment gives for some keys, in their order. -/
def tableFor (environment : Environment) : List Key → Except LoadError Table
  | [] => .ok []
  | key :: rest =>
    match environment.text? key.variableName with
    | none => environment.tableFor rest
    | some text =>
      match SettingKind.readVariable Number.digitLimit key.kind text with
      | .error fault => .error (.setting key.variableName (.str text) fault)
      | .ok value =>
        match environment.tableFor rest with
        | .error e => .error e
        | .ok entries => .ok ((key.name, value) :: entries)

/-- The entries that the environment gives, in the order of the settings. -/
def table (environment : Environment) : Except LoadError Table := environment.tableFor Key.all

end Environment

/-! ## Merging -/

/-- The layers of settings, those of lesser precedence first. -/
structure Layers where
  /-- The table of the home directory. -/
  home : Table := []
  /-- The table of the project. -/
  project : Table := []
  /-- The table of a file that the caller names. -/
  named : Table := []
  /-- The variables of the environment. -/
  environment : Environment := []
  /-- The values that the caller gives. -/
  overrides : Table := []

/-- The value of every key that occurs in a layer, in the order in which the keys first came. -/
def Layers.merged (layers : Layers) : Except LoadError (Store Value) :=
  match layers.environment.table with
  | .error e => .error e
  | .ok fromEnvironment =>
    .ok (((((Store.merge [] layers.home).merge layers.project).merge layers.named).merge
      fromEnvironment).merge layers.overrides)

/-! ## Taking over -/

namespace Settings

/-- The settings with one entry taken over. -/
def take (settings : Settings) (name : String) (value : Value) : Except LoadError Settings :=
  match Key.ofName? name with
  | none => .error ((Refusal.fault value .unknown).toError name)
  | some key =>
    match key.kind.accept value with
    | .ok accepted => .ok (settings.set key accepted)
    | .error refusal => .error (refusal.toError name)

/-- The settings with all entries taken over, in their order. -/
def takeAll (settings : Settings) : Table → Except LoadError Settings
  | [] => .ok settings
  | (name, value) :: rest =>
    match settings.take name value with
    | .ok settings => settings.takeAll rest
    | .error e => .error e

/-- The settings that given entries make. -/
def ofTable (entries : Table) : Except LoadError Settings := ({} : Settings).takeAll entries

/-- The settings, provided that the remarks about them can be written. -/
def checkRemarks (settings : Settings) : Except LoadError Settings :=
  if settings.hasWritableInversions then .ok settings else .error .unwritable

/-- The settings that given layers make. -/
def ofLayers (layers : Layers) : Except LoadError Settings :=
  match layers.merged with
  | .error e => .error e
  | .ok entries =>
    match ofTable entries with
    | .error e => .error e
    | .ok settings => settings.checkRemarks

end Settings

end ScriptAudit
