import ScriptAudit.Settings.Disk
import ScriptAudit.Settings.Layers
import ScriptAudit.Toml.Document

/-!
# Loading settings

Settings are loaded from up to three configuration files, the environment, and the values that the
caller gives.  The files in the home directory and of the project may be missing; a file that the
caller names may not.

A document may keep its settings in a section for this tool; everything outside that section is then
passed over.

The home directory and the working directory are given by their paths from the root, which lead to
directories without double points and within the lengths that the system allows.  The path of the
named file may be any text.

## Main definitions

* `ScriptAudit.Sources` — where settings come from.
* `ScriptAudit.Sources.layers` — the layers of settings that the sources hold.
* `ScriptAudit.Settings.load` — the settings from given sources.
-/

set_option autoImplicit false

namespace ScriptAudit

/-- Where settings come from. -/
structure Sources where
  /-- The path of the home directory. -/
  homeDirectory : String
  /-- The path of the working directory. -/
  workDirectory : String
  /-- What lies on the disk. -/
  disk : Disk := []
  /-- The path of a file that the caller names. -/
  namedFile : Option String := none
  /-- The variables of the environment. -/
  environment : Environment := []
  /-- The values that the caller gives. -/
  overrides : Table := []

/-- The entries that count in a document: those of its section for this tool if it has one, and all
of them else. -/
def relevantEntries (entries : Table) : Table :=
  match Store.get? entries "qube" with
  | some (.table own) => own
  | _ => entries

/-- The entries of a configuration file. -/
def tableOfFile (path : String) : Content → Except LoadError Table
  | .directory => .error (.file path .directory)
  | .bytes bytes =>
    match String.fromUTF8? bytes with
    | none => .error .undecodable
    | some text =>
      match Toml.parse text with
      | .error .malformed => .error (.file path .malformed)
      | .error (.overlong digits) => .error (.overlong digits)
      | .ok entries => .ok (relevantEntries entries)

/-- The entries of a configuration file that may be missing. -/
def tableOfOptional (path : String) : Option Content → Except LoadError Table
  | none => .ok []
  | some content => tableOfFile path content

/-- The entries of a configuration file that must be there. -/
def tableOfRequired (path : String) : Lookup → Except LoadError Table
  | .missing => .error (.file path .missing)
  | .nameTooLong => .error (.nameTooLong path)
  | .found content => tableOfFile path content

namespace Sources

/-- The place of the working directory. -/
def workPlace (sources : Sources) : Place := (Path.parse sources.workDirectory).parts

/-- What lies at the place of the settings in the home directory. -/
def homeFile? (sources : Sources) : Option Content :=
  sources.disk.at? ((Path.parse sources.homeDirectory).parts ++ [".qube.toml"])

/-- What lies at the place of the settings of the project. -/
def projectFile? (sources : Sources) : Option Content :=
  sources.disk.at? (sources.workPlace ++ ["qube.toml"])

/-- The entries of the file in the home directory. -/
def homeTable (sources : Sources) : Except LoadError Table :=
  tableOfOptional (sources.homeDirectory ++ "/.qube.toml") sources.homeFile?

/-- The entries of the file of the project. -/
def projectTable (sources : Sources) : Except LoadError Table :=
  tableOfOptional (sources.workDirectory ++ "/qube.toml") sources.projectFile?

/-- What the search for a file that the caller names comes to. -/
def search (sources : Sources) (path : Path) : Lookup := sources.disk.find sources.workPlace path

/-- The entries of the file that the caller names, if any. -/
def namedTable (sources : Sources) : Except LoadError Table :=
  match sources.namedFile with
  | none => .ok []
  | some name =>
    let path := Path.parse name
    tableOfRequired path.text (sources.search path)

/-- The layers of settings that the sources hold.  The first file at fault ends the reading. -/
def layers (sources : Sources) : Except LoadError Layers :=
  match sources.homeTable with
  | .error e => .error e
  | .ok home =>
    match sources.projectTable with
    | .error e => .error e
    | .ok project =>
      match sources.namedTable with
      | .error e => .error e
      | .ok named => .ok ⟨home, project, named, sources.environment, sources.overrides⟩

end Sources

/-- The settings from given sources. -/
def Settings.load (sources : Sources) : Except LoadError Settings :=
  match sources.layers with
  | .ok layers => ofLayers layers
  | .error e => .error e

end ScriptAudit
