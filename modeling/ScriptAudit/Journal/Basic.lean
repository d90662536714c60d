import ScriptAudit.Text.Search

/-!
# The journal

What happens during a run is recorded in a journal.  Setting the journal up decides where records go
and how grave they must be; setting it up again takes off what was there before and decides anew.  A
journal file that was once begun is only ever added to.

Every part of the program writes through a logger with a name.  Only the loggers below the one of
the program reach the journal.

## Main definitions

* `ScriptAudit.Level`, `ScriptAudit.Record` — how grave a record is, and records.
* `ScriptAudit.Journal` — a journal; `Journal.setUp` sets it up, `Journal.log` adds a record.
* `ScriptAudit.Journal.Step`, `ScriptAudit.Journal.run` — what may be done with a journal, and the
  journal that a sequence of steps leaves.
* `ScriptAudit.loggerName` — the name of the logger for a part of the program.
-/

set_option autoImplicit false

namespace ScriptAudit

/-- How grave a record is. -/
inductive Level where
  /-- Of use to the curious. -/
  | debug
  /-- Of general interest. -/
  | info
  /-- Something may be wrong. -/
  | warning
  /-- Something went wrong. -/
  | error
  /-- Nothing works any more. -/
  | critical
  deriving DecidableEq

namespace Level

/-- All levels, the mildest first. -/
def all : List Level := [debug, info, warning, error, critical]

/-- The name of a level in the journal. -/
def name : Level → String
  | debug => "DEBUG"
  | info => "INFO"
  | warning => "WARNING"
  | error => "ERROR"
  | critical => "CRITICAL"

/-- The level with the given name. -/
def ofName? (name : String) : Option Level := all.find? (·.name == name)

/-- The place of a level in the order from mild to grave. -/
def rank : Level → Nat
  | debug => 10
  | info => 20
  | warning => 30
  | error => 40
  | critical => 50

end Level

/-- A record. -/
structure Record where
  /-- The name of the logger. -/
  logger : String
  /-- How grave it is. -/
  level : Level
  /-- What it says. -/
  message : String
  deriving DecidableEq

/-- A record as a line of the journal, without the time. -/
def Record.text (record : Record) : String :=
  record.logger ++ " - " ++ record.level.name ++ " - " ++ record.message

/-- The name of the logger of the program. -/
def rootLogger : String := "qube"

/-- The name of the logger for a part of the program, or of the logger of the program itself.  A
name that begins like the latter is taken as it is, all others are put below it. -/
def loggerName : Option String → String
  | none => rootLogger
  | some name =>
    if rootLogger.toList.isPrefixOf name.toList then name else rootLogger ++ "." ++ name

/-- Whether a logger is the one of the program or lies below it. -/
def reachesJournal (logger : String) : Bool :=
  logger == rootLogger || (rootLogger ++ ".").toList.isPrefixOf logger.toList

/-- Where records go. -/
inductive Sink where
  /-- To the screen. -/
  | console
  /-- To the journal file. -/
  | file
  deriving DecidableEq

/-- A journal. -/
structure Journal where
  /-- The least level of the records that are kept; unless set, that of warnings. -/
  level : Level := .warning
  /-- Where records go. -/
  sinks : List Sink := []
  /-- The records of the journal file, once it was begun. -/
  file : Option (List Record) := none
  deriving DecidableEq

namespace Journal

/-- The least level that is kept: of errors if the journal is to be quiet, of everything if it is to
be verbose, of warnings else. -/
def levelFor (verbose quiet : Bool) : Level :=
  if quiet then .error else if verbose then .debug else .warning

/-- Takes a sink off a journal. -/
def detach (journal : Journal) (sink : Sink) : Journal :=
  { journal with sinks := journal.sinks.erase sink }

/-- Puts a sink behind those of a journal.  With the first one of the file an empty file is begun; a
file that exists is opened at its end. -/
def attach (journal : Journal) (sink : Sink) : Journal where
  level := journal.level
  sinks := journal.sinks ++ [sink]
  file :=
    match sink with
    | .console => journal.file
    | .file => some (journal.file.getD [])

/-- Sets a journal up: all its sinks are taken off one by one, and new ones are put in their
place. -/
def setUp (journal : Journal) (verbose quiet toFile : Bool) : Journal :=
  let cleared := journal.sinks.foldl detach journal
  let onScreen := cleared.attach .console
  let attached := if toFile then onScreen.attach .file else onScreen
  { attached with level := levelFor verbose quiet }

/-- Whether a journal takes a record: it comes from a logger of the program and is grave enough. -/
def admits (journal : Journal) (record : Record) : Bool :=
  reachesJournal record.logger && journal.level.rank ≤ record.level.rank

/-- Hands a record to a sink of a journal.  What is on the screen is not kept. -/
def write (record : Record) (journal : Journal) : Sink → Journal
  | .console => journal
  | .file => { journal with file := some (journal.file.getD [] ++ [record]) }

/-- Adds a record to a journal: every sink gets it. -/
def log (journal : Journal) (record : Record) : Journal :=
  if journal.admits record then journal.sinks.foldl (write record) journal else journal

/-- Adds several records to a journal. -/
def logAll (journal : Journal) (records : List Record) : Journal := records.foldl log journal

/-- What may be done with a journal. -/
inductive Step where
  /-- Setting it up. -/
  | setUp (verbose quiet toFile : Bool)
  /-- Asking for the logger of a part of the program. -/
  | logger (part : Option String)
  /-- Writing through the logger of a part of the program. -/
  | log (part : Option String) (level : Level) (message : String)
  deriving DecidableEq

/-- The journal after a step. -/
def step (journal : Journal) : Step → Journal
  | .setUp verbose quiet toFile => journal.setUp verbose quiet toFile
  | .logger _ => journal
  | .log part level message => journal.log ⟨loggerName part, level, message⟩

/-- The journal after several steps, begun with nothing set up. -/
def run (steps : List Step) : Journal := steps.foldl step {}

end Journal

end ScriptAudit
