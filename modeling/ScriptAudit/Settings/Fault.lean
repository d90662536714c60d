import ScriptAudit.Settings.Value

/-!
# Faults in the settings

What can be wrong with a setting or with a configuration file, and how the message says it.

A complaint is a message with named details; it is shown as the message with the details in
parentheses behind it.

## Main definitions

* `ScriptAudit.Complaint`, `ScriptAudit.Complaint.text` — complaints and their text.
* `ScriptAudit.SettingFault`, `ScriptAudit.FileFault` — what can be wrong, with the reasons given.
* `ScriptAudit.LoadError` — why settings cannot be loaded.
-/

set_option autoImplicit false

namespace ScriptAudit

/-- A message with named details. -/
structure Complaint where
  /-- What is wrong. -/
  message : String
  /-- Details, each with its name. -/
  details : List (String × String)
  deriving DecidableEq

/-- A complaint as text: the message, and the details in parentheses if there are any. -/
def Complaint.text (complaint : Complaint) : String :=
  if complaint.details.isEmpty then complaint.message
  else
    let details := complaint.details.map fun (name, detail) => name ++ "=" ++ detail
    complaint.message ++ " (" ++ ", ".intercalate details ++ ")"

/-- What can be wrong with a setting. -/
inductive SettingFault where
  /-- No setting has the name. -/
  | unknown
  /-- The value of a switch is neither true nor false. -/
  | notSwitch
  /-- The value of a limit is not an integer. -/
  | notInteger
  /-- The value of a list setting is not a list. -/
  | notList
  /-- An entry of a list of numbers is not a number. -/
  | notNumbers
  /-- The text for a switch is not one of the words for true and false. -/
  | notSwitchText (text : String)
  /-- The text for a limit does not spell an integer. -/
  | notIntegerText (text : String)
  /-- The text for a limit has too many digits. -/
  | overlongText (digits : Nat)
  deriving DecidableEq

/-- How much of a text that does not spell an integer is shown, its quotes included. -/
def shownWidth : Nat := 200

/-- What is said about an integer with too many digits; the details say how many if it is known. -/
def overlongMessage (details : String) : String :=
  "Exceeds the limit (" ++ toString Number.mostDigits ++
    " digits) for integer string conversion" ++ details ++
    "; use sys.set_int_max_str_digits() to increase the limit"

/-- What is said about the text of an integer with too many digits. -/
def overlongText (digits : Nat) : String :=
  overlongMessage (": value has " ++ toString digits ++ " digits")

/-- The reason that messages give for a fault. -/
def SettingFault.reason : SettingFault → String
  | unknown => "unknown setting"
  | notSwitch => "expected true/false"
  | notInteger => "expected an integer"
  | notList => "expected a list"
  | notNumbers => "expected a list of numbers"
  | notSwitchText text => "expected true/false, got '" ++ text ++ "'"
  | notIntegerText text =>
    "invalid literal for int() with base 10: " ++ Text.quotedWithin shownWidth text
  | overlongText digits => ScriptAudit.overlongText digits

/-- What can be wrong with a configuration file. -/
inductive FileFault where
  /-- The file is not there. -/
  | missing
  /-- A directory is in its place. -/
  | directory
  /-- Its document is malformed. -/
  | malformed
  deriving DecidableEq

/-- The reason that messages give for a fault of the file with the given path.  What exactly is
wrong with a malformed document is for its reader to say, and left out here. -/
def FileFault.reason (path : String) : FileFault → String
  | missing => "file not found"
  | directory => "[Errno 21] Is a directory: " ++ Text.quoted path
  | malformed => "malformed document"

/-- Why settings cannot be loaded. -/
inductive LoadError where
  /-- A configuration file is at fault. -/
  | file (path : String) (fault : FileFault)
  /-- The value given for a key is at fault. -/
  | setting (key : String) (value : Value) (fault : SettingFault)
  /-- The bytes of a configuration file are not a text. -/
  | undecodable
  /-- An integer lies beyond all doubles. -/
  | tooLarge
  /-- An integer in a configuration file has too many digits to be read. -/
  | overlong (digits : Nat)
  /-- An integer that a text is to show has too many digits to be written. -/
  | unwritable
  /-- The path of a configuration file, or a name in it, is too long. -/
  | nameTooLong (path : String)

/-- The complaint about a configuration file. -/
def fileComplaint (path reason : String) : Complaint :=
  ⟨"Invalid config file: " ++ path, [("path", path), ("reason", reason)]⟩

/-- The complaint about the value of a setting. -/
def settingComplaint (key : String) (value : Value) (reason : String) : Complaint :=
  ⟨"Invalid configuration for " ++ key ++ ": " ++ value.text,
    [("key", key), ("value", value.text), ("reason", reason)]⟩

/-- What is said about an error. -/
def LoadError.message : LoadError → String
  | file path fault => (fileComplaint path (fault.reason path)).text
  | setting key value fault => (settingComplaint key value fault.reason).text
  | undecodable => "the file is not valid UTF-8"
  | tooLarge => "int too large to convert to float"
  | overlong digits => overlongText digits
  | unwritable => overlongMessage ""
  | nameTooLong path => "[Errno 36] File name too long: " ++ Text.quoted path

end ScriptAudit
