import ScriptAudit.Settings.Store
import ScriptAudit.Toml.Scalar

/-!
# Documents

A TOML document is a sequence of statements: keys with their values, and headers that open a table
for the statements behind them.  Tables keep their entries in the order in which they are made.

No table may be opened twice, no key may be given twice, and nothing may be added to a table or an
array that was written as a value.  The first fault in the order of the text ends the reading.

## Main definitions

* `ScriptAudit.Toml.alterAt` — changes the table at a path, making the tables on the way.
* `ScriptAudit.Toml.Document` — a document as far as it has been read, with the paths that must not
  be opened or changed any more.
* `ScriptAudit.Toml.value` — reads a value.
* `ScriptAudit.Toml.parse` — the table that a document stands for.

## Implementation notes

Values are read in a bounded number of steps; each step takes a character at least, so the length of
the document is bound enough.
-/

set_option autoImplicit false

namespace ScriptAudit.Toml

/-- The entries of a table. -/
abbrev Entries := Store Value

/-- Changes the table at a path.  Missing tables on the way are made; an array of tables is entered
at its last one. -/
def alterAt (change : Entries → Option Entries) : List String → Entries → Option Entries
  | [], entries => change entries
  | part :: path, entries =>
    match Store.get? entries part with
    | none => (alterAt change path []).map fun inner => Store.put entries part (.table inner)
    | some (.table inner) =>
      (alterAt change path inner).map fun inner => Store.put entries part (.table inner)
    | some (.list items) =>
      match items.getLast? with
      | some (.table inner) =>
        (alterAt change path inner).map fun inner =>
          Store.put entries part (.list (items.dropLast ++ [.table inner]))
      | _ => none
    | some _ => none

/-- Gives a key its first value. -/
def assign (key : String) (value : Value) (entries : Entries) : Option Entries :=
  if (Store.get? entries key).isSome then none else some (Store.put entries key value)

/-- Adds an empty table to an array of tables, which is made if it is missing. -/
def extend (key : String) (entries : Entries) : Option Entries :=
  match Store.get? entries key with
  | none => some (Store.put entries key (.list [.table []]))
  | some (.list items) => some (Store.put entries key (.list (items ++ [.table []])))
  | some _ => none

/-- Whether a value has parts to which nothing may be added. -/
def isContainer : Value → Bool
  | .list _ => true
  | .table _ => true
  | _ => false

/-- Whether a path leads to or into one of the given places. -/
def reaches (places : List (List String)) (path : List String) : Bool :=
  places.any (·.isPrefixOf path)

/-! ## Values -/

/-- Reads `true` or `false`. -/
def truth : Reader Value := fun text =>
  (("true".toList.isPrefixOf? text).map fun after => (.bool true, after)) <|>
  (("false".toList.isPrefixOf? text).map fun after => (.bool false, after))

/-- Reads a value without parts. -/
def simpleValue (text : List Char) : Except Fault (Value × List Char) :=
  let read :=
    ((quotedText text).map fun (s, after) => (.str s, after)) <|>
    truth text <|>
    ((moment text).map fun (m, after) => (.moment m, after)) <|>
    radixInteger text <|>
    specialNumber text
  match read with
  | some found => .ok found
  | none => decimalNumber text

/-- Reads a key, an equals sign, and the blanks behind it. -/
def keyAndSign : Reader (List String) := fun text =>
  (key text).bind fun (path, after) =>
    match after with
    | '=' :: rest => some (path, skipSpaces rest)
    | _ => none

/-- Adds an entry to a table that is written as a value.  The places hold the containers already
among its entries. -/
def addEntry (places : List (List String)) (path : List String) (value : Value)
    (entries : Entries) : Option (List (List String) × Entries) :=
  if reaches places path then none
  else
    (alterAt (assign (path.getLastD "") value) path.dropLast entries).map fun entries =>
      (if isContainer value then path :: places else places, entries)

mutual

/-- Reads a value, in at most `bound` steps. -/
def value (bound : Nat) (text : List Char) : Except Fault (Value × List Char) :=
  match bound with
  | 0 => .error .malformed
  | bound + 1 =>
    match text with
    | '[' :: rest => (orMalformed (skipGaps false rest)).bind (items bound [])
    | '{' :: rest =>
      match skipSpaces rest with
      | '}' :: after => .ok (.table [], after)
      | rest => inlineEntries bound [] [] rest
    | _ => simpleValue text

/-- Reads the items of an array up to its end, in at most `bound` steps; `done` holds those read
before, the last one first. -/
def items (bound : Nat) (done : List Value) (text : List Char) :
    Except Fault (Value × List Char) :=
  match bound with
  | 0 => .error .malformed
  | bound + 1 =>
    match text with
    | ']' :: after => .ok (.list done.reverse, after)
    | _ =>
      match value bound text with
      | .error fault => .error fault
      | .ok (item, after) =>
        match skipGaps false after with
        | some (']' :: after) => .ok (.list (item :: done).reverse, after)
        | some (',' :: rest) =>
          (orMalformed (skipGaps false rest)).bind (items bound (item :: done))
        | _ => .error .malformed

/-- Reads the entries of a table that is written as a value up to its end, in at most `bound`
steps. -/
def inlineEntries (bound : Nat) (places : List (List String)) (entries : Entries)
    (text : List Char) : Except Fault (Value × List Char) :=
  match bound with
  | 0 => .error .malformed
  | bound + 1 =>
    match keyAndSign text with
    | none => .error .malformed
    | some (path, rest) =>
      match value bound rest with
      | .error fault => .error fault
      | .ok (item, after) =>
        match addEntry places path item entries with
        | none => .error .malformed
        | some (places, entries) =>
          match skipSpaces after with
          | '}' :: after => .ok (.table entries, after)
          | ',' :: rest => inlineEntries bound places entries (skipSpaces rest)
          | _ => .error .malformed

end

/-! ## Statements -/

/-- A document as far as it has been read. -/
structure Document where
  /-- The entries made so far. -/
  entries : Entries := []
  /-- The path of the table that is open. -/
  header : List String := []
  /-- The tables that must not be opened again. -/
  opened : List (List String) := []
  /-- The tables made by keys of several parts since the last header. -/
  pending : List (List String) := []
  /-- The containers written as values, to which nothing may be added. -/
  closed : List (List String) := []

namespace Document

/-- At a header, the tables made since the last one must not be opened any more. -/
def settle (doc : Document) : Document :=
  { doc with opened := doc.pending ++ doc.opened, pending := [] }

/-- Opens a table. -/
def openTable (doc : Document) (path : List String) : Option Document :=
  if doc.opened.contains path || reaches doc.closed path then none
  else
    (alterAt some path doc.entries).map fun entries =>
      { doc with entries := entries, header := path, opened := path :: doc.opened }

/-- Opens a new table at the end of an array of tables.  What was made inside the last one does not
count for the new one. -/
def openArrayTable (doc : Document) (path : List String) : Option Document :=
  if reaches doc.closed path then none
  else
    (alterAt (extend (path.getLastD "")) path.dropLast doc.entries).map fun entries =>
      { doc with
        entries := entries
        header := path
        opened := path :: doc.opened.filter (!path.isPrefixOf ·)
        closed := doc.closed.filter (!path.isPrefixOf ·) }

/-- The tables between the open table and the last part of a key. -/
def between (doc : Document) (path : List String) : List (List String) :=
  (List.range (path.length - 1)).map fun n => doc.header ++ path.take (n + 1)

/-- Gives a key in the open table its value. -/
def give (doc : Document) (path : List String) (value : Value) : Option Document :=
  let way := doc.between path
  if way.any doc.opened.contains || reaches doc.closed (doc.header ++ path.dropLast) then none
  else
    (alterAt (assign (path.getLastD "") value) (doc.header ++ path.dropLast) doc.entries).map
      fun entries =>
        { doc with
          entries := entries
          pending := way ++ doc.pending
          closed := if isContainer value then (doc.header ++ path) :: doc.closed else doc.closed }

/-- Reads a header up to its closing brackets. -/
def readHeader (doc : Document) : Reader Document
  | '[' :: '[' :: rest =>
    (key (skipSpaces rest)).bind fun (path, after) =>
      match after with
      | ']' :: ']' :: after => (doc.settle.openArrayTable path).map fun doc => (doc, after)
      | _ => none
  | '[' :: rest =>
    (key (skipSpaces rest)).bind fun (path, after) =>
      match after with
      | ']' :: after => (doc.settle.openTable path).map fun doc => (doc, after)
      | _ => none
  | _ => none

/-- Reads a key with its value. -/
def readEntry (doc : Document) (text : List Char) : Except Fault (Document × List Char) :=
  match keyAndSign text with
  | none => .error .malformed
  | some (path, rest) =>
    match value (rest.length + 1) rest with
    | .error fault => .error fault
    | .ok (item, after) => (orMalformed (doc.give path item)).map fun doc => (doc, after)

/-- Passes over what may follow a statement on its line: blanks, a comment, the end of the line. -/
def endOfLine (text : List Char) : Option (List Char) :=
  match skipSpaces text with
  | '#' :: rest =>
    if (rest.takeWhile (· != '\n')).any isControl then none
    else some ((rest.dropWhile (· != '\n')).drop 1)
  | '\n' :: rest => some rest
  | [] => some []
  | _ => none

/-- Reads all statements of a document, in at most `bound` steps. -/
def readAll (bound : Nat) (doc : Document) (text : List Char) : Except Fault Document :=
  match bound with
  | 0 => .error .malformed
  | bound + 1 =>
    match skipSpaces text with
    | [] => .ok doc
    | c :: rest =>
      let statement :=
        if isKeyStart c then doc.readEntry (c :: rest)
        else if c = '[' then orMalformed (doc.readHeader (c :: rest))
        else .ok (doc, c :: rest)
      statement.bind fun (doc, after) => (orMalformed (endOfLine after)).bind (readAll bound doc)

end Document

/-- The text with a single line feed for each carriage return and line feed. -/
def unifyLineEnds : List Char → List Char
  | '\r' :: '\n' :: rest => '\n' :: unifyLineEnds rest
  | c :: rest => c :: unifyLineEnds rest
  | [] => []

/-- The table that a document stands for. -/
def parse (text : String) : Except Fault Entries :=
  let text := unifyLineEnds text.toList
  (Document.readAll (text.length + 1) {} text).map (·.entries)

end ScriptAudit.Toml
