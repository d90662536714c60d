import ScriptAudit.Text.Search

/-!
# Keys and texts of a document

The smallest parts of a TOML document: blanks and comments, the four kinds of quoted text, and keys.
A reader is given the text from its position on; it answers with what it read and the text behind
it, or not at all if the document is malformed there.

Line ends are single line feeds here.

## Main definitions

* `ScriptAudit.Toml.Reader` — readers.
* `ScriptAudit.Toml.Fault` — why a document cannot be read.
* `ScriptAudit.Toml.skipGaps` — passes over blanks, line ends and comments.
* `ScriptAudit.Toml.quotedText` — reads a text between quotes of any kind.
* `ScriptAudit.Toml.key` — reads a key, which may consist of several parts.
-/

set_option autoImplicit false

namespace ScriptAudit.Toml

open Text

/-- A reader of a part of a document. -/
abbrev Reader (α : Type) := List Char → Option (α × List Char)

/-- Why a document cannot be read. -/
inductive Fault where
  /-- It is malformed. -/
  | malformed
  /-- A decimal integer in it has more digits than the limit allows. -/
  | overlong (digits : Nat)
  deriving DecidableEq

/-- What was read, where nothing read means that the document is malformed. -/
def orMalformed {α : Type} : Option α → Except Fault α
  | some read => .ok read
  | none => .error .malformed

/-- Whether a character is a blank inside a line. -/
def isSpace (c : Char) : Bool := c == ' ' || c == '\t'

/-- The text behind the blanks at its start. -/
def skipSpaces (text : List Char) : List Char := text.dropWhile isSpace

/-- Whether a character is a control that may stand nowhere but at the end of a line. -/
def isControl (c : Char) : Bool := (c.toNat < 0x20 && c != '\t') || c.toNat == 0x7F

/-- Whether a character may stand in a text that may contain line ends. -/
def isAllowedInLines (c : Char) : Bool := c == '\n' || !isControl c

/-- Passes over blanks, line ends and comments; `inComment` tells whether the text begins inside a
comment. -/
def skipGaps (inComment : Bool) : List Char → Option (List Char)
  | [] => some []
  | c :: rest =>
    if c = '\n' then skipGaps false rest
    else if inComment then (if isControl c then none else skipGaps true rest)
    else if isSpace c then skipGaps false rest
    else if c = '#' then skipGaps true rest
    else some (c :: rest)

/-! ## Texts in double quotes -/

/-- The number that hexadecimal digits spell. -/
def hexValue? : List Char → Option Nat
  | [] => some 0
  | digits => digits.foldl (fun n c => n.bind fun n => (hexDigit? c).map (16 * n + ·)) (some 0)
where
  /-- The value of a hexadecimal digit. -/
  hexDigit? (c : Char) : Option Nat :=
    if c.isDigit then some (c.toNat - '0'.toNat)
    else if 'a' ≤ c ∧ c ≤ 'f' then some (c.toNat - 'a'.toNat + 10)
    else if 'A' ≤ c ∧ c ≤ 'F' then some (c.toNat - 'A'.toNat + 10)
    else none

/-- Reads the character whose code point is given by so many hexadecimal digits. -/
def codePoint (width : Nat) : Reader (List Char) := fun text =>
  let digits := text.take width
  if digits.length < width then none
  else
    match hexValue? digits with
    | some n => if n.isValidChar then some ([Char.ofNat n], text.drop width) else none
    | none => none

/-- Passes over the end of a line and all blanks and line ends behind it, given the text behind a
backslash. -/
def continuation (text : List Char) : Option (List Char) :=
  match skipSpaces text with
  | [] => some []
  | '\n' :: rest => some (rest.dropWhile fun c => isSpace c || c == '\n')
  | _ => none

/-- Reads an escape, given the text behind its backslash.  Where a text may contain line ends, a
backslash also joins lines. -/
def escape (multiline : Bool) : Reader (List Char)
  | 'b' :: rest => some (['\x08'], rest)
  | 't' :: rest => some (['\t'], rest)
  | 'n' :: rest => some (['\n'], rest)
  | 'f' :: rest => some (['\x0c'], rest)
  | 'r' :: rest => some (['\r'], rest)
  | '"' :: rest => some (['"'], rest)
  | '\\' :: rest => some (['\\'], rest)
  | 'u' :: rest => codePoint 4 rest
  | 'U' :: rest => codePoint 8 rest
  | c :: rest =>
    if multiline && (isSpace c || c == '\n') then
      (continuation (c :: rest)).map fun after => ([], after)
    else none
  | [] => none

/-- Reads a text in double quotes up to its end, given the text behind its opening quotes.  Each
step takes a character at least, so the length of the text bounds their number. -/
def basicText (multiline : Bool) (text : List Char) : Option (List Char × List Char) :=
  go (text.length + 1) text
where
  /-- Reads in at most `bound` steps. -/
  go : Nat → List Char → Option (List Char × List Char)
    | 0, _ => none
    | _, [] => none
    | bound + 1, '"' :: rest =>
      if multiline then
        match rest with
        | '"' :: '"' :: after => some ([], after)
        | _ => (go bound rest).map fun (chars, after) => ('"' :: chars, after)
      else some ([], rest)
    | bound + 1, '\\' :: rest =>
      (escape multiline rest).bind fun (made, after) =>
        (go bound after).map fun (chars, after) => (made ++ chars, after)
    | bound + 1, c :: rest =>
      if isControl c && !(multiline && c == '\n') then none
      else (go bound rest).map fun (chars, after) => (c :: chars, after)

/-! ## Texts in single quotes -/

/-- Reads a text in single quotes up to its end, given the text behind its opening quote. -/
def literalText : Reader (List Char) := fun text =>
  let chars := text.takeWhile (· != '\'')
  match text.dropWhile (· != '\'') with
  | [] => none
  | _ :: after => if chars.any isControl then none else some (chars, after)

/-- Reads a text in three single quotes up to its end, given the text behind its opening quotes. -/
def literalLines : Reader (List Char)
  | [] => none
  | '\'' :: '\'' :: '\'' :: after => some ([], after)
  | c :: rest =>
    if isAllowedInLines c then (literalLines rest).map fun (chars, after) => (c :: chars, after)
    else none

/-! ## All kinds of texts -/

/-- Adds to a text read in three quotes up to two quotes that stand right behind its end. -/
def withFinalQuotes (quote : Char) : List Char × List Char → List Char × List Char
  | (chars, after) =>
    match after with
    | a :: b :: rest =>
      if a = quote ∧ b = quote then (chars ++ [quote, quote], rest)
      else if a = quote then (chars ++ [quote], b :: rest)
      else (chars, after)
    | [a] => if a = quote then (chars ++ [quote], []) else (chars, after)
    | [] => (chars, after)

/-- The text behind a line end right at its start. -/
def skipLineEnd : List Char → List Char
  | '\n' :: rest => rest
  | text => text

/-- Reads a text between quotes of any kind. -/
def quotedText : Reader String := fun text =>
  let read := match text with
    | '"' :: '"' :: '"' :: rest =>
      (basicText true (skipLineEnd rest)).map (withFinalQuotes '"')
    | '"' :: rest => basicText false rest
    | '\'' :: '\'' :: '\'' :: rest =>
      (literalLines (skipLineEnd rest)).map (withFinalQuotes '\'')
    | '\'' :: rest => literalText rest
    | _ => none
  read.map fun (chars, after) => (String.ofList chars, after)

/-! ## Keys -/

/-- Whether a character may stand in a key without quotes. -/
def isBareKeyChar (c : Char) : Bool := c.isAlphanum || c == '-' || c == '_'

/-- Whether a character may begin a key. -/
def isKeyStart (c : Char) : Bool := isBareKeyChar c || c == '"' || c == '\''

/-- Reads one part of a key. -/
def keyPart : Reader String
  | '"' :: rest => (basicText false rest).map fun (chars, after) => (String.ofList chars, after)
  | '\'' :: rest => (literalText rest).map fun (chars, after) => (String.ofList chars, after)
  | text =>
    let chars := text.takeWhile isBareKeyChar
    if chars.isEmpty then none else some (String.ofList chars, text.dropWhile isBareKeyChar)

/-- Reads a key and the blanks behind it: parts with points between them.  Each part takes a
character at least, so the length of the text bounds their number. -/
def key (text : List Char) : Option (List String × List Char) := go (text.length + 1) text
where
  /-- Reads at most `bound` parts. -/
  go : Nat → List Char → Option (List String × List Char)
    | 0, _ => none
    | bound + 1, text =>
      (keyPart text).bind fun (part, after) =>
        match skipSpaces after with
        | '.' :: rest =>
          (go bound (skipSpaces rest)).map fun (parts, after) => (part :: parts, after)
        | after => some ([part], after)

end ScriptAudit.Toml
