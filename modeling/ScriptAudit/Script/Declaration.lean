import ScriptAudit.Script.Code
import ScriptAudit.Text.Search
import ScriptAudit.Text.Word

/-!
# Declarations and resource loads

Recognisers for the declarations that a single trimmed line may hold.  A recogniser never fails: a
line that it does not know is simply not such a declaration.

A name begins with an ASCII letter or an underscore and goes on with word characters of any script;
it is always taken as long as possible.

## Main definitions

* `ScriptAudit.Script.isFunctionDeclaration` — function declarations.
* `ScriptAudit.Script.NamedKind`, `ScriptAudit.Script.declaration?` — a keyword, blanks, a name:
  signals, constants, class names, enumerations.
* `ScriptAudit.Script.variableDeclaration?` — variable declarations behind any number of
  annotations.
* `ScriptAudit.Script.isExported` — exported properties.
* `ScriptAudit.Script.loadedPaths` — the paths of the resources that a line loads.
-/

set_option autoImplicit false

namespace ScriptAudit.Script

open Text

/-! ## Functions -/

/-- The beginnings of a function declaration. -/
def functionHeads : List (List Char) := ["func ".toList, "static func ".toList]

/-- Whether a trimmed line declares a function. -/
def isFunctionDeclaration (text : List Char) : Bool := functionHeads.any (·.isPrefixOf text)

/-! ## Names behind a keyword -/

/-- Whether a character may begin a name. -/
def isNameStart (c : Char) : Bool := c.isAlpha || c == '_'

/-- The longest name at the start of a text, and what follows it. -/
def name? : List Char → Option (List Char × List Char)
  | [] => none
  | c :: rest =>
    if isNameStart c then some (c :: rest.takeWhile isWordChar, rest.dropWhile isWordChar) else none

/-- What follows a keyword and at least one blank character. -/
def afterKeyword? (keyword text : List Char) : Option (List Char) :=
  match keyword.isPrefixOf? text with
  | some (c :: rest) => if isBlank c then some (trimStart rest) else none
  | _ => none

/-- The kinds of declaration that consist of a keyword and a name. -/
inductive NamedKind where
  /-- A signal. -/
  | signal
  /-- A constant. -/
  | constant
  /-- The class name of the script. -/
  | className
  /-- A named enumeration. -/
  | enumeration
  deriving DecidableEq

/-- All kinds of named declarations, in the order in which they are tried. -/
def NamedKind.all : List NamedKind := [signal, constant, className, enumeration]

/-- The keyword of a kind of declaration. -/
def NamedKind.keyword : NamedKind → List Char
  | signal => "signal".toList
  | constant => "const".toList
  | className => "class_name".toList
  | enumeration => "enum".toList

/-- The name that a line declares by a declaration of the given kind. -/
def declaredName? (kind : NamedKind) (text : List Char) : Option (List Char) :=
  ((afterKeyword? kind.keyword text).bind name?).map Prod.fst

/-- The named declaration that a line holds: the first kind that fits, and the name. -/
def declaration? (text : List Char) : Option (NamedKind × List Char) :=
  NamedKind.all.findSome? fun kind => (declaredName? kind text).map fun name => (kind, name)

/-! ## Variables -/

/-- The text behind an argument list in parentheses, which ends at the first closing one.  A text
that begins with no argument list is left as it is. -/
def skipArguments : List Char → List Char
  | '(' :: rest =>
    match rest.dropWhile (· != ')') with
    | _ :: after => after
    | [] => '(' :: rest
  | text => text

/-- The text behind an annotation: an at sign, word characters, perhaps arguments, and at least one
blank character. -/
def afterAnnotation? : List Char → Option (List Char)
  | '@' :: rest =>
    if startsWithWordChar rest then
      match skipArguments (rest.dropWhile isWordChar) with
      | c :: after => if isBlank c then some (trimStart after) else none
      | [] => none
    else none
  | _ => none

/-- Passing over an argument list does not lengthen a text. -/
theorem length_skipArguments_le (text : List Char) :
    (skipArguments text).length ≤ text.length := by
  fun_cases skipArguments text with
  | case1 rest c after h =>
    have := (List.dropWhile_suffix (l := rest) (· != ')')).length_le
    rw [h] at this
    simp only [List.length_cons] at this ⊢
    omega
  | case2 => exact Nat.le_refl _
  | case3 => exact Nat.le_refl _

/-- An annotation takes at least its at sign. -/
theorem length_lt_of_afterAnnotation? {text after : List Char}
    (h : afterAnnotation? text = some after) : after.length < text.length := by
  fun_cases afterAnnotation? text with
  | case1 rest hword c tail hskip hblank =>
    simp only [afterAnnotation?, hword, hskip, hblank, if_true, Option.some.injEq] at h
    have h₁ := length_skipArguments_le (rest.dropWhile isWordChar)
    have h₂ := (List.dropWhile_suffix (l := rest) isWordChar).length_le
    have h₃ := (List.dropWhile_suffix (l := tail) isBlank).length_le
    rw [hskip] at h₁
    rw [← h]
    simp only [trimStart, List.length_cons] at h₁ ⊢
    omega
  | case2 rest hword c tail hskip hblank => simp [afterAnnotation?, hword, hskip, hblank] at h
  | case3 rest hword hskip => simp [afterAnnotation?, hword, hskip] at h
  | case4 rest hword => simp [afterAnnotation?, hword] at h
  | case5 => simp [afterAnnotation?] at h

/-- The text behind all annotations at its start. -/
def skipAnnotations (text : List Char) : List Char :=
  match _h : afterAnnotation? text with
  | some after => skipAnnotations after
  | none => text
termination_by text.length
decreasing_by exact length_lt_of_afterAnnotation? _h

/-- The rest of a declaration must stand on one line, a final line feed aside. -/
def singleLine? (rest : List Char) : Option (List Char) :=
  match rest.dropWhile (· != '\n') with
  | [] => some rest
  | ['\n'] => some (rest.takeWhile (· != '\n'))
  | _ => none

/-- The name that a variable declaration declares, and what follows the name and the blanks behind
it. -/
def variableDeclaration? (text : List Char) : Option (List Char × List Char) :=
  match (afterKeyword? "var".toList (skipAnnotations text)).bind name? with
  | some (name, rest) => (singleLine? (trimStart rest)).map fun rest => (name, rest)
  | none => none

/-- Whether a line declares an exported property. -/
def isExported (text : List Char) : Bool := "@export".toList.isPrefixOf text

/-! ## Resources -/

/-- The path in the argument list of a load call, given the text behind its opening parenthesis, and
what follows the call.  Any quote may open and any may close the path. -/
def loadArgument? (text : List Char) : Option (List Char × List Char) :=
  match trimStart text with
  | [] => none
  | c :: rest =>
    let path := rest.takeWhile (!isQuote ·)
    if isQuote c && !path.isEmpty then
      match rest.dropWhile (!isQuote ·) with
      | [] => none
      | _ :: after =>
        match trimStart after with
        | ')' :: after => some (path, after)
        | _ => none
    else none

/-- Recognises a call of `load` or `preload` with a literal path, where no word character touches
the call from the left. -/
def loadCall : Recogniser (List Char) := fun before text =>
  if before.any isWordChar then none
  else
    ["preload(".toList, "load(".toList].findSome? fun head =>
      (head.isPrefixOf? text).bind loadArgument?

/-- The paths of all resources that a line loads, left to right. -/
def loadedPaths (text : List Char) : List (List Char) := findAll loadCall text

end ScriptAudit.Script
