/-!
# Naming styles

The styles in which names are written, each an ASCII pattern.

## Main definitions

* `ScriptAudit.NameStyle` — the styles; `NameStyle.accepts` tells whether a name follows one.
-/

set_option autoImplicit false

namespace ScriptAudit

/-- The styles in which names are written. -/
inductive NameStyle where
  /-- Small letters, digits and underscores, beginning with a letter behind any underscores. -/
  | snake
  /-- Capital letters, digits and underscores, beginning with a letter behind any underscores. -/
  | upperSnake
  /-- Letters and digits, beginning with a capital letter. -/
  | pascal
  deriving DecidableEq

namespace NameStyle

/-- The name of the style in reports. -/
def label : NameStyle → String
  | snake => "snake_case"
  | upperSnake => "UPPER_SNAKE_CASE"
  | pascal => "PascalCase"

/-- Whether a name is a first character followed by further characters of the given kinds. -/
def consists (first others : Char → Bool) : List Char → Bool
  | [] => false
  | c :: rest => first c && rest.all others

/-- Whether a name follows the style. -/
def accepts : NameStyle → List Char → Bool
  | snake, name =>
    consists Char.isLower (fun c => c.isLower || c.isDigit || c == '_')
      (name.dropWhile (· == '_'))
  | upperSnake, name =>
    consists Char.isUpper (fun c => c.isUpper || c.isDigit || c == '_')
      (name.dropWhile (· == '_'))
  | pascal, name => consists Char.isUpper Char.isAlphanum name

end NameStyle

end ScriptAudit
