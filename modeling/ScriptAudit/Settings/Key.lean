import ScriptAudit.Settings.Basic

/-!
# Keys of the settings

Every setting has a key, by which documents and callers name it, and a kind, which fixes the type of
its value.

## Main definitions

* `ScriptAudit.Key` — the keys; `Key.all` lists them in order.
* `ScriptAudit.Key.name`, `ScriptAudit.Key.variableName` — the name of a setting, and the name of
  the environment variable for it.
* `ScriptAudit.SettingKind`, `ScriptAudit.SettingKind.Carrier` — the kinds and their types.
* `ScriptAudit.Settings.get`, `ScriptAudit.Settings.set` — a setting by its key.
-/

set_option autoImplicit false

namespace ScriptAudit

/-- The kinds of settings. -/
inductive SettingKind where
  /-- On or off. -/
  | switch
  /-- An integer. -/
  | integer
  /-- A list of texts. -/
  | texts
  /-- A list of numbers. -/
  | numbers
  deriving DecidableEq

/-- The type of the values of a kind. -/
@[reducible]
def SettingKind.Carrier : SettingKind → Type
  | switch => Bool
  | integer => Int
  | texts => List String
  | numbers => List Float

/-- The keys of the settings. -/
inductive Key where
  /-- Switches a check on or off. -/
  | toggle (check : Check)
  /-- A numeric limit. -/
  | limit (limit : Limit)
  /-- A list of patterns. -/
  | patterns (list : PatternList)
  /-- The numbers that need no name. -/
  | allowedNumbers
  /-- Whether the arms of a `match` count. -/
  | countMatchArms
  deriving DecidableEq

namespace Key

/-- All keys, in the order of the settings. -/
def all : List Key :=
  Check.all.map toggle ++ Limit.all.map limit ++
    [patterns .excludedPaths, patterns .todoMarkers, patterns .printCalls, patterns .printWhitelist,
     allowedNumbers, patterns .commentedCode, countMatchArms]

/-- The name of a setting.  A check is switched by its identifier, with underscores. -/
def name : Key → String
  | toggle check =>
    "check_" ++ String.ofList (check.id.toList.map fun c => if c = '-' then '_' else c)
  | limit l => l.name
  | patterns p => p.name
  | allowedNumbers => "allowed_numbers"
  | countMatchArms => "count_match_arms"

/-- The key with the given name. -/
def ofName? (name : String) : Option Key := all.find? (·.name == name)

/-- The environment variable for a setting. -/
def variableName (key : Key) : String :=
  "QUBE_" ++ String.ofList (key.name.toList.map Char.toUpper)

/-- The kind of a setting. -/
@[reducible]
def kind : Key → SettingKind
  | toggle _ => .switch
  | limit _ => .integer
  | patterns _ => .texts
  | allowedNumbers => .numbers
  | countMatchArms => .switch

end Key

namespace Settings

/-- The value of a setting. -/
def get (settings : Settings) : (key : Key) → key.kind.Carrier
  | .toggle check => settings.enabled check
  | .limit limit => settings.limit limit
  | .patterns list => settings.patterns list
  | .allowedNumbers => settings.allowedNumbers
  | .countMatchArms => settings.countMatchArms

/-- The settings with the value of one of them replaced. -/
def set (settings : Settings) : (key : Key) → key.kind.Carrier → Settings
  | .toggle check, value =>
    { settings with enabled := fun c => if c = check then value else settings.enabled c }
  | .limit limit, value =>
    { settings with limit := fun l => if l = limit then value else settings.limit l }
  | .patterns list, value =>
    { settings with patterns := fun p => if p = list then value else settings.patterns p }
  | .allowedNumbers, value => { settings with allowedNumbers := value }
  | .countMatchArms, value => { settings with countMatchArms := value }

/-- A setting that was replaced has its new value. -/
@[simp]
theorem get_set_self (settings : Settings) (key : Key) (value : key.kind.Carrier) :
    (settings.set key value).get key = value := by
  cases key <;> simp [get, set]

/-- Replacing a setting leaves all others alone. -/
theorem get_set_of_ne (settings : Settings) {key other : Key} (value : key.kind.Carrier)
    (h : other ≠ key) : (settings.set key value).get other = settings.get other := by
  cases key <;> cases other <;> simp_all [get, set]

/-- Settings are determined by their values. -/
theorem eq_of_get_eq {a b : Settings} (h : ∀ key, a.get key = b.get key) : a = b := by
  obtain ⟨enabled, limit, patterns, numbers, arms⟩ := a
  obtain ⟨enabled', limit', patterns', numbers', arms'⟩ := b
  have henabled : enabled = enabled' := funext fun check => h (.toggle check)
  have hlimit : limit = limit' := funext fun l => h (.limit l)
  have hpatterns : patterns = patterns' := funext fun list => h (.patterns list)
  have hnumbers : numbers = numbers' := h .allowedNumbers
  have harms : arms = arms' := h .countMatchArms
  rw [henabled, hlimit, hpatterns, hnumbers, harms]

end Settings

end ScriptAudit
