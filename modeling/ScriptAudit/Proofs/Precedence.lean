import ScriptAudit.Proofs.Merging
import ScriptAudit.Settings.Load

/-!
# Precedence of settings

Layers of settings are merged name by name, and the value that counts is the one of the last layer
that has the name.  Settings are made if and only if every variable is understood, every name
belongs to a setting, and every value that counts is accepted; each setting then has the value that
counts for it, or its default.  Values that a later layer overrides are never looked at, but an
unknown name or a variable that is not understood is never hidden.

There is one exception.  A pair of limits that stands the wrong way round is remarked upon, and a
limit with too many digits cannot be written into the remark, so that no settings are made at all.

## Main definitions

* `ScriptAudit.Environment.value?` — the value that the environment gives for a setting.
* `ScriptAudit.Layers.winning?` — the value that counts for a name.
* `ScriptAudit.Layers.IsSound` — layers without a fault.
* `ScriptAudit.Layers.Settles` — the settings that layers without a fault make.

## Main results

* `ScriptAudit.Environment.tableFor_eq`, `ScriptAudit.Layers.merged_eq` — reading the environment
  and merging, as equations.
* `ScriptAudit.Settings.takeAll_eq_error_iff`, `ScriptAudit.Settings.settled_of_takeAll` — what
  taking over entries comes to.
* `ScriptAudit.Settings.ofLayers_eq_ok_iff` — the settings that layers make.
* `ScriptAudit.Settings.ofLayers_succeeds_iff` — when settings are made, and which ones.
* `ScriptAudit.Settings.ofLayers_tallLimit` — sound layers from which no settings are made.
-/

set_option relaxedAutoImplicit false
set_option autoImplicit false

namespace ScriptAudit

/-! ## The environment -/

namespace Environment

variable (environment : Environment)

/-- The variable of a setting is understood, if there is one. -/
def Reads (key : Key) : Prop :=
  ∀ text, environment.text? key.variableName = some text →
    ∃ value, SettingKind.readVariable Number.digitLimit key.kind text = .ok value

/-- The value that the environment gives for a setting. -/
def value? (key : Key) : Option Value :=
  (environment.text? key.variableName).bind fun text =>
    (SettingKind.readVariable Number.digitLimit key.kind text).toOption

/-- The error that the variable of a setting makes, if it is not understood. -/
def fault? (key : Key) : Option LoadError :=
  match environment.text? key.variableName with
  | none => none
  | some text =>
    match SettingKind.readVariable Number.digitLimit key.kind text with
    | .error fault => some (.setting key.variableName (.str text) fault)
    | .ok _ => none

/-- The entries that the environment gives for some keys, as far as its variables are understood. -/
def entriesFor (keys : List Key) : Table :=
  keys.filterMap fun key => (environment.value? key).map fun value => (key.name, value)

variable {environment} {key : Key}

/-- The variable of a setting makes an error if and only if it is there and not understood. -/
lemma fault?_eq_some_iff {e : LoadError} :
    environment.fault? key = some e ↔
      ∃ text fault, environment.text? key.variableName = some text ∧
        SettingKind.readVariable Number.digitLimit key.kind text = .error fault ∧
        e = .setting key.variableName (.str text) fault := by
  unfold fault?
  split
  · simp [*]
  · split <;> simp [*, eq_comm]

/-- A variable that makes no error is understood. -/
lemma fault?_eq_none_iff : environment.fault? key = none ↔ environment.Reads key := by
  unfold fault? Reads
  split
  · simp [*]
  · split <;> simp [*]

/-- No variable makes an error if and only if all are understood. -/
lemma findSome?_fault?_eq_none_iff :
    Key.all.findSome? environment.fault? = none ↔ ∀ key, environment.Reads key := by
  simp only [List.findSome?_eq_none_iff, fault?_eq_none_iff, Key.mem_all, forall_const]

/-- Without variables there is nothing that is not understood. -/
lemma reads_nil (key : Key) : Reads [] key := by
  intro text htext
  simp [text?] at htext

/-- **Reading the environment.**  The first variable that is not understood makes an error; if there
is none, the variables give their entries in order.

**Proof sketch.** Induction on the settings.  A variable that is not there gives neither a fault nor
an entry, one that is not understood stops the reading, and one that is understood gives an entry
before those of the rest. -/
lemma tableFor_eq (environment : Environment) (keys : List Key) :
    environment.tableFor keys =
      match keys.findSome? environment.fault? with
      | some e => .error e
      | none => .ok (environment.entriesFor keys) := by
  induction keys with
  | nil => rfl
  | cons key rest ih =>
    rw [tableFor, List.findSome?_cons, entriesFor, List.filterMap_cons]
    cases htext : environment.text? key.variableName with
    | none =>
      have hfault : environment.fault? key = none := by simp [fault?, htext]
      have hvalue : environment.value? key = none := by simp [value?, htext]
      rw [hfault, hvalue]
      exact ih
    | some text =>
      dsimp only
      cases hread : SettingKind.readVariable Number.digitLimit key.kind text with
      | error fault =>
        rw [fault?_eq_some_iff.mpr ⟨text, fault, htext, hread, rfl⟩]
      | ok value =>
        have hfault : environment.fault? key = none := by simp [fault?, htext, hread]
        have hvalue : environment.value? key = some value := by
          simp [value?, htext, hread, Except.toOption]
        rw [hfault, hvalue, ih]
        cases rest.findSome? environment.fault? <;> rfl

/-- The entries of the environment give each setting its value.

**Proof sketch.** Induction on the settings.  Different settings have different names, so an entry
of another one does not interfere, and all entries of the same one hold the same value. -/
lemma value?_entriesFor (environment : Environment) (keys : List Key) (key : Key) :
    (environment.entriesFor keys).value? key.name =
      if key ∈ keys then environment.value? key else none := by
  induction keys with
  | nil => rfl
  | cons first rest ih =>
    rw [entriesFor] at ih ⊢
    rw [List.filterMap_cons]
    cases hvalue : environment.value? first with
    | none =>
      rw [Option.map_none, ih]
      by_cases hkey : key = first
      · simp [hkey, hvalue]
      · simp [hkey]
    | some value =>
      rw [Option.map_some, Table.value?_cons, ih]
      by_cases hkey : key = first
      · by_cases hrest : first ∈ rest <;> simp [hkey, hvalue, hrest]
      · have hname : first.name ≠ key.name := fun h => hkey (Key.name_injective h).symm
        simp [hkey, hname]

/-- Every entry of the environment belongs to a setting. -/
lemma exists_key_of_mem_entriesFor {keys : List Key} {entry : String × Value}
    (h : entry ∈ environment.entriesFor keys) : ∃ key : Key, key.name = entry.1 := by
  obtain ⟨key, -, hkey⟩ := List.mem_filterMap.mp h
  obtain ⟨value, -, rfl⟩ := Option.map_eq_some_iff.mp hkey
  exact ⟨key, rfl⟩

/-- The environment gives values for settings only.

**Proof sketch.** A name that belongs to a setting is looked up by `value?_entriesFor`.  Every entry
of the environment has the name of a setting, so no other name is found. -/
lemma value?_entriesFor_all (environment : Environment) (name : String) :
    (environment.entriesFor Key.all).value? name = (Key.ofName? name).bind environment.value? := by
  cases hname : Key.ofName? name with
  | some key =>
    rw [← Key.ofName?_eq_some_iff.mp hname, value?_entriesFor, if_pos (Key.mem_all key)]
    rfl
  | none =>
    rw [Option.bind_none, Option.eq_none_iff_forall_ne_some]
    intro value hvalue
    obtain ⟨key, hkey⟩ := exists_key_of_mem_entriesFor (Table.mem_of_value?_eq_some hvalue)
    rw [Key.ofName?_eq_some_iff.mpr hkey] at hname
    simp at hname

end Environment

/-! ## Taking over -/

/-- Why an entry is refused, if it is: no setting has its name, or its value is not accepted. -/
def refusal? (name : String) (value : Value) : Option Refusal :=
  match Key.ofName? name with
  | none => some (.fault value .unknown)
  | some key =>
    match key.kind.accept value with
    | .ok _ => none
    | .error refusal => some refusal

/-- The error that an entry makes, if it is refused. -/
def entryError? (name : String) (value : Value) : Option LoadError :=
  (refusal? name value).map (Refusal.toError name)

/-- An entry is taken over if its name belongs to a setting that accepts its value.

**Proof sketch.** By whether the name belongs to a setting, and by whether that setting accepts the
value. -/
lemma entryError?_eq_none_iff {name : String} {value : Value} :
    entryError? name value = none ↔
      ∃ key accepted, Key.ofName? name = some key ∧ key.kind.accept value = .ok accepted := by
  rw [entryError?, Option.map_eq_none_iff, refusal?]
  cases hname : Key.ofName? name with
  | none => simp
  | some key =>
    dsimp only
    cases haccept : key.kind.accept value with
    | ok accepted => simpa using ⟨accepted, haccept⟩
    | error refusal =>
      simp only [reduceCtorEq, Option.some.injEq, false_iff, not_exists, not_and]
      rintro _ accepted rfl
      simp [haccept]

/-- A value was given for a setting and was accepted, or none was given and the setting is as it
was. -/
def Key.Settled (key : Key) (given : Option Value) (before after : key.kind.Carrier) : Prop :=
  match given with
  | some value => key.kind.accept value = .ok after
  | none => after = before

namespace Settings

variable {settings made : Settings} {name : String} {value : Value}

/-- What taking over one entry comes to. -/
lemma take_eq (settings : Settings) (name : String) (value : Value) :
    (∃ e, entryError? name value = some e ∧ settings.take name value = .error e) ∨
      ∃ (key : Key) (accepted : key.kind.Carrier), key.name = name ∧
        key.kind.accept value = .ok accepted ∧ entryError? name value = none ∧
        settings.take name value = .ok (settings.set key accepted) := by
  rw [take, entryError?, refusal?]
  cases hname : Key.ofName? name with
  | none => exact .inl ⟨_, rfl, rfl⟩
  | some key =>
    dsimp only
    cases haccept : key.kind.accept value with
    | error refusal => exact .inl ⟨_, rfl, rfl⟩
    | ok accepted => exact .inr ⟨key, accepted, Key.ofName?_eq_some_iff.mp hname, haccept, rfl, rfl⟩

/-- **Taking over entries.**  The first entry that is refused makes an error.

**Proof sketch.** Induction on the entries.  An entry is either refused, and that ends the taking
over, or taken, and the rest goes on. -/
lemma takeAll_eq_error_iff {e : LoadError} (settings : Settings) (table : Table) :
    settings.takeAll table = .error e ↔
      table.findSome? (fun entry => entryError? entry.1 entry.2) = some e := by
  induction table generalizing settings with
  | nil => simp [takeAll]
  | cons entry rest ih =>
    obtain ⟨name, value⟩ := entry
    rw [takeAll, List.findSome?_cons]
    obtain ⟨fault, hfault, htake⟩ | ⟨key, accepted, -, -, hfault, htake⟩ :=
      take_eq settings name value
    · simp [hfault, htake]
    · simp [hfault, htake, ih]

/-- **Values taken over.**  If all entries are taken over, the last one for a setting gives its
value, and the other settings are left alone.

**Proof sketch.** Induction on the table.  The first entry replaces one setting; the rest of the
table replaces it again if it has an entry for the same setting, and leaves it alone else. -/
lemma settled_of_takeAll {table : Table} (h : settings.takeAll table = .ok made) (key : Key) :
    key.Settled (table.value? key.name) (settings.get key) (made.get key) := by
  induction table generalizing settings with
  | nil =>
    obtain rfl : settings = made := by simpa [takeAll] using h
    rfl
  | cons entry rest ih =>
    obtain ⟨name, value⟩ := entry
    rw [takeAll] at h
    obtain ⟨fault, -, htake⟩ | ⟨first, accepted, rfl, haccept, -, htake⟩ :=
      take_eq settings name value
    · simp [htake] at h
    · have hrest := ih (by simpa [htake] using h)
      rw [Table.value?_cons]
      cases hvalue : Table.value? rest key.name with
      | some later => simpa [hvalue, Key.Settled] using hrest
      | none =>
        -- the rest does not touch this setting, so it is as the first entry left it
        simp only [hvalue, Key.Settled] at hrest
        by_cases hkey : key = first
        · subst hkey
          simpa [Key.Settled, hrest] using haccept
        · have hname : first.name ≠ key.name := fun h => hkey (Key.name_injective h).symm
          simpa [Key.Settled, hname, get_set_of_ne _ _ hkey] using hrest

end Settings

/-! ## Layers -/

namespace Layers

variable (layers : Layers)

/-- **The value that counts** for a name: that of the last layer that has it. -/
def winning? (name : String) : Option Value :=
  (layers.overrides.value? name).or <|
    ((Key.ofName? name).bind layers.environment.value?).or <|
      (layers.named.value? name).or <| (layers.project.value? name).or (layers.home.value? name)

/-- The entries of all layers, one layer after the other. -/
def entries : Table :=
  layers.home ++ layers.project ++ layers.named ++ layers.environment.entriesFor Key.all ++
    layers.overrides

/-- The names that occur in the layers, in the order in which they come. -/
def names : List String := layers.entries.map Prod.fst

/-- The error that the value that counts for a name makes, if it is refused. -/
def fault? (name : String) : Option LoadError := (layers.winning? name).bind (entryError? name)

/-- **Sound layers.**  Nothing in them is at fault but, perhaps, a value that is overridden. -/
structure IsSound : Prop where
  /-- Every variable of a setting is understood. -/
  reads : ∀ key, layers.environment.Reads key
  /-- Every name in a table belongs to a setting. -/
  known : ∀ table ∈ [layers.home, layers.project, layers.named, layers.overrides],
    ∀ entry ∈ table, ∃ key : Key, key.name = entry.1
  /-- Every value that counts is accepted. -/
  accepted : ∀ (key : Key) value, layers.winning? key.name = some value →
    ∃ accepted, key.kind.accept value = .ok accepted

/-- **The settings that layers make**: each is the value that counts for it, as it is accepted, or
its default if no layer has it. -/
def Settles (settings : Settings) : Prop :=
  ∀ key : Key, key.Settled (layers.winning? key.name) (({} : Settings).get key) (settings.get key)

/-- The limit that the layers give. -/
def limit (limit : Limit) : Int :=
  match layers.winning? (Key.limit limit).name with
  | some (.int n) => n
  | _ => limit.standard

/-- **Remarks that fit.**  The limits of every pair that stands the wrong way round may be
written. -/
def RemarksFit : Prop :=
  ∀ pair ∈ Limit.pairs, layers.limit pair.2 < layers.limit pair.1 →
    Number.digitLimit.admits (layers.limit pair.1) ∧ Number.digitLimit.admits (layers.limit pair.2)

variable {layers} {settings : Settings}

/-- Precedence among layers is precedence among their entries. -/
lemma winning?_eq (layers : Layers) (name : String) :
    layers.winning? name = layers.entries.value? name := by
  simp only [winning?, entries, Table.value?_append, Environment.value?_entriesFor_all]

/-- A name has a value that counts if and only if it occurs. -/
lemma mem_names_iff {name : String} :
    name ∈ layers.names ↔ ∃ value, layers.winning? name = some value := by
  simp only [winning?_eq, Table.exists_value?_iff, names]

/-- Merging fails at the first variable that is not understood, and else brings all entries
together. -/
lemma merged_eq (layers : Layers) :
    layers.merged =
      match Key.all.findSome? layers.environment.fault? with
      | some e => .error e
      | none => .ok (Store.merge [] layers.entries) := by
  rw [merged, Environment.table, Environment.tableFor_eq]
  cases Key.all.findSome? layers.environment.fault? with
  | some e => rfl
  | none => simp only [entries, Store.merge, List.foldl_append]

/-- An entry of the layers stands in one of the tables or comes from the environment. -/
lemma mem_entries_iff {entry : String × Value} :
    entry ∈ layers.entries ↔
      (∃ table ∈ [layers.home, layers.project, layers.named, layers.overrides], entry ∈ table) ∨
        entry ∈ layers.environment.entriesFor Key.all := by
  simp only [entries, List.mem_append, List.mem_cons, List.not_mem_nil, or_false, exists_eq_or_imp,
    exists_eq_left]
  tauto

/-- A name that makes no error belongs to a setting that accepts the value that counts. -/
lemma fault?_eq_none_iff {name : String} {value : Value} (h : layers.winning? name = some value) :
    layers.fault? name = none ↔
      ∃ (key : Key) (accepted : key.kind.Carrier), key.name = name ∧
        key.kind.accept value = .ok accepted := by
  rw [fault?, h, Option.bind_some, entryError?_eq_none_iff]
  simp only [Key.ofName?_eq_some_iff]

/-- Soundness, name by name.

**Proof sketch.** Every name comes from an entry of a table or of the environment, so it belongs to
a setting, whose winning value is accepted; hence it is not at fault.  Conversely the names that are
not at fault are those of the tables, and a value that wins is one of a name. -/
lemma isSound_iff :
    layers.IsSound ↔
      (∀ key, layers.environment.Reads key) ∧ ∀ name ∈ layers.names, layers.fault? name = none := by
  constructor
  · intro h
    refine ⟨h.reads, ?_⟩
    intro name hname
    obtain ⟨value, hvalue⟩ := mem_names_iff.mp hname
    obtain ⟨entry, hentry, rfl⟩ := List.mem_map.mp hname
    -- entries of the environment belong to settings anyway
    have hknown : ∃ key : Key, key.name = entry.1 := by
      obtain ⟨table, htable, hentry⟩ | hentry := mem_entries_iff.mp hentry
      · exact h.known table htable entry hentry
      · exact Environment.exists_key_of_mem_entriesFor hentry
    obtain ⟨key, hkey⟩ := hknown
    obtain ⟨accepted, haccepted⟩ := h.accepted key value (hkey ▸ hvalue)
    exact (fault?_eq_none_iff hvalue).mpr ⟨key, accepted, hkey, haccepted⟩
  · rintro ⟨hreads, hnames⟩
    refine ⟨hreads, ?_, ?_⟩
    · intro table htable entry hentry
      have hname : entry.1 ∈ layers.names :=
        List.mem_map_of_mem (mem_entries_iff.mpr (.inl ⟨table, htable, hentry⟩))
      obtain ⟨value, hvalue⟩ := mem_names_iff.mp hname
      obtain ⟨key, -, hkey, -⟩ := (fault?_eq_none_iff hvalue).mp (hnames _ hname)
      exact ⟨key, hkey⟩
    · intro key value hvalue
      have hname := mem_names_iff.mpr ⟨value, hvalue⟩
      obtain ⟨other, accepted, hother, haccepted⟩ := (fault?_eq_none_iff hvalue).mp (hnames _ hname)
      obtain rfl := Key.name_injective hother
      exact ⟨accepted, haccepted⟩

/-- Layers make only one collection of settings.

**Proof sketch.** Setting by setting: each is the value that wins, as it is accepted, or the
default. -/
lemma Settles.eq {other : Settings} (h : layers.Settles settings) (hother : layers.Settles other) :
    settings = other := by
  apply Settings.eq_of_get_eq
  intro key
  have hkey := h key
  have hotherKey := hother key
  unfold Key.Settled at hkey hotherKey
  split at hkey
  · simp only [*, Except.ok.injEq] at hotherKey
    exact hotherKey
  · simp only [*] at hotherKey
    rw [hkey, hotherKey]

/-- The limits of the settings that layers make.

**Proof sketch.** A limit is settled by the value that wins, which is accepted only if it is an
integer, or by its default. -/
lemma Settles.limit_eq (h : layers.Settles settings) (l : Limit) :
    settings.limit l = layers.limit l := by
  have hkey := h (.limit l)
  unfold Key.Settled at hkey
  unfold Layers.limit
  split at hkey
  · rename_i value hvalue
    rw [hvalue]
    cases value with
    | int n => exact (Except.ok.inj hkey).symm
    | _ => simp [SettingKind.accept] at hkey
  · rename_i hvalue
    rw [hvalue]
    exact hkey

/-- The remarks about the settings that layers make. -/
lemma Settles.hasWritableInversions_iff (h : layers.Settles settings) :
    settings.hasWritableInversions = true ↔ layers.RemarksFit := by
  simp only [Settings.hasWritableInversions, Settings.inverted, RemarksFit, h.limit_eq,
    List.all_filter, List.all_eq_true, Bool.or_eq_true, Bool.not_eq_true', decide_eq_false_iff_not,
    Bool.and_eq_true, gt_iff_lt, ← imp_iff_not_or]

end Layers

namespace Settings

variable {layers : Layers}

/-- The first name that makes an error ends the taking over, in the order in which the names first
came. -/
lemma ofTable_merge_eq_error_iff {e : LoadError} (layers : Layers) :
    ofTable (Store.merge [] layers.entries) = .error e ↔
      layers.names.findSome? layers.fault? = some e := by
  have hfault : layers.fault? = fun name => (layers.entries.value? name).bind (entryError? name) :=
    funext fun name => by rw [Layers.fault?, Layers.winning?_eq]
  rw [ofTable, takeAll_eq_error_iff, Store.findSome?_merge_nil, hfault, Layers.names]

/-- **Sound layers are taken over.**  They make settings, which are then checked for their remarks.

**Proof sketch.** No variable is at fault, so the layers are merged, and no name is at fault, so the
merged table is taken over.  What is taken over for a setting is its last value in the table, and
that is the one that wins. -/
lemma exists_settles_of_isSound (h : layers.IsSound) :
    ∃ settings, layers.Settles settings ∧ ofLayers layers = settings.checkRemarks := by
  obtain ⟨hreads, hnames⟩ := Layers.isSound_iff.mp h
  have hmerged : layers.merged = .ok (Store.merge [] layers.entries) := by
    rw [Layers.merged_eq, Environment.findSome?_fault?_eq_none_iff.mpr hreads]
  cases htable : ofTable (Store.merge [] layers.entries) with
  | error e =>
    rw [ofTable_merge_eq_error_iff, List.findSome?_eq_none_iff.mpr hnames] at htable
    simp at htable
  | ok settings =>
    refine ⟨settings, ?_, by simp only [ofLayers, hmerged, htable]⟩
    intro key
    have hsettled := settled_of_takeAll htable key
    rwa [Store.value?_merge_nil, ← Layers.winning?_eq] at hsettled

/-- Settings that were checked for their remarks are the same settings. -/
lemma checkRemarks_eq_ok_iff {settings made : Settings} :
    settings.checkRemarks = .ok made ↔ settings = made ∧ settings.hasWritableInversions = true := by
  unfold checkRemarks
  split <;> simp [*]

/-- Layers that make settings are sound.

**Proof sketch.** A variable at fault would have stopped the merging, and a name at fault the taking
over. -/
lemma isSound_of_ofLayers {settings : Settings} (h : ofLayers layers = .ok settings) :
    layers.IsSound := by
  rw [ofLayers, Layers.merged_eq] at h
  cases hvariables : Key.all.findSome? layers.environment.fault? with
  | some e => simp [hvariables] at h
  | none =>
    simp only [hvariables] at h
    refine Layers.isSound_iff.mpr ⟨Environment.findSome?_fault?_eq_none_iff.mp hvariables, ?_⟩
    rw [← List.findSome?_eq_none_iff]
    cases hnames : layers.names.findSome? layers.fault? with
    | none => rfl
    | some e =>
      simp [(ofTable_merge_eq_error_iff layers).mpr hnames] at h

/-- **Settings from layers.**  Layers make settings if and only if they are sound and these are the
settings that they settle, with remarks that can be written.

**Proof sketch.** Sound layers settle exactly one collection of settings, and these are made unless
their remarks cannot be written. -/
lemma ofLayers_eq_ok_iff {settings : Settings} :
    ofLayers layers = .ok settings ↔
      layers.IsSound ∧ layers.Settles settings ∧ settings.hasWritableInversions = true := by
  constructor
  · intro h
    have hsound := isSound_of_ofLayers h
    obtain ⟨made, hmade, hofLayers⟩ := exists_settles_of_isSound hsound
    rw [hofLayers, checkRemarks_eq_ok_iff] at h
    obtain ⟨rfl, hremarks⟩ := h
    exact ⟨hsound, hmade, hremarks⟩
  · rintro ⟨hsound, hsettles, hremarks⟩
    obtain ⟨made, hmade, hofLayers⟩ := exists_settles_of_isSound hsound
    obtain rfl := hsettles.eq hmade
    rw [hofLayers, checkRemarks_eq_ok_iff]
    exact ⟨rfl, hremarks⟩

/-- Soundness depends on the environment and on the values that count only. -/
lemma isSound_congr {other : Layers} (henvironment : other.environment = layers.environment)
    (hwinning : ∀ name, other.winning? name = layers.winning? name) :
    other.IsSound ↔ layers.IsSound := by
  simp only [Layers.isSound_iff, Layers.mem_names_iff, Layers.fault?, henvironment, hwinning]

/-- **Precedence.**  Layers make settings if and only if every variable of a setting is understood,
every name in a table belongs to a setting and every value that counts is accepted, provided that
the limits of pairs that stand the wrong way round are not too long to be written.  The settings are
then the values that count, as they are accepted, and defaults.  A value that is overridden does not
matter.

**Proof sketch.** All parts are read off `ofLayers_eq_ok_iff`.  Soundness and what is settled depend
on the tables only through the values that win. -/
theorem ofLayers_succeeds_iff (layers : Layers) :
    (∀ sources : Sources, sources.layers = .ok layers → load sources = ofLayers layers) ∧
    ((∃ settings, ofLayers layers = .ok settings) ↔ layers.IsSound ∧ layers.RemarksFit) ∧
    (∀ settings, ofLayers layers = .ok settings → layers.Settles settings) ∧
    ∀ other : Layers, other.environment = layers.environment →
      (∀ name, other.winning? name = layers.winning? name) →
        ∀ settings, ofLayers other = .ok settings ↔ ofLayers layers = .ok settings := by
  refine ⟨?_, ?_, ?_, ?_⟩
  · intro sources hsources
    rw [load, hsources]
  · constructor
    · rintro ⟨settings, h⟩
      obtain ⟨hsound, hsettles, hremarks⟩ := ofLayers_eq_ok_iff.mp h
      exact ⟨hsound, hsettles.hasWritableInversions_iff.mp hremarks⟩
    · rintro ⟨hsound, hremarks⟩
      obtain ⟨settings, hsettles, -⟩ := exists_settles_of_isSound hsound
      exact ⟨settings, ofLayers_eq_ok_iff.mpr
        ⟨hsound, hsettles, hsettles.hasWritableInversions_iff.mpr hremarks⟩⟩
  · intro settings h
    exact (ofLayers_eq_ok_iff.mp h).2.1
  · intro other henvironment hwinning settings
    simp only [ofLayers_eq_ok_iff, isSound_congr henvironment hwinning, Layers.Settles, hwinning]

/-- The limit for a warning about long files is set to the least integer that cannot be written. -/
def tallLimit : Layers :=
  { project := [("file_line_soft", .int (.ofNat (Nat.pow 10 Number.mostDigits)))] }

/-- **A limit that cannot be remarked upon.**  Nothing in these layers is at fault, but the pair of
limits stands the wrong way round and the remark about it cannot be written, so no settings are
made. -/
theorem ofLayers_tallLimit : tallLimit.IsSound ∧ ofLayers tallLimit = .error .unwritable := by
  have hsound : tallLimit.IsSound :=
    Layers.isSound_iff.mpr ⟨Environment.reads_nil, by decide +kernel⟩
  have hremarks : ¬ tallLimit.RemarksFit := by
    unfold Layers.RemarksFit
    decide +kernel
  obtain ⟨settings, hsettles, hmade⟩ := exists_settles_of_isSound hsound
  refine ⟨hsound, ?_⟩
  rw [hmade, checkRemarks, if_neg (mt hsettles.hasWritableInversions_iff.mp hremarks)]

end Settings

end ScriptAudit
