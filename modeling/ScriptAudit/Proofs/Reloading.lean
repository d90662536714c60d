import ScriptAudit.Proofs.Precedence

/-!
# Loading settings again

Settings that were loaded have values of the right types, and nothing changes if they are loaded
once more from their own values: a switch stays a switch and a limit a limit, texts in a list are
not divided again, and numbers are not read again.  Nor can loading fail the second time, since it
wrote all remarks the first time.

## Main definitions

* `ScriptAudit.Value.HasKind` — a loosely typed value has the type of a kind of settings.

## Main results

* `ScriptAudit.SettingKind.accept_toValue` — the value of a setting is accepted as it is.
* `ScriptAudit.Settings.load_toTable_of_load` — loaded settings are loaded again from their own
  values.
-/

set_option relaxedAutoImplicit false
set_option autoImplicit false

namespace ScriptAudit

/-! ## Types -/

/-- A loosely typed value has the type of a kind: a truth value for a switch, an integer for a
limit, a list of texts or a list of doubles. -/
def Value.HasKind : Value → SettingKind → Prop
  | .bool _, .switch => True
  | .int _, .integer => True
  | .list items, .texts => ∀ item ∈ items, ∃ s, item = .str s
  | .list items, .numbers => ∀ item ∈ items, ∃ x, item = .float x
  | _, _ => False

namespace SettingKind

/-- The value of a setting has the type of its kind. -/
lemma hasKind_toValue (kind : SettingKind) (x : kind.Carrier) : (kind.toValue x).HasKind kind := by
  cases kind with
  | switch => trivial
  | integer => trivial
  | texts => simp [toValue, Value.HasKind]
  | numbers => simp [toValue, Value.HasKind]

/-- Doubles are read as they are. -/
lemma toDoubles_map_float (whole : Value) (items : List Float) :
    toDoubles whole (items.map .float) = .ok items := by
  induction items with
  | nil => rfl
  | cons x rest ih => simp [toDoubles, Value.toDouble?, ih]

/-- **Values are accepted as they are.**  The value of a setting, given as a loosely typed value, is
accepted and stays the same. -/
lemma accept_toValue (kind : SettingKind) (x : kind.Carrier) :
    kind.accept (kind.toValue x) = .ok x := by
  cases kind with
  | switch => rfl
  | integer => rfl
  | texts =>
    have htexts : (x.map Value.str).map Value.text = x := by simp [Value.text, Function.comp_def]
    simp [accept, toValue, Value.divided, Value.areWritable_map_str, htexts]
  | numbers => exact toDoubles_map_float _ x

end SettingKind

/-! ## Loading again -/

namespace Settings

variable {settings : Settings} {overrides : Table}

/-- Settings given as entries, in any order, give each setting its value. -/
lemma value?_of_perm_toTable (h : overrides.Perm settings.toTable) (key : Key) :
    overrides.value? key.name = some (key.kind.toValue (settings.get key)) := by
  have hnodup : (overrides.map Prod.fst).Nodup := by
    rw [(h.map Prod.fst).nodup_iff, toTable, List.map_map]
    exact (List.nodup_map_iff Key.name_injective).mpr (by decide)
  rw [Store.value?_eq_get? hnodup, Store.get?_eq_some_iff hnodup, h.mem_iff]
  exact List.mem_map_of_mem (Key.mem_all key)

/-- Settings given as entries, in any order, are sound and settle themselves.

**Proof sketch.** For each setting its own value wins, written as a value, and a setting accepts
what it wrote and reads it back. -/
lemma isSound_and_settles_of_perm_toTable (h : overrides.Perm settings.toTable) :
    ({ overrides := overrides } : Layers).IsSound ∧
      ({ overrides := overrides } : Layers).Settles settings := by
  have hwinning : ∀ key : Key, ({ overrides := overrides } : Layers).winning? key.name =
      some (key.kind.toValue (settings.get key)) := by
    intro key
    rw [Layers.winning?, value?_of_perm_toTable h, Option.some_or]
  refine ⟨⟨Environment.reads_nil, ?_, ?_⟩, ?_⟩
  · intro table htable entry hentry
    simp only [List.mem_cons, List.not_mem_nil, or_false, or_self_left] at htable
    obtain rfl | rfl := htable
    · simp at hentry
    · obtain ⟨key, -, rfl⟩ := List.mem_map.mp (h.mem_iff.mp hentry)
      exact ⟨key, rfl⟩
  · intro key value hvalue
    rw [hwinning, Option.some.injEq] at hvalue
    exact ⟨settings.get key, hvalue ▸ SettingKind.accept_toValue key.kind (settings.get key)⟩
  · intro key
    rw [hwinning]
    exact SettingKind.accept_toValue key.kind (settings.get key)

/-- Loaded settings have remarks that can be written. -/
lemma hasWritableInversions_of_load {sources : Sources} (h : load sources = .ok settings) :
    settings.hasWritableInversions = true := by
  rw [load] at h
  split at h
  · exact (ofLayers_eq_ok_iff.mp h).2.2
  · simp at h

/-- On an empty disk there are no files, whatever the paths of the directories are. -/
lemma layers_of_no_disk (home work : String) (overrides : Table) :
    ({ homeDirectory := home, workDirectory := work, overrides := overrides } : Sources).layers =
      .ok ⟨[], [], [], [], overrides⟩ := by
  have hempty : ∀ (place : Place) (name : String), Disk.at? [] (place ++ [name]) = none := by
    intro place name
    simp [Disk.at?]
  simp only [Sources.layers, Sources.homeTable, Sources.projectTable, Sources.namedTable,
    Sources.homeFile?, Sources.projectFile?, hempty, tableOfOptional]

/-- **Loaded settings stay as they are.**  Settings that were loaded from anywhere have values of
the types of their kinds, and loading them again without files and variables, from all their own
values in any order, gives the same settings. -/
theorem load_toTable_of_load (sources : Sources) (settings : Settings)
    (h : load sources = .ok settings) :
    (∀ key : Key, (key.kind.toValue (settings.get key)).HasKind key.kind) ∧
      ∀ (home work : String) (overrides : Table), overrides.Perm settings.toTable →
        load { homeDirectory := home, workDirectory := work, overrides := overrides } =
          .ok settings := by
  refine ⟨fun key => key.kind.hasKind_toValue (settings.get key), ?_⟩
  intro home work overrides hperm
  obtain ⟨hsound, hsettles⟩ := isSound_and_settles_of_perm_toTable hperm
  rw [load, layers_of_no_disk]
  exact ofLayers_eq_ok_iff.mpr ⟨hsound, hsettles, hasWritableInversions_of_load h⟩

/-- A file of the project, variables and values of the caller that together touch every kind of
setting. -/
def mixedSources : Sources :=
  { homeDirectory := "/home", workDirectory := "/work"
    disk := [(["work", "qube.toml"], .bytes "todo_patterns=' A,5,'".toUTF8)]
    environment := [("QUBE_CHECK_GOD_CLASS", "Off"), ("QUBE_MAX_NESTING", " 1_0 ")]
    overrides := [("allowed_numbers", .list [.str "nan", .int 3, .bool true])] }

/-- Loading these sources gives settings other than the defaults, which load as themselves; and so
do the defaults. -/
theorem load_toTable_mixedSources :
    (∃ settings, load mixedSources = .ok settings ∧ settings.enabled .godClass = false ∧
      settings.limit .nesting = 10 ∧ settings.patterns .todoMarkers = ["A", "5"] ∧
      settings.allowedNumbers.length = 3 ∧
      load { homeDirectory := "/home", workDirectory := "/work", overrides := settings.toTable } =
        .ok settings) ∧
    load { homeDirectory := "/home", workDirectory := "/work"
           overrides := ({} : Settings).toTable } = .ok {} := by
  have hmixed : (load mixedSources).toOption.any (fun settings =>
      settings.enabled .godClass == false && settings.limit .nesting == 10 &&
      settings.patterns .todoMarkers == ["A", "5"] &&
      settings.allowedNumbers.length == 3) = true := by
    decide +kernel
  have hdefault : load { homeDirectory := "/home", workDirectory := "/work" } = .ok {} := rfl
  refine ⟨?_, (load_toTable_of_load _ _ hdefault).2 _ _ _ (List.Perm.refl _)⟩
  cases hload : load mixedSources with
  | error e =>
    rw [hload] at hmixed
    simp [Except.toOption] at hmixed
  | ok settings =>
    rw [hload] at hmixed
    simp only [Except.toOption, Option.any_some, Bool.and_eq_true, beq_iff_eq] at hmixed
    obtain ⟨⟨⟨hswitch, hlimit⟩, htexts⟩, hnumbers⟩ := hmixed
    exact ⟨settings, rfl, hswitch, hlimit, htexts, hnumbers,
      (load_toTable_of_load _ _ hload).2 _ _ _ (List.Perm.refl _)⟩

end Settings

end ScriptAudit
