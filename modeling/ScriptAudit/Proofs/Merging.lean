import Mathlib.Data.List.Nodup
import ScriptAudit.Settings.Layers

/-!
# Merging tables of settings

Tables of settings are brought together name by name.  A name keeps the place where it first came,
but its value is the one that came last.  The place and the value of a name may thus come from
different tables.

## Main definitions

* `ScriptAudit.Table.value?` — the value that a table gives for a name.

## Main results

* `ScriptAudit.Key.ofName?_eq_some_iff`, `ScriptAudit.Key.name_injective` — settings and their
  names.
* `ScriptAudit.Store.get?_merge`, `ScriptAudit.Store.value?_merge_nil` — the value that came last
  counts.
* `ScriptAudit.Store.findSome?_names_merge` — names keep the order in which they first came.
* `ScriptAudit.Store.findSome?_merge_nil` — going through merged entries, in the order of their
  names.
-/

set_option relaxedAutoImplicit false
set_option autoImplicit false

namespace ScriptAudit

/-! ## Names of settings -/

namespace Key

/-- The list of all keys is complete. -/
lemma mem_all (key : Key) : key ∈ all := by
  cases key with
  | toggle check => cases check <;> decide
  | limit limit => cases limit <;> decide
  | patterns list => cases list <;> decide
  | allowedNumbers => decide
  | countMatchArms => decide

/-- A setting is found by its name, and by no other name. -/
lemma ofName?_eq_some_iff {name : String} {key : Key} :
    ofName? name = some key ↔ key.name = name := by
  constructor
  · intro h
    simpa using List.find?_some h
  · rintro rfl
    have hall : ∀ key ∈ all, ofName? key.name = some key := by decide +kernel
    exact hall key (mem_all key)

/-- Different settings have different names. -/
lemma name_injective : Function.Injective name := by
  intro a b h
  have hb := ofName?_eq_some_iff.mpr h.symm
  rw [ofName?_eq_some_iff.mpr rfl] at hb
  exact Option.some.inj hb

end Key

/-! ## Tables -/

namespace Table

/-- The value that a table gives for a name: that of its last entry with this name. -/
def value? (table : Table) (name : String) : Option Value :=
  (table.reverse.find? (·.1 == name)).map (·.2)

/-- An empty table has no values. -/
@[simp]
lemma value?_nil (name : String) : value? [] name = none := rfl

/-- Of two tables the second one takes precedence. -/
lemma value?_append (first second : Table) (name : String) :
    value? (first ++ second) name = (second.value? name).or (first.value? name) := by
  rw [value?, List.reverse_append, List.find?_append, Option.map_or]
  rfl

/-- The first entry of a table counts if no other one has its name. -/
lemma value?_cons (key : String) (value : Value) (rest : Table) (name : String) :
    value? ((key, value) :: rest) name =
      (rest.value? name).or (if key = name then some value else none) := by
  rw [← List.singleton_append, value?_append]
  congr 1
  by_cases h : key = name <;> simp [value?, h]

/-- A table gives a value for exactly the names that it has.

**Proof sketch.** Induction on the entries.  The value of a later entry counts first, and only
without one does the entry itself decide. -/
lemma exists_value?_iff (table : Table) (name : String) :
    (∃ value, table.value? name = some value) ↔ name ∈ table.map Prod.fst := by
  induction table with
  | nil => simp
  | cons entry rest ih =>
    obtain ⟨key, value⟩ := entry
    rw [value?_cons, List.map_cons, List.mem_cons, ← ih]
    cases h : value? rest name with
    | some found => simp
    | none =>
      by_cases hkey : key = name
      · simp [hkey]
      · simp [hkey, Ne.symm hkey]

/-- The value that a table gives stands in it. -/
lemma mem_of_value?_eq_some {table : Table} {name : String} {value : Value}
    (h : table.value? name = some value) : (name, value) ∈ table := by
  obtain ⟨⟨key, v⟩, hfind, rfl⟩ := Option.map_eq_some_iff.mp h
  have hkey : key = name := by simpa using List.find?_some hfind
  subst hkey
  exact List.mem_reverse.mp (List.mem_of_find?_eq_some hfind)

end Table

/-! ## Merging -/

namespace Store

variable {store : Store Value}

/-- What is merged into a store takes precedence over what it held.

**Proof sketch.** Induction on the table.  Each entry is put over the store before the rest is
merged, so the last one with the name is what is found. -/
lemma get?_merge (store : Store Value) (table : Table) (name : String) :
    (store.merge table).get? name = (table.value? name).or (store.get? name) := by
  induction table generalizing store with
  | nil => rfl
  | cons entry rest ih =>
    obtain ⟨key, value⟩ := entry
    calc (store.merge ((key, value) :: rest)).get? name
        = ((store.put key value).merge rest).get? name := rfl
      _ = (Table.value? rest name).or (if name = key then some value else store.get? name) := by
        rw [ih, get?_put]
      _ = _ := by
        rw [Table.value?_cons, Option.or_assoc]
        congr 1
        by_cases h : key = name
        · simp [h]
        · simp [h, Ne.symm h]

/-- A put keeps the names of a store distinct. -/
lemma nodup_put (h : (store.map Prod.fst).Nodup) (key : String) (value : Value) :
    ((store.put key value).map Prod.fst).Nodup := by
  rw [keys_put]
  split
  · exact h
  · rename_i hkey
    exact h.append (List.nodup_singleton key) (List.disjoint_singleton.mpr hkey)

/-- Merging keeps the names of a store distinct. -/
lemma nodup_merge (store : Store Value) (h : (store.map Prod.fst).Nodup) (table : Table) :
    ((store.merge table).map Prod.fst).Nodup := by
  induction table generalizing store with
  | nil => exact h
  | cons entry rest ih => exact ih _ (nodup_put h entry.1 entry.2)

/-- **The order of names.**  The first name with some property is the same in the merged store as in
the store followed by the table: a name keeps the place where it first came.

**Proof sketch.** Induction on the table.  Putting a name that is new adds it at the end.  Putting
one that is there changes no place, and a name that comes a second time finds nothing that it did
not find the first time. -/
lemma findSome?_names_merge {β : Type} (store : Store Value) (table : Table)
    (f : String → Option β) :
    ((store.merge table).map Prod.fst).findSome? f =
      (store.map Prod.fst ++ table.map Prod.fst).findSome? f := by
  induction table generalizing store with
  | nil => simp [merge]
  | cons entry rest ih =>
    obtain ⟨key, value⟩ := entry
    have hput : ((store.put key value).map Prod.fst).findSome? f =
        (store.map Prod.fst ++ [key]).findSome? f := by
      rw [keys_put]
      split
      · -- a name that is there already finds nothing new
        rename_i hkey
        rw [List.findSome?_append]
        cases hfound : (store.map Prod.fst).findSome? f with
        | some found => rfl
        | none => simp [List.findSome?_eq_none_iff.mp hfound key hkey]
      · rfl
    calc ((store.merge ((key, value) :: rest)).map Prod.fst).findSome? f
        = ((store.put key value).map Prod.fst ++ rest.map Prod.fst).findSome? f := ih _
      _ = (store.map Prod.fst ++ [key] ++ rest.map Prod.fst).findSome? f := by
        rw [List.findSome?_append, hput, ← List.findSome?_append]
      _ = _ := by simp

/-- In a store with distinct names, the entries are what is found by name.

**Proof sketch.** Induction on the entries.  The first entry with the name is the only one, since
the names are distinct. -/
lemma get?_eq_some_iff (h : (store.map Prod.fst).Nodup) {name : String} {value : Value} :
    store.get? name = some value ↔ (name, value) ∈ store := by
  induction store with
  | nil => simp [get?]
  | cons entry rest ih =>
    obtain ⟨key, v⟩ := entry
    rw [List.map_cons, List.nodup_cons] at h
    rw [List.mem_cons, ← ih h.2, get?]
    by_cases hkey : key = name
    · subst hkey
      have hrest : get? rest key ≠ some value := fun hfound =>
        h.1 (List.mem_map.mpr ⟨_, (ih h.2).mp hfound, rfl⟩)
      simp [hrest, eq_comm]
    · simp [hkey, Ne.symm hkey]

/-- In a store with distinct names, the first and the last entry with a name are the same.

**Proof sketch.** Both lookups give entries of the store, and by `get?_eq_some_iff` there is at most
one with the name. -/
lemma value?_eq_get? (h : (store.map Prod.fst).Nodup) (name : String) :
    Table.value? store name = store.get? name := by
  cases hget : store.get? name with
  | some value =>
    have hmem := (get?_eq_some_iff h).mp hget
    obtain ⟨other, hother⟩ :=
      (Table.exists_value?_iff store name).mpr (List.mem_map.mpr ⟨_, hmem, rfl⟩)
    rw [(get?_eq_some_iff h).mpr (Table.mem_of_value?_eq_some hother)] at hget
    rw [hother, hget]
  | none =>
    cases hvalue : Table.value? store name with
    | none => rfl
    | some value =>
      rw [(get?_eq_some_iff h).mpr (Table.mem_of_value?_eq_some hvalue)] at hget
      simp at hget

/-- A table gives the same values before and after its entries are brought together by name. -/
lemma value?_merge_nil (table : Table) (name : String) :
    Table.value? (merge [] table) name = table.value? name := by
  rw [value?_eq_get? (nodup_merge [] List.nodup_nil table), get?_merge]
  exact Option.or_none

/-- **Going through merged entries.**  The first entry of the merged table with some property is
found by going through the names in the order in which they first came, each with the value that
counts for it.

**Proof sketch.** The names of the merged store are distinct, so each entry holds the value that
counts for its name.  Going through the entries is going through the names, and their order is that
of `findSome?_names_merge`. -/
lemma findSome?_merge_nil {β : Type} (table : Table) (f : String → Value → Option β) :
    (merge [] table).findSome? (fun entry => f entry.1 entry.2) =
      (table.map Prod.fst).findSome? fun name => (table.value? name).bind (f name) := by
  have hnodup := nodup_merge [] List.nodup_nil table
  have hentry : ∀ entry ∈ merge [] table,
      f entry.1 entry.2 = (table.value? entry.1).bind (f entry.1) := by
    intro entry hentry
    rw [← value?_merge_nil, value?_eq_get? hnodup, (get?_eq_some_iff hnodup).mpr hentry]
    rfl
  have hnames := findSome?_names_merge [] table fun name => (table.value? name).bind (f name)
  rw [List.findSome?_map, List.map_nil, List.nil_append] at hnames
  rw [← hnames, ← List.head?_filterMap, ← List.head?_filterMap, List.filterMap_congr hentry]
  rfl

end Store

end ScriptAudit
