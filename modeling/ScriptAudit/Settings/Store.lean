/-!
# Ordered stores

A store keeps entries by key in the order in which the keys first came.

## Main definitions

* `ScriptAudit.Store.put` — sets the entry of a key, which keeps its place if it has one.
* `ScriptAudit.Store.merge` — puts all entries of a list, one after the other.

## Main results

* `ScriptAudit.Store.get?_put`, `ScriptAudit.Store.keys_put` — what a put does to the entries and to
  the order of the keys.
-/

set_option autoImplicit false

namespace ScriptAudit

/-- Entries by key, in the order in which the keys first came. -/
abbrev Store (α : Type) := List (String × α)

namespace Store

variable {α : Type}

/-- Sets the entry of a key.  A key that is there keeps its place; a new key comes last. -/
def put (store : Store α) (key : String) (value : α) : Store α :=
  match store with
  | [] => [(key, value)]
  | (k, v) :: rest => if k = key then (k, value) :: rest else (k, v) :: put rest key value

/-- The entry of a key. -/
def get? (store : Store α) (key : String) : Option α :=
  match store with
  | [] => none
  | (k, v) :: rest => if k = key then some v else get? rest key

/-- Puts all entries of a list, one after the other. -/
def merge (store : Store α) (entries : List (String × α)) : Store α :=
  entries.foldl (fun store (key, value) => store.put key value) store

/-- After a put, its key has its value and every other key what it had before. -/
theorem get?_put (store : Store α) (key k : String) (value : α) :
    (store.put key value).get? k = if k = key then some value else store.get? k := by
  induction store with
  | nil => simp [put, get?, eq_comm]
  | cons entry rest ih =>
    obtain ⟨name, v⟩ := entry
    by_cases hname : name = key
    · subst hname
      by_cases h : name = k
      · simp [put, get?, h]
      · simp [put, get?, h, Ne.symm h]
    · by_cases h : name = k
      · subst h
        simp [put, get?, hname]
      · simp [put, get?, hname, h, ih]

/-- A put adds its key at the end, unless the key is there already. -/
theorem keys_put (store : Store α) (key : String) (value : α) :
    (store.put key value).map Prod.fst =
      if key ∈ store.map Prod.fst then store.map Prod.fst else store.map Prod.fst ++ [key] := by
  induction store with
  | nil => simp [put]
  | cons entry rest ih =>
    obtain ⟨name, v⟩ := entry
    by_cases h : name = key
    · simp [put, h]
    · by_cases hmem : key ∈ rest.map Prod.fst <;> simp_all [put, Ne.symm h]

end Store

end ScriptAudit
