import ScriptAudit.Proofs.DoubleRange
import ScriptAudit.Proofs.FaultOrder

/-!
# Errors that escape

Loading should fail with errors about the configuration only, which name the file or the setting at
fault.  Some errors escape this rule: bytes that are not a text, names of files and integers that
are too long, and integers beyond all doubles in a list of numbers.  This module tells which errors
of loading escape and what brings them about; all other failures name a file or a setting.

Loading is a total function here, so the limits of a machine are left out: values that are nested so
deeply that reading or writing them exhausts the stack are read and written all the same.

## Main definitions

* `ScriptAudit.Sources.Escapes` — the errors that escape, with what brings them about.

## Main results

* `ScriptAudit.SettingKind.accept_eq_tooLarge_iff`,
  `ScriptAudit.SettingKind.accept_eq_unwritable_iff` — the values that are refused without a fault
  being named.
* `ScriptAudit.Settings.load_escapes_iff` — loading fails with an error that is not about the
  configuration if and only if it escapes.
* `ScriptAudit.Settings.load_strayByte_and_vastNumber` — two errors that escape.
-/

set_option relaxedAutoImplicit false
set_option autoImplicit false

namespace ScriptAudit

/-! ## Values that are refused without a fault -/

/-- A list that cannot be written was given as a list. -/
lemma Value.divided_eq_unwritable_list_iff {value : Value} {items : List Value}
    (h : areWritable items = false) : value.divided = .list items ↔ value = .list items := by
  cases value with
  | str s =>
    simp only [divided, reduceCtorEq, iff_false, list.injEq]
    rintro rfl
    have htexts := areWritable_map_str ((Text.entries s.toList).map String.ofList)
    rw [List.map_map, Function.comp_def, h] at htexts
    simp at htexts
  | _ => rfl

/-- A list with an integer in it was given as a list. -/
lemma Value.divided_eq_list_of_int_mem {value : Value} {items : List Value} {n : ℤ}
    (h : .int n ∈ items) : value.divided = .list items ↔ value = .list items := by
  cases value with
  | str s =>
    simp only [divided, reduceCtorEq, iff_false, list.injEq]
    rintro rfl
    simp at h
  | _ => rfl

namespace SettingKind

variable {kind : SettingKind} {value : Value}

/-- **Texts that cannot be written.**  Only a list of texts can be refused because of an integer
that is too long to become a text.

**Proof sketch.** By the kind of the setting.  Texts are refused in this way exactly if a list is
given that has such an item, as a text that is divided gives texts only.  Numbers are refused by the
first item that is none, and that is never a matter of writing it. -/
lemma accept_eq_unwritable_iff :
    kind.accept value = .error .unwritable ↔
      kind = .texts ∧ ∃ items, value = .list items ∧ Value.areWritable items = false := by
  cases kind with
  | switch => cases value <;> simp [accept]
  | integer => cases value <;> simp [accept]
  | texts =>
    simp only [accept, true_and]
    constructor
    · intro h
      split at h
      · rename_i items hdivided
        split at h
        · simp at h
        · rename_i hitems
          have hitems := Bool.eq_false_of_not_eq_true hitems
          exact ⟨items, (Value.divided_eq_unwritable_list_iff hitems).mp hdivided, hitems⟩
      · simp at h
    · rintro ⟨items, rfl, hitems⟩
      simp [Value.divided, hitems]
  | numbers =>
    simp only [accept, reduceCtorEq, false_and, iff_false]
    split
    · rw [toDoubles_eq_error_iff]
      intro h
      obtain ⟨item, -, hitem⟩ := List.exists_of_findSome?_eq_some h
      simp [itemRefusal?_eq_some_iff] at hitem
    · simp

/-- **Numbers that are too large.**  Only a list of numbers can be refused because of an integer
beyond all doubles; the items before it are numbers.

**Proof sketch.** By the kind of the setting, and for numbers by the first item that is refused.  It
is an integer beyond all doubles, which by `Number.ofInteger?_eq_none_iff` is a matter of its
size. -/
lemma accept_eq_tooLarge_iff :
    kind.accept value = .error .tooLarge ↔
      kind = .numbers ∧ ∃ before n after, value = .list (before ++ .int n :: after) ∧
        (∀ item ∈ before, ∃ x, item.toDouble? = .ok (some x)) ∧ 2 ^ 1024 - 2 ^ 970 ≤ n.natAbs := by
  cases kind with
  | switch =>
    simp only [reduceCtorEq, false_and, iff_false]
    cases value <;> simp [accept]
  | integer =>
    simp only [reduceCtorEq, false_and, iff_false]
    cases value <;> simp [accept]
  | texts =>
    simp only [accept, reduceCtorEq, false_and, iff_false]
    split
    · split <;> simp
    · simp
  | numbers =>
    simp only [accept, true_and]
    constructor
    · intro h
      split at h
      · rename_i items hdivided
        obtain ⟨before, item, after, rfl, hitem, hbefore⟩ :=
          List.findSome?_eq_some_iff.mp (toDoubles_eq_error_iff.mp h)
        obtain ⟨n, rfl, hn, -⟩ | ⟨-, hrefusal⟩ := itemRefusal?_eq_some_iff.mp hitem
        · -- a text that is divided gives texts only, so this was given as a list
          have hmem : Value.int n ∈ before ++ .int n :: after := List.mem_append_cons_self
          refine ⟨before, n, after, (Value.divided_eq_list_of_int_mem hmem).mp hdivided, ?_, ?_⟩
          · exact fun earlier hearlier => itemRefusal?_eq_none_iff.mp (hbefore earlier hearlier)
          · exact (Number.ofInteger?_eq_none_iff n).mp hn
        · simp at hrefusal
      · simp at h
    · rintro ⟨before, n, after, rfl, hbefore, hn⟩
      refine toDoubles_eq_error_iff.mpr
        (List.findSome?_eq_some_iff.mpr ⟨before, _, after, rfl, ?_, ?_⟩)
      · exact itemRefusal?_eq_some_iff.mpr
          (.inl ⟨n, rfl, (Number.ofInteger?_eq_none_iff n).mpr hn, rfl⟩)
      · exact fun earlier hearlier => itemRefusal?_eq_none_iff.mpr (hbefore earlier hearlier)

end SettingKind

/-! ## All errors that escape -/

/-- **Errors that escape**, with what brings them about. -/
inductive Sources.Escapes (sources : Sources) : LoadError → Prop
  /-- A file is opened whose bytes are not a text. -/
  | undecodable {path : String} {bytes : ByteArray} (hopens : sources.Opens path (.bytes bytes))
      (hbytes : String.fromUTF8? bytes = none) : Escapes sources .undecodable
  /-- A file is opened whose document holds an integer with too many digits. -/
  | overlong {path : String} {bytes : ByteArray} {text : String} {digits : Nat}
      (hopens : sources.Opens path (.bytes bytes)) (hbytes : String.fromUTF8? bytes = some text)
      (hparse : Toml.parse text = .error (.overlong digits)) : Escapes sources (.overlong digits)
  /-- The named file is looked for, and has too long a name. -/
  | nameTooLong {name : String} (h : sources.Seeks name .nameTooLong) :
      Escapes sources (.nameTooLong (Path.parse name).text)
  /-- The first value at fault is a list of numbers with an integer beyond all doubles. -/
  | tooLarge {layers : Layers} {before after : List Value} {n : ℤ}
      (hfiles : sources.layers = .ok layers)
      (hfirst : layers.FirstRefused Key.allowedNumbers.name
        (.list (before ++ .int n :: after)) .tooLarge)
      (hbefore : ∀ item ∈ before, ∃ x, item.toDouble? = .ok (some x))
      (hn : 2 ^ 1024 - 2 ^ 970 ≤ n.natAbs) : Escapes sources .tooLarge
  /-- The first value at fault is a list of texts with an integer that cannot be written. -/
  | unwritableText {layers : Layers} {patterns : PatternList} {items : List Value}
      (hfiles : sources.layers = .ok layers)
      (hfirst : layers.FirstRefused (Key.patterns patterns).name (.list items) .unwritable)
      (hitems : Value.areWritable items = false) : Escapes sources .unwritable
  /-- The first value at fault cannot be shown in the message about it. -/
  | unwritableValue {layers : Layers} {name : String} {value shown : Value} {fault : SettingFault}
      (hfiles : sources.layers = .ok layers)
      (hfirst : layers.FirstRefused name value (.fault shown fault))
      (hshown : shown.isWritable = false) : Escapes sources .unwritable
  /-- Nothing is at fault, but a remark on a pair of limits cannot be written. -/
  | unwritableRemark {layers : Layers} (hfiles : sources.layers = .ok layers)
      (hsound : layers.IsSound) (hremarks : ¬ layers.RemarksFit) : Escapes sources .unwritable

/-- Nothing can be said about a value that cannot be shown. -/
lemma Refusal.toError_of_not_isWritable {shown : Value} {fault : SettingFault}
    (h : shown.isWritable = false) (name : String) :
    (Refusal.fault shown fault).toError name = .unwritable := by
  simp [toError, h]

/-- A refusal that names no fault, or whose value cannot be shown, makes an error that escapes.

**Proof sketch.** By the refusal.  A fault escapes only if its value cannot be shown; the other two
refusals come from one kind of setting each, and `SettingKind.accept_eq_tooLarge_iff` and
`SettingKind.accept_eq_unwritable_iff` say what the value is. -/
lemma Sources.escapes_of_firstRefused {sources : Sources} {layers : Layers} {name : String}
    {value : Value} {refusal : Refusal} (hfiles : sources.layers = .ok layers)
    (hfirst : layers.FirstRefused name value refusal)
    (he : ¬ (refusal.toError name).IsConfiguration) :
    sources.Escapes (refusal.toError name) := by
  cases refusal with
  | fault shown fault =>
    have hshown : shown.isWritable = false := Bool.eq_false_of_not_eq_true fun hshown =>
      he (Refusal.isConfiguration_toError_iff.mpr ⟨shown, fault, rfl, hshown⟩)
    rw [Refusal.toError_of_not_isWritable hshown]
    exact .unwritableValue hfiles hfirst hshown
  | tooLarge =>
    obtain ⟨-, hrefusal⟩ | ⟨key, rfl, haccept⟩ := refusal?_eq_some_iff.mp hfirst.refused
    · simp at hrefusal
    · obtain ⟨hkind, before, n, after, rfl, hbefore, hn⟩ :=
        SettingKind.accept_eq_tooLarge_iff.mp haccept
      cases key with
      | allowedNumbers => exact .tooLarge hfiles hfirst hbefore hn
      | _ => simp [Key.kind] at hkind
  | unwritable =>
    obtain ⟨-, hrefusal⟩ | ⟨key, rfl, haccept⟩ := refusal?_eq_some_iff.mp hfirst.refused
    · simp at hrefusal
    · obtain ⟨hkind, items, rfl, hitems⟩ := SettingKind.accept_eq_unwritable_iff.mp haccept
      cases key with
      | patterns list => exact .unwritableText hfiles hfirst hitems
      | _ => simp [Key.kind] at hkind

/-- **What escapes.**  Loading fails with an error that is not about the configuration if and only
if that error escapes.  In all other cases it makes settings or names the file or the setting at
fault.

**Proof sketch.** Loading fails while the files are read, or while the layers are combined.
`load_eq_error_iff` and `ofLayers_eq_error_iff` list the errors of both, and each of them is about
the configuration or one of those that escape. -/
theorem Settings.load_escapes_iff (sources : Sources) (e : LoadError) :
    (load sources = .error e ∧ ¬ e.IsConfiguration) ↔ sources.Escapes e := by
  constructor
  · rintro ⟨h, he⟩
    obtain hfile | ⟨layers, hfiles, h⟩ := load_eq_error_iff.mp h
    · cases hfile with
      | missing hseeks => exact absurd trivial he
      | nameTooLong hseeks => exact .nameTooLong hseeks
      | opened hopens hfails =>
        cases hfails with
        | directory => exact absurd trivial he
        | malformed hbytes hparse => exact absurd trivial he
        | undecodable hbytes => exact .undecodable hopens hbytes
        | overlong hbytes hparse => exact .overlong hopens hbytes hparse
    · obtain ⟨key, text, fault, hfirst, rfl⟩ | ⟨name, value, refusal, hfirst, rfl⟩ |
          ⟨hsound, hremarks, rfl⟩ := ofLayers_eq_error_iff.mp h
      · exact absurd trivial he
      · exact Sources.escapes_of_firstRefused hfiles hfirst he
      · exact .unwritableRemark hfiles hsound hremarks
  · intro h
    cases h with
    | undecodable hopens hbytes =>
      exact ⟨load_eq_error_iff.mpr (.inl (.opened hopens (.undecodable hbytes))), id⟩
    | overlong hopens hbytes hparse =>
      exact ⟨load_eq_error_iff.mpr (.inl (.opened hopens (.overlong hbytes hparse))), id⟩
    | nameTooLong h => exact ⟨load_eq_error_iff.mpr (.inl (.nameTooLong h)), id⟩
    | tooLarge hfiles hfirst hbefore hn => exact ⟨load_eq_of_firstRefused hfiles hfirst, id⟩
    | unwritableText hfiles hfirst hitems => exact ⟨load_eq_of_firstRefused hfiles hfirst, id⟩
    | unwritableValue hfiles hfirst hshown =>
      have hload := load_eq_of_firstRefused hfiles hfirst
      rw [Refusal.toError_of_not_isWritable hshown] at hload
      exact ⟨hload, id⟩
    | unwritableRemark hfiles hsound hremarks =>
      have hlayers := ofLayers_eq_error_iff.mpr (.inr (.inr ⟨hsound, hremarks, rfl⟩))
      exact ⟨load_eq_error_iff.mpr (.inr ⟨_, hfiles, hlayers⟩), id⟩

/-- A file of the project that holds a byte that no text begins with. -/
def strayByte : Sources :=
  { homeDirectory := "/home", workDirectory := "/work"
    disk := [(["work", "qube.toml"], .bytes ⟨#[0xff]⟩)] }

/-- A list of numbers with an integer that is beyond all doubles. -/
def vastNumber : Sources :=
  { homeDirectory := "/home", workDirectory := "/work"
    overrides := [("allowed_numbers", .list [.int (.ofNat (Nat.pow 10 400))])] }

/-- **Two errors that escape.**  A file that is not a text and an integer that is too large are not
reported as errors about the configuration. -/
theorem Settings.load_strayByte_and_vastNumber :
    load strayByte = .error .undecodable ∧ load vastNumber = .error .tooLarge ∧
      ¬ LoadError.undecodable.IsConfiguration ∧ ¬ LoadError.tooLarge.IsConfiguration := by
  refine ⟨?_, ?_, id, id⟩
  · have hbytes : String.fromUTF8? ⟨#[0xff]⟩ = none := by decide +kernel
    exact load_eq_error_iff.mpr (.inl (.opened (.project rfl rfl) (.undecodable hbytes)))
  · have haccept := SettingKind.accept_eq_tooLarge_iff.mpr
      ⟨rfl, [], .ofNat (Nat.pow 10 400), [], rfl, by simp, by decide +kernel⟩
    have hrefusal := refusal?_eq_some_iff.mpr (.inr ⟨.allowedNumbers, rfl, haccept⟩)
    exact load_eq_of_firstRefused rfl ⟨Environment.reads_nil, rfl, hrefusal, [], [], rfl, by simp⟩

end ScriptAudit
