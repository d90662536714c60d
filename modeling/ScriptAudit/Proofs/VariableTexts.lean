import Mathlib.Data.List.Forall2
import Mathlib.Tactic.Common
import ScriptAudit.Proofs.Numerals
import ScriptAudit.Settings.Admission

/-!
# What variables can express

A setting can be given by the caller as a value, or by a variable as a text.  The text is read
according to the kind of the setting, and what was read is admitted as if the caller had given it.
Here it is shown that this way round through a text loses nothing: every integer, every list of
texts that could stand between commas, and both truth values have texts that give the same setting
as the values themselves.

## Main definitions

* `ScriptAudit.Key.GivesSame` — a text in a variable gives a setting the same value as a value of
  the caller.
* `ScriptAudit.ListedItem`, `ScriptAudit.listedText` — the items of a list with blanks around them,
  and the text of a list.
* `ScriptAudit.IsCaseVariant` — a word with some of its letters as capitals.

## Main results

* `ScriptAudit.Number.integer_toString` — the decimal text of an integer is read back.
* `ScriptAudit.entries_listedText` — the items of a list are read back.
* `ScriptAudit.contains_toLower_iff` — when a text becomes one of some words in small letters.
* `ScriptAudit.Key.givesSame_of_variable` — what variables can express.
-/

set_option relaxedAutoImplicit false
set_option autoImplicit false

namespace ScriptAudit

open Text

/-! ## Decimal texts -/

namespace Number

/-- The value of a decimal digit is its distance from zero. -/
lemma digitValue?_of_isDigit {c : Char} (h : c.isDigit = true) :
    digitValue? c = some (c.toNat - '0'.toNat) := by
  have hbounds : 48 ≤ c.toNat ∧ c.toNat ≤ 57 := by
    simpa [Char.isDigit, UInt32.le_iff_toNat_le] using h
  rw [digitValue?, zeroDigits, offsetInRun?, if_neg (by omega), if_pos (by omega)]
  rfl

/-- The digits in the decimal text of a natural number. -/
def decimalDigits (n : Nat) : List Char := Nat.toDigits 10 n

/-- The digits of a number are decimal digits. -/
lemma isDigit_of_mem_decimalDigits {n : Nat} {c : Char} (h : c ∈ decimalDigits n) :
    isDigit c = true := by
  have hc := Nat.isDigit_of_mem_toDigits (by decide) (by decide) h
  rw [isDigit, digitValue?_of_isDigit hc]
  rfl

/-- The digits of a number spell it. -/
lemma digitsValue_decimalDigits (n : Nat) : digitsValue (decimalDigits n) = n := by
  have hvalue : digitsValue (decimalDigits n) = Nat.ofDigitChars 10 (decimalDigits n) 0 := by
    refine List.foldl_ext _ _ _ fun start c hc => ?_
    rw [digitValue?_of_isDigit (Nat.isDigit_of_mem_toDigits (by decide) (by decide) hc)]
    rfl
  rw [hvalue]
  exact Nat.ofDigitChars_ten_toDigits

/-- The digits of a natural number as a numeral. -/
def decimalNumeral (n : Nat) : Script.Numeral where
  whole := decimalDigits n
  decimals := none
  whole_digits := by
    have hne : decimalDigits n ≠ [] := Nat.toDigits_ne_nil
    rw [Script.isDigits, Bool.and_eq_true, List.all_eq_true]
    exact ⟨by simpa using hne, fun c hc => isDigit_of_mem_decimalDigits hc⟩
  decimals_digits := rfl

/-- A limit allows the digits of the integers that it admits. -/
lemma allows_decimalDigits {most : Nat} (hmost : 0 < most) {n : Int}
    (h : DigitLimit.admits (some most) n = true) :
    DigitLimit.allows (some most) (decimalDigits n.natAbs).length = true := by
  rw [DigitLimit.admits, decide_eq_true_eq] at h
  rw [DigitLimit.allows, decide_eq_true_eq]
  exact (Nat.length_toDigits_le_iff (by decide) hmost).mpr h

/-- An integer is written as a sign and a numeral.

**Proof sketch.** By the sign of the integer.  Its digits are those of its absolute value. -/
lemma toList_toString (n : Int) :
    (toString n).toList = Script.signText (decide (n < 0)) ++ (decimalNumeral n.natAbs).text := by
  have htext : (decimalNumeral n.natAbs).text = n.natAbs.repr.toList := by
    rw [Nat.repr_eq_ofList_toDigits, String.toList_ofList]
    exact List.append_nil _
  rw [Int.toString_eq_repr, Int.repr_eq_if, htext]
  split_ifs with h
  · have hsign : decide (n < 0) = false := by simpa using h
    have habs : n.toNat = n.natAbs := by omega
    rw [hsign, habs]
    rfl
  · have hsign : decide (n < 0) = true := by simpa using h
    have habs : (-n).toNat = n.natAbs := by omega
    rw [hsign, habs, String.toList_append]
    rfl

/-- **The decimal text of an integer** is read as that integer, under every limit that allows its
digits.

**Proof sketch.** No blank, underscore or second sign stands in the text, so the sign is divided off
and the run of digits is all that is left. -/
lemma integer_toString {limit : DigitLimit} {n : Int}
    (h : limit.allows (decimalDigits n.natAbs).length = true) :
    integer limit (toString n).toList = .ok n := by
  have hdigits : (decimalDigits n.natAbs).all isRunChar = true := by
    rw [List.all_eq_true]
    intro c hc
    rw [isRunChar, isDigit_of_mem_decimalDigits hc, Bool.true_or]
  have hunderscore : '_' ∉ decimalDigits n.natAbs := by
    intro hmem
    exact absurd (isDigit_of_mem_decimalDigits hmem) (by decide)
  have htext : (decimalNumeral n.natAbs).text = decimalDigits n.natAbs := List.append_nil _
  have hrun := List.takeWhile_eq_self_iff.mpr (List.all_eq_true.mp hdigits)
  have hne : (decimalDigits n.natAbs).isEmpty = false :=
    List.isEmpty_eq_false_iff.mpr Nat.toDigits_ne_nil
  rw [integer, toList_toString, Script.trimNumber_signed, Script.sign_signText, htext]
  simp only [hrun, Script.dropUnderscores?_of_not_mem hunderscore, h, hne, hdigits,
    digitsValue_decimalDigits, decide_eq_true_eq, Bool.not_true, Bool.or_false,
    Bool.false_eq_true, if_false]
  split_ifs with hnegative
  · have hvalue : -(n.natAbs : Int) = n := by omega
    rw [hvalue]
  · have hvalue : (n.natAbs : Int) = n := by omega
    rw [hvalue]

end Number

/-! ## Lists -/

/-- **An item of a list** with blanks around it: it is not empty, no comma stands in it, and
trimming leaves it as it is. -/
structure ListedItem where
  item : String
  before : List Char
  after : List Char
  ne_nil : item.toList ≠ []
  no_comma : ',' ∉ item.toList
  trimmed : trim item.toList = item.toList
  blank_before : isBlankText before = true
  blank_after : isBlankText after = true

/-- The text of an item with its blanks. -/
def ListedItem.text (i : ListedItem) : List Char := i.before ++ (i.item.toList ++ i.after)

/-- The text of a list: its items, with commas between them. -/
def listedText (items : List ListedItem) : String :=
  String.ofList ([','].intercalate (items.map ListedItem.text))

/-- Blanks hold no commas. -/
lemma ne_comma_of_isBlankText {s : List Char} (h : isBlankText s = true) : ',' ∉ s := by
  intro hmem
  exact absurd (List.all_eq_true.mp h ',' hmem) (by decide)

/-- **The items of a list** are read back, whatever blanks stand around them.

**Proof sketch.** No item holds a comma, so the text is divided where the items were joined, and the
blanks around an item are trimmed off. -/
lemma entries_listedText (items : List ListedItem) :
    entries (listedText items).toList = items.map (·.item.toList) := by
  rw [listedText, String.toList_ofList]
  apply entries_intercalate
  · intro i _ hcomma
    rw [ListedItem.text, List.mem_append, List.mem_append] at hcomma
    rcases hcomma with hbefore | hitem | hafter
    · exact ne_comma_of_isBlankText i.blank_before hbefore
    · exact i.no_comma hitem
    · exact ne_comma_of_isBlankText i.blank_after hafter
  · intro i _
    rw [ListedItem.text, trim_append_of_isBlankText i.blank_before,
      trim_append_blanks i.blank_after, i.trimmed]
  · exact fun i _ => i.ne_nil

/-! ## Letter case -/

/-- Only the capital letters from A to Z are made small, by a fixed distance. -/
lemma toNat_toLower (c : Char) :
    c.toLower.toNat = if 65 ≤ c.toNat ∧ c.toNat ≤ 90 then c.toNat + 32 else c.toNat := by
  have hbounds : c.val ≥ 'A'.val ∧ c.val ≤ 'Z'.val ↔ 65 ≤ c.toNat ∧ c.toNat ≤ 90 :=
    and_congr UInt32.le_iff_toNat_le UInt32.le_iff_toNat_le
  unfold Char.toLower
  split_ifs with h₁ h₂ h₂
  · have hsum : (c.val + ('a'.val - 'A'.val)).toNat = (c.toNat + 32) % 2 ^ 32 :=
      UInt32.toNat_add _ _
    exact hsum.trans (Nat.mod_eq_of_lt (by omega))
  · exact absurd (hbounds.mp h₁) h₂
  · exact absurd (hbounds.mpr h₂) h₁
  · rfl

/-- Only the small letters from a to z are made capital, by a fixed distance.

**Proof sketch.** Adding the distance between the two alphabets wraps around, which amounts to
taking 32 away. -/
lemma toNat_toUpper (c : Char) :
    c.toUpper.toNat = if 97 ≤ c.toNat ∧ c.toNat ≤ 122 then c.toNat - 32 else c.toNat := by
  have hbounds : c.val ≥ 'a'.val ∧ c.val ≤ 'z'.val ↔ 97 ≤ c.toNat ∧ c.toNat ≤ 122 :=
    and_congr UInt32.le_iff_toNat_le UInt32.le_iff_toNat_le
  unfold Char.toUpper
  split_ifs with h₁ h₂ h₂
  · have hsum : (c.val + ('A'.val - 'a'.val)).toNat = (c.toNat + (2 ^ 32 - 32)) % 2 ^ 32 :=
      UInt32.toNat_add _ _
    exact hsum.trans (by omega)
  · exact absurd (hbounds.mp h₁) h₂
  · exact absurd (hbounds.mpr h₂) h₁
  · rfl

/-- A character becomes a small one if it is that character already or its capital.

**Proof sketch.** By code points: the two letters of a pair differ by 32, and nothing else is
moved. -/
lemma toLower_eq_iff {c d : Char} (hc : c.isUpper = false) :
    d.toLower = c ↔ d = c ∨ d = c.toUpper := by
  have hupper : ¬ (65 ≤ c.toNat ∧ c.toNat ≤ 90) := by
    rw [← isUpper_iff, hc]
    exact Bool.false_ne_true
  rw [← Char.toNat_inj, ← Char.toNat_inj, ← Char.toNat_inj, toNat_toLower, toNat_toUpper]
  split_ifs <;> omega

/-- **A variant of a word in small letters**: any of its letters may be a capital. -/
def IsCaseVariant (word text : String) : Prop :=
  List.Forall₂ (fun c d => d = c ∨ d = c.toUpper) word.toList text.toList

instance (word text : String) : Decidable (IsCaseVariant word text) :=
  inferInstanceAs (Decidable (List.Forall₂ _ _ _))

/-- A text spells a word in small and capital letters if and only if it becomes the word when it is
made small. -/
lemma forall₂_toUpper_iff {word : List Char} (hword : word.all (!·.isUpper) = true)
    (text : List Char) :
    List.Forall₂ (fun c d => d = c ∨ d = c.toUpper) word text ↔ text.map Char.toLower = word := by
  induction word generalizing text with
  | nil => simp
  | cons c more ih =>
    rw [List.all_cons, Bool.and_eq_true, Bool.not_eq_true'] at hword
    cases text with
    | nil => simp
    | cons d rest =>
      rw [List.forall₂_cons, List.map_cons, List.cons.injEq, toLower_eq_iff hword.1, ih hword.2]

/-- **Some words are looked for in small letters**: a text is found if it is a variant of one of
them.

**Proof sketch.** The words have no capitals, so a text is a variant of one of them exactly if it
becomes that word in small letters. -/
lemma contains_toLower_iff {words : List String}
    (hwords : ∀ word ∈ words, word.toList.all (!·.isUpper) = true) (text : String) :
    words.contains (String.ofList (text.toList.map Char.toLower)) = true ↔
      ∃ word ∈ words, IsCaseVariant word text := by
  rw [List.contains_iff_mem]
  constructor
  · intro hmem
    refine ⟨_, hmem, (forall₂_toUpper_iff (hwords _ hmem) _).mpr ?_⟩
    rw [String.toList_ofList]
  · rintro ⟨word, hword, hvariant⟩
    rw [(forall₂_toUpper_iff (hwords word hword) _).mp hvariant, String.ofList_toList]
    exact hword

/-! ## Variables and callers -/

/-- **A variable can say what a caller says**: its text is read, and what was read is admitted as
the same value of the setting as the value that the caller gives. -/
def Key.GivesSame (limit : Number.DigitLimit) (key : Key) (text : String) (given : Value) : Prop :=
  ∃ read accepted, SettingKind.readVariable limit key.kind text = .ok read ∧
    key.kind.accept read = .ok accepted ∧ key.kind.accept given = .ok accepted

/-- The text of an integer gives the same limit as the integer. -/
lemma Key.givesSame_limit {limit : Number.DigitLimit} {n : Int}
    (h : limit.allows (Number.decimalDigits n.natAbs).length = true) (l : Limit) :
    (Key.limit l).GivesSame limit (toString n) (.int n) := by
  refine ⟨.int n, n, ?_, rfl, rfl⟩
  simp only [SettingKind.readVariable, Number.integer_toString h]

/-- A list of texts is admitted as it is, whether it was given as a list or divided at its
commas. -/
lemma accept_texts {value : Value} {texts : List String}
    (h : value.divided = .list (texts.map .str)) :
    SettingKind.texts.accept value = .ok texts := by
  have htexts : (texts.map Value.str).map Value.text = texts := by
    rw [List.map_map]
    exact List.map_id texts
  simp only [SettingKind.accept, h, Value.areWritable_map_str, if_true, htexts]

/-- A text with commas gives the same list as its entries. -/
lemma Key.givesSame_patterns (limit : Number.DigitLimit) (p : PatternList)
    (items : List ListedItem) :
    (Key.patterns p).GivesSame limit (listedText items) (.list (items.map (.str ·.item))) := by
  refine ⟨.str (listedText items), items.map (·.item), rfl, accept_texts ?_, accept_texts ?_⟩
  · rw [Value.divided, entries_listedText, List.map_map, List.map_map]
    simp
  · show Value.list _ = _
    rw [List.map_map]
    rfl

section Switch

variable {limit : Number.DigitLimit} {text : String}

/-- No word stands for both true and false. -/
lemma not_contains_wordsForTrue {word : String}
    (h : SettingKind.wordsForFalse.contains word = true) :
    SettingKind.wordsForTrue.contains word = false := by
  have hall : SettingKind.wordsForFalse.all (!SettingKind.wordsForTrue.contains ·) = true := by
    decide
  rw [List.contains_iff_mem] at h
  simpa using List.all_eq_true.mp hall word h

/-- A word for true is read as true, in small or capital letters. -/
lemma readVariable_true (h : ∃ word ∈ SettingKind.wordsForTrue, IsCaseVariant word text) :
    SettingKind.readVariable limit .switch text = .ok (.bool true) := by
  rw [← contains_toLower_iff (by decide)] at h
  simp only [SettingKind.readVariable, h, if_true]

/-- A word for false is read as false, in small or capital letters. -/
lemma readVariable_false (h : ∃ word ∈ SettingKind.wordsForFalse, IsCaseVariant word text) :
    SettingKind.readVariable limit .switch text = .ok (.bool false) := by
  rw [← contains_toLower_iff (by decide)] at h
  simp only [SettingKind.readVariable, not_contains_wordsForTrue h, h, Bool.false_eq_true,
    if_false, if_true]

/-- Any other text is refused for a switch. -/
lemma readVariable_other (htrue : ¬ ∃ word ∈ SettingKind.wordsForTrue, IsCaseVariant word text)
    (hfalse : ¬ ∃ word ∈ SettingKind.wordsForFalse, IsCaseVariant word text) :
    SettingKind.readVariable limit .switch text = .error (.notSwitchText text) := by
  rw [← contains_toLower_iff (by decide)] at htrue hfalse
  simp only [SettingKind.readVariable, htrue, hfalse, Bool.false_eq_true, if_false]

/-- A text that is read as a truth value gives the same switch as that value. -/
lemma Key.givesSame_switch {key : Key} (hkind : key.kind = .switch) {b : Bool}
    (h : SettingKind.readVariable limit .switch text = .ok (.bool b)) :
    key.GivesSame limit text (.bool b) := by
  cases key with
  | toggle check => exact ⟨.bool b, b, h, rfl, rfl⟩
  | countMatchArms => exact ⟨.bool b, b, h, rfl, rfl⟩
  | limit l => cases hkind
  | patterns p => cases hkind
  | allowedNumbers => cases hkind

end Switch

/-- **What variables can express.**  The decimal text of an integer gives a limit the same value as
the integer, without a limit on digits for all integers, and under the limit in force for those that
it admits.  The items of a list, none of them empty, with a comma in it or with blanks at its ends,
give a list of texts the same value if they are written with commas between them and any blanks
around these.  The words for true and false give a switch the same value as true and false, with any
of their letters as capitals, and all other texts are refused.

**Proof sketch.** Limits, lists and switches are read back by one lemma each.  A limit on digits
matters for integers only.  A text that is a case variant of none of the eight words is one of
neither list. -/
theorem Key.givesSame_of_variable :
    (∀ (l : Limit) (n : Int), (Key.limit l).GivesSame none (toString n) (.int n)) ∧
    (∀ (l : Limit) (n : Int), Number.digitLimit.admits n = true →
      (Key.limit l).GivesSame Number.digitLimit (toString n) (.int n)) ∧
    (∀ (limit : Number.DigitLimit) (p : PatternList) (items : List ListedItem),
      (Key.patterns p).GivesSame limit (listedText items) (.list (items.map (.str ·.item)))) ∧
    ∀ (limit : Number.DigitLimit) (key : Key), key.kind = .switch → ∀ text : String,
      ((∃ word ∈ ["true", "1", "yes", "on"], IsCaseVariant word text) →
        key.GivesSame limit text (.bool true)) ∧
      ((∃ word ∈ ["false", "0", "no", "off"], IsCaseVariant word text) →
        key.GivesSame limit text (.bool false)) ∧
      ((∀ word ∈ ["true", "1", "yes", "on", "false", "0", "no", "off"], ¬ IsCaseVariant word text) →
        SettingKind.readVariable limit key.kind text = .error (.notSwitchText text)) := by
  refine ⟨fun l n => Key.givesSame_limit rfl l, fun l n hn => ?_, Key.givesSame_patterns, ?_⟩
  · exact Key.givesSame_limit (Number.allows_decimalDigits (by decide) hn) l
  · intro limit key hkind text
    refine ⟨fun h => Key.givesSame_switch hkind (readVariable_true h),
      fun h => Key.givesSame_switch hkind (readVariable_false h), fun h => ?_⟩
    rw [hkind]
    apply readVariable_other
    · rintro ⟨word, hword, hvariant⟩
      exact h word (List.mem_append_left SettingKind.wordsForFalse hword) hvariant
    · rintro ⟨word, hword, hvariant⟩
      exact h word (List.mem_append_right SettingKind.wordsForTrue hword) hvariant

/-- Two items of a list, the first one with a blank inside and blanks of other scripts behind it. -/
def spacedItems : List ListedItem :=
  [⟨"a b", [], "\u3000\t".toList, by decide +kernel, by decide +kernel, by decide +kernel, rfl,
      by decide +kernel⟩,
   ⟨"c", " ".toList, [], by decide +kernel, by decide +kernel, by decide +kernel,
      by decide +kernel, rfl⟩]

/-- A negative limit, a list with blanks around its comma, words with capitals, and a word that is
none of these. -/
theorem Key.givesSame_of_variable_mixed :
    Number.digitLimit.admits (-12) = true ∧
      (Key.limit .nesting).GivesSame Number.digitLimit "-12" (.int (-12)) ∧
      (Key.patterns .todoMarkers).GivesSame none "a b\u3000\t, c" (.list [.str "a b", .str "c"]) ∧
      IsCaseVariant "yes" "yEs" ∧ Key.countMatchArms.GivesSame none "yEs" (.bool true) ∧
      IsCaseVariant "off" "OFF" ∧ (Key.toggle .longLine).GivesSame none "OFF" (.bool false) ∧
      SettingKind.readVariable none .switch "yes " = .error (.notSwitchText "yes ") := by
  obtain ⟨-, hlimit, hlist, hswitch⟩ := Key.givesSame_of_variable
  have hadmits : Number.digitLimit.admits (-12) = true := by decide +kernel
  have hyes : IsCaseVariant "yes" "yEs" := by decide +kernel
  have hoff : IsCaseVariant "off" "OFF" := by decide +kernel
  have hnone : ∀ word ∈ ["true", "1", "yes", "on", "false", "0", "no", "off"],
      ¬ IsCaseVariant word "yes " := by
    decide +kernel
  have htext : listedText spacedItems = "a b\u3000\t, c" := by decide +kernel
  have hitems := hlist none .todoMarkers spacedItems
  rw [htext] at hitems
  exact ⟨hadmits, hlimit .nesting (-12) hadmits, hitems, hyes,
    (hswitch none .countMatchArms rfl "yEs").1 ⟨"yes", by decide, hyes⟩, hoff,
    (hswitch none (.toggle .longLine) rfl "OFF").2.1 ⟨"off", by decide, hoff⟩,
    (hswitch none .countMatchArms rfl "yes ").2.2 hnone⟩

end ScriptAudit
