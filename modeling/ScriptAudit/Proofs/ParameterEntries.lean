import Mathlib.Data.List.Infix
import Mathlib.Tactic.Common
import ScriptAudit.Proofs.ParameterList

/-!
# Entries of a parameter list

A parameter list is meant to be read as entries with commas between them.  An entry may hold commas
of its own, as long as they stand inside brackets.  The number of parameters is found without
dividing the list: one scan over the brackets finds its end, another one counts the commas outside
all brackets, and a comma at the very end is not counted.  Here a list is written from its entries,
and the number that comes out is the number of entries.

## Main definitions

* `ScriptAudit.Signature.Entry` — an entry of a parameter list.
* `ScriptAudit.Signature.listed` — the text of some entries with commas between them.
* `ScriptAudit.Signature.withList` — a signature with a given parameter list, which may lack its
  end.

## Main results

* `ScriptAudit.Signature.atClosing_append` — the scan for the end of a list passes over balanced
  texts.
* `ScriptAudit.Signature.topLevelCommas_listed` — the commas outside all brackets are those between
  the entries.
* `ScriptAudit.Signature.parameterCount_listed` — the number of parameters is the number of entries.
-/

set_option relaxedAutoImplicit false
set_option autoImplicit false

namespace ScriptAudit.Signature

open Text Script

/-! ## Balanced texts side by side -/

/-- Depths of brackets add up. -/
lemma depth_append (s t : List Char) : depth (s ++ t) = depth s + depth t := by
  simp only [depth, List.countP_append]
  push_cast
  omega

/-- What follows a text that closes all brackets is read with no bracket open.

**Proof sketch.** Induction on the first text, with the number of brackets that are open before
it. -/
lemma BalancedFrom.append {start : Int} {s t : List Char} (hs : BalancedFrom start s)
    (ht : Balanced t) :
    BalancedFrom start (s ++ t) := by
  induction s generalizing start with
  | nil =>
    obtain rfl := (balancedFrom_nil start).mp hs
    exact ht
  | cons c rest ih =>
    obtain ⟨hstart, hrest⟩ := (balancedFrom_cons start c rest).mp hs
    exact (balancedFrom_cons start c (rest ++ t)).mpr ⟨hstart, ih hrest⟩

/-- A text without brackets is balanced. -/
lemma balanced_of_forall_change {text : List Char} (h : ∀ c ∈ text, change c = 0) :
    Balanced text := by
  induction text with
  | nil => exact (balancedFrom_nil 0).mpr rfl
  | cons c rest ih =>
    rw [Balanced, balancedFrom_cons, h c List.mem_cons_self]
    exact ⟨Int.le_refl 0, ih fun d hd => h d (List.mem_cons_of_mem c hd)⟩

/-- **The scan for the end of a list passes over balanced texts.**  It then goes on without any
bracket open.

**Proof sketch.** Induction on the text, with the number of open brackets.  An opening bracket adds
one, and a closing bracket takes one away, which is there to be taken since the depth never falls
below zero.  At the end no bracket is open. -/
lemma atClosing_append {begun : Nat} {text : List Char} (h : BalancedFrom begun text)
    (rest : List Char) :
    atClosing begun (text ++ rest) = (text ++ (atClosing 0 rest).1, (atClosing 0 rest).2) := by
  induction text generalizing begun with
  | nil =>
    have hbegun := (balancedFrom_nil begun).mp h
    obtain rfl : begun = 0 := by omega
    rfl
  | cons c more ih =>
    obtain ⟨-, hmore⟩ := (balancedFrom_cons begun c more).mp h
    rw [List.cons_append, List.cons_append]
    cases hopening : isOpening c with
    | true =>
      have hdeeper : BalancedFrom ((begun + 1 : Nat) : Int) more := by
        rwa [change_of_isOpening hopening] at hmore
      rw [atClosing_cons_opening hopening, ih hdeeper]
    | false =>
      cases hclosing : isClosing c with
      | false =>
        rw [change_of_other hopening hclosing, Int.add_zero] at hmore
        rw [atClosing_cons_other hopening hclosing, ih hmore]
      | true =>
        rw [change_of_isClosing hclosing] at hmore
        cases begun with
        | zero => simpa [depth] using hmore.nonneg [] List.nil_prefix
        | succ begun =>
          have hless : ((begun + 1 : Nat) : Int) + -1 = begun := by omega
          rw [hless] at hmore
          rw [atClosing_succ_cons_closing hclosing, ih hmore]

/-! ## Commas outside all brackets -/

/-- A comma counts if it stands outside all brackets, and the rest is counted from the depth behind
the first character.

**Proof sketch.** By the first character.  A comma changes no depth and is counted at depth zero;
every other character changes the depth by what it opens or closes and is not counted. -/
lemma topLevelCommas_cons (start : Int) (c : Char) (rest : List Char) :
    topLevelCommas start (c :: rest) =
      (if c = ',' ∧ start = 0 then 1 else 0) + topLevelCommas (start + change c) rest := by
  rw [topLevelCommas]
  by_cases hcomma : c = ','
  · subst hcomma
    have hchange : change ',' = 0 := by decide
    rw [if_neg (by decide), if_neg (by decide), hchange, Int.add_zero]
    by_cases hstart : start = 0
    · simp [hstart, Nat.add_comm]
    · simp [hstart]
  · cases hopening : isOpening c with
    | true => simp [hcomma, change_of_isOpening hopening]
    | false =>
      cases hclosing : isClosing c with
      | true => simp [hcomma, change_of_isClosing hclosing, Int.sub_eq_add_neg]
      | false => simp [hcomma, change_of_other hopening hclosing]

/-- **Commas are counted part by part**: those of a second part from the depth at which the first
part ends.

**Proof sketch.** Induction on the first part; the depth behind its first character is carried
along. -/
lemma topLevelCommas_append (start : Int) (s t : List Char) :
    topLevelCommas start (s ++ t) =
      topLevelCommas start s + topLevelCommas (start + depth s) t := by
  induction s generalizing start with
  | nil => simp [topLevelCommas, depth]
  | cons c rest ih =>
    rw [List.cons_append, topLevelCommas_cons, topLevelCommas_cons, ih, depth_cons, Int.add_assoc,
      Nat.add_assoc]

/-- There is no comma to count exactly if brackets are open before each comma.

**Proof sketch.** Induction on the text, with the depth before it.  A comma at the beginning has
nothing before it, and a later one has the first character and what follows it. -/
lemma topLevelCommas_eq_zero_iff (start : Int) (text : List Char) :
    topLevelCommas start text = 0 ↔
      ∀ before after, text = before ++ ',' :: after → start + depth before ≠ 0 := by
  induction text generalizing start with
  | nil => simp [topLevelCommas]
  | cons c rest ih =>
    rw [topLevelCommas_cons, Nat.add_eq_zero_iff, ih]
    constructor
    · rintro ⟨hfirst, hrest⟩ before after htext
      cases before with
      | nil =>
        obtain ⟨rfl, -⟩ := List.cons.inj htext
        rintro hzero
        simp [depth] at hzero
        simp [hzero] at hfirst
      | cons d before =>
        obtain ⟨rfl, hmore⟩ := List.cons.inj htext
        rw [depth_cons, ← Int.add_assoc]
        exact hrest before after hmore
    · intro h
      refine ⟨?_, fun before after htext => ?_⟩
      · rw [if_neg]
        rintro ⟨rfl, hstart⟩
        exact h [] rest rfl (by simpa [depth] using hstart)
      · have hne := h (c :: before) after (by rw [htext, List.cons_append])
        rwa [depth_cons, ← Int.add_assoc] at hne

/-- A text has no commas outside brackets if and only if every comma has an open bracket before
it. -/
lemma topLevelCommas_zero_eq_zero_iff (text : List Char) :
    topLevelCommas 0 text = 0 ↔ ∀ before after, text = before ++ ',' :: after →
      depth before ≠ 0 := by
  simpa only [Int.zero_add] using topLevelCommas_eq_zero_iff 0 text

/-! ## Blanks -/

section Blanks

variable {blanks : List Char} (h : isBlankText blanks = true)
include h

/-- Blanks are balanced. -/
lemma balanced_blanks : Balanced blanks := by
  apply balanced_of_forall_change
  intro c hc
  have hne {d : Char} (hd : isBlank d = false) : c ≠ d :=
    ne_of_isBlank (List.all_eq_true.mp h c hc) hd
  apply change_of_other
  · simp [isOpening, hne (d := '(') (by decide), hne (d := '[') (by decide),
      hne (d := '{') (by decide)]
  · simp [isClosing, hne (d := ')') (by decide), hne (d := ']') (by decide),
      hne (d := '}') (by decide)]

/-- Blanks hold no commas. -/
lemma topLevelCommas_blanks (start : Int) : topLevelCommas start blanks = 0 := by
  rw [topLevelCommas_eq_zero_iff]
  rintro before after rfl
  have hcomma : isBlank ',' = true := List.all_eq_true.mp h ',' (by simp)
  exact absurd hcomma (by decide)

end Blanks

/-- Trimming takes off no commas. -/
lemma topLevelCommas_trimEnd (start : Int) (text : List Char) :
    topLevelCommas start (trimEnd text) = topLevelCommas start text := by
  obtain ⟨blanks, hblanks, htext⟩ := exists_eq_trimEnd_append text
  conv_rhs => rw [htext, topLevelCommas_append, topLevelCommas_blanks hblanks, Nat.add_zero]

/-! ## Lists written from entries -/

/-- **An entry of a parameter list.**  It holds no quotes and no number sign, closes the brackets
that it opens, and has commas only inside brackets. -/
structure Entry where
  text : List Char
  plain : text.all isPlain = true
  balanced : Balanced text
  comma_nested : ∀ before after, text = before ++ ',' :: after → depth before ≠ 0

/-- The text of some entries with commas between them. -/
def listed (entries : List Entry) : List Char := [','].intercalate (entries.map Entry.text)

/-- A list of one entry is that entry. -/
lemma listed_singleton (e : Entry) : listed [e] = e.text := List.intercalate_singleton

/-- A comma stands between two entries. -/
lemma listed_cons_cons (e f : Entry) (more : List Entry) :
    listed (e :: f :: more) = e.text ++ ',' :: listed (f :: more) := by
  simp [listed]

/-- A signature with a given parameter list.  Behind the list stand its closing parenthesis and a
tail; both are missing if the list is not closed on the line. -/
def withList (head list : List Char) : (tail : Option (List Char)) → List Char
  | some tail => ofParts head list tail
  | none => head ++ '(' :: list

/-- An entry holds no commas outside brackets. -/
lemma Entry.topLevelCommas_text (e : Entry) : topLevelCommas 0 e.text = 0 :=
  (topLevelCommas_zero_eq_zero_iff e.text).mpr e.comma_nested

/-- A list of plain entries is plain. -/
lemma all_isPlain_listed (entries : List Entry) : (listed entries).all isPlain = true := by
  induction entries with
  | nil => rfl
  | cons e more ih =>
    cases more with
    | nil => simpa [listed_singleton] using e.plain
    | cons f more =>
      rw [listed_cons_cons, List.all_append, List.all_cons, e.plain, ih]
      decide

/-- A comma before a balanced text leaves it balanced. -/
lemma balanced_cons_comma {text : List Char} (h : Balanced text) : Balanced (',' :: text) :=
  (balancedFrom_cons 0 ',' text).mpr ⟨Int.le_refl 0, h⟩

/-- A list of balanced entries is balanced.

**Proof sketch.** Induction on the entries: two balanced texts one behind the other are balanced,
and so is one behind a comma. -/
lemma balanced_listed (entries : List Entry) : Balanced (listed entries) := by
  induction entries with
  | nil => exact (balancedFrom_nil 0).mpr rfl
  | cons e more ih =>
    cases more with
    | nil => simpa [listed_singleton] using e.balanced
    | cons f more =>
      rw [listed_cons_cons]
      exact e.balanced.append (balanced_cons_comma ih)

/-- A comma before a text adds one. -/
lemma topLevelCommas_cons_comma (text : List Char) :
    topLevelCommas 0 (',' :: text) = topLevelCommas 0 text + 1 := by
  rw [topLevelCommas_cons, if_pos ⟨rfl, rfl⟩, Nat.add_comm]
  rfl

/-- **The commas outside all brackets** of a list are those between its entries.

**Proof sketch.** Induction on the entries.  An entry holds no comma outside of brackets and leaves
no bracket open, so the comma behind it is counted. -/
lemma topLevelCommas_listed (entries : List Entry) (h : entries ≠ []) :
    topLevelCommas 0 (listed entries) + 1 = entries.length := by
  induction entries with
  | nil => exact absurd rfl h
  | cons e more ih =>
    cases more with
    | nil => rw [listed_singleton, e.topLevelCommas_text, List.length_singleton]
    | cons f more =>
      have hdepth : (0 : Int) + depth e.text = 0 := e.balanced.zero
      rw [listed_cons_cons, topLevelCommas_append, e.topLevelCommas_text, hdepth,
        topLevelCommas_cons_comma, ih (List.cons_ne_nil f more), Nat.zero_add,
        List.length_cons (a := e)]

/-- The last entry stands at the end of the list.

**Proof sketch.** Induction on the entries.  Each entry but the last is followed by a comma and the
others. -/
lemma exists_listed_eq_append (entries : List Entry) (h : entries ≠ []) :
    ∃ front, listed entries = front ++ (entries.getLast h).text := by
  induction entries with
  | nil => exact absurd rfl h
  | cons e more ih =>
    cases more with
    | nil => exact ⟨[], by simp [listed_singleton]⟩
    | cons f more =>
      obtain ⟨front, hfront⟩ := ih (List.cons_ne_nil f more)
      refine ⟨e.text ++ ',' :: front, ?_⟩
      rw [listed_cons_cons, hfront, List.getLast_cons (List.cons_ne_nil f more)]
      simp

/-- No entry ends with a comma, blanks behind it left aside: such a comma would stand outside all
brackets.

**Proof sketch.** If it did, only blanks would follow this comma.  The entry is balanced and no
blank opens a bracket, so none would be open before the comma, but each comma of an entry is
nested. -/
lemma Entry.getLast?_trimEnd_ne (e : Entry) : (trimEnd e.text).getLast? ≠ some ',' := by
  intro hlast
  obtain ⟨before, hbefore⟩ := List.getLast?_eq_some_iff.mp hlast
  obtain ⟨blanks, hblanks, htext⟩ := exists_eq_trimEnd_append e.text
  rw [hbefore, List.append_assoc] at htext
  apply e.comma_nested before blanks htext
  have hdepth : depth e.text = depth before + depth (',' :: blanks) := by
    rw [htext]
    exact depth_append before _
  have hblank := (balanced_cons_comma (balanced_blanks hblanks)).zero
  have hzero := e.balanced.zero
  omega

/-! ## The number of parameters -/

/-- The parameter list of a signature is found if it is balanced, with or without its end. -/
lemma parameters_withList {head : List Char} (hhead : '(' ∉ head) {list : List Char}
    (h : Balanced list)
    (tail : Option (List Char)) : parameters (withList head list tail) = list := by
  cases tail with
  | some tail => exact (parameters_ofParts_eq_iff hhead list tail).mpr h
  | none =>
    have hscan := atClosing_append (show BalancedFrom (0 : Nat) list from h) []
    rw [List.append_nil] at hscan
    rw [parameters, withList, parameterList?_append hhead, hscan]
    exact List.append_nil list

/-- A plain text is all code, up to the blanks at its end. -/
lemma code_of_all_isPlain {text : List Char} (h : text.all isPlain = true) :
    code text = trimEnd text := by
  simpa [Piece.written, Piece.bare, Piece.text, Piece.emptied] using code_written [.chunk text h]

/-- The number of parameters in a list without literals and comments. -/
lemma parameterCount_withList {head : List Char} (hhead : '(' ∉ head) {list : List Char}
    (hplain : list.all isPlain = true) (h : Balanced list) (tail : Option (List Char)) :
    parameterCount (withList head list tail) =
      if isBlankText list then 0
      else if (trimEnd list).getLast? = some ',' then topLevelCommas 0 list
      else topLevelCommas 0 list + 1 := by
  simp only [parameterCount, parameters_withList hhead h, code_of_all_isPlain hplain,
    isBlankText_trimEnd, topLevelCommas_trimEnd, beq_iff_eq]

section LastEntry

variable {entries : List Entry} {hne : entries ≠ []}
  (hlast : isBlankText (entries.getLast hne).text = false)
include hlast

/-- A list whose last entry is not blank is not blank. -/
lemma isBlankText_listed : isBlankText (listed entries) = false := by
  obtain ⟨front, hfront⟩ := exists_listed_eq_append entries hne
  rw [hfront, isBlankText, List.all_append]
  exact Bool.and_eq_false_imp.mpr fun _ => hlast

/-- A list whose last entry is not blank does not end with a comma.

**Proof sketch.** The list ends with its last entry, which is not blank, so trimming stops inside of
it; and that entry does not end with a comma. -/
lemma getLast?_trimEnd_listed_ne : (trimEnd (listed entries)).getLast? ≠ some ',' := by
  obtain ⟨front, hfront⟩ := exists_listed_eq_append entries hne
  have hrest : trimEnd (entries.getLast hne).text ≠ [] := by
    intro hnil
    rw [← isBlankText_trimEnd, hnil] at hlast
    exact Bool.noConfusion hlast
  rw [hfront, trimEnd_append_of_not_blank hlast, List.getLast?_append_of_ne_nil front hrest]
  exact (entries.getLast hne).getLast?_trimEnd_ne

end LastEntry

/-- **The parameters of a signature are the entries of its list.**  Let the head of a signature hold
no opening parenthesis, and let its parameter list be closed or not.  If the list is written from
entries, the last of which is not blank, then there are as many parameters as entries; a comma
behind the last entry, and blanks behind that comma, make no difference.  If there are only blanks
in the list, there is no parameter.

**Proof sketch.** The count is one more than the commas outside of brackets, and a comma that ends
the list is not counted.  Entries are balanced, and all their own commas are nested, so these commas
are exactly those between entries, and the one behind the last entry if there is one. -/
theorem parameterCount_listed {head : List Char} (hhead : '(' ∉ head) (tail : Option (List Char))
    {blanks : List Char} (hblanks : isBlankText blanks = true) :
    (∀ (entries : List Entry) (hne : entries ≠ []), isBlankText (entries.getLast hne).text = false →
        parameterCount (withList head (listed entries) tail) = entries.length ∧
          parameterCount (withList head (listed entries ++ ',' :: blanks) tail) = entries.length) ∧
      parameterCount (withList head blanks tail) = 0 := by
  refine ⟨fun entries hne hlast => ⟨?_, ?_⟩, ?_⟩
  · rw [parameterCount_withList hhead (all_isPlain_listed entries) (balanced_listed entries),
      if_neg (by simp [isBlankText_listed hlast]), if_neg (getLast?_trimEnd_listed_ne hlast),
      topLevelCommas_listed entries hne]
  · -- the trailing comma is one more to count, and it is what the trimmed list ends with
    have hblank : isBlankText (listed entries ++ ',' :: blanks) = false := by
      rw [isBlankText, List.all_append]
      exact Bool.and_eq_false_imp.mpr fun _ => rfl
    have hplain : (listed entries ++ ',' :: blanks).all isPlain = true := by
      rw [List.all_append, List.all_cons, all_isPlain_listed, all_isPlain_blanks hblanks]
      decide
    have hbalanced : Balanced (listed entries ++ ',' :: blanks) :=
      (balanced_listed entries).append (balanced_cons_comma (balanced_blanks hblanks))
    have hend : (trimEnd (listed entries ++ ',' :: blanks)).getLast? = some ',' := by
      have hnil : trimEnd blanks = [] := trimEnd_append_of_isBlankText hblanks []
      rw [trimEnd_append_cons (by decide), hnil]
      exact List.getLast?_concat
    have hdepth : (0 : Int) + depth (listed entries) = 0 := (balanced_listed entries).zero
    rw [parameterCount_withList hhead hplain hbalanced, if_neg (by simp [hblank]), if_pos hend,
      topLevelCommas_append, hdepth, topLevelCommas_cons_comma,
      topLevelCommas_blanks hblanks, Nat.zero_add, topLevelCommas_listed entries hne]
  · rw [parameterCount_withList hhead (all_isPlain_blanks hblanks) (balanced_blanks hblanks),
      if_pos hblanks]

/-- Three entries with nested brackets, `a`, `b = {k: [1, 2]}` and `c = f(a, (b))`, with blanks
around them. -/
def nestedEntries : List Entry :=
  [⟨"a".toList, by decide, by decide, (topLevelCommas_zero_eq_zero_iff _).mp (by decide)⟩,
   ⟨" b = ".toList ++ '{' :: "k: [1, 2]".toList ++ ['}'], by decide, by decide,
     (topLevelCommas_zero_eq_zero_iff _).mp (by decide)⟩,
   ⟨" c = f(a, (b)) ".toList, by decide, by decide,
     (topLevelCommas_zero_eq_zero_iff _).mp (by decide)⟩]

/-- Neither the commas inside brackets nor those behind the list are counted. -/
theorem parameterCount_listed_nestedEntries :
    '(' ∉ "func f".toList ∧ isBlankText " \t".toList = true ∧
      parameterCount
        (withList "func f".toList (listed nestedEntries) (some " -> T[a, b]: # (".toList)) = 3 ∧
      parameterCount
        (withList "func f".toList (listed nestedEntries ++ ',' :: " \t".toList) none) = 3 := by
  have hhead : '(' ∉ "func f".toList := by decide
  have hblanks : isBlankText " \t".toList = true := by decide
  have hlast : isBlankText (nestedEntries.getLast (by decide)).text = false := by decide
  exact ⟨hhead, hblanks,
    ((parameterCount_listed hhead (some " -> T[a, b]: # (".toList) hblanks).1
      nestedEntries _ hlast).1,
    ((parameterCount_listed hhead none hblanks).1 nestedEntries _ hlast).2⟩

end ScriptAudit.Signature
