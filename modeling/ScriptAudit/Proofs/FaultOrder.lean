import ScriptAudit.Proofs.Precedence

/-!
# The order of faults

Settings may have many faults at once, and one of them is reported.  Files come first, in the order
home directory, project, named file.  Then come the variables of the environment, in the order of
the settings.  After that the names are gone through in the order in which they first came,
whichever layer gives the value that counts for them, and the first name that is unknown or has a
refused value is reported with that value.  Last come the remarks on pairs of limits.

## Main definitions

* `ScriptAudit.LoadError.IsConfiguration` — errors that name a file or a setting.
* `ScriptAudit.Sources.FileFails`, `ScriptAudit.Environment.FirstUnread`,
  `ScriptAudit.Layers.FirstRefused` — the first file, variable and name at fault.
* `ScriptAudit.Sources.Reports` — the error that is reported, by the order of faults.

## Main results

* `ScriptAudit.Disk.find_from_root` — a file may be named from the root.
* `ScriptAudit.Settings.load_eq_error_iff`, `ScriptAudit.Settings.ofLayers_eq_error_iff` — all
  errors of loading, stage by stage.
* `ScriptAudit.Settings.load_reports_iff` — which error about the configuration is reported.
-/

set_option relaxedAutoImplicit false
set_option autoImplicit false

namespace ScriptAudit

/-- Errors that are about the configuration: they name the file or the setting at fault. -/
def LoadError.IsConfiguration : LoadError → Prop
  | file _ _ => True
  | setting _ _ _ => True
  | _ => False

/-! ## Paths -/

namespace Disk

/-- A name that leads downwards: it does not stand for the directory above, and is not too long. -/
def IsStep (name : String) : Prop := name ≠ ".." ∧ isLongName name = false

/-- Names that lead through directories are followed down to the last of them.

**Proof sketch.** Induction on the names.  The place that is reached is a directory, and the name is
a step that goes down, so following goes on below it. -/
lemma follow_append {disk : Disk} {place : Place} {names : List String}
    (hnames : ∀ name ∈ names, IsStep name)
    (hthrough : ∀ above, above <+: names → disk.at? (place ++ above) = some .directory)
    (parts : List String) :
    disk.follow place (names ++ parts) = disk.follow (place ++ names) parts := by
  induction names generalizing place with
  | nil => simp
  | cons name rest ih =>
    obtain ⟨hup, hshort⟩ := hnames name List.mem_cons_self
    have hplace : disk.at? place = some .directory := by
      simpa using hthrough [] List.nil_prefix
    have hrest : ∀ above, above <+: rest →
        disk.at? (place ++ [name] ++ above) = some .directory := by
      intro above habove
      simpa using hthrough (name :: above) (List.cons_prefix_cons.mpr ⟨rfl, habove⟩)
    rw [List.cons_append, follow, hplace]
    simp only [beq_iff_eq, hup, if_false, hshort, Bool.false_eq_true]
    rw [ih (fun other hother => hnames other (List.mem_cons_of_mem _ hother)) hrest]
    simp

/-- The working directory and all above it are directories, unless the picture has a file there.

**Proof sketch.** An entry of the picture comes first, and by the hypothesis it is no file.  Without
one, the entry for the working directory makes the place a directory, as the place itself or as one
above it. -/
lemma at?_of_prefix_work {disk : Disk} {work above : Place} (habove : above <+: work)
    (hfile : ∀ bytes, disk.at? above ≠ some (.bytes bytes)) :
    at? ((work, .directory) :: disk) above = some .directory := by
  unfold at? at hfile ⊢
  rw [List.reverse_cons, List.find?_append]
  cases hentry : disk.reverse.find? (·.1 == above) with
  | some entry =>
    obtain ⟨other, content⟩ := entry
    cases content with
    | directory => simp
    | bytes bytes => simp [hentry] at hfile
  | none =>
    by_cases hwork : work = above
    · simp [hwork]
    · simp [hwork, habove]

/-- **The way from the root.**  What lies below the working directory is found by its path from the
root as well as by its path from the working directory.

**Proof sketch.** All places above the working directory are directories, so the path from the root
is followed down to the working directory, and from there on both paths have the same parts. -/
lemma find_from_root {disk : Disk} {work : Place} {path whole : Path} (hpath : path.root = "")
    (hroot : whole.root ≠ "") (hwhole : whole.parts = work ++ path.parts)
    (hwork : ∀ name ∈ work, IsStep name)
    (hfiles : ∀ above, above <+: work → ∀ bytes, disk.at? above ≠ some (.bytes bytes))
    (hzero : '\x00' ∉ whole.text.toList ∧ '\x00' ∉ path.text.toList)
    (hshort : whole.isLong = false ∧ path.isLong = false) :
    disk.find work whole = disk.find work path := by
  have hthrough : ∀ above, above <+: work →
      at? ((work, .directory) :: disk) ([] ++ above) = some .directory :=
    fun above habove => at?_of_prefix_work habove (hfiles above habove)
  have hdown := follow_append hwork hthrough path.parts
  simpa [find, hzero, hshort, hpath, hroot, hwhole] using hdown

end Disk

/-- A file of the working directory that is named from the root. -/
example : Disk.find [(["work", "custom.toml"], .bytes ⟨#[0xff]⟩)] ["work"]
    (.parse "/work/./custom.toml") = .found (.bytes ⟨#[0xff]⟩) := rfl

/-! ## Files -/

/-- What is wrong with what lies at a path, and the error that it makes. -/
inductive Content.Fails (path : String) : Content → LoadError → Prop
  /-- A directory is in the place of the file. -/
  | directory : Fails path .directory (.file path .directory)
  /-- The bytes are not a text. -/
  | undecodable {bytes : ByteArray} (hbytes : String.fromUTF8? bytes = none) :
      Fails path (.bytes bytes) .undecodable
  /-- The document is malformed. -/
  | malformed {bytes : ByteArray} {text : String} (hbytes : String.fromUTF8? bytes = some text)
      (hparse : Toml.parse text = .error .malformed) :
      Fails path (.bytes bytes) (.file path .malformed)
  /-- The document holds an integer with too many digits. -/
  | overlong {bytes : ByteArray} {text : String} {digits : Nat}
      (hbytes : String.fromUTF8? bytes = some text)
      (hparse : Toml.parse text = .error (.overlong digits)) :
      Fails path (.bytes bytes) (.overlong digits)

/-- Reading a file fails exactly with what is wrong with it.

**Proof sketch.** By what stands at the path.  A directory cannot be read; bytes are decoded first
and parsed then, and each of the two steps fails in its own way. -/
lemma tableOfFile_eq_error_iff {path : String} {content : Content} {e : LoadError} :
    tableOfFile path content = .error e ↔ content.Fails path e := by
  constructor
  · intro h
    cases content with
    | directory =>
      obtain rfl : LoadError.file path .directory = e := by simpa [tableOfFile] using h
      exact .directory
    | bytes bytes =>
      rw [tableOfFile] at h
      split at h
      · rename_i hbytes
        obtain rfl := Except.error.inj h
        exact .undecodable hbytes
      · rename_i text hbytes
        split at h
        · rename_i hparse
          obtain rfl := Except.error.inj h
          exact .malformed hbytes hparse
        · rename_i digits hparse
          obtain rfl := Except.error.inj h
          exact .overlong hbytes hparse
        · simp at h
  · intro h
    cases h with
    | directory => rfl
    | undecodable hbytes => simp only [tableOfFile, hbytes]
    | malformed hbytes hparse => simp only [tableOfFile, hbytes, hparse]
    | overlong hbytes hparse => simp only [tableOfFile, hbytes, hparse]

namespace Sources

variable (sources : Sources)

/-- The other two files are read, and the search for the named file has come to something. -/
structure Seeks (name : String) (lookup : Lookup) : Prop where
  /-- The file in the home directory is read. -/
  home : ∃ table, sources.homeTable = .ok table
  /-- The file of the project is read. -/
  project : ∃ table, sources.projectTable = .ok table
  /-- The caller names a file. -/
  name_eq : sources.namedFile = some name
  /-- The search has come to this. -/
  search_eq : sources.search (Path.parse name) = lookup

/-- A file is opened, after all files before it were read: the one in the home directory, that of
the project, and the named file, in this order. -/
inductive Opens : String → Content → Prop
  /-- The file in the home directory. -/
  | home {content : Content} (h : sources.homeFile? = some content) :
      Opens (sources.homeDirectory ++ "/.qube.toml") content
  /-- The file of the project. -/
  | project {content : Content} {table : Table} (hhome : sources.homeTable = .ok table)
      (h : sources.projectFile? = some content) :
      Opens (sources.workDirectory ++ "/qube.toml") content
  /-- The named file. -/
  | named {name : String} {content : Content} (h : sources.Seeks name (.found content)) :
      Opens (Path.parse name).text content

/-- **The first file at fault** makes the error. -/
inductive FileFails : LoadError → Prop
  /-- A file that is opened is at fault. -/
  | opened {path : String} {content : Content} {e : LoadError} (hopens : sources.Opens path content)
      (hfails : content.Fails path e) : FileFails e
  /-- The named file is not there. -/
  | missing {name : String} (h : sources.Seeks name .missing) :
      FileFails (.file (Path.parse name).text .missing)
  /-- The named file, or a directory on the way to it, has too long a name. -/
  | nameTooLong {name : String} (h : sources.Seeks name .nameTooLong) :
      FileFails (.nameTooLong (Path.parse name).text)

variable {sources} {e : LoadError}

/-- Reading the files fails with the error of the first table that cannot be read. -/
lemma layers_eq_error_iff_tables :
    sources.layers = .error e ↔
      sources.homeTable = .error e ∨
      (∃ home, sources.homeTable = .ok home ∧
        (sources.projectTable = .error e ∨
          ∃ project, sources.projectTable = .ok project ∧ sources.namedTable = .error e)) := by
  rw [layers]
  cases sources.homeTable with
  | error fault => simp
  | ok home =>
    cases sources.projectTable with
    | error fault => simp
    | ok project => cases sources.namedTable <;> simp

/-- A file that may be missing is at fault if and only if it is there and at fault. -/
lemma tableOfOptional_eq_error_iff {path : String} {content? : Option Content} :
    tableOfOptional path content? = .error e ↔
      ∃ content, content? = some content ∧ content.Fails path e := by
  cases content? with
  | none => simp [tableOfOptional]
  | some content => simp [tableOfOptional, tableOfFile_eq_error_iff]

/-- What the search for the named file has come to decides, once the other files are read. -/
lemma Seeks.layers_eq_error {name : String} {lookup : Lookup} (h : sources.Seeks name lookup)
    (htable : tableOfRequired (Path.parse name).text lookup = .error e) :
    sources.layers = .error e := by
  obtain ⟨⟨home, hhome⟩, ⟨project, hproject⟩, hname, rfl⟩ := h
  simp only [layers, hhome, hproject, namedTable, hname, htable]

/-- **Files fail in order.**  Reading the files fails exactly with the error of the first file at
fault.

**Proof sketch.** The three files are read one after the other, so an error comes from one of them
with those before it read.  The named file may also not be found at all; that one is looked for only
if both others have been read. -/
lemma layers_eq_error_iff : sources.layers = .error e ↔ sources.FileFails e := by
  constructor
  · intro h
    obtain hhome | ⟨home, hhome, hproject | ⟨project, hproject, hnamed⟩⟩ :=
      layers_eq_error_iff_tables.mp h
    · obtain ⟨content, hcontent, hfails⟩ := tableOfOptional_eq_error_iff.mp hhome
      exact .opened (.home hcontent) hfails
    · obtain ⟨content, hcontent, hfails⟩ := tableOfOptional_eq_error_iff.mp hproject
      exact .opened (.project hhome hcontent) hfails
    · rw [namedTable] at hnamed
      split at hnamed
      · simp at hnamed
      · rename_i name hname
        have hseeks : sources.Seeks name (sources.search (Path.parse name)) :=
          ⟨⟨home, hhome⟩, ⟨project, hproject⟩, hname, rfl⟩
        dsimp only at hnamed
        generalize sources.search (Path.parse name) = lookup at hseeks hnamed
        cases lookup with
        | missing =>
          obtain rfl := Except.error.inj hnamed
          exact .missing hseeks
        | nameTooLong =>
          obtain rfl := Except.error.inj hnamed
          exact .nameTooLong hseeks
        | found content => exact .opened (.named hseeks) (tableOfFile_eq_error_iff.mp hnamed)
  · intro h
    cases h with
    | missing hseeks => exact hseeks.layers_eq_error rfl
    | nameTooLong hseeks => exact hseeks.layers_eq_error rfl
    | opened hopens hfails =>
      cases hopens with
      | home hcontent =>
        have hhome := tableOfOptional_eq_error_iff.mpr ⟨_, hcontent, hfails⟩
        exact layers_eq_error_iff_tables.mpr (.inl hhome)
      | project hhome hcontent =>
        have hproject := tableOfOptional_eq_error_iff.mpr ⟨_, hcontent, hfails⟩
        exact layers_eq_error_iff_tables.mpr (.inr ⟨_, hhome, .inl hproject⟩)
      | named hseeks => exact hseeks.layers_eq_error (tableOfFile_eq_error_iff.mpr hfails)

/-- No file is at fault in a setting. -/
lemma not_fileFails_setting {name : String} {value : Value} {fault : SettingFault} :
    ¬ sources.FileFails (.setting name value fault) := by
  intro h
  cases h with
  | opened hopens hfails => cases hfails

end Sources

/-! ## Variables -/

/-- **The first variable at fault**: it is not understood, but all before it are, in the order of
the settings. -/
structure Environment.FirstUnread (environment : Environment) (key : Key) (text : String)
    (fault : SettingFault) : Prop where
  /-- The variable is there. -/
  text_eq : environment.text? key.variableName = some text
  /-- It is not understood. -/
  read_eq : SettingKind.readVariable Number.digitLimit key.kind text = .error fault
  /-- All variables before it are understood. -/
  first : ∃ before after, Key.all = before ++ key :: after ∧
      ∀ earlier ∈ before, environment.Reads earlier

/-- Texts for lists are always understood. -/
lemma SettingKind.eq_switch_or_integer {limit : Number.DigitLimit} {kind : SettingKind}
    {text : String} {fault : SettingFault} (h : readVariable limit kind text = .error fault) :
    kind = .switch ∨ kind = .integer := by
  cases kind with
  | switch => exact .inl rfl
  | integer => exact .inr rfl
  | texts => simp [readVariable] at h
  | numbers => simp [readVariable] at h

/-- Reading the environment fails at the first variable that is not understood. -/
lemma Environment.findSome?_fault?_eq_some_iff {environment : Environment} {e : LoadError} :
    Key.all.findSome? environment.fault? = some e ↔
      ∃ key text fault, environment.FirstUnread key text fault ∧
        e = .setting key.variableName (.str text) fault := by
  simp only [List.findSome?_eq_some_iff, fault?_eq_some_iff, fault?_eq_none_iff]
  constructor
  · rintro ⟨before, key, after, hall, ⟨text, fault, htext, hread, he⟩, hbefore⟩
    exact ⟨key, text, fault, ⟨htext, hread, before, after, hall, hbefore⟩, he⟩
  · rintro ⟨key, text, fault, ⟨htext, hread, before, after, hall, hbefore⟩, he⟩
    exact ⟨before, key, after, hall, ⟨text, fault, htext, hread, he⟩, hbefore⟩

/-! ## Names -/

/-- A name is taken over: it belongs to a setting that accepts the value that counts. -/
def Layers.Takes (layers : Layers) (name : String) : Prop :=
  ∃ (key : Key) (value : Value) (accepted : key.kind.Carrier), key.name = name ∧
    layers.winning? name = some value ∧ key.kind.accept value = .ok accepted

/-- **The first name at fault**, in the order in which the names first came: all variables are
understood and all names before it are taken over, but the value that counts for it is refused. -/
structure Layers.FirstRefused (layers : Layers) (name : String) (value : Value)
    (refusal : Refusal) :
    Prop where
  /-- All variables are understood. -/
  reads : ∀ key, layers.environment.Reads key
  /-- The value counts for the name. -/
  winning : layers.winning? name = some value
  /-- It is refused. -/
  refused : refusal? name value = some refusal
  /-- All names before it are taken over. -/
  first : ∃ before after, layers.names = before ++ name :: after ∧
      ∀ earlier ∈ before, layers.Takes earlier

/-- A name is unknown, or its setting does not accept the value.

**Proof sketch.** Names of settings are distinct, so a name belongs to at most one of them.  If it
belongs to none it is unknown; otherwise that setting decides. -/
lemma refusal?_eq_some_iff {name : String} {value : Value} {refusal : Refusal} :
    refusal? name value = some refusal ↔
      ((∀ key : Key, key.name ≠ name) ∧ refusal = .fault value .unknown) ∨
        ∃ key : Key, key.name = name ∧ key.kind.accept value = .error refusal := by
  unfold refusal?
  cases hname : Key.ofName? name with
  | none =>
    have hunknown : ∀ key : Key, key.name ≠ name := by
      intro key hkey
      rw [Key.ofName?_eq_some_iff.mpr hkey] at hname
      simp at hname
    simp [hunknown, eq_comm]
  | some key =>
    have hkey := Key.ofName?_eq_some_iff.mp hname
    have honly : ∀ other : Key, other.name = name ↔ other = key := fun other =>
      ⟨fun hother => Key.name_injective (hother.trans hkey.symm), fun hother => hother ▸ hkey⟩
    have hknown : ¬ ∀ other : Key, other.name ≠ name := fun h => h key hkey
    simp only [hknown, false_and, false_or, honly, exists_eq_left]
    cases key.kind.accept value <;> simp

namespace Layers

variable {layers : Layers} {e : LoadError}

/-- A name that occurs makes no error if and only if it is taken over. -/
lemma fault?_eq_none_iff_takes {name : String} (h : name ∈ layers.names) :
    layers.fault? name = none ↔ layers.Takes name := by
  obtain ⟨value, hvalue⟩ := mem_names_iff.mp h
  simp only [fault?_eq_none_iff hvalue, Takes, hvalue, Option.some.injEq]
  constructor
  · rintro ⟨key, accepted, hname, haccept⟩
    exact ⟨key, value, accepted, hname, rfl, haccept⟩
  · rintro ⟨key, _, accepted, hname, rfl, haccept⟩
    exact ⟨key, accepted, hname, haccept⟩

/-- The taking over fails at the first name whose value is refused.

**Proof sketch.** The first name with a fault divides the names: all before it are taken over, and
the value that wins for it is refused. -/
lemma findSome?_fault?_eq_some_iff (hreads : ∀ key, layers.environment.Reads key) :
    layers.names.findSome? layers.fault? = some e ↔
      ∃ name value refusal, layers.FirstRefused name value refusal ∧ e = refusal.toError name := by
  rw [List.findSome?_eq_some_iff]
  constructor
  · rintro ⟨before, name, after, hnames, hfault, hbefore⟩
    obtain ⟨value, hwinning, hentry⟩ := Option.bind_eq_some_iff.mp hfault
    obtain ⟨refusal, hrefusal, rfl⟩ := Option.map_eq_some_iff.mp hentry
    refine ⟨name, value, refusal, ⟨hreads, hwinning, hrefusal, before, after, hnames, ?_⟩, rfl⟩
    intro earlier hearlier
    exact (fault?_eq_none_iff_takes (by simp [hnames, hearlier])).mp (hbefore earlier hearlier)
  · rintro ⟨name, value, refusal, ⟨-, hwinning, hrefusal, before, after, hnames, hbefore⟩, rfl⟩
    refine ⟨before, name, after, hnames, by simp [fault?, entryError?, hwinning, hrefusal], ?_⟩
    intro earlier hearlier
    exact (fault?_eq_none_iff_takes (by simp [hnames, hearlier])).mpr (hbefore earlier hearlier)

end Layers

/-! ## All errors -/

namespace Settings

variable {sources : Sources} {layers : Layers} {e : LoadError}

/-- Loading fails because of a file, or because of the layers that the files hold. -/
lemma load_eq_error_iff :
    load sources = .error e ↔
      sources.FileFails e ∨ ∃ layers, sources.layers = .ok layers ∧ ofLayers layers = .error e := by
  rw [load, ← Sources.layers_eq_error_iff]
  cases sources.layers with
  | error fault => simp
  | ok layers => simp

/-- **Errors of layers.**  The first variable that is not understood, the first name that is
refused, or remarks that cannot be written make the error, in this order.

**Proof sketch.** The three stages come one after the other.  If a variable is not understood, the
later stages are not reached.  Otherwise the names are gone through, and only if none of them is at
fault are there settings whose remarks are written. -/
lemma ofLayers_eq_error_iff :
    ofLayers layers = .error e ↔
      (∃ key text fault, layers.environment.FirstUnread key text fault ∧
        e = .setting key.variableName (.str text) fault) ∨
      (∃ name value refusal, layers.FirstRefused name value refusal ∧ e = refusal.toError name) ∨
      (layers.IsSound ∧ ¬ layers.RemarksFit ∧ e = .unwritable) := by
  rw [← Environment.findSome?_fault?_eq_some_iff]
  by_cases hreads : ∀ key, layers.environment.Reads key
  · have hvariables := Environment.findSome?_fault?_eq_none_iff.mpr hreads
    have hsound : layers.IsSound ↔ layers.names.findSome? layers.fault? = none := by
      rw [Layers.isSound_iff, List.findSome?_eq_none_iff]
      exact and_iff_right hreads
    rw [← Layers.findSome?_fault?_eq_some_iff hreads, hsound, hvariables]
    cases hnames : layers.names.findSome? layers.fault? with
    | some fault =>
      have htable := (ofTable_merge_eq_error_iff layers).mpr hnames
      simp [ofLayers, Layers.merged_eq, hvariables, htable]
    | none =>
      -- nothing is at fault, so only the remarks are left
      obtain ⟨settings, hsettles, hmade⟩ := exists_settles_of_isSound (hsound.mpr hnames)
      rw [hmade, ← hsettles.hasWritableInversions_iff, checkRemarks]
      split <;> simp [*, eq_comm]
  · -- the variables decide, and neither of the other two stages is reached
    cases hvariables : Key.all.findSome? layers.environment.fault? with
    | none => exact absurd (Environment.findSome?_fault?_eq_none_iff.mp hvariables) hreads
    | some fault =>
      have hrefused : ∀ name value refusal, ¬ layers.FirstRefused name value refusal :=
        fun _ _ _ h => hreads h.reads
      have hsound : ¬ layers.IsSound := fun h => hreads h.reads
      simp [ofLayers, Layers.merged_eq, hvariables, hrefused, hsound]

/-- Loading fails with the error of the first name that is refused. -/
lemma load_eq_of_firstRefused {name : String} {value : Value} {refusal : Refusal}
    (hfiles : sources.layers = .ok layers) (hfirst : layers.FirstRefused name value refusal) :
    load sources = .error (refusal.toError name) := by
  have hlayers := ofLayers_eq_error_iff.mpr (.inr (.inl ⟨name, value, refusal, hfirst, rfl⟩))
  exact load_eq_error_iff.mpr (.inr ⟨layers, hfiles, hlayers⟩)

end Settings

/-! ## The error that is reported -/

/-- The value that a message shows for a setting: a text given for a list is shown as the list of
its comma-separated, trimmed, non-empty entries, and any other value as it is. -/
def SettingKind.shown : SettingKind → Value → Value
  | switch, value => value
  | integer, value => value
  | texts, value => value.divided
  | numbers, value => value.divided

/-- Of all values only an integer may be too large for a double. -/
lemma Value.toDouble?_eq_error_iff {item : Value} {refusal : Refusal} :
    item.toDouble? = .error refusal ↔
      ∃ n, item = .int n ∧ Number.ofInteger? n = none ∧ refusal = .tooLarge := by
  cases item with
  | int n => cases h : Number.ofInteger? n <;> simp [toDouble?, h, eq_comm]
  | _ => simp [toDouble?]

/-- Why an item of a list of numbers is refused, if it is. -/
def itemRefusal? (whole item : Value) : Option Refusal :=
  match item.toDouble? with
  | .error refusal => some refusal
  | .ok none => some (.fault whole .notNumbers)
  | .ok (some _) => none

/-- An item is refused because it is an integer beyond all doubles, or because it is no number. -/
lemma itemRefusal?_eq_some_iff {whole item : Value} {refusal : Refusal} :
    itemRefusal? whole item = some refusal ↔
      (∃ n, item = .int n ∧ Number.ofInteger? n = none ∧ refusal = .tooLarge) ∨
        (item.toDouble? = .ok none ∧ refusal = .fault whole .notNumbers) := by
  rw [← Value.toDouble?_eq_error_iff, itemRefusal?]
  split <;> simp [*, eq_comm]

/-- An item is not refused if and only if it stands for a double. -/
lemma itemRefusal?_eq_none_iff {whole item : Value} :
    itemRefusal? whole item = none ↔ ∃ x, item.toDouble? = .ok (some x) := by
  rw [itemRefusal?]
  split <;> simp [*]

/-- A list of numbers is refused because of the first item that is.

**Proof sketch.** Induction on the items.  Conversion stops at the first item that is refused, and
an item that is a number leaves the error to the rest. -/
lemma toDoubles_eq_error_iff {whole : Value} {items : List Value} {refusal : Refusal} :
    toDoubles whole items = .error refusal ↔
      items.findSome? (itemRefusal? whole) = some refusal := by
  induction items with
  | nil => simp [toDoubles]
  | cons item rest ih =>
    rw [toDoubles, List.findSome?_cons, itemRefusal?]
    cases item.toDouble? with
    | error fault => simp
    | ok double =>
      cases double with
      | none => simp
      | some x =>
        dsimp only
        rw [← ih]
        cases toDoubles whole rest <;> simp

/-- A value that is refused because of a fault is shown as its setting shows values.

**Proof sketch.** By the kind of the setting.  Lists show the divided value; for numbers the fault
comes from one of the items, and it shows the whole value, not the item. -/
lemma SettingKind.shown_of_accept_eq {kind : SettingKind} {value shown : Value}
    {fault : SettingFault}
    (h : kind.accept value = .error (.fault shown fault)) : shown = kind.shown value := by
  cases kind with
  | switch => cases value <;> simp_all [accept, SettingKind.shown]
  | integer => cases value <;> simp_all [accept, SettingKind.shown]
  | texts =>
    simp only [accept] at h
    split at h
    · split at h <;> simp at h
    · simp_all [SettingKind.shown]
  | numbers =>
    simp only [accept] at h
    split at h
    · rename_i items hdivided
      obtain ⟨item, -, hitem⟩ := List.exists_of_findSome?_eq_some (toDoubles_eq_error_iff.mp h)
      rw [SettingKind.shown, hdivided]
      obtain ⟨_, -, -, hrefusal⟩ | ⟨-, hrefusal⟩ := itemRefusal?_eq_some_iff.mp hitem
      · simp at hrefusal
      · exact (Refusal.fault.inj hrefusal).1
    · simp_all [SettingKind.shown]

/-- The message about a value that can be shown names its setting. -/
lemma Refusal.toError_of_isWritable {shown : Value} {fault : SettingFault}
    (h : shown.isWritable = true)
    (name : String) : (Refusal.fault shown fault).toError name = .setting name shown fault := by
  rw [toError, if_pos h]

/-- The error that a refusal makes names the setting if the value can be shown. -/
lemma Refusal.isConfiguration_toError_iff {name : String} {refusal : Refusal} :
    (refusal.toError name).IsConfiguration ↔
      ∃ shown fault, refusal = .fault shown fault ∧ shown.isWritable = true := by
  cases refusal with
  | fault shown fault =>
    rw [toError]
    split <;> simp_all [LoadError.IsConfiguration]
  | tooLarge => simp [toError, LoadError.IsConfiguration]
  | unwritable => simp [toError, LoadError.IsConfiguration]

/-- **The error that is reported**, if it is about the configuration. -/
inductive Sources.Reports (sources : Sources) : LoadError → Prop
  /-- A file is at fault, and none before it. -/
  | file {path : String} {fault : FileFault} (h : sources.FileFails (.file path fault)) :
      Reports sources (.file path fault)
  /-- All files are read, and a variable for a switch or a limit is not understood, but all before
it are. -/
  | unread {layers : Layers} {key : Key} {text : String} {fault : SettingFault}
      (hfiles : sources.layers = .ok layers)
      (hkind : key.kind = .switch ∨ key.kind = .integer)
      (hfirst : layers.environment.FirstUnread key text fault) :
      Reports sources (.setting key.variableName (.str text) fault)
  /-- All files are read and all variables understood, and a name belongs to no setting, but all
names that came before it are taken over.  The value that counts for it is shown. -/
  | unknown {layers : Layers} {name : String} {value : Value}
      (hfiles : sources.layers = .ok layers)
      (hname : ∀ key : Key, key.name ≠ name)
      (hfirst : layers.FirstRefused name value (.fault value .unknown))
      (hshown : value.isWritable = true) :
      Reports sources (.setting name value .unknown)
  /-- All files are read and all variables understood, and a setting does not accept the value that
counts for it, but all names that came before it are taken over.  That value is shown, a text for a
list as the list of its entries. -/
  | refused {layers : Layers} {key : Key} {value : Value} {fault : SettingFault}
      (hfiles : sources.layers = .ok layers)
      (haccept : key.kind.accept value = .error (.fault (key.kind.shown value) fault))
      (hfirst : layers.FirstRefused key.name value (.fault (key.kind.shown value) fault))
      (hshown : (key.kind.shown value).isWritable = true) :
      Reports sources (.setting key.name (key.kind.shown value) fault)

/-- **The order of faults.**  If loading fails with an error that is about the configuration, then
it is the first one in the fixed order of files, variables and names; and the first one in that
order is what loading fails with.

**Proof sketch.** Both stages of loading list their errors, by `load_eq_error_iff` and
`ofLayers_eq_error_iff`.  Errors of files are about files, a variable that is not understood belongs
to a switch or a number, and a refused name is unknown or its setting does not accept the value.
The rest is not about the configuration. -/
theorem Settings.load_reports_iff (sources : Sources) (e : LoadError) :
    (load sources = .error e ∧ e.IsConfiguration) ↔ sources.Reports e := by
  constructor
  · rintro ⟨h, he⟩
    obtain hfile | ⟨layers, hfiles, h⟩ := load_eq_error_iff.mp h
    · cases e with
      | file path fault => exact .file hfile
      | setting name value fault => exact absurd hfile Sources.not_fileFails_setting
      | _ => exact he.elim
    · obtain ⟨key, text, fault, hfirst, rfl⟩ | ⟨name, value, refusal, hfirst, rfl⟩ | ⟨-, -, rfl⟩ :=
        ofLayers_eq_error_iff.mp h
      · exact .unread hfiles (SettingKind.eq_switch_or_integer hfirst.read_eq) hfirst
      · obtain ⟨shown, fault, rfl, hshown⟩ := Refusal.isConfiguration_toError_iff.mp he
        rw [Refusal.toError_of_isWritable hshown]
        obtain ⟨hname, hrefusal⟩ | ⟨key, rfl, haccept⟩ := refusal?_eq_some_iff.mp hfirst.refused
        · obtain ⟨rfl, rfl⟩ := Refusal.fault.inj hrefusal
          exact .unknown hfiles hname hfirst hshown
        · obtain rfl := SettingKind.shown_of_accept_eq haccept
          exact .refused hfiles haccept hfirst hshown
      · exact he.elim
  · intro h
    cases h with
    | file h => exact ⟨load_eq_error_iff.mpr (.inl h), trivial⟩
    | unread hfiles hkind hfirst =>
      exact ⟨load_eq_error_iff.mpr (.inr ⟨_, hfiles, ofLayers_eq_error_iff.mpr
        (.inl ⟨_, _, _, hfirst, rfl⟩)⟩), trivial⟩
    | unknown hfiles hname hfirst hshown =>
      have hload := load_eq_of_firstRefused hfiles hfirst
      rw [Refusal.toError_of_isWritable hshown] at hload
      exact ⟨hload, trivial⟩
    | refused hfiles haccept hfirst hshown =>
      have hload := load_eq_of_firstRefused hfiles hfirst
      rw [Refusal.toError_of_isWritable hshown] at hload
      exact ⟨hload, trivial⟩

/-- Two names are unknown.  The first one is reported, whose place is that of the home directory,
with the value that the caller gives for it; the value that the caller overrides is not looked
at. -/
example :
    (match Settings.ofLayers
        { home := [("max_nesting", .bool true), ("zeal", .null)]
          overrides := [("haste", .null), ("zeal", .int 1), ("max_nesting", .int 3)] } with
      | .error e => e.message
      | .ok _ => "") =
    "Invalid configuration for zeal: 1 (key=zeal, value=1, reason=unknown setting)" := by
  decide +kernel

end ScriptAudit
