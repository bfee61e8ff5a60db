import Keystroke.Proofs.CborReading
import Keystroke.Proofs.Preferences

/-! What a run leaves behind: the bytes on standard output and the files of a tree. A run that fails leaves nothing, and
one that succeeds writes one complete listing or dump to one place. -/
namespace Keystroke

open Keystroke.Command Keystroke.Dump Keystroke.Files Keystroke.Listing Keystroke.Settings Keystroke.Toml

def Dump.Content.toBytes : Content → List UInt8
  | .text value => value.toUTF8.toList
  | .bytes value => value

namespace Files.Tree

/-- What the files hold, by the way to them. -/
def contents (tree : Tree) (way : List String) : Option (List UInt8) :=
  match tree.lookup? way with
  | some (.file text) => some text.toUTF8.toList
  | _ => none

variable {tree : Tree} {path : String} {way : List String}

theorem locate_of_writable (h : tree.writeFault? path = none) : ∃ way, tree.locate path = .ok way := by
  unfold writeFault? at h
  split at h
  · dsimp only at h
    split at h <;> cases h
  · cases hlocate : tree.locate path with
    | error fault => simp [hlocate] at h
    | ok way => exact ⟨way, rfl⟩

/-- A path reads what is held at the place to which it leads. -/
theorem read_iff_contents (h : tree.locate path = .ok way) (text : String) :
    tree.access.read path = .ok text ↔ tree.contents way = some text.toUTF8.toList := by
  cases hentry : tree.lookup? way with
  | none => simp [access, contents, find, h, hentry]
  | some entry =>
    cases entry with
    | directory => simp [access, contents, find, h, hentry]
    | file held =>
      have hinjective : held.toUTF8.toList = text.toUTF8.toList → held = text := by
        intro hbytes
        have hdecoded := Cbor.fromUTF8_toUTF8 held
        rw [hbytes, Cbor.fromUTF8_toUTF8, Option.some_inj] at hdecoded
        exact hdecoded.symm
      simp only [access, contents, find, h, hentry, Except.ok.injEq, Option.some_inj]
      exact ⟨fun h => h ▸ rfl, hinjective⟩

end Files.Tree

namespace CommandLine

/-- The bytes of an output on standard output. -/
def Output.standardBytes (output : Output) : List UInt8 :=
  match output.target with
  | .standard => output.content.toBytes
  | .file _ => []

/-- The files of a tree after an output. -/
def Output.writtenTo (tree : Tree) (files : List String → Option (List UInt8)) (output : Output) :
    List String → Option (List UInt8) :=
  match output.target with
  | .standard => files
  | .file path =>
    match tree.locate path with
    | .ok way => Function.update files way (some output.content.toBytes)
    | .error _ => files

def Report.stdout (report : Report) : List UInt8 :=
  report.outputs.flatMap Output.standardBytes

/-- The files of a tree after a run. -/
def Report.filesIn (report : Report) (tree : Tree) : List String → Option (List UInt8) :=
  report.outputs.foldl (Output.writtenTo tree) tree.contents

def formatOf (items : List Item) : String :=
  (lastValue? .format items).getD "json"

/-- The output path of a run and what may be written there, if nothing goes wrong. -/
inductive Produces (access : Access) (stdin : String) (args : List String) : String → Content → Prop where
  | dump {items : List Item} {format : Format} {content : Content} (hparses : Parses args .table items)
      (hformat : Format.ofName (formatOf items) = .ok format)
      (hcontent : (ofTable Table.standard).encode format = .ok content)
      (htarget : (Target.ofPath (outputOf items)).error? access = none) :
      Produces access stdin args (outputOf items) content
  | listing {command : CommandLine.Command} {items : List Item} {document : Document} {conv : Converter}
      {text listing : String} (hparses : Parses args command items)
      (hcommand : command = .list ∨ command = .watch ∧ access.watchError? (directory (inputOf items)) = none)
      (hloads : Loads access (configOf items) document) (hconfigured : Configured items document.root conv)
      (hread : readInput access stdin (inputOf items) = .ok text)
      (hlisting : (conv.convert text).listing = .ok listing)
      (htarget : (Target.ofPath (outputOf items)).error? access = none) :
      Produces access stdin args (outputOf items) (.text listing)

/-- The settings file of a run names no setting twice. The command `table` has no use for one. -/
def SettingsOnce (access : Access) (args : List String) : Prop :=
  ∀ command items document, command ≠ .table → Parses args command items →
    Loads access (configOf items) document → NamesOnce document.keys

/-- All of a content is written to one place and nothing to any other: standard output, or the file that a path names. -/
structure Report.Leaves (report : Report) (access : Access) (path : String) (content : Content) : Prop where
  outputs : report.outputs = [⟨Target.ofPath path, content⟩]
  standard : path = "" ∨ path = "-" →
    report.stdout = content.toBytes ∧ ∀ tree : Tree, report.filesIn tree = tree.contents
  file : ¬ (path = "" ∨ path = "-") →
    report.stdout = [] ∧ ∀ tree : Tree, tree.access = access → ∃ way, tree.locate path = .ok way ∧
      (∀ text, access.read path = .ok text ↔ tree.contents way = some text.toUTF8.toList) ∧
      report.filesIn tree = Function.update tree.contents way (some content.toBytes)

/-- A run that fails and writes nothing. -/
def Report.Fails (report : Report) : Prop :=
  report.error ≠ none ∧ report.outputs = []

section Reports

variable {report : Report} {access : Access} {path : String} {content : Content}

theorem Report.leaves_nothing (h : report.outputs = []) :
    report.stdout = [] ∧ ∀ tree : Tree, report.filesIn tree = tree.contents := by
  unfold Report.stdout Report.filesIn
  rw [h]
  exact ⟨rfl, fun _ => rfl⟩

theorem Report.leaves_of_outputs (h : report.outputs = [⟨Target.ofPath path, content⟩])
    (hwritable : (Target.ofPath path).error? access = none) : report.Leaves access path content := by
  refine ⟨h, ?_, ?_⟩
  · intro hpath
    rw [Target.ofPath, if_pos (by simpa using hpath)] at h
    unfold Report.stdout Report.filesIn
    rw [h]
    exact ⟨List.append_nil _, fun _ => rfl⟩
  · intro hpath
    have htarget : Target.ofPath path = .file path := if_neg (by simpa using hpath)
    rw [htarget] at h hwritable
    unfold Report.stdout Report.filesIn
    rw [h]
    refine ⟨rfl, ?_⟩
    rintro tree rfl
    obtain ⟨way, hlocate⟩ := Tree.locate_of_writable (Option.map_eq_none_iff.mp hwritable)
    refine ⟨way, hlocate, Tree.read_iff_contents hlocate, ?_⟩
    simp only [List.foldl_cons, List.foldl_nil, Output.writtenTo, hlocate]

end Reports

section Runs

variable {access : Access} {stdin : String} {args : List String} {command : CommandLine.Command} {items : List Item}
  {document : Document} {events : List Event} {conv conv' : Converter} {order : Order} {path : String}
  {content : Content}

theorem Produces.writable (h : Produces access stdin args path content) :
    (Target.ofPath path).error? access = none := by
  cases h with
  | dump _ _ _ htarget => exact htarget
  | listing _ _ _ _ _ _ htarget => exact htarget

theorem Configured.unique (hloads : Loads access path document) (honce : NamesOnce document.keys)
    (h : Configured items document.root conv) (h' : Configured items document.root conv') : conv = conv' := by
  -- There is nothing in a converter but its table and the preferences.
  have hvalue (p : Preference) : p.ofConverter conv = p.ofConverter conv' :=
    (h.layers p).unique (hloads.holdsNamed_unique honce p.setting) (h'.layers p)
  have htable := h.table.trans h'.table.symm
  have hverbose := hvalue .verbose
  have hsimulator := hvalue (.listing .simulator)
  have hshift := hvalue (.listing .shiftKey)
  have honePerLine := hvalue (.listing .onePerLine)
  obtain ⟨table, ⟨simulator, shiftKey, onePerLine⟩, verbose⟩ := conv
  obtain ⟨table', ⟨simulator', shiftKey', onePerLine'⟩, verbose'⟩ := conv'
  cases htable
  cases hverbose
  cases hsimulator
  cases hshift
  cases honePerLine
  rfl

theorem Watched.moments_of_calm {w : Watched} (h : ∀ event ∈ events, event.concerns w.input = false) :
    w.moments access stdin events = [w.moment access stdin] := by
  rw [moments, List.filterMap_eq_nil_iff.mpr]
  intro event hevent
  rw [← Option.isNone_iff_eq_none, ← Option.not_isSome, isSome_momentOf, h event hevent]
  rfl

/-- A run that converts once ends as the conversion does. -/
theorem run_moment (stdin : String) (h : Parses args command items)
    (hcommand : command = .list ∨ command = .watch ∧ access.watchError? (directory (inputOf items)) = none)
    {settings : Settings} (hsettings : settingsOf access (items.foldl Choices.put {}) order = .ok settings)
    (hcalm : ∀ items, Parses args .watch items → ∀ event ∈ events, event.concerns (inputOf items) = false) :
    let m := Moment.ofFiles access stdin (inputOf items) (outputOf items)
    List.Forall₂ (Lists (settings.apply {}) (outputOf items))
      ([m].filter fun m => (m.error? (settings.apply {})).isNone) (run access stdin args events order).outputs ∧
    (run access stdin args events order).error = m.error? (settings.apply {}) := by
  rcases hcommand with rfl | ⟨rfl, hdirectory⟩
  · rw [run_of_settingsOf h (.inl rfl) hsettings]
    generalize settings.apply {} = conv
    exact convertFile_report
  · rw [run_of_settingsOf h (.inr rfl) hsettings]
    generalize settings.apply {} = conv
    have hreports := Watched.reports_run (w := Watched.ofItems conv items) hdirectory stdin events
    rw [Watched.moments_of_calm (w := Watched.ofItems conv items) (hcalm items h)] at hreports
    exact ⟨hreports.outputs, hreports.error⟩

theorem run_table (h : Parses args .table items) :
    run access stdin args events order =
      writeTable access { output := outputOf items, format := formatOf items } := by
  have hformat : (items.foldl Choices.put {}).format = formatOf items := h.text_eq .format rfl
  simp only [run, readUsage_of_parses h, writeTable, h.output_eq, hformat]

theorem run_dump {format : Format} (h : Parses args .table items)
    (hformat : Format.ofName (formatOf items) = .ok format)
    (hcontent : (ofTable Table.standard).encode format = .ok content)
    (htarget : (Target.ofPath (outputOf items)).error? access = none) :
    (run access stdin args events order).outputs = [⟨Target.ofPath (outputOf items), content⟩] ∧
      (run access stdin args events order).error = none := by
  rw [run_table h]
  simp only [writeTable, hformat, htarget, hcontent, and_self]

/-- If everything that a listing needs is at hand, one is written by a converter that is asked for. -/
theorem run_listing {text : String} (h : Parses args command items)
    (hcommand : command = .list ∨ command = .watch ∧ access.watchError? (directory (inputOf items)) = none)
    (hloads : Loads access (configOf items) document) (hread : readInput access stdin (inputOf items) = .ok text)
    (htarget : (Target.ofPath (outputOf items)).error? access = none) (order : Order)
    (hcalm : ∀ items, Parses args .watch items → ∀ event ∈ events, event.concerns (inputOf items) = false) :
    ∃ conv listing, Configured items document.root conv ∧ (conv.convert text).listing = .ok listing ∧
      (run access stdin args events order).outputs = [⟨Target.ofPath (outputOf items), .text listing⟩] ∧
      (run access stdin args events order).error = none := by
  obtain ⟨settings, hsettings, hconfigured⟩ := exists_configured h hloads order
  -- The keypad has a decimal point key and no shortcut is empty, so that no text breaks a conversion off.
  obtain ⟨listing, hlisting⟩ := standard_listing_ok hconfigured.table text
  obtain ⟨houtputs, herror⟩ := run_moment stdin h hcommand hsettings hcalm
  have hnone : (Moment.ofFiles access stdin (inputOf items) (outputOf items)).error? (settings.apply {}) = none :=
    Moment.error_eq_none_iff.mpr ⟨text, listing, hread, hlisting, htarget⟩
  refine ⟨settings.apply {}, listing, hconfigured, hlisting, ?_, herror.trans hnone⟩
  rw [List.filter_cons_of_pos (by rw [hnone]; rfl), List.filter_nil, List.forall₂_cons_left_iff] at houtputs
  obtain ⟨written, rest, ⟨text', listing', hread', hlisting', rfl⟩, hrest, houtputs⟩ := houtputs
  rw [List.forall₂_nil_left_iff] at hrest
  rw [houtputs, hrest]
  obtain rfl : text = text' := Except.ok.inj (hread.symm.trans hread')
  rw [hlisting, Except.ok.injEq] at hlisting'
  rw [hlisting']

theorem Produces.exists_written (h : Produces access stdin args path content) (order : Order)
    (hcalm : ∀ items, Parses args .watch items → ∀ event ∈ events, event.concerns (inputOf items) = false) :
    ∃ written, Produces access stdin args path written ∧
      (run access stdin args events order).outputs = [⟨Target.ofPath path, written⟩] ∧
      (run access stdin args events order).error = none := by
  cases h with
  | dump hparses hformat hcontent htarget =>
    exact ⟨content, .dump hparses hformat hcontent htarget, run_dump hparses hformat hcontent htarget⟩
  | @listing command items document _ text _ hparses hcommand hloads _ hread _ htarget =>
    obtain ⟨conv, listing, hconfigured, hlisting, hrun⟩ :=
      run_listing hparses hcommand hloads hread htarget order hcalm
    exact ⟨.text listing, .listing hparses hcommand hloads hconfigured hread hlisting htarget, hrun⟩

/-- Without a setting that is named twice there is one converter, so that what may be written is what is written. -/
theorem Produces.written (h : Produces access stdin args path content) (honce : SettingsOnce access args)
    (order : Order)
    (hcalm : ∀ items, Parses args .watch items → ∀ event ∈ events, event.concerns (inputOf items) = false) :
    (run access stdin args events order).outputs = [⟨Target.ofPath path, content⟩] := by
  cases h with
  | dump hparses hformat hcontent htarget => exact (run_dump hparses hformat hcontent htarget).1
  | @listing command items document conv text listing hparses hcommand hloads hconfigured hread hlisting htarget =>
    obtain ⟨conv', listing', hconfigured', hlisting', houtputs, -⟩ :=
      run_listing hparses hcommand hloads hread htarget order hcalm
    have htable : command ≠ .table := by rcases hcommand with rfl | ⟨rfl, -⟩ <;> decide
    obtain rfl := hconfigured.unique hloads (honce command items document htable hparses hloads) hconfigured'
    rw [hlisting, Except.ok.injEq] at hlisting'
    rw [houtputs, hlisting']

theorem table_produces_or_fails (h : Parses args .table items) :
    (∃ path content, Produces access stdin args path content) ∨ (run access stdin args events order).Fails := by
  rw [run_table h, writeTable]
  cases hformat : Format.ofName (formatOf items) with
  | error error => exact .inr ⟨by simp, rfl⟩
  | ok format =>
    cases htarget : (Target.ofPath (outputOf items)).error? access with
    | some error => exact .inr ⟨by simp [htarget], by simp [htarget]⟩
    | none =>
      cases hcontent : (ofTable Table.standard).encode format with
      | error error => exact .inr ⟨by simp [htarget, hcontent], by simp [htarget, hcontent]⟩
      | ok content => exact .inl ⟨_, _, .dump h hformat hcontent htarget⟩

theorem listing_produces_or_fails (h : Parses args command items) (hcommand : command = .list ∨ command = .watch)
    (hcalm : ∀ items, Parses args .watch items → ∀ event ∈ events, event.concerns (inputOf items) = false) :
    (∃ path content, Produces access stdin args path content) ∨ (run access stdin args events order).Fails := by
  cases hsettings : settingsOf access (items.foldl Choices.put {}) order with
  | error error =>
    right
    rcases hcommand with rfl | rfl
    all_goals
      simp only [run, readUsage_of_parses h, hsettings]
      exact ⟨by simp, rfl⟩
  | ok settings =>
    by_cases hdirectory : command = .list ∨ command = .watch ∧ access.watchError? (directory (inputOf items)) = none
    · obtain ⟨houtputs, herror⟩ := run_moment stdin h hdirectory hsettings hcalm
      cases hmoment : (Moment.ofFiles access stdin (inputOf items) (outputOf items)).error? (settings.apply {}) with
      | none =>
        left
        obtain ⟨text, listing, hread, hlisting, htarget⟩ := Moment.error_eq_none_iff.mp hmoment
        obtain ⟨document, hloads, hconfigured⟩ := configured_of_settingsOf h hsettings
        exact ⟨_, _, .listing h hdirectory hloads hconfigured hread hlisting htarget⟩
      | some error =>
        right
        rw [List.filter_cons_of_neg (by simp [hmoment]), List.filter_nil, List.forall₂_nil_left_iff] at houtputs
        exact ⟨by simp [herror, hmoment], houtputs⟩
    · -- The directory of the input cannot be watched.
      right
      rw [run_of_settingsOf h hcommand hsettings]
      obtain ⟨hlist, hwatch⟩ := not_or.mp hdirectory
      obtain rfl := hcommand.resolve_left hlist
      obtain ⟨error, herror⟩ := Option.ne_none_iff_exists'.mp fun hnone => hwatch ⟨rfl, hnone⟩
      simp only [if_true, Watched.run, Watched.ofItems, herror]
      exact ⟨by simp, rfl⟩

theorem produces_or_fails (hhelp : ∀ choices, readUsage args ≠ .ok (.help, choices))
    (hcalm : ∀ items, Parses args .watch items → ∀ event ∈ events, event.concerns (inputOf items) = false) :
    (∃ path content, Produces access stdin args path content) ∨ (run access stdin args events order).Fails := by
  cases hread : readUsage args with
  | error error =>
    right
    rw [run, hread]
    exact ⟨by simp, rfl⟩
  | ok result =>
    obtain ⟨command, choices⟩ := result
    have hcommand : command ≠ .help := by
      rintro rfl
      exact hhelp choices hread
    obtain ⟨items, hparses, -⟩ := parses_of_readUsage hcommand hread
    cases command with
    | help => exact absurd rfl hcommand
    | table => exact table_produces_or_fails hparses
    | list => exact listing_produces_or_fails hparses (.inl rfl) hcalm
    | watch => exact listing_produces_or_fails hparses (.inr rfl) hcalm

end Runs

/-- A run that fails leaves standard output empty and the files of any tree as they are. A run succeeds if there is
something to write, and then all of it goes either to standard output or to the file that is named. What is written is
settled by the arguments, the settings file and the input, if the file names no setting twice. -/
theorem run_all_or_nothing (access : Access) (order : Order) (stdin : String) (args : List String)
    (events : List Event) (hhelp : ∀ choices, readUsage args ≠ .ok (.help, choices))
    (hcalm : ∀ items, Parses args .watch items → ∀ event ∈ events, event.concerns (inputOf items) = false) :
    let report := run access stdin args events order
    (report.error ≠ none →
      report.outputs = [] ∧ report.stdout = [] ∧ ∀ tree : Tree, report.filesIn tree = tree.contents) ∧
    (report.error = none ↔ ∃ path content, Produces access stdin args path content) ∧
    (report.error = none →
      ∃ path content, Produces access stdin args path content ∧ report.Leaves access path content) ∧
    (SettingsOnce access args → ∀ path content, Produces access stdin args path content →
      report.Leaves access path content) := by
  intro report
  have hcases : (∃ path content, Produces access stdin args path content) ∨ report.Fails :=
    produces_or_fails hhelp hcalm
  refine ⟨?_, ?_, ?_, ?_⟩
  · intro herror
    rcases hcases with ⟨path, content, h⟩ | hfails
    · obtain ⟨written, -, -, hnone⟩ := h.exists_written order hcalm
      exact absurd hnone herror
    · exact ⟨hfails.2, Report.leaves_nothing hfails.2⟩
  · constructor
    · intro herror
      exact hcases.resolve_right fun hfails => hfails.1 herror
    · rintro ⟨path, content, h⟩
      obtain ⟨written, -, -, hnone⟩ := h.exists_written order hcalm
      exact hnone
  · intro herror
    obtain ⟨path, content, h⟩ := hcases.resolve_right fun hfails => hfails.1 herror
    obtain ⟨written, hproduces, houtputs, -⟩ := h.exists_written order hcalm
    exact ⟨path, written, hproduces, Report.leaves_of_outputs houtputs h.writable⟩
  · intro honce path content h
    exact Report.leaves_of_outputs (h.written honce order hcalm) h.writable

/-- The command set is written above the working directory, by a path from the root that goes down and up again. -/
def detourArgs : List String :=
  ["-o", "/notes/../dump.cbor", "table", "--format=CBOR"]

def detourItems : List Item :=
  [.flag .output "/notes/../dump.cbor", .flag .format "CBOR"]

def detourFiles : Directory :=
  ⟨[("/notes/", "")]⟩

theorem detour_parses : Parses detourArgs .table detourItems := by
  have houtput : IsGroup .table ['o'] [] (some .output) := .waiting (by decide) rfl rfl
  have hformat : IsNamed .table (Flag.format.name.toList ++ '=' :: "CBOR".toList) [.flag .format "CBOR"] none :=
    .assigned (by decide) fun h => absurd h (by decide)
  have hgives : Gives .table none ["-o", "/notes/../dump.cbor", "--format=CBOR"] detourItems :=
    .group (by decide) houtput (.value (fun h => absurd h (by decide)) (.named hformat .done))
  exact ⟨⟨_, selects_iff.mpr rfl, hgives⟩, ⟨by decide, by decide⟩, rfl⟩

theorem run_all_or_nothing_detour :
    (∀ choices, readUsage detourArgs ≠ .ok (.help, choices)) ∧
    (run detourFiles.access "" detourArgs []).error = none ∧
    (run detourFiles.access "" detourArgs []).stdout = [] ∧
    (run detourFiles.access "" detourArgs []).filesIn detourFiles.tree =
      Function.update detourFiles.tree.contents ["dump.cbor"] (some (ofTable Table.standard).toCbor.bytes) := by
  have hhelp (choices : Choices) : readUsage detourArgs ≠ .ok (.help, choices) := by
    rw [readUsage_of_parses detour_parses]
    simp
  have hproduces : Produces detourFiles.access "" detourArgs "/notes/../dump.cbor"
      (.bytes (ofTable Table.standard).toCbor.bytes) :=
    have hformat : Format.ofName (formatOf detourItems) = .ok .cbor := rfl
    .dump detour_parses hformat rfl rfl
  have honce : SettingsOnce detourFiles.access detourArgs := by
    intro command items document htable hparses
    have hread := (readUsage_of_parses hparses).symm.trans (readUsage_of_parses detour_parses)
    exact absurd (Prod.mk.inj (Except.ok.inj hread)).1 htable
  obtain ⟨-, hsucceeds, -, hwrites⟩ := run_all_or_nothing detourFiles.access .document "" detourArgs [] hhelp (by simp)
  obtain ⟨hstdout, hfiles⟩ := (hwrites honce _ _ hproduces).file (by decide)
  obtain ⟨way, hlocate, -, hfiles⟩ := hfiles detourFiles.tree rfl
  obtain rfl : ["dump.cbor"] = way := Except.ok.inj hlocate
  exact ⟨hhelp, hsucceeds.mpr ⟨_, _, hproduces⟩, hstdout, hfiles⟩

end CommandLine

end Keystroke
