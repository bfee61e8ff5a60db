import Keystroke.Files.Directory
import Keystroke.Proofs.Decoding
import Keystroke.Proofs.Usage
import Keystroke.Proofs.Watching

/-! Preferences are the settings that have a flag. The last occurrence of the flag decides, without one the settings
file, and if that does not name them a default. Where the file names a preference in several spellings, it is open
which of them counts. -/
namespace Keystroke

open Keystroke.Command Keystroke.CommandLine Keystroke.Files Keystroke.Listing Keystroke.Settings Keystroke.Toml

/-- A setting that has a flag. -/
inductive Preference where
  | verbose
  | listing (choice : Choice)

namespace Preference

def flag : Preference → Flag
  | verbose => .verbose
  | listing .simulator => .simulator
  | listing .shiftKey => .shiftKey
  | listing .onePerLine => .onePerLine

def setting : Preference → Setting
  | verbose => .verbose
  | listing choice => .listing choice

def default : Preference → Bool
  | verbose => false
  | listing .simulator => false
  | listing .shiftKey => true
  | listing .onePerLine => true

def ofSettings (settings : Settings) : Preference → Bool
  | verbose => settings.verbose
  | listing choice => choice.valueIn settings.listing

def ofConverter (conv : Converter) : Preference → Bool
  | verbose => conv.verbose
  | listing choice => choice.valueIn conv.options

/-- A value that a settings file gives to a preference, or the default if it gives none. -/
inductive Preset (p : Preference) (members : Members) : Bool → Prop
  | file {b : Bool} (h : HoldsNamed members p.setting.path (.bool b)) : p.Preset members b
  | default (h : ∀ value, ¬ HoldsNamed members p.setting.path value) : p.Preset members p.default

/-- The value of the last flag, and without a flag a value that stands below it. -/
inductive Takes (p : Preference) (items : List Item) (members : Members) : Bool → Prop
  | flag {b : Bool} (h : lastSwitch? p.flag items = some b) : p.Takes items members b
  | preset {b : Bool} (hflag : lastSwitch? p.flag items = none) (h : p.Preset members b) : p.Takes items members b

variable {p : Preference}

theorem flag_isSwitch (p : Preference) : p.flag.isSwitch := by
  cases p with
  | verbose => rfl
  | listing choice => cases choice <;> rfl

theorem default_eq (p : Preference) : p.ofSettings {} = p.default := by
  cases p with
  | verbose => rfl
  | listing choice => cases choice <;> rfl

theorem valueIn_setting (p : Preference) (settings : Settings) :
    p.setting.valueIn settings = .bool (p.ofSettings settings) := by
  cases p <;> rfl

theorem preset_decode {text : String} {document : Document} (h : Document.read text = .ok document)
    (htyped : WellTyped document.root) (order : Order) (p : Preference) :
    p.Preset document.root (p.ofSettings (Settings.decode {} text order).1) := by
  have htakes : HoldsNamed document.root p.setting.path (p.setting.valueIn (Settings.decode {} text order).1) ∨ _ :=
    decode_takes h htyped p.setting
  simp only [valueIn_setting, Value.bool.injEq] at htakes
  rcases htakes with hholds | ⟨hnothing, hsame⟩
  · exact .file hholds
  · rw [hsame, default_eq]
    exact .default hnothing

theorem Preset.unique {members : Members} {b b' : Bool}
    (hunique : ∀ v w, HoldsNamed members p.setting.path v → HoldsNamed members p.setting.path w → w = v)
    (h : p.Preset members b) (h' : p.Preset members b') : b = b' := by
  cases h with
  | file hholds =>
    cases h' with
    | file hholds' => exact Value.bool.inj (hunique _ _ hholds' hholds)
    | default hnothing => exact absurd hholds (hnothing _)
  | default hnothing =>
    cases h' with
    | file hholds' => exact absurd hholds' (hnothing _)
    | default _ => rfl

theorem Takes.unique {items : List Item} {members : Members} {b b' : Bool}
    (hunique : ∀ v w, HoldsNamed members p.setting.path v → HoldsNamed members p.setting.path w → w = v)
    (h : p.Takes items members b) (h' : p.Takes items members b') : b = b' := by
  cases h with
  | flag hflag =>
    cases h' with
    | flag hflag' => exact Option.some.inj (hflag.symm.trans hflag')
    | preset hnone _ => exact nomatch hflag.symm.trans hnone
  | preset hnone hpreset =>
    cases h' with
    | flag hflag' => exact nomatch hnone.symm.trans hflag'
    | preset _ hpreset' => exact hpreset.unique hunique hpreset'

end Preference

namespace CommandLine

section Loading

variable {access : Access} {choices : Choices} {path : String} {document : Document}

/-- The document of a settings file that loads. An empty path is that of no file. -/
inductive Loads (access : Access) : String → Document → Prop where
  | nothing : Loads access "" ⟨[], [], []⟩
  | file {path text : String} {document : Document} (hpath : path ≠ "") (hread : access.read path = .ok text)
      (hdocument : Document.read text = .ok document) (hvalid : ∃ order, (Settings.decode {} text order).2 = none) :
      Loads access path document

theorem Loads.holdsNamed_unique (h : Loads access path document) (honce : NamesOnce document.keys) (setting : Setting) :
    ∀ v w, HoldsNamed document.root setting.path v → HoldsNamed document.root setting.path w → w = v := by
  intro v w hv hw
  cases h with
  | nothing => exact absurd hv not_holdsNamed_nil
  | file hpath hread hdocument hvalid =>
    obtain ⟨order, hvalid⟩ := hvalid
    exact Settings.holdsNamed_unique hdocument ((decode_eq_none_iff hdocument).mp hvalid).2 honce hv hw

/-- The two lower layers, the file over the defaults. -/
theorem loadSettings_of_loads (h : Loads access path document) (order : Order) : ∃ loaded : Settings,
    (if path = "" then (({}, none) : Settings × Option LoadError)
      else loadSettings {} path (access.read path) order) = (loaded, none) ∧
    ∀ p : Preference, p.Preset document.root (p.ofSettings loaded) := by
  cases h with
  | nothing =>
    refine ⟨{}, rfl, ?_⟩
    intro p
    rw [p.default_eq]
    exact .default fun _ => not_holdsNamed_nil
  | @file _ text document hpath hread hdocument hvalid =>
    obtain ⟨other, hvalid⟩ := hvalid
    -- A file that is accepted in one order is accepted in any, though with other values.
    have haccepted := (decode_eq_none_iff hdocument).mp hvalid
    have hnone : (Settings.decode {} text order).2 = none := (decode_eq_none_iff hdocument).mpr haccepted
    refine ⟨(Settings.decode {} text order).1, ?_, Preference.preset_decode hdocument haccepted.2 order⟩
    simp [if_neg hpath, loadSettings, hread, hnone]

theorem settingsOf_of_loads (h : Loads access choices.config document) (order : Order) : ∃ loaded settings : Settings,
    settingsOf access choices order = .ok settings ∧
      ∀ p : Preference, p.ofSettings settings = (choices.switch? p.flag).getD (p.ofSettings loaded) ∧
        p.Preset document.root (p.ofSettings loaded) := by
  obtain ⟨loaded, hloaded, hpreset⟩ := loadSettings_of_loads h order
  refine ⟨loaded, _, by simp only [settingsOf, hloaded]; rfl, ?_⟩
  intro p
  refine ⟨?_, hpreset p⟩
  cases p with
  | verbose => rfl
  | listing choice => cases choice <;> rfl

theorem loads_of_settingsOf {order : Order} {settings : Settings} (h : settingsOf access choices order = .ok settings) :
    ∃ document, Loads access choices.config document := by
  unfold settingsOf at h
  by_cases hpath : choices.config = ""
  · rw [hpath]
    exact ⟨_, .nothing⟩
  · rw [if_neg hpath] at h
    cases hread : access.read choices.config with
    | error error => simp [loadSettings, hread] at h
    | ok text =>
      have hvalid : (Settings.decode {} text order).2 = none := by
        cases herror : (Settings.decode {} text order).2 with
        | none => rfl
        | some error => simp [loadSettings, hread, herror] at h
      cases hdocument : Document.read text with
      | error error => simp [decode, hdocument] at hvalid
      | ok document => exact ⟨document, .file hpath hread hdocument ⟨order, hvalid⟩⟩

end Loading

section Converters

/-- A converter that the arguments and a settings file ask for. -/
structure Configured (items : List Item) (members : Members) (conv : Converter) : Prop where
  table : conv.table = Table.standard
  layers : ∀ p : Preference, p.Takes items members (p.ofConverter conv)

def configOf (items : List Item) : String :=
  (lastValue? .config items).getD ""

def inputOf (items : List Item) : String :=
  (filesOf items).headD ""

def outputOf (items : List Item) : String :=
  (lastValue? .output items).getD "-"

/-- The file that the arguments ask to convert. -/
def Watched.ofItems (conv : Converter) (items : List Item) : Watched :=
  ⟨conv, inputOf items, outputOf items⟩

variable {access : Access} {stdin : String} {args : List String} {command : Command} {items : List Item}
  {document : Document} {events : List Event} {order : Order}

theorem Parses.accepted (h : Parses args command items) : ∀ item ∈ items, item.Accepted := by
  obtain ⟨rest, -, hgives⟩ := h.gives
  exact hgives.accepted

theorem Parses.text_eq (h : Parses args command items) (flag : Flag) (hflag : flag.isSwitch = false) :
    (items.foldl Choices.put {}).text flag = (lastValue? flag items).getD (Choices.text {} flag) :=
  text_foldl h.accepted flag hflag {}

theorem Parses.config_eq (h : Parses args command items) : (items.foldl Choices.put {}).config = configOf items :=
  h.text_eq .config rfl

theorem Parses.output_eq (h : Parses args command items) : (items.foldl Choices.put {}).output = outputOf items :=
  h.text_eq .output rfl

theorem exists_configured (h : Parses args command items) (hloads : Loads access (configOf items) document)
    (order : Order) : ∃ settings : Settings, settingsOf access (items.foldl Choices.put {}) order = .ok settings ∧
      Configured items document.root (settings.apply {}) := by
  rw [← h.config_eq] at hloads
  obtain ⟨loaded, settings, hsettings, hvalues⟩ := settingsOf_of_loads hloads order
  refine ⟨settings, hsettings, rfl, ?_⟩
  intro p
  obtain ⟨hvalue, hpreset⟩ := hvalues p
  have hunset : Choices.switch? {} p.flag = none := by
    cases p with
    | verbose => rfl
    | listing choice => cases choice <;> rfl
  rw [switch_foldl h.accepted p.flag p.flag_isSwitch, hunset, Option.or_none] at hvalue
  have hconv : p.ofConverter (settings.apply {}) = p.ofSettings settings := by cases p <;> rfl
  rw [hconv, hvalue]
  cases hflag : lastSwitch? p.flag items with
  | none => exact .preset hflag hpreset
  | some b => exact .flag hflag

/-- Settings are only found if the settings file loads. -/
theorem configured_of_settingsOf (h : Parses args command items) {settings : Settings}
    (hsettings : settingsOf access (items.foldl Choices.put {}) order = .ok settings) :
    ∃ document, Loads access (configOf items) document ∧ Configured items document.root (settings.apply {}) := by
  obtain ⟨document, hloads⟩ := loads_of_settingsOf hsettings
  rw [h.config_eq] at hloads
  obtain ⟨settings', hsettings', hconfigured⟩ := exists_configured h hloads order
  obtain rfl : settings = settings' := Except.ok.inj (hsettings.symm.trans hsettings')
  exact ⟨document, hloads, hconfigured⟩

theorem run_of_settingsOf (h : Parses args command items) (hcommand : command = .list ∨ command = .watch)
    {settings : Settings} (hsettings : settingsOf access (items.foldl Choices.put {}) order = .ok settings) :
    run access stdin args events order =
      let w := Watched.ofItems (settings.apply {}) items
      if command = .watch then w.run access stdin events
      else (convertFile access stdin w.conv w.input w.output).report := by
  have hfiles : (items.foldl Choices.put {}).files = filesOf items := files_foldl h.accepted {}
  rcases hcommand with rfl | rfl
  all_goals simp only [run, readUsage_of_parses h, hsettings, hfiles, h.output_eq, Watched.ofItems, inputOf]

/-- The converter of a run has the value of the last flag for each preference, without one a value of the settings file,
and else the default; whatever is listed is listed by it. If the file names no setting twice, this leaves one value for
each preference. -/
theorem preferences_follow_layers {choices : Choices} (hread : readUsage args = .ok (command, choices))
    (hcommand : command = .list ∨ command = .watch) :
    (∃ items, Parses args command items) ∧
    ∀ items, Parses args command items →
      ∀ access document, Loads access (configOf items) document → ∀ order : Order,
      ∃ conv : Converter, conv.table = Table.standard ∧
        (∀ p : Preference, p.Takes items document.root (p.ofConverter conv)) ∧
        (NamesOnce document.keys → ∀ (p : Preference) b, p.Takes items document.root b → b = p.ofConverter conv) ∧
        ∀ stdin events,
          let w := Watched.ofItems conv items
          run access stdin args events order = (if command = .watch then w.run access stdin events
            else (convertFile access stdin conv w.input w.output).report) ∧
          ∀ written ∈ (run access stdin args events order).outputs,
            ∃ m ∈ w.moments access stdin (if command = .watch then events else []), Lists conv w.output m written := by
  have hhelp : command ≠ .help := by rcases hcommand with rfl | rfl <;> decide
  constructor
  · obtain ⟨items, hparses, -⟩ := parses_of_readUsage hhelp hread
    exact ⟨items, hparses⟩
  intro items hparses access document hloads order
  obtain ⟨settings, hsettings, hconfigured⟩ := exists_configured hparses hloads order
  refine ⟨settings.apply {}, hconfigured.table, hconfigured.layers, ?_, ?_⟩
  · intro honce p b htakes
    exact htakes.unique (hloads.holdsNamed_unique honce p.setting) (hconfigured.layers p)
  intro stdin events w
  have hrun : run access stdin args events order = _ := run_of_settingsOf hparses hcommand hsettings
  refine ⟨hrun, ?_⟩
  intro written hwritten
  rw [hrun] at hwritten
  rcases hcommand with rfl | rfl
  · obtain ⟨m, hm, hlists⟩ := exists_moment_of_mem convertFile_report.1 hwritten
    exact ⟨m, List.mem_of_mem_filter hm, hlists⟩
  · cases hdirectory : access.watchError? (directory w.input) with
    | some error =>
      -- Nothing is written if the directory cannot be watched.
      simp [Watched.run, w, hdirectory] at hwritten
    | none =>
      obtain ⟨m, hm, hlists⟩ := exists_moment_of_mem (Watched.reports_run hdirectory stdin events).outputs hwritten
      exact ⟨m, List.mem_of_mem_filter hm, hlists⟩

end Converters

section Mixed

/-- A switch is on, on and off again, with the other flags and the file in between. -/
def mixedArgs : List String :=
  ["--prefix-key=true", "-vc", "s.toml", "prog.txt", "-v=F"]

def mixedItems : List Item :=
  [.flag .shiftKey "true", .flag .verbose "true", .flag .config "s.toml", .file "prog.txt", .flag .verbose "F"]

theorem mixed_parses : Parses mixedArgs .list mixedItems := by
  have hshift : IsNamed .list (Flag.shiftKey.name.toList ++ '=' :: "true".toList) [.flag .shiftKey "true"] none :=
    .assigned (by decide) fun _ => rfl
  have hswitch : IsGroup .list ['v', 'c'] [.flag .verbose "true"] (some .config) :=
    .switch (by decide) rfl rfl (by decide) (.waiting (by decide) rfl rfl)
  have hoff : IsGroup .list ('v' :: '=' :: "F".toList) [.flag .verbose "F"] none :=
    .assigned (by decide) rfl (by decide) fun _ => rfl
  have hgives : Gives .list none mixedArgs mixedItems :=
    .named hshift (.group (by decide) hswitch (.value (fun h => absurd h (by decide))
      (.file (by decide) (.group (by decide) hoff .done))))
  exact ⟨⟨mixedArgs, selects_iff.mpr rfl, hgives⟩, ⟨by decide, by decide⟩, rfl⟩

/-- The settings file says the opposite of two flags. -/
def mixedSettings : String :=
  "Verbose = true\n[listing]\nprefix_key = false\nSIMULATOR = true\n"

def mixedFiles : Directory :=
  ⟨[("s.toml", mixedSettings), ("prog.txt", "")]⟩

def mixedRoot : Members :=
  [("Verbose", .bool true), ("listing", .table [("prefix_key", .bool false), ("SIMULATOR", .bool true)])]

def mixedKeys : List Key :=
  [["Verbose"], ["listing"], ["listing", "prefix_key"], ["listing", "SIMULATOR"]]

/-- Names and values of tables of the form that the settings file has. -/
def mixedParts? : Members → Option (List String × List Bool)
  | [(first, .bool a), (second, .table [(third, .bool b), (fourth, .bool c)])] =>
    some ([first, second, third, fourth], [a, b, c])
  | _ => none

theorem mixed_reads : ∃ document, Document.read mixedSettings = .ok document ∧ document.keys = mixedKeys ∧
    document.root = mixedRoot := by
  have hnull : hasEarlyNull 6 (dropOrderMark mixedSettings.toList) = false := by decide
  have htokens : tokens (dropOrderMark mixedSettings.toList) =
      [⟨.keyStart, 1⟩, ⟨.name "Verbose", 1⟩, ⟨.keyEnd, 1⟩, ⟨.bool true, 1⟩,
        ⟨.tableStart, 2⟩, ⟨.name "listing", 2⟩, ⟨.tableEnd, 2⟩,
        ⟨.keyStart, 3⟩, ⟨.name "prefix_key", 3⟩, ⟨.keyEnd, 3⟩, ⟨.bool false, 3⟩,
        ⟨.keyStart, 4⟩, ⟨.name "SIMULATOR", 4⟩, ⟨.keyEnd, 4⟩, ⟨.bool true, 4⟩].map .ok := rfl
  -- The tokens go in as values; unevaluated they would be scanned again for each line that is read.
  have hparts : (Document.read mixedSettings).toOption.map (fun document =>
      (document.keys, mixedParts? document.root)) =
        some (mixedKeys, some (["Verbose", "listing", "prefix_key", "SIMULATOR"], [true, false, true])) := by
    simp only [Document.read, hnull, htokens]
    decide +kernel
  cases hread : Document.read mixedSettings with
  | error error =>
    rw [hread] at hparts
    cases hparts
  | ok document =>
    rw [hread, Except.toOption, Option.map_some, Option.some_inj, Prod.mk.injEq] at hparts
    obtain ⟨hkeys, hroot⟩ := hparts
    refine ⟨document, rfl, hkeys, ?_⟩
    unfold mixedParts? at hroot
    split at hroot
    · rename_i hmembers
      cases hroot
      exact hmembers
    · cases hroot

theorem mixed_namesOnce : NamesOnce mixedKeys := by
  have hnames (setting : Setting) : ∀ key ∈ mixedKeys, ∀ other ∈ mixedKeys,
      Names setting.path key → Names setting.path other → key = other := by
    unfold Names
    cases setting with
    | listing choice => cases choice <;> decide
    | _ => decide
  exact fun setting key other hkey hother => hnames setting key hkey other hother

theorem mixed_loads : ∃ document, Loads mixedFiles.access "s.toml" document ∧ document.keys = mixedKeys ∧
    document.root = mixedRoot := by
  obtain ⟨document, hread, hkeys, hroot⟩ := mixed_reads
  have happlied : (decodeRoot .document document {}).2 = none := by
    rw [decodeRoot, Order.document, hroot]
    rfl
  have hknown : ∀ key ∈ document.keys, Known key := by
    simp only [← isKnown_iff, hkeys]
    decide
  have hvalid : (Settings.decode {} mixedSettings .document).2 = none :=
    (decode_eq_none_iff hread).mpr ⟨hknown, (decodeRoot_eq_none_iff hread).mp happlied⟩
  exact ⟨document, .file (by decide) rfl hread ⟨_, hvalid⟩, hkeys, hroot⟩

theorem mixed_simulator : HoldsNamed mixedRoot (Setting.listing .simulator).path (.bool true) :=
  ⟨["listing", "SIMULATOR"], .cons (by decide) (.cons (by decide) .nil),
    .inside (.tail _ (.head _)) (.here (.tail _ (.head _)))⟩

theorem mixed_onePerLine (value : Value) : ¬ HoldsNamed mixedRoot (Setting.listing .onePerLine).path value := by
  intro hholds
  obtain ⟨⟨name, table⟩, hmem, hone⟩ := holdsNamed_iff_exists.mp hholds
  obtain ⟨-, inner, rfl, hinner⟩ := holdsNamed_inside_iff.mp hone
  obtain ⟨-, rfl⟩ : name = "listing" ∧ inner = [("prefix_key", .bool false), ("SIMULATOR", .bool true)] := by
    simpa [mixedRoot] using hmem
  obtain ⟨⟨choice, given⟩, hgiven, hchoice⟩ := holdsNamed_iff_exists.mp hinner
  have hname := (holdsNamed_here_iff.mp hchoice).1
  have hother : ∀ other ∈ ["prefix_key", "SIMULATOR"], ¬ isName (Choice.name .onePerLine) other := by decide
  exact hother choice (List.mem_map_of_mem (f := Prod.fst) hgiven) hname

theorem preferences_follow_layers_mixed : (∃ choices, readUsage mixedArgs = .ok (.list, choices)) ∧
    ∃ conv : Converter, conv.options.simulator = true ∧ conv.options.shiftKey = true ∧ conv.options.onePerLine = true ∧
    conv.verbose = false ∧
    run mixedFiles.access "" mixedArgs [] = (convertFile mixedFiles.access "" conv "prog.txt" "-").report := by
  have hread : readUsage mixedArgs = .ok (.list, _) := readUsage_of_parses mixed_parses
  obtain ⟨-, hall⟩ := preferences_follow_layers hread (.inl rfl)
  obtain ⟨document, hloads, hkeys, hroot⟩ := mixed_loads
  obtain ⟨conv, -, -, honly, hruns⟩ := hall mixedItems mixed_parses mixedFiles.access document hloads .document
  rw [hkeys, hroot] at honly
  have hvalue := honly mixed_namesOnce
  refine ⟨⟨_, hread⟩, conv, ?_, ?_, ?_, ?_, (hruns "" []).1⟩
  · exact (hvalue (.listing .simulator) true (.preset rfl (.file mixed_simulator))).symm
  · exact (hvalue (.listing .shiftKey) true (.flag rfl)).symm
  · exact (hvalue (.listing .onePerLine) true (.preset rfl (.default mixed_onePerLine))).symm
  · exact (hvalue .verbose false (.flag rfl)).symm

end Mixed

end CommandLine

end Keystroke
