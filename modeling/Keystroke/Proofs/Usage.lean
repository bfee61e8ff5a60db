import Keystroke.Proofs.Arguments

/-! The choices that arguments leave, by what they give: the last value of each flag and all files. The word of a
command can stand anywhere among the flags. -/
namespace Keystroke.CommandLine

section Values

def Item.Accepted : Item → Prop
  | .flag given value => given.Accepts value
  | .file _ => True

def Item.value? (flag : Flag) : Item → Option String
  | .flag given value => if given = flag then some value else none
  | .file _ => none

def Item.file? : Item → Option String
  | .flag _ _ => none
  | .file name => some name

/-- The value of the last occurrence of a flag. -/
def lastValue? (flag : Flag) (items : List Item) : Option String :=
  (items.filterMap (Item.value? flag)).getLast?

def lastSwitch? (flag : Flag) (items : List Item) : Option Bool :=
  (lastValue? flag items).bind switchValue?

def filesOf (items : List Item) : List String :=
  items.filterMap Item.file?

/-- Whether the choices have a switch on or off. -/
def Choices.switch? (choices : Choices) : Flag → Option Bool
  | .verbose => choices.verbose
  | .simulator => choices.simulator
  | .shiftKey => choices.shiftKey
  | .onePerLine => choices.onePerLine
  | .help => some choices.help
  | _ => none

/-- The value that the choices have for a flag that is no switch. -/
def Choices.text (choices : Choices) : Flag → String
  | .config => choices.config
  | .output => choices.output
  | .format => choices.format
  | _ => ""

variable {choices : Choices} {flag given : Flag} {value : String} {item : Item} {items : List Item}

theorem Choices.put_turn (h : given.isSwitch) {b : Bool} (hb : switchValue? value = some b) :
    choices.put (.flag given value) = choices.turn b given := by
  cases given
  case config | output | format => cases h
  all_goals simp [Choices.put, Choices.set, hb, Except.toOption]

theorem Choices.turn_switch (h : given.isSwitch) (b : Bool) :
    (choices.turn b given).switch? flag = if given = flag then some b else choices.switch? flag := by
  cases given
  case config | output | format => cases h
  all_goals cases flag <;> rfl

/-- What a switch leaves as it is. -/
theorem Choices.turn_frame (given flag : Flag) (b : Bool) :
    (choices.turn b given).text flag = choices.text flag ∧ (choices.turn b given).files = choices.files := by
  cases given <;> cases flag <;> exact ⟨rfl, rfl⟩

theorem Choices.put_text_flag (h : given.isSwitch = false) :
    (choices.put (.flag given value)).text flag = if given = flag then value else choices.text flag := by
  cases given
  case config | output | format => cases flag <;> rfl
  all_goals cases h

/-- What a flag that is no switch leaves as it is. -/
theorem Choices.put_text_frame (h : given.isSwitch = false) (flag : Flag) :
    (choices.put (.flag given value)).switch? flag = choices.switch? flag ∧
      (choices.put (.flag given value)).files = choices.files := by
  cases given
  case config | output | format => cases flag <;> exact ⟨rfl, rfl⟩
  all_goals cases h

theorem Choices.put_switch (h : item.Accepted) (hflag : flag.isSwitch) :
    (choices.put item).switch? flag = ((item.value? flag).bind switchValue?).or (choices.switch? flag) := by
  cases item with
  | file name => cases flag <;> rfl
  | flag given value =>
    by_cases hgiven : given.isSwitch
    · obtain ⟨b, hb⟩ := Option.isSome_iff_exists.mp (h hgiven)
      rw [Choices.put_turn hgiven hb, Choices.turn_switch hgiven, Item.value?]
      split_ifs with heq
      · rw [Option.bind_some, hb, Option.some_or]
      · rfl
    · have hne : given ≠ flag := by
        rintro rfl
        exact hgiven hflag
      rw [(Choices.put_text_frame (Bool.eq_false_iff.mpr hgiven) flag).1, Item.value?, if_neg hne]
      rfl

theorem Choices.put_text (h : item.Accepted) (hflag : flag.isSwitch = false) :
    (choices.put item).text flag = (item.value? flag).getD (choices.text flag) := by
  cases item with
  | file name => cases flag <;> rfl
  | flag given value =>
    by_cases hgiven : given.isSwitch
    · obtain ⟨b, hb⟩ := Option.isSome_iff_exists.mp (h hgiven)
      have hne : given ≠ flag := by
        rintro rfl
        rw [hflag] at hgiven
        cases hgiven
      rw [Choices.put_turn hgiven hb, (Choices.turn_frame given flag b).1, Item.value?, if_neg hne]
      rfl
    · rw [Choices.put_text_flag (Bool.eq_false_iff.mpr hgiven), Item.value?]
      split_ifs <;> rfl

theorem Choices.put_files (h : item.Accepted) : (choices.put item).files = choices.files ++ item.file?.toList := by
  cases item with
  | file name => rfl
  | flag given value =>
    rw [Item.file?, Option.toList_none, List.append_nil]
    by_cases hgiven : given.isSwitch
    · obtain ⟨b, hb⟩ := Option.isSome_iff_exists.mp (h hgiven)
      rw [Choices.put_turn hgiven hb]
      exact (Choices.turn_frame given given b).2
    · exact (Choices.put_text_frame (Bool.eq_false_iff.mpr hgiven) given).2

theorem lastValue_cons (flag : Flag) (item : Item) (items : List Item) :
    lastValue? flag (item :: items) = (lastValue? flag items).or (item.value? flag) := by
  unfold lastValue?
  cases hvalue : item.value? flag with
  | none => rw [List.filterMap_cons_none hvalue, Option.or_none]
  | some value =>
    rw [List.filterMap_cons_some hvalue, List.getLast?_cons]
    cases (items.filterMap (Item.value? flag)).getLast? <;> rfl

theorem accepts_of_lastValue (h : ∀ item ∈ items, item.Accepted) (hvalue : lastValue? flag items = some value) :
    flag.Accepts value := by
  obtain ⟨item, hitem, hgiven⟩ := List.mem_filterMap.mp (List.mem_of_getLast? hvalue)
  have haccepted := h item hitem
  cases item with
  | file name => cases hgiven
  | flag given value' =>
    rw [Item.value?] at hgiven
    split_ifs at hgiven with heq
    cases hgiven
    rw [← heq]
    exact haccepted

theorem switch_foldl (h : ∀ item ∈ items, item.Accepted) (flag : Flag) (hflag : flag.isSwitch) (choices : Choices) :
    (items.foldl Choices.put choices).switch? flag = (lastSwitch? flag items).or (choices.switch? flag) := by
  induction items generalizing choices with
  | nil => rfl
  | cons item rest ih =>
    rw [List.forall_mem_cons] at h
    rw [List.foldl_cons, ih h.2, Choices.put_switch h.1 hflag, lastSwitch?, lastSwitch?, lastValue_cons]
    cases hlast : lastValue? flag rest with
    | none => rfl
    | some value =>
      -- A later value counts, since it is one that the switch accepts.
      obtain ⟨b, hb⟩ := Option.isSome_iff_exists.mp (accepts_of_lastValue h.2 hlast hflag)
      rw [Option.some_or, Option.bind_some, hb, Option.some_or, Option.some_or]

theorem text_foldl (h : ∀ item ∈ items, item.Accepted) (flag : Flag) (hflag : flag.isSwitch = false)
    (choices : Choices) :
    (items.foldl Choices.put choices).text flag = (lastValue? flag items).getD (choices.text flag) := by
  induction items generalizing choices with
  | nil => rfl
  | cons item rest ih =>
    rw [List.forall_mem_cons] at h
    rw [List.foldl_cons, ih h.2, Choices.put_text h.1 hflag, lastValue_cons]
    cases lastValue? flag rest <;> rfl

theorem files_foldl (h : ∀ item ∈ items, item.Accepted) (choices : Choices) :
    (items.foldl Choices.put choices).files = choices.files ++ filesOf items := by
  induction items generalizing choices with
  | nil => exact (List.append_nil _).symm
  | cons item rest ih =>
    rw [List.forall_mem_cons] at h
    rw [List.foldl_cons, ih h.2, Choices.put_files h.1, List.append_assoc]
    unfold filesOf
    rw [List.filterMap_cons]
    cases item.file? <;> rfl

end Values

section Accepted

variable {command : Command} {pending : Option Flag} {text : List Char} {items : List Item}

theorem Flag.accepts_true (flag : Flag) : flag.Accepts "true" :=
  fun _ => rfl

theorem IsNamed.accepted (h : IsNamed command text items pending) : ∀ item ∈ items, item.Accepted := by
  cases h with
  | @switch flag _ _ => exact List.forall_mem_singleton.mpr flag.accepts_true
  | assigned _ haccepts => exact List.forall_mem_singleton.mpr haccepts
  | waiting _ _ => simp

theorem IsGroup.accepted (h : IsGroup command text items pending) : ∀ item ∈ items, item.Accepted := by
  induction h with
  | done => simp
  | skipped _ => simp
  | @switch flag _ _ _ _ _ _ _ _ _ ih =>
    rw [List.forall_mem_cons]
    exact ⟨flag.accepts_true, ih⟩
  | assigned _ _ _ haccepts => exact List.forall_mem_singleton.mpr haccepts
  | @attached flag _ value _ _ hswitch _ _ =>
    have haccepts : flag.Accepts value := fun hs => absurd hs (by simp [hswitch])
    exact List.forall_mem_singleton.mpr haccepts
  | waiting _ _ _ => simp

theorem Gives.accepted {args : List String} (h : Gives command pending args items) : ∀ item ∈ items, item.Accepted := by
  induction h with
  | done => simp
  | value haccepts _ ih =>
    rw [List.forall_mem_cons]
    exact ⟨haccepts, ih⟩
  | ended =>
    intro item hitem
    obtain ⟨name, -, rfl⟩ := List.mem_map.mp hitem
    trivial
  | named hnamed _ ih =>
    rw [List.forall_mem_append]
    exact ⟨hnamed.accepted, ih⟩
  | group _ hgroup _ ih =>
    rw [List.forall_mem_append]
    exact ⟨hgroup.accepted, ih⟩
  | file _ _ ih =>
    rw [List.forall_mem_cons]
    exact ⟨trivial, ih⟩

end Accepted

section Commands

variable {args : List String} {command : Command} {items : List Item}

/-- The command that arguments select, and the arguments without its word. -/
inductive Selects : List String → Command → List String → Prop
  | word {before after : List String} {word : String} {command : Command} :
    firstWord? (before ++ word :: after) = some (before, word, after) → Command.ofWord? word = some command →
    Selects (before ++ word :: after) command (before ++ after)
  | none {args : List String} : (∀ before word after, firstWord? args = some (before, word, after) →
    Command.ofWord? word = none) → Selects args .list args

/-- What the arguments of a run give. They do not ask for help, and the number of files is right. -/
structure Parses (args : List String) (command : Command) (items : List Item) : Prop where
  gives : ∃ rest, Selects args command rest ∧ Gives command none rest items
  noHelp : command ≠ .help ∧ lastSwitch? .help items ≠ some true
  files : command.filesError? (filesOf items) = none

theorem firstWord_split {before after : List String} {word : String}
    (h : firstWord? args = some (before, word, after)) : args = before ++ word :: after := by
  fun_induction firstWord? args generalizing before with
  | case1 => cases h
  | case2 arg _ => cases h
  | case3 arg _ =>
    cases h
    rfl
  | case4 next rest => cases h
  | case5 arg next rest _ _ _ => cases h
  | case6 arg next rest _ _ _ ih =>
    obtain ⟨⟨before', word', after'⟩, hfirst, hsome⟩ := Option.map_eq_some_iff.mp h
    cases hsome
    rw [ih hfirst]
    rfl
  | case7 arg next rest _ _ _ ih =>
    obtain ⟨⟨before', word', after'⟩, hfirst, hsome⟩ := Option.map_eq_some_iff.mp h
    cases hsome
    rw [ih hfirst]
    rfl
  | case8 arg next rest _ _ _ =>
    cases h
    rfl

theorem selects_iff {rest : List String} : Selects args command rest ↔ selectCommand args = (command, rest) := by
  constructor
  · intro h
    cases h with
    | word hfirst hcommand => simp [selectCommand, hfirst, hcommand]
    | none hno =>
      unfold selectCommand
      split
      · rename_i before word after hfirst
        rw [hno before word after hfirst]
      · rfl
  · intro h
    unfold selectCommand at h
    split at h
    · rename_i before word after hfirst
      split at h
      · rename_i hcommand
        cases h
        have hsplit := firstWord_split hfirst
        rw [hsplit] at hfirst ⊢
        exact .word hfirst hcommand
      · rename_i hcommand
        cases h
        refine .none fun before' word' after' hfirst' => ?_
        rw [hfirst] at hfirst'
        cases hfirst'
        exact hcommand
    · rename_i hfirst
      cases h
      refine .none fun before' word' after' hfirst' => ?_
      rw [hfirst] at hfirst'
      cases hfirst'

theorem Gives.help_foldl {rest : List String} (h : Gives command none rest items) :
    (items.foldl Choices.put {}).help = true ↔ lastSwitch? .help items = some true := by
  have hhelp : some (items.foldl Choices.put {}).help = (lastSwitch? .help items).or (some false) :=
    switch_foldl h.accepted .help rfl {}
  rw [← Option.some.injEq, hhelp]
  cases lastSwitch? .help items <;> simp

theorem Gives.files_foldl {rest : List String} (h : Gives command none rest items) :
    (items.foldl Choices.put {}).files = filesOf items :=
  CommandLine.files_foldl h.accepted {}

theorem readUsage_of_parses (h : Parses args command items) :
    readUsage args = .ok (command, items.foldl Choices.put {}) := by
  obtain ⟨rest, hselects, hgives⟩ := h.gives
  have hread : readArgs command {} none rest = .ok (items.foldl Choices.put {}) := readArgs_of_gives hgives {} none rfl
  have hhelp : (items.foldl Choices.put {}).help = false := by
    rw [Bool.eq_false_iff, ne_eq, hgives.help_foldl]
    exact h.noHelp.2
  have hfiles := h.files
  rw [← hgives.files_foldl] at hfiles
  simp only [readUsage, selects_iff.mp hselects, hread, hhelp, h.noHelp.1, hfiles, decide_false, Bool.or_self,
    Bool.false_eq_true, if_false]

theorem parses_of_readUsage {choices : Choices} (hcommand : command ≠ .help)
    (h : readUsage args = .ok (command, choices)) :
    ∃ items, Parses args command items ∧ choices = items.foldl Choices.put {} := by
  obtain ⟨selected, rest, hselect⟩ : ∃ selected rest, selectCommand args = (selected, rest) := ⟨_, _, rfl⟩
  cases hread : readArgs selected {} none rest with
  | error error =>
    simp only [readUsage, hselect, hread] at h
    cases h
  | ok read =>
    obtain ⟨items, hgives, rfl⟩ := gives_of_readArgs hread
    simp only [readUsage, hselect, hread] at h
    split_ifs at h with hhelp
    · cases h
      exact absurd rfl hcommand
    split at h
    · cases h
    · rename_i hfiles
      cases h
      rw [Option.map_none] at hgives
      rw [hgives.files_foldl] at hfiles
      rw [Bool.or_eq_true, hgives.help_foldl, decide_eq_true_eq, not_or] at hhelp
      exact ⟨items, ⟨⟨rest, selects_iff.mpr hselect, hgives⟩, hhelp.symm, hfiles⟩, rfl⟩

end Commands

end Keystroke.CommandLine
