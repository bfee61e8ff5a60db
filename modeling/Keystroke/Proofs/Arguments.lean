import Keystroke.CommandLine.Usage
import Keystroke.Proofs.Lookup
import Mathlib.Data.List.Basic
import Mathlib.Data.List.TakeDrop

/-! What arguments give, one after the other: flags with their values, and files. The forms in which flags can be
given are stated apart from the reading of them; of a flag given several times the last value counts. -/
namespace Keystroke.CommandLine

/-- One thing that arguments give. -/
inductive Item where
  | flag (flag : Flag) (value : String)
  | file (name : String)

/-- A switch takes the spellings of truth values, and any other flag takes all texts. -/
def Flag.Accepts (flag : Flag) (value : String) : Prop :=
  flag.isSwitch → (switchValue? value).isSome

section Forms

variable (command : Command)

/-- A flag after two dashes, or one that still waits for its value. -/
inductive IsNamed : List Char → List Item → Option Flag → Prop
  | switch {flag : Flag} : flag ∈ command.flags → flag.isSwitch → IsNamed flag.name.toList [.flag flag "true"] none
  | assigned {flag : Flag} {value : String} : flag ∈ command.flags → flag.Accepts value →
    IsNamed (flag.name.toList ++ '=' :: value.toList) [.flag flag value] none
  | waiting {flag : Flag} : flag ∈ command.flags → flag.isSwitch = false → IsNamed flag.name.toList [] (some flag)

/-- Flags given by letters after one dash; the last of them can still wait for its value. -/
inductive IsGroup : List Char → List Item → Option Flag → Prop
  | done : IsGroup [] [] none
  | skipped {cs : List Char} : "test.".toList <+: cs → IsGroup cs [] none
  | switch {flag : Flag} {letter : Char} {rest : List Char} {items : List Item} {waiting : Option Flag} :
    flag ∈ command.flags → flag.letter? = some letter → flag.isSwitch → rest.head? ≠ some '=' →
    IsGroup rest items waiting → IsGroup (letter :: rest) (.flag flag "true" :: items) waiting
  | assigned {flag : Flag} {letter : Char} {value : String} :
    flag ∈ command.flags → flag.letter? = some letter → value ≠ "" → flag.Accepts value →
    IsGroup (letter :: '=' :: value.toList) [.flag flag value] none
  -- A lone sign of equality is itself the value.
  | attached {flag : Flag} {letter : Char} {value : String} :
    flag ∈ command.flags → flag.letter? = some letter → flag.isSwitch = false → value ≠ "" →
    (value.toList.head? = some '=' → value = "=") → IsGroup (letter :: value.toList) [.flag flag value] none
  | waiting {flag : Flag} {letter : Char} : flag ∈ command.flags → flag.letter? = some letter →
    flag.isSwitch = false → IsGroup [letter] [] (some flag)

/-- Arguments and what they give, behind a flag that may still wait for its value. -/
inductive Gives : Option Flag → List String → List Item → Prop
  | done : Gives none [] []
  | value {flag : Flag} {value : String} {rest : List String} {items : List Item} : flag.Accepts value →
    Gives none rest items → Gives (some flag) (value :: rest) (.flag flag value :: items)
  | ended {files : List String} : Gives none ("--" :: files) (files.map .file)
  | named {text : List Char} {here items : List Item} {waiting : Option Flag} {rest : List String} :
    IsNamed command text here waiting → Gives waiting rest items →
    Gives none (String.ofList ('-' :: '-' :: text) :: rest) (here ++ items)
  | group {letter : Char} {text : List Char} {here items : List Item} {waiting : Option Flag} {rest : List String} :
    letter ≠ '-' → IsGroup command (letter :: text) here waiting → Gives waiting rest items →
    Gives none (String.ofList ('-' :: letter :: text) :: rest) (here ++ items)
  | file {name : String} {rest : List String} {items : List Item} : (name.toList.head? = some '-' → name = "-") →
    Gives none rest items → Gives none (name :: rest) (.file name :: items)

end Forms

/-- Takes an item over into the choices. -/
def Choices.put (choices : Choices) : Item → Choices
  | .flag flag value => (choices.set flag value).toOption.getD choices
  | .file name => { choices with files := choices.files ++ [name] }

section Flags

variable {command : Command} {choices choices' : Choices} {flag : Flag} {value : String} {letter : Char}

theorem Choices.set_of_accepts (h : flag.Accepts value) :
    choices.set flag value = .ok (choices.put (.flag flag value)) := by
  have hswitch (hs : flag.isSwitch) : ∃ b, switchValue? value = some b := Option.isSome_iff_exists.mp (h hs)
  cases flag
  case config | output | format => rfl
  all_goals
    obtain ⟨b, hb⟩ := hswitch rfl
    simp [Choices.put, Choices.set, hb, Except.toOption]

theorem Choices.set_ok (h : choices.set flag value = .ok choices') :
    flag.Accepts value ∧ choices' = choices.put (.flag flag value) := by
  refine ⟨?_, ?_⟩
  · intro hs
    cases hb : switchValue? value with
    | some b => rfl
    | none =>
      cases flag
      case config | output | format => cases hs
      all_goals simp [Choices.set, hb] at h
  · rw [Choices.put, h]
    rfl

theorem Choices.set_map_ok {out : Choices × Option Waiting} (h : (choices.set flag value).map (·, none) = .ok out) :
    flag.Accepts value ∧ out = (choices.put (.flag flag value), none) := by
  cases hset : choices.set flag value with
  | error error =>
    rw [hset] at h
    cases h
  | ok choices' =>
    obtain ⟨haccepts, rfl⟩ := Choices.set_ok hset
    rw [hset] at h
    cases h
    exact ⟨haccepts, rfl⟩

theorem Choices.turn_true (h : flag.isSwitch) : choices.turn true flag = choices.put (.flag flag "true") := by
  cases flag
  case config | output | format => cases h
  all_goals rfl

theorem Flag.name_injective {a b : Flag} (h : a.name = b.name) : a = b := by
  cases a <;> cases b <;> simp_all [Flag.name]

theorem Flag.letter_injective {a b : Flag} (ha : a.letter? = some letter) (hb : b.letter? = some letter) : a = b := by
  have hsome : b.letter?.isSome := by rw [hb, Option.isSome_some]
  rw [← hb] at ha
  revert ha hsome
  cases a <;> cases b <;> decide

theorem flag_eq_some_iff {name : String} :
    command.flag? name = some flag ↔ flag ∈ command.flags ∧ flag.name = name := by
  constructor
  · intro h
    exact ⟨List.mem_of_find?_eq_some h, by simpa using List.find?_some h⟩
  · rintro ⟨hmem, rfl⟩
    exact Command.find_of_unique hmem (by simp) fun b hb => Flag.name_injective (by simpa using hb)

theorem letter_eq_some_iff :
    command.letter? letter = some flag ↔ flag ∈ command.flags ∧ flag.letter? = some letter := by
  constructor
  · intro h
    exact ⟨List.mem_of_find?_eq_some h, by simpa using List.find?_some h⟩
  · rintro ⟨hmem, hletter⟩
    exact Command.find_of_unique hmem (by simp [hletter]) fun b hb => Flag.letter_injective (by simpa using hb) hletter

end Flags

section Names

variable {command : Command} {choices : Choices} {text : List Char} {items : List Item} {waiting : Option Flag}

theorem Flag.name_chars (flag : Flag) : flag.name.toList.all (· ≠ '=') ∧ flag.name.toList.head? ≠ some '-' ∧
    flag.name ≠ "" := by
  cases flag <;> decide

theorem readName_eq {flag : Flag} (hmem : flag ∈ command.flags)
    (hname : text.takeWhile (· ≠ '=') = flag.name.toList) (hdash : text.head? ≠ some '-') :
    readName command choices text =
      if text.contains '=' then
        (choices.set flag (String.ofList ((text.dropWhile (· ≠ '=')).drop 1))).map (·, none)
      else if flag.isSwitch then .ok (choices.turn true flag, none)
      else .ok (choices, some ⟨flag, .valueMissing flag⟩) := by
  have hflag := flag_eq_some_iff.mpr ⟨hmem, rfl⟩
  unfold readName
  simp only [hname, String.ofList_toList, hdash, flag.name_chars.2.2, hflag, decide_false, Bool.or_self,
    Bool.false_eq_true, if_false]

theorem readName_bare (flag : Flag) (hmem : flag ∈ command.flags) :
    readName command choices flag.name.toList =
      if flag.isSwitch then .ok (choices.turn true flag, none)
      else .ok (choices, some ⟨flag, .valueMissing flag⟩) := by
  have hname : flag.name.toList.takeWhile (· ≠ '=') = flag.name.toList := by cases flag <;> decide
  have hbare : flag.name.toList.contains '=' = false := by cases flag <;> decide
  rw [readName_eq hmem hname flag.name_chars.2.1, hbare, if_neg Bool.false_ne_true]

theorem readName_assigned (flag : Flag) (hmem : flag ∈ command.flags) (value : List Char) :
    readName command choices (flag.name.toList ++ '=' :: value) =
      (choices.set flag (String.ofList value)).map (·, none) := by
  obtain ⟨hall, hdash, hne⟩ := flag.name_chars
  rw [List.all_eq_true] at hall
  have hname : (flag.name.toList ++ '=' :: value).takeWhile (· ≠ '=') = flag.name.toList := by
    rw [List.takeWhile_append_of_pos hall]
    simp
  have hvalue : ((flag.name.toList ++ '=' :: value).dropWhile (· ≠ '=')).drop 1 = value := by
    rw [List.dropWhile_append_of_pos hall]
    simp
  have hhead : (flag.name.toList ++ '=' :: value).head? ≠ some '-' := by
    cases hchars : flag.name.toList with
    | nil => simp
    | cons c cs => rwa [hchars] at hdash
  rw [readName_eq hmem hname hhead, hvalue, if_pos (by simp)]

theorem readName_of_isNamed (h : IsNamed command text items waiting) (choices : Choices) : ∃ out,
    readName command choices text = .ok out ∧ out.1 = items.foldl Choices.put choices ∧
      out.2.map Waiting.flag = waiting := by
  cases h with
  | @switch flag hmem hswitch =>
    refine ⟨(choices.turn true flag, none), ?_, Choices.turn_true hswitch, rfl⟩
    rw [readName_bare flag hmem, if_pos hswitch]
  | @assigned flag value hmem haccepts =>
    refine ⟨(choices.put (.flag flag value), none), ?_, rfl, rfl⟩
    rw [readName_assigned flag hmem, String.ofList_toList, Choices.set_of_accepts haccepts]
    rfl
  | @waiting flag hmem hswitch =>
    refine ⟨(choices, some ⟨flag, .valueMissing flag⟩), ?_, rfl, rfl⟩
    rw [readName_bare flag hmem, if_neg (by simp [hswitch])]

/-- What is read after two dashes is the name of a flag, alone or up to a sign of equality. -/
theorem isNamed_of_readName {out : Choices × Option Waiting} (h : readName command choices text = .ok out) :
    ∃ items, IsNamed command text items (out.2.map Waiting.flag) ∧ out.1 = items.foldl Choices.put choices := by
  have hsplit := List.takeWhile_append_dropWhile (p := (· ≠ '=')) (l := text)
  cases hflag : command.flag? (String.ofList (text.takeWhile (· ≠ '='))) with
  | none =>
    unfold readName at h
    simp only [hflag] at h
    split_ifs at h
  | some flag =>
    obtain ⟨hmem, hname⟩ := flag_eq_some_iff.mp hflag
    have hchars : text.takeWhile (· ≠ '=') = flag.name.toList := by rw [hname, String.toList_ofList]
    rw [hchars] at hsplit
    cases hrest : text.dropWhile (· ≠ '=') with
    | nil =>
      obtain rfl : flag.name.toList = text := by rwa [hrest, List.append_nil] at hsplit
      rw [readName_bare flag hmem] at h
      split_ifs at h with hswitch
      · cases h
        exact ⟨_, .switch hmem hswitch, Choices.turn_true hswitch⟩
      · cases h
        exact ⟨_, .waiting hmem (Bool.eq_false_iff.mpr hswitch), rfl⟩
    | cons c value =>
      obtain rfl : c = '=' := by
        have hhead := List.head?_dropWhile_not (· ≠ '=') text
        rw [hrest] at hhead
        simpa using hhead
      obtain rfl : flag.name.toList ++ '=' :: value = text := by rw [← hrest, hsplit]
      rw [readName_assigned flag hmem] at h
      obtain ⟨haccepts, rfl⟩ := Choices.set_map_ok h
      have hnamed := IsNamed.assigned hmem haccepts
      rw [String.toList_ofList] at hnamed
      exact ⟨_, hnamed, rfl⟩

end Names

section Letters

variable {command : Command} {choices : Choices} {cs : List Char} {items : List Item} {waiting : Option Flag}

theorem readLetters_skipped (h : "test.".toList <+: cs) : readLetters command choices cs = .ok (choices, none) := by
  have htest := List.isPrefixOf_iff_prefix.mpr h
  cases cs with
  | nil => cases htest
  | cons letter rest => rw [readLetters, if_pos htest]

theorem readLetters_letter {flag : Flag} {letter : Char} (hmem : flag ∈ command.flags)
    (hletter : flag.letter? = some letter) (rest : List Char) :
    readLetters command choices (letter :: rest) =
      if rest.head? = some '=' && rest.length ≠ 1 then
        (choices.set flag (String.ofList (rest.drop 1))).map (·, none)
      else if flag.isSwitch then readLetters command (choices.turn true flag) rest
      else if rest.isEmpty then
        .ok (choices, some ⟨flag, .letterValueMissing letter (String.ofList (letter :: rest))⟩)
      else (choices.set flag (String.ofList rest)).map (·, none) := by
  -- No flag has the letter that all skipped groups begin with.
  have hne : ('t' == letter) = false := by
    have ht : flag.letter? ≠ some 't' := by cases flag <;> decide
    rw [beq_eq_false_iff_ne]
    rintro rfl
    exact ht hletter
  have htest : "test.".toList.isPrefixOf (letter :: rest) = false := by
    change ('t' == letter && _) = false
    rw [hne, Bool.false_and]
  rw [readLetters, htest, letter_eq_some_iff.mpr ⟨hmem, hletter⟩]
  rfl

theorem readLetters_of_isGroup (h : IsGroup command cs items waiting) (choices : Choices) : ∃ out,
    readLetters command choices cs = .ok out ∧ out.1 = items.foldl Choices.put choices ∧
      out.2.map Waiting.flag = waiting := by
  induction h generalizing choices with
  | done => exact ⟨(choices, none), rfl, rfl, rfl⟩
  | skipped htest => exact ⟨(choices, none), readLetters_skipped htest, rfl, rfl⟩
  | @switch flag letter rest items waiting hmem hletter hswitch hhead _ ih =>
    obtain ⟨out, hread, hout⟩ := ih (choices.turn true flag)
    refine ⟨out, ?_, ?_⟩
    · rw [readLetters_letter hmem hletter, if_neg (by simp [hhead]), if_pos hswitch, hread]
    · rwa [Choices.turn_true hswitch] at hout
  | @assigned flag letter value hmem hletter hne haccepts =>
    refine ⟨(choices.put (.flag flag value), none), ?_, rfl, rfl⟩
    have hlength : value.toList.length ≠ 0 := by simpa using hne
    rw [readLetters_letter hmem hletter, if_pos (by simpa using hne), List.drop_one, List.tail_cons,
      String.ofList_toList, Choices.set_of_accepts haccepts]
    rfl
  | @attached flag letter value hmem hletter hswitch hne hequal =>
    refine ⟨(choices.put (.flag flag value), none), ?_, rfl, rfl⟩
    have hset : choices.set flag value = .ok (choices.put (.flag flag value)) :=
      Choices.set_of_accepts fun hs => absurd hs (by simp [hswitch])
    have hvalue : ¬ (value.toList.head? = some '=' && value.toList.length ≠ 1) = true := by
      intro hassigned
      simp only [Bool.and_eq_true, decide_eq_true_eq] at hassigned
      rw [hequal hassigned.1] at hassigned
      exact hassigned.2 rfl
    rw [readLetters_letter hmem hletter, if_neg hvalue, if_neg (by simp [hswitch]), if_neg (by simpa using hne),
      String.ofList_toList, hset]
    rfl
  | @waiting flag letter hmem hletter hswitch =>
    refine ⟨(choices, some ⟨flag, .letterValueMissing letter (String.ofList [letter])⟩), ?_, rfl, rfl⟩
    rw [readLetters_letter hmem hletter, if_neg (by simp), if_neg (by simp [hswitch]), List.isEmpty_nil,
      if_pos rfl]

theorem isGroup_of_readLetters {out : Choices × Option Waiting} (h : readLetters command choices cs = .ok out) :
    ∃ items, IsGroup command cs items (out.2.map Waiting.flag) ∧ out.1 = items.foldl Choices.put choices := by
  induction cs generalizing choices with
  | nil =>
    cases h
    exact ⟨[], .done, rfl⟩
  | cons letter rest ih =>
    by_cases htest : "test.".toList <+: letter :: rest
    · rw [readLetters_skipped htest] at h
      cases h
      exact ⟨[], .skipped htest, rfl⟩
    cases hflag : command.letter? letter with
    | none =>
      rw [← List.isPrefixOf_iff_prefix] at htest
      rw [readLetters, if_neg htest, hflag] at h
      cases h
    | some flag =>
      obtain ⟨hmem, hletter⟩ := letter_eq_some_iff.mp hflag
      rw [readLetters_letter hmem hletter] at h
      split_ifs at h with hassigned hswitch hempty
      · obtain ⟨haccepts, rfl⟩ := Choices.set_map_ok h
        simp only [Bool.and_eq_true, decide_eq_true_eq] at hassigned
        obtain ⟨value, rfl⟩ := List.head?_eq_some_iff.mp hassigned.1
        have hne : String.ofList value ≠ "" := by simpa using hassigned.2
        have hgroup := IsGroup.assigned hmem hletter hne haccepts
        rw [String.toList_ofList] at hgroup
        exact ⟨_, hgroup, rfl⟩
      · have hhead : rest.head? ≠ some '=' := by
          intro hhead
          -- The sign of equality is no letter of a flag.
          have hsign : command.letter? '=' = none := by cases command <;> rfl
          obtain ⟨value, rfl⟩ := List.head?_eq_some_iff.mp hhead
          obtain rfl : value = [] := by simpa using hassigned
          rw [readLetters, if_neg (by decide), hsign] at h
          cases h
        obtain ⟨items, hgroup, hout⟩ := ih h
        rw [Choices.turn_true hswitch] at hout
        exact ⟨_, .switch hmem hletter hswitch hhead hgroup, hout⟩
      · obtain rfl : rest = [] := by simpa using hempty
        cases h
        exact ⟨[], .waiting hmem hletter (Bool.eq_false_iff.mpr hswitch), rfl⟩
      · obtain ⟨-, rfl⟩ := Choices.set_map_ok h
        have hequal : (String.ofList rest).toList.head? = some '=' → String.ofList rest = "=" := by
          rw [String.toList_ofList]
          intro hhead
          obtain ⟨value, rfl⟩ := List.head?_eq_some_iff.mp hhead
          obtain rfl : value = [] := by simpa using hassigned
          rfl
        have hgroup := IsGroup.attached hmem hletter (Bool.eq_false_iff.mpr hswitch) (by simpa using hempty) hequal
        rw [String.toList_ofList] at hgroup
        exact ⟨_, hgroup, rfl⟩

end Letters

section Arguments

variable {command : Command} {choices : Choices} {args rest : List String} {items : List Item}

theorem readArgs_ended (files : List String) :
    readArgs command choices none ("--" :: files) = .ok { choices with files := choices.files ++ files } := rfl

theorem readArgs_named {text : List Char} (h : text ≠ []) :
    readArgs command choices none (String.ofList ('-' :: '-' :: text) :: rest) =
      (readName command choices text).bind fun out => readArgs command out.1 out.2 rest := by
  obtain ⟨c, cs, rfl⟩ := List.exists_cons_of_ne_nil h
  rw [readArgs]
  simp only [String.toList_ofList]
  cases readName command choices (c :: cs) <;> rfl

theorem readArgs_group {letter : Char} (h : letter ≠ '-') (text : List Char) :
    readArgs command choices none (String.ofList ('-' :: letter :: text) :: rest) =
      (readLetters command choices (letter :: text)).bind fun out => readArgs command out.1 out.2 rest := by
  rw [readArgs]
  simp only [String.toList_ofList]
  split
  · rename_i heq
    cases heq
    exact absurd rfl h
  · rename_i heq
    cases heq
    exact absurd rfl h
  · rename_i heq
    cases heq
    cases readLetters command choices (letter :: text) <;> rfl
  · rename_i hno
    exact absurd rfl (hno letter text)

theorem readArgs_file {name : String} (h : name.toList.head? = some '-' → name = "-") :
    readArgs command choices none (name :: rest) = readArgs command (choices.put (.file name)) none rest := by
  have hshort (c : Char) (cs : List Char) : name.toList ≠ '-' :: c :: cs := by
    intro heq
    rw [h (by rw [heq, List.head?_cons])] at heq
    cases heq
  rw [readArgs]
  split
  · rename_i heq
    exact absurd heq (hshort _ _)
  · rename_i heq
    exact absurd heq (hshort _ _)
  · rename_i heq
    exact absurd heq (hshort _ _)
  · rfl

theorem foldl_put_files (files : List String) : (files.map Item.file).foldl Choices.put choices =
    { choices with files := choices.files ++ files } := by
  induction files generalizing choices with
  | nil => rw [List.append_nil]; rfl
  | cons name rest ih =>
    rw [List.map_cons, List.foldl_cons, ih, Choices.put, List.append_assoc, List.singleton_append]

theorem IsNamed.ne_nil {text : List Char} {waiting : Option Flag} (h : IsNamed command text items waiting) :
    text ≠ [] := by
  have hname (flag : Flag) : flag.name.toList ≠ [] := by cases flag <;> decide
  cases h with
  | switch _ _ => exact hname _
  | assigned _ _ => simp
  | waiting _ _ => exact hname _

theorem readArgs_of_gives {pending : Option Flag} (h : Gives command pending args items) :
    ∀ (choices : Choices) (waiting : Option Waiting), waiting.map Waiting.flag = pending →
      readArgs command choices waiting args = .ok (items.foldl Choices.put choices) := by
  -- Each argument adds to the choices and can leave another flag waiting, so both are arbitrary in the induction.
  induction h with
  | done =>
    intro choices waiting hwaiting
    rw [Option.map_eq_none_iff.mp hwaiting]
    rfl
  | value haccepts _ ih =>
    intro choices waiting hwaiting
    obtain ⟨waiting, rfl, rfl⟩ := Option.map_eq_some_iff.mp hwaiting
    rw [readArgs, Choices.set_of_accepts haccepts]
    exact ih _ none rfl
  | ended =>
    intro choices waiting hwaiting
    rw [Option.map_eq_none_iff.mp hwaiting, readArgs_ended, foldl_put_files]
  | named hnamed _ ih =>
    intro choices waiting hwaiting
    obtain ⟨out, hread, hout, hpending⟩ := readName_of_isNamed hnamed choices
    rw [Option.map_eq_none_iff.mp hwaiting, readArgs_named hnamed.ne_nil, hread, List.foldl_append, ← hout]
    exact ih out.1 out.2 hpending
  | group hdash hgroup _ ih =>
    intro choices waiting hwaiting
    obtain ⟨out, hread, hout, hpending⟩ := readLetters_of_isGroup hgroup choices
    rw [Option.map_eq_none_iff.mp hwaiting, readArgs_group hdash, hread, List.foldl_append, ← hout]
    exact ih out.1 out.2 hpending
  | file hdash _ ih =>
    intro choices waiting hwaiting
    rw [Option.map_eq_none_iff.mp hwaiting, readArgs_file hdash]
    exact ih _ none rfl

/-- An argument ends the flags, gives some by name or by letters, or gives a file. -/
theorem arg_cases (arg : String) : arg = "--" ∨ (∃ text, text ≠ [] ∧ arg = String.ofList ('-' :: '-' :: text)) ∨
    (∃ letter text, letter ≠ '-' ∧ arg = String.ofList ('-' :: letter :: text)) ∨
    (arg.toList.head? = some '-' → arg = "-") := by
  obtain ⟨cs, rfl⟩ : ∃ cs, arg = String.ofList cs := ⟨arg.toList, String.ofList_toList.symm⟩
  rw [String.toList_ofList]
  by_cases hdash : cs.head? = some '-'
  · obtain ⟨rest, rfl⟩ := List.head?_eq_some_iff.mp hdash
    cases rest with
    | nil => exact .inr (.inr (.inr fun _ => rfl))
    | cons letter text =>
      by_cases hletter : letter = '-'
      · subst hletter
        by_cases htext : text = []
        · subst htext
          exact .inl rfl
        · exact .inr (.inl ⟨text, htext, rfl⟩)
      · exact .inr (.inr (.inl ⟨letter, text, hletter, rfl⟩))
  · exact .inr (.inr (.inr fun h => absurd h hdash))

theorem exists_of_bind_ok {ε α β : Type} {x : Except ε α} {f : α → Except ε β} {b : β} (h : x.bind f = .ok b) :
    ∃ a, x = .ok a ∧ f a = .ok b := by
  cases x with
  | error e => cases h
  | ok a => exact ⟨a, rfl, h⟩

theorem gives_of_readArgs {waiting : Option Waiting} {choices' : Choices}
    (h : readArgs command choices waiting args = .ok choices') :
    ∃ items, Gives command (waiting.map Waiting.flag) args items ∧ choices' = items.foldl Choices.put choices := by
  induction args generalizing choices waiting with
  | nil =>
    cases waiting with
    | some waiting => cases h
    | none =>
      cases h
      exact ⟨[], .done, rfl⟩
  | cons arg rest ih =>
    cases waiting with
    | some waiting =>
      -- A flag that waits takes the argument whatever it looks like.
      rw [readArgs] at h
      cases hset : choices.set waiting.flag arg with
      | error error =>
        rw [hset] at h
        cases h
      | ok next =>
        obtain ⟨haccepts, rfl⟩ := Choices.set_ok hset
        rw [hset] at h
        obtain ⟨items, hgives, rfl⟩ := ih h
        exact ⟨_, .value haccepts hgives, rfl⟩
    | none =>
      rcases arg_cases arg with rfl | ⟨text, hne, rfl⟩ | ⟨letter, text, hdash, rfl⟩ | hfile
      · rw [readArgs_ended] at h
        cases h
        exact ⟨_, .ended, (foldl_put_files rest).symm⟩
      · rw [readArgs_named hne] at h
        obtain ⟨out, hread, hrest⟩ := exists_of_bind_ok h
        obtain ⟨here, hnamed, hout⟩ := isNamed_of_readName hread
        obtain ⟨items, hgives, rfl⟩ := ih hrest
        exact ⟨here ++ items, .named hnamed hgives, by rw [hout, List.foldl_append]⟩
      · rw [readArgs_group hdash] at h
        obtain ⟨out, hread, hrest⟩ := exists_of_bind_ok h
        obtain ⟨here, hgroup, hout⟩ := isGroup_of_readLetters hread
        obtain ⟨items, hgives, rfl⟩ := ih hrest
        exact ⟨here ++ items, .group hdash hgroup hgives, by rw [hout, List.foldl_append]⟩
      · rw [readArgs_file hfile] at h
        obtain ⟨items, hgives, rfl⟩ := ih h
        exact ⟨_, .file hfile hgives, rfl⟩

end Arguments

end Keystroke.CommandLine
