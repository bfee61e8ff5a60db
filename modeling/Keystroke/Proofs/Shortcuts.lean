import Keystroke.Proofs.Consumption

/-! Shortcuts of the HP-15C are written out once. What stands for a shortcut begins with none, whatever words come behind
it, so writing out shortcuts a second time changes nothing, and a statement is read in the same way with its shortcut
already written out. -/
namespace Keystroke.Command

open Keystroke.Text
set_option maxRecDepth 20000

/-- The shortcuts of two words. -/
def shortcutPairs : List (String × String) :=
  [("STO", "ENTER"), ("RCL", "ENTER"), ("USER", "STO"), ("U", "STO"), ("USER", "RCL"), ("U", "RCL")]

theorem standardShortcuts_pairs : (standardShortcuts.all fun a => !a.spelling.toList.contains ' ' ||
    shortcutPairs.any fun pair => a.spelling == pair.1 ++ " " ++ pair.2) = true := by
  decide

theorem shortcutPairs_ascii : (shortcutPairs.all fun pair => !pair.1.toList.contains ' ' &&
    !pair.2.toList.contains ' ' && pair.2.toList.all fun c => c.toNat < 0x80) = true := by
  decide

/-- Two words are a shortcut only if they are one of these pairs. -/
theorem standard_shortcut_pair {a b phrase : String}
    (h : Table.standard.shortcut? (fold (a ++ " " ++ b)) = some phrase) : (fold a, fold b) ∈ shortcutPairs := by
  have hblank := blank_mem_fold_pair a b
  rw [standard_shortcut] at h
  have hpair := List.all_eq_true.mp standardShortcuts_pairs _ (Alias.mem_of_lookup h)
  simp only [List.contains_iff_mem.mpr hblank, Bool.not_true, Bool.false_or, List.any_eq_true, beq_iff_eq] at hpair
  obtain ⟨⟨first, second⟩, hmem, hfold⟩ := hpair
  have hascii := List.all_eq_true.mp shortcutPairs_ascii _ hmem
  simp only [Bool.and_eq_true, Bool.not_eq_true', List.contains_eq_mem, decide_eq_false_iff_not] at hascii
  obtain ⟨ha, hb⟩ := (fold_pair_iff a b first second hascii.1.1 hascii.1.2 hascii.2).mp hfold
  rw [ha, hb]
  exact hmem

theorem standard_pair_no_shortcut {a b : String} (h : (fold a, fold b) ∉ shortcutPairs) :
    Table.standard.shortcut? (fold (a ++ " " ++ b)) = none := by
  apply Option.eq_none_iff_forall_ne_some.mpr
  intro phrase hs
  exact h (standard_shortcut_pair hs)

/-- Words begin with no shortcut if neither the first of them is one nor the first two. -/
theorem expand_eq_none_iff (table : Table) (first : String) (others : List String) :
    table.expand? (first :: others) = none ↔ table.shortcut? (fold first) = none ∧
      ∀ second ∈ others.head?, table.shortcut? (fold (first ++ " " ++ second)) = none := by
  cases others with
  | nil => cases hs : table.shortcut? (fold first) <;> simp [Table.expand?, hs]
  | cons second others => cases hs : table.shortcut? (fold first) <;> simp [Table.expand?, hs]

theorem expand_of_shortcut {table : Table} {first phrase : String} (h : table.shortcut? (fold first) = some phrase)
    (others : List String) : table.expand (first :: others) = words phrase ++ others := by
  simp [Table.expand, Table.expand?, h]

theorem expand_of_none {table : Table} {statement : List String} (h : table.expand? statement = none) :
    table.expand statement = statement := by
  rw [Table.expand, h, Option.getD_none]

end Keystroke.Command

namespace Keystroke.Statement

open Keystroke.Command Keystroke.Text
set_option maxRecDepth 20000

theorem dropShift_of_fold {word : String} (h : fold word ∉ ["F", "G"]) (others : List String) :
    dropShift (word :: others) = word :: others := by
  have hf : fold Shift.f.name = "F" := by decide
  have hg : fold Shift.g.name = "G" := by decide
  have hplain : isShiftWord word = false := by
    rw [isShiftWord, hf, hg]
    simpa using h
  rw [dropShift, if_neg]
  simp [hplain]

/-- Words that begin with no shortcut and no shift key, whatever comes behind them. -/
structure Settled (table : Table) (front : List String) : Prop where
  expand : ∀ tail, table.expand? (front ++ tail) = none
  dropShift : ∀ tail, dropShift (front ++ tail) = front ++ tail

theorem settled_cons {table : Table} {first : String} {others : List String} (hshift : fold first ∉ ["F", "G"])
    (hone : table.shortcut? (fold first) = none)
    (hpair : ∀ tail, ∀ second ∈ (others ++ tail).head?, table.shortcut? (fold (first ++ " " ++ second)) = none) :
    Settled table (first :: others) where
  expand tail := (expand_eq_none_iff table first (others ++ tail)).mpr ⟨hone, hpair tail⟩
  dropShift tail := dropShift_of_fold hshift (others ++ tail)

/-- The first words of phrases. -/
def phraseHeads : List String :=
  ["TEST", "STO", "RCL", "USTO", "URCL"]

theorem phraseHeads_checked : ∀ head ∈ phraseHeads,
    head ∉ ["F", "G"] ∧ Alias.lookup? standardShortcuts head = none := by
  decide

/-- The first word of a phrase does not begin a shortcut of two words, or else a second word follows that does not end
one. -/
theorem shortcutPhrases_checked : (shortcutPhrases.all fun phrase => (words phrase).head?.any fun first =>
    phraseHeads.contains (fold first) && (!(shortcutPairs.map Prod.fst).contains (fold first) ||
      (words phrase).tail.head?.any fun second => !(shortcutPairs.map Prod.snd).contains (fold second))) = true := by
  decide

theorem standard_phrase_settled {spelling phrase : String} (h : Table.standard.shortcut? spelling = some phrase) :
    Settled Table.standard (words phrase) := by
  rw [standard_shortcut] at h
  have hphrase : phrase ∈ shortcutPhrases := standardShortcuts_phrases ⟨spelling, phrase⟩ (Alias.mem_of_lookup h)
  have hchecked := List.all_eq_true.mp shortcutPhrases_checked phrase hphrase
  simp only [Option.any_eq_true, Bool.and_eq_true, Bool.or_eq_true, Bool.not_eq_true', List.contains_eq_mem,
    decide_eq_true_eq, decide_eq_false_iff_not] at hchecked
  obtain ⟨first, hfirst, hhead, hpair⟩ := hchecked
  obtain ⟨others, hwords⟩ := List.head?_eq_some_iff.mp hfirst
  obtain ⟨hshift, hone⟩ := phraseHeads_checked _ hhead
  rw [hwords, List.tail_cons] at hpair
  rw [hwords]
  refine settled_cons hshift (by rw [standard_shortcut, hone]) ?_
  intro tail second hsecond
  apply standard_pair_no_shortcut
  intro hm
  rcases hpair with hfree | ⟨other, hother, hfree⟩
  · have hbegins := List.mem_map_of_mem (f := Prod.fst) hm
    exact hfree hbegins
  · -- The second word of the phrase stands before any word behind it.
    rw [List.head?_append, hother, Option.some_or] at hsecond
    obtain rfl := Option.some.inj hsecond
    have hends := List.mem_map_of_mem (f := Prod.snd) hm
    exact hfree hends

/-- Words with a shortcut in front begin with no shift key. -/
theorem dropShift_of_expand {statement expanded : List String}
    (h : Table.standard.expand? statement = some expanded) : dropShift statement = statement := by
  have hnone : Alias.lookup? standardShortcuts "F" = none ∧ Alias.lookup? standardShortcuts "G" = none := by decide
  have hheads : ∀ pair ∈ shortcutPairs, pair.1 ∉ ["F", "G"] := by decide
  cases statement with
  | nil => rfl
  | cons first others =>
    apply dropShift_of_fold
    intro hshift
    have hone : Table.standard.shortcut? (fold first) = none := by
      rw [standard_shortcut]
      simp only [List.mem_cons, List.not_mem_nil, or_false] at hshift
      rcases hshift with hf | hg
      · rw [hf, hnone.1]
      · rw [hg, hnone.2]
    have hexpand : Table.standard.expand? (first :: others) = none := by
      refine (expand_eq_none_iff _ _ _).mpr ⟨hone, ?_⟩
      intro second _
      apply standard_pair_no_shortcut
      intro hm
      exact hheads _ hm hshift
    rw [hexpand] at h
    simp at h

/-- What a shortcut is written out to begins with no shortcut and no shift key. -/
theorem standard_expanded_settled {statement expanded : List String}
    (h : Table.standard.expand? statement = some expanded) :
    Table.standard.expand? expanded = none ∧ dropShift expanded = expanded := by
  obtain ⟨_, tail, spelling, phrase, -, -, hs, rfl, -⟩ := exists_shortcut h
  have hsettled := standard_phrase_settled hs
  exact ⟨hsettled.expand tail, hsettled.dropShift tail⟩

theorem standard_expand_twice (statement : List String) :
    Table.standard.expand? (Table.standard.expand statement) = none := by
  cases he : Table.standard.expand? statement with
  | none => rw [expand_of_none he, he]
  | some expanded =>
    rw [Table.expand, he, Option.getD_some]
    exact (standard_expanded_settled he).1

theorem standard_resolve_expand (statement : List String) :
    resolve Table.standard (Table.standard.expand statement) = resolve Table.standard statement := by
  cases he : Table.standard.expand? statement with
  | none => rw [expand_of_none he]
  | some expanded =>
    have hexpand : Table.standard.expand statement = expanded := by rw [Table.expand, he, Option.getD_some]
    have hstatement : statement ≠ [] := by
      rintro rfl
      simp [Table.expand?] at he
    have hexpanded : expanded ≠ [] := hexpand ▸ standard_expand_ne_nil hstatement
    obtain ⟨hdone, hdrop⟩ := standard_expanded_settled he
    -- Neither list loses a shift key, so both come down to the words that are written out.
    have hshift := dropShift_of_expand he
    rw [hexpand]
    calc resolve Table.standard expanded
        = resolveWords Table.standard expanded := by
          rw [resolve_of_statement (by rwa [hdrop]), hdrop, expand_of_none hdone]
      _ = resolve Table.standard statement := by
          rw [resolve_of_statement (by rwa [hshift]), hshift, hexpand]

/-- A shortcut is written out once and for all: a second time there is none to write out, and a statement is read in
the same way whether this was done before or not. -/
theorem standard_shortcuts_expand_once (statement : List String) :
    Table.standard.expand? (Table.standard.expand statement) = none ∧
    Table.standard.expand (Table.standard.expand statement) = Table.standard.expand statement ∧
    resolve Table.standard (Table.standard.expand statement) = resolve Table.standard statement := by
  have htwice := standard_expand_twice statement
  exact ⟨htwice, expand_of_none htwice, standard_resolve_expand statement⟩

end Keystroke.Statement
