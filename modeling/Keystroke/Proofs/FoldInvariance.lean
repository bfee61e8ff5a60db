import Keystroke.Proofs.Locality
import Keystroke.Proofs.NumeralFolding

/-! Reading sees a word only through its fold. It looks words up alone and behind another word, and takes the first
one for a numeral; words that fold alike on all these occasions can stand for each other. -/
namespace Keystroke.Text

/-- A word that folds behind a blank as it does alone. -/
def FoldsApart (word : String) : Prop :=
  ∀ before : String, fold (before ++ " " ++ word) = fold before ++ " " ++ fold word

/-- Words that fold alike, alone and behind a blank. -/
structure FoldAlike (word word' : String) : Prop where
  alone : fold word = fold word'
  behind : fold (" " ++ word) = fold (" " ++ word')

instance : Std.Refl FoldAlike :=
  ⟨fun _ => ⟨rfl, rfl⟩⟩

/-- What stands before a blank folds on its own. -/
theorem fold_append_blank (a b : String) : fold (a ++ " " ++ b) = fold a ++ fold (" " ++ b) := by
  have hnormal := normal_append_starter a.toList b.toList ' ' (by decide)
  apply String.toList_injective
  rw [String.toList_append, fold_toList, fold_toList, fold_toList, foldChars, foldChars, foldChars]
  simp only [String.toList_append, List.append_assoc]
  rw [show " ".toList ++ b.toList = ' ' :: b.toList from rfl, hnormal, upper, List.flatMap_append]
  rfl

theorem foldsApart_iff (word : String) : FoldsApart word ↔ fold (" " ++ word) = " " ++ fold word := by
  have hempty : fold "" = "" := by decide
  constructor
  · intro h
    have h0 := h ""
    rwa [fold_append_blank, hempty, String.empty_append, String.empty_append] at h0
  · intro h before
    rw [fold_append_blank, h, String.append_assoc]

/-- All words fold apart but those that begin with a mark. -/
theorem foldsApart_of_not_mark {word : String} (h : ¬ StartsWithMark word.toList) : FoldsApart word := by
  have hblank : upperChar ' ' = [' '] := by decide
  rw [foldsApart_iff]
  apply String.toList_injective
  rw [String.toList_append, fold_toList, fold_toList, String.toList_append]
  rw [show " ".toList ++ word.toList = ' ' :: word.toList from rfl, foldChars, normal_blank _ h, upper,
    List.flatMap_cons, hblank]
  rfl

-- Behind a blank this mark and the accent after it do not compose.
example : ¬ FoldsApart (String.ofList [Char.ofNat 0x11F41, Char.ofNat 0x301]) := by
  rw [foldsApart_iff]
  decide +kernel

theorem FoldAlike.of_apart {word word' : String} (h : fold word = fold word') (ha : FoldsApart word)
    (ha' : FoldsApart word') : FoldAlike word word' := by
  refine ⟨h, ?_⟩
  rw [(foldsApart_iff word).mp ha, (foldsApart_iff word').mp ha', h]

theorem FoldAlike.pair {a a' b b' : String} (ha : FoldAlike a a') (hb : FoldAlike b b') :
    fold (a ++ " " ++ b) = fold (a' ++ " " ++ b') := by
  rw [fold_append_blank, fold_append_blank, ha.alone, hb.behind]

end Keystroke.Text

namespace Keystroke.Statement

open Keystroke.Command Keystroke.Text

section FoldAlike

variable {ws ws' : List String} (table : Table)

theorem forall₂_of_folds (h : ws.map fold = ws'.map fold) (hapart : ∀ word ∈ ws ++ ws', FoldsApart word) :
    List.Forall₂ FoldAlike ws ws' := by
  induction ws generalizing ws' with
  | nil =>
    obtain rfl : ws' = [] := List.map_eq_nil_iff.mp h.symm
    exact .nil
  | cons word rest ih =>
    cases ws' with
    | nil => simp at h
    | cons word' rest' =>
      obtain ⟨hword, hrest⟩ := List.cons.inj h
      have hapart' : ∀ v ∈ rest ++ rest', FoldsApart v := by
        intro v hv
        apply hapart v
        grind
      exact .cons (.of_apart hword (hapart word (by simp)) (hapart word' (by simp))) (ih hrest hapart')

theorem forall₂_dropShift (h : List.Forall₂ FoldAlike ws ws') :
    List.Forall₂ FoldAlike (dropShift ws) (dropShift ws') := by
  cases h with
  | nil => exact .nil
  | @cons w w' _ _ hw hrest =>
    have hshift : isShiftWord w = isShiftWord w' := by
      unfold isShiftWord
      rw [hw.alone]
    simp only [dropShift, hshift]
    split_ifs
    · exact hrest
    · exact .cons hw hrest

/-- The words that a shortcut stands for are the same in front of both lists. -/
theorem forall₂_expand (h : List.Forall₂ FoldAlike ws ws') :
    List.Forall₂ FoldAlike (table.expand ws) (table.expand ws') := by
  have hphrase (phrase : String) {rest rest' : List String} (hrest : List.Forall₂ FoldAlike rest rest') :
      List.Forall₂ FoldAlike (words phrase ++ rest) (words phrase ++ rest') :=
    List.rel_append (List.forall₂_refl _) hrest
  unfold Table.expand
  cases h with
  | nil => exact .nil
  | cons hw hrest =>
    simp only [Table.expand?, hw.alone]
    split
    · exact hphrase _ hrest
    · cases hrest with
      | nil => exact .cons hw .nil
      | @cons v v' rest rest' hv hrest =>
        dsimp only
        rw [hw.pair hv]
        cases table.shortcut? _ with
        | none => exact .cons hw (.cons hv hrest)
        | some phrase => exact hphrase phrase hrest

theorem argument_eq_of_fold (node : Node) {spelling spelling' : String} (h : fold spelling = fold spelling') :
    argument? table node spelling = argument? table node spelling' := by
  unfold argument?
  rw [h]

/-- The descent takes the same steps, each with as many words. -/
theorem descend_alike (node : Node) (h : List.Forall₂ FoldAlike ws ws') :
    descend table node ws = descend table node ws' := by
  -- A step looks up two words with a blank between, else one word; in both lists the folds of these agree.
  fun_induction descend table node ws generalizing ws' with
  | case1 node =>
    obtain rfl := List.forall₂_nil_left_iff.mp h
    rfl
  | case2 node word step hstep =>
    obtain ⟨word', rest', hword, hrest, rfl⟩ := List.forall₂_cons_left_iff.mp h
    obtain rfl := List.forall₂_nil_left_iff.mp hrest
    rw [argument_eq_of_fold table node hword.alone] at hstep
    simp only [descend, hstep]
  | case3 node word hnone =>
    obtain ⟨word', rest', hword, hrest, rfl⟩ := List.forall₂_cons_left_iff.mp h
    obtain rfl := List.forall₂_nil_left_iff.mp hrest
    rw [argument_eq_of_fold table node hword.alone] at hnone
    simp only [descend, hnone]
  | case4 node first second rest step hstep ih =>
    obtain ⟨first', others', hfirst, hothers, rfl⟩ := List.forall₂_cons_left_iff.mp h
    obtain ⟨second', rest', hsecond, hrest, rfl⟩ := List.forall₂_cons_left_iff.mp hothers
    rw [argument_eq_of_fold table node (hfirst.pair hsecond)] at hstep
    simp only [descend, hstep, ih hrest]
  | case5 node first second rest hpair step hstep ih =>
    obtain ⟨first', others', hfirst, hothers, rfl⟩ := List.forall₂_cons_left_iff.mp h
    obtain ⟨second', rest', hsecond, hrest, rfl⟩ := List.forall₂_cons_left_iff.mp hothers
    rw [argument_eq_of_fold table node (hfirst.pair hsecond)] at hpair
    rw [argument_eq_of_fold table node hfirst.alone] at hstep
    simp only [descend, hpair, hstep, ih hothers]
  | case6 node first second rest hpair hone =>
    obtain ⟨first', others', hfirst, hothers, rfl⟩ := List.forall₂_cons_left_iff.mp h
    obtain ⟨second', rest', hsecond, hrest, rfl⟩ := List.forall₂_cons_left_iff.mp hothers
    rw [argument_eq_of_fold table node (hfirst.pair hsecond)] at hpair
    rw [argument_eq_of_fold table node hfirst.alone] at hone
    simp only [descend, hpair, hone]

/-- A word that is no expression is a literal only by being a numeral. -/
theorem literal_of_not_expression {word : String} (hx : expression? word = none) :
    literal table word = .ok (((Numeral.ofWord? word).map (Numeral.keys table)).getD []) := by
  unfold literal
  simp only [hx]
  cases Numeral.ofWord? word <;> rfl

theorem fold_getD_eq (h : List.Forall₂ FoldAlike ws ws') (n : Nat) :
    fold (ws.getD n "") = fold (ws'.getD n "") := by
  induction h generalizing n with
  | nil => rfl
  | cons hw _ ih =>
    cases n with
    | zero => exact hw.alone
    | succ n => exact ih n

theorem diagnose_alike (h : List.Forall₂ FoldAlike ws ws') (d : Descent) :
    (diagnose table ws d).wordless = (diagnose table ws' d).wordless := by
  have hfirst : fold (ws.headD "") = fold (ws'.headD "") := by
    cases h with
    | nil => rfl
    | cons hw _ => exact hw.alone
  unfold diagnose
  dsimp only
  rw [h.length_eq, hfirst, fold_getD_eq h]
  split_ifs <;> rfl

/-- Readings of two lists of words that show no difference but in the words themselves. -/
inductive ReadAlike : Except Fault Resolution → Except Fault Resolution → Prop
  | fault (fault : Fault) : ReadAlike (.error fault) (.error fault)
  | read {r r' : Resolution} : r.records = r'.records →
    r.diagnostic.map Diagnostic.wordless = r'.diagnostic.map Diagnostic.wordless →
    List.Forall₂ FoldAlike r.rest r'.rest → ReadAlike (.ok r) (.ok r')

theorem resolveWords_alike (h : List.Forall₂ FoldAlike ws ws')
    (hx : ∀ word, ws.head? = some word → expression? word = none)
    (hx' : ∀ word, ws'.head? = some word → expression? word = none) :
    ReadAlike (resolveWords table ws) (resolveWords table ws') := by
  unfold resolveWords
  rw [descend_alike table table.root h]
  generalize descend table table.root ws' = d
  have hdiagnose := diagnose_alike table h d
  have hkind : (diagnose table ws d).kind = (diagnose table ws' d).kind := (congrArg Diagnostic.kind hdiagnose :)
  have hfailed (skip : Nat) :
      ReadAlike (.ok { rest := ws.drop skip, diagnostic := some (diagnose table ws d) })
        (.ok { rest := ws'.drop skip, diagnostic := some (diagnose table ws' d) }) :=
    .read rfl (congrArg some hdiagnose) (List.forall₂_drop skip h)
  dsimp only
  rw [hkind]
  by_cases hcomplete : (!d.path.isEmpty && d.node.isComplete) = true
  · simp only [hcomplete, if_true]
    exact .read rfl rfl (List.forall₂_drop _ h)
  · by_cases hused : d.used = 0
    · simp only [hcomplete, hused, if_true]
      cases h with
      | nil => exact .fault _
      | @cons word word' rest rest' hword hrest =>
        -- A numeral is read from the word, not from its fold, but words that fold alike are the same numeral.
        dsimp only
        rw [literal_of_not_expression table (hx word rfl), literal_of_not_expression table (hx' word' rfl),
          Numeral.ofWord_eq_of_fold hword.alone]
        cases ((Numeral.ofWord? word').map (Numeral.keys table)).getD [] with
        | nil => exact hfailed _
        | cons record records => exact .read rfl rfl hrest
    · simp only [hcomplete, hused]
      exact hfailed _

end FoldAlike

/-- Words that fold pairwise to the same strings are read alike: the same instructions, or diagnostics that differ
in nothing but the words they show, and as many words left. -/
theorem resolve_sees_folds (table : Table) (ws ws' : List String) (h : ws.map fold = ws'.map fold)
    (hapart : ∀ word ∈ ws ++ ws', FoldsApart word)
    (hx : ∀ word, (table.expand (dropShift ws)).head? = some word → expression? word = none)
    (hx' : ∀ word, (table.expand (dropShift ws')).head? = some word → expression? word = none) :
    (∃ fault, resolve table ws = .error fault ∧ resolve table ws' = .error fault) ∨
    ∃ r r', resolve table ws = .ok r ∧ resolve table ws' = .ok r' ∧ r.records = r'.records ∧
      r.diagnostic.map Diagnostic.wordless = r'.diagnostic.map Diagnostic.wordless ∧
      r.rest.length = r'.rest.length := by
  have hdrop := forall₂_dropShift (forall₂_of_folds h hapart)
  have hread : ReadAlike (resolve table ws) (resolve table ws') := by
    by_cases hnil : dropShift ws = []
    · have hnil' : dropShift ws' = [] := by
        rw [hnil] at hdrop
        exact List.forall₂_nil_left_iff.mp hdrop
      rw [resolve, resolve, hnil, hnil']
      exact .read rfl rfl .nil
    · have hnil' : dropShift ws' ≠ [] := by
        intro he
        rw [he] at hdrop
        exact hnil (List.forall₂_nil_right_iff.mp hdrop)
      -- A shortcut brings the same words into both lists, in front of words that fold alike.
      rw [resolve_of_statement hnil, resolve_of_statement hnil']
      exact resolveWords_alike table (forall₂_expand table hdrop) hx hx'
  generalize resolve table ws = first at hread
  generalize resolve table ws' = second at hread
  cases hread with
  | fault fault => exact .inl ⟨fault, rfl, rfl⟩
  | @read r r' hrecords hdiagnostic hrest => exact .inr ⟨r, r', rfl, rfl, hrecords, hdiagnostic, hrest.length_eq⟩

set_option maxRecDepth 20000 in
theorem resolve_sees_folds_jump :
    ["g", "go", "TO", "a", "é"].map fold = ["G", "Go", "to", "A", "E\u0301"].map fold ∧
    ∃ r r', resolve jumpTable ["g", "go", "TO", "a", "é"] = .ok r ∧
      resolve jumpTable ["G", "Go", "to", "A", "E\u0301"] = .ok r' ∧ r.records = r'.records ∧
      r.diagnostic.map Diagnostic.wordless = r'.diagnostic.map Diagnostic.wordless ∧
      r.rest.length = r'.rest.length := by
  have hfold : ["g", "go", "TO", "a", "é"].map fold = ["G", "Go", "to", "A", "E\u0301"].map fold := by decide
  refine ⟨hfold, ?_⟩
  have hmark : ∀ word ∈ ["g", "go", "TO", "a", "é"] ++ ["G", "Go", "to", "A", "E\u0301"],
      word.toList.head?.map leadingMarks = some 0 := by
    decide
  have hapart : ∀ word ∈ ["g", "go", "TO", "a", "é"] ++ ["G", "Go", "to", "A", "E\u0301"], FoldsApart word := by
    intro word hword
    apply foldsApart_of_not_mark
    rintro ⟨c, hc, hne⟩
    have hzero := hmark word hword
    rw [hc] at hzero
    exact hne (Option.some.inj hzero)
  have hx : expression? "go" = none := by decide
  have hx' : expression? "Go" = none := by decide
  have hhead : (jumpTable.expand (dropShift ["g", "go", "TO", "a", "é"])).head? = some "go" := by decide
  have hhead' : (jumpTable.expand (dropShift ["G", "Go", "to", "A", "E\u0301"])).head? = some "Go" := by decide
  have hok : (resolve jumpTable ["g", "go", "TO", "a", "é"]).isOk = true := by decide
  rcases resolve_sees_folds jumpTable _ _ hfold hapart (by grind) (by grind) with ⟨fault, hfault, _⟩ | hread
  · rw [hfault] at hok
    exact absurd hok Bool.false_ne_true
  · exact hread

end Keystroke.Statement
