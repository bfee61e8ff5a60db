import Keystroke.Command.Spelling
import Keystroke.Proofs.Lookup
import Keystroke.Proofs.Reading

/-! The spellings of the HP-15C commands: which of them have two words, and that no first word of those is a
spelling of its own, with one exception. -/
namespace Keystroke.Command

open Keystroke.Text Keystroke.Statement
set_option maxRecDepth 20000

/-- The characters outside ASCII that occur in spellings. -/
def spellingSigns : List Char :=
  ['²', '×', '÷', 'Ŷ', 'Δ', 'Π', 'Σ', '↑', '→', '↓', '↔', '⇔', '∑', '−', '√', '≠', '≤', '≥', '⬆', '⬇']

/-- The characters that occur in spellings, small letters apart. -/
def isSpelled (c : Char) : Bool :=
  0x20 ≤ c.toNat && c.toNat < 0x61 || c == '~' || spellingSigns.contains c

theorem isSpelled_inert (c : Char) (h : isSpelled c) : Inert c := by
  -- Capital letters, digits and ASCII signs, then the other signs.
  have hascii : ∀ code < 0x61, 0x20 ≤ code → Inert (Char.ofNat code) := by decide +kernel
  have hall : ('~' :: spellingSigns).all fun sign => decide (Inert sign) := by decide +kernel
  have hsigns (sign : Char) (hs : sign ∈ '~' :: spellingSigns) : Inert sign :=
    of_decide_eq_true (List.all_eq_true.mp hall sign hs)
  simp only [isSpelled, Bool.or_eq_true, Bool.and_eq_true, decide_eq_true_eq, beq_iff_eq,
    List.contains_iff_mem] at h
  rcases h with (⟨h1, h2⟩ | rfl) | h
  · simpa using hascii c.toNat h2 h1
  · exact hsigns _ (by simp)
  · exact hsigns c (by simp [h])

theorem fold_of_spelled {text : String} (h : text.toList.all isSpelled = true) : fold text = text := by
  apply String.toList_injective
  rw [fold_toList]
  exact foldChars_of_inert _ fun c hc => isSpelled_inert c (List.all_eq_true.mp h c hc)

/-- The commands with a spelling of two words. -/
def pairTokens : List String :=
  ["GTO", "R down", "CLEAR ∑", "CLEAR REG", "Py,x", "Delta%", "SF", "CF", "R up", "LSTx", "x mean",
   "Cy,x"]

/-- The first words of these spellings, apart from `C`. -/
def pairHeads : List String :=
  ["GO", "ROLL", "R", "CLEAR", "CL", "P", "DELTA", "SET", "LST", "LAST", "X"]

theorem standardAliases_spelled : ∀ a ∈ standardAliases,
    (a.spelling.toList.all isSpelled ∨ a.spelling = "R-v" ∨ a.spelling = "d%") ∧
    (' ' ∈ a.spelling.toList →
      ' ' ∉ (a.spelling.toList.dropWhile (· ≠ ' ')).tail ∧ a.token ∈ pairTokens ∧
      (String.ofList (a.spelling.toList.takeWhile (· ≠ ' ')) ∈ pairHeads ∨
        a = ⟨"C Y,X", "Cy,x"⟩)) := by
  decide +kernel

/-- All but two of the spellings are written in capital letters. -/
theorem fold_standard_spelling (a : Alias) (ha : a ∈ standardAliases) : fold a.spelling = a.spelling ∨
    (a.spelling = "R-v" ∧ fold a.spelling = "R-V") ∨ (a.spelling = "d%" ∧ fold a.spelling = "D%") := by
  rcases (standardAliases_spelled a ha).1 with h | h | h
  · exact Or.inl (fold_of_spelled h)
  · exact Or.inr (Or.inl ⟨h, by rw [h]; decide⟩)
  · exact Or.inr (Or.inr ⟨h, by rw [h]; decide⟩)

/-- Spellings are looked up as they are declared. -/
theorem standard_canonical (spelling : String)
    (h : spelling ∉ ["R-v", "R-V", "d%", "D%"]) :
    Table.standard.canonical? spelling = Alias.lookup? standardAliases spelling := by
  simp only [List.mem_cons, List.not_mem_nil, or_false, not_or] at h
  rw [Table.standard, Table.build_canonical]
  apply Alias.lookup_folded
  intro a ha
  rcases fold_standard_spelling a ha with hf | ⟨hs, hf⟩ | ⟨hs, hf⟩
  · rw [hf]
  · rw [hf, hs]
    simp [Ne.symm h.1, Ne.symm h.2.1]
  · rw [hf, hs]
    simp [Ne.symm h.2.2.1, Ne.symm h.2.2.2]

theorem standardShortcuts_spelled :
    (standardShortcuts.all fun a => a.spelling.toList.all isSpelled) = true := by
  decide +kernel

/-- Shortcuts are looked up as they are declared. -/
theorem standard_shortcut (spelling : String) :
    Table.standard.shortcut? spelling = Alias.lookup? standardShortcuts spelling := by
  rw [Table.standard, Table.build_shortcut]
  apply Alias.lookup_folded
  intro a ha
  rw [fold_of_spelled (List.all_eq_true.mp standardShortcuts_spelled a ha)]

/-- What a spelling stands for is declared, except for the two that are folded. -/
theorem mem_standardAliases {spelling token : String}
    (h : Table.standard.canonical? spelling = some token) :
    ⟨spelling, token⟩ ∈ standardAliases ∨ spelling = "R-V" ∨ spelling = "D%" := by
  rw [Table.standard, Table.build_canonical] at h
  obtain ⟨a, ha, he⟩ := List.mem_map.mp (Alias.mem_of_lookup h)
  simp only [Alias.folded, Alias.mk.injEq] at he
  obtain ⟨rfl, rfl⟩ := he
  rcases fold_standard_spelling a ha with hf | ⟨_, hf⟩ | ⟨_, hf⟩
  · left
    rw [hf]
    exact ha
  · exact Or.inr (Or.inl hf)
  · exact Or.inr (Or.inr hf)

theorem takeWhile_append_blank {cs : List Char} (h : ' ' ∈ cs) :
    cs = cs.takeWhile (· ≠ ' ') ++ ' ' :: (cs.dropWhile (· ≠ ' ')).tail ∧
      ' ' ∉ cs.takeWhile (· ≠ ' ') := by
  induction cs with
  | nil => simp at h
  | cons c cs ih =>
    by_cases hc : c = ' '
    · simp [hc]
    · obtain ⟨hsplit, hfirst⟩ := ih ((List.mem_cons.mp h).resolve_left (Ne.symm hc))
      rw [List.takeWhile_cons, List.dropWhile_cons, if_pos (by simpa using hc),
        if_pos (by simpa using hc)]
      refine ⟨by rw [List.cons_append, ← hsplit], ?_⟩
      intro hm
      exact (List.mem_cons.mp hm).elim (Ne.symm hc) hfirst

/-- A spelling of two words stands for a command with such a spelling. Its first word is the head of one, or
else the two words are those of `Cy,x`. -/
theorem standard_pair {a b token : String}
    (h : Table.standard.canonical? (fold (a ++ " " ++ b)) = some token) :
    token ∈ pairTokens ∧
      (fold a ∈ pairHeads ∨ fold a = "C" ∧ fold b = "Y,X" ∧ token = "Cy,x") := by
  have hblank := blank_mem_fold_pair a b
  -- The two spellings that are folded have no blank.
  rcases mem_standardAliases h with hm | hm | hm
  · obtain ⟨htail, htoken, hhead⟩ := (standardAliases_spelled _ hm).2 hblank
    refine ⟨htoken, ?_⟩
    rcases hhead with hhead | hcy
    · left
      obtain ⟨hsplit, hfirst⟩ := takeWhile_append_blank hblank
      have hleft := fold_left_of_pair a b
        (String.ofList ((fold (a ++ " " ++ b)).toList.takeWhile (· ≠ ' ')))
        (String.ofList ((fold (a ++ " " ++ b)).toList.dropWhile (· ≠ ' ')).tail)
        (by simpa using hfirst) (by simpa using htail)
        (String.toList_injective (by simpa using hsplit))
      rw [hleft]
      exact hhead
    · right
      obtain ⟨hs, ht⟩ := Alias.mk.inj hcy
      have hpair := (fold_pair_iff a b "C" "Y,X" (by decide) (by decide) (by decide)).mp hs
      exact ⟨hpair.1, hpair.2, ht⟩
  · rw [hm] at hblank
    exact absurd hblank (by decide)
  · rw [hm] at hblank
    exact absurd hblank (by decide)

theorem pairHeads_not_spelled (head : String) (h : head ∈ pairHeads) :
    Table.standard.canonical? head = none := by
  have hnone : ∀ head ∈ pairHeads, head ∉ ["R-v", "R-V", "d%", "D%"] ∧
      Alias.lookup? standardAliases head = none := by decide
  obtain ⟨hs, hl⟩ := hnone head h
  rw [standard_canonical head hs, hl]

/-- Nodes with no token below them that has a spelling of two words. -/
def Simple (node : Node) : Prop :=
  node.Below (· ∉ pairTokens)

/-- Arguments that have no spelling of two words, nor have those below them. -/
def SimpleArgs (args : List (String × Node)) : Prop :=
  ∀ arg ∈ args, arg.1 ∉ pairTokens ∧ Simple arg.2

theorem simpleArgs_append {args others : List (String × Node)} :
    SimpleArgs (args ++ others) ↔ SimpleArgs args ∧ SimpleArgs others :=
  List.forall_mem_append

theorem simple_leaf (keycode : String) : Simple (Node.leaf keycode) :=
  .leaf _ keycode

theorem simple_branch {args : List (String × Node)} (h : SimpleArgs args)
    (keycode comment : String) : Simple (Node.branch keycode comment args) :=
  .branch keycode comment h

theorem simpleArgs_of_complete {args : List (String × Node)}
    (h : args.all fun arg => !pairTokens.contains arg.1 && arg.2.isComplete) : SimpleArgs args := by
  intro arg ha
  have hb := List.all_eq_true.mp h arg ha
  simp only [Bool.and_eq_true, Bool.not_eq_true', List.contains_eq_mem,
    decide_eq_false_iff_not] at hb
  refine ⟨hb.1, .intro ?_ ?_⟩ <;>
  · intro token child hc
    have hargs : arg.2.args = [] := by simpa [Node.isComplete] using hb.2
    simp [Node.child?, hargs] at hc

theorem simpleArgs_letter (qualifier : String) : SimpleArgs (letterArgs qualifier) := by
  apply simpleArgs_of_complete
  rw [letterArgs, List.all_map]
  exact (by decide : letterKeys.all fun key => !pairTokens.contains key.1 && true)

theorem simpleArgs_register : SimpleArgs registerArgs :=
  simpleArgs_of_complete (by decide)

theorem simpleArgs_label : SimpleArgs (labelArgs ++ [indexArg]) :=
  simpleArgs_of_complete (by decide)

theorem simpleArgs_storage : SimpleArgs storageArgs :=
  simpleArgs_append.mpr ⟨simpleArgs_register, simpleArgs_letter ""⟩

theorem simpleArgs_matrix : SimpleArgs matrixArgs :=
  simpleArgs_of_complete (by decide)

theorem simpleArgs_setting : SimpleArgs settingArgs :=
  simpleArgs_of_complete (by decide)

theorem simpleArgs_trigonometry : SimpleArgs trigonometryArgs :=
  simpleArgs_of_complete (by decide)

theorem simpleArgs_arithmetic : SimpleArgs arithmeticArgs := by
  have htokens : ∀ arg ∈ arithmeticArgs, arg.1 ∉ pairTokens := by decide
  intro arg ha
  refine ⟨htokens arg ha, ?_⟩
  simp only [arithmeticArgs, List.mem_cons, List.not_mem_nil, or_false] at ha
  rcases ha with rfl | rfl | rfl | rfl <;> exact simple_branch simpleArgs_register _ _

theorem simple_storageNode (keycode : String) (dimensions : List (String × Node))
    (h : SimpleArgs dimensions) : Simple (storageNode keycode dimensions) := by
  apply simple_branch
  have hother : SimpleArgs [("RAN#", Node.leaf "36"), ("RESULT", Node.leaf "26"),
      ("g", Node.branch "43" "" matrixArgs), ("MATRIX", Node.branch "16" "" (letterArgs ""))] := by
    simp [SimpleArgs, pairTokens, simple_leaf, simple_branch simpleArgs_matrix,
      simple_branch (simpleArgs_letter "")]
  exact simpleArgs_append.mpr ⟨simpleArgs_append.mpr ⟨simpleArgs_append.mpr
    ⟨simpleArgs_storage, simpleArgs_arithmetic⟩, hother⟩, h⟩

theorem simple_userNode (keycode : String) : Simple (userNode keycode) := by
  apply simple_branch
  exact simpleArgs_append.mpr
    ⟨(simpleArgs_of_complete (by decide) : SimpleArgs [("(i)", Node.leaf "25 u")]),
      simpleArgs_letter " u"⟩

theorem plainCommands_simple : ∀ command ∈ plainCommands, Simple command.2 := by
  have hdim : SimpleArgs [("DIM", Node.branch "23" "" matrixArgs)] := by
    simp [SimpleArgs, pairTokens, simple_branch simpleArgs_matrix]
  have hnone : SimpleArgs [] := by simp [SimpleArgs]
  simp [plainCommands, simple_leaf, simple_branch simpleArgs_label, simple_userNode,
    simple_storageNode _ _ hdim, simple_storageNode _ _ hnone]

theorem goldCommands_simple : ∀ command ∈ goldCommands, Simple command.2 := by
  have hdigit : SimpleArgs digitArgs := simpleArgs_of_complete (by decide)
  have hlabel : SimpleArgs labelArgs := (simpleArgs_append.mp simpleArgs_label).1
  have hdim : SimpleArgs (indirectArg :: indexArg :: letterArgs "") :=
    simpleArgs_of_complete (by decide)
  simp [goldCommands, simple_leaf, simple_branch hdigit, simple_branch hlabel, simple_branch hdim,
    simple_branch simpleArgs_setting, simple_branch simpleArgs_trigonometry,
    simple_branch simpleArgs_storage, simple_branch (simpleArgs_letter "")]

theorem blueCommands_simple : ∀ command ∈ blueCommands, Simple command.2 := by
  have htest : SimpleArgs testArgs := simpleArgs_of_complete (by decide)
  simp [blueCommands, simple_leaf, simple_branch htest, simple_branch simpleArgs_setting,
    simple_branch simpleArgs_trigonometry]

/-- Only commands have spellings of two words. -/
theorem standardRoot_simple {token : String} {node : Node}
    (h : standardRoot.child? token = some node) : Simple node := by
  have hkeys : SimpleArgs (digitArgs ++ letterCommands ++ trigonometryArgs) :=
    simpleArgs_of_complete (by decide)
  have hm := Node.mem_of_child_branch h
  simp only [List.mem_append] at hm
  rcases hm with ((((hm | hm) | hm) | hm) | hm) | hm
  · exact plainCommands_simple _ hm
  · exact goldCommands_simple _ hm
  · exact blueCommands_simple _ hm
  · exact (hkeys (token, node) (by simp [hm])).2
  · exact (hkeys (token, node) (by simp [hm])).2
  · exact (hkeys (token, node) (by simp [hm])).2

/-- Whether words lead down from a node one by one, if `canonical?` gives the tokens of spellings. -/
def leadsDown (canonical? : String → Option String) (node : Node) : List String → Bool
  | [] => true
  | word :: words =>
    match canonical? (fold word) with
    | none => false
    | some token =>
      match node.child? token with
      | none => false
      | some child => leadsDown canonical? child words

theorem spells_of_leadsDown {table : Table} {canonical? : String → Option String}
    (hc : ∀ spelling token, canonical? spelling = some token →
      table.canonical? spelling = some token) (node : Node) (words : List String)
    (h : leadsDown canonical? node words) :
    ∃ groups, Spells table node groups ∧ flatWords groups = words := by
  induction words generalizing node with
  | nil => exact ⟨[], .nil node, rfl⟩
  | cons word words ih =>
    unfold leadsDown at h
    split at h
    · simp at h
    · rename_i token htoken
      split at h
      · simp at h
      · rename_i child hchild
        obtain ⟨groups, hs, hw⟩ := ih child h
        refine ⟨⟨[word], token, child⟩ :: groups, .cons ⟨Or.inl rfl, ?_, hchild⟩ hs, by simp [hw]⟩
        simpa using hc _ _ htoken

/-- The phrases that shortcuts stand for. -/
def shortcutPhrases : List String :=
  ["TEST 0", "TEST 1", "TEST 2", "TEST 3", "TEST 4", "TEST 5", "TEST 6", "TEST 7", "TEST 8",
   "TEST 9", "STO +", "STO -", "STO ×", "STO /", "RCL +", "RCL -", "RCL ×", "RCL /", "STO RAN#",
   "RCL RAN#", "uSTO", "uRCL"]

theorem standardShortcuts_phrases : ∀ a ∈ standardShortcuts, a.token ∈ shortcutPhrases := by
  decide

theorem shortcutPhrases_lead_down : ∀ phrase ∈ shortcutPhrases,
    leadsDown (fun spelling => if spelling ∈ ["R-v", "R-V", "d%", "D%"] then none
      else Alias.lookup? standardAliases spelling) standardRoot (words phrase) ∧
    ∃ word ∈ (words phrase).head?, fold word ≠ "C" := by
  decide +kernel

/-- Every phrase is the beginning of a path, spelled word by word. -/
theorem standard_phrase_spells {spelling phrase : String}
    (h : Table.standard.shortcut? spelling = some phrase) :
    (∃ groups, Spells Table.standard standardRoot groups ∧ flatWords groups = words phrase) ∧
      ∃ word ∈ (words phrase).head?, fold word ≠ "C" := by
  rw [Table.standard, Table.build_shortcut] at h
  obtain ⟨a, ha, he⟩ := List.mem_map.mp (Alias.mem_of_lookup h)
  obtain ⟨-, rfl⟩ := Alias.mk.inj he
  obtain ⟨hdown, hfirst⟩ := shortcutPhrases_lead_down _ (standardShortcuts_phrases a ha)
  refine ⟨spells_of_leadsDown ?_ standardRoot _ hdown, hfirst⟩
  intro spelling token ht
  split_ifs at ht with hs
  rw [standard_canonical spelling hs, ht]

end Keystroke.Command
