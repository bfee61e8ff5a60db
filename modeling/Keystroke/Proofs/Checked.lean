import Keystroke.Proofs.Reading

/-! Reading a statement by positions in its words. Every position and every slice is checked before it is
used, and so is every node that is looked up; a check that fails gives no result at all. What is read is what
reading from the front gives, and the only check that can fail is the one for the first word of a statement
whose shortcut leaves no words. -/
namespace Keystroke.Statement.Checked

open Keystroke.Command Keystroke.Text

/-- The elements from a position on. -/
def from? {α : Type} (xs : List α) (n : Nat) : Option (List α) :=
  if n ≤ xs.length then some (xs.drop n) else none

/-- The elements before a position. -/
def before? {α : Type} (xs : List α) (n : Nat) : Option (List α) :=
  if n ≤ xs.length then some (xs.take n) else none

theorem from?_eq {α : Type} {xs : List α} {n : Nat} (h : n ≤ xs.length) : from? xs n = some (xs.drop n) :=
  if_pos h

theorem before?_eq {α : Type} {xs : List α} {n : Nat} (h : n ≤ xs.length) :
    before? xs n = some (xs.take n) :=
  if_pos h

/-- Tries the first `span` words and then fewer as a spelling of an argument. Gives its token, and how many
words the spelling has after its first. -/
def select? (table : Table) (node : Node) (words : List String) : Nat → Option (Option (String × Nat))
  | 0 => some none
  | span + 1 =>
    (before? words (span + 1)).bind fun front =>
      match argument? table node (" ".intercalate front) with
      | some step => some (some (step.1, span))
      | none => select? table node words span

/-- One more step of a descent. -/
def advance (d : Descent) (token : String) (child : Node) (span : Nat) : Descent where
  node := child
  path := d.path ++ [token]
  nodes := d.nodes ++ [child]
  used := d.used + span

/-- Goes on with a descent until no argument is spelled by the words after those it used. -/
def descendFrom? (table : Table) (words : List String) (d : Descent) : Option Descent :=
  if d.used < words.length then
    (from? words d.used).bind fun tail =>
      (select? table d.node tail (min 2 tail.length)).bind fun found =>
        match found with
        | none => some d
        | some (token, more) =>
          (d.node.child? token).bind fun child =>
            descendFrom? table words (advance d token child (more + 1))
  else some d
termination_by words.length - d.used
decreasing_by
  simp only [advance]
  omega

/-- The instruction of a descent. -/
def record? (table : Table) (d : Descent) : Option Record :=
  d.path[0]?.map fun first =>
    { path := d.path
      keycodes := (table.shift? first).toList.map table.shiftKeycode ++ d.nodes.map Node.keycode
      shift := ((table.shift? first).map Shift.name).getD ""
      comment := " ".intercalate ((d.nodes.map Node.comment).filter (· ≠ "")) }

/-- The words without a leading shift key. -/
def dropShift? (words : List String) : Option (List String) :=
  if 0 < words.length then
    words[0]?.bind fun first => if isShiftWord first then from? words 1 else some words
  else some words

/-- The words with a leading shortcut written out. -/
def expand? (table : Table) (words : List String) : Option (List String) :=
  if words.length = 0 then some words
  else
    words[0]?.bind fun first =>
      match table.shortcut? (fold first) with
      | some phrase => (from? words 1).map (Text.words phrase ++ ·)
      | none =>
        if 1 < words.length then
          words[1]?.bind fun second =>
            match table.shortcut? (fold (first ++ " " ++ second)) with
            | some phrase => (from? words 2).map (Text.words phrase ++ ·)
            | none => some words
        else some words

/-- The diagnostic of a descent that did not end at a complete node. -/
def diagnose? (table : Table) (words : List String) (d : Descent) : Option Diagnostic :=
  let base : Diagnostic :=
    { kind := .argumentMissing
      path := d.path
      words := words
      used := d.used
      alternatives := alternatives d.node }
  if d.used = 0 then
    words[0]?.map fun word =>
      { base with
        kind := .commandUnknown, token := fold word, suggestions := suggestions table (fold word) }
  else if words.length ≤ d.used then
    some (if d.path.length = 1 then { base with kind := .noArgument } else base)
  else words[d.used]?.map fun word => { base with kind := .argumentInvalid, token := fold word }

/-- Reads the first statement of words without a shift key or shortcut in front. -/
def resolveWords? (table : Table) (words : List String) : Option Resolution :=
  (descendFrom? table words { node := table.root }).bind fun d =>
    if d.path.length ≠ 0 ∧ d.node.isComplete then
      (record? table d).bind fun record =>
        (from? words d.used).map fun rest => { records := [record], rest := rest }
    else
      (if d.used = 0 then words[0]?.map (literal table) else some (.ok [])).bind fun read =>
        match read with
        | .ok (record :: records) =>
          (from? words 1).map fun rest => { records := record :: records, rest := rest }
        | .ok [] =>
          (diagnose? table words d).bind fun diagnostic =>
            let skip := if diagnostic.kind = .argumentInvalid then d.used + 1 else max d.used 1
            (from? words skip).map fun rest => { rest := rest, diagnostic := some diagnostic }
        | .error failure =>
          words[0]?.bind fun word =>
            (from? words (max d.used 1)).map fun rest =>
              { rest := rest
                diagnostic := some
                  { kind := .expressionInvalid, token := word, words := words,
                    reason := some (.expression failure) } }

/-- Reads the first statement of a list of words. -/
def resolve? (table : Table) (words : List String) : Option Resolution :=
  (dropShift? words).bind fun statement =>
    if statement.length = 0 then some {}
    else (expand? table statement).bind (resolveWords? table)

section Descent

variable {table : Table} {words : List String}

theorem select?_one (table : Table) (node : Node) (word : String) :
    select? table node [word] 1 = some ((argument? table node word).map fun step => (step.1, 0)) := by
  have hone : before? [word] 1 = some [word] := before?_eq (by simp)
  rw [select?, hone, Option.bind_some, String.intercalate_singleton]
  cases argument? table node word <;> rfl

theorem select?_two (table : Table) (node : Node) (first second : String) (rest : List String) :
    select? table node (first :: second :: rest) 2 =
      match argument? table node (first ++ " " ++ second) with
      | some step => some (some (step.1, 1))
      | none => some ((argument? table node first).map fun step => (step.1, 0)) := by
  have htwo : before? (first :: second :: rest) 2 = some [first, second] := before?_eq (by simp)
  have hone : before? (first :: second :: rest) 1 = some [first] := before?_eq (by simp)
  rw [select?, htwo, Option.bind_some, String.intercalate_cons_cons, String.intercalate_singleton]
  cases argument? table node (first ++ " " ++ second) with
  | some step => rfl
  | none =>
    simp only [select?, hone, Option.bind_some, String.intercalate_singleton]
    cases argument? table node first <;> rfl

theorem descendFrom?_end {d : Descent} (h : words.drop d.used = []) :
    descendFrom? table words d = some d := by
  rw [descendFrom?, if_neg]
  rw [List.drop_eq_nil_iff] at h
  omega

theorem descendFrom?_stop {d : Descent} {tail : List String} (ht : words.drop d.used = tail)
    (hsel : select? table d.node tail (min 2 tail.length) = some none) :
    descendFrom? table words d = some d := by
  by_cases hlt : d.used < words.length
  · rw [descendFrom?, if_pos hlt, from?_eq (Nat.le_of_lt hlt), Option.bind_some, ht, hsel, Option.bind_some]
  · exact descendFrom?_end (by rw [List.drop_eq_nil_iff]; omega)

theorem descendFrom?_step {d : Descent} {tail : List String} {step : String × Node} {more : Nat}
    (ht : words.drop d.used = tail) (hne : tail ≠ [])
    (hsel : select? table d.node tail (min 2 tail.length) = some (some (step.1, more)))
    (hc : d.node.child? step.1 = some step.2) :
    descendFrom? table words d =
      descendFrom? table words (advance d step.1 step.2 (more + 1)) := by
  have hlt : d.used < words.length := by
    by_contra hge
    rw [List.drop_eq_nil_of_le (by omega)] at ht
    exact hne ht.symm
  rw [descendFrom?, if_pos hlt, from?_eq (Nat.le_of_lt hlt), Option.bind_some, ht, hsel, Option.bind_some]
  simp only [hc, Option.bind_some]

/-- A descent with another one behind it. -/
def followed (d e : Descent) : Descent where
  node := e.node
  path := d.path ++ e.path
  nodes := d.nodes ++ e.nodes
  used := d.used + e.used

theorem followed_stop (d : Descent) : followed d { node := d.node } = d := by
  simp [followed]

theorem followed_cons (d e : Descent) (step : String × Node) (span : Nat) :
    followed d (.cons span step e) = followed (advance d step.1 step.2 span) e := by
  simp [followed, advance, Descent.cons, Nat.add_assoc]

theorem child_of_argument {node : Node} {spelling : String} {step : String × Node}
    (h : argument? table node spelling = some step) : node.child? step.1 = some step.2 :=
  ((argument_eq_some_iff table node spelling step.1 step.2).mp h).2

/-- A descent by positions is the descent of the words that it has left. -/
theorem descendFrom?_eq (d : Descent) {node : Node} {tail : List String} (hn : d.node = node)
    (ht : words.drop d.used = tail) :
    descendFrom? table words d = some (followed d (descend table node tail)) := by
  have hdrop {d : Descent} {tail : List String} (step : String × Node) (span : Nat)
      (ht : words.drop d.used = tail) :
      words.drop (advance d step.1 step.2 span).used = tail.drop span := by
    rw [← ht, List.drop_drop]
    rfl
  -- One case for each way in which the descent goes on or ends.
  fun_induction descend table node tail generalizing d with
  | case1 node =>
    rw [descendFrom?_end ht, ← hn, followed_stop]
  | case2 node word step hstep =>
    subst hn
    have hsel := select?_one table d.node word
    rw [hstep] at hsel
    have hend : followed (advance d step.1 step.2 1) { node := step.2 } = advance d step.1 step.2 1 :=
      followed_stop _
    rw [descendFrom?_step ht (by simp) hsel (child_of_argument hstep),
      descendFrom?_end (hdrop step 1 ht), followed_cons, hend]
  | case3 node word hstep =>
    subst hn
    have hsel := select?_one table d.node word
    rw [hstep] at hsel
    rw [descendFrom?_stop ht hsel, followed_stop]
  | case4 node first second rest step hstep ih =>
    subst hn
    have hsel := select?_two table d.node first second rest
    rw [hstep] at hsel
    rw [descendFrom?_step ht (by simp) (by simpa using hsel) (child_of_argument hstep),
      ih _ rfl (hdrop step 2 ht), followed_cons]
  | case5 node first second rest hpair step hstep ih =>
    subst hn
    have hsel := select?_two table d.node first second rest
    rw [hpair, hstep] at hsel
    rw [descendFrom?_step ht (by simp) (by simpa using hsel) (child_of_argument hstep),
      ih _ rfl (hdrop step 1 ht), followed_cons]
  | case6 node first second rest hpair hone =>
    subst hn
    have hsel := select?_two table d.node first second rest
    rw [hpair, hone] at hsel
    rw [descendFrom?_stop ht (by simpa using hsel), followed_stop]

theorem descend?_eq (table : Table) (words : List String) :
    descendFrom? table words { node := table.root } = some (descend table table.root words) := by
  rw [descendFrom?_eq { node := table.root } rfl rfl]
  simp [followed]

end Descent

theorem descend_used_le (table : Table) (node : Node) (words : List String) :
    (descend table node words).used ≤ words.length := by
  obtain ⟨groups, rest, hw⟩ := exists_walk table node words
  rw [hw.descend_eq, Descent.after_used, hw.split, List.length_append]
  exact Nat.add_le_add_left (Nat.zero_le _) _

theorem record?_eq (table : Table) {d : Descent} (h : d.path ≠ []) :
    record? table d = some (Record.ofPath table d.path d.nodes) := by
  obtain ⟨first, others, hp⟩ := List.exists_cons_of_ne_nil h
  simp [record?, Record.ofPath, hp]

theorem dropShift?_eq (words : List String) : dropShift? words = some (dropShift words) := by
  cases words with
  | nil => rfl
  | cons first others =>
    have hrest : from? (first :: others) 1 = some others := from?_eq (by simp)
    simp only [dropShift?, dropShift, List.length_cons, Nat.zero_lt_succ, if_true,
      List.getElem?_cons_zero, Option.bind_some, hrest]
    split_ifs <;> rfl

theorem expand?_eq (table : Table) (words : List String) : expand? table words = some (table.expand words) := by
  match words with
  | [] => rfl
  | [first] =>
    have hrest : from? [first] 1 = some [] := from?_eq (by simp)
    cases hs : table.shortcut? (fold first) <;> simp [expand?, Table.expand, Table.expand?, hs, hrest]
  | first :: second :: others =>
    have hone : from? (first :: second :: others) 1 = some (second :: others) := from?_eq (by simp)
    have htwo : from? (first :: second :: others) 2 = some others := from?_eq (by simp)
    cases hs : table.shortcut? (fold first) with
    | some phrase => simp [expand?, Table.expand, Table.expand?, hs, hone]
    | none =>
      cases hp : table.shortcut? (fold (first ++ " " ++ second)) <;>
        simp [expand?, Table.expand, Table.expand?, hs, hp, htwo]

theorem diagnose?_eq (table : Table) {words : List String} (d : Descent) (h : words ≠ []) :
    diagnose? table words d = some (diagnose table words d) := by
  obtain ⟨first, others, rfl⟩ := List.exists_cons_of_ne_nil h
  unfold diagnose? diagnose
  by_cases hzero : d.used = 0
  · simp [hzero]
  · by_cases hall : (first :: others).length ≤ d.used
    · simp only [if_neg hzero, if_pos hall]
    · have hword : (first :: others)[d.used]? = some ((first :: others).getD d.used "") := by
        rw [List.getD_eq_getElem?_getD, List.getElem?_eq_getElem (by omega)]
        rfl
      simp only [if_neg hzero, if_neg hall, hword, Option.map_some]

theorem kind_diagnose_invalid {table : Table} {words : List String} {d : Descent}
    (h : (diagnose table words d).kind = .argumentInvalid) : d.used < words.length := by
  unfold diagnose at h
  split_ifs at h
  omega

theorem skip_le (table : Table) {words : List String} {d : Descent} (h : words ≠ [])
    (hused : d.used ≤ words.length) :
    (if (diagnose table words d).kind = .argumentInvalid then d.used + 1 else max d.used 1) ≤
      words.length := by
  have hpos : 0 < words.length := List.length_pos_of_ne_nil h
  split_ifs with hk
  · exact kind_diagnose_invalid hk
  · exact Nat.max_le.mpr ⟨hused, hpos⟩

theorem resolveWords?_nil (table : Table) : resolveWords? table [] = none := by
  simp [resolveWords?, descend?_eq, descend]

theorem resolveWords?_eq (table : Table) (words : List String) :
    resolveWords? table words = (resolveWords table words).toOption := by
  cases words with
  | nil =>
    rw [resolveWords?_nil, resolveWords_nil]
    rfl
  | cons first others =>
    have hused := descend_used_le table table.root (first :: others)
    have hfirst : from? (first :: others) 1 = some others := from?_eq (by simp)
    unfold resolveWords? resolveWords
    rw [descend?_eq, Option.bind_some]
    generalize descend table table.root (first :: others) = d at hused ⊢
    have hdiagnose := diagnose?_eq table d (List.cons_ne_nil first others)
    -- A diagnostic never skips more words than there are.
    have hskip := from?_eq (skip_le table (List.cons_ne_nil first others) hused)
    by_cases hcomplete : d.path.length ≠ 0 ∧ d.node.isComplete = true
    · have hpath : d.path ≠ [] := by simpa using hcomplete.1
      rw [if_pos hcomplete, record?_eq table hpath, Option.bind_some, from?_eq hused]
      simp [hpath, hcomplete.2, Except.toOption]
    · have hfailed : ¬ (!d.path.isEmpty && d.node.isComplete) = true := by simpa using hcomplete
      dsimp only
      rw [if_neg hcomplete, if_neg hfailed]
      by_cases hzero : d.used = 0
      · rw [if_pos hzero, if_pos hzero, List.getElem?_cons_zero, Option.map_some, Option.bind_some]
        cases literal table first with
        | error failure => simp [hzero, hfirst, Except.toOption]
        | ok records =>
          cases records with
          | nil => simp only [hdiagnose, Option.bind_some, hskip, Option.map_some, Except.toOption]
          | cons record records => simp only [hfirst, Option.map_some, Except.toOption]
      · rw [if_neg hzero, if_neg hzero, Option.bind_some]
        simp only [hdiagnose, Option.bind_some, hskip, Option.map_some, Except.toOption]

/-- Reading by positions gives what is read, and nothing exactly where reading fails. -/
theorem resolve?_eq (table : Table) (words : List String) :
    resolve? table words = (resolve table words).toOption := by
  rw [resolve?, dropShift?_eq, Option.bind_some]
  by_cases hd : dropShift words = []
  · simp [resolve, hd, Except.toOption]
  · rw [if_neg (by simpa using hd), expand?_eq, Option.bind_some, resolveWords?_eq,
      resolve_of_statement hd]

end Keystroke.Statement.Checked
