import Keystroke.Proofs.Instructions

/-! The keycodes of a listing tell the program. The column between the braces of a line has the number of the
keycodes of its instruction, whether it is written for a simulator or not, so on the HP-15C each line of a
listing can be read back. -/
namespace Keystroke.Listing

open Keystroke.Command Keystroke.Statement Keystroke.Text

/-- The keycodes in a line: the text between its braces, without the blanks beside them. -/
def keycodeColumn (line : List Char) : List Char :=
  (((line.dropWhile (· != '\x7b')).drop 2).takeWhile (· != '\x7d')).dropLast

/-- The keycodes in the lines of a listing, which all end with a line feed. -/
def keycodeColumns (listing : String) : List (List Char) :=
  (splitFeed listing.toList).dropLast.map keycodeColumn

/-- The number of a text of keycodes. -/
def columnNumber (column : List Char) : Nat :=
  column.foldl tally 0

theorem foldl_tally_blanks (k : Nat) : (List.replicate k ' ').foldl tally 0 = 0 := by
  induction k with
  | zero => rfl
  | succ k ih => exact ih

theorem columnNumber_alignRight (text : String) :
    columnNumber (alignRight text).toList = columnNumber text.toList := by
  rw [alignRight, String.toList_append, String.toList_ofList, columnNumber, List.foldl_append,
    foldl_tally_blanks]
  rfl

theorem foldl_tally_intercalate (n : Nat) (first : List Char) (others : List (List Char)) :
    ([' '].intercalate (first :: others)).foldl tally n =
      others.foldl (fun n code => code.foldl tally (tally n ' ')) (first.foldl tally n) := by
  induction others generalizing first n with
  | nil => simp
  | cons next others ih =>
    rw [List.intercalate_cons_cons, List.foldl_append, List.foldl_append, ih, List.foldl_cons]
    rfl

theorem columnNumber_intercalate (codes : List String) :
    columnNumber (" ".intercalate codes).toList = keycodesNumber codes := by
  cases codes with
  | nil => rfl
  | cons first others =>
    rw [String.toList_intercalate, show " ".toList = [' '] from rfl, List.map_cons, columnNumber,
      foldl_tally_intercalate, keycodesNumber, List.foldl_cons, List.foldl_map]
    rfl

theorem standard_point : Table.standard.root.child? "." = some (Node.leaf "48") := by
  rw [show Table.standard.root = standardRoot from rfl, standardRoot, Node.child_branch]
  rfl

/-- A keycode has the same number however it is shown. -/
theorem foldl_tally_showKeycode {options : Options} {keycode shown : String}
    (h : showKeycode options Table.standard keycode = .ok shown) (n : Nat) :
    shown.toList.foldl tally n = keycode.toList.foldl tally n := by
  rcases showKeycode_ok h with rfl | ⟨point, rest, hc, hk, rfl⟩
  · rfl
  · obtain rfl : point = Node.leaf "48" := by
      rw [standard_point] at hc
      exact (Option.some.inj hc).symm
    have hpoint : ((Node.leaf "48").keycode ++ "  ").toList = ['4', '8', ' ', ' '] := rfl
    -- The two digits and two blanks count as much as the point.
    have hcount : ['4', '8', ' ', ' '].foldl tally n = tally n '.' := by
      have hdigits : '4'.toNat = 52 ∧ '8'.toNat = 56 ∧ ' '.toNat = 32 := ⟨rfl, rfl, rfl⟩
      simp only [List.foldl_cons, List.foldl_nil, tally, Char.reduceEq, if_false, if_true]
      omega
    rw [String.toList_append, hpoint, String.toList_ofList, List.foldl_append, hcount, hk]
    rfl

theorem keycodesNumber_shown {options : Options} {keycodes codes : List String}
    (h : List.Forall₂ (fun keycode shown => showKeycode options Table.standard keycode = .ok shown)
      keycodes codes) : keycodesNumber codes = keycodesNumber keycodes := by
  unfold keycodesNumber
  generalize 0 = n
  induction h generalizing n with
  | nil => rfl
  | cons hshow _ ih => rw [List.foldl_cons, List.foldl_cons, foldl_tally_showKeycode hshow, ih]

/-- The path of the instruction with given keycodes. -/
def pathOfColumn (column : List Char) : Option (List String) :=
  ((instructions Table.standard).find?
    fun record => keycodesNumber record.keycodes == columnNumber column).map Record.path

theorem pathOfColumn_eq {record : Record} (h : record ∈ instructions Table.standard)
    {column : List Char} (hn : columnNumber column = keycodesNumber record.keycodes) :
    pathOfColumn column = some record.path := by
  unfold pathOfColumn
  cases hf : (instructions Table.standard).find?
      fun record => keycodesNumber record.keycodes == columnNumber column with
  | none =>
    have hnone := List.find?_eq_none.mp hf record h
    simp [hn] at hnone
  | some found =>
    have hfound := List.find?_some hf
    rw [beq_iff_eq, hn] at hfound
    rw [eq_of_keycodesNumber (List.mem_of_find?_eq_some hf) h hfound]
    rfl

/-- An entry that takes one line, whose keycodes end before its first closing brace. -/
inductive Entry.OneLine : Entry → Prop
  | instruction {keycodes text : String} : inColumn keycodes = true → '\n' ∉ text.toList →
    OneLine (.instruction keycodes text)

/-- The keycodes of an entry as they are aligned. -/
def Entry.column : Entry → List Char
  | .instruction keycodes _ => (alignRight keycodes).toList
  | .report _ => []

/-- The line of an instruction without its line feed. -/
def instructionLine (n : Nat) (keycodes text : String) : List Char :=
  (lineNumber n).toList ++ ' ' :: '\x7b' :: ' ' ::
    ((alignRight keycodes).toList ++ ' ' :: '\x7d' :: ' ' :: text.toList)

theorem render_instruction (n : Nat) (keycodes text : String) :
    ((Entry.instruction keycodes text).render n).toList = instructionLine n keycodes text ++ ['\n'] := by
  have hopen : " \x7b ".toList = [' ', '\x7b', ' '] := rfl
  have hclose : " \x7d ".toList = [' ', '\x7d', ' '] := rfl
  have hfeed : "\n".toList = ['\n'] := rfl
  simp [Entry.render, instructionLine, hopen, hclose, hfeed]

theorem inColumn_alignRight {text : String} (h : inColumn text = true) :
    inColumn (alignRight text) = true := by
  rw [inColumn, alignRight, String.toList_append, String.toList_ofList, List.all_append,
    Bool.and_eq_true]
  refine ⟨?_, h⟩
  simp [List.all_replicate]

theorem of_inColumn {text : String} (h : inColumn text = true) {c : Char} (hc : c ∈ text.toList) :
    c ≠ '\n' ∧ c ≠ '\x7d' := by
  have hall := List.all_eq_true.mp h c hc
  rwa [Bool.and_eq_true, bne_iff_ne, bne_iff_ne] at hall

theorem keycodeColumn_line (n : Nat) {keycodes : String} (h : inColumn keycodes = true)
    (text : String) :
    keycodeColumn (instructionLine n keycodes text) = (alignRight keycodes).toList := by
  have hnumber : ∀ c ∈ (lineNumber n).toList ++ [' '], (c != '\x7b') = true := by
    intro c hc
    rw [bne_iff_ne]
    rintro rfl
    rcases List.mem_append.mp hc with hc | hc
    · exact absurd (lineNumber_isDigit n _ hc) (by decide)
    · exact absurd hc (by decide)
  have hcolumn : ∀ c ∈ (alignRight keycodes).toList ++ [' '], (c != '\x7d') = true := by
    intro c hc
    rcases List.mem_append.mp hc with hc | hc
    · exact bne_iff_ne.mpr (of_inColumn (inColumn_alignRight h) hc).2
    · rw [List.mem_singleton.mp hc]
      rfl
  -- The blank before a brace goes with the text on its left.
  have hline : instructionLine n keycodes text = ((lineNumber n).toList ++ [' ']) ++ '\x7b' :: ' ' ::
      (((alignRight keycodes).toList ++ [' ']) ++ '\x7d' :: ' ' :: text.toList) := by
    simp [instructionLine]
  rw [keycodeColumn, hline, List.dropWhile_append_of_pos hnumber,
    List.dropWhile_cons_of_neg (by decide), List.drop_succ_cons, List.drop_succ_cons, List.drop_zero,
    List.takeWhile_append_of_pos hcolumn, List.takeWhile_cons_of_neg (by decide), List.append_nil,
    List.dropLast_concat]

theorem no_feed_instructionLine (n : Nat) {keycodes text : String} (h : inColumn keycodes = true)
    (ht : '\n' ∉ text.toList) : '\n' ∉ instructionLine n keycodes text := by
  intro hm
  simp only [instructionLine, List.mem_append, List.mem_cons, Char.reduceEq, false_or] at hm
  rcases hm with hnumber | hkeycodes | htext
  · exact absurd (lineNumber_isDigit n _ hnumber) (by decide)
  · exact (of_inColumn (inColumn_alignRight h) hkeycodes).1 rfl
  · exact ht htext

/-- The columns of a listing of instructions are those of its entries. -/
theorem keycodeColumns_renderFrom (n : Nat) {es : List Entry} (h : ∀ e ∈ es, e.OneLine) :
    keycodeColumns (renderFrom n es) = es.map Entry.column := by
  induction es generalizing n with
  | nil => rfl
  | cons e es ih =>
    have hrest := ih (n + 1) fun e he => h e (by simp [he])
    cases h e (by simp) with
    | @instruction keycodes text hkeycodes htext =>
      have hfeed := no_feed_instructionLine n hkeycodes htext
      rw [keycodeColumns, renderFrom, String.toList_append, render_instruction, List.append_assoc,
        List.singleton_append, splitFeed_append hfeed,
        List.dropLast_cons_of_ne_nil (splitFeed_ne_nil _), List.map_cons,
        keycodeColumn_line n hkeycodes]
      exact congrArg _ hrest

theorem mem_of_mem_trimEnd {text : String} {c : Char} (h : c ∈ (trimEnd text).toList) :
    c ∈ text.toList := by
  rw [trimEnd, String.toList_ofList, List.mem_reverse] at h
  exact List.mem_reverse.mp ((List.dropWhile_sublist _).mem h)

theorem inColumn_intercalate {texts : List String} (h : ∀ text ∈ texts, inColumn text = true) :
    inColumn (" ".intercalate texts) = true := by
  rw [inColumn, List.all_eq_true, String.toList_intercalate]
  intro c hc
  rcases mem_of_mem_intercalate hc with hblank | ⟨part, hpart, hc⟩
  · rw [List.mem_singleton.mp hblank]
    rfl
  · obtain ⟨text, htext, rfl⟩ := List.mem_map.mp hpart
    exact List.all_eq_true.mp (h text htext) c hc

theorem inColumn_append {text other : String} (h : inColumn text = true) (h' : inColumn other = true) :
    inColumn (text ++ other) = true := by
  rw [inColumn, String.toList_append, List.all_append, Bool.and_eq_true]
  exact ⟨h, h'⟩

/-- The words of an instruction stay on its line. -/
theorem no_feed_recordText {options : Options} {rest : List String} {record shown : Record}
    (h : Remarked rest record shown) (hrecord : record ∈ instructions Table.standard)
    (hrest : ∀ word ∈ rest, IsWord word.toList) : '\n' ∉ (recordText options shown).toList := by
  have hin := standard_inColumn hrecord
  have hfeed {text : String} (ht : inColumn text = true) : '\n' ∉ text.toList :=
    fun hc => (of_inColumn ht hc).1 rfl
  have hremarks : '\n' ∉ shown.remarks.toList := by
    rcases h.remarks with hr | hr
    · obtain ⟨way, -, rfl⟩ := List.mem_map.mp hrecord
      rw [hr]
      simp [Record.ofWay, Record.ofPath]
    · rw [hr, String.toList_intercalate]
      intro hc
      obtain ⟨part, hpart, hc⟩ := (mem_of_mem_intercalate hc).resolve_left (by decide)
      obtain ⟨word, hword, rfl⟩ := List.mem_map.mp hpart
      exact absurd ((hrest word hword).not_blank _ hc) (by decide)
  have hkey : '\n' ∉ (if options.shiftKey && shown.shift ≠ "" then shown.shift ++ " " else "").toList := by
    split_ifs
    · exact hfeed (inColumn_append (h.shift ▸ hin.shift) (by decide))
    · decide
  have htokens : '\n' ∉ (" ".intercalate shown.path).toList := by
    rw [h.path]
    exact hfeed (inColumn_intercalate hin.path)
  intro hc
  have hblank : " ".toList = [' '] := rfl
  have hmem := Markup.mem_of_mem_escape (mem_of_mem_trimEnd hc) (by decide)
  simp only [String.toList_append, hblank, List.mem_append, List.mem_singleton, Char.reduceEq,
    or_false] at hmem
  rcases hmem with ((hmem | hmem) | hmem) | hmem
  · exact hkey hmem
  · exact htokens hmem
  · exact hfeed (h.comment ▸ hin.comment) hmem
  · exact hremarks hmem

/-- An entry that shows an instruction of the HP-15C takes one line, and its column has the number of the
keycodes. -/
theorem Shows.oneLine {options : Options} {rest : List String} {record : Record} {e : Entry}
    (h : Shows options Table.standard rest record e) (hrecord : record ∈ instructions Table.standard)
    (hrest : ∀ word ∈ rest, IsWord word.toList) :
    e.OneLine ∧ columnNumber e.column = keycodesNumber record.keycodes := by
  obtain ⟨codes, shown, hcodes, hshown, rfl⟩ := h
  have hpoint : ∀ point, Table.standard.root.child? "." = some point →
      inColumn point.keycode = true := by
    intro point hc
    rw [standard_point] at hc
    rw [← Option.some.inj hc]
    decide
  have hin : ∀ code ∈ codes, inColumn code = true := by
    intro code hcode
    obtain ⟨keycode, hkeycode, hshow⟩ := exists_of_forall₂ hcodes code hcode
    exact all_showKeycode hshow ((standard_inColumn hrecord).keycodes keycode hkeycode) hpoint
      (by decide)
  refine ⟨.instruction (inColumn_intercalate hin) (no_feed_recordText hshown hrecord hrest), ?_⟩
  rw [Entry.column, columnNumber_alignRight, columnNumber_intercalate, keycodesNumber_shown hcodes]

/-- The canonical words of the instructions of a statement. -/
def Listed.paths (s : Listed) : List (List String) :=
  s.resolution.records.map Record.path

theorem forall₂_columns {options : Options} {rest : List String} {records : List Record}
    {es : List Entry} (h : List.Forall₂ (Shows options Table.standard rest) records es)
    (hrecords : ∀ record ∈ records, record ∈ instructions Table.standard)
    (hrest : ∀ word ∈ rest, IsWord word.toList) :
    (∀ e ∈ es, e.OneLine) ∧
      es.map (fun e => pathOfColumn e.column) = records.map fun record => some record.path := by
  induction h with
  | nil => simp
  | @cons record e records es hshow _ ih =>
    obtain ⟨hline, hnumber⟩ := hshow.oneLine (hrecords record (by simp)) hrest
    obtain ⟨hlines, hpaths⟩ := ih fun record hr => hrecords record (by simp [hr])
    refine ⟨by simpa using ⟨hline, hlines⟩, ?_⟩
    rw [List.map_cons, List.map_cons, hpaths, pathOfColumn_eq (hrecords record (by simp)) hnumber]

/-- A listing of the HP-15C without diagnostics can be read back line by line. -/
theorem paths_of_columns {conv : Converter} (htable : conv.table = Table.standard) {text : String}
    {done : List Listed} (hex : Execution conv (wordLines text) done [])
    (hclean : ∀ s ∈ done, s.resolution.diagnostic = none) {listing : String}
    (hl : (conv.convert text).listing = .ok listing) :
    (keycodeColumns listing).map pathOfColumn = (done.flatMap Listed.paths).map some := by
  have hstatement : ∀ s ∈ done, (∀ e ∈ s.entries, e.OneLine) ∧
      s.entries.map (fun e => pathOfColumn e.column) = s.paths.map some := by
    intro s hs
    obtain ⟨words, hr, he⟩ := hex.exists_words s hs
    have hwritten := hex.written (isWord_wordLines text) s hs
    rcases entries_ok he with ⟨d, hd, -⟩ | ⟨-, hshows⟩
    · rw [hclean s hs] at hd
      simp at hd
    · rw [htable] at hr hshows
      obtain ⟨hlines, hpaths⟩ := forall₂_columns hshows (standard_records_mem hr) hwritten.rest
      refine ⟨hlines, ?_⟩
      rw [hpaths, Listed.paths, List.map_map]
      rfl
  have hlines : ∀ e ∈ done.flatMap Listed.entries, e.OneLine := by
    intro e he
    obtain ⟨s, hs, he⟩ := List.mem_flatMap.mp he
    exact (hstatement s hs).1 e he
  rw [hex.listing_eq, Except.ok.injEq] at hl
  rw [← hl, keycodeColumns_renderFrom 1 hlines, List.map_map, List.map_flatMap, List.map_flatMap]
  exact List.flatMap_congr fun s hs => (hstatement s hs).2

/-- Two programs for the HP-15C without diagnostics, whose listings have the same keycodes line by line, consist
of the same instructions. -/
theorem keycodes_identify_program (conv : Converter) (htable : conv.table = Table.standard)
    (a b listing listing' : String) (done done' : List Listed)
    (ha : (conv.convert a).listing = .ok listing) (hb : (conv.convert b).listing = .ok listing')
    (hdone : Execution conv (wordLines a) done []) (hdone' : Execution conv (wordLines b) done' [])
    (hclean : ∀ s ∈ done ++ done', s.resolution.diagnostic = none)
    (hcolumns : keycodeColumns listing = keycodeColumns listing') :
    done.flatMap Listed.paths = done'.flatMap Listed.paths := by
  have hpaths := paths_of_columns htable hdone (fun s hs => hclean s (by simp [hs])) ha
  have hpaths' := paths_of_columns htable hdone' (fun s hs => hclean s (by simp [hs])) hb
  rw [hcolumns, hpaths'] at hpaths
  exact List.map_injective_iff.mpr (fun _ _ => Option.some.inj) hpaths.symm

theorem resolve_word {word : String} (hspelled : word.toList.all isSpelled = true)
    (hshift : word ∉ ["F", "G"]) (hs : Alias.lookup? standardShortcuts word = none) :
    resolve Table.standard [word] = resolveWords Table.standard [word] := by
  have hfold : fold word = word := fold_of_spelled hspelled
  have hdrop : dropShift [word] = [word] := by
    have hf : fold Shift.f.name = "F" := by decide
    have hg : fold Shift.g.name = "G" := by decide
    simp only [List.mem_cons, List.not_mem_nil, or_false, not_or] at hshift
    simp [dropShift, isShiftWord, hfold, hf, hg, hshift]
  have hexpand : Table.standard.expand [word] = [word] := by
    simp [Table.expand, Table.expand?, hfold, standard_shortcut, hs]
  rw [resolve_of_statement (by simp [hdrop]), hdrop, hexpand]

/-- A converter for the HP-15C that shows keycodes for a simulator. -/
def simulatorConverter : Converter where
  options := { simulator := true }

/-- The instruction of a digit key. -/
def digitRecord (digit : String) : Record :=
  ⟨[digit], [" " ++ digit], "", "", ""⟩

/-- A statement of digit keys. -/
def listedDigits (digits : List String) : Listed where
  resolution := { records := digits.map digitRecord }
  entries := digits.map fun digit => .instruction (" " ++ digit) digit

set_option maxRecDepth 20000 in
theorem child_digit : ∀ digit ∈ ["0", "5"],
    Table.standard.root.child? digit = some (Node.leaf (" " ++ digit)) := by
  rw [show Table.standard.root = standardRoot from rfl, standardRoot]
  simp only [Node.child_branch, List.forall_mem_cons, List.not_mem_nil, false_implies, implies_true,
    and_true]
  exact ⟨rfl, rfl⟩

set_option maxRecDepth 20000 in
theorem resolve_digit : ∀ digit ∈ ["0", "5"],
    resolve Table.standard [digit] = .ok (listedDigits [digit]).resolution := by
  have hlookup : ∀ digit ∈ ["0", "5"], digit.toList.all isSpelled = true ∧ digit ∉ ["F", "G"] ∧
      digit ∉ ["R-v", "R-V", "d%", "D%"] ∧ Alias.lookup? standardShortcuts digit = none ∧
      Alias.lookup? standardAliases digit = some digit ∧ Table.standard.shift? digit = none := by
    decide
  intro digit hd
  obtain ⟨hspelled, hshift, hplain, hs, ha, hnone⟩ := hlookup digit hd
  have hsel : Selects Table.standard Table.standard.root ⟨[digit], digit, Node.leaf (" " ++ digit)⟩ := by
    refine ⟨Or.inl rfl, ?_, child_digit digit hd⟩
    rw [String.intercalate_singleton, fold_of_spelled hspelled, standard_canonical _ hplain, ha]
  have hw : Walk Table.standard Table.standard.root [digit]
      [⟨[digit], digit, Node.leaf (" " ++ digit)⟩] [] := by
    refine ⟨rfl, .cons hsel (.nil _), ⟨?_, trivial⟩, stuck_nil _ _⟩
    intro pair _ hl hp
    have hle := hp.length_le
    simp [hl] at hle
  rw [resolve_word hspelled hshift hs, hw.resolveWords_eq (.command (by simp) rfl)]
  simp [listedDigits, digitRecord, Record.ofPath, hnone, Node.leaf, Node.keycode, Node.comment]

set_option maxRecDepth 20000 in
theorem resolve_digits :
    resolve Table.standard ["05"] = .ok (listedDigits ["0", "5"]).resolution := by
  have hnone : argument? Table.standard Table.standard.root "05" = none := by
    apply argument_none_of_canonical
    have hlookup : Alias.lookup? standardAliases "05" = none := by decide
    rw [fold_of_spelled (by decide), standard_canonical _ (by decide), hlookup]
  have hkey {digit : String} (hd : digit ∈ ["0", "5"]) :
      Record.key Table.standard digit = digitRecord digit := by
    simp [Record.key, digitRecord, child_digit digit hd, Node.leaf, Node.keycode]
  have hliteral : literal Table.standard "05" = .ok (["0", "5"].map digitRecord) := by
    have hn : Numeral.ofWord? "05" = some { mantissa := "05" } := by decide
    have he : expression? "05" = none := by decide
    have ht : ({ mantissa := "05" } : Numeral).tokens = ["0", "5"] := by decide
    simp [literal, hn, he, Numeral.keys, ht, hkey]
  have hw : Walk Table.standard Table.standard.root ["05"] [] ["05"] :=
    ⟨rfl, .nil _, trivial, stuck_singleton hnone⟩
  rw [resolve_word (by decide) (by decide) (by decide),
    hw.resolveWords_eq (.literal rfl rfl hliteral (by simp))]
  rfl

set_option maxRecDepth 20000 in
theorem keycodes_identify_program_digits : ∃ done done' listing,
    Execution simulatorConverter (wordLines "05") done [] ∧
    Execution simulatorConverter (wordLines "0\n5") done' [] ∧
    (∀ s ∈ done ++ done', s.resolution.diagnostic = none) ∧
    listing = "001 \x7b           0 \x7d 0\n002 \x7b           5 \x7d 5\n" ∧
    (simulatorConverter.convert "05").listing = .ok listing ∧
    (simulatorConverter.convert "0\n5").listing = .ok listing ∧
    done.flatMap Listed.paths = [["0"], ["5"]] ∧
    done.flatMap Listed.paths = done'.flatMap Listed.paths := by
  have hdone : Execution simulatorConverter (wordLines "05") [listedDigits ["0", "5"]] [] := by
    rw [show wordLines "05" = [["05"]] from rfl]
    exact .line (by simp) resolve_digits rfl rfl (.refl [])
  have hdone' : Execution simulatorConverter (wordLines "0\n5")
      [listedDigits ["0"], listedDigits ["5"]] [] := by
    rw [show wordLines "0\n5" = [["0"], ["5"]] from rfl]
    exact .line (by simp) (resolve_digit "0" (by simp)) rfl rfl
      (.line (by simp) (resolve_digit "5" (by simp)) rfl rfl (.refl []))
  have ha := hdone.listing_eq
  have hb := hdone'.listing_eq
  have hclean : ∀ s ∈ [listedDigits ["0", "5"]] ++ [listedDigits ["0"], listedDigits ["5"]],
      s.resolution.diagnostic = none := by
    simp [listedDigits]
  have hpaths := keycodes_identify_program simulatorConverter rfl "05" "0\n5" _ _ _ _ ha hb hdone
    hdone' hclean rfl
  exact ⟨_, _, _, hdone, hdone', hclean, rfl, ha, hb, rfl, hpaths⟩

end Keystroke.Listing
