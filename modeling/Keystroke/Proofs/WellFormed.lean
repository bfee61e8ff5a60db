import Keystroke.Proofs.Numbering
import Mathlib.Data.List.DropRight

/-! Every listing is well-formed markup, whatever the program: all text of the user and of the command set that
reaches it is escaped, apart from keycodes. -/
namespace Keystroke.Statement

open Keystroke.Command Keystroke.Markup

theorem plain_of_digit {c : Char} (h : c.isDigit = true) : isPlain c = true := by
  unfold isPlain
  rw [Bool.not_eq_true', Bool.or_eq_false_iff, Bool.or_eq_false_iff]
  refine ⟨⟨?_, ?_⟩, ?_⟩ <;>
  · rw [beq_eq_false_iff_ne]
    rintro rfl
    simp at h

theorem escaped_of_digits {text : String} (h : ∀ c ∈ text.toList, c.isDigit = true) :
    Escaped text.toList := by
  apply escaped_of_plain
  rw [List.all_eq_true]
  exact fun c hc => plain_of_digit (h c hc)

theorem escaped_ordinal (d : Diagnostic) : Escaped d.ordinal.toList := by
  unfold Diagnostic.ordinal
  split
  · exact escaped_of_plain (by decide)
  · exact escaped_of_plain (by decide)
  · exact escaped_of_plain (by decide)
  · rw [String.toList_append]
    exact (escaped_of_digits (Listing.toString_isDigit _)).append (escaped_of_plain (by decide))

theorem inline_command (text : String) : Inline (Markup.command text).toList :=
  inline_span (by simp [classes]) (escaped_escape text)

theorem inline_argument {text : String} (h : Escaped text.toList) :
    Inline (Markup.argument text).toList :=
  inline_span (by simp [classes]) h

theorem inline_alternative (alternative : Alternative) :
    Inline (Diagnostic.alternativeMarkup alternative).toList := by
  apply inline_argument
  rw [String.toList_append]
  refine (escaped_escape _).append ?_
  split_ifs
  · exact .nil
  · rw [String.toList_append, String.toList_append]
    exact ((escaped_of_plain (by decide)).append (escaped_escape _)).append
      (escaped_of_plain (by decide))

theorem inline_suggestions (d : Diagnostic) : Inline d.suggestionMarkup.toList := by
  unfold Diagnostic.suggestionMarkup
  split_ifs
  · exact .nil
  · have hnames : ∀ part ∈ d.suggestions.map Markup.command, Inline part.toList := by
      intro part hpart
      obtain ⟨name, -, rfl⟩ := List.mem_map.mp hpart
      exact inline_command name
    have hlist := inline_intercalate (inline_plain " or " (by decide)) hnames
    exact inline_append (inline_append (inline_plain _ (by decide)) hlist) (inline_plain _ (by decide))

theorem inline_alternatives (d : Diagnostic) :
    Inline (", ".intercalate (d.alternatives.map Diagnostic.alternativeMarkup) ++ "\n").toList := by
  have hparts : ∀ part ∈ d.alternatives.map Diagnostic.alternativeMarkup, Inline part.toList := by
    intro part hpart
    obtain ⟨alternative, -, rfl⟩ := List.mem_map.mp hpart
    exact inline_alternative alternative
  have hlist := inline_intercalate (inline_plain ", " (by decide)) hparts
  exact inline_append hlist (inline_plain _ (by decide))

theorem inline_markup (d : Diagnostic) : Inline d.markup.toList := by
  have hlist := inline_alternatives d
  have htoken := inline_argument (escaped_escape d.token)
  have hpath := inline_command d.pathText
  have hargument (rest : String) (h : rest.toList.all isPlain = true) :
      Inline ("The " ++ d.ordinal ++ rest).toList :=
    inline_append (inline_append (inline_plain _ (by decide)) (escaped_ordinal d).inline)
      (inline_plain rest h)
  unfold Diagnostic.markup
  split
  · -- An unknown command, with the commands that may have been meant.
    have hfirst := inline_append (inline_append (inline_plain "The command " (by decide))
      (inline_command d.token)) (inline_plain " is unknown.\n" (by decide))
    exact inline_append (inline_append (inline_append hfirst (inline_suggestions d))
      (inline_plain _ (by decide))) hlist
  · have hmissing := hargument " argument is missing: " (by decide)
    exact inline_append (inline_append (inline_append hmissing hpath) (inline_plain _ (by decide))) hlist
  · have hmissing := hargument " argument is missing: " (by decide)
    exact inline_append (inline_append (inline_append hmissing hpath) (inline_plain _ (by decide))) hlist
  · have hinvalid := hargument " argument is invalid: " (by decide)
    have hsecond := inline_append (inline_append hinvalid htoken)
      (inline_plain " is not a parameter of " (by decide))
    exact inline_append (inline_append (inline_append hsecond hpath) (inline_plain _ (by decide))) hlist
  · have hfirst := inline_append (inline_append (inline_plain "The expression " (by decide))
      htoken) (inline_plain " is invalid: " (by decide))
    exact inline_append (inline_append hfirst (escaped_escape d.reasonText).inline)
      (inline_plain _ (by decide))

end Keystroke.Statement

namespace Keystroke.Listing

open Keystroke.Command Keystroke.Statement Keystroke.Text Keystroke.Markup

/-- Trailing spaces can be cut off before or after escaping. -/
theorem trimEnd_escape (text : String) : trimEnd (escape text) = escape (trimEnd text) := by
  have hlast (c : Char) (hc : c ≠ ' ') : ∃ front last, entity c = front ++ [last] ∧ last ≠ ' ' := by
    unfold entity
    split_ifs
    · exact ⟨"&amp".toList, ';', rfl, by decide⟩
    · exact ⟨"&lt".toList, ';', rfl, by decide⟩
    · exact ⟨"&gt".toList, ';', rfl, by decide⟩
    · exact ⟨[], c, rfl, hc⟩
  have htrim (cs : List Char) : (cs.flatMap entity).rdropWhile (· == ' ') =
      (cs.rdropWhile (· == ' ')).flatMap entity := by
    induction cs using List.reverseRecOn with
    | nil => rfl
    | append_singleton cs c ih =>
      rw [List.flatMap_append, List.flatMap_singleton]
      by_cases hc : c = ' '
      · rw [hc, show entity ' ' = [' '] from rfl, List.rdropWhile_concat_pos _ _ _ rfl,
          List.rdropWhile_concat_pos _ _ _ rfl, ih]
      · obtain ⟨front, last, he, hl⟩ := hlast c hc
        rw [List.rdropWhile_concat_neg _ _ _ (by simpa using hc), he, ← List.append_assoc,
          List.rdropWhile_concat_neg _ _ _ (by simpa using hl), List.flatMap_append,
          List.flatMap_singleton, he, List.append_assoc]
  apply String.toList_injective
  simpa [trimEnd, escape, List.rdropWhile] using htrim text.toList

theorem escaped_recordText (options : Options) (record : Record) :
    Escaped (recordText options record).toList := by
  unfold recordText
  dsimp only
  rw [trimEnd_escape]
  exact escaped_escape _

theorem plain_spaces (n : Nat) : (String.ofList (List.replicate n ' ')).toList.all isPlain = true := by
  rw [String.toList_ofList]
  simp [isPlain]

theorem inline_report (n : Nat) (d : Diagnostic) : Inline ((Entry.report d).render n).toList := by
  have hecho := (escaped_escape (" ".intercalate d.words)).inline
  have hblank : Inline
      (String.join ((d.words.take d.used).map fun word => Text.blank word ++ " ")).toList := by
    apply inline_join
    intro part hpart
    obtain ⟨word, -, rfl⟩ := List.mem_map.mp hpart
    exact inline_append (inline_plain _ (plain_spaces _)) (inline_plain _ (by decide))
  have hbanner : Inline (Markup.error ("⮤ Error in line " ++ lineNumber n ++ " ")).toList := by
    refine inline_span (by simp [classes]) ?_
    rw [String.toList_append, String.toList_append]
    exact ((escaped_of_plain (by decide)).append (escaped_of_digits (lineNumber_isDigit n))).append
      (escaped_of_plain (by decide))
  have hline := inline_plain "\n" (by decide)
  exact inline_append (inline_append (inline_append (inline_append (inline_append
    (inline_append hecho hline) hblank) hbanner) hline) (inline_markup d)) hline

/-- No keycode below the node has a special character. -/
def PlainKeycodes (node : Node) : Prop :=
  ∀ path below, path ≠ [] → node.descend? path = some below → below.keycode.toList.all isPlain = true

theorem PlainKeycodes.child {node child : Node} (h : PlainKeycodes node) {token : String}
    (hc : node.child? token = some child) : child.keycode.toList.all isPlain = true := by
  refine h [token] child (by simp) ?_
  simp [Node.descend?, hc]

theorem plainKeycodes_leaf (keycode : String) : PlainKeycodes (Node.leaf keycode) := by
  intro path below hne hd
  obtain ⟨token, path, rfl⟩ := List.exists_cons_of_ne_nil hne
  simp [Node.descend?, Node.child_leaf] at hd

theorem plainKeycodes_branch {keycode comment : String} {args : List (String × Node)}
    (h : ∀ arg ∈ args, arg.2.keycode.toList.all isPlain = true ∧ PlainKeycodes arg.2) :
    PlainKeycodes (Node.branch keycode comment args) := by
  intro path below hne hd
  obtain ⟨token, path, rfl⟩ := List.exists_cons_of_ne_nil hne
  rw [Node.descend?, Option.bind_eq_some_iff] at hd
  obtain ⟨child, hc, hd⟩ := hd
  obtain ⟨hplain, hbelow⟩ := h (token, child) (Node.mem_of_child_branch hc)
  cases path with
  | nil =>
    obtain rfl := Option.some.inj hd
    exact hplain
  | cons next path => exact hbelow (next :: path) below (by simp) hd

theorem plain_of_spells {table : Table} {node : Node} {groups : List Group}
    (hs : Spells table node groups)
    (h : ∀ path below, path ≠ [] → node.descend? path = some below →
      below.keycode.toList.all isPlain = true) :
    ∀ group ∈ groups, group.node.keycode.toList.all isPlain = true := by
  induction hs with
  | nil => simp
  | @cons node group groups hsel _ ih =>
    -- A path below the node of the group is one below the node with the token in front.
    have hbelow (path : List String) :
        node.descend? (group.token :: path) = group.node.descend? path := by
      simp [Node.descend?, hsel.child]
    rw [List.forall_mem_cons]
    refine ⟨h [group.token] group.node (by simp) (hbelow []), ih ?_⟩
    intro path below hne hb
    exact h (group.token :: path) below (by simp) (by rw [hbelow, hb])

theorem plain_shiftKeycode {table : Table} (h : PlainKeycodes table.root) (shift : Shift) :
    (table.shiftKeycode shift).toList.all isPlain = true := by
  unfold Table.shiftKeycode
  cases hc : table.root.child? shift.name with
  | none => rfl
  | some node => exact h.child hc

theorem plain_keycodes {table : Table} {words : List String} {r : Resolution}
    (h : PlainKeycodes table.root) (hr : resolve table words = .ok r) :
    ∀ record ∈ r.records, ∀ keycode ∈ record.keycodes, keycode.toList.all isPlain = true := by
  rcases resolve_ok_cases hr with rfl | ⟨groups, rest, hw, ho⟩
  · simp
  · cases ho with
    | command hg hc =>
      intro record hrecord keycode hkeycode
      obtain rfl := List.mem_singleton.mp hrecord
      rcases List.mem_append.mp hkeycode with hk | hk
      · obtain ⟨shift, -, rfl⟩ := List.mem_map.mp hk
        exact plain_shiftKeycode h shift
      · obtain ⟨node, hn, rfl⟩ := List.mem_map.mp hk
        obtain ⟨group, hgroup, rfl⟩ := List.mem_map.mp hn
        exact plain_of_spells hw.spells h group hgroup
    | literal _ _ hl hne =>
      obtain ⟨text, n, -, rfl⟩ := literal_keys hl hne
      intro record hrecord keycode hkeycode
      obtain ⟨token, -, rfl⟩ := List.mem_map.mp hrecord
      rw [Record.key, Option.mem_toList, Option.map_eq_some_iff] at hkeycode
      obtain ⟨node, hnode, rfl⟩ := hkeycode
      exact h.child hnode
    | expression | unknown | missing | invalid => simp

theorem inline_instruction {options : Options} {table : Table} {rest : List String} {record : Record}
    {e : Entry} (h : PlainKeycodes table.root)
    (hk : ∀ keycode ∈ record.keycodes, keycode.toList.all isPlain = true)
    (hs : Shows options table rest record e) (n : Nat) : Inline (e.render n).toList := by
  obtain ⟨codes, remarked, hcodes, -, rfl⟩ := hs
  have hparts : ∀ part ∈ codes, Inline part.toList := by
    intro part hpart
    obtain ⟨keycode, hkeycode, hshow⟩ := exists_of_forall₂ hcodes part hpart
    have hpart := all_showKeycode hshow (hk keycode hkeycode) (fun _ hc => h.child hc) (by decide)
    exact inline_plain part hpart
  have hcolumn : Inline (alignRight (" ".intercalate codes)).toList :=
    inline_append (inline_plain _ (plain_spaces _))
      (inline_intercalate (inline_plain " " (by decide)) hparts)
  have hnumber := (escaped_of_digits (lineNumber_isDigit n)).inline
  have htext := (escaped_recordText options remarked).inline
  exact inline_append (inline_append (inline_append (inline_append (inline_append hnumber
    (inline_plain _ (by decide))) hcolumn) (inline_plain _ (by decide))) htext)
    (inline_plain _ (by decide))

theorem inline_entry {conv : Converter} {words : List String} {r : Resolution} {es : List Entry}
    (h : PlainKeycodes conv.table.root) (hr : resolve conv.table words = .ok r)
    (he : conv.entries r = .ok es) : ∀ e ∈ es, ∀ n, Inline (e.render n).toList := by
  rcases entries_ok he with ⟨d, -, rfl⟩ | ⟨-, hs⟩
  · intro e hmem n
    obtain rfl := List.mem_singleton.mp hmem
    exact inline_report n d
  · intro e hmem n
    obtain ⟨record, hrecord, hshows⟩ := exists_of_forall₂ hs e hmem
    exact inline_instruction h (plain_keycodes h hr record hrecord) hshows n

theorem inline_renderFrom {es : List Entry} (h : ∀ e ∈ es, ∀ n, Inline (e.render n).toList) (n : Nat) :
    Inline (renderFrom n es).toList := by
  induction es generalizing n with
  | nil => exact .nil
  | cons e es ih =>
    rw [renderFrom]
    exact inline_append (h e (by simp) n) (ih (fun e' he' => h e' (by simp [he'])) (n + 1))

/-- The first line of a report shows the words of the statement. -/
theorem report_first_line {d : Diagnostic} (h : ∀ word ∈ d.words, IsWord word.toList) (n : Nat) :
    ((Entry.report d).render n).toList.takeWhile (· != '\n') =
      (escape (" ".intercalate d.words)).toList := by
  have hfeed : '\n' ∉ (escape (" ".intercalate d.words)).toList := by
    intro hm
    have hj := mem_of_mem_escape hm (by decide)
    rw [String.toList_intercalate] at hj
    -- Neither the blanks between the words nor the words have a line feed.
    obtain ⟨part, hpart, hc⟩ := (mem_of_mem_intercalate hj).resolve_left (by decide)
    obtain ⟨word, hword, rfl⟩ := List.mem_map.mp hpart
    have hblank : isBlank '\n' = false := (h word hword).not_blank '\n' hc
    exact absurd hblank (by decide)
  obtain ⟨below, hb⟩ : ∃ below, ((Entry.report d).render n).toList =
      (escape (" ".intercalate d.words)).toList ++ '\n' :: below := by
    rw [Entry.render_report, String.toList_append, reportBelow]
    simp only [String.toList_append, List.append_assoc]
    exact ⟨_, rfl⟩
  have hall : ∀ c ∈ (escape (" ".intercalate d.words)).toList, (c != '\n') = true := by
    intro c hc
    rw [bne_iff_ne]
    rintro rfl
    exact hfeed hc
  rw [hb, List.takeWhile_append_of_pos hall, List.takeWhile_cons_of_neg (by decide), List.append_nil]

/-- If no keycode has a special character, every listing is escaped text and complete spans of escaped text,
and the words at the top of each report can be read back from it. -/
theorem listing_is_markup (conv : Converter) (hkeys : PlainKeycodes conv.table.root)
    (text listing : String) (h : (conv.convert text).listing = .ok listing) :
    Inline listing.toList ∧ ∃ es, conv.listed text = .ok es ∧ listing = renderFrom 1 es ∧
      ∀ d, Entry.report d ∈ es → ∀ n,
        decode (((Entry.report d).render n).toList.takeWhile (· != '\n')) =
          (" ".intercalate d.words).toList := by
  rw [convert_listing_eq] at h
  cases hes : conv.listed text with
  | error fault => simp [hes, Except.map] at h
  | ok es =>
    obtain rfl : renderFrom 1 es = listing := by
      simpa [hes, Except.map, renderFrom_eq_numbered] using h
    have hlisted := hes
    rw [listed_eq_outcome, outcome_ok_iff] at hlisted
    obtain ⟨done, hex, rfl⟩ := hlisted
    refine ⟨inline_renderFrom ?_ 1, _, rfl, rfl, ?_⟩
    · intro e he
      obtain ⟨s, hs, hmem⟩ := List.mem_flatMap.mp he
      obtain ⟨words, hr, hentries⟩ := hex.exists_words s hs
      exact inline_entry hkeys hr hentries e hmem
    · intro d hd n
      obtain ⟨s, hs, hmem⟩ := List.mem_flatMap.mp hd
      obtain ⟨words, -, hentries⟩ := hex.exists_words s hs
      have hdiag : s.resolution.diagnostic = some d := by
        rcases entries_ok hentries with ⟨d', hd', he⟩ | ⟨-, hshows⟩
        · rw [he, List.mem_singleton, Entry.report.injEq] at hmem
          rw [hd', hmem]
        · obtain ⟨keycodes, shown, himp⟩ := instructions_of_shows hshows _ hmem
          simp at himp
      have hwords := (hex.written (isWord_wordLines text) s hs).shown d hdiag
      rw [report_first_line hwords, decode_escape]

theorem plainKeycodes_jump : PlainKeycodes jumpTable.root := by
  have hplain : ∀ keycode ∈ ["11", "22", "42"], keycode.toList.all isPlain = true := by decide
  have hjump : PlainKeycodes (Node.branch "22" "jump" [("A", Node.leaf "11")]) := by
    apply plainKeycodes_branch
    rw [List.forall_mem_singleton]
    exact ⟨hplain "11" (by simp), plainKeycodes_leaf "11"⟩
  apply plainKeycodes_branch
  rw [List.forall_mem_cons, List.forall_mem_singleton]
  exact ⟨⟨hplain "42" (by simp), plainKeycodes_leaf "42"⟩, hplain "22" (by simp), hjump⟩

set_option maxRecDepth 20000 in
theorem listing_is_markup_jump :
    PlainKeycodes jumpTable.root ∧ ∃ listing,
      (jumpConverter.convert "go to <b&").listing = .ok listing ∧
      listing = "go to &lt;b&amp;\n      <span class=\"MCerror\">⮤ Error in line 001 </span>\n" ++
        "The 1st argument is invalid: <span class=\"MCargument\">&lt;B&amp;</span> is not a " ++
        "parameter of <span class=\"MCcommand\">GTO</span>.\nValid parameters are:\n" ++
        "<span class=\"MCargument\">A</span>\n\n" ∧ Inline listing.toList := by
  have hmarkup := listing_is_markup jumpConverter plainKeycodes_jump "go to <b&" _ rfl
  exact ⟨plainKeycodes_jump, _, rfl, rfl, hmarkup.1⟩

end Keystroke.Listing
