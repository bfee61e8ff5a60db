import Keystroke.Proofs.Checked
import Keystroke.Proofs.Numbering

/-! When a conversion breaks off. A conversion that checks every position, every slice and every key it looks
up gives the same listings, and it fails in two cases only: the next statement is a shortcut that leaves no
words, or a dotted keycode is to be shown on a keypad without a decimal point key. The HP-15C has neither. -/
namespace Keystroke.Listing

open Keystroke.Command Keystroke.Statement Keystroke.Text

namespace Checked

open Keystroke.Statement.Checked

/-- A keycode as it is shown. -/
def showKeycode? (options : Options) (table : Table) (keycode : String) : Option String :=
  if !options.simulator || keycode.utf8ByteSize < 2 then some keycode
  else
    keycode.toList[0]?.bind fun first =>
      if first ≠ '.' then some keycode
      else
        (table.root.child? ".").bind fun point =>
          (from? keycode.toList 1).map fun rest => point.keycode ++ "  " ++ String.ofList rest

/-- The line of an instruction with number `n`. -/
def recordLine? (options : Options) (table : Table) (record : Record) (n : Nat) : Option String :=
  (record.keycodes.mapM (showKeycode? options table)).map fun codes =>
    (Entry.instruction (" ".intercalate codes) (recordText options record)).render n

/-- The report of a diagnostic with number `n`. -/
def reportLines? (d : Diagnostic) (n : Nat) : Option String :=
  (before? d.words (min d.used d.words.length)).map fun read =>
    Markup.escape (" ".intercalate d.words) ++ "\n"
      ++ String.join (read.map fun word => Text.blank word ++ " ")
      ++ Markup.error ("⮤ Error in line " ++ lineNumber n ++ " ") ++ "\n" ++ d.markup ++ "\n"

/-- Instructions with remarks on the last one. -/
def withRemarks? (conv : Converter) (rest : List String) (records : List Record) :
    Option (List Record) :=
  if conv.options.onePerLine && rest.length ≠ 0 then
    records[records.length - 1]?.map fun last =>
      records.set (records.length - 1) { last with remarks := " ".intercalate rest }
  else some records

/-- A listing as far as it is written, and the number of its last entry. -/
structure Page where
  text : String := ""
  count : Nat := 0

/-- A page with one more entry. -/
def Page.add? (page : Page) (write : Nat → Option String) : Option Page :=
  (write (page.count + 1)).map fun text => ⟨page.text ++ text, page.count + 1⟩

/-- Lists what was read. -/
def list? (conv : Converter) (page : Page) (r : Resolution) : Option Page :=
  match r.diagnostic with
  | some d => page.add? (reportLines? d)
  | none =>
    if r.records.length ≠ 0 then
      (withRemarks? conv r.rest r.records).bind fun records =>
        records.foldlM (fun page record => page.add? (recordLine? conv.options conv.table record)) page
    else some page

/-- Lists the statements of a line, of which there are no more than `fuel`. -/
def line? (conv : Converter) : Nat → Page → List String → Option Page
  | 0, page, words => if words.length = 0 then some page else none
  | fuel + 1, page, words =>
    if words.length = 0 then some page
    else
      (resolve? conv.table words).bind fun r =>
        (list? conv page r).bind fun page =>
          if conv.options.onePerLine then some page
          else
            (if words.length ≤ r.rest.length then from? words 1 else some r.rest).bind
              (line? conv fuel page)

/-- Converts a program text into a listing. -/
def convert? (conv : Converter) (text : String) : Option String :=
  ((wordLines text).foldlM (fun page words => line? conv words.length page words) {}).map Page.text

theorem showKeycode?_eq (options : Options) (table : Table) (keycode : String) :
    showKeycode? options table keycode = (showKeycode options table keycode).toOption := by
  unfold showKeycode? showKeycode isDotted
  by_cases hs : options.simulator = true
  · by_cases hsize : keycode.utf8ByteSize < 2
    · simp [hs, hsize, Nat.not_le.mpr hsize, Except.toOption]
    · -- Two bytes are at least one character.
      obtain ⟨first, rest, hk⟩ : ∃ first rest, keycode.toList = first :: rest := by
        apply List.exists_cons_of_ne_nil
        intro hnil
        rw [String.toList_eq_nil_iff] at hnil
        simp [hnil] at hsize
      have htwo : 2 ≤ keycode.utf8ByteSize := by omega
      by_cases hp : first = '.'
      · have hrest : from? ('.' :: rest) 1 = some rest := from?_eq (by simp)
        cases table.root.child? "." <;> simp [hs, hsize, htwo, hk, hp, hrest, Except.toOption]
      · simp [hs, hsize, hk, hp, Except.toOption]
  · simp [hs, Except.toOption]

theorem mapM_toOption {α β ε : Type} {f : α → Except ε β} {g : α → Option β}
    (h : ∀ x, g x = (f x).toOption) (xs : List α) : xs.mapM g = (xs.mapM f).toOption := by
  induction xs with
  | nil => rfl
  | cons x xs ih =>
    rw [List.mapM_cons, List.mapM_cons, h x, ih]
    cases f x with
    | error e => rfl
    | ok y => cases xs.mapM f <;> rfl

theorem recordLine?_eq (options : Options) (table : Table) (record : Record) (n : Nat) :
    recordLine? options table record n =
      (Entry.ofRecord options table record).toOption.map (Entry.render n) := by
  rw [recordLine?, mapM_toOption (showKeycode?_eq options table), ← showKeycodes_eq_mapM,
    Entry.ofRecord]
  cases showKeycodes options table record.keycodes <;> rfl

theorem reportLines?_eq (d : Diagnostic) (n : Nat) : reportLines? d n = some (reportText n d) := by
  have htake : before? d.words (min d.used d.words.length) = some (d.words.take d.used) := by
    rw [before?_eq (Nat.min_le_right _ _), ← List.take_eq_take_min]
  rw [reportLines?, htake]
  rfl

theorem withRemarks_append (conv : Converter) {rest : List String} (records : List Record)
    (last : Record) (h : (conv.options.onePerLine && !rest.isEmpty) = true) :
    conv.withRemarks rest (records ++ [last]) =
      records ++ [{ last with remarks := " ".intercalate rest }] := by
  induction records with
  | nil => simp [Converter.withRemarks, h]
  | cons record records ih =>
    rw [List.cons_append, Converter.withRemarks, ih, List.cons_append]
    simp

theorem withRemarks?_eq (conv : Converter) (rest : List String) {records : List Record}
    (h : records ≠ []) : withRemarks? conv rest records = some (conv.withRemarks rest records) := by
  unfold withRemarks?
  by_cases ho : (conv.options.onePerLine && !rest.isEmpty) = true
  · rw [if_pos (by simpa using ho)]
    -- The last record is the only one that changes.
    obtain ⟨front, last, rfl⟩ : ∃ front last, records = front ++ [last] :=
      ⟨_, _, (List.dropLast_append_getLast h).symm⟩
    rw [withRemarks_append conv front last ho]
    simp
  · rw [if_neg (by simpa using ho), withRemarks_eq (by simpa using ho)]

/-- A page with more entries. -/
def Page.append (page : Page) (es : List Entry) : Page :=
  ⟨page.text ++ renderFrom (page.count + 1) es, page.count + es.length⟩

theorem Page.append_nil (page : Page) : page.append [] = page := by
  simp [Page.append, renderFrom]

theorem Page.append_append (page : Page) (es es' : List Entry) :
    (page.append es).append es' = page.append (es ++ es') := by
  simp only [Page.append, renderFrom_append, String.append_assoc, List.length_append, Page.mk.injEq]
  exact ⟨by congr 3; omega, by omega⟩

theorem Page.append_singleton (page : Page) (e : Entry) :
    page.append [e] = ⟨page.text ++ e.render (page.count + 1), page.count + 1⟩ := by
  simp [Page.append, renderFrom]

theorem foldlM_recordLine? (conv : Converter) (page : Page) (records : List Record) :
    records.foldlM (fun page record => page.add? (recordLine? conv.options conv.table record)) page =
      (Entry.ofRecords conv.options conv.table records).toOption.map page.append := by
  induction records generalizing page with
  | nil =>
    simp [Entry.ofRecords, Except.toOption, Page.append_nil]
  | cons record records ih =>
    rw [List.foldlM_cons, Page.add?, recordLine?_eq, Entry.ofRecords]
    cases Entry.ofRecord conv.options conv.table record with
    | error fault => rfl
    | ok e =>
      have hstep : (⟨page.text ++ e.render (page.count + 1), page.count + 1⟩ : Page) =
          page.append [e] := (page.append_singleton e).symm
      simp only [Except.toOption, Option.map_some, Option.bind_eq_bind, Option.bind_some, hstep, ih]
      cases Entry.ofRecords conv.options conv.table records with
      | error fault => rfl
      | ok es => simp [Page.append_append]

theorem list?_eq (conv : Converter) (page : Page) (r : Resolution) :
    list? conv page r = (conv.entries r).toOption.map page.append := by
  unfold list? Converter.entries
  cases r.diagnostic with
  | some d =>
    simp only [Page.add?, reportLines?_eq, Option.map_some, Except.toOption, Page.append_singleton]
    rfl
  | none =>
    by_cases hr : r.records = []
    · simp [hr, Converter.withRemarks, Entry.ofRecords, Except.toOption, Page.append_nil]
    · simp only
      rw [if_pos (by simpa using hr), withRemarks?_eq conv r.rest hr, Option.bind_some,
        foldlM_recordLine?]

theorem next?_eq {conv : Converter} {words : List String} (h : words ≠ []) (r : Resolution)
    (ho : conv.options.onePerLine = false) :
    (if words.length ≤ r.rest.length then from? words 1 else some r.rest) =
      some (conv.next words r) := by
  have htail : from? words 1 = some words.tail := by
    rw [from?_eq (List.length_pos_of_ne_nil h), List.drop_one]
  rw [Converter.next, ho, htail]
  by_cases hlong : words.length ≤ r.rest.length <;> simp [hlong]

theorem append_collect_cons (page : Page) (es : List Entry) (rest : List (Except Fault (List Entry))) :
    (collect (.ok es :: rest)).toOption.map page.append =
      (collect rest).toOption.map (page.append es).append := by
  rw [collect]
  cases collect rest with
  | error fault => rfl
  | ok others => simp [Except.map, Except.toOption, Page.append_append]

theorem line?_nil (conv : Converter) (fuel : Nat) (page : Page) :
    line? conv fuel page [] = some page := by
  cases fuel <;> simp [line?]

theorem append_lineResults_nil (conv : Converter) (page : Page) :
    (collect (conv.lineResults [])).toOption.map page.append = some page := by
  simp [Converter.lineResults, lineSteps_nil, collect, Except.toOption, Page.append_nil]

/-- A line never has more statements than words, and lists what its statements give. -/
theorem line?_eq (conv : Converter) {fuel : Nat} (page : Page) {words : List String}
    (hf : words.length ≤ fuel) :
    line? conv fuel page words = (collect (conv.lineResults words)).toOption.map page.append := by
  induction fuel generalizing words page with
  | zero =>
    obtain rfl : words = [] := List.eq_nil_of_length_eq_zero (by omega)
    rw [line?_nil, append_lineResults_nil]
  | succ fuel ih =>
    by_cases hw : words = []
    · rw [hw, line?_nil, append_lineResults_nil]
    · rw [line?, if_neg (by simpa using hw), resolve?_eq, lineResults_eq conv hw]
      cases resolve conv.table words with
      | error fault => rfl
      | ok r =>
        have hlt := next_length_lt conv hw r
        have hsome : (Except.ok r : Except Fault Resolution).toOption = some r := rfl
        dsimp only
        rw [hsome, Option.bind_some, list?_eq]
        cases conv.entries r with
        | error fault => rfl
        | ok es =>
          have hpage : (Except.ok es : Except Fault (List Entry)).toOption.map page.append =
              some (page.append es) := rfl
          rw [append_collect_cons, hpage, Option.bind_some]
          by_cases ho : conv.options.onePerLine = true
          · have hnext : conv.next words r = [] := by rw [Converter.next, if_pos ho]
            rw [if_pos ho, hnext, append_lineResults_nil]
          · rw [if_neg ho, next?_eq hw r (by simpa using ho), Option.bind_some, ih _ (by omega)]

theorem lines?_eq (conv : Converter) (page : Page) (ls : List (List String)) :
    ls.foldlM (fun page words => line? conv words.length page words) page =
      (conv.outcome ls).toOption.map page.append := by
  induction ls generalizing page with
  | nil => simp [Converter.outcome, collect, Except.toOption, Page.append_nil]
  | cons words ls ih =>
    rw [List.foldlM_cons, line?_eq conv page le_rfl, Converter.outcome, List.flatMap_cons, collect_append]
    cases collect (conv.lineResults words) with
    | error fault => rfl
    | ok es =>
      simp only [Except.toOption, Option.map_some, Option.bind_eq_bind, Option.bind_some, ih]
      rw [Converter.outcome]
      cases collect (ls.flatMap conv.lineResults) with
      | error fault => rfl
      | ok others => simp [Except.bind, Except.map, Page.append_append]

/-- Every check of a conversion succeeds unless the conversion breaks off. -/
theorem convert?_eq (conv : Converter) (text : String) :
    convert? conv text = (conv.convert text).listing.toOption := by
  rw [convert?, lines?_eq, convert_listing_eq, listed_eq_outcome]
  cases conv.outcome (wordLines text) with
  | error fault => rfl
  | ok es => simp [Except.map, Except.toOption, Page.append, ← renderFrom_eq_numbered]

end Checked

/-- A shortcut for no words, with no words behind it. -/
inductive Vanishes (table : Table) : List String → Prop
  | one {word phrase : String} : table.shortcut? (fold word) = some phrase → words phrase = [] →
    Vanishes table [word]
  | two {first second phrase : String} : table.shortcut? (fold first) = none →
    table.shortcut? (fold (first ++ " " ++ second)) = some phrase → words phrase = [] →
    Vanishes table [first, second]

theorem vanishes_iff (table : Table) (statement : List String) :
    Vanishes table statement ↔ statement ≠ [] ∧ table.expand statement = [] := by
  constructor
  · intro h
    cases h with
    | one hs hp => simp [Table.expand, Table.expand?, hs, hp]
    | two hone htwo hp => simp [Table.expand, Table.expand?, hone, htwo, hp]
  · rintro ⟨hne, he⟩
    rcases statement with _ | ⟨first, _ | ⟨second, others⟩⟩
    · exact absurd rfl hne
    · cases hs : table.shortcut? (fold first) with
      | none => simp [Table.expand, Table.expand?, hs] at he
      | some phrase => exact .one hs (by simpa [Table.expand, Table.expand?, hs] using he)
    · cases hs : table.shortcut? (fold first) with
      | some phrase => simp [Table.expand, Table.expand?, hs] at he
      | none =>
        cases hp : table.shortcut? (fold (first ++ " " ++ second)) with
        | none => simp [Table.expand, Table.expand?, hs, hp] at he
        | some phrase =>
          obtain ⟨hphrase, rfl⟩ : words phrase = [] ∧ others = [] := by
            simpa [Table.expand, Table.expand?, hs, hp] using he
          exact .two hs hp hphrase

/-- Why a conversion breaks off at words: what is left of them is a shortcut for no words, or an instruction
read from them has a dotted keycode that cannot be shown. -/
inductive BreaksOff (conv : Converter) (words : List String) : Fault → Prop
  | shortcut : Vanishes conv.table (dropShift words) → BreaksOff conv words .emptyStatement
  | keycode {r : Resolution} {record : Record} {keycode : String} :
    resolve conv.table words = .ok r → r.diagnostic = none → record ∈ r.records →
    keycode ∈ record.keycodes → NotShown conv.options conv.table keycode →
    BreaksOff conv words .noPointKey

theorem halts_iff (conv : Converter) (words : List String) (ls : List (List String)) (fault : Fault) :
    Halts conv (words :: ls) fault ↔ BreaksOff conv words fault := by
  constructor
  · intro h
    cases h with
    | reading _ hr =>
      obtain ⟨rfl, hv⟩ := (resolve_error_iff conv.table words fault).mp hr
      exact .shortcut ((vanishes_iff _ _).mpr hv)
    | @listing _ r _ _ hr he =>
      obtain ⟨rfl, hd, record, hrecord, keycode, hkeycode, hn⟩ :=
        (entries_error_iff conv r fault).mp he
      exact .keycode hr hd hrecord hkeycode hn
  · intro h
    cases h with
    | shortcut hv =>
      exact .reading ls ((resolve_error_iff _ _ _).mpr ⟨rfl, (vanishes_iff _ _).mp hv⟩)
    | keycode hr hd hrecord hkeycode hn =>
      exact .listing ls hr ((entries_error_iff _ _ _).mpr ⟨rfl, hd, _, hrecord, _, hkeycode, hn⟩)

theorem listing_error_iff (conv : Converter) (text : String) (fault : Fault) :
    (conv.convert text).listing = .error fault ↔
      ∃ done words ls, Execution conv (wordLines text) done (words :: ls) ∧
        BreaksOff conv words fault := by
  have hlisted : (conv.convert text).listing = .error fault ↔
      conv.outcome (wordLines text) = .error fault := by
    rw [convert_listing_eq, listed_eq_outcome]
    cases conv.outcome (wordLines text) <;> simp [Except.map]
  rw [hlisted, outcome_error_iff]
  constructor
  · rintro ⟨done, out, hex, hhalt⟩
    cases out with
    | nil => cases hhalt
    | cons words ls => exact ⟨done, words, ls, hex, (halts_iff conv words ls fault).mp hhalt⟩
  · rintro ⟨done, words, ls, hex, hb⟩
    exact ⟨done, words :: ls, hex, (halts_iff conv words ls fault).mpr hb⟩

-- A shortcut for no words breaks off a conversion only at the end of a line.
set_option maxRecDepth 20000 in
example :
    let conv : Converter := { table := Table.build (Node.branch "" "" []) [] [⟨"nop", " "⟩] [] }
    (conv.convert "nop").listing = .error .emptyStatement ∧
      (conv.convert "nop 1").listing = .ok "001 \x7b             \x7d 1\n" :=
  ⟨rfl, rfl⟩

-- A dotted keycode breaks off a conversion for a simulator.
set_option maxRecDepth 20000 in
example :
    let table := Table.build (Node.branch "" "" [("R", Node.leaf ".5")]) [⟨"r", "R"⟩] [] []
    (Converter.convert { table := table, options := { simulator := true } } "r").listing =
        .error .noPointKey ∧
      (Converter.convert { table := table } "r").listing = .ok "001 \x7b          .5 \x7d R\n" :=
  ⟨rfl, rfl⟩

theorem standard_not_breaksOff {conv : Converter} (h : conv.table = Table.standard)
    (words : List String) (fault : Fault) : ¬ BreaksOff conv words fault := by
  intro hb
  cases hb with
  | shortcut hv =>
    rw [h, vanishes_iff] at hv
    exact standard_expand_ne_nil hv.1 hv.2
  | keycode hr hd hrecord hkeycode hn =>
    have hpoint := hn.no_point
    rw [h, show Table.standard.root = standardRoot from rfl, standardRoot, Node.child_branch] at hpoint
    cases hpoint

theorem standard_listing_ok {conv : Converter} (h : conv.table = Table.standard) (text : String) :
    ∃ listing, (conv.convert text).listing = .ok listing := by
  cases hlisting : (conv.convert text).listing with
  | ok listing => exact ⟨listing, rfl⟩
  | error fault =>
    obtain ⟨_, words, _, -, hbreaks⟩ := (listing_error_iff conv text fault).mp hlisting
    exact absurd hbreaks (standard_not_breaksOff h words fault)

/-- With every access checked, a conversion gives the same listing, and it breaks off exactly when it comes
to words that vanish or to a dotted keycode that cannot be shown. On the HP-15C it never does. -/
theorem convert_breaks_off_iff :
    (∀ (conv : Converter) (text : String),
      Checked.convert? conv text = (conv.convert text).listing.toOption ∧
      (Checked.convert? conv text = none ↔
        ∃ done words ls fault, Execution conv (wordLines text) done (words :: ls) ∧
          BreaksOff conv words fault)) ∧
    ∀ (options : Options) (verbose : Bool) (text : String), ∃ listing,
      Checked.convert? { table := Table.standard, options := options, verbose := verbose } text =
        some listing := by
  have hnone (conv : Converter) (text : String) : Checked.convert? conv text = none ↔
      ∃ done words ls fault, Execution conv (wordLines text) done (words :: ls) ∧
        BreaksOff conv words fault := by
    rw [Checked.convert?_eq]
    constructor
    · intro h
      cases hl : (conv.convert text).listing with
      | ok listing => simp [hl, Except.toOption] at h
      | error fault =>
        obtain ⟨done, words, ls, hex, hb⟩ := (listing_error_iff conv text fault).mp hl
        exact ⟨done, words, ls, fault, hex, hb⟩
    · rintro ⟨done, words, ls, fault, hex, hb⟩
      rw [(listing_error_iff conv text fault).mpr ⟨done, words, ls, hex, hb⟩]
      rfl
  refine ⟨fun conv text => ⟨Checked.convert?_eq conv text, hnone conv text⟩, ?_⟩
  intro options verbose text
  apply Option.ne_none_iff_exists'.mp
  intro h
  obtain ⟨_, words, _, fault, -, hb⟩ := (hnone _ text).mp h
  exact standard_not_breaksOff rfl words fault hb

end Keystroke.Listing
