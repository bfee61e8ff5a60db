import Keystroke.Proofs.DocumentKeys
import Keystroke.Proofs.Lookup
import Keystroke.Settings
import Mathlib.Data.List.Forall2

/-! Applying a text to settings, in whatever order. A text that is no document changes nothing. A document changes only
the settings that it names. It is accepted if it names nothing else and all its values have the right types, and what
has the right type is applied even if there are other names. -/
namespace Keystroke.Settings

open Keystroke.Listing Keystroke.Toml

section Names

theorem isName_unique {a b name : String} (ha : isName a name) (hb : isName b name) : a = b := by
  rw [isName, beq_iff_eq] at ha hb
  exact String.toList_inj.mp (ha.symm.trans hb)

theorem find_isName_iff {α : Type} {label : α → String} (hinjective : ∀ a b, label a = label b → a = b) {l : List α}
    {a : α} (ha : a ∈ l) (name : String) :
    l.find? (fun b => isName (label b) name) = some a ↔ isName (label a) name := by
  constructor
  · exact List.find?_some (p := fun b => isName (label b) name)
  · intro h
    exact Command.find_of_unique ha h fun b hb => hinjective b a (isName_unique hb h)

theorem Choice.ofName_eq_some_iff {name : String} {choice : Choice} :
    Choice.ofName? name = some choice ↔ isName choice.name name := by
  have hinjective (a b : Choice) : a.name = b.name → a = b := by cases a <;> cases b <;> decide
  have hmem : choice ∈ [simulator, shiftKey, onePerLine] := by cases choice <;> decide
  exact find_isName_iff hinjective hmem name

theorem Part.ofName_eq_some_iff {name : String} {part : Part} :
    Part.ofName? name = some part ↔ isName part.name name := by
  have hinjective (a b : Part) : a.name = b.name → a = b := by cases a <;> cases b <;> decide
  have hmem : part ∈ [locale, verbose, listing] := by cases part <;> decide
  exact find_isName_iff hinjective hmem name

end Names

def Choice.valueIn (options : Options) : Choice → Bool
  | simulator => options.simulator
  | shiftKey => options.shiftKey
  | onePerLine => options.onePerLine

theorem Choice.valueIn_set (choice given : Choice) (b : Bool) (options : Options) :
    choice.valueIn (given.set b options) = if choice = given then b else choice.valueIn options := by
  cases choice <;> cases given <;> rfl

/-- One of the settings. -/
inductive Setting where
  | locale
  | verbose
  | listing (choice : Choice)

namespace Setting

/-- Where a setting stands in documents. -/
def path : Setting → List String
  | locale => [Part.locale.name]
  | verbose => [Part.verbose.name]
  | listing choice => [Part.listing.name, choice.name]

/-- The value of a setting as documents have it. -/
def valueIn (settings : Settings) : Setting → Value
  | locale => .array (settings.locale.map .text)
  | verbose => .bool settings.verbose
  | listing choice => .bool (choice.valueIn settings.listing)

end Setting

/-- A key has the names of a path, in letters of any case. -/
def Names (path : List String) (key : Key) : Prop :=
  List.Forall₂ (fun setting name => isName setting name) path key

/-- The key of a setting, or of the table of listings. -/
def Known (key : Key) : Prop :=
  (∃ setting : Setting, Names setting.path key) ∨ Names [Part.listing.name] key

/-- A table has a value at a key that has the names of a path. -/
def HoldsNamed (members : Members) (path : List String) (value : Value) : Prop :=
  ∃ key, Names path key ∧ Holds members key value

/-- Values at the keys of settings are such that the settings can have, and listings have a table. -/
structure WellTyped (members : Members) : Prop where
  setting : ∀ (setting : Setting) value, HoldsNamed members setting.path value → ∃ other, value = setting.valueIn other
  listing : ∀ value, HoldsNamed members [Part.listing.name] value → value.IsTable

/-- No two keys name one setting. -/
def NamesOnce (keys : List Key) : Prop :=
  ∀ (setting : Setting) (key other : Key), key ∈ keys → other ∈ keys →
    Names setting.path key → Names setting.path other → key = other

section Runs

variable {σ α β ε : Type}

/-- Takes steps up to the first that fails. -/
def runUntil (step : α → σ → σ × Option ε) : List α → σ → σ × Option ε
  | [], s => (s, none)
  | a :: rest, s =>
    match step a s with
    | (s, some error) => (s, some error)
    | (s, none) => runUntil step rest s

variable {step : α → σ → σ × Option ε} {l : List α} {s : σ} {f : σ → β}

/-- What no step changes stays as it is, also if a step fails. -/
theorem runUntil_keeps (h : ∀ a ∈ l, ∀ s, f (step a s).1 = f s) : f (runUntil step l s).1 = f s := by
  induction l generalizing s with
  | nil => rfl
  | cons a rest ih =>
    obtain ⟨hfirst, hrest⟩ := List.forall_mem_cons.mp h
    have hstep := hfirst s
    rw [runUntil]
    split
    · rename_i hresult
      rwa [hresult] at hstep
    · rename_i hresult
      rw [hresult] at hstep
      exact (ih hrest).trans hstep

theorem runUntil_eq_none_iff {ok : α → Prop} (h : ∀ a ∈ l, ∀ s, (step a s).2 = none ↔ ok a) :
    (runUntil step l s).2 = none ↔ ∀ a ∈ l, ok a := by
  induction l generalizing s with
  | nil => simp [runUntil]
  | cons a rest ih =>
    obtain ⟨hfirst, hrest⟩ := List.forall_mem_cons.mp h
    have hstep := hfirst s
    rw [runUntil, List.forall_mem_cons]
    split
    · rename_i hresult
      rw [hresult] at hstep
      have hnot : ¬ ok a := fun hok => nomatch hstep.mpr hok
      simp [hnot]
    · rename_i hresult
      rw [hresult] at hstep
      rw [ih hrest]
      exact (and_iff_right (hstep.mp rfl)).symm

/-- After a run that does not fail, a part of the state is what one of the steps gives, or as before if none does. -/
theorem runUntil_takes {gives : α → β → Prop} (hkeeps : ∀ a s, (∀ b, ¬ gives a b) → f (step a s).1 = f s)
    (htakes : ∀ a ∈ l, ∀ s, (∃ b, gives a b) → (step a s).2 = none → gives a (f (step a s).1))
    (hnone : (runUntil step l s).2 = none) :
    (∃ a ∈ l, gives a (f (runUntil step l s).1)) ∨
      (∀ a ∈ l, ∀ b, ¬ gives a b) ∧ f (runUntil step l s).1 = f s := by
  induction l generalizing s with
  | nil => exact .inr ⟨by simp, rfl⟩
  | cons a rest ih =>
    obtain ⟨hfirst, hrest⟩ := List.forall_mem_cons.mp htakes
    rw [runUntil] at hnone ⊢
    cases hresult : step a s with
    | mk s' error =>
      cases error with
      | some error => simp [hresult] at hnone
      | none =>
        rw [hresult] at hnone
        have hstep := hfirst s
        have hkeep := hkeeps a s
        rw [hresult] at hstep hkeep
        rcases ih hrest hnone with ⟨a', ha', hgives⟩ | ⟨hnothing, hsame⟩
        · exact .inl ⟨a', List.mem_cons_of_mem a ha', hgives⟩
        -- The later steps leave what the first one has left.
        dsimp only
        rw [hsame]
        by_cases hgives : ∃ b, gives a b
        · exact .inl ⟨a, List.mem_cons_self, hstep hgives rfl⟩
        · rw [not_exists] at hgives
          exact .inr ⟨List.forall_mem_cons.mpr ⟨hgives, hnothing⟩, hkeep hgives⟩

end Runs

section Named

variable {members : Members} {path : List String} {setting next name : String} {value v : Value}

theorem holds_iff_exists {key : Key} : Holds members key v ↔ ∃ member ∈ members, Holds [member] key v := by
  constructor
  · intro h
    cases h with
    | @here _ name _ hmem => exact ⟨(name, v), hmem, .here (List.mem_singleton_self _)⟩
    | @inside _ inner name _ _ hmem hinner =>
      exact ⟨(name, .table inner), hmem, .inside (List.mem_singleton_self _) hinner⟩
  · rintro ⟨member, hmem, h⟩
    cases h with
    | here hone =>
      obtain rfl := List.mem_singleton.mp hone
      exact .here hmem
    | inside hone hinner =>
      obtain rfl := List.mem_singleton.mp hone
      exact .inside hmem hinner

theorem holdsNamed_iff_exists : HoldsNamed members path v ↔ ∃ member ∈ members, HoldsNamed [member] path v := by
  constructor
  · rintro ⟨key, hnames, hholds⟩
    obtain ⟨member, hmem, hone⟩ := holds_iff_exists.mp hholds
    exact ⟨member, hmem, key, hnames, hone⟩
  · rintro ⟨member, hmem, key, hnames, hone⟩
    exact ⟨key, hnames, holds_iff_exists.mpr ⟨member, hmem, hone⟩⟩

theorem not_holdsNamed_nil : ¬ HoldsNamed [] path v := by
  rw [holdsNamed_iff_exists]
  simp

theorem holdsNamed_here_iff : HoldsNamed [(name, value)] [setting] v ↔ isName setting name ∧ value = v := by
  constructor
  · rintro ⟨key, hnames, hholds⟩
    cases hnames with
    | cons hname hnil =>
      cases hnil
      cases hholds with
      | here hmem =>
        obtain ⟨rfl, rfl⟩ := Prod.mk.inj (List.mem_singleton.mp hmem)
        exact ⟨hname, rfl⟩
      | inside _ hinner => cases hinner
  · rintro ⟨hname, rfl⟩
    exact ⟨[name], .cons hname .nil, .here (List.mem_singleton_self _)⟩

theorem holdsNamed_inside_iff : HoldsNamed [(name, value)] (setting :: next :: path) v ↔
    isName setting name ∧ ∃ inner, value = .table inner ∧ HoldsNamed inner (next :: path) v := by
  constructor
  · rintro ⟨key, hnames, hholds⟩
    cases hnames with
    | cons hname hnext =>
      cases hholds with
      | here _ => cases hnext
      | inside hmem hinner =>
        obtain ⟨rfl, rfl⟩ := Prod.mk.inj (List.mem_singleton.mp hmem)
        exact ⟨hname, _, rfl, _, hnext, hinner⟩
  · rintro ⟨hname, inner, rfl, key, hnext, hinner⟩
    exact ⟨name :: key, .cons hname hnext, .inside (List.mem_singleton_self _) hinner⟩

/-- The order in which members are applied does not matter for what a table holds. -/
theorem holdsNamed_arrange (order : Order) (key : Key) :
    HoldsNamed (order.arrange key members) path v ↔ HoldsNamed members path v := by
  have hmembers : HoldsNamed members path v ↔ _ := holdsNamed_iff_exists
  rw [holdsNamed_iff_exists, hmembers]
  simp only [(order.perm key members).mem_iff]

theorem wellTyped_iff_forall : WellTyped members ↔ ∀ member ∈ members, WellTyped [member] := by
  constructor
  · intro h member hmem
    exact ⟨fun setting value hone => h.setting setting value (holdsNamed_iff_exists.mpr ⟨member, hmem, hone⟩),
      fun value hone => h.listing value (holdsNamed_iff_exists.mpr ⟨member, hmem, hone⟩)⟩
  · intro h
    constructor
    · intro setting value hholds
      obtain ⟨member, hmem, hone⟩ := holdsNamed_iff_exists.mp hholds
      exact (h member hmem).setting setting value hone
    · intro value hholds
      obtain ⟨member, hmem, hone⟩ := holdsNamed_iff_exists.mp hholds
      exact (h member hmem).listing value hone

end Named

section Applying

variable {σ ε : Type}

/-- Steps over the members of a table put a value at a path into a part `f` of the state. They leave that part as it is
if there is no value there but a table. -/
structure Applies (step : String × Value → σ → σ × Option ε) (f : σ → Value) (path : List String) : Prop where
  keeps : ∀ member s, (∀ v, HoldsNamed [member] path v → v.IsTable) → f (step member s).1 = f s
  takes : ∀ member s, (∃ v, HoldsNamed [member] path v) → (∀ v, HoldsNamed [member] path v → ∃ s', v = f s') →
    (step member s).2 = none → HoldsNamed [member] path (f (step member s).1)

variable {step : String × Value → σ → σ × Option ε} {f : σ → Value} {path : List String} {members : Members} {s : σ}

theorem Applies.run_keeps (h : Applies step f path) (htable : ∀ v, HoldsNamed members path v → v.IsTable) :
    f (runUntil step members s).1 = f s := by
  apply runUntil_keeps
  intro member hmem s
  exact h.keeps member s fun v hone => htable v (holdsNamed_iff_exists.mpr ⟨member, hmem, hone⟩)

theorem Applies.run_takes (h : Applies step f path) (htyped : ∀ v, HoldsNamed members path v → ∃ s', v = f s')
    (hnone : (runUntil step members s).2 = none) : HoldsNamed members path (f (runUntil step members s).1) ∨
      (∀ v, ¬ HoldsNamed members path v) ∧ f (runUntil step members s).1 = f s := by
  have hruns : (∃ member ∈ members, HoldsNamed [member] path (f (runUntil step members s).1)) ∨
      (∀ member ∈ members, ∀ v, ¬ HoldsNamed [member] path v) ∧ f (runUntil step members s).1 = f s := by
    refine runUntil_takes ?_ ?_ hnone
    · exact fun member s hnothing => h.keeps member s fun v hv => absurd hv (hnothing v)
    · intro member hmem s hgives
      exact h.takes member s hgives fun v hone => htyped v (holdsNamed_iff_exists.mpr ⟨member, hmem, hone⟩)
  rcases hruns with hholds | ⟨hnothing, hsame⟩
  · exact .inl (holdsNamed_iff_exists.mpr hholds)
  · refine .inr ⟨fun v hv => ?_, hsame⟩
    obtain ⟨member, hmem, hone⟩ := holdsNamed_iff_exists.mp hv
    exact hnothing member hmem v hone

end Applying

section Listings

variable {document : Document} {outer : String} {members : Members} {options : Options} {choice : Choice}

/-- Applies one member of the table of listings. -/
def listingStep (document : Document) (outer : String) (member : String × Value) (options : Options) :
    Options × Option TypeError :=
  match Choice.ofName? member.1, member.2 with
  | none, _ => (options, none)
  | some choice, .bool b => (choice.set b options, none)
  | some _, value =>
    (options, some ⟨[outer, member.1], document.lineOf [outer, member.1], .incompatible value.kindName "boolean"⟩)

theorem decodeListing_eq_runUntil :
    decodeListing document outer members options = runUntil (listingStep document outer) members options := by
  induction members generalizing options with
  | nil => rfl
  | cons member rest ih =>
    obtain ⟨name, value⟩ := member
    rw [decodeListing, runUntil, listingStep]
    cases hname : Choice.ofName? name with
    | none => exact ih
    | some choice =>
      cases value with
      | bool b => exact ih
      | _ => rfl

theorem listingStep_applies (document : Document) (outer : String) (choice : Choice) :
    Applies (listingStep document outer) (fun options => .bool (choice.valueIn options)) [choice.name] := by
  constructor
  · rintro ⟨name, value⟩ options htable
    rw [listingStep]
    split
    · rfl
    · rename_i given b hname hvalue
      obtain rfl : value = .bool b := hvalue
      have hother : choice ≠ given := by
        rintro rfl
        obtain ⟨inner, hinner⟩ := htable _ (holdsNamed_here_iff.mpr ⟨Choice.ofName_eq_some_iff.mp hname, rfl⟩)
        cases hinner
      rw [Choice.valueIn_set, if_neg hother]
    · rfl
  · rintro ⟨name, value⟩ options ⟨v, hholds⟩ htyped -
    obtain ⟨other, rfl⟩ := htyped v hholds
    obtain ⟨hname, rfl⟩ := holdsNamed_here_iff.mp hholds
    rw [listingStep, Choice.ofName_eq_some_iff.mpr hname]
    exact holdsNamed_here_iff.mpr ⟨hname, congrArg Value.bool ((Choice.valueIn_set ..).trans (if_pos rfl)).symm⟩

theorem listingStep_eq_none_iff (member : String × Value) (options : Options) :
    (listingStep document outer member options).2 = none ↔
      ∀ (choice : Choice) v, HoldsNamed [member] [choice.name] v → ∃ b, v = .bool b := by
  obtain ⟨name, value⟩ := member
  rw [listingStep]
  constructor
  · intro hnone choice v hholds
    obtain ⟨hname, rfl⟩ := holdsNamed_here_iff.mp hholds
    rw [Choice.ofName_eq_some_iff.mpr hname] at hnone
    cases value with
    | bool b => exact ⟨b, rfl⟩
    | _ => cases hnone
  · intro htyped
    split
    · rfl
    · rfl
    · rename_i choice hname hother
      obtain ⟨b, hb⟩ := htyped choice value (holdsNamed_here_iff.mpr ⟨Choice.ofName_eq_some_iff.mp hname, rfl⟩)
      exact absurd hb (hother b)

theorem decodeListing_eq_none_iff : (decodeListing document outer members options).2 = none ↔
    ∀ (choice : Choice) v, HoldsNamed members [choice.name] v → ∃ b, v = .bool b := by
  rw [decodeListing_eq_runUntil, runUntil_eq_none_iff fun member _ => listingStep_eq_none_iff member]
  constructor
  · intro h choice v hholds
    obtain ⟨member, hmem, hone⟩ := holdsNamed_iff_exists.mp hholds
    exact h member hmem choice v hone
  · intro h member hmem choice v hone
    exact h choice v (holdsNamed_iff_exists.mpr ⟨member, hmem, hone⟩)

end Listings

section Parts

variable {order : Order} {document : Document} {name : String} {value : Value} {settings : Settings} {part : Part}

theorem fill_map (l room : List String) : fill (l.map .text) room = (l ++ room.drop l.length, none) := by
  induction l generalizing room with
  | nil => rfl
  | cons text rest ih => rw [List.map_cons, fill, ih, List.drop_tail, List.cons_append, List.length_cons]

theorem exists_map_of_fill {items : List Value} {room : List String} (h : (fill items room).2 = none) :
    ∃ l : List String, items = l.map .text := by
  induction items generalizing room with
  | nil => exact ⟨[], rfl⟩
  | cons item rest ih =>
    cases item with
    | text text =>
      obtain ⟨l, rfl⟩ := ih h
      exact ⟨text :: l, rfl⟩
    | _ => cases h

theorem setLocale_eq_none_iff {items : List Value} :
    (settings.setLocale items).2 = none ↔ ∃ l : List String, items = l.map .text := by
  rw [setLocale]
  constructor
  · exact exists_map_of_fill
  · rintro ⟨l, rfl⟩
    rw [fill_map]

theorem setLocale_map (l : List String) : (settings.setLocale (l.map .text)).1.locale = l := by
  rw [setLocale, fill_map, List.length_map]
  exact List.take_left' rfl

/-- The values that a part of the settings can have. -/
def Part.Admits : Part → Value → Prop
  | .locale, value => ∃ l : List String, value = .array (l.map .text)
  | .verbose, value => ∃ b, value = .bool b
  | .listing, value => ∃ inner, value = .table inner ∧
      ∀ (choice : Choice) v, HoldsNamed inner [choice.name] v → ∃ b, v = .bool b

theorem items_map_text_iff (hfull : value ≠ .tables []) {l : List String} :
    items? value = some (l.map .text) ↔ value = .array (l.map .text) := by
  constructor
  · intro h
    cases value with
    | array items => rw [Option.some.inj h]
    | tables items =>
      -- A list of tables has texts only if it is empty.
      cases items with
      | nil => exact absurd rfl hfull
      | cons first rest => cases l <;> simp [items?] at h
    | _ => cases h
  · rintro rfl
    rfl

theorem decodePart_eq_none_iff (hfull : value ≠ .tables []) :
    (decodePart order document name value settings part).2 = none ↔ part.Admits value := by
  cases part with
  | locale =>
    rw [Part.Admits, decodePart]
    simp only [← items_map_text_iff hfull]
    cases items? value with
    | none => simp
    | some items => simp only [Option.map_eq_none_iff, Option.some_inj, setLocale_eq_none_iff]
  | verbose => cases value <;> simp [decodePart, Part.Admits]
  | listing =>
    cases value with
    | table inner =>
      simp [decodePart, Part.Admits, decodeListing_eq_none_iff, holdsNamed_arrange]
    | _ => simp [decodePart, Part.Admits]

theorem Part.eq_of_isName {other : Part} (h : isName part.name name) (hother : isName other.name name) :
    other = part :=
  Option.some.inj ((Part.ofName_eq_some_iff.mpr hother).symm.trans (Part.ofName_eq_some_iff.mpr h))

theorem wellTyped_iff_admits (hpart : isName part.name name) : WellTyped [(name, value)] ↔ part.Admits value := by
  constructor
  · intro h
    have hhere := holdsNamed_here_iff.mpr ⟨hpart, (rfl : value = value)⟩
    cases part with
    | locale =>
      obtain ⟨other, hvalue⟩ := h.setting .locale value hhere
      exact ⟨other.locale, hvalue⟩
    | verbose =>
      obtain ⟨other, hvalue⟩ := h.setting .verbose value hhere
      exact ⟨other.verbose, hvalue⟩
    | listing =>
      obtain ⟨inner, rfl⟩ := h.listing value hhere
      refine ⟨inner, rfl, ?_⟩
      intro choice v hholds
      obtain ⟨other, hv⟩ := h.setting (.listing choice) v (holdsNamed_inside_iff.mpr ⟨hpart, inner, rfl, hholds⟩)
      exact ⟨choice.valueIn other.listing, hv⟩
  · intro h
    constructor
    · intro setting v hholds
      cases setting with
      | locale =>
        obtain ⟨hname, rfl⟩ := holdsNamed_here_iff.mp hholds
        obtain rfl := Part.eq_of_isName hpart hname
        obtain ⟨l, rfl⟩ := h
        exact ⟨{ locale := l }, rfl⟩
      | verbose =>
        obtain ⟨hname, rfl⟩ := holdsNamed_here_iff.mp hholds
        obtain rfl := Part.eq_of_isName hpart hname
        obtain ⟨b, rfl⟩ := h
        exact ⟨{ verbose := b }, rfl⟩
      | listing choice =>
        obtain ⟨hname, inner, rfl, hinner⟩ := holdsNamed_inside_iff.mp hholds
        obtain rfl := Part.eq_of_isName hpart hname
        obtain ⟨_, htable, hbools⟩ := h
        obtain rfl := Value.table.inj htable
        obtain ⟨b, rfl⟩ := hbools choice v hinner
        -- Other choices do not matter, so the defaults do for them.
        exact ⟨{ listing := choice.set b {} }, congrArg Value.bool ((Choice.valueIn_set ..).trans (if_pos rfl)).symm⟩
    · intro v hholds
      obtain ⟨hname, rfl⟩ := holdsNamed_here_iff.mp hholds
      obtain rfl := Part.eq_of_isName hpart hname
      obtain ⟨inner, rfl, -⟩ := h
      exact ⟨inner, rfl⟩

end Parts

section Members

variable {order : Order} {document : Document} {members : Members} {settings : Settings}

/-- Applies one member of a document. -/
def memberStep (order : Order) (document : Document) (member : String × Value) (settings : Settings) :
    Settings × Option TypeError :=
  match Part.ofName? member.1 with
  | none => (settings, none)
  | some part => decodePart order document member.1 member.2 settings part

theorem decodeMembers_eq_runUntil :
    decodeMembers order document members settings = runUntil (memberStep order document) members settings := by
  induction members generalizing settings with
  | nil => rfl
  | cons member rest ih =>
    obtain ⟨name, value⟩ := member
    rw [decodeMembers, runUntil, memberStep]
    cases Part.ofName? name with
    | none => exact ih
    | some part =>
      dsimp only
      rcases decodePart order document name value settings part with ⟨next, _ | error⟩
      · exact ih
      · rfl

theorem memberStep_eq_none_iff {member : String × Value} (hfull : member.2 ≠ .tables []) :
    (memberStep order document member settings).2 = none ↔ WellTyped [member] := by
  obtain ⟨name, value⟩ := member
  rw [memberStep]
  cases hpart : Part.ofName? name with
  | some part => rw [wellTyped_iff_admits (Part.ofName_eq_some_iff.mp hpart), decodePart_eq_none_iff hfull]
  | none =>
    have hother (part : Part) : ¬ isName part.name name := by
      rw [← Part.ofName_eq_some_iff, hpart]
      exact nofun
    refine iff_of_true rfl ⟨?_, ?_⟩
    · intro setting v hholds
      cases setting with
      | locale => exact absurd (holdsNamed_here_iff.mp hholds).1 (hother .locale)
      | verbose => exact absurd (holdsNamed_here_iff.mp hholds).1 (hother .verbose)
      | listing choice => exact absurd (holdsNamed_inside_iff.mp hholds).1 (hother .listing)
    · intro v hholds
      exact absurd (holdsNamed_here_iff.mp hholds).1 (hother .listing)

/-- What a part of the settings does to a setting that it gives no value but a table. -/
theorem decodePart_keeps {name : String} {value : Value} {part : Part} (hpart : isName part.name name)
    (setting : Setting) (htable : ∀ v, HoldsNamed [(name, value)] setting.path v → v.IsTable) :
    setting.valueIn (decodePart order document name value settings part).1 = setting.valueIn settings := by
  -- A part changes its own settings only, and a table only those in it.
  have hhere (hpath : setting.path = [part.name]) : value.IsTable :=
    htable value (hpath ▸ holdsNamed_here_iff.mpr ⟨hpart, rfl⟩)
  cases part with
  | locale =>
    cases setting with
    | locale =>
      obtain ⟨inner, rfl⟩ := hhere rfl
      rfl
    | _ => rw [decodePart]; cases items? value <;> rfl
  | verbose =>
    cases setting with
    | verbose =>
      obtain ⟨inner, rfl⟩ := hhere rfl
      rfl
    | _ => cases value <;> rfl
  | listing =>
    cases value with
    | table inner =>
      cases setting with
      | listing choice =>
        have hinner : ∀ v, HoldsNamed (order.arrange [name] inner) [choice.name] v → v.IsTable := by
          intro v hholds
          rw [holdsNamed_arrange] at hholds
          exact htable v (holdsNamed_inside_iff.mpr ⟨hpart, inner, rfl, hholds⟩)
        rw [decodePart, decodeListing_eq_runUntil]
        exact (listingStep_applies document name choice).run_keeps hinner
      | _ => rfl
    | _ => rfl

theorem memberStep_applies (order : Order) (document : Document) (setting : Setting) :
    Applies (memberStep order document) setting.valueIn setting.path := by
  constructor
  · rintro ⟨name, value⟩ settings htable
    rw [memberStep]
    cases hpart : Part.ofName? name with
    | none => rfl
    | some part => exact decodePart_keeps (Part.ofName_eq_some_iff.mp hpart) setting htable
  · rintro ⟨name, value⟩ settings ⟨v, hholds⟩ htyped hnone
    rw [memberStep] at hnone ⊢
    cases setting with
    | locale =>
      obtain ⟨other, rfl⟩ := htyped v hholds
      obtain ⟨hname, rfl⟩ := holdsNamed_here_iff.mp hholds
      rw [Part.ofName_eq_some_iff.mpr hname]
      refine holdsNamed_here_iff.mpr ⟨hname, ?_⟩
      dsimp only [decodePart, Setting.valueIn, items?]
      rw [setLocale_map]
    | verbose =>
      obtain ⟨other, rfl⟩ := htyped v hholds
      obtain ⟨hname, rfl⟩ := holdsNamed_here_iff.mp hholds
      rw [Part.ofName_eq_some_iff.mpr hname]
      exact holdsNamed_here_iff.mpr ⟨hname, rfl⟩
    | listing choice =>
      obtain ⟨hname, inner, rfl, hinner⟩ := holdsNamed_inside_iff.mp hholds
      rw [Part.ofName_eq_some_iff.mpr hname] at hnone ⊢
      dsimp only [decodePart] at hnone ⊢
      rw [decodeListing_eq_runUntil] at hnone ⊢
      have hbools : ∀ w, HoldsNamed (order.arrange [name] inner) [choice.name] w →
          ∃ options, w = .bool (choice.valueIn options) := by
        intro w hw
        rw [holdsNamed_arrange] at hw
        obtain ⟨other, rfl⟩ := htyped w (holdsNamed_inside_iff.mpr ⟨hname, inner, rfl, hw⟩)
        exact ⟨other.listing, rfl⟩
      rcases (listingStep_applies document name choice).run_takes hbools hnone with htaken | ⟨hnothing, -⟩
      · rw [holdsNamed_arrange] at htaken
        exact holdsNamed_inside_iff.mpr ⟨hname, inner, rfl, htaken⟩
      · exact absurd ((holdsNamed_arrange order [name]).mpr hinner) (hnothing v)

end Members

section Keys

theorem not_names_empty (setting : Setting) : ¬ Names setting.path [""] := by
  intro h
  cases setting with
  | listing choice => cases h with | cons _ hnil => cases hnil
  | _ => cases h with | cons hname _ => exact absurd hname (by decide)

theorem known_iff {key : Key} : Known key ↔
    (∃ part : Part, Names [part.name] key) ∨ ∃ choice : Choice, Names [Part.listing.name, choice.name] key := by
  constructor
  · rintro (⟨setting, h⟩ | h)
    · cases setting with
      | locale => exact .inl ⟨.locale, h⟩
      | verbose => exact .inl ⟨.verbose, h⟩
      | listing choice => exact .inr ⟨choice, h⟩
    · exact .inl ⟨.listing, h⟩
  · rintro (⟨part, h⟩ | ⟨choice, h⟩)
    · cases part with
      | locale => exact .inl ⟨.locale, h⟩
      | verbose => exact .inl ⟨.verbose, h⟩
      | listing => exact .inr h
    · exact .inl ⟨.listing choice, h⟩

theorem isKnown_iff (key : Key) : isKnown key ↔ Known key := by
  rw [known_iff]
  rcases key with _ | ⟨outer, _ | ⟨name, _ | ⟨extra, rest⟩⟩⟩
  · simp [isKnown, Names]
  · simp [isKnown, Names, Option.isSome_iff_exists, Part.ofName_eq_some_iff]
  · simp [isKnown, Names, Option.isSome_iff_exists, Part.ofName_eq_some_iff, Choice.ofName_eq_some_iff]
  · simp [isKnown, Names]

end Keys

section Documents

variable {text : String} {document : Document} {settings : Settings} {order : Order}

theorem not_isTable_valueIn (setting : Setting) (settings : Settings) : ¬ (setting.valueIn settings).IsTable := by
  cases setting <;> simp [Setting.valueIn, Value.IsTable]

/-- Applies all members of a document in an order. -/
def decodeRoot (order : Order) (document : Document) (settings : Settings) : Settings × Option TypeError :=
  runUntil (memberStep order document) (order.arrange [] document.root) settings

/-- Errors of types come before unknown keys. -/
theorem decode_of_read (h : Document.read text = .ok document) :
    settings.decode text order = ((decodeRoot order document settings).1,
      ((decodeRoot order document settings).2.map .mistyped).or
        ((document.keys.find? fun key => !isKnown key).map .unknown)) := by
  rw [decode, h]
  dsimp only
  rw [decodeMembers_eq_runUntil, ← decodeRoot]
  rcases decodeRoot order document settings with ⟨next, _ | error⟩ <;> rfl

theorem decodeRoot_eq_none_iff (h : Document.read text = .ok document) :
    (decodeRoot order document settings).2 = none ↔ WellTyped document.root := by
  have hperm := order.perm [] document.root
  have htyped : WellTyped document.root ↔ ∀ member ∈ order.arrange [] document.root, WellTyped [member] := by
    rw [wellTyped_iff_forall]
    simp only [hperm.mem_iff]
  rw [htyped]
  apply runUntil_eq_none_iff
  rintro ⟨name, value⟩ hmem settings
  apply memberStep_eq_none_iff
  rintro rfl
  have hother : ¬ (Value.tables []).IsTable := by simp [Value.IsTable]
  exact (Document.isPlain_of_holds h (.here (hperm.mem_iff.mp hmem)) hother).2 rfl

/-- Keys of the document are the only ones with values other than tables. -/
theorem mem_keys_of_names (h : Document.read text = .ok document) {setting : Setting} {key : Key} {value : Value}
    (hnames : Names setting.path key) (hholds : Holds document.root key value) (hother : ¬ value.IsTable) :
    key ∈ document.keys := by
  apply Document.mem_keys_of_holds h hholds hother
  rintro rfl
  exact not_names_empty setting hnames

theorem holdsNamed_unique (h : Document.read text = .ok document) (htyped : WellTyped document.root)
    (honce : NamesOnce document.keys) {setting : Setting} {value other : Value}
    (hvalue : HoldsNamed document.root setting.path value) (hother : HoldsNamed document.root setting.path other) :
    other = value := by
  -- Values of the right types are no tables, so their keys are listed, and are the same key.
  have hkey {key : Key} {v : Value} (hnames : Names setting.path key) (hholds : Holds document.root key v) :
      key ∈ document.keys := by
    obtain ⟨giver, rfl⟩ := htyped.setting setting v ⟨key, hnames, hholds⟩
    exact mem_keys_of_names h hnames hholds (not_isTable_valueIn setting giver)
  obtain ⟨key, hnames, hholds⟩ := hvalue
  obtain ⟨key', hnames', hholds'⟩ := hother
  obtain rfl := honce setting key key' (hkey hnames hholds) (hkey hnames' hholds') hnames hnames'
  exact Document.holds_unique h hholds' hholds

theorem isTable_of_unnamed (h : Document.read text = .ok document) {setting : Setting} {value : Value}
    (hkeys : ∀ key ∈ document.keys, ¬ Names setting.path key) (hholds : HoldsNamed document.root setting.path value) :
    value.IsTable := by
  obtain ⟨key, hnames, hholds⟩ := hholds
  by_contra hother
  exact hkeys key (mem_keys_of_names h hnames hholds hother) hnames

theorem decode_keeps (h : Document.read text = .ok document) {setting : Setting}
    (htable : ∀ value, HoldsNamed document.root setting.path value → value.IsTable) :
    setting.valueIn (settings.decode text order).1 = setting.valueIn settings := by
  rw [decode_of_read h]
  exact (memberStep_applies order document setting).run_keeps fun value hholds =>
    htable value ((holdsNamed_arrange order []).mp hholds)

theorem decode_eq_none_iff (h : Document.read text = .ok document) :
    (settings.decode text order).2 = none ↔ (∀ key ∈ document.keys, Known key) ∧ WellTyped document.root := by
  have hknown : (document.keys.find? fun key => !isKnown key) = none ↔ ∀ key ∈ document.keys, Known key := by
    simp [isKnown_iff]
  rw [decode_of_read h, Option.or_eq_none_iff, Option.map_eq_none_iff, Option.map_eq_none_iff,
    decodeRoot_eq_none_iff h, hknown, and_comm]

/-- Each setting gets a value of the document, and keeps its own if there is none. -/
theorem decode_takes (h : Document.read text = .ok document) (htyped : WellTyped document.root) (setting : Setting) :
    HoldsNamed document.root setting.path (setting.valueIn (settings.decode text order).1) ∨
      (∀ value, ¬ HoldsNamed document.root setting.path value) ∧
        setting.valueIn (settings.decode text order).1 = setting.valueIn settings := by
  have hnone : (decodeRoot order document settings).2 = none := (decodeRoot_eq_none_iff h).mpr htyped
  have htakes := (memberStep_applies order document setting).run_takes
    (fun value hholds => htyped.setting setting value ((holdsNamed_arrange order []).mp hholds)) hnone
  simp only [holdsNamed_arrange] at htakes
  rw [decode_of_read h]
  exact htakes

theorem decode_sets (h : Document.read text = .ok document) (htyped : WellTyped document.root)
    (honce : NamesOnce document.keys) {setting : Setting} {value : Value}
    (hholds : HoldsNamed document.root setting.path value) :
    setting.valueIn (settings.decode text order).1 = value := by
  rcases decode_takes h htyped setting with htaken | ⟨hnothing, -⟩
  · exact holdsNamed_unique h htyped honce hholds htaken
  · exact absurd hholds (hnothing value)

theorem decode_unknown (h : Document.read text = .ok document) (htyped : WellTyped document.root)
    {before after : List Key} {key : Key} (hkeys : document.keys = before ++ key :: after)
    (hbefore : ∀ k ∈ before, Known k) (hkey : ¬ Known key) :
    (settings.decode text order).2 = some (.unknown key) := by
  have hnone : (before.find? fun k => !isKnown k) = none := by
    simpa [isKnown_iff] using hbefore
  have hfirst : ((key :: after).find? fun k => !isKnown k) = some key :=
    List.find?_cons_of_pos (by simpa [← isKnown_iff] using hkey)
  rw [decode_of_read h, (decodeRoot_eq_none_iff h).mpr htyped, hkeys, List.find?_append, hnone, hfirst]
  rfl

/-- What a text does to settings. One that is no document leaves them. A document leaves those that it does not name,
and is accepted if all its keys are known and all values have the right types. With the right types the settings get the
values of the document, also if there are unknown keys, of which the first is reported. -/
theorem decode_changes_only_named (settings : Settings) (text : String) (order : Order) :
    (∀ error, Document.read text = .error error → settings.decode text order = (settings, some (.malformed error))) ∧
    ∀ document, Document.read text = .ok document →
      (∀ setting : Setting, ((∀ key ∈ document.keys, ¬ Names setting.path key) ∨
          ∀ value, ¬ HoldsNamed document.root setting.path value) →
        setting.valueIn (settings.decode text order).1 = setting.valueIn settings) ∧
      ((settings.decode text order).2 = none ↔ (∀ key ∈ document.keys, Known key) ∧ WellTyped document.root) ∧
      (WellTyped document.root → NamesOnce document.keys → ∀ (setting : Setting) value,
        HoldsNamed document.root setting.path value → setting.valueIn (settings.decode text order).1 = value) ∧
      (WellTyped document.root → ∀ before key after, document.keys = before ++ key :: after →
        (∀ k ∈ before, Known k) → ¬ Known key → (settings.decode text order).2 = some (.unknown key)) := by
  constructor
  · intro error h
    rw [decode, h]
  · intro document h
    refine ⟨?_, decode_eq_none_iff h, ?_, ?_⟩
    · rintro setting (hkeys | hnothing)
      · exact decode_keeps h fun value hholds => isTable_of_unnamed h hkeys hholds
      · exact decode_keeps h fun value hholds => absurd hholds (hnothing value)
    · exact fun htyped honce setting value => decode_sets h htyped honce
    · exact fun htyped before key after => decode_unknown h htyped

section Dotted

def dottedText : String :=
  "colour = true\nLocale = [\"de\"]\nlisting.\"SIMULATOR\" = true\n"

/-- Names and values of tables of the form that the text has. -/
def dottedParts? : Members → Option (List String × List Bool)
  | [(first, .bool b), (second, .array [.text item]), (third, .table [(inner, .bool c)])] =>
    some ([first, second, item, third, inner], [b, c])
  | _ => none

theorem dotted_reads : ∃ document, Document.read dottedText = .ok document ∧
    document.keys = [["colour"], ["Locale"], ["listing", "SIMULATOR"]] ∧
    document.root = [("colour", .bool true), ("Locale", .array [.text "de"]),
      ("listing", .table [("SIMULATOR", .bool true)])] := by
  have hnull : hasEarlyNull 6 (dropOrderMark dottedText.toList) = false := by decide
  have htokens : tokens (dropOrderMark dottedText.toList) =
      [⟨.keyStart, 1⟩, ⟨.name "colour", 1⟩, ⟨.keyEnd, 1⟩, ⟨.bool true, 1⟩,
        ⟨.keyStart, 2⟩, ⟨.name "Locale", 2⟩, ⟨.keyEnd, 2⟩,
        ⟨.arrayStart, 2⟩, ⟨.string .basic "de".toList, 2⟩, ⟨.arrayEnd, 2⟩,
        ⟨.keyStart, 3⟩, ⟨.name "listing", 3⟩, ⟨.string .basic "SIMULATOR".toList, 3⟩, ⟨.keyEnd, 3⟩,
        ⟨.bool true, 3⟩].map .ok := rfl
  have hparts : (Document.read dottedText).toOption.map (fun document =>
      (document.keys, dottedParts? document.root)) = some ([["colour"], ["Locale"], ["listing", "SIMULATOR"]],
        some (["colour", "Locale", "de", "listing", "SIMULATOR"], [true, true])) := by
    simp only [Document.read, hnull, htokens]
    decide +kernel
  cases hread : Document.read dottedText with
  | error error =>
    rw [hread] at hparts
    cases hparts
  | ok document =>
    rw [hread, Except.toOption, Option.map_some, Option.some_inj, Prod.mk.injEq] at hparts
    obtain ⟨hkeys, hroot⟩ := hparts
    refine ⟨document, rfl, hkeys, ?_⟩
    unfold dottedParts? at hroot
    split at hroot
    · rename_i hmembers
      cases hroot
      exact hmembers
    · cases hroot

theorem dotted_namesOnce : NamesOnce [["colour"], ["Locale"], ["listing", "SIMULATOR"]] := by
  have hnames (setting : Setting) : ∀ key ∈ [["colour"], ["Locale"], ["listing", "SIMULATOR"]],
      ∀ other ∈ [["colour"], ["Locale"], ["listing", "SIMULATOR"]],
        Names setting.path key → Names setting.path other → key = other := by
    unfold Names
    cases setting with
    | listing choice => cases choice <;> decide
    | _ => decide
  exact fun setting key other hkey hother => hnames setting key hkey other hother

/-- One setting by a dotted key, one in other letters, one not at all, and a name that is none. -/
theorem decode_changes_only_named_dotted : ∃ document, Document.read dottedText = .ok document ∧
    NamesOnce document.keys ∧ WellTyped document.root ∧
    (decode { verbose := true } dottedText).2 = some (.unknown ["colour"]) ∧
    Setting.locale.valueIn (decode { verbose := true } dottedText).1 = .array [.text "de"] ∧
    Setting.verbose.valueIn (decode { verbose := true } dottedText).1 = .bool true ∧
    (Setting.listing .simulator).valueIn (decode { verbose := true } dottedText).1 = .bool true := by
  obtain ⟨document, hread, hkeys, hroot⟩ := dotted_reads
  have honce : NamesOnce document.keys := by
    rw [hkeys]
    exact dotted_namesOnce
  have htyped : WellTyped document.root := by
    have happlied : (decodeRoot .document document {}).2 = none := by
      rw [decodeRoot, Order.document, hroot]
      rfl
    exact (decodeRoot_eq_none_iff hread).mp happlied
  have hlocale : HoldsNamed document.root Setting.locale.path (.array [.text "de"]) := by
    rw [hroot]
    exact ⟨["Locale"], .cons (by decide) .nil, .here (.tail _ (.head _))⟩
  have hsimulator : HoldsNamed document.root (Setting.listing .simulator).path (.bool true) := by
    rw [hroot]
    exact ⟨["listing", "SIMULATOR"], .cons (by decide) (.cons (by decide) .nil),
      .inside (.tail _ (.tail _ (.head _))) (.here (.head _))⟩
  have hverbose : ∀ key ∈ document.keys, ¬ Names Setting.verbose.path key := by
    rw [hkeys]
    unfold Names
    decide
  have hcolour : ¬ Known ["colour"] := by
    rw [← isKnown_iff]
    decide
  obtain ⟨-, hdocument⟩ := decode_changes_only_named { verbose := true } dottedText .document
  obtain ⟨hkeeps, -, hsets, hunknown⟩ := hdocument document hread
  exact ⟨document, hread, honce, htyped, hunknown htyped [] _ _ hkeys (by simp) hcolour,
    hsets htyped honce _ _ hlocale, hkeeps _ (.inl hverbose), hsets htyped honce _ _ hsimulator⟩

end Dotted

end Documents

end Keystroke.Settings
