import Keystroke.Proofs.Folding
import Keystroke.Toml.Document
import Mathlib.Data.List.Induction
import Mathlib.Data.List.Infix
import Mathlib.Data.List.Nodup

/-! The keys of a document and its values. Each value stands at a key that is listed, and a table at one or on the way
to one. No table has two members of one name, so a key has at most one value. -/
namespace Keystroke.Toml

/-- A table has a value at a key, through the tables on the way. -/
inductive Holds : Members → Key → Value → Prop
  | here {members : Members} {name : String} {value : Value} (h : (name, value) ∈ members) :
    Holds members [name] value
  | inside {members inner : Members} {name : String} {key : Key} {value : Value}
    (h : (name, .table inner) ∈ members) (hinner : Holds inner key value) : Holds members (name :: key) value

def Value.IsTable (value : Value) : Prop :=
  ∃ members, value = .table members

/-- No table, and no empty list of tables. -/
def Value.IsPlain (value : Value) : Prop :=
  ¬ value.IsTable ∧ value ≠ .tables []

theorem isPlain_default : (default : Value).IsPlain := by
  constructor
  · rintro ⟨members, hmembers⟩
    cases hmembers
  · intro htables
    cases htables

/-- A plain value may stand at a key that is listed, and a table also on the way to one. -/
def Listed (keys : List Key) (key : Key) (value : Value) : Prop :=
  value.IsPlain ∧ key ∈ keys ∨ value.IsTable ∧ ∃ k ∈ keys, key <+: k

/-- The members of the table at `path` have different names and may stand there, also those further down. -/
inductive Tidy (keys : List Key) : Key → Members → Prop
  | intro {path : Key} {members : Members} (hnodup : (members.map Prod.fst).Nodup)
    (hlisted : ∀ name value, (name, value) ∈ members → Listed keys (path ++ [name]) value)
    (hbelow : ∀ name inner, (name, .table inner) ∈ members → Tidy keys (path ++ [name]) inner) :
    Tidy keys path members

/-- A value may be put at a key. -/
structure Fits (keys : List Key) (key : Key) (value : Value) : Prop where
  listed : Listed keys key value
  tidy : ∀ members, value = .table members → Tidy keys key members

section Tables

variable {keys more : List Key} {path key : Key} {members inner : Members} {name : String} {value : Value}

theorem Listed.mono (h : Listed keys key value) (hkeys : keys ⊆ more) : Listed more key value := by
  rcases h with ⟨hplain, h⟩ | ⟨htable, k, hk, hle⟩
  · exact .inl ⟨hplain, hkeys h⟩
  · exact .inr ⟨htable, k, hkeys hk, hle⟩

/-- A value stands on the way to a key, at the latest at its own. -/
theorem Listed.reaches (h : Listed keys key value) : ∃ k ∈ keys, key <+: k := by
  rcases h with ⟨-, h⟩ | ⟨-, hreach⟩
  · exact ⟨key, h, List.prefix_rfl⟩
  · exact hreach

theorem Listed.plain (h : Listed keys key value) (hother : ¬ value.IsTable) : value.IsPlain ∧ key ∈ keys :=
  h.resolve_right fun htable => hother htable.1

theorem Tidy.mono (h : Tidy keys path members) (hkeys : keys ⊆ more) : Tidy more path members := by
  induction h with
  | intro hnodup hlisted _ ih => exact .intro hnodup (fun name value h => (hlisted name value h).mono hkeys) ih

theorem Fits.mono (h : Fits keys key value) (hkeys : keys ⊆ more) : Fits more key value :=
  ⟨h.listed.mono hkeys, fun members hm => (h.tidy members hm).mono hkeys⟩

theorem tidy_nil : Tidy keys path [] :=
  .intro List.nodup_nil (by simp) (by simp)

theorem Tidy.fits (h : Tidy keys path members) (hmem : (name, value) ∈ members) :
    Fits keys (path ++ [name]) value := by
  cases h with
  | intro _ hlisted hbelow =>
    refine ⟨hlisted name value hmem, ?_⟩
    rintro inner rfl
    exact hbelow name inner hmem

theorem fits_table (hreach : ∃ k ∈ keys, key <+: k) (h : Tidy keys key members) : Fits keys key (.table members) := by
  refine ⟨.inr ⟨⟨members, rfl⟩, hreach⟩, ?_⟩
  intro inner hinner
  rwa [← Value.table.inj hinner]

theorem fits_plain (hkey : key ∈ keys) (hplain : value.IsPlain) : Fits keys key value :=
  ⟨.inl ⟨hplain, hkey⟩, fun inner hinner => absurd ⟨inner, hinner⟩ hplain.1⟩

theorem mem_put {member : String × Value} (h : member ∈ put name value members) :
    member = (name, value) ∨ member ∈ members := by
  induction members with
  | nil => exact .inl (List.mem_singleton.mp h)
  | cons first rest ih =>
    rw [put] at h
    split at h
    · rcases List.mem_cons.mp h with h | h
      · exact .inl h
      · exact .inr (List.mem_cons_of_mem first h)
    · rcases List.mem_cons.mp h with h | h
      · exact .inr (h ▸ List.mem_cons_self)
      · exact (ih h).imp_right (List.mem_cons_of_mem first)

theorem nodup_put (h : (members.map Prod.fst).Nodup) : ((put name value members).map Prod.fst).Nodup := by
  induction members with
  | nil => exact List.pairwise_singleton _ _
  | cons first rest ih =>
    obtain ⟨hfirst, hrest⟩ := List.nodup_cons.mp h
    rw [put]
    split
    · rename_i hname
      exact List.nodup_cons.mpr ⟨hname ▸ hfirst, hrest⟩
    · rename_i hname
      refine List.nodup_cons.mpr ⟨?_, ih hrest⟩
      intro hin
      obtain ⟨member, hmember, hsame⟩ := List.mem_map.mp hin
      rcases mem_put hmember with rfl | hmember
      · exact hname hsame.symm
      · exact hfirst (List.mem_map.mpr ⟨member, hmember, hsame⟩)

theorem Tidy.put (h : Tidy keys path members) (hvalue : Fits keys (path ++ [name]) value) :
    Tidy keys path (put name value members) := by
  have hfits : ∀ member ∈ Toml.put name value members, Fits keys (path ++ [member.1]) member.2 := by
    intro member hmember
    rcases mem_put hmember with rfl | hmember
    · exact hvalue
    · exact h.fits hmember
  cases h with
  | intro hnodup _ _ =>
    exact .intro (nodup_put hnodup) (fun name value hm => (hfits (name, value) hm).listed)
      (fun name inner hm => (hfits (name, .table inner) hm).tidy inner rfl)

theorem Fits.reaches_step {steps : Key} {step : String} (h : Fits keys (path ++ step :: steps ++ [name]) value) :
    ∃ k ∈ keys, path ++ [step] <+: k := by
  obtain ⟨k, hk, hle⟩ := h.listed.reaches
  have hsplit : path ++ step :: steps ++ [name] = path ++ [step] ++ (steps ++ [name]) := by simp
  rw [hsplit] at hle
  exact ⟨k, hk, (List.prefix_append _ _).trans hle⟩

theorem Fits.step {steps : Key} {step : String} (h : Fits keys (path ++ step :: steps ++ [name]) value) :
    Fits keys (path ++ [step] ++ steps ++ [name]) value := by
  rwa [List.append_assoc path [step] steps]

/-- What is on the way to a value becomes a table, unless it is several tables. -/
theorem Tidy.putAt {steps : Key} (h : Tidy keys path members) (hvalue : Fits keys (path ++ steps ++ [name]) value) :
    Tidy keys path (putAt name value steps members) := by
  induction steps generalizing path members with
  | nil =>
    rw [List.append_nil] at hvalue
    exact h.put hvalue
  | cons step steps ih =>
    have hreach := hvalue.reaches_step
    rw [Toml.putAt]
    apply h.put
    cases hlookup : members.lookup step with
    | none => exact fits_table hreach (ih tidy_nil hvalue.step)
    | some outer =>
      have houter := h.fits (Text.mem_of_lookup hlookup)
      cases outer with
      | table inner => exact fits_table hreach (ih (houter.tidy inner rfl) hvalue.step)
      | tables items =>
        have hlisted := houter.listed.plain (by simp [Value.IsTable])
        exact fits_plain hlisted.2 (by simp [Value.withMembers, Value.IsPlain, Value.IsTable])
      | _ => exact fits_table hreach (ih tidy_nil hvalue.step)

theorem Tidy.insertAt {steps : Key} {inserted : Members} (h : Tidy keys path members)
    (hvalue : Fits keys (path ++ steps ++ [name]) value)
    (hinsert : Reader.insertAt? name value steps members = some inserted) : Tidy keys path inserted := by
  induction steps generalizing path members inserted with
  | nil =>
    rw [List.append_nil] at hvalue
    obtain rfl := Option.some.inj hinsert
    exact h.put hvalue
  | cons step steps ih =>
    have hreach := hvalue.reaches_step
    rw [Reader.insertAt?] at hinsert
    cases hlookup : members.lookup step with
    | none =>
      rw [hlookup] at hinsert
      obtain ⟨inner, hinner, rfl⟩ := Option.map_eq_some_iff.mp hinsert
      exact h.put (fits_table hreach (ih tidy_nil hvalue.step hinner))
    | some outer =>
      have houter := h.fits (Text.mem_of_lookup hlookup)
      rw [hlookup] at hinsert
      cases outer with
      | table inner =>
        obtain ⟨inner', hinner, rfl⟩ := Option.map_eq_some_iff.mp hinsert
        exact h.put (fits_table hreach (ih (houter.tidy inner rfl) hvalue.step hinner))
      | _ => cases hinsert

theorem Tidy.nodup (h : Tidy keys path members) : (members.map Prod.fst).Nodup := by
  cases h with
  | intro hnodup _ _ => exact hnodup

theorem Tidy.listed (h : Tidy keys path members) (hholds : Holds members key value) :
    Listed keys (path ++ key) value := by
  induction hholds generalizing path with
  | here hmem => exact (h.fits hmem).listed
  | @inside members inner name key value hmem _ ih =>
    have hinner := ih ((h.fits hmem).tidy inner rfl)
    rwa [List.append_assoc] at hinner

theorem Tidy.unique {other : Value} (h : Tidy keys path members) (hvalue : Holds members key value)
    (hother : Holds members key other) : value = other := by
  have hname {members : Members} {name : String} {v w : Value} (hnodup : (members.map Prod.fst).Nodup)
      (hv : (name, v) ∈ members) (hw : (name, w) ∈ members) : v = w :=
    congrArg Prod.snd (List.inj_on_of_nodup_map hnodup hv hw rfl)
  induction hvalue generalizing path with
  | here hmem =>
    cases hother with
    | here hmem' => exact hname h.nodup hmem hmem'
    | inside _ hnil => cases hnil
  | inside hmem hholds ih =>
    cases hother with
    | here _ => cases hholds
    | inside hmem' hholds' =>
      obtain rfl := Value.table.inj (hname h.nodup hmem hmem')
      exact ih ((h.fits hmem).tidy _ rfl) hholds'

end Tables

namespace Reader

section Rules

variable {α β : Type} {r : Reader α} {d : Draft}

/-- What holds after a reading, unless it fails. -/
def Leaves (r : Reader α) (d : Draft) (Q : α → Draft → Prop) : Prop :=
  ∀ a e, r d = .ok (a, e) → Q a e

theorem Leaves.imp {P Q : α → Draft → Prop} (h : Leaves r d P) (hPQ : ∀ a e, P a e → Q a e) : Leaves r d Q :=
  fun a e hr => hPQ a e (h a e hr)

theorem leaves_bind {f : α → Reader β} {Q : β → Draft → Prop} (h : Leaves r d fun a e => Leaves (f a) e Q) :
    Leaves (r >>= f) d Q := by
  intro b e' hb
  change andThen r f d = .ok (b, e') at hb
  unfold andThen at hb
  split at hb
  · rename_i a e hr
    exact h a e hr b e' hb
  · cases hb

theorem leaves_pure {a : α} {Q : α → Draft → Prop} (h : Q a d) : Leaves (pure a) d Q := by
  intro b e hb
  cases hb
  exact h

theorem leaves_draft {Q : Draft → Draft → Prop} (h : Q d d) : Leaves draft d Q := by
  intro b e hb
  cases hb
  exact h

theorem leaves_change {f : Draft → Draft} {Q : Unit → Draft → Prop} (h : Q () (f d)) : Leaves (change f) d Q := by
  intro b e hb
  cases hb
  exact h

theorem leaves_failAt {line : Nat} {cause : Cause} {Q : α → Draft → Prop} : Leaves (failAt line cause) d Q := by
  intro b e hb
  cases hb

theorem leaves_fail {cause : Cause} {Q : α → Draft → Prop} : Leaves (fail cause) d Q := by
  intro b e hb
  cases hb

end Rules

section Quiet

variable {α β : Type}

/-- The same keys and the same name, now in the table at `context`. -/
structure Moves (d : Draft) (context : Key) (e : Draft) : Prop where
  keys : e.keys = d.keys
  context : e.context = context
  current : e.current = d.current

theorem Moves.trans {d e e' : Draft} {context context' : Key} (h : Moves d context e) (h' : Moves e context' e') :
    Moves d context' e' :=
  ⟨h'.keys.trans h.keys, h'.context, h'.current.trans h.current⟩

/-- A name that is listed in the table at hand stays listed. -/
theorem Moves.listed {d e : Draft} (h : Moves d d.context e) (hkey : d.context ++ [d.current] ∈ d.keys) :
    e.context ++ [e.current] ∈ e.keys := by
  rwa [h.keys, h.context, h.current]

/-- A reading that leaves the values, the keys and the place as they are. -/
def Quiet (r : Reader α) : Prop :=
  ∀ d, Leaves r d fun _ e => e.root = d.root ∧ Moves d d.context e

theorem Quiet.bind {r : Reader α} {f : α → Reader β} (hr : Quiet r) (hf : ∀ a, Quiet (f a)) : Quiet (r >>= f) := by
  intro d
  refine leaves_bind ((hr d).imp ?_)
  rintro a e ⟨hroot, hplace⟩
  refine (hf a e).imp ?_
  rintro b e' ⟨hroot', hplace'⟩
  exact ⟨hroot'.trans hroot, hplace.trans (hplace.context ▸ hplace')⟩

theorem quiet_pure (a : α) : Quiet (pure a) :=
  fun _ => leaves_pure ⟨rfl, rfl, rfl, rfl⟩

theorem quiet_next : Quiet next? := by
  intro d a e h
  unfold next? at h
  split at h
  · cases h
    exact ⟨rfl, rfl, rfl, rfl⟩
  · cases h
    exact ⟨rfl, rfl, rfl, rfl⟩
  · cases h

theorem quiet_note (name : String) (isArray : Bool) (line : Nat) : Quiet (note name isArray line) :=
  fun _ => leaves_change ⟨rfl, rfl, rfl, rfl⟩

theorem quiet_imply (key : Key) : Quiet (imply key) :=
  fun _ => leaves_change ⟨rfl, rfl, rfl, rfl⟩

theorem quiet_check (line : Nat) (fault : Option Cause) : Quiet (check line fault) := by
  cases fault with
  | none => exact quiet_pure ()
  | some cause => exact fun _ => leaves_failAt

theorem quiet_orFail (line : Nat) (result : Except Cause α) : Quiet (orFail line result) := by
  cases result with
  | ok value => exact quiet_pure value
  | error cause => exact fun _ => leaves_failAt

theorem quiet_nameOf (lexeme : Lexeme) : Quiet (nameOf lexeme) := by
  unfold nameOf
  split
  · exact quiet_pure _
  · exact quiet_orFail _ _
  · exact quiet_pure _

theorem quiet_names (fuel : Nat) : Quiet (names fuel) := by
  induction fuel with
  | zero => exact quiet_pure []
  | succ fuel ih =>
    refine quiet_next.bind ?_
    rintro (_ | lexeme)
    · exact quiet_pure []
    · dsimp only
      split
      · exact quiet_pure []
      · exact (quiet_nameOf lexeme).bind fun name => ih.bind fun rest => quiet_pure (name :: rest)

theorem quiet_key (fuel : Nat) : Quiet (key fuel) := by
  refine quiet_next.bind ?_
  rintro (_ | lexeme)
  · exact quiet_pure []
  · refine Quiet.bind (fun d => leaves_change ⟨rfl, rfl, rfl, rfl⟩) fun _ => ?_
    exact (quiet_nameOf lexeme).bind fun name => (quiet_names fuel).bind fun rest => quiet_pure (name :: rest)

end Quiet

section Tables

variable {keys : List Key} {d : Draft}

theorem leaves_define {name : String} {value : Value} (hroot : Tidy keys [] d.root)
    (hvalue : Fits keys (d.context ++ [name]) value) :
    Leaves (define name value) d fun _ e => Tidy keys [] e.root ∧ Moves d d.context e := by
  have hput : Tidy keys [] (putAt name value d.context d.root) := hroot.putAt hvalue
  refine leaves_bind (leaves_draft ?_)
  dsimp only
  -- Only a name that is free, or that of an array, gets the value. An implied table keeps its own.
  split
  · exact leaves_fail
  · split
    · exact leaves_change ⟨hput, rfl, rfl, rfl⟩
    · split
      · exact leaves_change ⟨hroot, rfl, rfl, rfl⟩
      · exact leaves_fail

/-- Tables that are made on the way to a listed key may stand there. -/
theorem leaves_enter {seen path : Key} (hroot : Tidy keys [] d.root) (hreach : ∃ k ∈ keys, seen ++ path <+: k) :
    Leaves (enter seen path) d fun _ e => Tidy keys [] e.root ∧ Moves d d.context e := by
  induction path generalizing seen d with
  | nil => exact leaves_pure ⟨hroot, rfl, rfl, rfl⟩
  | cons name path ih =>
    have hnext : ∃ k ∈ keys, seen ++ [name] ++ path <+: k := by
      rwa [List.append_assoc]
    have hmade : Tidy keys [] (putAt name (.table []) seen d.root) := by
      obtain ⟨k, hk, hle⟩ := hnext
      exact hroot.putAt (fits_table ⟨k, hk, (List.prefix_append _ _).trans hle⟩ tidy_nil)
    refine leaves_bind (leaves_draft ?_)
    dsimp only
    split
    · refine leaves_bind (leaves_change ?_)
      refine leaves_bind (leaves_change ?_)
      refine Leaves.imp (ih ?_ hnext) ?_
      · exact hmade
      · rintro _ e ⟨hroot, hplace⟩
        exact ⟨hroot, hplace.keys, hplace.context, hplace.current⟩
    · split
      · exact leaves_bind leaves_fail
      · exact ih hroot hnext

/-- A key with at least one name. -/
def filled (key : Key) : Key :=
  key.dropLast ++ [key.getLastD ""]

theorem filled_append (context : Key) (name : String) : filled (context ++ [name]) = context ++ [name] := by
  simp [filled]

theorem leaves_openTable {key : Key} {several : Bool} (hroot : Tidy keys [] d.root)
    (hkey : filled key ∈ keys ∨ several = false ∧ ∃ k ∈ keys, filled key <+: k) :
    Leaves (openTable key several) d fun _ e =>
      Tidy keys [] e.root ∧ Moves d key e := by
  have hreach : ∃ k ∈ keys, filled key <+: k := by
    rcases hkey with hkey | ⟨-, hreach⟩
    · exact ⟨_, hkey, List.prefix_rfl⟩
    · exact hreach
  have hparents : ∃ k ∈ keys, [] ++ key.dropLast <+: k := by
    obtain ⟨k, hk, hle⟩ := hreach
    exact ⟨k, hk, (List.prefix_append _ _).trans hle⟩
  refine leaves_bind ((leaves_enter hroot hparents).imp ?_)
  rintro _ e ⟨hroot, hplace⟩
  refine leaves_bind (leaves_change ?_)
  dsimp only
  -- Several tables are no table, so their key has to be listed; one table may be on the way to a key.
  split
  · rename_i hseveral
    have hlisted : filled key ∈ keys := hkey.resolve_right fun h => by simp [hseveral] at h
    have hput (items : List Members) :
        Tidy keys [] (putAt (key.getLastD "") (.tables (items ++ [[]])) key.dropLast e.root) :=
      hroot.putAt (fits_plain hlisted (by simp [Value.IsPlain, Value.IsTable]))
    refine leaves_bind (leaves_draft ?_)
    dsimp only
    split
    · exact leaves_bind (leaves_change (leaves_change ⟨hput [], hplace.keys, rfl, hplace.current⟩))
    · exact leaves_bind (leaves_change (leaves_change ⟨hput _, hplace.keys, rfl, hplace.current⟩))
    · exact leaves_bind leaves_fail
  · have htable : Fits keys (filled key) (.table []) := fits_table hreach tidy_nil
    refine leaves_bind ((leaves_define (d := { e with context := key.dropLast }) hroot htable).imp ?_)
    rintro _ e' ⟨hroot', hplace'⟩
    exact leaves_change ⟨hroot', hplace'.keys.trans hplace.keys, rfl, hplace'.current.trans hplace.current⟩

/-- Implied tables are made on the way to a listed key. -/
theorem leaves_openImplied {names : Key} (hroot : Tidy keys [] d.root)
    (hreach : ∃ k ∈ keys, d.context ++ names <+: k) :
    Leaves (openImplied names) d fun _ e =>
      Tidy keys [] e.root ∧ Moves d (d.context ++ names) e := by
  induction names generalizing d with
  | nil =>
    rw [List.append_nil]
    exact leaves_pure ⟨hroot, rfl, rfl, rfl⟩
  | cons name names ih =>
    have hnext : ∃ k ∈ keys, d.context ++ [name] ++ names <+: k := by
      rwa [List.append_assoc]
    have htable : ∃ k ∈ keys, filled (d.context ++ [name]) <+: k := by
      obtain ⟨k, hk, hle⟩ := hnext
      rw [filled_append]
      exact ⟨k, hk, (List.prefix_append _ _).trans hle⟩
    refine leaves_bind (leaves_draft ?_)
    dsimp only
    refine leaves_bind ((quiet_imply _ d).imp ?_)
    rintro _ e ⟨hsame, hplace⟩
    rw [← hsame] at hroot
    refine leaves_bind ((leaves_openTable hroot (.inr ⟨rfl, htable⟩)).imp ?_)
    rintro _ e' ⟨hroot', hplace'⟩
    have hcontext : e'.context = d.context ++ [name] := hplace'.context
    refine (ih hroot' (by rwa [hcontext])).imp ?_
    rintro _ e'' ⟨hroot'', hplace''⟩
    have hnames : e'.context ++ names = d.context ++ name :: names := by
      rw [hcontext, List.append_assoc, List.singleton_append]
    exact ⟨hroot'', (hplace.trans hplace').trans (hnames ▸ hplace'')⟩

end Tables

section Values

variable {d : Draft}

/-- The keys so far, each with at least one name. -/
def listed (d : Draft) : List Key :=
  d.keys.map filled

/-- The values so far may stand at the keys so far. -/
def IsTidy (d : Draft) : Prop :=
  Tidy (listed d) [] d.root

theorem mem_listed {context : Key} {name : String} (h : context ++ [name] ∈ d.keys) : context ++ [name] ∈ listed d :=
  List.mem_map.mpr ⟨_, h, filled_append context name⟩

/-- More was read, and all is tidy. -/
structure Grows (d e : Draft) : Prop where
  tidy : IsTidy e
  keys : d.keys ⊆ e.keys

theorem Grows.listed {e : Draft} (h : Grows d e) : listed d ⊆ listed e :=
  List.map_subset filled h.keys

theorem Grows.trans {e e' : Draft} (h : Grows d e) (h' : Grows e e') : Grows d e' :=
  ⟨h'.tidy, List.Subset.trans h.keys h'.keys⟩

theorem grows_of_same {e : Draft} (h : IsTidy d) (hroot : e.root = d.root) (hplace : Moves d d.context e) :
    Grows d e := by
  refine ⟨?_, hplace.keys ▸ List.Subset.refl _⟩
  rw [IsTidy, Reader.listed, hplace.keys, hroot]
  exact h

/-- After a key: its last name is the one to be given a value, in the table that the others lead to. -/
structure Opens (d : Draft) (path : Key) (e : Draft) : Prop where
  grows : Grows d e
  context : e.context = d.context ++ path.dropLast
  current : e.current = path.getLastD ""
  key : e.context ++ [e.current] ∈ e.keys

/-- A key is listed once its tables are made. -/
theorem leaves_openKey {path : Key} (h : IsTidy d) : Leaves (openKey path) d fun _ e => Opens d path e := by
  -- The tables are made before the key is listed, so they are held against the keys with it.
  let key : Key := d.context ++ path.dropLast ++ [path.getLastD ""]
  have hroot : Tidy (listed d ++ [key]) [] d.root := h.mono (List.subset_append_left _ _)
  have hreach : ∃ k ∈ listed d ++ [key], d.context ++ path.dropLast <+: k :=
    ⟨key, by simp, List.prefix_append _ _⟩
  refine leaves_bind (leaves_change ?_)
  refine leaves_bind ((leaves_openImplied (d := { d with current := path.getLastD "" }) hroot hreach).imp ?_)
  rintro _ e ⟨hroot', hplace⟩
  obtain ⟨hkeys, hcontext, hcurrent⟩ := hplace
  have hlisted : (e.keys ++ [e.context ++ [e.current]]).map filled = listed d ++ [key] := by
    rw [List.map_append, List.map_singleton, filled_append, hkeys, hcontext, hcurrent]
    rfl
  refine leaves_change ⟨⟨?_, ?_⟩, hcontext, hcurrent, ?_⟩
  · rw [IsTidy, listed, hlisted]
    exact hroot'
  · rw [hkeys]
    exact List.subset_append_left _ _
  · exact List.mem_append_right _ (List.mem_singleton_self _)

/-- After a value: the place is the same, and the value may be put there. -/
structure Gives (d : Draft) (v : Value) (e : Draft) : Prop where
  grows : Grows d e
  context : e.context = d.context
  current : e.current = d.current
  fits : Fits (Reader.listed e) (d.context ++ [d.current]) v

def ValueTidy (fuel : Nat) : Prop :=
  ∀ lexeme inArray d, IsTidy d → d.context ++ [d.current] ∈ d.keys → Leaves (value fuel lexeme inArray) d (Gives d)

def ItemsTidy (fuel : Nat) : Prop :=
  ∀ d, IsTidy d → d.context ++ [d.current] ∈ d.keys →
    Leaves (items fuel) d fun _ e => Grows d e ∧ e.context = d.context ∧ e.current = d.current

def PairsTidy (fuel : Nat) : Prop :=
  ∀ d members, IsTidy d → Tidy (listed d) d.context members →
    Leaves (pairs fuel d.context members) d fun members e => Grows d e ∧ Tidy (listed e) d.context members

theorem leaves_scalar {α : Type} {r : Reader α} {f : α → Value} (hr : Quiet r) (hf : ∀ a, (f a).IsPlain)
    (h : IsTidy d) (hkey : d.context ++ [d.current] ∈ d.keys) : Leaves (r >>= fun a => pure (f a)) d (Gives d) := by
  refine leaves_bind ((hr d).imp ?_)
  rintro a e ⟨hroot, hplace⟩
  have hgrows := grows_of_same h hroot hplace
  exact leaves_pure ⟨hgrows, hplace.context, hplace.current, fits_plain (hgrows.listed (mem_listed hkey)) (hf a)⟩

theorem itemsTidy_step {fuel : Nat} (hvalue : ValueTidy fuel) (hitems : ItemsTidy fuel) : ItemsTidy (fuel + 1) := by
  intro d h hkey
  refine leaves_bind ((quiet_next d).imp ?_)
  rintro lexeme e ⟨hroot, hplace⟩
  have hgrows := grows_of_same h hroot hplace
  cases lexeme with
  | none => exact leaves_pure ⟨hgrows, hplace.context, hplace.current⟩
  | some lexeme =>
    dsimp only
    split
    · exact leaves_pure ⟨hgrows, hplace.context, hplace.current⟩
    · have hkey' := hplace.listed hkey
      refine leaves_bind ((hvalue lexeme true e hgrows.tidy hkey').imp ?_)
      intro v e' hgives
      have hkey'' : e'.context ++ [e'.current] ∈ e'.keys := by
        rw [hgives.context, hgives.current]
        exact hgives.grows.keys hkey'
      refine leaves_bind ((hitems e' hgives.grows.tidy hkey'').imp ?_)
      rintro rest e'' ⟨hgrows', hcontext', hcurrent'⟩
      refine leaves_pure ⟨(hgrows.trans hgives.grows).trans hgrows', ?_, ?_⟩
      · rw [hcontext', hgives.context, hplace.context]
      · rw [hcurrent', hgives.current, hplace.current]

theorem Gives.same {v : Value} {e e' : Draft} (h : Gives d v e) (hroot : e'.root = e.root)
    (hplace : Moves e e.context e') : Gives d v e' := by
  have hgrows := h.grows.trans (grows_of_same h.grows.tidy hroot hplace)
  refine ⟨hgrows, hplace.context.trans h.context, hplace.current.trans h.current, ?_⟩
  rw [Reader.listed, hplace.keys]
  exact h.fits

theorem leaves_defined {v : Value} {e : Draft} (h : Gives d v e) :
    Leaves (define e.current v) e fun _ e' => Gives d v e' := by
  have hfits : Fits (Reader.listed e) (e.context ++ [e.current]) v := by
    rw [h.context, h.current]
    exact h.fits
  refine (leaves_define h.grows.tidy hfits).imp ?_
  rintro _ e' ⟨hroot, hplace⟩
  obtain ⟨hkeys, hcontext, hcurrent⟩ := hplace
  have hlisted : Reader.listed e' = Reader.listed e := by rw [Reader.listed, hkeys, Reader.listed]
  refine ⟨⟨?_, hkeys ▸ h.grows.keys⟩, hcontext.trans h.context, hcurrent.trans h.current, hlisted ▸ h.fits⟩
  rw [IsTidy, hlisted]
  exact hroot

/-- An array is read at the place of its key. -/
theorem leaves_array {fuel line : Nat} (hitems : ItemsTidy fuel) (h : IsTidy d)
    (hkey : d.context ++ [d.current] ∈ d.keys) :
    Leaves (do note d.current true line; pure (.array (← items fuel))) d (Gives d) := by
  refine leaves_bind ((quiet_note _ _ _ d).imp ?_)
  rintro _ e ⟨hroot, hplace⟩
  have hgrows := grows_of_same h hroot hplace
  refine leaves_bind ((hitems e hgrows.tidy (hplace.listed hkey)).imp ?_)
  rintro values e' ⟨hgrows', hcontext', hcurrent'⟩
  have hall := hgrows.trans hgrows'
  refine leaves_pure ⟨hall, hcontext'.trans hplace.context, hcurrent'.trans hplace.current, ?_⟩
  exact fits_plain (hall.listed (mem_listed hkey)) (by simp [Value.IsPlain, Value.IsTable])

theorem valueTidy_step {fuel : Nat} (hitems : ItemsTidy fuel) (hpairs : PairsTidy fuel) : ValueTidy (fuel + 1) := by
  intro lexeme inArray d h hkey
  have hlisted := mem_listed hkey
  have hscalar (v : Value) (hv : v.IsPlain) : Leaves (pure v) d (Gives d) :=
    leaves_pure ⟨⟨h, List.Subset.refl _⟩, rfl, rfl, fits_plain hlisted hv⟩
  unfold value
  split
  · exact leaves_scalar (quiet_orFail _ _) (by simp [Value.IsPlain, Value.IsTable]) h hkey
  · exact hscalar _ (by simp [Value.IsPlain, Value.IsTable])
  · exact leaves_scalar (quiet_check _ _) (by simp [Value.IsPlain, Value.IsTable]) h hkey
  · exact leaves_scalar (quiet_check _ _) (by simp [Value.IsPlain, Value.IsTable]) h hkey
  · exact leaves_scalar (quiet_check _ _) (by simp [Value.IsPlain, Value.IsTable]) h hkey
  · exact leaves_bind (leaves_draft (leaves_array hitems h hkey))
  · -- An inline table is opened as a table of its own, and its pairs are kept twice: there and in the value.
    refine leaves_bind (leaves_draft ?_)
    refine leaves_bind (leaves_change ?_)
    refine leaves_bind ((quiet_imply _ _).imp ?_)
    rintro _ opened ⟨hsame, hplace⟩
    have hopened : Tidy (listed d) [] opened.root := hsame ▸ h
    have hfilled : filled (d.context ++ [d.current]) ∈ listed d := by rwa [filled_append]
    refine leaves_bind ((leaves_openTable hopened (.inl hfilled)).imp ?_)
    rintro _ e ⟨hroot, hplace'⟩
    have hkeys : e.keys = d.keys := hplace'.keys.trans hplace.keys
    have hcontext : e.context = d.context ++ [d.current] := hplace'.context
    have hgrows : Grows d e := by
      refine ⟨?_, hkeys ▸ List.Subset.refl _⟩
      rw [IsTidy, listed, hkeys]
      exact hroot
    have hmore := hpairs e [] hgrows.tidy tidy_nil
    rw [hcontext] at hmore
    refine leaves_bind (hmore.imp ?_)
    rintro members e' ⟨hgrows', hmembers⟩
    have hall := hgrows.trans hgrows'
    refine leaves_bind (leaves_change (leaves_pure ⟨⟨hall.tidy, hall.keys⟩, rfl, rfl, ?_⟩))
    exact fits_table ⟨_, hall.listed hlisted, List.prefix_rfl⟩ hmembers
  · exact hscalar _ isPlain_default

/-- What is read after a key. -/
theorem leaves_opened {β : Type} {fuel : Nat} {f : Key → Reader β} {Q : β → Draft → Prop} (h : IsTidy d)
    (hf : ∀ path e, Opens d path e → Leaves (f path) e Q) :
    Leaves (do let path ← key fuel; openKey path; f path) d Q := by
  refine leaves_bind ((quiet_key fuel d).imp ?_)
  rintro path e ⟨hroot, hplace⟩
  have hgrows := grows_of_same h hroot hplace
  refine leaves_bind ((leaves_openKey hgrows.tidy).imp ?_)
  intro _ e' hopens
  exact hf path e' ⟨hgrows.trans hopens.grows, by rw [hopens.context, hplace.context], hopens.current, hopens.key⟩

/-- What is read after the value of a key, which is put in its place. -/
theorem leaves_assigned {β : Type} {fuel : Nat} {lexeme : Lexeme} {f : Value → Draft → Reader β}
    {Q : β → Draft → Prop} (hvalue : ValueTidy fuel) (h : IsTidy d) (hkey : d.context ++ [d.current] ∈ d.keys)
    (hf : ∀ inner e e', e.current = d.current → Gives d inner e' → Leaves (f inner e) e' Q) :
    Leaves (do let inner ← value fuel lexeme false; let e ← draft; define e.current inner; f inner e) d Q := by
  refine leaves_bind ((hvalue lexeme false d h hkey).imp ?_)
  intro inner e hgives
  refine leaves_bind (leaves_draft ?_)
  refine leaves_bind ((leaves_defined hgives).imp ?_)
  intro _ e' hgives'
  exact hf inner e e' hgives.current hgives'

theorem pairsTidy_step {fuel : Nat} (hvalue : ValueTidy fuel) (hpairs : PairsTidy fuel) : PairsTidy (fuel + 1) := by
  intro d members h hmembers
  refine leaves_bind ((quiet_next d).imp ?_)
  rintro start e ⟨hroot, hplace⟩
  have hgrows := grows_of_same h hroot hplace
  have hdone : Leaves (pure members) e fun members e => Grows d e ∧ Tidy (listed e) d.context members :=
    leaves_pure ⟨hgrows, hmembers.mono hgrows.listed⟩
  cases start with
  | none => exact hdone
  | some start =>
    dsimp only
    split
    · exact hdone
    refine leaves_opened hgrows.tidy ?_
    intro path e₁ hopens
    refine leaves_bind ((quiet_next e₁).imp ?_)
    rintro lexeme e₂ ⟨hroot₂, hplace₂⟩
    have hgrows₂ := (hgrows.trans hopens.grows).trans (grows_of_same hopens.grows.tidy hroot₂ hplace₂)
    cases lexeme with
    | none => exact leaves_pure ⟨hgrows₂, hmembers.mono hgrows₂.listed⟩
    | some lexeme =>
      refine leaves_assigned hvalue hgrows₂.tidy (hplace₂.listed hopens.key) ?_
      intro inner outer e₃ hcurrent hgives
      refine leaves_bind ((quiet_note _ _ _ e₃).imp ?_)
      rintro _ e₄ ⟨hroot₄, hplace₄⟩
      have hgives := hgives.same hroot₄ hplace₄
      have hgrows₄ := hgrows₂.trans hgives.grows
      split
      · exact leaves_fail
      · rename_i inserted hinserted
        have hcontext : e₂.context = d.context ++ path.dropLast := by
          rw [hplace₂.context, hopens.context, hplace.context]
        have hinner : Fits (listed e₄) (d.context ++ path.dropLast ++ [outer.current]) inner := by
          rw [← hcontext, hcurrent]
          exact hgives.fits
        -- The pair went into the tables of the draft, and now goes into the value that is built beside them.
        have htidy := (hmembers.mono hgrows₄.listed).insertAt hinner hinserted
        refine leaves_bind (leaves_change ?_)
        refine (hpairs { e₄ with context := d.context } inserted hgrows₄.tidy htidy).imp ?_
        rintro all e₅ ⟨hgrows₅, hall⟩
        exact ⟨⟨hgrows₅.tidy, List.Subset.trans hgrows₄.keys hgrows₅.keys⟩, hall⟩

theorem values_tidy (fuel : Nat) : ValueTidy fuel ∧ ItemsTidy fuel ∧ PairsTidy fuel := by
  -- The three readers call one another with less fuel, so one induction carries all three.
  induction fuel with
  | zero =>
    refine ⟨?_, ?_, ?_⟩
    · intro lexeme inArray d h hkey
      exact leaves_pure ⟨⟨h, List.Subset.refl _⟩, rfl, rfl, fits_plain (mem_listed hkey) isPlain_default⟩
    · exact fun d h _ => leaves_pure ⟨⟨h, List.Subset.refl _⟩, rfl, rfl⟩
    · exact fun d members h hmembers => leaves_pure ⟨⟨h, List.Subset.refl _⟩, hmembers⟩
  | succ fuel ih =>
    obtain ⟨hvalue, hitems, hpairs⟩ := ih
    exact ⟨valueTidy_step hitems hpairs, itemsTidy_step hvalue hitems, pairsTidy_step hvalue hpairs⟩

end Values

section Lines

variable {d : Draft}

theorem leaves_keyLine {fuel : Nat} (h : IsTidy d) : Leaves (keyLine fuel) d fun _ e => IsTidy e := by
  refine leaves_bind (leaves_draft ?_)
  refine leaves_opened h ?_
  intro path e₁ hopens
  refine leaves_bind ((quiet_next e₁).imp ?_)
  rintro lexeme e₂ ⟨hroot, hplace⟩
  have hgrows := hopens.grows.trans (grows_of_same hopens.grows.tidy hroot hplace)
  cases lexeme with
  | none => exact leaves_pure hgrows.tidy
  | some lexeme =>
    refine leaves_assigned (values_tidy fuel).1 hgrows.tidy (hplace.listed hopens.key) ?_
    intro inner outer e₃ _ hgives
    refine leaves_bind ((quiet_note _ _ _ e₃).imp ?_)
    rintro _ e₄ ⟨hroot₄, hplace₄⟩
    exact leaves_change (hgives.same hroot₄ hplace₄).grows.tidy

/-- The key of a table is listed after the table was made. -/
theorem leaves_tableLine {fuel line : Nat} {several : Bool} (h : IsTidy d) :
    Leaves (tableLine fuel line several) d fun _ e => IsTidy e := by
  refine leaves_bind ((quiet_key fuel d).imp ?_)
  rintro path e ⟨hroot, hplace⟩
  have htidy := (grows_of_same h hroot hplace).tidy
  -- All along, the values are held against the keys with the one that is listed at the end.
  have hmore : Tidy (listed e ++ [filled path]) [] e.root := htidy.mono (List.subset_append_left _ _)
  have hpath : filled path ∈ listed e ++ [filled path] := List.mem_append_right _ (List.mem_singleton_self _)
  refine leaves_bind ((leaves_openTable hmore (.inl hpath)).imp ?_)
  rintro _ e₁ ⟨hroot₁, hplace₁⟩
  refine leaves_bind ((quiet_note _ _ _ e₁).imp ?_)
  rintro _ e₂ ⟨hroot₂, hplace₂⟩
  have hlisted : (e₂.keys ++ [path]).map filled = listed e ++ [filled path] := by
    rw [hplace₂.keys, hplace₁.keys, List.map_append, List.map_singleton, listed]
  refine leaves_change ?_
  rw [IsTidy, listed, hlisted, hroot₂]
  exact hroot₁

theorem leaves_lines {fuel : Nat} (h : IsTidy d) : Leaves (lines fuel) d fun _ e => IsTidy e := by
  induction fuel generalizing d with
  | zero => exact leaves_pure h
  | succ fuel ih =>
    refine leaves_bind ((quiet_next d).imp ?_)
    rintro lexeme e ⟨hroot, hplace⟩
    have htidy := (grows_of_same h hroot hplace).tidy
    cases lexeme with
    | none => exact leaves_pure htidy
    | some lexeme =>
      dsimp only
      split
      · exact leaves_bind ((leaves_tableLine htidy).imp fun _ _ htidy => ih htidy)
      · exact leaves_bind ((leaves_tableLine htidy).imp fun _ _ htidy => ih htidy)
      · exact leaves_bind ((leaves_keyLine htidy).imp fun _ _ htidy => ih htidy)

end Lines

end Reader

namespace Document

open Reader

variable {text : String} {document : Document} {key : Key} {value : Value}

theorem read_tidy (h : Document.read text = .ok document) : Tidy (document.keys.map filled) [] document.root := by
  unfold Document.read at h
  dsimp only at h
  split at h
  · cases h
  split at h
  · cases h
  rename_i d hlines
  obtain rfl := Except.ok.inj h
  exact leaves_lines (tidy_nil : IsTidy { input := _ }) () d hlines

theorem mem_keys_of_filled {keys : List Key} (h : key ∈ keys.map filled) (hkey : key ≠ [""]) :
    key ∈ keys := by
  obtain ⟨k, hk, rfl⟩ := List.mem_map.mp h
  cases k using List.reverseRecOn with
  | nil => exact absurd rfl hkey
  | append_singleton context name => rwa [filled_append]

theorem isPlain_of_holds (h : Document.read text = .ok document) (hholds : Holds document.root key value)
    (hother : ¬ value.IsTable) : value.IsPlain :=
  (((read_tidy h).listed hholds).plain hother).1

/-- A value that is no table stands at a key of the document. -/
theorem mem_keys_of_holds (h : Document.read text = .ok document) (hholds : Holds document.root key value)
    (hother : ¬ value.IsTable) (hkey : key ≠ [""]) : key ∈ document.keys :=
  mem_keys_of_filled (((read_tidy h).listed hholds).plain hother).2 hkey

theorem holds_unique {other : Value} (h : Document.read text = .ok document)
    (hvalue : Holds document.root key value) (hother : Holds document.root key other) : value = other :=
  (read_tidy h).unique hvalue hother

end Document

end Keystroke.Toml
