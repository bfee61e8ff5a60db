import Keystroke.Proofs.Locality

/-! The entries of a statement: one for each instruction, in order, or the report of a diagnostic. They can be
made unless a dotted keycode is to be shown on a keypad without a decimal point key. -/
namespace Keystroke.Listing

open Keystroke.Command Keystroke.Statement

section All

variable {α β ε : Type} {f : α → Except ε β}

theorem exists_of_forall₂ {R : α → β → Prop} {xs : List α} {ys : List β}
    (h : List.Forall₂ R xs ys) : ∀ y ∈ ys, ∃ x ∈ xs, R x y := by
  induction h with
  | nil => simp
  | @cons x y xs ys hr _ ih =>
    intro z hz
    rcases List.mem_cons.mp hz with rfl | hz
    · exact ⟨x, by simp, hr⟩
    · obtain ⟨x', hx', hr'⟩ := ih z hz
      exact ⟨x', by simp [hx'], hr'⟩

theorem forall₂_of_mapM {xs : List α} {ys : List β} (h : xs.mapM f = .ok ys) :
    List.Forall₂ (fun x y => f x = .ok y) xs ys := by
  induction xs generalizing ys with
  | nil =>
    obtain rfl : ys = [] := by simpa [pure, Except.pure] using h.symm
    exact .nil
  | cons x xs ih =>
    rw [List.mapM_cons] at h
    cases hx : f x with
    | error fault => simp [hx, bind, Except.bind] at h
    | ok y =>
      cases hxs : xs.mapM f with
      | error fault => simp [hx, hxs, bind, Except.bind] at h
      | ok others =>
        obtain rfl : y :: others = ys := by
          simpa [hx, hxs, bind, Except.bind, pure, Except.pure] using h
        exact .cons hx (ih hxs)

/-- If there is one kind of fault only, it does not matter where it comes up. -/
theorem mapM_error_iff {fault : ε} {P : α → Prop} (hf : ∀ x e, f x = .error e ↔ e = fault ∧ P x)
    (xs : List α) (e : ε) : xs.mapM f = .error e ↔ e = fault ∧ ∃ x ∈ xs, P x := by
  induction xs with
  | nil => simp [pure, Except.pure]
  | cons x xs ih =>
    rw [List.mapM_cons, List.exists_mem_cons_iff]
    cases hx : f x with
    | error e' =>
      obtain ⟨rfl, hp⟩ := (hf x e').mp hx
      simp only [bind, Except.bind, Except.error.injEq]
      constructor
      · rintro rfl
        exact ⟨rfl, Or.inl hp⟩
      · rintro ⟨rfl, -⟩
        rfl
    | ok y =>
      have hnot : ¬ P x := by
        intro hp
        rw [(hf x fault).mpr ⟨rfl, hp⟩] at hx
        simp at hx
      rw [or_iff_right hnot, ← ih]
      cases xs.mapM f <;> simp [bind, Except.bind, pure, Except.pure]

end All

/-- A record as it is shown, with remarks if it is the last of its line. -/
structure Remarked (rest : List String) (record shown : Record) : Prop where
  path : shown.path = record.path
  keycodes : shown.keycodes = record.keycodes
  shift : shown.shift = record.shift
  comment : shown.comment = record.comment
  remarks : shown.remarks = record.remarks ∨ shown.remarks = " ".intercalate rest

theorem remarked_refl (rest : List String) (record : Record) : Remarked rest record record :=
  ⟨rfl, rfl, rfl, rfl, Or.inl rfl⟩

theorem withRemarks_remarked (conv : Converter) (rest : List String) (records : List Record) :
    List.Forall₂ (Remarked rest) records (conv.withRemarks rest records) := by
  fun_induction Converter.withRemarks conv rest records with
  | case1 => exact .nil
  | case2 record =>
    refine .cons ?_ .nil
    split_ifs
    · exact ⟨rfl, rfl, rfl, rfl, Or.inr rfl⟩
    · exact remarked_refl rest record
  | case3 record records _ ih => exact .cons (remarked_refl rest record) ih

theorem showKeycodes_eq_mapM (options : Options) (table : Table) (keycodes : List String) :
    showKeycodes options table keycodes = keycodes.mapM (showKeycode options table) := by
  induction keycodes with
  | nil => rfl
  | cons keycode keycodes ih =>
    rw [showKeycodes, List.mapM_cons, ← ih]
    cases showKeycode options table keycode with
    | error fault => rfl
    | ok shown => cases showKeycodes options table keycodes <;> rfl

theorem ofRecords_eq_mapM (options : Options) (table : Table) (records : List Record) :
    Entry.ofRecords options table records = records.mapM (Entry.ofRecord options table) := by
  induction records with
  | nil => rfl
  | cons record records ih =>
    rw [Entry.ofRecords, List.mapM_cons, ← ih]
    cases Entry.ofRecord options table record with
    | error fault => rfl
    | ok e => cases Entry.ofRecords options table records <;> rfl

/-- A dotted keycode is to be shown with the key of the decimal point, which is missing. -/
structure NotShown (options : Options) (table : Table) (keycode : String) : Prop where
  simulator : options.simulator = true
  no_point : table.root.child? "." = none
  two_bytes : 2 ≤ keycode.utf8ByteSize
  point : keycode.toList.head? = some '.'

theorem showKeycode_error_iff (options : Options) (table : Table) (keycode : String) (fault : Fault) :
    showKeycode options table keycode = .error fault ↔
      fault = .noPointKey ∧ NotShown options table keycode := by
  unfold showKeycode
  by_cases hd : (options.simulator && isDotted keycode) = true
  · rw [if_pos hd]
    simp only [isDotted, Bool.and_eq_true, decide_eq_true_eq, beq_iff_eq] at hd
    obtain ⟨hs, hsize, hpoint⟩ := hd
    cases hchild : table.root.child? "." with
    | none =>
      simp only [Except.error.injEq]
      exact ⟨fun h => ⟨h.symm, hs, hchild, hsize, hpoint⟩, fun h => h.1.symm⟩
    | some point =>
      simp only [reduceCtorEq, false_iff]
      rintro ⟨-, hn⟩
      simp [hn.no_point] at hchild
  · rw [if_neg hd]
    simp only [reduceCtorEq, false_iff]
    rintro ⟨-, hn⟩
    apply hd
    simp [isDotted, hn.simulator, hn.two_bytes, hn.point]

/-- A keycode is shown as it is, or else the point in front of it as the key of the decimal point. -/
theorem showKeycode_ok {options : Options} {table : Table} {keycode shown : String}
    (h : showKeycode options table keycode = .ok shown) :
    shown = keycode ∨ ∃ point rest, table.root.child? "." = some point ∧ keycode.toList = '.' :: rest ∧
      shown = point.keycode ++ "  " ++ String.ofList rest := by
  unfold showKeycode at h
  split_ifs at h with hd
  · right
    simp only [isDotted, Bool.and_eq_true, beq_iff_eq] at hd
    obtain ⟨rest, hk⟩ := List.head?_eq_some_iff.mp hd.2.2
    cases hc : table.root.child? "." with
    | none => simp [hc] at h
    | some point => exact ⟨point, rest, rfl, hk, by simpa [hc, hk] using h.symm⟩
  · exact Or.inl (Except.ok.inj h).symm

/-- What holds of the characters of all keycodes and of blanks holds of a keycode as it is shown. -/
theorem all_showKeycode {options : Options} {table : Table} {keycode shown : String} {p : Char → Bool}
    (h : showKeycode options table keycode = .ok shown) (hk : keycode.toList.all p = true)
    (hpoint : ∀ point, table.root.child? "." = some point → point.keycode.toList.all p = true)
    (hblank : p ' ' = true) : shown.toList.all p = true := by
  rcases showKeycode_ok h with rfl | ⟨point, rest, hc, hrest, rfl⟩
  · exact hk
  · rw [hrest, List.all_cons, Bool.and_eq_true] at hk
    have hblanks : "  ".toList = [' ', ' '] := rfl
    simp [hblanks, hpoint point hc, hblank, hk.2]

theorem ofRecord_error_iff (options : Options) (table : Table) (record : Record) (fault : Fault) :
    Entry.ofRecord options table record = .error fault ↔
      fault = .noPointKey ∧ ∃ keycode ∈ record.keycodes, NotShown options table keycode := by
  rw [← mapM_error_iff (showKeycode_error_iff options table), ← showKeycodes_eq_mapM, Entry.ofRecord]
  cases showKeycodes options table record.keycodes <;> simp

theorem entries_error_iff (conv : Converter) (r : Resolution) (fault : Fault) :
    conv.entries r = .error fault ↔ fault = .noPointKey ∧ r.diagnostic = none ∧
      ∃ record ∈ r.records, ∃ keycode ∈ record.keycodes,
        NotShown conv.options conv.table keycode := by
  unfold Converter.entries
  cases r.diagnostic with
  | some d => simp
  | none =>
    have hkeycodes : (conv.withRemarks r.rest r.records).map Record.keycodes =
        r.records.map Record.keycodes := by
      refine List.forall₂_eq_eq_eq ▸ ?_
      rw [List.forall₂_map_left_iff, List.forall₂_map_right_iff]
      exact (withRemarks_remarked conv r.rest r.records).flip.imp fun _ _ h => h.keycodes
    have hexists (records : List Record) (P : List String → Prop) :
        (∃ record ∈ records, P record.keycodes) ↔
          ∃ keycodes ∈ records.map Record.keycodes, P keycodes := by
      simp
    simp only
    rw [ofRecords_eq_mapM, mapM_error_iff (ofRecord_error_iff conv.options conv.table),
      hexists _ (fun keycodes => ∃ keycode ∈ keycodes, NotShown conv.options conv.table keycode),
      hkeycodes, ← hexists]
    simp

/-- An entry shows an instruction. -/
def Shows (options : Options) (table : Table) (rest : List String) (record : Record) (e : Entry) :
    Prop :=
  ∃ codes remarked,
    List.Forall₂ (fun keycode shown => showKeycode options table keycode = .ok shown)
      record.keycodes codes ∧
    Remarked rest record remarked ∧ e = .instruction (" ".intercalate codes) (recordText options remarked)

theorem shows_of_ofRecord {options : Options} {table : Table} {rest : List String}
    {record remarked : Record} {e : Entry} (hr : Remarked rest record remarked)
    (h : Entry.ofRecord options table remarked = .ok e) : Shows options table rest record e := by
  unfold Entry.ofRecord at h
  rw [hr.keycodes, showKeycodes_eq_mapM] at h
  cases hc : record.keycodes.mapM (showKeycode options table) with
  | error fault => simp [hc] at h
  | ok codes => exact ⟨codes, remarked, forall₂_of_mapM hc, hr, by simpa [hc] using h.symm⟩

theorem forall₂_shows {options : Options} {table : Table} {rest : List String}
    {records remarked : List Record} {es : List Entry}
    (hr : List.Forall₂ (Remarked rest) records remarked)
    (he : List.Forall₂ (fun record e => Entry.ofRecord options table record = .ok e) remarked es) :
    List.Forall₂ (Shows options table rest) records es := by
  induction hr generalizing es with
  | nil =>
    obtain rfl := List.forall₂_nil_left_iff.mp he
    exact .nil
  | cons hfirst _ ih =>
    obtain ⟨e, others, hentry, hothers, rfl⟩ := List.forall₂_cons_left_iff.mp he
    exact .cons (shows_of_ofRecord hfirst hentry) (ih hothers)

/-- The entries of a statement are the report of its diagnostic, or show its instructions in order. -/
theorem entries_ok {conv : Converter} {r : Resolution} {es : List Entry}
    (h : conv.entries r = .ok es) :
    (∃ d, r.diagnostic = some d ∧ es = [.report d]) ∨
      r.diagnostic = none ∧ List.Forall₂ (Shows conv.options conv.table r.rest) r.records es := by
  unfold Converter.entries at h
  cases hd : r.diagnostic with
  | some d =>
    rw [hd] at h
    exact Or.inl ⟨d, rfl, by simpa using h.symm⟩
  | none =>
    rw [hd] at h
    dsimp only at h
    rw [ofRecords_eq_mapM] at h
    refine Or.inr ⟨rfl, ?_⟩
    exact forall₂_shows (withRemarks_remarked conv r.rest r.records) (forall₂_of_mapM h)

end Keystroke.Listing
