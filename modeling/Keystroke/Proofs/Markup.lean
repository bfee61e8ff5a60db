import Keystroke.Markup
import Mathlib.Data.List.Basic

/-! The grammar of listings. Escaped text has its special characters in entities only; around pieces of it
stand spans, none inside another. Escaping can be undone. -/
namespace Keystroke.Markup

/-- Characters with no meaning in markup. -/
def isPlain (c : Char) : Bool :=
  !(c == '&' || c == '<' || c == '>')

/-- The entities of the special characters. -/
def entities : List (List Char) :=
  ["&amp;".toList, "&lt;".toList, "&gt;".toList]

/-- Text in which special characters stand in entities only. -/
inductive Escaped : List Char → Prop
  | nil : Escaped []
  | char {c : Char} {cs : List Char} : isPlain c = true → Escaped cs → Escaped (c :: cs)
  | entity {e cs : List Char} : e ∈ entities → Escaped cs → Escaped (e ++ cs)

/-- The classes of spans. -/
def classes : List String :=
  ["MCerror", "MCcommand", "MCargument"]

/-- Escaped text and complete spans of escaped text, one after the other. -/
inductive Inline : List Char → Prop
  | nil : Inline []
  | text {cs ds : List Char} : Escaped cs → Inline ds → Inline (cs ++ ds)
  | element {className : String} {body ds : List Char} : className ∈ classes → Escaped body →
    Inline ds → Inline ("<span class=\"".toList ++ className.toList ++ "\">".toList ++ body
      ++ "</span>".toList ++ ds)

theorem Escaped.append {cs ds : List Char} (hc : Escaped cs) (hd : Escaped ds) :
    Escaped (cs ++ ds) := by
  induction hc with
  | nil => exact hd
  | char hplain _ ih => exact .char hplain ih
  | entity he _ ih =>
    rw [List.append_assoc]
    exact .entity he ih

theorem escaped_of_plain {cs : List Char} (h : cs.all isPlain = true) : Escaped cs := by
  induction cs with
  | nil => exact .nil
  | cons c cs ih =>
    rw [List.all_cons, Bool.and_eq_true] at h
    exact .char h.1 (ih h.2)

theorem escaped_entity (c : Char) : Escaped (entity c) := by
  have hone {e : List Char} (he : e ∈ entities) : Escaped e := by simpa using Escaped.entity he .nil
  unfold entity
  split_ifs with hamp hlt hgt
  · exact hone (by simp [entities])
  · exact hone (by simp [entities])
  · exact hone (by simp [entities])
  · exact .char (by simp [isPlain, hamp, hlt, hgt]) .nil

theorem escaped_escape (text : String) : Escaped (escape text).toList := by
  rw [escape, String.toList_ofList]
  induction text.toList with
  | nil => exact .nil
  | cons c cs ih =>
    rw [List.flatMap_cons]
    exact (escaped_entity c).append ih

theorem Escaped.inline {cs : List Char} (h : Escaped cs) : Inline cs := by
  simpa using Inline.text h .nil

theorem Inline.append {cs ds : List Char} (hc : Inline cs) (hd : Inline ds) : Inline (cs ++ ds) := by
  induction hc with
  | nil => exact hd
  | text he _ ih =>
    rw [List.append_assoc]
    exact .text he ih
  | element hclass hbody _ ih =>
    rw [List.append_assoc]
    exact .element hclass hbody ih

theorem inline_append {a b : String} (ha : Inline a.toList) (hb : Inline b.toList) :
    Inline (a ++ b).toList := by
  rw [String.toList_append]
  exact ha.append hb

theorem inline_plain (text : String) (h : text.toList.all isPlain = true) : Inline text.toList :=
  (escaped_of_plain h).inline

theorem span_eq (className text : String) :
    span className text = "<span class=\"" ++ className ++ "\">" ++ text ++ "</span>" := rfl

theorem inline_span {className text : String} (hc : className ∈ classes) (ht : Escaped text.toList) :
    Inline (span className text).toList := by
  rw [span_eq]
  simpa only [String.toList_append, List.append_nil] using Inline.element hc ht .nil

theorem inline_intercalate {sep : String} (hs : Inline sep.toList) {parts : List String}
    (h : ∀ part ∈ parts, Inline part.toList) : Inline (sep.intercalate parts).toList := by
  induction parts with
  | nil => exact .nil
  | cons part parts ih =>
    cases parts with
    | nil => simpa using h part (by simp)
    | cons next parts =>
      rw [String.intercalate_cons_cons]
      exact inline_append (inline_append (h part (by simp)) hs) (ih fun p hp => h p (by simp [hp]))

theorem inline_join {parts : List String} (h : ∀ part ∈ parts, Inline part.toList) :
    Inline (String.join parts).toList := by
  induction parts with
  | nil => exact .nil
  | cons part parts ih =>
    rw [String.join_cons]
    exact inline_append (h part (by simp)) (ih fun p hp => h p (by simp [hp]))

/-- Replaces each entity by the character it stands for. -/
def decode : List Char → List Char
  | '&' :: 'a' :: 'm' :: 'p' :: ';' :: rest => '&' :: decode rest
  | '&' :: 'l' :: 't' :: ';' :: rest => '<' :: decode rest
  | '&' :: 'g' :: 't' :: ';' :: rest => '>' :: decode rest
  | c :: rest => c :: decode rest
  | [] => []

theorem decode_cons {c : Char} (h : c ≠ '&') (cs : List Char) : decode (c :: cs) = c :: decode cs := by
  rw [decode]
  all_goals
    intros
    simp_all

theorem decode_entity_append (c : Char) (cs : List Char) :
    decode (entity c ++ cs) = c :: decode cs := by
  unfold entity
  split_ifs with hamp hlt hgt
  · rw [hamp]
    rfl
  · rw [hlt]
    rfl
  · rw [hgt]
    rfl
  · exact decode_cons hamp cs

theorem decode_escape (text : String) : decode (escape text).toList = text.toList := by
  rw [escape, String.toList_ofList]
  induction text.toList with
  | nil => rfl
  | cons c cs ih => rw [List.flatMap_cons, decode_entity_append, ih]

/-- Escaping brings in only characters of the entities. -/
theorem mem_of_mem_escape {text : String} {c : Char} (h : c ∈ (escape text).toList)
    (hc : c ∉ entities.flatten) : c ∈ text.toList := by
  rw [escape, String.toList_ofList] at h
  obtain ⟨d, hd, hm⟩ := List.mem_flatMap.mp h
  have hin {e : List Char} (he : e ∈ entities) (hm : c ∈ e) : c ∈ text.toList :=
    absurd (List.mem_flatten.mpr ⟨e, he, hm⟩) hc
  unfold entity at hm
  split_ifs at hm
  · exact hin (by simp [entities]) hm
  · exact hin (by simp [entities]) hm
  · exact hin (by simp [entities]) hm
  · rw [List.mem_singleton.mp hm]
    exact hd

end Keystroke.Markup
