import Keystroke.Proofs.Numbering

/-! How a program is laid out. Lines count by their words alone, and it makes no difference whether they end in a
line feed or in a carriage return with a line feed. -/
namespace Keystroke.Text

/-- The words of the lines between line feeds, without the lines that have none. -/
def feedLines (text : String) : List (List String) :=
  (((splitFeed text.toList).map String.ofList).map words).filter (!·.isEmpty)

/-- A line feed with a carriage return in front, any other character as it is. -/
def returnFeed (c : Char) : List Char :=
  if c = '\n' then ['\r', '\n'] else [c]

/-- A text in which each line feed has a carriage return in front. -/
def withReturns (text : String) : String :=
  String.ofList (text.toList.flatMap returnFeed)

/-- Without carriage returns, the lines that have words are those between line feeds. -/
theorem nonblank_wordLines_eq_feedLines {text : String} (h : '\r' ∉ text.toList) :
    (wordLines text).filter (!·.isEmpty) = feedLines text := by
  rw [nonblank_wordLines, nonblank_lineChars h, feedLines, nonblank_words]

theorem returnFeed_other {c : Char} (h : c ≠ '\n') : returnFeed c = [c] :=
  if_neg h

theorem flatMap_returnFeed_of_not_mem {cs : List Char} (h : '\n' ∉ cs) :
    cs.flatMap returnFeed = cs := by
  induction cs with
  | nil => rfl
  | cons c cs ih =>
    rw [List.mem_cons, not_or] at h
    rw [List.flatMap_cons, returnFeed_other (Ne.symm h.1), ih h.2, List.singleton_append]

theorem dropWhile_returnFeed (cs : List Char) :
    (cs.flatMap returnFeed).dropWhile isBlank = (cs.dropWhile isBlank).flatMap returnFeed := by
  induction cs with
  | nil => rfl
  | cons c cs ih =>
    rw [List.flatMap_cons]
    by_cases hc : c = '\n'
    · -- Both characters of the pair are blank, as the line feed is.
      subst hc
      exact ih
    · rw [returnFeed_other hc, List.singleton_append]
      by_cases hb : isBlank c = true
      · rw [List.dropWhile_cons_of_pos hb, List.dropWhile_cons_of_pos hb, ih]
      · rw [List.dropWhile_cons_of_neg hb, List.dropWhile_cons_of_neg hb, List.flatMap_cons,
          returnFeed_other hc, List.singleton_append]

theorem hasReturnFeed_cons {c : Char} (h : c ≠ '\r') (cs : List Char) :
    hasReturnFeed (c :: cs) = hasReturnFeed cs := by
  simp [hasReturnFeed, h]

theorem splitReturnFeed_cons {c : Char} (h : c ≠ '\r') (cs : List Char) :
    splitReturnFeed (c :: cs) = consLine c (splitReturnFeed cs) := by
  simp [splitReturnFeed, h]

theorem hasReturnFeed_returnFeed {cs : List Char} (hr : '\r' ∉ cs) (hf : '\n' ∈ cs) :
    hasReturnFeed (cs.flatMap returnFeed) = true := by
  induction cs with
  | nil => simp at hf
  | cons c cs ih =>
    rw [List.mem_cons, not_or] at hr
    by_cases hc : c = '\n'
    · subst hc
      rfl
    · have hrest : '\n' ∈ cs := (List.mem_cons.mp hf).resolve_left (Ne.symm hc)
      rw [List.flatMap_cons, returnFeed_other hc, List.singleton_append,
        hasReturnFeed_cons (Ne.symm hr.1), ih hr.2 hrest]

theorem splitReturnFeed_returnFeed {cs : List Char} (hr : '\r' ∉ cs) :
    splitReturnFeed (cs.flatMap returnFeed) = splitFeed cs := by
  induction cs with
  | nil => rfl
  | cons c cs ih =>
    rw [List.mem_cons, not_or] at hr
    by_cases hc : c = '\n'
    · subst hc
      exact congrArg ([] :: ·) (ih hr.2)
    · rw [List.flatMap_cons, returnFeed_other hc, List.singleton_append,
        splitReturnFeed_cons (Ne.symm hr.1), ih hr.2, splitFeed, if_neg hc]

/-- The separator that is chosen for a text fits the line feeds it has behind the leading white space. -/
theorem lineChars_returnFeed {cs : List Char} (h : '\r' ∉ cs) :
    lineChars (cs.flatMap returnFeed) = lineChars cs := by
  have htrim : '\r' ∉ cs.dropWhile isBlank := fun hm => h ((List.dropWhile_sublist _).mem hm)
  unfold lineChars
  rw [dropWhile_returnFeed]
  generalize cs.dropWhile isBlank = text at htrim
  by_cases hf : '\n' ∈ text
  · have hne : text ≠ [] := List.ne_nil_of_mem hf
    have hpairs := hasReturnFeed_returnFeed htrim hf
    have hne' : text.flatMap returnFeed ≠ [] := by
      intro hnil
      rw [hnil] at hpairs
      simp [hasReturnFeed] at hpairs
    -- With a line feed left the pairs separate the lines, else there is a single line either way.
    simp only [List.isEmpty_eq_false_iff.mpr hne, List.isEmpty_eq_false_iff.mpr hne', hpairs,
      hasReturnFeed_of_not_mem htrim, splitReturnFeed_returnFeed htrim]
    rfl
  · rw [flatMap_returnFeed_of_not_mem hf]

theorem lines_withReturns {text : String} (h : '\r' ∉ text.toList) :
    lines (withReturns text) = lines text := by
  rw [lines, withReturns, String.toList_ofList, lineChars_returnFeed h, lines]

end Keystroke.Text

namespace Keystroke.Listing

open Keystroke.Command Keystroke.Statement Keystroke.Text

/-- The entries of a text depend on nothing but the words of the lines that have any. -/
theorem listed_eq_feedLines (conv : Converter) {text : String} (h : '\r' ∉ text.toList) :
    conv.listed text = conv.outcome (feedLines text) := by
  rw [listed_eq_outcome, ← outcome_nonblank, nonblank_wordLines_eq_feedLines h]

/-- Two texts whose lines have the same words, apart from lines without words, have the same listing or the same
fault. A text and the same text with carriage returns before its line feeds are converted alike. -/
theorem listing_layout_invariant (conv : Converter) :
    (∀ a b : String, '\r' ∉ a.toList → '\r' ∉ b.toList → feedLines a = feedLines b →
      (conv.convert a).listing = (conv.convert b).listing) ∧
    ∀ text : String, '\r' ∉ text.toList → conv.convert (withReturns text) = conv.convert text := by
  constructor
  · intro a b ha hb hwords
    have hlisted : conv.listed a = conv.listed b := by
      rw [listed_eq_feedLines conv ha, listed_eq_feedLines conv hb, hwords]
    rw [convert_listing_eq, convert_listing_eq, hlisted]
  · intro text h
    unfold Converter.convert
    rw [lines_withReturns h]

theorem listing_layout_invariant_jump :
    feedLines "\n\tgo  to a \n \n12\n" = [["go", "to", "a"], ["12"]] ∧
    feedLines "go to a\n12" = [["go", "to", "a"], ["12"]] ∧
    (jumpConverter.convert "\n\tgo  to a \n \n12\n").listing =
      (jumpConverter.convert "go to a\n12").listing ∧
    jumpConverter.convert "\r\n\tgo  to a \r\n \r\n12\r\n" =
      jumpConverter.convert "\n\tgo  to a \n \n12\n" := by
  obtain ⟨hwords, hreturns⟩ := listing_layout_invariant jumpConverter
  have hwide : feedLines "\n\tgo  to a \n \n12\n" = [["go", "to", "a"], ["12"]] := by decide
  have hplain : feedLines "go to a\n12" = [["go", "to", "a"], ["12"]] := by decide
  refine ⟨hwide, hplain, ?_, ?_⟩
  · exact hwords _ _ (by decide) (by decide) (hwide.trans hplain.symm)
  · exact hreturns "\n\tgo  to a \n \n12\n" (by decide)

end Keystroke.Listing
