import Keystroke.Proofs.Words

/-! The words of a text line by line. Lines without words have no statements, so the white space that is
taken off the front of a text does not matter, and a text made of two has the lines of both. -/
namespace Keystroke.Text

/-- The words of each line of a text. -/
def wordLines (text : String) : List (List String) :=
  (lines text).map words

/-- The words of the lines that have any. -/
def nonblank (ls : List (List Char)) : List (List (List Char)) :=
  (ls.map (wordsFrom [])).filter (!·.isEmpty)

theorem nonblank_append (ls ms : List (List Char)) :
    nonblank (ls ++ ms) = nonblank ls ++ nonblank ms := by
  simp only [nonblank, List.map_append, List.filter_append]

theorem splitFeed_ne_nil (cs : List Char) : splitFeed cs ≠ [] := by
  cases cs with
  | nil => simp [splitFeed]
  | cons c cs =>
    unfold splitFeed
    split_ifs
    · simp
    · unfold consLine
      split <;> simp

theorem consLine_append (c : Char) {ls : List (List Char)} (h : ls ≠ []) (ms : List (List Char)) :
    consLine c (ls ++ ms) = consLine c ls ++ ms := by
  cases ls with
  | nil => exact absurd rfl h
  | cons l ls => rfl

theorem splitFeed_append_feed (cs ds : List Char) :
    splitFeed (cs ++ '\n' :: ds) = splitFeed cs ++ splitFeed ds := by
  induction cs with
  | nil => rfl
  | cons c cs ih =>
    rw [List.cons_append, splitFeed, splitFeed, ih]
    split_ifs
    · rfl
    · exact consLine_append c (splitFeed_ne_nil cs) (splitFeed ds)

theorem wordsFrom_blank {c : Char} (h : isBlank c = true) (cs : List Char) :
    wordsFrom [] (c :: cs) = wordsFrom [] cs := by
  rw [wordsFrom, if_pos h]
  rfl

theorem nonblank_consLine {c : Char} (h : isBlank c = true) (ls : List (List Char)) :
    nonblank (consLine c ls) = nonblank ls := by
  cases ls with
  | nil =>
    have hone : wordsFrom [] [c] = [] := wordsFrom_blank h []
    simp [nonblank, consLine, hone]
  | cons l ls => simp only [nonblank, consLine, List.map_cons, wordsFrom_blank h l]

theorem nonblank_dropWhile (cs : List Char) :
    nonblank (splitFeed (cs.dropWhile isBlank)) = nonblank (splitFeed cs) := by
  induction cs with
  | nil => rfl
  | cons c cs ih =>
    by_cases hc : isBlank c = true
    · rw [List.dropWhile_cons_of_pos hc, ih, splitFeed]
      -- A line feed ends a line without words, any other blank stands in front of one.
      split_ifs
      · rfl
      · exact (nonblank_consLine hc (splitFeed cs)).symm
    · rw [List.dropWhile_cons_of_neg hc]

theorem nonblank_lineChars {cs : List Char} (h : '\r' ∉ cs) :
    nonblank (lineChars cs) = nonblank (splitFeed cs) := by
  have htrim : '\r' ∉ cs.dropWhile isBlank := fun hm => h ((List.dropWhile_sublist _).mem hm)
  rw [← nonblank_dropWhile cs]
  unfold lineChars
  by_cases hempty : cs.dropWhile isBlank = []
  · simp only [hempty]
    rfl
  · simp [hempty, hasReturnFeed_of_not_mem htrim]

theorem nonblank_words (ls : List (List Char)) :
    ((ls.map String.ofList).map words).filter (!·.isEmpty) =
      (nonblank ls).map (List.map String.ofList) := by
  simp only [nonblank, List.map_map, List.filter_map]
  congr 1
  · funext l
    simp [words]
  · apply List.filter_congr
    intro l _
    simp [words]

theorem nonblank_wordLines (text : String) :
    (wordLines text).filter (!·.isEmpty) =
      (nonblank (lineChars text.toList)).map (List.map String.ofList) :=
  nonblank_words (lineChars text.toList)

/-- The lines of two texts, one below the other. -/
theorem nonblank_wordLines_joined {a b : String} (ha : '\r' ∉ a.toList) (hb : '\r' ∉ b.toList) :
    (wordLines (a ++ "\n" ++ b)).filter (!·.isEmpty) =
      (wordLines a ++ wordLines b).filter (!·.isEmpty) := by
  have hj : (a ++ "\n" ++ b).toList = a.toList ++ '\n' :: b.toList := by simp
  have hr : '\r' ∉ a.toList ++ '\n' :: b.toList := by simp [ha, hb]
  rw [List.filter_append, nonblank_wordLines, nonblank_wordLines, nonblank_wordLines, hj,
    nonblank_lineChars hr, nonblank_lineChars ha, nonblank_lineChars hb, splitFeed_append_feed,
    nonblank_append, List.map_append]

end Keystroke.Text
