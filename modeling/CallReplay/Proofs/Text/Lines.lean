import CallReplay.Proofs.Text.Split

/-!
# Lines of a text

Lines are the parts of a text between its line feeds. There is one more of them than there
are line feeds.
-/

namespace CallReplay.Text

/-- The lines of a text. Behind a line feed at its end there is one more, which is empty. -/
def lines (text : String) : List String := (parts '\n' text.toList).map String.ofList

/-- A text has one line more than line feeds. -/
lemma length_lines (text : String) : (lines text).length = text.toList.count '\n' + 1 := by
  rw [lines, List.length_map, length_parts]

/-- A text has at least one line. -/
lemma lines_ne_nil (text : String) : lines text ≠ [] := by
  rw [← List.length_pos_iff, length_lines]
  exact Nat.succ_pos _

/-- A line feed ends the lines before it and starts those behind it. -/
lemma lines_append_lineFeed (a b : String) : lines (a ++ "\n" ++ b) = lines a ++ lines b := by
  have cs : (a ++ "\n" ++ b).toList = a.toList ++ '\n' :: b.toList := by simp
  rw [lines, cs, parts_append_separator, List.map_append, ← lines, ← lines]

/-- A text without a line feed is one line. -/
lemma lines_of_notMem {text : String} (h : '\n' ∉ text.toList) : lines text = [text] := by
  rw [lines, parts_of_notMem h, List.map_singleton, String.ofList_toList]

/-- A text is its first line if and only if it has no line feed. -/
lemma head?_lines_eq_iff (text : String) : (lines text).head? = some text ↔ '\n' ∉ text.toList := by
  constructor
  · intro h
    have first : (split '\n' text.toList).1 = text.toList := by
      rw [← String.toList_ofList (l := (split '\n' text.toList).1)]
      exact congrArg String.toList (Option.some.inj h)
    exact first ▸ notMem_split text.toList
  · intro h
    rw [lines_of_notMem h, List.head?_cons]

end CallReplay.Text
