import CallReplay.Text.Split
import Mathlib

/-!
# Parts between separators

Parts that hold no separator are told apart again after they have been joined at separators, and a
text that was put between an opening and a closing text is found there.
-/

namespace CallReplay.Text

section

variable {α : Type} [DecidableEq α] {separator : α} {first rest : List α}

/-- The parts of two texts with a separator between them are those of the first and then those
of the second. -/
lemma parts_append_separator (a b : List α) :
    parts separator (a ++ separator :: b) = parts separator a ++ parts separator b := by
  induction a with
  | nil => simp [parts, split]
  | cons c rest ih =>
    simp only [parts, List.cons_append, List.cons.injEq] at ih
    by_cases hc : c = separator <;> simp [parts, split, hc, ih]

/-- A list has one part more than separators. -/
lemma length_parts (cs : List α) : (parts separator cs).length = cs.count separator + 1 := by
  induction cs with
  | nil => rfl
  | cons c rest ih =>
    simp only [parts, List.length_cons, Nat.add_right_cancel_iff] at ih
    by_cases hc : c = separator <;> simp [parts, split, hc, ih]

/-- An element that is no separator goes in front of the first part. -/
lemma parts_cons_of_ne {c : α} (h : c ≠ separator) (cs : List α) :
    parts separator (c :: cs) = (c :: (split separator cs).1) :: (split separator cs).2 := by
  simp [parts, split, h]

/-- No part has a separator in it. -/
lemma notMem_of_mem_parts {g cs : List α} (h : g ∈ parts separator cs) : separator ∉ g := by
  induction cs generalizing g with
  | nil => simp_all [parts, split]
  | cons c rest ih =>
    by_cases hc : c = separator
    · have cut : parts separator (c :: rest) = [] :: parts separator rest := by
        simp [parts, split, hc]
      rw [cut] at h
      rcases List.mem_cons.mp h with rfl | h
      · exact List.not_mem_nil
      · exact ih h
    · rw [parts_cons_of_ne hc] at h
      rcases List.mem_cons.mp h with rfl | h
      · rw [List.mem_cons, not_or]
        exact ⟨Ne.symm hc, ih List.mem_cons_self⟩
      · exact ih (List.mem_cons_of_mem _ h)

/-- The first part has no separator in it. -/
lemma notMem_split (cs : List α) : separator ∉ (split separator cs).1 :=
  notMem_of_mem_parts List.mem_cons_self

/-- A list without a separator is one part. -/
lemma parts_of_notMem (h : separator ∉ first) : parts separator first = [first] := by
  induction first with
  | nil => rfl
  | cons a others ih =>
    rw [List.mem_cons, not_or] at h
    have later := ih h.2
    simp only [parts, List.cons.injEq] at later ⊢
    simp [split, later.1, later.2, Ne.symm h.1]

/-- What stands before the first separator is the first part. -/
lemma parts_append (h : separator ∉ first) (rest : List α) :
    parts separator (first ++ separator :: rest) = first :: parts separator rest := by
  rw [parts_append_separator, parts_of_notMem h, List.singleton_append]

/-- What is joined at separators is cut there again. -/
lemma parts_intercalate {groups : List (List α)} (hne : groups ≠ [])
    (h : ∀ g ∈ groups, separator ∉ g) :
    parts separator ([separator].intercalate groups) = groups := by
  induction groups with
  | nil => exact absurd rfl hne
  | cons g others ih =>
    obtain ⟨hg, hothers⟩ := List.forall_mem_cons.mp h
    cases others with
    | nil => rw [List.intercalate_singleton, parts_of_notMem hg]
    | cons g' more =>
      rw [List.intercalate_cons_cons, List.append_assoc, List.singleton_append, parts_append hg,
        ih (List.cons_ne_nil g' more) hothers]

end

section

variable {c : Char} {opening closing inner cs : List Char}

/-- What stands between an opening and a closing is found there. -/
lemma unwrap?_append (opening inner closing : List Char) :
    unwrap? opening closing (opening ++ (inner ++ closing)) = some inner := by
  have starts : opening.isPrefixOf (opening ++ (inner ++ closing)) = true :=
    List.isPrefixOf_iff_prefix.mpr (List.prefix_append ..)
  have ends : closing.isSuffixOf (inner ++ closing) = true :=
    List.isSuffixOf_iff_suffix.mpr (List.suffix_append ..)
  have inside : (inner ++ closing).take ((inner ++ closing).length - closing.length) = inner := by
    rw [List.length_append, Nat.add_sub_cancel, List.take_left]
  rw [unwrap?, List.drop_left, starts, ends]
  exact congrArg some inside

/-- A text is not unwrapped if it lacks a character of what is to be taken off. -/
lemma unwrap?_eq_none (h : c ∈ opening ++ closing) (absent : c ∉ cs) :
    unwrap? opening closing cs = none := by
  rw [unwrap?, if_neg]
  intro both
  rw [Bool.and_eq_true, List.isPrefixOf_iff_prefix, List.isSuffixOf_iff_suffix] at both
  rcases List.mem_append.mp h with h | h
  · exact absent (both.1.mem h)
  · exact absent (List.mem_of_mem_drop (both.2.mem h))

end

end CallReplay.Text
