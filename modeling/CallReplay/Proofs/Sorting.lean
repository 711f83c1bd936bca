import Mathlib

/-!
# Sorting by a key

What is sorted by a key keeps its order where keys are equal.
-/

namespace CallReplay

variable {α : Type} {key : α → UInt32}

/-- The order by a key is transitive. -/
lemma key_le_trans (a b c : α) (hab : decide (key a ≤ key b)) (hbc : decide (key b ≤ key c)) :
    decide (key a ≤ key c) :=
  decide_eq_true (UInt32.le_trans (of_decide_eq_true hab) (of_decide_eq_true hbc))

/-- The order by a key is total. -/
lemma key_le_total (a b : α) : decide (key a ≤ key b) || decide (key b ≤ key a) := by
  rw [Bool.or_eq_true, decide_eq_true_iff, decide_eq_true_iff]
  exact UInt32.le_total (key a) (key b)

/-- Sorting does not change the order of what has one key. -/
lemma filter_mergeSort (key : α → UInt32) (k : UInt32) (l : List α) :
    (l.mergeSort fun a b => key a ≤ key b).filter (fun a => key a == k) =
    l.filter fun a => key a == k := by
  -- What has one key is in order as it stands, and a stable sort keeps it so.
  have equal : (l.filter fun a => key a == k).Pairwise fun a b => decide (key a ≤ key b) := by
    refine List.pairwise_of_forall_mem_list fun a ha b hb => ?_
    have hak := eq_of_beq (List.mem_filter.mp ha).2
    have hbk := eq_of_beq (List.mem_filter.mp hb).2
    simp [hak, hbk]
  have kept := (List.sublist_mergeSort key_le_trans key_le_total equal List.filter_sublist).filter
    fun a => key a == k
  rw [List.filter_filter] at kept
  simp only [Bool.and_self] at kept
  have length :=
    ((List.mergeSort_perm l fun a b => decide (key a ≤ key b)).filter fun a => key a == k).length_eq
  exact (kept.eq_of_length length.symm).symm

/-- What is sorted is in the order of the keys, and where they are equal in the order
that it had. -/
lemma pairwise_mergeSort {before : α → α → Prop} {l : List α} (h : l.Pairwise before) :
    (l.mergeSort fun a b => key a ≤ key b).Pairwise fun a b => key a < key b ∨ key a = key b ∧
    before a b := by
  have total : ∀ a b : α, decide (key a ≤ key b) || decide (key b ≤ key a) := key_le_total
  have sorted := List.pairwise_mergeSort key_le_trans total l
  rw [List.pairwise_iff_forall_sublist] at sorted ⊢
  intro a b hab
  rcases UInt32.lt_or_eq_of_le (of_decide_eq_true (sorted hab)) with hlt | heq
  · exact .inl hlt
  · have both := hab.filter fun c => key c == key b
    rw [filter_mergeSort] at both
    simp only [heq, List.filter_cons, beq_self_eq_true, if_true, List.filter_nil] at both
    exact .inr ⟨heq, List.pairwise_iff_forall_sublist.mp h (both.trans List.filter_sublist)⟩

end CallReplay
