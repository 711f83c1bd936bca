/-!
# Counting in lists

A walk over a list of things ends since fewer of them are left at each step.
-/

namespace CallReplay

/-- A stronger condition that loses one member of a list holds of fewer members. -/
theorem countP_lt_countP {α : Type} {p q : α → Bool} {l : List α} (h : ∀ a, q a = true → p a = true)
    {a : α} (ha : a ∈ l) (hp : p a = true) (hq : q a = false) : l.countP q < l.countP p := by
  induction l with
  | nil => simp at ha
  | cons b l ih =>
    have hle : l.countP q ≤ l.countP p := List.countP_mono_left fun x _ => h x
    simp only [List.countP_cons]
    rcases List.mem_cons.mp ha with rfl | ha
    · simp only [hp, hq, if_true]
      simp only [Bool.false_eq_true, if_false]
      omega
    · have hlt := ih ha
      by_cases hqb : q b = true
      · rw [if_pos hqb, if_pos (h b hqb)]
        omega
      · rw [if_neg hqb]
        split <;> omega

end CallReplay
