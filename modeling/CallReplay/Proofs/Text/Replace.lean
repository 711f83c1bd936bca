import CallReplay.Text.Replace
import CallReplay.Proofs.Lists

/-!
# Replacing a pattern

A text is replaced from left to right (`Replaces`): an occurrence of the pattern is replaced as a
whole, and a character is copied where no occurrence starts. If the first character of a pattern
is nowhere else in it, no two occurrences overlap. So an occurrence parts a text in two that are
replaced on their own (`Replaces.append_pattern`), and of texts that are joined by the pattern
each is (`replaceFrom_intercalate`).
-/

namespace CallReplay.Text

/-- The text is replaced from left to right, so many times. -/
inductive Replaces (pattern replacement : List Char) : List Char → List Char → Nat → Prop where
  | nil : Replaces pattern replacement [] [] 0
  | hit {s t count} :
    Replaces pattern replacement s t count →
    Replaces pattern replacement (pattern ++ s) (replacement ++ t) (count + 1)
  | skip {c s t count} :
    ¬ pattern <+: c :: s →
    Replaces pattern replacement s t count →
    Replaces pattern replacement (c :: s) (c :: t) count

variable {pattern replacement s t rest body : List Char} {c first : Char} {count : Nat}

/-- A text is replaced as its characters. -/
@[simp]
lemma toList_replace (s pattern replacement : String) : (replace s pattern replacement).toList =
    replaceFrom pattern.toList replacement.toList 0 s.toList := String.toList_ofList

/-- Characters that are skipped are left out. -/
lemma replaceFrom_skip (pattern replacement : List Char) (skip : Nat) (s : List Char) :
    replaceFrom pattern replacement skip s = replaceFrom pattern replacement 0 (s.drop skip) := by
  induction s generalizing skip with
  | nil => simp [replaceFrom]
  | cons c rest ih =>
    cases skip with
    | zero => rfl
    | succ skip => rw [replaceFrom, ih, List.drop_succ_cons]

/-- An occurrence at the start is replaced. -/
lemma replaceFrom_pattern (h : pattern ≠ []) (replacement rest : List Char) :
    replaceFrom pattern replacement 0 (pattern ++ rest) =
    replacement ++ replaceFrom pattern replacement 0 rest := by
  obtain ⟨c, body, rfl⟩ := List.exists_cons_of_ne_nil h
  have starts : (c :: body).isPrefixOf (c :: (body ++ rest)) = true :=
    List.isPrefixOf_iff_prefix.mpr (List.prefix_append (c :: body) rest)
  rw [List.cons_append, replaceFrom, if_pos starts, replaceFrom_skip]
  simp

/-- A character that starts no occurrence is copied. -/
lemma replaceFrom_of_unmatched (h : ¬ pattern <+: c :: rest) (replacement : List Char) :
    replaceFrom pattern replacement 0 (c :: rest) =
    c :: replaceFrom pattern replacement 0 rest := by
  rw [replaceFrom, if_neg]
  rwa [List.isPrefixOf_iff_prefix]

/-- A text is replaced as the relation says. -/
theorem exists_replaces (h : pattern ≠ []) (replacement s : List Char) :
    ∃ count, Replaces pattern replacement s (replaceFrom pattern replacement 0 s) count := by
  -- By the length, since an occurrence is left behind as a whole.
  induction hlength : s.length using Nat.strong_induction_on generalizing s with
  | _ length ih =>
    subst hlength
    cases s with
    | nil => exact ⟨0, .nil⟩
    | cons c rest =>
      by_cases starts : pattern <+: c :: rest
      · obtain ⟨tail, htail⟩ := starts
        have shorter : tail.length < (c :: rest).length := by
          rw [← htail, List.length_append]
          have := List.length_pos_iff.mpr h
          omega
        obtain ⟨count, replaces⟩ := ih _ shorter tail rfl
        rw [← htail, replaceFrom_pattern h]
        exact ⟨count + 1, .hit replaces⟩
      · obtain ⟨count, replaces⟩ := ih rest.length (Nat.lt_succ_self _) rest rfl
        rw [replaceFrom_of_unmatched starts]
        exact ⟨count, .skip starts replaces⟩

namespace Replaces

/-- A text is replaced in one way only. -/
lemma eq_replaceFrom (h : pattern ≠ []) (replaces : Replaces pattern replacement s t count) :
    replaceFrom pattern replacement 0 s = t := by
  induction replaces with
  | nil => rfl
  | hit _ ih => rw [replaceFrom_pattern h, ih]
  | skip starts _ ih => rw [replaceFrom_of_unmatched starts, ih]

/-- Each replacement changes the length by the same amount. -/
lemma length (replaces : Replaces pattern replacement s t count) :
    t.length + count * pattern.length = s.length + count * replacement.length := by
  induction replaces with
  | nil => simp
  | hit _ ih =>
    simp only [List.length_append, Nat.succ_mul]
    omega
  | skip _ _ ih =>
    simp only [List.length_cons]
    omega

/-- Nothing is replaced exactly if the pattern is nowhere in the text. -/
lemma count_eq_zero_iff (h : pattern ≠ []) (replaces : Replaces pattern replacement s t count) :
    count = 0 ↔ ¬ pattern <:+: s := by
  induction replaces with
  | nil => simpa using h
  | hit _ _ => simpa using List.infix_append [] pattern _
  | skip starts _ ih =>
    rw [ih, List.infix_cons_iff, not_or]
    exact (and_iff_right starts).symm

/-- A text in which nothing occurs stays as it is. -/
lemma eq_of_count_eq_zero (none : count = 0) (replaces : Replaces pattern replacement s t count) :
    t = s := by
  induction replaces with
  | nil => rfl
  | hit _ _ => cases none
  | skip _ _ ih => rw [ih none]

/-- Replacing a pattern by itself changes nothing. -/
lemma eq_of_self (replaces : Replaces pattern pattern s t count) : t = s := by
  induction replaces with
  | nil => rfl
  | hit _ ih => rw [ih]
  | skip _ _ ih => rw [ih]

/-- What is replaced by something as long comes out as it was only if it is replaced by itself. -/
lemma replacement_eq (hlength : replacement.length = pattern.length) (some : count ≠ 0)
    (replaces : Replaces pattern replacement s t count) (same : t = s) : replacement = pattern := by
  induction replaces with
  | nil => exact absurd rfl some
  | hit _ _ => exact (List.append_inj same hlength).1
  | skip _ _ ih => exact ih some (List.cons.inj same).2

/-- What lacks the first character of the pattern is copied. -/
lemma copy (h : first ∉ s) (replaces : Replaces (first :: body) replacement rest t count) :
    Replaces (first :: body) replacement (s ++ rest) (s ++ t) count := by
  induction s with
  | nil => exact replaces
  | cons c s ih =>
    rw [List.mem_cons, not_or] at h
    refine .skip (fun starts => h.1 ?_) (ih h.2)
    exact (List.cons_prefix_cons.mp starts).1

/-- An occurrence parts a text in two. -/
lemma append_pattern {u : List Char} {others : Nat} (h : first ∉ body)
    (before : Replaces (first :: body) replacement s t count)
    (behind : Replaces (first :: body) replacement rest u others) :
    Replaces (first :: body) replacement (s ++ (first :: body ++ rest)) (t ++ (replacement ++ u))
      (count + (others + 1)) := by
  induction before with
  | nil =>
    rw [Nat.zero_add]
    exact .hit behind
  | hit _ ih =>
    rw [List.append_assoc, List.append_assoc, Nat.add_right_comm]
    exact .hit ih
  | skip starts _ ih =>
      exact .skip (fun both => starts (prefix_of_prefix_append h (List.cons_ne_nil _ _) both)) ih

end Replaces

/-- Texts that are joined by a pattern are replaced one by one. -/
theorem replaceFrom_intercalate (h : first ∉ body) (replacement : List Char)
    (texts : List (List Char)) :
    replaceFrom (first :: body) replacement 0 ((first :: body).intercalate texts) =
      replacement.intercalate (texts.map (replaceFrom (first :: body) replacement 0)) := by
  induction texts with
  | nil => rfl
  | cons s others ih =>
    cases others with
    | nil => simp
    | cons s' more =>
      have hne : first :: body ≠ [] := List.cons_ne_nil _ _
      obtain ⟨_, before⟩ := exists_replaces hne replacement s
      obtain ⟨_, behind⟩ :=
        exists_replaces hne replacement ((first :: body).intercalate (s' :: more))
      rw [List.intercalate_cons_cons, List.append_assoc,
        (before.append_pattern h behind).eq_replaceFrom hne, ih]
      simp [List.intercalate_cons_cons]

/-- How much longer texts become that are replaced one by one. -/
lemma length_intercalate_replaceFrom (h : pattern ≠ []) (replacement : List Char)
    (texts : List (List Char)) :
    ∃ count, (replacement.intercalate (texts.map (replaceFrom pattern replacement 0))).length +
      count * pattern.length =
      (replacement.intercalate texts).length + count * replacement.length ∧
        (count = 0 → ∀ s ∈ texts, ¬ pattern <:+: s) := by
  induction texts with
  | nil => exact ⟨0, by simp, by simp⟩
  | cons s others ih =>
    obtain ⟨count, replaces⟩ := exists_replaces h replacement s
    obtain ⟨more, length, clean⟩ := ih
    refine ⟨count + more, ?_, fun none => ?_⟩
    · have first := replaces.length
      cases others with
      | nil =>
        simp only [List.map_nil, List.map_cons, List.intercalate_nil, List.intercalate_singleton,
          List.length_nil, Nat.add_mul] at length ⊢
        omega
      | cons s' rest =>
        simp only [List.map_cons, List.intercalate_cons_cons, List.length_append, Nat.add_mul]
          at length ⊢
        omega
    · obtain ⟨rfl, rfl⟩ := Nat.add_eq_zero_iff.mp none
      exact List.forall_mem_cons.mpr ⟨(replaces.count_eq_zero_iff h).mp rfl, clean rfl⟩

/-- Replacing texts one by one changes nothing in what they are joined to if the pattern is in none
of them, or is replaced by itself, and only then. -/
theorem intercalate_replaceFrom_eq_iff (h : pattern ≠ []) {texts : List (List Char)} :
    replacement.intercalate (texts.map (replaceFrom pattern replacement 0)) =
    replacement.intercalate texts ↔
      replacement = pattern ∨ ∀ s ∈ texts, ¬ pattern <:+: s := by
  constructor
  · intro same
    by_contra! other
    obtain ⟨changes, s, hs, inside⟩ := other
    obtain ⟨count, length, clean⟩ := length_intercalate_replaceFrom h replacement texts
    -- What is put in is as long as the pattern, since something is replaced.
    have some : count ≠ 0 := fun none => clean none s hs inside
    rw [same, Nat.add_left_cancel_iff] at length
    have lengths : replacement.length = pattern.length :=
      (Nat.eq_of_mul_eq_mul_left (Nat.pos_of_ne_zero some) length).symm
    have each : ∀ s ∈ texts, (replaceFrom pattern replacement 0 s).length = s.length := by
      intro s _
      obtain ⟨count, replaces⟩ := exists_replaces h replacement s
      have := replaces.length
      rw [lengths] at this
      omega
    obtain ⟨count, replaces⟩ := exists_replaces h replacement s
    have found : count ≠ 0 := fun none => (replaces.count_eq_zero_iff h).mp none inside
    exact changes (replaces.replacement_eq lengths found (eq_of_intercalate_map_eq each same s hs))
  · intro same
    have each : ∀ s ∈ texts, replaceFrom pattern replacement 0 s = s := by
      intro s hs
      obtain ⟨count, replaces⟩ := exists_replaces h replacement s
      rcases same with rfl | clean
      · exact replaces.eq_of_self
      · exact replaces.eq_of_count_eq_zero ((replaces.count_eq_zero_iff h).mpr (clean s hs))
    rw [List.map_congr_left each, List.map_id']

end CallReplay.Text
