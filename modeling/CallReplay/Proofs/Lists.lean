import Mathlib

/-!
# Lists

What follows for lists whose items are taken one by one: one item replaced by another, items
collected from positions, two lists whose items correspond, lists joined by a separator, and items
in the order of their positions.
-/

namespace CallReplay

section

variable {α β : Type} {l : List α} {g : α → Option β} {x y : α} {b : β} {i j : Nat}

/-- A list is what stands before a position, what stands there, and what stands after it. -/
lemma split_of_getElem? (h : l[i]? = some x) :
    ∃ before after, l = before ++ x :: after ∧ ∀ y, l.set i y = before ++ y :: after := by
  induction l generalizing i with
  | nil => cases h
  | cons a rest ih =>
    cases i with
    | zero =>
      cases h
      exact ⟨[], rest, rfl, fun _ => rfl⟩
    | succ i =>
      obtain ⟨before, after, rfl, hset⟩ := ih h
      refine ⟨a :: before, after, rfl, fun y => ?_⟩
      rw [List.set_cons_succ, hset]
      rfl

/-- An item that yields the same as the one it replaces makes no difference to what is collected. -/
lemma filterMap_set_of_eq (h : l[i]? = some x) (same : g y = g x) :
    (l.set i y).filterMap g = l.filterMap g := by
  obtain ⟨before, after, rfl, hset⟩ := split_of_getElem? h
  rw [hset, List.filterMap_append, List.filterMap_append, List.filterMap_cons, List.filterMap_cons,
    same]

/-- An item that yields something where one stood that yielded nothing adds that to
what is collected. -/
lemma perm_filterMap_set (h : l[i]? = some x) (old : g x = none) (new : g y = some b) :
    ((l.set i y).filterMap g).Perm (b :: l.filterMap g) := by
  obtain ⟨before, after, rfl, hset⟩ := split_of_getElem? h
  rw [hset, List.filterMap_append, List.filterMap_append, List.filterMap_cons_some new,
    List.filterMap_cons_none old]
  exact List.perm_middle

/-- What is collected once comes from one position. -/
lemma eq_of_nodup_filterMap (nodup : (l.filterMap g).Nodup) (hi : l[i]? = some x)
    (hj : l[j]? = some y) (hx : g x = some b) (hy : g y = some b) : i = j := by
  induction l generalizing i j with
  | nil => cases hi
  | cons a rest ih =>
    cases i with
    | zero =>
      cases j with
      | zero => rfl
      | succ j =>
        cases hi
        rw [List.filterMap_cons_some hx, List.nodup_cons] at nodup
        have again : b ∈ rest.filterMap g :=
          List.mem_filterMap.mpr ⟨y, List.mem_of_getElem? (i := j) hj, hy⟩
        exact absurd again nodup.1
    | succ i =>
      cases j with
      | zero =>
        cases hj
        rw [List.filterMap_cons_some hy, List.nodup_cons] at nodup
        have again : b ∈ rest.filterMap g :=
          List.mem_filterMap.mpr ⟨x, List.mem_of_getElem? (i := i) hi, hx⟩
        exact absurd again nodup.1
      | succ j =>
        have rest_nodup : (rest.filterMap g).Nodup := by
          cases ha : g a with
          | none => rwa [List.filterMap_cons_none ha] at nodup
          | some c =>
            rw [List.filterMap_cons_some ha] at nodup
            exact nodup.of_cons
        exact congrArg Nat.succ (ih rest_nodup hi hj)

end

section

variable {α β : Type} {R : α → β → Prop} {l : List α} {bs : List β}

/-- Lists correspond if each item of the first corresponds to something. -/
lemma exists_forall₂ (h : ∀ a ∈ l, ∃ b, R a b) : ∃ bs, List.Forall₂ R l bs := by
  induction l with
  | nil => exact ⟨[], .nil⟩
  | cons a rest ih =>
    obtain ⟨b, hb⟩ := h a List.mem_cons_self
    obtain ⟨bs, hbs⟩ := ih fun c hc => h c (List.mem_cons_of_mem _ hc)
    exact ⟨b :: bs, .cons hb hbs⟩

/-- An item of a list corresponds to an item of a corresponding list. -/
lemma exists_of_forall₂ (h : List.Forall₂ R l bs) {a : α} (ha : a ∈ l) : ∃ b ∈ bs, R a b := by
  induction h with
  | nil => cases ha
  | @cons a' b l bs hab _ ih =>
    rcases List.mem_cons.mp ha with rfl | ha
    · exact ⟨b, List.mem_cons_self, hab⟩
    · obtain ⟨c, hc, hac⟩ := ih ha
      exact ⟨c, List.mem_cons_of_mem _ hc, hac⟩

/-- Where one thing is written for each item, one list is written for each list. -/
lemma forall₂_iff_eq_map {text : α → β} (each : ∀ a b, R a b ↔ b = text a) :
    List.Forall₂ R l bs ↔ bs = l.map text := by
  induction l generalizing bs with
  | nil => simp
  | cons a rest ih => simp [List.forall₂_cons_left_iff, each, ih]

end

section

variable {α : Type} {separator first : α} {s body rest : List α}

/-- What is in joined lists is a separator or in one of them. -/
lemma mem_of_mem_intercalate {a : α} {groups : List (List α)}
    (h : a ∈ [separator].intercalate groups) :
    a = separator ∨ ∃ g ∈ groups, a ∈ g := by
  induction groups with
  | nil => cases h
  | cons g others ih =>
    cases others with
    | nil =>
      rw [List.intercalate_singleton] at h
      exact .inr ⟨g, List.mem_cons_self, h⟩
    | cons g' more =>
      rw [List.intercalate_cons_cons, List.append_assoc, List.mem_append, List.singleton_append,
        List.mem_cons] at h
      rcases h with h | h | h
      · exact .inr ⟨g, List.mem_cons_self, h⟩
      · exact .inl h
      · refine (ih h).imp_right ?_
        rintro ⟨other, hother, ha⟩
        exact ⟨other, List.mem_cons_of_mem _ hother, ha⟩

/-- An occurrence in front of another one, which are not the same, ends before it. -/
lemma prefix_of_prefix_append (h : first ∉ body) (hs : s ≠ [])
    (starts : first :: body <+: s ++ (first :: body ++ rest)) : first :: body <+: s := by
  rcases List.prefix_or_prefix_of_prefix starts (List.prefix_append s _) with within | ⟨u, hu⟩
  · exact within
  · have beyond : u <+: first :: body ++ rest := by
      rw [← List.prefix_append_right_inj s, hu]
      exact starts
    obtain ⟨c, s, rfl⟩ := List.exists_cons_of_ne_nil hs
    cases u with
    | nil => rw [← hu, List.append_nil]
    | cons d u =>
      -- The first character of the one is inside of the other.
      obtain ⟨rfl, -⟩ := List.cons_prefix_cons.mp beyond
      obtain ⟨-, inside⟩ := List.cons.inj hu
      exact absurd (inside ▸ List.mem_append_right s List.mem_cons_self) h

/-- Lists that are as long as others and joined in the same way are the same if what
is joined is. -/
lemma eq_of_intercalate_map_eq {separator : List α} {texts : List (List α)} {f : List α → List α}
    (lengths : ∀ s ∈ texts, (f s).length = s.length)
    (same : separator.intercalate (texts.map f) = separator.intercalate texts) :
    ∀ s ∈ texts, f s = s := by
  induction texts with
  | nil => exact List.forall_mem_nil _
  | cons s others ih =>
    obtain ⟨length, rest⟩ := List.forall_mem_cons.mp lengths
    cases others with
    | nil => simpa using same
    | cons s' more =>
      simp only [List.map_cons, List.intercalate_cons_cons, List.append_assoc] at same
      obtain ⟨hs, same⟩ := List.append_inj same length
      exact List.forall_mem_cons.mpr ⟨hs, ih rest (List.append_cancel_left same)⟩

end

/-- The first of what stands in order has the least position. -/
lemma head?_eq_some_iff_of_ordered {α : Type} {l : List (α × Nat)}
    (h : l.Pairwise fun x y => x.2 < y.2) {x : α × Nat} :
    l.head? = some x ↔ x ∈ l ∧ ∀ y ∈ l, x.2 ≤ y.2 := by
  cases l with
  | nil => simp
  | cons first rest =>
    obtain ⟨least, -⟩ := List.pairwise_cons.mp h
    rw [List.head?_cons, Option.some_inj]
    constructor
    · rintro rfl
      exact ⟨List.mem_cons_self, List.forall_mem_cons.mpr
        ⟨Nat.le_refl _, fun y hy => (least y hy).le⟩⟩
    · rintro ⟨hx, lower⟩
      rcases List.mem_cons.mp hx with rfl | hx
      · rfl
      · exact absurd (lower first List.mem_cons_self) (least x hx).not_ge

end CallReplay
