import CallReplay.Payload
import Mathlib

/-!
# Valid graphs and chains of objects

`Heap.validate` looks at every value of a graph once. A graph that passes is closed: whatever
an object of the heap holds is sound, so a walk that starts at the roots never leaves the heap.
How deep such a walk can get is measured by chains of distinct objects, each of which refers to
the next (`Heap.Nests`).
-/

namespace CallReplay.Heap

/-- A value is sound if a reference leads to an object and a character is a single UTF-16 unit. -/
def Sound (h : Heap) (value : Value) : Prop := h.checkValue value = .ok ()

/-- Everything that the objects of a heap hold is sound. -/
def Closed (h : Heap) : Prop := ∀ object ∈ h.objects, ∀ value ∈ object.values, h.Sound value

section

variable {h : Heap} {roots : List Value}

/-- A reference is sound if its object exists. -/
lemma sound_ref_iff {id : ObjectId} : h.Sound (.ref id) ↔ ∃ object, h.get? id = some object := by
  have exists_iff : (∃ object, h.get? id = some object) ↔ id.index.toNat < h.size := by
    simp [get?, size, Array.getElem?_eq_some_iff]
  rw [exists_iff]
  simp only [Sound, checkValue]
  split <;> simp_all

/-- A reference to no object is refused. -/
lemma checkValue_ref_of_none {id : ObjectId} (missing : h.get? id = none) :
    h.checkValue (.ref id) = .error (.objectNotFound id) := by
  rw [checkValue, if_neg]
  intro inside
  exact absurd missing (Option.ne_none_iff_isSome.mpr (by simpa [get?, size] using inside))

/-- A character is sound if it fits one unit. -/
lemma sound_char_iff {c : Char} : h.Sound (.scalar (.char c)) ↔ Text.isSingleUnit c = true := by
  simp only [Sound, checkValue]
  split <;> simp_all

/-- Values pass if each of them is sound. -/
lemma checkValues_eq_ok_iff {values : List Value} :
    h.checkValues values = .ok () ↔ ∀ value ∈ values, h.Sound value := by
  induction values with
  | nil => exact iff_of_true rfl nofun
  | cons value rest ih =>
    rw [List.forall_mem_cons, ← ih, checkValues, Sound]
    cases h.checkValue value <;> simp [bind, Except.bind]

/-- A graph passes if its roots are sound and its heap is closed. -/
theorem validate_eq_ok_iff :
    h.validate roots = .ok () ↔ (∀ value ∈ roots, h.Sound value) ∧ h.Closed := by
  have closed : h.checkValues h.values = .ok () ↔ h.Closed := by
    rw [checkValues_eq_ok_iff, values, List.forall_mem_flatMap, Closed]
    simp only [Array.mem_toList_iff]
  rw [← closed, ← checkValues_eq_ok_iff, validate]
  cases h.checkValues roots <;> simp [bind, Except.bind]

/-- What an object of a closed heap holds is sound. -/
lemma Closed.sound (closed : h.Closed) {id : ObjectId} {object : Object}
    (found : h.get? id = some object) {value : Value} (hvalue : value ∈ object.values) :
    h.Sound value :=
  closed object (Array.mem_of_getElem? found) value hvalue

end

/-- One object refers directly to another. -/
def RefersTo (h : Heap) (a b : ObjectId) : Prop :=
  ∃ object, h.get? a = some object ∧ .ref b ∈ object.values

/-- A chain of objects of the heap: no object occurs twice, and each refers directly to the next. -/
structure IsChain (h : Heap) (ids : List ObjectId) : Prop where
  linked : ids.IsChain h.RefersTo
  distinct : ids.Nodup
  present : ∀ id ∈ ids, ∃ object, h.get? id = some object

/-- Some chain of so many objects starts at a root. -/
def Nests (h : Heap) (roots : List Value) (length : Nat) : Prop :=
  ∃ first rest, .ref first ∈ roots ∧ h.IsChain (first :: rest) ∧ (first :: rest).length = length

/-- The objects that the roots lead to. -/
inductive Reaches (h : Heap) (roots : List Value) : ObjectId → Prop where
  | root {id} : .ref id ∈ roots → Reaches h roots id
  | step {a b} : Reaches h roots a → h.RefersTo a b → Reaches h roots b

/-- The values that there are in the graph of the roots. -/
def Meets (h : Heap) (roots : List Value) (value : Value) : Prop :=
  value ∈ roots ∨ ∃ id object, h.Reaches roots id ∧ h.get? id = some object ∧ value ∈ object.values

section

variable {h : Heap} {roots : List Value} {ids : List ObjectId}

/-- A walk meets the references to all objects that it reaches. -/
lemma Reaches.meets {id : ObjectId} (reached : h.Reaches roots id) : h.Meets roots (.ref id) := by
  cases reached with
  | root hroot => exact .inl hroot
  | step reached refers =>
    obtain ⟨object, found, hmem⟩ := refers
    exact .inr ⟨_, object, reached, found, hmem⟩

/-- In a closed heap all that is met from sound roots is sound. -/
lemma Closed.sound_of_meets {value : Value} (closed : h.Closed)
    (sound : ∀ root ∈ roots, h.Sound root) (meets : h.Meets roots value) : h.Sound value := by
  rcases meets with hroot | ⟨id, object, _, found, hmem⟩
  · exact sound value hroot
  · exact closed.sound found hmem

/-- An object that exists is a chain. -/
lemma isChain_singleton {id : ObjectId} {object : Object} (found : h.get? id = some object) :
    h.IsChain [id] := by
  refine ⟨.singleton id, List.nodup_singleton id, ?_⟩
  intro other hother
  cases List.mem_singleton.mp hother
  exact ⟨object, found⟩

/-- A chain gets longer by an object that refers to its first and does not occur in it. -/
lemma IsChain.cons {a b : ObjectId} (chain : h.IsChain (b :: ids)) (refers : h.RefersTo a b)
    (new : a ∉ b :: ids) : h.IsChain (a :: b :: ids) := by
  refine ⟨.cons_cons refers chain.linked, List.nodup_cons.mpr ⟨new, chain.distinct⟩, ?_⟩
  intro id hid
  rcases List.mem_cons.mp hid with rfl | hid
  · obtain ⟨object, found, _⟩ := refers
    exact ⟨object, found⟩
  · exact chain.present id hid

/-- A chain gets longer by an object that its last refers to and that does not occur in it. -/
lemma IsChain.concat {a b : ObjectId} {object : Object} (chain : h.IsChain (ids ++ [a]))
    (refers : h.RefersTo a b) (new : b ∉ ids ++ [a]) (found : h.get? b = some object) :
    h.IsChain (ids ++ [a] ++ [b]) := by
  refine ⟨?_, ?_, ?_⟩
  · rw [List.append_assoc]
    exact List.isChain_append_cons_cons.mpr ⟨chain.linked, refers, .singleton b⟩
  · rw [← List.concat_eq_append]
    exact chain.distinct.concat new
  · intro id hid
    rcases List.mem_append.mp hid with hid | hid
    · exact chain.present id hid
    · cases List.mem_singleton.mp hid
      exact ⟨object, found⟩

/-- A chain that starts at an object the roots lead to consists of such objects. -/
lemma Reaches.of_mem_chain {first : ObjectId} (reached : h.Reaches roots first)
    (linked : (first :: ids).IsChain h.RefersTo) : ∀ id ∈ first :: ids, h.Reaches roots id := by
  induction ids generalizing first with
  | nil => simpa using reached
  | cons next rest ih =>
    obtain ⟨refers, linked⟩ := List.isChain_cons_cons.mp linked
    intro id hid
    rcases List.mem_cons.mp hid with rfl | hid
    · exact reached
    · exact ih (reached.step refers) linked id hid

/-- A chain is not longer than a list of all objects that the roots lead to. -/
theorem Nests.length_le {length : Nat} (nests : h.Nests roots length)
    (hall : ∀ id, h.Reaches roots id → id ∈ ids) : length ≤ ids.length := by
  obtain ⟨first, rest, hroot, chain, rfl⟩ := nests
  have hsubset : first :: rest ⊆ ids :=
    fun id hid => hall id (Reaches.of_mem_chain (.root hroot) chain.linked id hid)
  exact (chain.distinct.subperm hsubset).length_le

end

end CallReplay.Heap
