import CallReplay.Proofs.Heap
import CallReplay.RemotePath

/-!
# Graphs up to the ids of their objects

Two graphs are the same but for the layout of their heaps if a renaming of ids leads the roots of
the first to those of the second and each object that the first reaches to the same object with its
references renamed, and if it is a bijection of the objects that are reached (`Renames`). Objects
that are not reached do not matter, and neither does the order in which objects were allocated.
-/

namespace CallReplay

/-- A value with its id renamed if it is a reference. -/
def Value.rename (f : ObjectId → ObjectId) : Value → Value
  | .null => .null
  | .scalar s => .scalar s
  | .classOf type => .classOf type
  | .ref id => .ref (f id)

/-- The content of a field with its id renamed. -/
def Slot.rename (f : ObjectId → ObjectId) : Slot → Slot
  | .value content => .value (content.rename f)
  | .inaccessible => .inaccessible

/-- A field with the id in it renamed. -/
def Field.rename (f : ObjectId → ObjectId) (field : Field) : Field :=
  { field with slot := field.slot.rename f }

/-- An object with fields, with the ids in them renamed. -/
def Struct.rename (f : ObjectId → ObjectId) (s : Struct) : Struct :=
  { s with fields := s.fields.map (Field.rename f) }

/-- The object with its references renamed. -/
def Object.rename (f : ObjectId → ObjectId) : Object → Object
  | .array component elements => .array component (elements.map (Value.rename f))
  | .collection className elements => .collection className (elements.map (Value.rename f))
  | .properties entries => .properties entries
  | .map className entries => .map className (entries.map fun e => (e.1.rename f, e.2.rename f))
  | .struct s => .struct (s.rename f)

section

variable {f : ObjectId → ObjectId}

/-- Renaming ids makes no value null. -/
@[simp] lemma Value.isNull_rename (value : Value) : (value.rename f).isNull = value.isNull := by
  cases value <;> rfl

/-- Only references are renamed to references. -/
lemma Value.ref_eq_rename_iff {id : ObjectId} {value : Value} :
    .ref id = value.rename f ↔ ∃ source, value = .ref source ∧ f source = id := by
  cases value with
  | ref source =>
    simp only [Value.rename, Value.ref.injEq, exists_eq_left']
    exact eq_comm
  | _ => simp [Value.rename]

/-- Renaming ids renames the value of a field. -/
@[simp] lemma Slot.value?_rename (slot : Slot) :
    (slot.rename f).value? = slot.value?.map (Value.rename f) := by
  cases slot <;> rfl

/-- Renaming ids does not change the type of an object. -/
@[simp] lemma Object.runtimeType_rename (object : Object) :
    (object.rename f).runtimeType = object.runtimeType := by
  cases object <;> rfl

/-- Renaming ids does not change whether an object is filled by calls. -/
@[simp] lemma Object.isContainer_rename (object : Object) :
    (object.rename f).isContainer = object.isContainer := by
  cases object <;> rfl

/-- A renamed object holds the renamed values. -/
lemma Object.values_rename (object : Object) :
    (object.rename f).values = object.values.map (Value.rename f) := by
  cases object with
  | array => rfl
  | collection => rfl
  | properties => rfl
  | map className entries => simp [Object.rename, values, List.flatMap_map, List.map_flatMap]
  | struct s =>
    simp only [Object.rename, values, Struct.rename, List.filterMap_map, List.map_filterMap]
    congr 1
    funext field
    exact Slot.value?_rename field.slot

end

namespace Heap

/-- A renaming of ids leads the graph of some roots to the graph of others: the roots correspond,
the renaming is a bijection of the objects that are reached, and each of these exists in both heaps,
there with its references renamed. -/
structure Renames (f : ObjectId → ObjectId) (h : Heap) (roots : List Value) (h' : Heap)
    (roots' : List Value) :
    Prop where
  starts : roots' = roots.map (Value.rename f)
  bijective : Set.BijOn f {id | h.Reaches roots id} {id | h'.Reaches roots' id}
  found : ∀ id, h.Reaches roots id → ∃ object, h.get? id = some object ∧
      h'.get? (f id) = some (object.rename f)

/-- Two graphs are the same up to the ids of the objects that they reach. -/
def SameGraph (h : Heap) (roots : List Value) (h' : Heap) (roots' : List Value) : Prop :=
  ∃ f, Renames f h roots h' roots'

/-- What a value refers to, if it does, is reached. -/
def Reached (h : Heap) (roots : List Value) (value : Value) : Prop :=
  ∀ id, value = .ref id → h.Reaches roots id

section

variable {f : ObjectId → ObjectId} {h h' : Heap} {roots roots' : List Value} {value : Value}
  {id : ObjectId} {object : Object}

/-- What the roots refer to is reached. -/
lemma reached_of_mem (hmem : value ∈ roots) : h.Reached roots value := by
  rintro id rfl
  exact .root hmem

/-- What an object that is reached refers to is reached. -/
lemma Reaches.reached_of_mem (reached : h.Reaches roots id) (found : h.get? id = some object)
    (hmem : value ∈ object.values) : h.Reached roots value := by
  rintro other rfl
  exact reached.step ⟨object, found, hmem⟩

/-- An injective renaming that leads objects to objects is a bijection of what is reached. -/
lemma Renames.of_injOn (hroots : roots' = roots.map (Value.rename f))
    (injective : Set.InjOn f {id | h.Reaches roots id})
    (found : ∀ id, h.Reaches roots id →
      ∃ object, h.get? id = some object ∧ h'.get? (f id) = some (object.rename f)) :
    Renames f h roots h' roots' := by
  refine ⟨hroots, ⟨?_, injective, ?_⟩, found⟩
  · intro id reached
    induction reached with
    | root hmem =>
      rw [hroots]
      exact .root (List.mem_map_of_mem hmem)
    | step reached refers ih =>
      obtain ⟨object, hget, hmem⟩ := refers
      obtain ⟨other, hother, hget'⟩ := found _ reached
      cases hget.symm.trans hother
      refine Reaches.step ih ⟨_, hget', ?_⟩
      rw [Object.values_rename]
      exact List.mem_map_of_mem hmem
  · intro id reached
    induction reached with
    | root hmem =>
      rw [hroots] at hmem
      obtain ⟨value, hvalue, href⟩ := List.mem_map.mp hmem
      obtain ⟨source, rfl, rfl⟩ := Value.ref_eq_rename_iff.mp href.symm
      exact ⟨source, .root hvalue, rfl⟩
    | step reached refers ih =>
      obtain ⟨source, hsource, rfl⟩ := ih
      obtain ⟨object, hget, hmem⟩ := refers
      obtain ⟨before, hbefore, hget'⟩ := found _ hsource
      cases hget'.symm.trans hget
      rw [Object.values_rename] at hmem
      obtain ⟨value, hvalue, href⟩ := List.mem_map.mp hmem
      obtain ⟨target, rfl, rfl⟩ := Value.ref_eq_rename_iff.mp href.symm
      exact ⟨target, Reaches.step hsource ⟨before, hbefore, hvalue⟩, rfl⟩

/-- A reached object exists in both heaps, and what it holds is reached. -/
lemma Renames.get (renames : Renames f h roots h' roots') (reached : h.Reaches roots id) :
    ∃ object, h.get? id = some object ∧ h'.get? (f id) = some (object.rename f) ∧
      ∀ value ∈ object.values, h.Reached roots value := by
  obtain ⟨object, found, found'⟩ := renames.found id reached
  exact ⟨object, found, found', fun value hvalue => reached.reached_of_mem found hvalue⟩

/-- Values that correspond have one type. -/
lemma Renames.runtimeType (renames : Renames f h roots h' roots')
    (reached : h.Reached roots value) :
    h'.runtimeType (value.rename f) = h.runtimeType value := by
  cases value with
  | ref id =>
    obtain ⟨object, found, found', _⟩ := renames.get (reached id rfl)
    simp [Value.rename, Heap.runtimeType, Heap.get, found, found', bind, Except.bind]
  | _ => rfl

/-- Values that correspond give their variables the same name. -/
lemma Renames.ofValue (renames : Renames f h roots h' roots') (reached : h.Reached roots value) :
    VariableName.ofValue h' (value.rename f) = VariableName.ofValue h value := by
  rw [VariableName.ofValue, renames.runtimeType reached]
  rfl

end

end Heap

end CallReplay
