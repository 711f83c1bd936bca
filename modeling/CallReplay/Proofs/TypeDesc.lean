import CallReplay.TypeDesc
import Mathlib

/-!
# Flat types

The loops that write a type flat and put it together again are inverse to each other. A type with
fewer than 2^32 dimensions is read back from its flat form if it has at most 255 of them; otherwise
the flat form is refused, with the number of its dimensions (`isFlattened`). A flat form with at
most 255 dimensions is that of the type that it stands for (`exists_flatten_eq`).
-/

namespace CallReplay

/-- An element type is the innermost element of its type. -/
lemma ElementType.element_toType (e : ElementType) : e.toType.element = e := by
  cases e <;> rfl

/-- An element type has no dimensions. -/
lemma ElementType.dimensions_toType (e : ElementType) : e.toType.dimensions = 0 := by
  cases e <;> rfl

namespace TypeDesc

/-- Dimensions do not change the innermost element. -/
lemma element_wrap (n : Nat) (t : TypeDesc) : (wrap n t).element = t.element := by
  induction n generalizing t with
  | zero => rfl
  | succ n ih => exact ih (.array t)

/-- A type that is wrapped has so many dimensions more. -/
lemma dimensions_wrap (n : Nat) (t : TypeDesc) : (wrap n t).dimensions = t.dimensions + n := by
  induction n generalizing t with
  | zero => rfl
  | succ n ih =>
    rw [wrap, ih, dimensions]
    omega

/-- Putting dimensions around an array is putting one more around what results. -/
lemma wrap_array (n : Nat) (t : TypeDesc) : wrap n (.array t) = .array (wrap n t) := by
  induction n generalizing t with
  | zero => rfl
  | succ n ih => exact ih (.array t)

/-- A type is its innermost element with its dimensions around it. -/
lemma wrap_element (t : TypeDesc) : wrap t.dimensions t.element.toType = t := by
  induction t with
  | primitive kind => rfl
  | named name => rfl
  | array component ih =>
    change wrap component.dimensions (.array component.element.toType) = _
    rw [wrap_array, ih]

/-- Taking dimensions off leaves the innermost element, and counting goes on from where it stood. -/
lemma unwind_eq (n : UInt32) (t : TypeDesc) :
    flatten.unwind n t = ⟨t.element, n + UInt32.ofNat t.dimensions⟩ := by
  induction t generalizing n with
  | primitive kind => simp [flatten.unwind, element, dimensions]
  | named name => simp [flatten.unwind, element, dimensions]
  | array component ih =>
    rw [flatten.unwind, ih, element, dimensions, Nat.add_comm, UInt32.ofNat_add, ← UInt32.add_assoc]
    rfl

/-- The flat form of a type holds its innermost element and counts its dimensions. -/
lemma flatten_eq (t : TypeDesc) : t.flatten = ⟨t.element, UInt32.ofNat t.dimensions⟩ := by
  rw [flatten, unwind_eq, UInt32.zero_add]

/-- The flat form counts the dimensions of a type. -/
lemma toNat_dimensions_flatten {t : TypeDesc} (h : t.dimensions < 2 ^ 32) :
    t.flatten.dimensions.toNat = t.dimensions := by
  simp only [flatten_eq, UInt32.toNat_ofNat']
  exact Nat.mod_eq_of_lt h

/-- A type is read back from its flat form unless it has too many dimensions. -/
theorem ofFlat_flatten {t : TypeDesc} (h : t.dimensions < 2 ^ 32) :
    ofFlat t.flatten =
      if t.dimensions ≤ maxDimensions then .ok t else .error ⟨t.flatten.dimensions⟩ := by
  simp only [ofFlat, toNat_dimensions_flatten h]
  split
  · rename_i hmany
    rw [if_neg (by omega)]
  · rename_i hfew
    rw [if_pos (by omega), flatten_eq]
    exact congrArg _ (wrap_element t)

/-- Dimensions that are put around an element are counted again. -/
lemma flatten_wrap (flat : FlatType) :
    (wrap flat.dimensions.toNat flat.element.toType).flatten = flat := by
  rw [flatten_eq, element_wrap, dimensions_wrap, ElementType.element_toType,
    ElementType.dimensions_toType, Nat.zero_add, UInt32.ofNat_toNat]

/-- A flat form with few dimensions stands for the type with so many dimensions
around the element. -/
lemma ofFlat_of_few {flat : FlatType} (few : flat.dimensions.toNat ≤ maxDimensions) :
    ofFlat flat = .ok (wrap flat.dimensions.toNat flat.element.toType) :=
  if_neg (Nat.not_lt.mpr few)

/-- A flat form that stands for a type gives few dimensions, and so has the type. -/
lemma few_of_ofFlat {flat : FlatType} {t : TypeDesc} (h : ofFlat flat = .ok t) :
    flat.dimensions.toNat ≤ maxDimensions ∧ t.dimensions ≤ maxDimensions := by
  unfold ofFlat at h
  split at h <;> cases h
  next few =>
    rw [dimensions_wrap, ElementType.dimensions_toType, Nat.zero_add]
    exact ⟨Nat.le_of_not_lt few, Nat.le_of_not_lt few⟩

/-- The flat form of a type holds its parts, and the type is read back from it unless it has
too many dimensions. -/
structure IsFlattened (t : TypeDesc) : Prop where
  element : t.flatten.element = t.element
  dimensions : t.flatten.dimensions.toNat = t.dimensions
  readBack : ofFlat t.flatten = .ok t ↔ t.dimensions ≤ maxDimensions
  /-- The error says how many dimensions the type has. -/
  refused : maxDimensions < t.dimensions →
    ∃ e, ofFlat t.flatten = .error e ∧ e.dimensions.toNat = t.dimensions

/-- Every type with fewer than 2^32 dimensions is flattened as it should be. -/
theorem isFlattened {t : TypeDesc} (h : t.dimensions < 2 ^ 32) : t.IsFlattened := by
  have counted : t.flatten.dimensions.toNat = t.dimensions := toNat_dimensions_flatten h
  have read := ofFlat_flatten h
  refine ⟨congrArg FlatType.element (flatten_eq t), counted,
    ⟨fun back => ?_, fun few => ?_⟩, fun many => ?_⟩
  · exact (few_of_ofFlat back).2
  · rw [read, if_pos few]
  · rw [if_neg (Nat.not_le.mpr many)] at read
    exact ⟨_, read, counted⟩

/-- A flat form with few dimensions is that of the type that it stands for. -/
theorem exists_flatten_eq {flat : FlatType} (few : flat.dimensions.toNat ≤ maxDimensions) :
    ∃ t, ofFlat flat = .ok t ∧ t.flatten = flat :=
  ⟨_, ofFlat_of_few few, flatten_wrap flat⟩

/-- What a declaration of an array variable begins with is the name of the array type. -/
lemma canonicalName_append_space (component : TypeDesc) :
    component.canonicalName ++ "[] " = (array component).canonicalName ++ " " := by
  rw [canonicalName, String.append_assoc]
  rfl

end TypeDesc

end CallReplay
