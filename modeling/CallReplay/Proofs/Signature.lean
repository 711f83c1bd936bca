import CallReplay.Signature
import CallReplay.Proofs.Text.Split

/-!
# Keys tell overloads apart

The key of a method is its name, a colon, and the names of its parameter types with commas between
them. Where classes have names that cannot be taken for anything else (`IsClassName`), a type is
read back from its name, a list of types from the part of the key behind the colon
(`readTypes_parameters`), and the name of the method from the part before it. So methods with one
key have the same name and the same parameter types.
-/

namespace CallReplay

/-- A name of a class that a list of types can hold: it has a character and no comma, it does not
end as the name of an array does, and it is no keyword. -/
structure IsClassName (name : String) : Prop where
  nonempty : name ≠ ""
  noComma : ',' ∉ name.toList
  noBrackets : ¬ "[]".toList <:+ name.toList
  noKeyword : ∀ kind : Primitive, name ≠ kind.keyword

/-- The name of a class is no keyword. -/
lemma IsClassName.ofKeyword? {name : String} (h : IsClassName name) :
    Primitive.ofKeyword? name = none := by
  rw [Primitive.ofKeyword?, List.find?_eq_none]
  intro kind _ same
  exact h.noKeyword kind (eq_of_beq same).symm

/-- A spelling that ends in no brackets names a class if it is no keyword. -/
lemma IsClassName.ofSpelling {name : String} (h : IsClassName name) :
    TypeDesc.ofSpelling name = .named name := by
  have reversed : ∀ rest, name.toList.reverse = ']' :: '[' :: rest → False := by
    intro rest hrest
    have chars : name.toList = rest.reverse ++ "[]".toList := by
      rw [← List.reverse_reverse name.toList, hrest]
      simp
    exact h.noBrackets (chars ▸ List.suffix_append _ _)
  rw [TypeDesc.ofSpelling, TypeDesc.ofSpelling.strip, List.reverse_reverse, String.ofList_toList,
    h.ofKeyword?]
  exact reversed

namespace TypeDesc

/-- The innermost element of the type is a primitive or a class with such a name. -/
def IsLegible : TypeDesc → Prop
  | primitive _ => True
  | named name => IsClassName name
  | array component => component.IsLegible

section

variable {t : TypeDesc}

/-- A bracket pair at the end makes an array of what is before it. -/
lemma ofSpelling_brackets (spelling : String) :
    ofSpelling (spelling ++ "[]") = .array (ofSpelling spelling) := by
  have reversed : (spelling ++ "[]").toList.reverse = ']' :: '[' :: spelling.toList.reverse := by
    simp
  rw [ofSpelling, reversed, ofSpelling.strip, ofSpelling]

/-- A type is read back from its name. -/
theorem ofSpelling_canonicalName (h : t.IsLegible) : ofSpelling t.canonicalName = t := by
  induction t with
  | primitive kind => cases kind <;> rfl
  | named name => exact IsClassName.ofSpelling h
  | array component ih =>
    rw [canonicalName, ofSpelling_brackets, ih h]

/-- The name of a type has no comma. -/
lemma comma_notMem_canonicalName (h : t.IsLegible) : ',' ∉ t.canonicalName.toList := by
  induction t with
  | primitive kind => cases kind <;> decide
  | named name => exact h.noComma
  | array component ih =>
    rw [canonicalName, String.toList_append, List.mem_append]
    rintro (inside | brackets)
    · exact ih h inside
    · revert brackets
      decide

/-- The name of a type is not empty. -/
lemma canonicalName_ne_empty (h : t.IsLegible) : t.canonicalName ≠ "" := by
  induction t with
  | primitive kind => cases kind <;> decide
  | named name => exact h.nonempty
  | array component ih =>
    rw [canonicalName, Ne, String.append_eq_empty_iff]
    rintro ⟨-, brackets⟩
    revert brackets
    decide

end

end TypeDesc

namespace Signature

/-- The types that a list in a key names. -/
def readTypes (parameters : String) : List TypeDesc :=
  if parameters = "" then [] else (Text.parts ',' parameters.toList).map fun cs => .ofSpelling
    (String.ofList cs)

section

variable {types types' : Option (List TypeDesc)} {method : String}

/-- The names of one type or more are not nothing. -/
lemma parameters_ne_empty {t : TypeDesc} {rest : List TypeDesc} (h : t.IsLegible) :
    ",".intercalate ((t :: rest).map TypeDesc.canonicalName) ≠ "" := by
  have first := TypeDesc.canonicalName_ne_empty h
  cases rest with
  | nil => simpa using first
  | cons other more => simp

/-- The parameter types are read back from the part of the key that lists them. -/
theorem readTypes_parameters (h : ∀ t ∈ types.getD [], t.IsLegible) (method : String) :
    readTypes (mangle method types).parameters = types.getD [] := by
  rw [mangle]
  generalize types.getD [] = list at h
  cases list with
  | nil => rfl
  | cons t rest =>
    -- No name is empty, so neither is a list with one type in it.
    have names : ∀ g ∈ ((t :: rest).map TypeDesc.canonicalName).map String.toList, ',' ∉ g := by
      simp only [List.map_map, List.mem_map, Function.comp_apply]
      rintro _ ⟨other, hother, rfl⟩
      exact TypeDesc.comma_notMem_canonicalName (h other hother)
    have parts : Text.parts ',' (",".intercalate ((t :: rest).map TypeDesc.canonicalName)).toList =
        ((t :: rest).map TypeDesc.canonicalName).map String.toList := by
      rw [String.toList_intercalate]
      exact Text.parts_intercalate (by simp) names
    have each : ∀ other ∈ t :: rest, TypeDesc.ofSpelling other.canonicalName = other := by
      intro other hother
      exact TypeDesc.ofSpelling_canonicalName (h other hother)
    rw [readTypes, if_neg (parameters_ne_empty (h t List.mem_cons_self)), parts]
    simp only [List.map_map, Function.comp_def, String.ofList_toList]
    rw [List.map_congr_left each, List.map_id']

/-- The name of the method is what stands before the first colon of the key. -/
lemma head?_parts_full (h : ':' ∉ method.toList) (types : Option (List TypeDesc)) :
    (Text.parts ':' (mangle method types).full.toList).head? = some method.toList := by
  have full : (mangle method types).full.toList =
      method.toList ++ ':' :: (mangle method types).parameters.toList := by
    simp [mangle]
  rw [full, Text.parts_append h, List.head?_cons]

/-- The key of a method is its name, a colon and the names of its parameter types. -/
lemma full_mangle (method : String) (types : Option (List TypeDesc)) :
    (mangle method types).full = method ++ ":" ++ (mangle method types).parameters := rfl

/-- The parameters of two keys are listed alike if they have the same types, and two keys are the
same if the names of the methods are the same too. -/
theorem mangle_separates (h : ∀ t ∈ types.getD [], t.IsLegible)
    (h' : ∀ t ∈ types'.getD [], t.IsLegible) :
    (∀ method method', (mangle method types).parameters = (mangle method' types').parameters ↔
      types.getD [] = types'.getD []) ∧
    ∀ method method', ':' ∉ method.toList → ':' ∉ method'.toList →
      ((mangle method types).full = (mangle method' types').full ↔
        method = method' ∧ types.getD [] = types'.getD []) := by
  have listed :
    ∀ method method', (mangle method types).parameters = (mangle method' types').parameters ↔
      types.getD [] = types'.getD [] := by
    intro method method'
    constructor
    · intro same
      rw [← readTypes_parameters h method, same, readTypes_parameters h' method']
    · intro same
      simp only [mangle, same]
  refine ⟨listed, fun method method' hmethod hmethod' => ?_⟩
  constructor
  · intro same
    have names := head?_parts_full hmethod types
    rw [same, head?_parts_full hmethod' types', Option.some_inj, String.toList_inj] at names
    subst names
    rw [full_mangle, full_mangle, String.append_right_inj] at same
    exact ⟨rfl, (listed method' method').mp same⟩
  · rintro ⟨rfl, same⟩
    rw [full_mangle, full_mangle, (listed method method).mpr same]

/-- The brackets of an array stay with its element, so two methods whose types have the same
elements and brackets in different places have different keys. -/
theorem mangle_separates_arrays :
    (∀ t ∈ [TypeDesc.array (.named "p.Item"), .primitive .int], t.IsLegible) ∧
    (∀ t ∈ [TypeDesc.named "p.Item", .array (.primitive .int)], t.IsLegible) ∧
    (mangle "put" (some [.array (.named "p.Item"), .primitive .int])).full ≠
      (mangle "put" (some [.named "p.Item", .array (.primitive .int)])).full := by
  have item : IsClassName "p.Item" :=
    ⟨by decide, by decide, by decide, fun kind => by cases kind <;> decide⟩
  have legible : ∀ t ∈ [TypeDesc.array (.named "p.Item"), .primitive .int], t.IsLegible := by
    simpa [TypeDesc.IsLegible] using item
  have legible' : ∀ t ∈ [TypeDesc.named "p.Item", .array (.primitive .int)], t.IsLegible := by
    simpa [TypeDesc.IsLegible] using item
  have separated := @mangle_separates (some _) (some _) legible legible'
  refine ⟨legible, legible', fun same => ?_⟩
  have types := ((separated.2 "put" "put" (by decide) (by decide)).mp same).2
  cases types

end

end Signature

end CallReplay
