import CallReplay.Proofs.TypeDesc
import CallReplay.Proofs.Script.Identity

/-!
# Array types and their parts

An array type is taken apart into its innermost element and its dimensions where it is written flat,
where it is named, and where an array is created with a length. There the element comes first, then
a bracket pair with the length in it, and then the remaining pairs. Each time the parts make up the
type again (`arrayTypes_recombine`), unless a flat form has too many dimensions. A script creates
with a length the arrays that it cannot write with their elements (`Emits.allocates`).
-/

namespace CallReplay

open Script (brackets)

namespace Script

/-- A bracket pair more may be put in front. -/
lemma brackets_succ (n : Nat) : brackets (n + 1) = "[]" ++ brackets n := by
  rw [brackets, List.replicate_succ, String.join_cons, brackets]

/-- A bracket pair more may be put at the end. -/
lemma brackets_append (n : Nat) : brackets n ++ "[]" = brackets (n + 1) := by
  rw [brackets, brackets, List.replicate_succ', String.join_append, String.join_cons,
    String.join_nil, String.append_empty]

end Script

namespace TypeDesc

open Script (brackets_succ brackets_append)

/-- The name of a type is that of its innermost element and a bracket pair for each dimension. -/
theorem canonicalName_eq (t : TypeDesc) :
    t.canonicalName = t.element.canonicalName ++ brackets t.dimensions := by
  induction t with
  | primitive kind => exact String.append_empty.symm
  | named name => exact String.append_empty.symm
  | array component ih =>
    calc (array component).canonicalName
        = component.element.canonicalName ++ brackets component.dimensions ++ "[]" := by
          rw [canonicalName, ih]
      _ = component.element.canonicalName ++ brackets (component.dimensions + 1) := by
        rw [String.append_assoc, brackets_append]

/-- The brackets of an array type may be divided behind the first pair. -/
lemma canonicalName_array (component : TypeDesc) :
    component.element.canonicalName ++ "[]" ++ brackets component.dimensions =
    (array component).canonicalName := by
  rw [String.append_assoc, ← brackets_succ]
  exact (canonicalName_eq (array component)).symm

end TypeDesc

namespace Script

/-- A statement that declares a variable of an array type and creates an array with a length for it.
The element, the first bracket pair and the remaining pairs make up the declared type, as a text and
as a type. -/
structure Statement.Allocates (statement : Statement) (type : TypeDesc) (name : String)
    (length : Nat) : Prop where
  written : statement.render = type.canonicalName ++ " " ++ name ++ " = new " ++
      type.element.canonicalName ++
    "[" ++ toString length ++ "]" ++ brackets (type.dimensions - 1) ++ ";\n"
  named : type.element.canonicalName ++ "[]" ++ brackets (type.dimensions - 1) = type.canonicalName
  typed : TypeDesc.wrap (type.dimensions - 1) (.array type.element.toType) = type

/-- The statement for an array with a length allocates that array. -/
lemma sizedArray_allocates (component : TypeDesc) (name : String) (length : Nat) :
    (Statement.sizedArray component name length).Allocates (.array component) name length := by
  refine ⟨?_, TypeDesc.canonicalName_array component, TypeDesc.wrap_element (.array component)⟩
  rw [← TypeDesc.canonicalName_append_space]
  rfl

section

variable {heap : Heap} {options : Options} {n n' : Names} {object : Object}

/-- Only arrays that cannot be written with their elements are created with a length. -/
lemma construction_eq_sizedArray_iff {held name : String} {component : TypeDesc} {length : Nat} :
    construction options object held = .sizedArray component name length ↔
      held = name ∧ ∃ elements, object = .array component elements ∧
      inlineElements? component elements = none ∧
        elements.length = length := by
  constructor
  · intro h
    cases object with
    | array component' elements =>
      simp only [construction] at h
      split at h
      · cases h
      next hinline =>
        cases h
        exact ⟨rfl, elements, rfl, hinline, rfl⟩
    | struct s =>
      rw [construction, creation] at h
      split at h <;> cases h
    | _ => cases h
  · rintro ⟨rfl, elements, rfl, hinline, rfl⟩
    simp only [construction, hinline]

/-- The arrays that statements create with a length are those arrays among some objects that
cannot be written with their elements, each with its length, and each statement makes up the type
that it declares. -/
structure AllocatesArrays (heap : Heap) (entries : List (ObjectId × String))
    (out : List Statement) : Prop where
  arrays : ∀ component name length, .sizedArray component name length ∈ out ↔
    ∃ id elements, (id, name) ∈ entries ∧ heap.get? id = some (.array component elements) ∧
      inlineElements? component elements = none ∧ elements.length = length
  declared : ∀ component name length, .sizedArray component name length ∈ out →
    (Statement.sizedArray component name length).Allocates (.array component) name length

/-- A run creates with a length those arrays that it gives variables and that cannot be written
with their elements. -/
theorem Emits.allocates {tasks : List Task} {out : List Statement}
    (run : Emits heap options n tasks out n') :
    ∃ new, n'.entries = new ++ n.entries ∧ AllocatesArrays heap new out := by
  obtain ⟨new, hentries, constructed⟩ := run.constructed
  refine ⟨new, hentries, fun component name length => ⟨fun hmem => ?_, ?_⟩,
    fun component name length _ => sizedArray_allocates component name length⟩
  · have hsome :
        some (.sizedArray component name length) ∈ (out.filter Statement.isConstruction).map some :=
      List.mem_map_of_mem (List.mem_filter.mpr ⟨hmem, rfl⟩)
    rw [constructed] at hsome
    obtain ⟨⟨id, held⟩, hentry, heq⟩ := List.mem_map.mp hsome
    obtain ⟨object, found, hconstruction⟩ := Option.map_eq_some_iff.mp heq
    obtain ⟨rfl, elements, rfl, hinline, hlength⟩ := construction_eq_sizedArray_iff.mp hconstruction
    exact ⟨id, elements, List.mem_reverse.mp hentry, found, hinline, hlength⟩
  · rintro ⟨id, elements, hentry, found, hinline, hlength⟩
    obtain ⟨object, found', hmem⟩ := mem_of_constructed constructed (List.mem_reverse.mpr hentry)
    cases found.symm.trans found'
    rw [construction_eq_sizedArray_iff.mpr ⟨rfl, elements, rfl, hinline, hlength⟩] at hmem
    exact List.mem_of_mem_filter hmem

end

end Script

open Script TypeDesc

/-- Types are made up of their parts: from a flat form that has few dimensions, in their names, and
where a script creates an array with a length. -/
theorem arrayTypes_recombine :
    (∀ t : TypeDesc, t.dimensions < 2 ^ 32 → t.IsFlattened) ∧
    (∀ flat : FlatType, flat.dimensions.toNat ≤ maxDimensions → ∃ t, ofFlat flat = .ok t ∧
    t.flatten = flat) ∧
    (∀ t : TypeDesc, t.canonicalName = t.element.canonicalName ++ brackets t.dimensions) ∧
    ∀ heap options value name hint n s n',
      outcome (compile heap options value name hint) n = (.ok s, n') →
      ∃ new, n'.entries = new ++ n.entries ∧ AllocatesArrays heap new s.statements := by
  refine ⟨fun _ => isFlattened, fun _ => exists_flatten_eq, canonicalName_eq, ?_⟩
  intro heap options value name hint n s n' h
  exact (emits_of_compile h).allocates

/-- A grid with two rows, which are one array. -/
def gridHeap : Heap :=
  ⟨#[.array (.array (.primitive .int)) [.ref ⟨1⟩, .ref ⟨1⟩],
  .array (.primitive .int) [.scalar (.int 4)]]⟩

/-- A type at the limit is read back, one beyond the limit is refused, and the grid is created
with two rows. -/
theorem arrayTypes_recombine_limit :
    ((wrap 255 (.primitive .int)).dimensions < 2 ^ 32 ∧
      ofFlat (wrap 255 (.primitive .int)).flatten = .ok (wrap 255 (.primitive .int))) ∧
    ((wrap 256 (.primitive .int)).dimensions < 2 ^ 32 ∧
      ∃ e, ofFlat (wrap 256 (.primitive .int)).flatten = .error e ∧ e.dimensions.toNat = 256) ∧
    ((⟨.named "p.Item", 255⟩ : FlatType).dimensions.toNat ≤ maxDimensions ∧
      ∃ t, ofFlat ⟨.named "p.Item", 255⟩ = .ok t ∧ t.flatten = ⟨.named "p.Item", 255⟩) ∧
    ∃ s names, outcome (compile gridHeap {} (.ref ⟨0⟩) "grid" none) .empty = (.ok s, names) ∧
      .sizedArray (.array (.primitive .int)) "grid" 2 ∈ s.statements ∧
      (Statement.sizedArray (.array (.primitive .int)) "grid" 2).render =
      "int[][] grid = new int[2][];\n" := by
  have dimensions : ∀ k, (wrap k (.primitive .int)).dimensions = k := fun k =>
    (dimensions_wrap k _).trans (Nat.zero_add k)
  obtain ⟨flattened, unflattened, -, allocated⟩ := arrayTypes_recombine
  have full : (wrap 255 (.primitive .int)).dimensions < 2 ^ 32 := by rw [dimensions]; decide
  have beyond : (wrap 256 (.primitive .int)).dimensions < 2 ^ 32 := by rw [dimensions]; decide
  have few : (⟨.named "p.Item", 255⟩ : FlatType).dimensions.toNat ≤ maxDimensions := by decide
  refine ⟨⟨full, (flattened _ full).readBack.mpr (by rw [dimensions]; decide)⟩, ⟨beyond, ?_⟩,
    ⟨few, unflattened _ few⟩, ?_⟩
  · obtain ⟨e, refused, counted⟩ := (flattened _ beyond).refused (by rw [dimensions]; decide)
    exact ⟨e, refused, counted.trans (dimensions 256)⟩
  · have compiled : outcome (compile gridHeap {} (.ref ⟨0⟩) "grid" none) .empty =
        (.ok ⟨[], [.sizedArray (.array (.primitive .int)) "grid" 2,
          .inlineArray (.primitive .int) "grid_element0_intArray" [some (.int 4)],
          .copy (.array (.primitive .int)) "grid_element1_intArray" "grid_element0_intArray",
          .storeElement "grid" 0 "grid_element0_intArray",
          .storeElement "grid" 1 "grid_element1_intArray"]⟩,
          ⟨[(⟨1⟩, "grid_element0_intArray"), (⟨0⟩, "grid")]⟩) := by cbv
    obtain ⟨new, entries, arrays, declared⟩ := allocated _ _ _ _ _ _ _ _ compiled
    -- Nothing has a variable at first, so the grid is among what is new.
    simp only [Names.empty, List.append_nil] at entries
    have grid : (⟨0⟩, "grid") ∈ new := entries ▸ List.mem_cons_of_mem _ List.mem_cons_self
    have created := (arrays (.array (.primitive .int)) "grid" 2).mpr ⟨⟨0⟩, _, grid, rfl, rfl, rfl⟩
    exact ⟨_, _, compiled, created, (declared _ _ _ created).written⟩

end CallReplay
