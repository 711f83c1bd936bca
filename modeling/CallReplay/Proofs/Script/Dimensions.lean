import CallReplay.Proofs.Script.Depth
import CallReplay.Proofs.Script.TagLine
import CallReplay.Proofs.Stability

/-!
# Array types in scripts

The types that a statement is written with stand in its text (`Statement.within_render`). In
the script for a call they are types in the graph, types that parameters were declared with,
and types that objects have when the program runs (`types_argumentsScript`). What was read
from bytes has no type with more than 255 dimensions in it. But an array has one dimension
more than its component, and only the component is looked at: an array of a component with 255
dimensions is read, and its declaration has 256 (`unpack_exceedsLimit`). No other declaration
exceeds the limit (`unpack_limitsDimensions`).
-/

namespace CallReplay

open Wire (Shallow shallow_append shallow_flatMap)

namespace Script

/-- The types that a statement is written with. -/
def Statement.types : Statement → List TypeDesc
  | declareNull hint _ => hint.toList
  | declareClass _ type => [type]
  | copy type _ _ => [type]
  | inlineArray component _ _ => [.array component]
  | sizedArray component _ _ => [.array component]
  | construct className _ => [.named className]
  | bypass className _ _ => [.named className]
  | declareScalar .. | storeElement .. | add .. | put .. | setProperty .. | storeField ..
  | unreadField .. => []

section

variable {statement : Statement} {t : TypeDesc} {object : Object} {value : Value}

/-- A text stands somewhere in another one. -/
def Within (part text : String) : Prop := part.toList <:+: text.toList

/-- A text is within itself. -/
lemma Within.self {part : String} : Within part part := List.infix_rfl

/-- What is within a text is within it when more follows. -/
lemma Within.left {part text : String} (h : Within part text) (more : String) :
    Within part (text ++ more) := by
  rw [Within, String.toList_append]
  exact h.trans (List.prefix_append _ _).isInfix

/-- What is within a text is within it when more is in front. -/
lemma Within.right {part text : String} (h : Within part text) (more : String) :
    Within part (more ++ text) := by
  rw [Within, String.toList_append]
  exact h.trans (List.suffix_append _ _).isInfix

/-- The name of an array type is within that of its component with a bracket pair. -/
lemma within_array (component : TypeDesc) :
    Within (TypeDesc.array component).canonicalName (component.canonicalName ++ "[] ") := by
  rw [TypeDesc.canonicalName_append_space]
  exact Within.self.left " "

/-- A type that a statement is written with stands in its text. -/
theorem Statement.within_render (h : t ∈ statement.types) :
    Within t.canonicalName statement.render := by
  cases statement with
  | declareNull hint name =>
    cases hint with
    | none => cases h
    | some type =>
      cases List.mem_singleton.mp h
      change Within _ (t.canonicalName ++ " " ++ name ++ " = null;/* Null */\n")
      exact ((Within.self.left _).left _).left _
  | declareClass name type =>
    cases List.mem_singleton.mp h
    change Within _ ("Class " ++ name ++ " = " ++ (t.canonicalName ++ ".class") ++ ";\n")
    exact ((Within.self.left _).right _).left _
  | copy type name previous =>
    cases List.mem_singleton.mp h
    change Within _ (t.canonicalName ++ " " ++ name ++ " = " ++ previous ++ ";\n")
    exact ((((Within.self.left _).left _).left _).left _).left _
  | inlineArray component name elements =>
    cases List.mem_singleton.mp h
    change Within _
      (component.canonicalName ++ "[] " ++ name ++ " = new " ++ component.canonicalName ++ "[] " ++
      braceList (elements.map renderElement) ++ ";\n")
    exact ((((((within_array component).left _).left _).left _).left _).left _).left _
  | sizedArray component name length =>
    cases List.mem_singleton.mp h
    change Within _
      (component.canonicalName ++ "[] " ++ name ++ " = new " ++ component.element.canonicalName ++
      "[" ++ toString length ++ "]" ++ brackets component.dimensions ++ ";\n")
    exact ((((((((within_array component).left _).left _).left _).left _).left _).left _).left
      _).left _
  | construct className name =>
    cases List.mem_singleton.mp h
    change Within _ (className ++ " " ++ name ++ " = new " ++ className ++ "();\n")
    exact ((((Within.self.left _).left _).left _).left _).left _
  | bypass className name helper =>
    cases List.mem_singleton.mp h
    change Within _
      (className ++ " " ++ name ++ " = " ++ helper ++ "(" ++ className ++ ".class); // WARNING: " ++
      className ++ " has no default constructor, instance built without running a constructor\n")
    exact ((((((((Within.self.left _).left _).left _).left _).left _).left _).left _).left _).left _
  | _ => cases h

/-- The types of what an object holds are among its types. -/
lemma mem_types_of_mem_values (hvalue : value ∈ object.values) (h : t ∈ value.types) :
    t ∈ object.types := by
  cases object with
  | array component elements =>
      exact List.mem_cons_of_mem _ (List.mem_flatMap.mpr ⟨value, hvalue, h⟩)
  | collection className elements => exact List.mem_flatMap.mpr ⟨value, hvalue, h⟩
  | properties entries => cases hvalue
  | map className entries =>
    obtain ⟨entry, hentry, hvalue⟩ := List.mem_flatMap.mp hvalue
    refine List.mem_flatMap.mpr ⟨entry, hentry, List.mem_append.mpr ?_⟩
    rcases List.mem_pair.mp hvalue with rfl | rfl
    · exact .inl h
    · exact .inr h
  | struct s =>
    obtain ⟨field, hfield, hslot⟩ := List.mem_filterMap.mp hvalue
    refine List.mem_flatMap.mpr ⟨field, hfield, List.mem_cons_of_mem _ ?_⟩
    rw [RemotePath.value?_eq_some_iff.mp hslot]
    exact h

/-- An object is created with the type that it has when the program runs. -/
lemma types_construction (options : Options) (object : Object) (name : String) :
    (construction options object name).types = [object.runtimeType] := by
  cases object with
  | array component elements =>
    rw [construction]
    split <;> rfl
  | struct s =>
    rw [construction, creation]
    split <;> rfl
  | _ => rfl

/-- A statement for a value without parts has a type of the value or the hint. -/
lemma mem_types_of_leaf {item : Holder} {hint : Option TypeDesc}
    (h : leaf? item hint = some statement) (ht : t ∈ statement.types) :
    t ∈ item.value.types ∨ hint = some t := by
  unfold leaf? at h
  split at h
  · cases h
    exact .inr (Option.mem_toList.mp ht)
  · next type hvalue =>
    cases h
    rw [hvalue]
    exact .inl ht
  · cases h
    cases ht
  · cases h

end

section

variable {heap : Heap} {options : Options} {object : Object} {name : String} {item : Holder}
  {hint : Option TypeDesc} {statement : Statement} {t : TypeDesc} {n n' : Names}

/-- A value is compiled with the hint that comes with it. -/
lemma hint_of_mem_namedTasks {item' : Holder} {hint' : Option TypeDesc}
    (h : .compile item hint ∈ namedTasks hint' item') : hint = hint' := by
  rcases List.mem_append.mp h with h | h
  · unfold looks at h
    split at h
    · cases List.mem_singleton.mp h
    · cases h
  · cases List.mem_singleton.mp h
    rfl

/-- An operand is compiled without a hint. -/
lemma hint_of_mem_operandTasks {item' : Holder} (h : .compile item hint ∈ operandTasks item') :
    hint = none := by
  unfold operandTasks at h
  split at h
  · cases h
  · cases List.mem_singleton.mp h
    rfl

/-- The value of a field is compiled without a hint. -/
lemma hint_of_mem_fieldTasks {field : Field} (h : .compile item hint ∈ fieldTasks heap name field) :
    hint = none := by
  unfold fieldTasks at h
  split at h
  · cases h
  split at h
  · cases List.mem_singleton.mp h
  rcases List.mem_append.mp h with h | h
  · split at h
    · cases h
    · unfold looks at h
      split at h
      · cases List.mem_singleton.mp h
      · cases h
  · split at h
    · unfold storeTasks at h
      split at h
      · cases List.mem_singleton.mp h
      · rcases List.mem_pair.mp h with h | h
        · cases h
          rfl
        · cases h
    · cases h

/-- Stores compile nothing. -/
lemma notMem_stores {receiver : String} {stores : List Store} :
    .compile item hint ∉ stores.map (Task.store receiver) := by
  intro h
  obtain ⟨_, -, heq⟩ := List.mem_map.mp h
  cases heq

/-- Only the elements of an array come with a type, which is the component of the array. -/
lemma hint_of_mem_objectTasks (h : .compile item hint ∈ objectTasks heap object name)
    (ht : hint = some t) :
    ∃ elements, object = .array t elements := by
  subst ht
  cases object with
  | array component elements =>
    simp only [objectTasks] at h
    split at h
    · cases h
    · rcases List.mem_append.mp h with h | h
      · obtain ⟨_, -, h⟩ := List.mem_flatMap.mp h
        cases hint_of_mem_namedTasks h
        exact ⟨elements, rfl⟩
      · exact absurd h notMem_stores
  | collection className elements =>
    rcases List.mem_append.mp h with h | h
    · obtain ⟨_, -, h⟩ := List.mem_flatMap.mp h
      cases hint_of_mem_namedTasks h
    · exact absurd h notMem_stores
  | properties entries => exact absurd h notMem_stores
  | map className entries =>
    rcases List.mem_append.mp h with h | h
    · obtain ⟨_, -, h⟩ := List.mem_flatMap.mp h
      rcases List.mem_append.mp h with h | h <;> cases hint_of_mem_operandTasks h
    · exact absurd h notMem_stores
  | struct s =>
    obtain ⟨_, -, h⟩ := List.mem_flatMap.mp h
    cases hint_of_mem_fieldTasks h

/-- What the tasks of an object are given are types in the object. -/
lemma mem_types_of_objectTasks (h : .compile item hint ∈ objectTasks heap object name)
    (ht : t ∈ item.value.types ∨ hint = some t) : t ∈ object.types := by
  rcases ht with ht | ht
  · exact mem_types_of_mem_values (mem_regarded_objectTasks (List.mem_filterMap.mpr ⟨_, h, rfl⟩)) ht
  · obtain ⟨elements, rfl⟩ := hint_of_mem_objectTasks h ht
    exact List.mem_cons_self

/-- A type that some task is given. -/
def Given (tasks : List Task) (t : TypeDesc) : Prop :=
  ∃ item hint, .compile item hint ∈ tasks ∧ (t ∈ item.value.types ∨ hint = some t)

/-- A type that tasks are given is given when there is one more. -/
lemma Given.cons {tasks : List Task} (h : Given tasks t) (task : Task) :
    Given (task :: tasks) t := by
  obtain ⟨item, hint, hmem, given⟩ := h
  exact ⟨item, hint, List.mem_cons_of_mem _ hmem, given⟩

/-- A type that stands in a heap, or that an object of the heap has. -/
def Known (heap : Heap) (t : TypeDesc) : Prop :=
  t ∈ heap.types ∨ ∃ object ∈ heap.objects, t = object.runtimeType

/-- The type of an object in the heap is known. -/
lemma known_of_get {id : ObjectId} (found : heap.get? id = some object) :
    Known heap object.runtimeType :=
  .inr ⟨object, Array.mem_of_getElem? found, rfl⟩

/-- A run is written with types that its tasks are given, types in the heap, and types that objects
of the heap have. -/
theorem Emits.given_or_known {tasks : List Task} {out : List Statement}
    (run : Emits heap options n tasks out n') (hmem : statement ∈ out) (ht : t ∈ statement.types) :
    Given tasks t ∨ Known heap t := by
  induction run with
  | done => cases hmem
  | look _ _ ih => exact (ih hmem).imp_left fun given => given.cons _
  | @store n n' receiver change rest out _ ih =>
    rcases List.mem_cons.mp hmem with rfl | hmem
    · cases change <;> cases ht
    · exact (ih hmem).imp_left fun given => given.cons _
  | leaf plain _ ih =>
    rcases List.mem_cons.mp hmem with rfl | hmem
    · exact .inl ⟨_, _, List.mem_cons_self, mem_types_of_leaf plain ht⟩
    · exact (ih hmem).imp_left fun given => given.cons _
  | copy found _ _ ih =>
    rcases List.mem_cons.mp hmem with rfl | hmem
    · cases List.mem_singleton.mp ht
      exact .inr (known_of_get found)
    · exact (ih hmem).imp_left fun given => given.cons _
  | create found _ _ ih =>
    rcases List.mem_cons.mp hmem with rfl | hmem
    · rw [types_construction] at ht
      cases List.mem_singleton.mp ht
      exact .inr (known_of_get found)
    · rcases ih hmem with ⟨item, hint, htask, given⟩ | known
      · rcases List.mem_append.mp htask with htask | htask
        · exact .inr (.inl (List.mem_flatMap.mpr
            ⟨_, Array.mem_toList_iff.mpr (Array.mem_of_getElem? found),
            mem_types_of_objectTasks htask given⟩))
        · exact .inl ⟨item, hint, List.mem_cons_of_mem _ htask, given⟩
      · exact .inr known

end

end Script

namespace Recorder

open Script

/-- Arguments are compiled with the types that their parameters were declared with. -/
lemma given_argumentTasks {heap : Heap} {types : List TypeDesc} {start : Nat} {values : List Value}
    {t : TypeDesc} (h : Given (argumentTasks heap types start values) t) :
    t ∈ values.flatMap Value.types ∨ t ∈ types := by
  obtain ⟨item, hint, hmem, given⟩ := h
  obtain ⟨argument, hargument, hmem⟩ := List.mem_flatMap.mp hmem
  split at hmem
  · cases hmem
  · have value := mem_regarded_namedTasks (List.mem_filterMap.mpr ⟨_, hmem, rfl⟩)
    cases hint_of_mem_namedTasks hmem
    rcases given with given | given
    · rw [value] at given
      exact .inl (List.mem_flatMap.mpr ⟨argument.1, List.fst_mem_of_mem_zipIdx hargument, given⟩)
    · exact .inr (List.mem_of_getElem? given)

/-- The script for a call is written with types in its arguments, the types that its parameters were
declared with, and types that objects of its arguments have. -/
theorem types_argumentsScript {options : RecorderOptions} {r : CallRecord} {tag : String}
    {parts : List Scriptlet} {names : List (Option String)}
    (h : argumentsScript options r = .ok (.build tag parts names)) {part : Scriptlet}
    (hpart : part ∈ parts) {statement : Statement} (hstatement : statement ∈ part.statements)
    {t : TypeDesc} (ht : t ∈ statement.types) :
    t ∈ r.arguments.types ∨ t ∈ r.argumentTypes.getD [] ∨
      ∃ object ∈ r.arguments.heap.objects, t = object.runtimeType := by
  have hne : r.arguments.values ≠ [] := by
    intro hnil
    rw [argumentsScript, hnil] at h
    cases h
  rw [argumentsScript_of_ne_nil hne] at h
  rcases hcompiled :
    outcome (compileArguments r.arguments.heap options.script (r.argumentTypes.getD []) 0
      r.arguments.values) .empty with ⟨e | ⟨parts', names'⟩, n⟩
  · rw [hcompiled] at h
    cases h
  rw [hcompiled] at h
  cases h
  obtain ⟨-, hrun⟩ := outcome_compileArguments_ok hcompiled
  have run := emits_of_runTasks hrun
  rw [statements_concat] at run
  rcases run.given_or_known (List.mem_flatMap.mpr ⟨part, hpart, hstatement⟩) ht
    with given | known | typed
  · rcases given_argumentTasks given with written | declared
    · exact .inl (List.mem_append_right _ written)
    · exact .inr (.inl declared)
  · exact .inl (List.mem_append_left _ known)
  · exact .inr (.inr typed)

end Recorder

/-! ## The limit -/

/-- An array that has one dimension more than an array type may have, since its component has as
many as it may have. -/
def Object.IsBeyondLimit (object : Object) : Prop :=
  ∃ component elements, object = .array component elements ∧ component.dimensions = maxDimensions

/-- An object of a graph with shallow types is beyond the limit, or its own type is shallow too. -/
lemma Object.dimensions_runtimeType {object : Object} (shallow : Shallow object.types) :
    object.runtimeType.dimensions ≤ maxDimensions ∨
      object.IsBeyondLimit ∧ object.runtimeType.dimensions = maxDimensions + 1 := by
  cases object with
  | array component elements =>
    have bound : component.dimensions ≤ maxDimensions := shallow component List.mem_cons_self
    rcases Nat.lt_or_eq_of_le bound with less | full
    · exact .inl less
    · exact .inr ⟨⟨component, elements, rfl, full⟩, congrArg (· + 1) full⟩
  | _ => exact .inl (Nat.zero_le _)

/-- How the types of a graph that was read compare to the limit. -/
structure Heap.Limited (heap : Heap) (roots : List Value) : Prop where
  /-- No type that stands in the graph exceeds it. -/
  shallow : Shallow (heap.types ++ roots.flatMap Value.types)
  /-- The type that an object has exceeds it by one if the object is an array beyond the limit, and
  else not at all. -/
  runtime : ∀ object ∈ heap.objects, object.runtimeType.dimensions ≤ maxDimensions ∨
    object.IsBeyondLimit ∧ object.runtimeType.dimensions = maxDimensions + 1

/-- A heap whose types have few dimensions is limited. -/
lemma Heap.limited_of_shallow {heap : Heap} {roots : List Value}
    (shallow : Shallow (heap.types ++ roots.flatMap Value.types)) : heap.Limited roots := by
  refine ⟨shallow, fun object hobject => Object.dimensions_runtimeType ?_⟩
  exact shallow_flatMap.mp (shallow_append.mp shallow).1 object (Array.mem_toList_iff.mpr hobject)

namespace CallRecord

open Recorder

/-- The script for a call is written with no type that exceeds the limit, apart from those of
arrays beyond it. -/
def WritesWithinLimit (r : CallRecord) : Prop :=
  ∀ options tag parts names, argumentsScript options r = .ok (.build tag parts names) →
    ∀ part ∈ parts, ∀ statement ∈ part.statements, ∀ t ∈ statement.types,
      t.dimensions ≤ maxDimensions ∨ ∃ object ∈ r.arguments.heap.objects, object.IsBeyondLimit ∧
      t = object.runtimeType

/-- A script for limited arguments is written within the limit if no types are declared. -/
lemma writesWithinLimit_of_limited {r : CallRecord}
    (limited : r.arguments.heap.Limited r.arguments.values) (untyped : r.argumentTypes = none) :
    r.WritesWithinLimit := by
  intro options tag parts names h part hpart statement hstatement t ht
  rcases types_argumentsScript h hpart hstatement ht
    with written | declared | ⟨object, hobject, rfl⟩
  · exact .inl (limited.shallow t written)
  · rw [untyped] at declared
    cases declared
  · exact (limited.runtime object hobject).imp_right fun ⟨beyond, _⟩ =>
      ⟨object, hobject, beyond, rfl⟩

/-- In graphs that are read from bytes no type has more than 255 dimensions. Only arrays of
components with 255 dimensions have a type that exceeds the limit, by one, and only such types make
the scripts for what was read exceed it. -/
theorem unpack_limitsDimensions (bytes : List UInt8) :
    (∀ a, Arguments.unpack bytes = .ok a → a.heap.Limited a.values ∧
      ∀ r : CallRecord, r.arguments = a → r.argumentTypes = none → r.WritesWithinLimit) ∧
    ∀ r, unpack bytes = .ok r → r.arguments.heap.Limited r.arguments.values ∧
      (∃ outcome, r.outcome = some outcome ∧ outcome.payload.heap.Limited [outcome.payload.value]) ∧
      ∀ index target scope, (r.placed index target scope).WritesWithinLimit := by
  have limited : ∀ {bytes a}, Arguments.unpack bytes = .ok a → a.heap.Limited a.values :=
    fun h => Heap.limited_of_shallow (Arguments.readable_of_unpack h).1
  refine ⟨fun a h => ⟨limited h, fun r hr => ?_⟩, fun r h => ?_⟩
  · subst hr
    exact writesWithinLimit_of_limited (limited h)
  · obtain ⟨p, name, isThrown, payload, arguments, -, -, hpayload, harguments, hr⟩ :=
      parts_of_unpack h
    have within : r.arguments.heap.Limited r.arguments.values := by
      rw [hr]
      exact limited harguments
    refine ⟨within, ?_, fun index target scope => ?_⟩
    · rw [hr]
      refine ⟨_, rfl, Heap.limited_of_shallow ?_⟩
      rw [Frame.outcome_content, List.flatMap_singleton]
      exact (Payload.readable_of_unpack hpayload).1
    · have untyped : r.argumentTypes = none := untyped_of_unpack h
      exact writesWithinLimit_of_limited within untyped

/-- Arguments with an empty array of arrays. -/
def arrayArguments (inner : TypeDesc) : Arguments := ⟨⟨#[.array (.array inner) []]⟩, [.ref ⟨0⟩]⟩

/-- A call with these arguments. -/
def arrayCall (inner : TypeDesc) : CallRecord :=
  { new 0 "" "sort" none (arrayArguments inner) with outcome := some (.returned ⟨.empty, .null⟩) }

/-- The script for such a call creates the array in one statement, whatever is in it. -/
lemma argumentsScript_arrayCall (inner : TypeDesc) :
    argumentsScript {} (arrayCall inner) = .ok (.build "sort:#0"
      [.single (.sizedArray (.array inner)
        (argumentName (VariableName.ofType (.array (.array inner))) 0) 0)]
      [some (argumentName (VariableName.ofType (.array (.array inner))) 0)]) := by
  cbv

/-- A type with as many dimensions as it may have, which is that of the elements of an array. -/
def deepType : TypeDesc := .array (.wrap 254 (.primitive .int))

/-- A call with the array as its argument. -/
def deepCall : CallRecord := arrayCall (.wrap 254 (.primitive .int))

/-- The frame of the call. -/
def deepFrame : List UInt8 :=
  Frame.assemble "sort" deepCall.packedArguments (.returned ⟨.empty, .null⟩)

/-- The type has as many dimensions as a type may have. -/
lemma dimensions_deepType : deepType.dimensions = maxDimensions := by
  rw [deepType, TypeDesc.dimensions, TypeDesc.dimensions_wrap]
  rfl

/-- Only the number of the dimensions is written. -/
lemma packedArguments_deepCall : deepCall.packedArguments =
    [1, 1, 0, 0, 0, 0, 0, 0, 0, 0, 0, 0, 0, 0, 0, 0, 0, 4, 0, 0, 0, 255, 0, 0, 0, 0, 0, 0, 0, 0, 0,
    0, 0,
      1, 0, 0, 0, 0, 0, 0, 0, 11, 0, 0, 0, 0, 0, 0, 0] := by
  have flat : deepType.flatten = ⟨.primitive .int, 255⟩ := by
    rw [TypeDesc.flatten_eq, dimensions_deepType, deepType, TypeDesc.element, TypeDesc.element_wrap]
    rfl
  have component : Wire.writeType deepType = [0, 0, 0, 0, 4, 0, 0, 0, 255, 0, 0, 0] := by
    rw [Wire.writeType, flat]
    rfl
  have written : deepCall.packedArguments =
      1 :: (Wire.writeLength 1 ++
        ((Wire.writeVariant 0 ++ Wire.writeType deepType ++ Wire.writeLength 0) ++ []) ++
        (Wire.writeLength 1 ++ (Wire.writeValue (.ref ⟨0⟩) ++ []))) := rfl
  rw [written, component]
  rfl

/-- The frame is unpacked to the call. -/
lemma unpack_deepFrame : unpack deepFrame = .ok deepCall := by
  have arises : deepCall.Arises := .finish .new rfl
  have arguments : deepCall.arguments.Readable := by
    refine ⟨fun t ht => ?_, rfl⟩
    have only : t = deepType := by
      simpa [deepCall, deepType, arrayCall, arrayArguments, new, Arguments.types, Heap.types,
        Object.types, Value.types] using ht
    rw [only, dimensions_deepType]
  have payload : ∀ outcome, deepCall.outcome = some outcome → outcome.payload.Readable := by
    rintro outcome ⟨⟩
    refine ⟨fun t ht => ?_, rfl⟩
    cases ht
  have framable : deepCall.Framable (.returned ⟨.empty, .null⟩) := by
    have method : (Text.Utf8.encode "sort").length < 0x10000 := by cbv
    have packed : deepCall.packedArguments.length < 0x100000000 := by
      rw [packedArguments_deepCall]
      decide
    exact ⟨method, packed, by cbv⟩
  exact arises.unpack_pack arguments payload (pack_eq_ok_iff.mpr ⟨_, rfl, framable, rfl⟩)

/-- An array beyond the limit is read, and the script for the call exceeds the limit with
its type only. -/
theorem unpack_limitsDimensions_deep : deepCall.arguments.heap.Limited deepCall.arguments.values ∧
    (deepCall.placed 3 "p.Sorter" "s").WritesWithinLimit ∧
    ∀ r : CallRecord, r.arguments = deepCall.arguments →
      r.argumentTypes = none → r.WritesWithinLimit := by
  obtain ⟨blocks, frames⟩ := unpack_limitsDimensions deepFrame
  obtain ⟨limited, -, writes⟩ := frames deepCall unpack_deepFrame
  have block : Arguments.unpack deepCall.packedArguments = .ok deepCall.arguments :=
    (valid_of_unpack unpack_deepFrame).1
  exact ⟨limited, writes 3 "p.Sorter" "s",
    ((unpack_limitsDimensions deepCall.packedArguments).1 _ block).2⟩

/-- The array is read from the frame although its type exceeds the limit, and the script for the
call declares a variable of that type. -/
theorem unpack_exceedsLimit : unpack deepFrame = .ok deepCall ∧
    (∃ object ∈ deepCall.arguments.heap.objects, object.runtimeType.dimensions = 256) ∧
    ∃ tag statement names,
      argumentsScript {} deepCall = .ok (.build tag [.single statement] names) ∧
      ∃ t ∈ statement.types, t.dimensions = 256 := by
  have beyond : (TypeDesc.array deepType).dimensions = 256 := congrArg (· + 1) dimensions_deepType
  exact ⟨unpack_deepFrame, ⟨_, Array.mem_of_getElem? (i := 0) rfl, beyond⟩, _, _, _,
    argumentsScript_arrayCall _, _,
    List.mem_cons_self, beyond⟩

end CallRecord

end CallReplay
