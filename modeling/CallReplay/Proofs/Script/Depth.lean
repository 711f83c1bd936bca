import CallReplay.Proofs.Heap
import CallReplay.Proofs.Script.Arguments

/-!
# Depth of compilation

The compiler fails at a value that is not sound, or it runs out of room. Every object that it has
entered and not yet left was given a variable when it was entered, and an object that has a variable
is not entered again, so the objects that used up the room are distinct and form a chain
(`outcome_compileObject_error`). On a valid graph the compiler can fail in the second way only
(`compileArguments_error`). More room never changes a result: whatever the compiler gives with
little room, it gives with more (`extendedBy_compileObject`).
-/

namespace CallReplay.Script

/-- The values that tasks look at. -/
def regarded (tasks : List Task) : List Value :=
  tasks.filterMap fun
    | .look id => some (.ref id)
    | .compile item _ => some item.value
    | .store .. => none

/-- What tasks one behind the other regard is what each of them regards. -/
lemma regarded_append (a b : List Task) : regarded (a ++ b) = regarded a ++ regarded b :=
  List.filterMap_append

/-- What the tasks for elements regard is what those for each element regard. -/
lemma regarded_flatMap {α : Type} (f : α → List Task) (l : List α) :
    regarded (l.flatMap f) = l.flatMap fun a => regarded (f a) :=
  List.filterMap_flatMap

/-- Stores regard no value. -/
lemma regarded_stores (receiver : String) (stores : List Store) :
    regarded (stores.map (.store receiver)) = [] := by
  simp [regarded]

section

variable {heap : Heap} {name : String} {value : Value}

/-- Looking an object up regards the reference to it. -/
lemma mem_regarded_looks {other : Value} (h : value ∈ regarded (looks other)) : value = other := by
  cases other with
  | ref id => exact List.mem_singleton.mp h
  | _ => cases h

/-- Compiling a value regards that value. -/
lemma mem_regarded_namedTasks {hint : Option TypeDesc} {item : Holder}
    (h : value ∈ regarded (namedTasks hint item)) : value = item.value := by
  rw [namedTasks, regarded_append] at h
  rcases List.mem_append.mp h with hlooks | hitem
  · exact mem_regarded_looks hlooks
  · exact List.mem_singleton.mp hitem

/-- Preparing an operand regards the value of the operand. -/
lemma mem_regarded_operandTasks {item : Holder} (h : value ∈ regarded (operandTasks item)) :
    value = item.value := by
  unfold operandTasks at h
  split at h
  · cases h
  · exact List.mem_singleton.mp h

/-- The tasks for a field look at the value in it. -/
lemma mem_regarded_fieldTasks {field : Field} (h : value ∈ regarded (fieldTasks heap name field)) :
    field.slot.value? = some value := by
  unfold fieldTasks at h
  split at h
  · cases h
  · split at h
    · cases h
    · rename_i content hslot
      rw [hslot, Slot.value?, Option.some.injEq, eq_comm]
      rw [regarded_append] at h
      rcases List.mem_append.mp h with hlooks | hstored
      · split at hlooks
        · cases hlooks
        · exact mem_regarded_looks hlooks
      · unfold storeTasks at hstored
        split at hstored
        · split at hstored
          · cases hstored
          · exact List.mem_singleton.mp hstored
        · cases hstored

/-- Compiling elements regards those elements. -/
lemma mem_regarded_elements {hint : Option TypeDesc} {elements : List Value}
    (h : value ∈ regarded ((elementItems heap name 0 elements).flatMap (namedTasks hint))) :
    value ∈ elements := by
  rw [regarded_flatMap] at h
  obtain ⟨item, hitem, hvalue⟩ := List.mem_flatMap.mp h
  rw [← map_value_elementItems heap name 0 elements, mem_regarded_namedTasks hvalue]
  exact List.mem_map_of_mem hitem

/-- The tasks for an object look only at what it holds. -/
theorem mem_regarded_objectTasks {object : Object}
    (h : value ∈ regarded (objectTasks heap object name)) : value ∈ object.values := by
  cases object with
  | array component elements =>
    simp only [objectTasks] at h
    split at h
    · cases h
    · rw [regarded_append, regarded_stores, List.append_nil] at h
      exact mem_regarded_elements h
  | collection className elements =>
    simp only [objectTasks, regarded_append, regarded_stores, List.append_nil] at h
    exact mem_regarded_elements h
  | properties entries =>
    simp only [objectTasks, regarded_stores] at h
    cases h
  | map className entries =>
    simp only [objectTasks, regarded_append, regarded_stores, List.append_nil, regarded_flatMap]
      at h
    obtain ⟨⟨key, content⟩, hitem, hvalue⟩ := List.mem_flatMap.mp h
    rw [Object.values, ← map_value_entryItems name 0 entries]
    refine List.mem_flatMap.mpr ⟨_, List.mem_map_of_mem hitem, ?_⟩
    rcases List.mem_append.mp hvalue with hkey | hcontent
    · rw [mem_regarded_operandTasks hkey]
      exact List.mem_cons_self
    · rw [mem_regarded_operandTasks hcontent]
      exact List.mem_cons_of_mem _ List.mem_cons_self
  | struct s =>
    simp only [objectTasks, regarded_flatMap] at h
    obtain ⟨field, hfield, hvalue⟩ := List.mem_flatMap.mp h
    exact List.mem_filterMap.mpr ⟨field, hfield, mem_regarded_fieldTasks hvalue⟩

end

section

variable {heap : Heap} {options : Options} {n n' : Names} {e : ScriptError}

/-- Compiling a value fails as the check of the value does, or as compiling its object does. -/
lemma outcome_compileValue_error {nested : ObjectId → String → Compile Scriptlet} {item : Holder}
    {hint : Option TypeDesc}
    (h : outcome (compileValue nested item.value item.name hint) n = (.error e, n')) :
    (∃ cause, e = .graph cause ∧ heap.checkValue item.value = .error cause ∧ n' = n) ∨
      ∃ id, item.value = .ref id ∧ outcome (nested id item.name) n = (.error e, n') := by
  obtain ⟨name, value⟩ := item
  match value with
  | .ref id => exact .inr ⟨id, rfl, h⟩
  | .null => cases h
  | .classOf type => cases h
  | .scalar scalar =>
    cases scalar with
    | char c =>
      simp only [compileValue] at h
      split at h
      · cases h
      · rename_i wide
        cases h
        exact .inl ⟨_, rfl, by rw [Heap.checkValue, if_neg wide], rfl⟩
    | _ => cases h

/-- Looking an object up fails as the check of a reference to it does. -/
lemma outcome_look_error {nested : ObjectId → String → Compile Scriptlet} {id : ObjectId}
    (h : outcome (runTask heap nested (.look id)) n = (.error e, n')) :
    ∃ cause, e = .graph cause ∧ heap.checkValue (.ref id) = .error cause := by
  cases found : heap.get? id with
  | none =>
    simp only [runTask, Heap.get, found, onGraph_error, outcome_bind, outcome_throw] at h
    cases h
    exact ⟨_, rfl, Heap.checkValue_ref_of_none found⟩
  | some object => simp [runTask, Heap.get, found] at h

/-- A run over tasks fails at a value that the tasks look at, or as compiling an object of one of
these values does. The names that are known by then include those from before. -/
lemma outcome_runTasks_error {room : Nat} {tasks : List Task}
    (h : outcome (runTasks heap (compileObject heap options room) tasks) n = (.error e, n')) :
    (∃ cause value, e = .graph cause ∧ value ∈ regarded tasks ∧
    heap.checkValue value = .error cause) ∨
      ∃ id name m, .ref id ∈ regarded tasks ∧ n.entries <:+ m.entries ∧
        outcome (compileObject heap options room id name) m = (.error e, n') := by
  induction tasks generalizing n with
  | nil => cases h
  | cons task rest ih =>
    have parted : regarded (task :: rest) = regarded [task] ++ regarded rest :=
      regarded_append [task] rest
    rw [parted]
    simp only [runTasks, outcome_bind_error, outcome_pure] at h
    rcases h with hfirst | ⟨first, m, hfirst, hrest | ⟨_, _, _, hpure⟩⟩
    · cases task with
      | look id =>
        obtain ⟨cause, rfl, unsound⟩ := outcome_look_error hfirst
        exact .inl ⟨cause, .ref id, rfl, List.mem_append_left _ List.mem_cons_self, unsound⟩
      | compile item hint =>
        have first : item.value ∈ regarded [.compile item hint] ++ regarded rest :=
          List.mem_append_left _ List.mem_cons_self
        rcases outcome_compileValue_error hfirst with ⟨cause, rfl, unsound, _⟩ | ⟨id, href, hobject⟩
        · exact .inl ⟨cause, item.value, rfl, first, unsound⟩
        · exact .inr ⟨id, item.name, n, href ▸ first, List.suffix_rfl, hobject⟩
      | store receiver change => cases hfirst
    -- What has succeeded before the fault has only added names.
    · have grown : n.entries <:+ m.entries :=
        (emits_of_runTasks ((runTasks_singleton heap _ task).symm ▸ hfirst)).entries_suffix
      rcases ih hrest
        with ⟨cause, value, rfl, hmem, unsound⟩ | ⟨id, name, m', hmem, hsuffix, hobject⟩
      · exact .inl ⟨cause, value, rfl, List.mem_append_right _ hmem, unsound⟩
      · exact .inr ⟨id, name, m', List.mem_append_right _ hmem, grown.trans hsuffix, hobject⟩
    · cases hpure

/-- Compiling an object fails because there is none, for want of room, or as its tasks do once it
has been given the variable at hand. -/
lemma outcome_compileObject_cases {room : Nat} {id : ObjectId} {name : String}
    (h : outcome (compileObject heap options room id name) n = (.error e, n')) :
    (heap.get? id = none ∧ e = .graph (.objectNotFound id) ∧ n' = n) ∨
      ∃ object, heap.get? id = some object ∧ n.find? id = none ∧
        ((room = 0 ∧ e = .nestingTooDeep options.maxDepth ∧ n' = n) ∨
          ∃ left, room = left + 1 ∧ outcome (runTasks heap (compileObject heap options left)
            (objectTasks heap object name)) (n.insert id name) = (.error e, n')) := by
  rw [outcome_compileObject] at h
  cases found : heap.get? id with
  | none =>
    simp only [found] at h
    cases h
    exact .inl ⟨rfl, rfl, rfl⟩
  | some object =>
    refine .inr ⟨object, rfl, ?_⟩
    cases new : n.find? id with
    | some previous => simp [found, new] at h
    | none =>
      refine ⟨rfl, ?_⟩
      cases room with
      | zero =>
        simp only [found, new] at h
        cases h
        exact .inl ⟨rfl, rfl, rfl⟩
      | succ left =>
        simp only [found, new, outcome_bind_error, outcome_pure] at h
        rcases h with htasks | ⟨_, _, _, hpure⟩
        · exact .inr ⟨left, rfl, htasks⟩
        · cases hpure

/-- An object without a variable had none before. -/
lemma find?_eq_none_of_suffix {m : Names} (h : n.entries <:+ m.entries) {id : ObjectId}
    (hnone : m.find? id = none) : n.find? id = none := by
  rw [Names.find?_eq_none_iff] at hnone ⊢
  exact fun hmem => hnone ((h.map Prod.fst).subset hmem)

/-- Compiling an object fails at a value in the graph, or for want of room, and the latter only if a
chain of objects without a variable starts at it that is longer than there is room. -/
theorem outcome_compileObject_error {room : Nat} {id : ObjectId} {name : String}
    {roots : List Value} (reached : heap.Reaches roots id)
    (h : outcome (compileObject heap options room id name) n = (.error e, n')) :
    (∃ cause value, e = .graph cause ∧ heap.checkValue value = .error cause ∧
    heap.Meets roots value) ∨
      e = .nestingTooDeep options.maxDepth ∧ ∃ ids, heap.IsChain (id :: ids) ∧ ids.length = room ∧
        ∀ other ∈ id :: ids, n.find? other = none := by
  -- The object is given its variable before its parts are compiled, so the chain below it avoids
  -- it.
  induction room generalizing id name n with
  | zero =>
    rcases outcome_compileObject_cases h with
      ⟨missing, rfl, _⟩ | ⟨object, found, new, ⟨_, rfl, _⟩ | ⟨left, hroom, _⟩⟩
    · exact .inl ⟨_, .ref id, rfl, Heap.checkValue_ref_of_none missing, reached.meets⟩
    · refine .inr ⟨rfl, [], Heap.isChain_singleton found, rfl, ?_⟩
      simpa using new
    · cases hroom
  | succ room ih =>
    rcases outcome_compileObject_cases h with
      ⟨missing, rfl, _⟩ | ⟨object, found, new, ⟨hroom, _⟩ | ⟨left, hroom, htasks⟩⟩
    · exact .inl ⟨_, .ref id, rfl, Heap.checkValue_ref_of_none missing, reached.meets⟩
    · cases hroom
    cases hroom
    rcases outcome_runTasks_error htasks with
      ⟨cause, value, rfl, hvalue, unsound⟩ | ⟨next, part, m, hnext, hsuffix, hobject⟩
    · have held := mem_regarded_objectTasks hvalue
      exact .inl ⟨cause, value, rfl, unsound, .inr ⟨id, object, reached, found, held⟩⟩
    have refers : heap.RefersTo id next := ⟨object, found, mem_regarded_objectTasks hnext⟩
    rcases ih (reached.step refers) hobject with unsound | ⟨rfl, ids, chain, hlength, fresh⟩
    · exact .inl unsound
    have free : ∀ other ∈ next :: ids, other ≠ id ∧ n.find? other = none := by
      intro other hother
      have hnone := find?_eq_none_of_suffix hsuffix (fresh other hother)
      rw [Names.find?_insert] at hnone
      split at hnone
      · cases hnone
      · rename_i hne
        exact ⟨hne, hnone⟩
    refine .inr ⟨rfl, next :: ids, ?_, by simp [hlength], ?_⟩
    · exact chain.cons refers fun hmem => (free id hmem).1 rfl
    · exact List.forall_mem_cons.mpr ⟨new, fun other hother => (free other hother).2⟩

end

/-- Every result of the first computation is one of the second. -/
def ExtendedBy {α : Type} (x y : Compile α) : Prop :=
  ∀ n a n', outcome x n = (.ok a, n') → outcome y n = (.ok a, n')

section

variable {α β : Type} {heap : Heap} {options : Options}

/-- A computation extends itself. -/
lemma ExtendedBy.refl (x : Compile α) : ExtendedBy x x := fun _ _ _ h => h

/-- Two computations, one after the other, are extended step by step. -/
lemma ExtendedBy.bind {x y : Compile α} {f g : α → Compile β} (hx : ExtendedBy x y)
    (hf : ∀ a, ExtendedBy (f a) (g a)) : ExtendedBy (x >>= f) (y >>= g) := by
  intro n b n' h
  obtain ⟨a, m, hfirst, hnext⟩ := outcome_bind_ok.mp h
  exact outcome_bind_ok.mpr ⟨a, m, hx n a m hfirst, hf a m b n' hnext⟩

section

variable {nested wider : ObjectId → String → Compile Scriptlet}
  (hnested : ∀ id name, ExtendedBy (nested id name) (wider id name))

include hnested

/-- Compiling values is extended if compiling objects is. -/
lemma extendedBy_compileValue (value : Value) (name : String) (hint : Option TypeDesc) :
    ExtendedBy (compileValue nested value name hint) (compileValue wider value name hint) := by
  cases value with
  | ref id => exact hnested id name
  | _ => exact .refl _

/-- Tasks are extended if compiling objects is. -/
lemma extendedBy_runTasks (tasks : List Task) :
    ExtendedBy (runTasks heap nested tasks) (runTasks heap wider tasks) := by
  induction tasks with
  | nil => exact .refl _
  | cons task rest ih =>
    have first : ExtendedBy (runTask heap nested task) (runTask heap wider task) := by
      cases task with
      | look id => exact .refl _
      | compile item hint => exact extendedBy_compileValue hnested item.value item.name hint
      | store receiver change => exact .refl _
    exact first.bind fun _ => ih.bind fun _ => .refl _

end

/-- Compiling an object is extended by compiling it with more room, whatever limit is reported. -/
theorem extendedBy_compileObject {room more limit : Nat} (hmore : room ≤ more) (id : ObjectId)
    (name : String) :
    ExtendedBy (compileObject heap options room id name)
      (compileObject heap { options with maxDepth := limit } more id name) := by
  induction room generalizing more id name with
  | zero =>
    intro n s n' h
    obtain ⟨object, found, ⟨previous, known, rfl, rfl⟩ | ⟨_, left, _, hroom, _⟩⟩ :=
      outcome_compileObject_ok h
    · rw [outcome_compileObject, found, known]
    · cases hroom
  | succ room ih =>
    intro n s n' h
    obtain ⟨object, found, ⟨previous, known, rfl, rfl⟩ | ⟨new, left, parts, hroom, hparts, rfl⟩⟩ :=
      outcome_compileObject_ok h
    · rw [outcome_compileObject, found, known]
    · cases hroom
      obtain ⟨spare, rfl⟩ := Nat.exists_eq_add_of_le' hmore
      have wider := extendedBy_runTasks (fun id name => ih (Nat.le_add_left room spare) id name)
        (objectTasks heap object name) _ _ _ hparts
      rw [outcome_compileObject, found, new]
      exact outcome_bind_ok.mpr ⟨parts, n', wider, rfl⟩

end

end CallReplay.Script

namespace CallReplay.Recorder

open Script

section

variable {heap : Heap} {options : Options} {types : List TypeDesc} {start : Nat}
  {values : List Value}

/-- Compiling arguments regards those arguments. -/
lemma mem_regarded_argumentTasks {value : Value}
    (h : value ∈ regarded (argumentTasks heap types start values)) : value ∈ values := by
  rw [argumentTasks, regarded_flatMap] at h
  obtain ⟨⟨argument, index⟩, hargument, hvalue⟩ := List.mem_flatMap.mp h
  split at hvalue
  · cases hvalue
  · rw [mem_regarded_namedTasks hvalue]
    exact List.fst_mem_of_mem_zipIdx hargument

/-- Compiling valid arguments fails only for want of room, and only if a chain of objects that
starts at an argument is longer than there is room. -/
theorem compileArguments_error {n n' : Names} {e : ScriptError} (closed : heap.Closed)
    (sound : ∀ value ∈ values, heap.Sound value)
    (h : outcome (compileArguments heap options types start values) n = (.error e, n')) :
    e = .nestingTooDeep options.maxDepth ∧ heap.Nests values (options.maxDepth + 1) := by
  have reached {value : Value} (hvalue : value ∈ regarded (argumentTasks heap types start values)) :
      heap.Meets values value := .inl (mem_regarded_argumentTasks hvalue)
  have harmless {value : Value} {cause : GraphError} (meets : heap.Meets values value) :
      heap.checkValue value ≠ .error cause := by
    intro unsound
    cases (closed.sound_of_meets sound meets).symm.trans unsound
  rcases outcome_runTasks_error (outcome_compileArguments_error h) with
    ⟨_, _, _, hvalue, unsound⟩ | ⟨id, name, m, hmem, _, hobject⟩
  · exact absurd unsound (harmless (reached hvalue))
  have hroot : .ref id ∈ values := mem_regarded_argumentTasks hmem
  rcases outcome_compileObject_error (.root hroot) hobject with
    ⟨_, _, _, unsound, meets⟩ | ⟨rfl, ids, chain, hlength, _⟩
  · exact absurd unsound (harmless meets)
  · exact ⟨rfl, id, ids, hroot, chain, by rw [List.length_cons, hlength]⟩

/-- Compiling arguments is extended by compiling them with a higher limit. -/
theorem extendedBy_compileArguments {limit : Nat} (hlimit : options.maxDepth ≤ limit) (start : Nat)
    (values : List Value) :
    ExtendedBy (compileArguments heap options types start values)
      (compileArguments heap { options with maxDepth := limit } types start values) := by
  induction values generalizing start with
  | nil => exact .refl _
  | cons argument rest ih =>
    unfold compileArguments
    split
    · exact (ih (start + 1)).bind fun _ => .refl _
    · refine (ExtendedBy.refl _).bind fun base => ?_
      have first : ExtendedBy
          (compile heap options argument (argumentName base start) types[start]?)
          (compile heap { options with maxDepth := limit } argument (argumentName base start)
            types[start]?) :=
        extendedBy_compileValue (fun id name => extendedBy_compileObject hlimit id name) _ _ _
      exact first.bind fun _ => (ih (start + 1)).bind fun _ => .refl _

end

end CallReplay.Recorder
