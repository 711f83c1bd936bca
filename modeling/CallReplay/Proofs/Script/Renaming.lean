import CallReplay.Proofs.Renaming
import CallReplay.Proofs.Script.Depth

/-!
# Compilation does not depend on ids

The compiler uses ids for two things only: it looks objects up, and it compares an id with those of
the objects that have a variable. So on two graphs that are the same up to ids it works off the same
tasks up to ids, and the names that it has given stay the same up to ids after every step
(`Mirrors`). It therefore writes the same statements, or fails for the same reason.
-/

namespace CallReplay.Script

open Heap (Renames Reached)

/-- A named value with its id renamed. -/
def Holder.rename (f : ObjectId → ObjectId) (item : Holder) : Holder :=
  ⟨item.name, item.value.rename f⟩

/-- A store with the ids of its values renamed. -/
def Store.rename (f : ObjectId → ObjectId) : Store → Store
  | element index item => .element index (item.rename f)
  | add item => .add (item.rename f)
  | put key value => .put (key.rename f) (value.rename f)
  | property key value => .property key value
  | field name item => .field name (item.rename f)
  | unread name => .unread name

/-- A task with its ids renamed. -/
def Task.rename (f : ObjectId → ObjectId) : Task → Task
  | look id => .look (f id)
  | compile item hint => .compile (item.rename f) hint
  | store receiver change => .store receiver (change.rename f)

/-- Variables of objects whose ids are renamed. -/
def Names.rename (f : ObjectId → ObjectId) (n : Names) : Names :=
  ⟨n.entries.map fun e => (f e.1, e.2)⟩

section

variable {f : ObjectId → ObjectId} {h h' : Heap} {roots roots' : List Value}

/-- Renaming ids does not change how a value stands in a call. -/
lemma Holder.operand_rename (item : Holder) : (item.rename f).operand = item.operand := by
  obtain ⟨name, value⟩ := item
  cases value with
  | scalar s => cases s <;> rfl
  | _ => rfl

/-- Renaming ids does not change whether a value stands in the call itself. -/
lemma Holder.isInline_rename (item : Holder) : (item.rename f).isInline = item.isInline := by
  obtain ⟨name, value⟩ := item
  cases value with
  | scalar s => cases s <;> rfl
  | _ => rfl

/-- A store writes the same statement whatever the ids are. -/
lemma Store.statement_rename (receiver : String) (change : Store) :
    (change.rename f).statement receiver = change.statement receiver := by
  cases change with
  | put key value => simp only [rename, statement, Holder.operand_rename]
  | field name item => simp only [rename, statement, Holder.rename, Value.isNull_rename]
  | _ => rfl

/-- The objects of renamed values are looked up under their new ids. -/
lemma looks_rename (value : Value) :
    looks (value.rename f) = (looks value).map (Task.rename f) := by
  cases value <;> rfl

/-- Compiling a renamed value is the renamed task. -/
lemma namedTasks_rename (hint : Option TypeDesc) (item : Holder) :
    namedTasks hint (item.rename f) = (namedTasks hint item).map (Task.rename f) := by
  simp only [namedTasks, Holder.rename, looks_rename, List.map_append]
  rfl

/-- Preparing a renamed operand is the renamed task. -/
lemma operandTasks_rename (item : Holder) :
    operandTasks (item.rename f) = (operandTasks item).map (Task.rename f) := by
  rw [operandTasks, operandTasks, Holder.isInline_rename]
  split <;> rfl

/-- The items of a renamed map are its items renamed. -/
lemma entryItems_rename (map : String) (start : Nat) (entries : List (Value × Value)) :
    entryItems map start (entries.map fun e => (e.1.rename f, e.2.rename f)) =
      (entryItems map start entries).map fun item => (item.1.rename f, item.2.rename f) := by
  simp only [entryItems, List.zipIdx_map, List.map_map]
  rfl

/-- Storing a renamed value is the renamed task. -/
lemma storeTasks_rename (object : String) (field : Field) (value : Value) :
    storeTasks object (field.rename f) (value.rename f) =
      (storeTasks object field value).map (Task.rename f) := by
  simp only [storeTasks, Value.isNull_rename]
  split <;> rfl

/-- Renaming ids does not change whether elements stand on one line. -/
lemma inlineElements?_rename (component : TypeDesc) (elements : List Value) :
    inlineElements? component (elements.map (Value.rename f)) =
    inlineElements? component elements := by
  have element : inlineElements?.inlineElement? ∘ Value.rename f =
      inlineElements?.inlineElement? := by
    funext value
    cases value <;> rfl
  rw [inlineElements?, inlineElements?, List.mapM_map, element]

/-- Renaming ids does not change how an object is created. -/
lemma construction_rename (options : Options) (object : Object) (name : String) :
    construction options (object.rename f) name = construction options object name := by
  cases object with
  | array component elements =>
    simp only [Object.rename, construction, inlineElements?_rename, List.length_map]
  | _ => rfl

/-- Renaming ids does not change how an object is introduced. -/
lemma banners_rename (object : Object) (name : String) :
    banners (object.rename f) name = banners object name := by
  cases object <;> rfl

/-- Elements that correspond get the same variables. -/
lemma elementItems_rename (renames : Renames f h roots h' roots') (container : String) (start : Nat)
    {elements : List Value} (reached : ∀ value ∈ elements, h.Reached roots value) :
    elementItems h' container start (elements.map (Value.rename f)) =
      (elementItems h container start elements).map (Holder.rename f) := by
  rw [elementItems, elementItems, List.zipIdx_map, List.map_map, List.map_map]
  apply List.map_congr_left
  rintro ⟨value, index⟩ hmem
  have same := renames.ofValue (reached value (List.fst_mem_of_mem_zipIdx hmem))
  simp only [Function.comp_apply, Prod.map_apply, id_eq, baseName, same, Holder.rename]

/-- Values that correspond both refer to containers or neither does. -/
lemma holdsContainer_rename (renames : Renames f h roots h' roots') {value : Value}
    (reached : h.Reached roots value) :
    holdsContainer h' (value.rename f) = holdsContainer h value := by
  cases value with
  | ref id =>
    obtain ⟨object, found, found', _⟩ := renames.get (reached id rfl)
    simp [Value.rename, holdsContainer, found, found']
  | _ => rfl

/-- The tasks of a renamed field are its tasks renamed. -/
lemma fieldTasks_rename (renames : Renames f h roots h' roots') (object : String) {field : Field}
    (reached : ∀ value, field.slot.value? = some value → h.Reached roots value) :
    fieldTasks h' object (field.rename f) = (fieldTasks h object field).map (Task.rename f) := by
  have modifiers : (field.rename f).modifiers = field.modifiers := rfl
  rw [fieldTasks, fieldTasks, modifiers]
  split
  · rfl
  · cases hslot : field.slot with
    | inaccessible =>
      have hslot' : (field.rename f).slot = .inaccessible := by rw [Field.rename, hslot]; rfl
      rw [hslot']
      rfl
    | value value =>
      have hslot' : (field.rename f).slot = .value (value.rename f) := by
        rw [Field.rename, hslot]; rfl
      have container := holdsContainer_rename renames (reached value (by rw [hslot]; rfl))
      have rebuilt : isRebuilt h' (field.rename f) (value.rename f) = isRebuilt h field value := by
        rw [isRebuilt, isRebuilt, container]
        rfl
      have declared : (field.rename f).declared = field.declared := rfl
      have serializable : (field.rename f).serializable = field.serializable := rfl
      simp only [hslot', rebuilt, declared, serializable, List.map_append, looks_rename,
        storeTasks_rename]
      congr 1 <;> split <;> rfl

/-- What is done for an object is the same up to ids, if what the object holds is reached. -/
lemma objectTasks_rename (renames : Renames f h roots h' roots') (name : String) {object : Object}
    (reached : ∀ value ∈ object.values, h.Reached roots value) :
    objectTasks h' (object.rename f) name = (objectTasks h object name).map (Task.rename f) := by
  cases object with
  | array component elements =>
    have items : elementItems h' name 0 (elements.map (Value.rename f)) =
        (elementItems h name 0 elements).map (Holder.rename f) :=
        elementItems_rename renames name 0 reached
    simp only [Object.rename, objectTasks, inlineElements?_rename]
    split
    · rfl
    · simp only [items, List.flatMap_map, namedTasks_rename, List.map_append, List.map_flatMap,
        List.zipIdx_map, List.map_map]
      rfl
  | collection className elements =>
    have items : elementItems h' name 0 (elements.map (Value.rename f)) =
        (elementItems h name 0 elements).map (Holder.rename f) :=
        elementItems_rename renames name 0 reached
    simp only [Object.rename, objectTasks, items, List.flatMap_map, namedTasks_rename,
      List.map_append, List.map_flatMap, List.map_map]
    rfl
  | properties entries =>
    simp only [Object.rename, objectTasks, List.map_map]
    rfl
  | map className entries =>
    simp only [Object.rename, objectTasks, entryItems_rename, List.flatMap_map, operandTasks_rename,
      List.map_append, List.map_flatMap, List.map_map]
    rfl
  | struct s =>
    simp only [Object.rename, Struct.rename, objectTasks, List.flatMap_map, List.map_flatMap]
    apply List.flatMap_congr
    intro field hfield
    apply fieldTasks_rename renames
    intro value hvalue
    exact reached value (List.mem_filterMap.mpr ⟨field, hfield, hvalue⟩)

end

section

variable {α β : Type} (f : ObjectId → ObjectId) (h : Heap) (roots : List Value)

/-- The objects that have a variable are reached. -/
def Names.Reached (n : Names) : Prop := ∀ entry ∈ n.entries, h.Reaches roots entry.1

/-- The second computation does what the first does, up to ids: from names that are the same up to
ids it has the same result and leaves such names, and all objects that have a variable stay among
those that are reached. -/
def Mirrors (x y : Compile α) : Prop :=
  ∀ n : Names, n.Reached h roots →
    outcome y (n.rename f) = ((outcome x n).1, (outcome x n).2.rename f) ∧
    (outcome x n).2.Reached h roots

variable {f h roots} {h' : Heap} {roots' : List Value}

/-- A value without ids is the same on both graphs. -/
lemma Mirrors.refl_pure (a : α) :
    Mirrors f h roots (pure a) (pure a) := fun _ reached => ⟨rfl, reached⟩

/-- An error is the same on both graphs. -/
lemma Mirrors.refl_throw (e : ScriptError) : Mirrors f h roots (throw e : Compile α) (throw e) :=
  fun _ reached => ⟨rfl, reached⟩

/-- A computation on a graph leaves the names as they are. -/
lemma Mirrors.refl_onGraph (x : Except GraphError α) :
    Mirrors f h roots (onGraph x) (onGraph x) := by
  cases x with
  | ok a => exact .refl_pure a
  | error e => exact .refl_throw _

/-- Computations of two steps correspond step by step. -/
lemma Mirrors.bind {x y : Compile α} {k l : α → Compile β} (first : Mirrors f h roots x y)
    (next : ∀ a, Mirrors f h roots (k a) (l a)) : Mirrors f h roots (x >>= k) (y >>= l) := by
  intro n reached
  obtain ⟨same, reached⟩ := first n reached
  rw [outcome_bind, outcome_bind, same]
  rcases hx : outcome x n with ⟨e | a, m⟩ <;> rw [hx] at reached
  · exact ⟨rfl, reached⟩
  · exact next a m reached

/-- An object has a variable if the corresponding one has, and it is the same variable. -/
lemma find?_rename (renames : Renames f h roots h' roots') {n : Names} (reached : n.Reached h roots)
    {id : ObjectId} (hid : h.Reaches roots id) : (n.rename f).find? (f id) = n.find? id := by
  obtain ⟨entries⟩ := n
  simp only [Names.find?, Names.rename]
  induction entries with
  | nil => rfl
  | cons entry rest ih =>
    obtain ⟨other, name⟩ := entry
    obtain ⟨hother, hrest⟩ := List.forall_mem_cons.mp reached
    -- The renaming is injective where it is looked at, so it neither joins nor parts the two ids.
    have same : (f id == f other) = (id == other) := by
      rw [Bool.eq_iff_iff, beq_iff_eq, beq_iff_eq]
      exact renames.bijective.injOn.eq_iff hid hother
    rw [List.map_cons, List.lookup_cons, List.lookup_cons, same, ih hrest]

/-- A value that is no object is compiled to the same statement; an object is compiled as
the corresponding one. -/
lemma mirrors_compileValue {nested nested' : ObjectId → String → Compile Scriptlet} {value : Value}
    (hnested : ∀ id name, value = .ref id →
    Mirrors f h roots (nested id name) (nested' (f id) name))
    (name : String) (hint : Option TypeDesc) :
    Mirrors f h roots (compileValue nested value name hint)
      (compileValue nested' (value.rename f) name hint) := by
  cases value with
  | ref id => exact hnested id name rfl
  | null => exact .refl_pure _
  | classOf type => exact .refl_pure _
  | scalar s =>
    cases s with
    | char c =>
      simp only [Value.rename, compileValue]
      split
      · exact .refl_pure _
      · exact .refl_throw _
    | _ => exact .refl_pure _

/-- Tasks that look at reached values only are done alike, if objects are compiled alike. -/
lemma mirrors_runTasks (renames : Renames f h roots h' roots')
    {nested nested' : ObjectId → String → Compile Scriptlet}
    (hnested : ∀ id name, h.Reaches roots id →
    Mirrors f h roots (nested id name) (nested' (f id) name))
    {tasks : List Task} (reached : ∀ value ∈ regarded tasks, h.Reached roots value) :
    Mirrors f h roots (runTasks h nested tasks)
      (runTasks h' nested' (tasks.map (Task.rename f))) := by
  induction tasks with
  | nil => exact .refl_pure _
  | cons task rest ih =>
    have parted : regarded (task :: rest) = regarded [task] ++ regarded rest :=
      regarded_append [task] rest
    rw [parted, List.forall_mem_append] at reached
    have first :
        Mirrors f h roots (runTask h nested task) (runTask h' nested' (task.rename f)) := by
      cases task with
      | look id =>
        obtain ⟨object, found, found', _⟩ :=
          renames.get (reached.1 (.ref id) List.mem_cons_self id rfl)
        simp only [Task.rename, runTask, Heap.get, found, found', onGraph_ok, pure_bind]
        exact .refl_pure _
      | compile item hint =>
        have hitem := reached.1 item.value List.mem_cons_self
        exact mirrors_compileValue (fun id name href => hnested id name (hitem id href)) item.name
          hint
      | store receiver change =>
        simp only [Task.rename, runTask, Store.statement_rename]
        exact .refl_pure _
    exact first.bind fun _ => (ih reached.2).bind fun _ => .refl_pure _

/-- A reached object is compiled as the object that corresponds to it. -/
theorem mirrors_compileObject (renames : Renames f h roots h' roots') (options : Options)
    (room : Nat) {id : ObjectId} (hid : h.Reaches roots id) (name : String) :
    Mirrors f h roots (compileObject h options room id name)
      (compileObject h' options room (f id) name) := by
  -- The room gets less from an object to those that its tasks compile.
  induction room using Nat.strong_induction_on generalizing id name with
  | _ room ih =>
    intro n reached
    obtain ⟨object, found, found', held⟩ := renames.get hid
    rw [outcome_compileObject, outcome_compileObject, found, found']
    simp only [find?_rename renames reached hid, Object.runtimeType_rename]
    cases n.find? id with
    | some previous => exact ⟨rfl, reached⟩
    | none =>
      cases room with
      | zero => exact ⟨rfl, reached⟩
      | succ left =>
        have parts :
          Mirrors f h roots (runTasks h (compileObject h options left) (objectTasks h object name))
            (runTasks h' (compileObject h' options left)
              ((objectTasks h object name).map (Task.rename f))) := by
          apply mirrors_runTasks renames
            (fun other part hother => ih left (Nat.lt_succ_self left) hother part)
          exact fun value hvalue => held value (mem_regarded_objectTasks hvalue)
        simp only [objectTasks_rename renames name held, construction_rename, banners_rename]
        exact parts.bind (fun _ => .refl_pure _) (n.insert id name)
          (List.forall_mem_cons.mpr ⟨hid, reached⟩)

end

end CallReplay.Script
