import CallReplay.Recorder
import Mathlib

/-!
# Plans of compilation

What the compiler does with an object is known before it looks at any other object: it creates
the object, and then it works off a list of tasks, which are to look an object up, to compile
a value into a variable, or to store variables in the object. `objectTasks` is that list, and
`compileParts_eq` says that compiling an object is creating it and working off its tasks.
Facts about the compiler are proved on tasks, which are one kind of thing, and not on the five
shapes of objects.
-/

namespace CallReplay.Script

/-- A variable and the value that it is to hold. -/
structure Holder where
  name : String
  value : Value
  deriving DecidableEq

/-- How a map entry mentions what is held: null and text stand for themselves. -/
def Holder.operand (h : Holder) : Operand :=
  match h.value with
  | .null => .null
  | .scalar (.text s) => .text s
  | _ => .held h.name

/-- Whether a map entry mentions what is held without a variable. -/
def Holder.isInline (h : Holder) : Bool :=
  match h.value with
  | .null | .scalar (.text _) => true
  | _ => false

/-- One change of an object that is being filled. -/
inductive Store where
  | element (index : Nat) (item : Holder)
  | add (item : Holder)
  | put (key value : Holder)
  | property (key value : String)
  | field (name : String) (item : Holder)
  | unread (name : String)
  deriving DecidableEq

/-- The statement that makes the change to the object in a variable. -/
def Store.statement (receiver : String) : Store → Statement
  | element index item => .storeElement receiver index item.name
  | add item => .add receiver item.name
  | put key value => .put receiver key.operand value.operand
  | property key value => .setProperty receiver key value
  | field name item =>
      .storeField receiver name (if item.value.isNull then none else some item.name)
  | unread name => .unreadField receiver name

/-- One thing that the compiler does for an object that it has created. -/
inductive Task where
  | look (id : ObjectId)
  | compile (item : Holder) (hint : Option TypeDesc)
  | store (receiver : String) (change : Store)
  deriving DecidableEq

/-- The look-ups that a value asks for when its type is wanted. -/
def looks : Value → List Task
  | .ref id => [.look id]
  | _ => []

/-- The base of the variable for a value, whether or not its object exists. -/
def baseName (heap : Heap) (value : Value) : String :=
  match VariableName.ofValue heap value with
  | .ok name => name
  | .error _ => VariableName.ofNull

/-- The variables for the elements of a container from a position on. -/
def elementItems (heap : Heap) (container : String) (start : Nat) (elements : List Value) :
    List Holder :=
  (elements.zipIdx start).map fun (value, index) =>
    ⟨elementName container index (baseName heap value), value⟩

/-- The variables for the keys and the values of map entries from a position on. -/
def entryItems (map : String) (start : Nat) (entries : List (Value × Value)) :
    List (Holder × Holder) :=
  (entries.zipIdx start).map fun (entry, index) =>
    (⟨keyName map index, entry.1⟩, ⟨valueName map index, entry.2⟩)

/-- What is done for a value whose variable is named after its type. -/
def namedTasks (hint : Option TypeDesc) (item : Holder) : List Task :=
  looks item.value ++ [.compile item hint]

/-- What is done for an operand of a map entry. -/
def operandTasks (item : Holder) : List Task :=
  if item.isInline then [] else [.compile item none]

/-- Whether a value refers to a container of the heap. -/
def holdsContainer (heap : Heap) (value : Value) : Bool :=
  match value with
  | .ref id => (heap.get? id).any Object.isContainer
  | _ => false

/-- Whether a field that holds a value is set when its object is rebuilt. -/
def isRebuilt (heap : Heap) (field : Field) (value : Value) : Bool :=
  field.modifiers.isPersistent &&
    (field.declared.isPrimitive || field.serializable || holdsContainer heap value)

/-- What is done to store the value of a field. -/
def storeTasks (object : String) (field : Field) (value : Value) : List Task :=
  let item : Holder := ⟨fieldName object field.name, value⟩
  if value.isNull then [.store object (.field field.name item)]
  else [.compile item none, .store object (.field field.name item)]

/-- What is done for a field. -/
def fieldTasks (heap : Heap) (object : String) (field : Field) : List Task :=
  if !field.modifiers.isPersistent then []
  else
    match field.slot with
    | .inaccessible => [.store object (.unread field.name)]
    | .value value =>
      (if field.declared.isPrimitive || field.serializable then [] else looks value) ++
        if isRebuilt heap field value then storeTasks object field value else []

/-- The statement that creates an object. -/
def construction (options : Options) (object : Object) (name : String) : Statement :=
  match object with
  | .array component elements =>
    match inlineElements? component elements with
    | some items => .inlineArray component name items
    | none => .sizedArray component name elements.length
  | .collection className _ => .construct className name
  | .properties _ => .construct propertiesClass name
  | .map className _ => .construct className name
  | .struct s => creation options s name

/-- The banners of an object. -/
def banners (object : Object) (name : String) : List Banner :=
  match object with
  | .struct s => [⟨s.className, name⟩]
  | _ => []

/-- What is done for an object after it has been created. -/
def objectTasks (heap : Heap) (object : Object) (name : String) : List Task :=
  match object with
  | .array component elements =>
    match inlineElements? component elements with
    | some _ => []
    | none =>
      let items := elementItems heap name 0 elements
      items.flatMap (namedTasks (some component)) ++
        (items.zipIdx.map fun (item, index) => .element index item).map (.store name)
  | .collection _ elements =>
    let items := elementItems heap name 0 elements
    items.flatMap (namedTasks none) ++ (items.map .add).map (.store name)
  | .properties entries =>
    (entries.entries.map fun (key, value) => .property key value).map (.store name)
  | .map _ entries =>
    let items := entryItems name 0 entries
    items.flatMap (fun (key, value) => operandTasks key ++ operandTasks value) ++
      (items.map fun (key, value) => .put key value).map (.store name)
  | .struct s => s.fields.flatMap (fieldTasks heap name)

section

variable (heap : Heap) {options : Options} (nested : ObjectId → String → Compile Scriptlet)

/-- Does one task, given how to compile an object. -/
def runTask (heap : Heap) (nested : ObjectId → String → Compile Scriptlet) :
    Task → Compile Scriptlet
  | .look id => do
    let _ ← onGraph (heap.get id)
    pure (.plain [])
  | .compile item hint => compileValue nested item.value item.name hint
  | .store receiver change => pure (.single (change.statement receiver))

/-- Does tasks one after another. -/
def runTasks (heap : Heap) (nested : ObjectId → String → Compile Scriptlet) :
    List Task → Compile Scriptlet
  | [] => pure (.plain [])
  | task :: rest => do
    let first ← runTask heap nested task
    let others ← runTasks heap nested rest
    pure (first ++ others)

namespace Scriptlet

/-- Parts one behind the other have their statements one behind the other. -/
@[simp] lemma statements_append (a b : Scriptlet) :
    (a ++ b).statements = a.statements ++ b.statements := rfl

/-- It does not matter which parts are put together first. -/
lemma append_assoc (a b c : Scriptlet) : a ++ b ++ c = a ++ (b ++ c) := by
  change Scriptlet.mk _ _ = Scriptlet.mk _ _
  congr 1
  · exact List.append_assoc a.banners b.banners c.banners
  · exact List.append_assoc a.statements b.statements c.statements

/-- An empty part in front changes nothing. -/
@[simp] lemma plain_nil_append (a : Scriptlet) : plain [] ++ a = a := rfl

/-- An empty part at the end changes nothing. -/
@[simp] lemma append_plain_nil (a : Scriptlet) : a ++ plain [] = a := by
  change Scriptlet.mk _ _ = Scriptlet.mk _ _
  congr 1
  · exact List.append_nil a.banners
  · exact List.append_nil a.statements

end Scriptlet

/-- Doing two lists of tasks is doing one after the other. -/
lemma runTasks_append (a b : List Task) :
    runTasks heap nested (a ++ b) = (do
      let first ← runTasks heap nested a
      let others ← runTasks heap nested b
      pure (first ++ others)) := by
  induction a with
  | nil => simp only [List.nil_append, runTasks, pure_bind, Scriptlet.plain_nil_append, bind_pure]
  | cons task rest ih =>
    simp only [List.cons_append, runTasks, ih, bind_assoc, pure_bind, Scriptlet.append_assoc]

/-- A single task is worked off by itself. -/
lemma runTasks_singleton (task : Task) :
    runTasks heap nested [task] = runTask heap nested task := by
  simp [runTasks]

/-- Storing asks for nothing and writes its statements. -/
lemma runTasks_stores (receiver : String) (stores : List Store) :
    runTasks heap nested (stores.map (.store receiver)) =
      pure (.plain (stores.map (Store.statement receiver))) := by
  induction stores with
  | nil => rfl
  | cons first rest ih =>
    simp only [List.map_cons, runTasks, runTask, ih, pure_bind]
    rfl

/-- What is found in the graph is a value. -/
@[simp] lemma onGraph_ok {α : Type} (a : α) : onGraph (.ok a) = pure a := rfl

/-- A fault of the graph is a fault of the script. -/
@[simp] lemma onGraph_error {α : Type} (e : GraphError) :
    (onGraph (.error e) : Compile α) = throw (.graph e) := rfl

/-- The variable for an object is named after the object's type. -/
lemma ofValue_ref (heap : Heap) (id : ObjectId) :
    VariableName.ofValue heap (.ref id) =
      (heap.get id).map fun object => VariableName.ofType object.runtimeType := by
  simp only [VariableName.ofValue, Heap.runtimeType]
  cases heap.get id <;> rfl

/-- Looking up writes nothing. -/
lemma runTasks_looks_append (value : Value) (rest : List Task) :
    runTasks heap nested (looks value ++ rest) = (do
      let _ ← runTasks heap nested (looks value)
      runTasks heap nested rest) := by
  rw [runTasks_append]
  cases value with
  | ref id =>
    simp only [looks, runTasks_singleton, runTask, bind_assoc, pure_bind,
      Scriptlet.plain_nil_append, bind_pure]
  | _ => simp only [looks, runTasks, pure_bind, Scriptlet.plain_nil_append, bind_pure]

/-- A value whose variable is named after its type is looked up and then compiled. -/
lemma runTasks_named (value : Value) (hint : Option TypeDesc) (name : String → String) :
    runTasks heap nested (namedTasks hint ⟨name (baseName heap value), value⟩) = (do
      let base ← onGraph (VariableName.ofValue heap value)
      compileValue nested value (name base) hint) := by
  rw [namedTasks, runTasks_looks_append, runTasks_singleton]
  cases value with
  | ref id =>
    simp only [looks, runTasks_singleton, runTask, baseName, ofValue_ref]
    cases heap.get id <;> rfl
  | _ => rfl

/-- Compiling elements is doing their tasks; the variables are known beforehand. -/
lemma compileElements_eq (container : String) (hint : Option TypeDesc) (start : Nat)
    (elements : List Value) :
    compileElements heap nested container hint start elements = (do
      let parts ← runTasks heap nested
        ((elementItems heap container start elements).flatMap (namedTasks hint))
      pure (parts, (elementItems heap container start elements).map Holder.name)) := by
  induction elements generalizing start with
  | nil => rfl
  | cons element rest ih =>
    have first := runTasks_named heap nested element hint
      (elementName container start)
    simp only [compileElements, elementItems, List.zipIdx_cons, List.map_cons, List.flatMap_cons,
      runTasks_append, first, ih, bind_assoc, pure_bind]
    cases h : VariableName.ofValue heap element with
    | ok base => simp [baseName, h]
    | error e => rfl

/-- An array that is not written inline is created with its length and then filled. -/
lemma compileArray_eq (component : TypeDesc) (elements : List Value) (name : String) :
    compileArray heap nested component elements name = (do
      let parts ← runTasks heap nested (objectTasks heap (.array component elements) name)
      pure (.single (construction options (.array component elements) name) ++ parts)) := by
  cases h : inlineElements? component elements with
  | some items => simp [compileArray, objectTasks, construction, h, runTasks]
  | none =>
    simp only [compileArray, objectTasks, construction, h, runTasks_append, compileElements_eq,
      runTasks_stores, bind_assoc, pure_bind, Scriptlet.append_assoc]
    simp [List.zipIdx_map, Store.statement, Function.comp_def]

/-- A collection is created, and then its tasks are worked off. -/
lemma compileCollection_eq (className : String) (elements : List Value) (name : String) :
    compileCollection heap nested className elements name = (do
      let parts ← runTasks heap nested (objectTasks heap (.collection className elements) name)
      pure (.single (construction options (.collection className elements) name) ++ parts)) := by
  simp only [compileCollection, objectTasks, construction, runTasks_append, compileElements_eq,
    runTasks_stores, bind_assoc, pure_bind, Scriptlet.append_assoc]
  simp [Store.statement, Function.comp_def]

/-- An operand is compiled unless it stands for itself. -/
lemma compileOperand_eq (item : Holder) :
    compileOperand nested item.value item.name = (do
      let part ← runTasks heap nested (operandTasks item)
      pure (part, item.operand)) := by
  obtain ⟨name, value⟩ := item
  match value with
  | .null => rfl
  | .scalar (.text s) => rfl
  | .classOf type => rfl
  | .ref id =>
    simp [compileOperand, operandTasks, Holder.isInline, Holder.operand, runTasks_singleton,
      runTask]
  | .scalar (.bool _) | .scalar (.char _) | .scalar (.byte _) | .scalar (.short _)
  | .scalar (.int _) | .scalar (.long _) | .scalar (.float _) | .scalar (.double _) =>
    simp [compileOperand, operandTasks, Holder.isInline, Holder.operand, runTasks_singleton,
      runTask]

/-- Compiling entries is compiling their operands; how entries mention them is known beforehand. -/
lemma compileEntries_eq (map : String) (start : Nat) (entries : List (Value × Value)) :
    compileEntries nested map start entries = (do
      let parts ← runTasks heap nested ((entryItems map start entries).flatMap
        fun (key, value) => operandTasks key ++ operandTasks value)
      pure (parts, (entryItems map start entries).map
        fun (key, value) => (key.operand, value.operand))) := by
  induction entries generalizing start with
  | nil => rfl
  | cons entry rest ih =>
    have key := compileOperand_eq heap nested ⟨keyName map start, entry.1⟩
    have value := compileOperand_eq heap nested ⟨valueName map start, entry.2⟩
    simp only at key value
    simp only [compileEntries, entryItems, List.zipIdx_cons, List.map_cons, List.flatMap_cons,
      runTasks_append, key, value, ih, bind_assoc, pure_bind, Scriptlet.append_assoc]

/-- A map is created, and then its tasks are worked off. -/
lemma compileMap_eq (className : String) (entries : List (Value × Value)) (name : String) :
    compileMap nested className entries name = (do
      let parts ← runTasks heap nested (objectTasks heap (.map className entries) name)
      pure (.single (construction options (.map className entries) name) ++ parts)) := by
  simp only [compileMap, objectTasks, construction, runTasks_append,
    compileEntries_eq heap nested, runTasks_stores, bind_assoc, pure_bind, Scriptlet.append_assoc]
  simp [Store.statement, Function.comp_def]

/-- A property bag is created, and then its tasks are worked off. -/
lemma compileProperties_eq (entries : TextMap) (name : String) :
    (pure (compileProperties entries name) : Compile Scriptlet) = (do
      let parts ← runTasks heap nested (objectTasks heap (.properties entries) name)
      pure (.single (construction options (.properties entries) name) ++ parts)) := by
  simp only [objectTasks, runTasks_stores, pure_bind]
  rw [List.map_map]
  rfl

/-- Whether a value is a container is known once its object has been looked up. -/
lemma isContainer_bind {α : Type} (value : Value) (next : Bool → Compile α) :
    (isContainer heap value >>= next) = (do
      let _ ← runTasks heap nested (looks value)
      next (holdsContainer heap value)) := by
  cases value with
  | ref id =>
    simp only [isContainer, looks, runTasks_singleton, runTask, holdsContainer, Heap.get]
    cases heap.get? id <;> rfl
  | _ => rfl

/-- Setting a field, or passing it over, once it is known whether it is rebuilt. -/
lemma compileField_rebuilt (object : String) (field : Field) (value : Value) (rebuilt : Bool) :
    (if !rebuilt then pure (.plain [])
    else if value.isNull then pure (.single (.storeField object field.name none))
    else do
      let part ← compileValue nested value (fieldName object field.name) none
      pure (part ++ .single (.storeField object field.name (some (fieldName object field.name)))) :
        Compile Scriptlet) =
      runTasks heap nested (if rebuilt then storeTasks object field value else []) := by
  cases rebuilt with
  | false => rfl
  | true =>
    cases hnull : value.isNull with
    | true => simp [storeTasks, hnull, runTasks_singleton, runTask, Store.statement]
    | false => simp [storeTasks, hnull, runTasks, runTask, Store.statement]

/-- A field is compiled by working off its tasks. -/
lemma compileField_eq (object : String) (field : Field) :
    compileField heap nested object field =
    runTasks heap nested (fieldTasks heap object field) := by
  cases hpersistent : field.modifiers.isPersistent with
  | false => simp [compileField, fieldTasks, hpersistent, runTasks]
  | true =>
    cases hslot : field.slot with
    | inaccessible =>
      simp [compileField, fieldTasks, hpersistent, hslot, runTasks_singleton, runTask,
        Store.statement]
    | value value =>
      have rebuilt := compileField_rebuilt heap nested object field value
      simp only [compileField, fieldTasks, hpersistent, hslot, isRebuilt, Bool.not_true,
        Bool.true_and, Bool.false_eq_true, if_false, rebuilt]
      cases field.declared.isPrimitive || field.serializable with
      | true => simp only [if_true, pure_bind, Bool.true_or, List.nil_append]
      | false =>
        simp only [Bool.false_eq_true, if_false, Bool.false_or, runTasks_looks_append,
          isContainer_bind heap nested]

/-- Fields are compiled by working off the tasks of each. -/
lemma compileFields_eq (object : String) (fields : List Field) :
    compileFields heap nested object fields =
      runTasks heap nested (fields.flatMap (fieldTasks heap object)) := by
  induction fields with
  | nil => rfl
  | cons field rest ih =>
    simp only [compileFields, List.flatMap_cons, runTasks_append, compileField_eq, ih]

/-- Compiling what an object is made of is creating it and doing its tasks. -/
theorem compileParts_eq (object : Object) (name : String) :
    compileParts heap options nested object name = (do
      let parts ← runTasks heap nested (objectTasks heap object name)
      pure (⟨banners object name, [construction options object name]⟩ ++ parts)) := by
  cases object with
  | array component elements => exact compileArray_eq heap nested component elements name
  | collection className elements => exact compileCollection_eq heap nested className elements name
  | properties entries => exact compileProperties_eq heap nested entries name
  | map className entries => exact compileMap_eq heap nested className entries name
  | struct s => simp only [compileParts, compileStruct, compileFields_eq, objectTasks]; rfl

end

end CallReplay.Script
