import CallReplay.Script.Statement
import CallReplay.VariableName

/-!
# Compiling value graphs

`compile` turns a value and everything that it reaches into statements that rebuild it. The first
time the compiler meets an object it gives the object the variable at hand, before it looks inside,
and creates the object; every later meeting copies that variable. Shared objects are therefore
created once and cycles end. Containers are created before their parts, and parts are stored once
all of them are there, so a part may refer back to its container.

The variables given to objects are the state of the compiler. They outlive a call, so that later
values of the same heap can refer to objects of earlier ones, and they outlive a failure.
-/

namespace CallReplay.Script

/-- How scripts are written. -/
structure Options where
  /-- The helper that creates an object without running a constructor. -/
  bypassHelper : String := "rmirec.util.ReflectionUtil.newInstance"
  /-- What stands between the banners and the statements. -/
  separator : String := "// -------------------------------"
  /-- How many objects may be nested in one another. -/
  maxDepth : Nat := 128
  deriving DecidableEq

/-- Why a graph has no script. -/
inductive ScriptError where
  | graph (cause : GraphError)
  | nestingTooDeep (limit : Nat)
  deriving DecidableEq

/-- What is reported about a value that cannot be compiled. -/
def ScriptError.message : ScriptError → String
  | graph cause => "invalid value graph: " ++ cause.message
  | nestingTooDeep limit => s!"value graph nests objects deeper than {limit} levels"

/-- Which variable holds each object that has been met. -/
structure Names where
  entries : List (ObjectId × String)
  deriving DecidableEq

namespace Names

/-- No variable has been given out. -/
def empty : Names := ⟨[]⟩

/-- The variable that holds an object. -/
def find? (n : Names) (id : ObjectId) : Option String := n.entries.lookup id

/-- Gives an object its variable. -/
def insert (n : Names) (id : ObjectId) (name : String) : Names := ⟨(id, name) :: n.entries⟩

end Names

/-- A computation that may fail and that keeps the names it gave if it does. -/
abbrev Compile (α : Type) := ExceptT ScriptError (StateM Names) α

/-- A computation on a graph as a step of the compiler. -/
def onGraph {α : Type} (x : Except GraphError α) : Compile α :=
  match x with
  | .ok a => pure a
  | .error e => throw (.graph e)

/-- The variable for the element of a container at a position. -/
def elementName (container : String) (index : Nat) (base : String) : String :=
  container ++ "_element" ++ toString index ++ "_" ++ base

/-- The variable for the key of a map entry. -/
def keyName (map : String) (index : Nat) : String := map ++ "_key" ++ toString index

/-- The variable for the value of a map entry. -/
def valueName (map : String) (index : Nat) : String := map ++ "_val" ++ toString index

/-- The variable for the value of a field. -/
def fieldName (object field : String) : String := object ++ "_" ++ field

section

variable (heap : Heap) (options : Options) (nested : ObjectId → String → Compile Scriptlet)

/-- Compiles a value into a variable, given how to compile an object. The hint is the type that null
is declared with. -/
def compileValue (value : Value) (name : String) (hint : Option TypeDesc) : Compile Scriptlet :=
  match value with
  | .null => pure (.single (.declareNull hint name))
  | .classOf type => pure (.single (.declareClass name type))
  | .ref id => nested id name
  | .scalar s =>
    match s with
    | .char c =>
      if Text.isSingleUnit c then pure (.single (.declareScalar name s))
      else throw (.graph (.charOutsidePlane c))
    | s => pure (.single (.declareScalar name s))

/-- Compiles the elements of a container from a position on, each into a variable of its own. The
variables come with the statements. -/
def compileElements (container : String) (hint : Option TypeDesc) :
    Nat → List Value → Compile (Scriptlet × List String)
  | _, [] => pure (.plain [], [])
  | index, element :: rest => do
    let name := elementName container index (← onGraph (VariableName.ofValue heap element))
    let first ← compileValue nested element name hint
    let (others, names) ← compileElements container hint (index + 1) rest
    pure (first ++ others, name :: names)

/-- The elements of an array as they stand in a literal, if the array can be written as one: its
component is a scalar type, and every element is null or a scalar with a literal. -/
def inlineElements? (component : TypeDesc) (elements : List Value) :
    Option (List (Option Scalar)) :=
  if component.isScalar then elements.mapM inlineElement? else none
where
  /-- An element as it stands in a literal. -/
  inlineElement? : Value → Option (Option Scalar)
    | .null => some none
    | .scalar s => if s.isExpressible then some (some s) else none
    | _ => none

/-- Compiles an array, on one line if all of its elements can be written there. -/
def compileArray (component : TypeDesc) (elements : List Value) (name : String) :
    Compile Scriptlet :=
  match inlineElements? component elements with
  | some items => pure (.single (.inlineArray component name items))
  | none => do
    let (parts, names) ← compileElements heap nested name (some component) 0 elements
    let stores := names.zipIdx.map fun (value, index) => Statement.storeElement name index value
    pure (.single (.sizedArray component name elements.length) ++ parts ++ .plain stores)

/-- Compiles a collection: its elements first, which are then added to it. -/
def compileCollection (className : String) (elements : List Value) (name : String) :
    Compile Scriptlet := do
  let (parts, names) ← compileElements heap nested name none 0 elements
  let stores := names.map fun value => Statement.add name value
  pure (.single (.construct className name) ++ parts ++ .plain stores)

/-- A property bag. -/
def compileProperties (entries : TextMap) (name : String) : Scriptlet :=
  .plain (.construct propertiesClass name ::
    entries.entries.map fun (key, value) => .setProperty name key value)

/-- Compiles an operand of a map entry; null and text need no variable. -/
def compileOperand (value : Value) (name : String) : Compile (Scriptlet × Operand) :=
  match value with
  | .null => pure (.plain [], .null)
  | .scalar (.text s) => pure (.plain [], .text s)
  | value => do
    let part ← compileValue nested value name none
    pure (part, .held name)

/-- Compiles the entries of a map from a position on. The operands come with the statements. -/
def compileEntries (map : String) :
    Nat → List (Value × Value) → Compile (Scriptlet × List (Operand × Operand))
  | _, [] => pure (.plain [], [])
  | index, (key, value) :: rest => do
    let (keyPart, keyOperand) ← compileOperand nested key (keyName map index)
    let (valuePart, valueOperand) ← compileOperand nested value (valueName map index)
    let (others, operands) ← compileEntries map (index + 1) rest
    pure (keyPart ++ valuePart ++ others, (keyOperand, valueOperand) :: operands)

/-- Compiles a map: its keys and values first, which are then put into it. -/
def compileMap (className : String) (entries : List (Value × Value)) (name : String) :
    Compile Scriptlet := do
  let (parts, operands) ← compileEntries nested name 0 entries
  let stores := operands.map fun (key, value) => Statement.put name key value
  pure (.single (.construct className name) ++ parts ++ .plain stores)

/-- Whether a value is a reference to a container. -/
def isContainer (value : Value) : Compile Bool :=
  match value with
  | .ref id => do
    let object ← onGraph (heap.get id)
    pure object.isContainer
  | _ => pure false

/-- Compiles a field of an object. A field that is no part of the object's state is passed over, and
so is one whose declared type cannot be rebuilt, unless it is primitive or holds a container. -/
def compileField (object : String) (field : Field) : Compile Scriptlet := do
  if !field.modifiers.isPersistent then
    return .plain []
  match field.slot with
  | .inaccessible => pure (.single (.unreadField object field.name))
  | .value value =>
    let rebuilt ←
      if field.declared.isPrimitive || field.serializable then pure true
      else isContainer heap value
    if !rebuilt then
      pure (.plain [])
    else if value.isNull then
      pure (.single (.storeField object field.name none))
    else
      let name := fieldName object field.name
      let part ← compileValue nested value name none
      pure (part ++ .single (.storeField object field.name (some name)))

/-- Compiles the fields of an object in their order. -/
def compileFields (object : String) : List Field → Compile Scriptlet
  | [] => pure (.plain [])
  | field :: rest => do
    let first ← compileField heap nested object field
    let others ← compileFields object rest
    pure (first ++ others)

/-- The statement that creates a structured object. -/
def creation (s : Struct) (name : String) : Statement :=
  if s.hasDefaultConstructor then .construct s.className name
  else .bypass s.className name options.bypassHelper

/-- Compiles an object with fields. The object is created before its fields are compiled. -/
def compileStruct (s : Struct) (name : String) : Compile Scriptlet := do
  let fields ← compileFields heap nested name s.fields
  pure (⟨[⟨s.className, name⟩], [creation options s name]⟩ ++ fields)

/-- Compiles what an object holds, as its shape asks for. -/
def compileParts (object : Object) (name : String) : Compile Scriptlet :=
  match object with
  | .array component elements => compileArray heap nested component elements name
  | .collection className elements => compileCollection heap nested className elements name
  | .properties entries => pure (compileProperties entries name)
  | .map className entries => compileMap nested className entries name
  | .struct s => compileStruct heap options nested s name

end

/-- Compiles an object into a variable, with room for so many objects nested in one another. -/
def compileObject (heap : Heap) (options : Options) :
    (room : Nat) → ObjectId → String → Compile Scriptlet
  | room, id, name => do
    let object ← onGraph (heap.get id)
    match (← get).find? id with
    | some previous => pure (.single (.copy object.runtimeType name previous))
    | none =>
      match room with
      | 0 => throw (.nestingTooDeep options.maxDepth)
      | room + 1 =>
        modify fun names => names.insert id name
        compileParts heap options (compileObject heap options room) object name

/-- Compiles a value into a variable. The declared type is a hint for null only. -/
def compile (heap : Heap) (options : Options) (value : Value) (name : String)
    (hint : Option TypeDesc) : Compile Scriptlet :=
  compileValue (compileObject heap options options.maxDepth) value name hint

end CallReplay.Script
