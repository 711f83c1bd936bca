import CallReplay.Value
import CallReplay.TextMap
import CallReplay.Text.Quoted

/-!
# Object heaps

A heap holds the objects of one value graph. Objects are numbered from zero as they are allocated
and are never removed, so an id keeps its object; a cycle is made by allocating an object and then
changing one of its fields or elements. `Heap.validate` checks that every reference of a graph leads
to an object of the heap and that every character is a single UTF-16 unit.
-/

namespace CallReplay

/-- Which modifiers a field was declared with. -/
structure Modifiers where
  constant : Bool := false
  processWide : Bool := false
  transient : Bool := false
  deriving DecidableEq

/-- A field belongs to the state of its object if none of the three modifiers excludes it. -/
def Modifiers.isPersistent (m : Modifiers) : Bool :=
  !(m.constant || m.processWide || m.transient)

/-- What was found in a field: a value, or nothing because the field could not be read. -/
inductive Slot where
  | value (content : Value)
  | inaccessible
  deriving DecidableEq

/-- The value in a slot that could be read. -/
def Slot.value? : Slot → Option Value
  | .value content => some content
  | .inaccessible => none

/-- A field of a structured object, with the type that its declaration gives it. -/
structure Field where
  name : String
  declared : TypeDesc
  modifiers : Modifiers
  serializable : Bool
  slot : Slot
  deriving DecidableEq

/-- An object that is described by its fields, in declaration order. -/
structure Struct where
  className : String
  hasDefaultConstructor : Bool
  isRemote : Bool
  fields : List Field
  deriving DecidableEq

/-- The first field of a name. -/
def Struct.field? (s : Struct) (name : String) : Option Field :=
  s.fields.find? fun f => f.name == name

/-- An object with an identity of its own. -/
inductive Object where
  | array (component : TypeDesc) (elements : List Value)
  | collection (className : String) (elements : List Value)
  | properties (entries : TextMap)
  | map (className : String) (entries : List (Value × Value))
  | struct (content : Struct)
  deriving DecidableEq

namespace Object

/-- The type that the object has when the program runs. -/
def runtimeType : Object → TypeDesc
  | array component _ => .array component
  | collection className _ => .named className
  | properties _ => .named propertiesClass
  | map className _ => .named className
  | struct s => .named s.className

/-- The word for the object's shape. -/
def kindName : Object → String
  | array .. => "array"
  | collection .. => "collection"
  | properties _ => "properties"
  | map .. => "map"
  | struct _ => "struct"

/-- Whether the object is a collection, a map or a property bag. -/
def isContainer : Object → Bool
  | collection .. | map .. | properties _ => true
  | array .. | struct _ => false

/-- Every value held by the object, in the order in which they stand in it. -/
def values : Object → List Value
  | array _ elements => elements
  | collection _ elements => elements
  | properties _ => []
  | map _ entries => entries.flatMap fun e => [e.1, e.2]
  | struct s => s.fields.filterMap fun f => f.slot.value?

end Object

/-- The shape that an operation expected of an object. -/
inductive Shape where
  | struct
  | elements
  deriving DecidableEq

/-- What can be wrong with a value graph or with an operation on its heap. -/
inductive GraphError where
  | objectNotFound (id : ObjectId)
  | unexpectedShape (id : ObjectId) (expected : Shape)
  | fieldNotFound (className field : String)
  | charOutsidePlane (c : Char)
  deriving DecidableEq

/-- The word for an expected shape. -/
def Shape.word : Shape → String
  | struct => "struct"
  | elements => "array or collection"

/-- What is reported about a fault of a value graph. -/
def GraphError.message : GraphError → String
  | objectNotFound id => s!"object not found: ObjectId({id.index.toNat})"
  | unexpectedShape id expected => s!"object {id.index.toNat} is not a {expected.word}"
  | fieldNotFound className field => "no field '" ++ field ++ "' on " ++ className
  | charOutsidePlane c =>
    "character " ++ Text.quotedChar c ++ " does not fit in a single UTF-16 unit"

/-- The objects of a value graph, each at the position that its id names. -/
structure Heap where
  objects : Array Object
  deriving DecidableEq

namespace Heap

/-- The heap without objects. -/
def empty : Heap := ⟨#[]⟩

instance : Inhabited Heap := ⟨empty⟩

/-- How many objects have been allocated. -/
def size (h : Heap) : Nat := h.objects.size

/-- The object that an id names. -/
def get? (h : Heap) (id : ObjectId) : Option Object :=
  h.objects[id.index.toNat]?

/-- The object that an id names, or the report that there is none. -/
def get (h : Heap) (id : ObjectId) : Except GraphError Object :=
  match h.get? id with
  | some object => .ok object
  | none => .error (.objectNotFound id)

/-- The structured object that an id names. -/
def getStruct (h : Heap) (id : ObjectId) : Except GraphError Struct := do
  match ← h.get id with
  | .struct s => pure s
  | _ => throw (.unexpectedShape id .struct)

/-- Adds an object; its id is the number of objects before it. -/
def alloc (h : Heap) (object : Object) : ObjectId × Heap :=
  (⟨UInt32.ofNat h.size⟩, ⟨h.objects.push object⟩)

/-- Puts another object in the place of the one that an id names. -/
def replace (h : Heap) (id : ObjectId) (object : Object) : Except GraphError Heap := do
  let _ ← h.get id
  pure ⟨h.objects.setIfInBounds id.index.toNat object⟩

/-- Sets the slot of the first field of a name; `none` if there is no such field. -/
def setFirst? (name : String) (slot : Slot) : List Field → Option (List Field)
  | [] => none
  | f :: rest =>
    if f.name = name then
      some ({ f with slot := slot } :: rest)
    else
      (setFirst? name slot rest).map (f :: ·)

/-- Stores a value in the first field of a name. -/
def setField (h : Heap) (id : ObjectId) (name : String) (value : Value) :
    Except GraphError Heap := do
  let s ← h.getStruct id
  match setFirst? name (.value value) s.fields with
  | some fields => h.replace id (.struct { s with fields := fields })
  | none => throw (.fieldNotFound s.className name)

/-- Makes the first field of a name unreadable. The answer tells whether the id names a structured
object with such a field; if it does not, nothing changes. -/
def hideField (h : Heap) (id : ObjectId) (name : String) : Except GraphError (Bool × Heap) := do
  match ← h.get id with
  | .struct s =>
    match setFirst? name .inaccessible s.fields with
    | some fields => return (true, ← h.replace id (.struct { s with fields := fields }))
    | none => return (false, h)
  | _ => return (false, h)

/-- Adds a value at the end of an array or a collection. -/
def pushElement (h : Heap) (id : ObjectId) (value : Value) : Except GraphError Heap := do
  match ← h.get id with
  | .array component elements => h.replace id (.array component (elements ++ [value]))
  | .collection className elements => h.replace id (.collection className (elements ++ [value]))
  | _ => throw (.unexpectedShape id .elements)

/-- Checks one value: a reference leads to an object and a character is a single UTF-16 unit. -/
def checkValue (h : Heap) : Value → Except GraphError Unit
  | .ref id => if id.index.toNat < h.size then .ok () else .error (.objectNotFound id)
  | .scalar (.char c) =>
    if Text.isSingleUnit c then .ok () else .error (.charOutsidePlane c)
  | _ => .ok ()

/-- Checks values one after another up to the first that is at fault. -/
def checkValues (h : Heap) : List Value → Except GraphError Unit
  | [] => .ok ()
  | v :: rest => do
    h.checkValue v
    h.checkValues rest

/-- Every value of every object, object by object. -/
def values (h : Heap) : List Value :=
  h.objects.toList.flatMap Object.values

/-- Checks the roots of a graph and then every object of the heap, whether a root reaches it or
not. -/
def validate (h : Heap) (roots : List Value) : Except GraphError Unit := do
  h.checkValues roots
  h.checkValues h.values

/-- The type that a value has when the program runs: a scalar has its boxed class, null has none. -/
def runtimeType (h : Heap) : Value → Except GraphError (Option TypeDesc)
  | .null => .ok none
  | .scalar s => .ok (some s.boxedType)
  | .classOf _ => .ok (some (.named classClass))
  | .ref id => do
    let object ← h.get id
    pure (some object.runtimeType)

end Heap

namespace Slot

/-- Whether two slots compare as equal; see `Scalar.agrees`. -/
def agrees : Slot → Slot → Bool
  | value a, value b => a.agrees b
  | inaccessible, inaccessible => true
  | _, _ => false

end Slot

/-- Whether two lists have the same length and agree position by position. -/
def listAgrees {α : Type} (same : α → α → Bool) : List α → List α → Bool
  | [], [] => true
  | a :: as, b :: bs => same a b && listAgrees same as bs
  | _, _ => false

/-- Whether two fields compare as equal; see `Scalar.agrees`. -/
def Field.agrees (a b : Field) : Bool :=
  decide ({ a with slot := b.slot } = b) && a.slot.agrees b.slot

/-- Whether two objects compare as equal: values as `Scalar.agrees` compares them, and property bags
whatever the order of their entries. -/
def Object.agrees : Object → Object → Bool
  | array s as, array t bs => s = t && listAgrees Value.agrees as bs
  | collection s as, collection t bs => s = t && listAgrees Value.agrees as bs
  | properties a, properties b => a.agrees b
  | map s as, map t bs => s = t && listAgrees (fun a b => a.1.agrees b.1 && a.2.agrees b.2) as bs
  | struct a, struct b =>
    decide ({ a with fields := b.fields } = b) && listAgrees Field.agrees a.fields b.fields
  | _, _ => false

/-- Whether two heaps hold objects that compare as equal, one by one. -/
def Heap.agrees (a b : Heap) : Bool :=
  listAgrees Object.agrees a.objects.toList b.objects.toList

end CallReplay
