import CallReplay.Json.Decode
import CallReplay.Payload
import CallReplay.Signature

/-!
# JSON form of value graphs

Every part of a value graph has a JSON form and a reader for it. Records are objects whose
members are the fields in order, enumerations are tagged with the name of the case, and a type
is written flat.
-/

namespace CallReplay.Json

/-- A value under the name of its case. -/
def tagged (name : String) (content : Json) : Json := .object [(name, content)]

/-- Values as a list. -/
def listOf {α : Type} (write : α → Json) (values : List α) : Json := .list (values.map write)

/-- A primitive type as JSON. -/
def ofPrimitive (kind : Primitive) : Json := .text kind.name

/-- Reads a primitive type. -/
def readPrimitive : Reader Primitive :=
  readVariant fun name => (Primitive.ofName? name).map .alone

/-- An element type as JSON, tagged with its case. -/
def ofElementType : ElementType → Json
  | .primitive kind => tagged "Primitive" (ofPrimitive kind)
  | .named name => tagged "Class" (.text name)

/-- Reads an element type. -/
def readElementType : Reader ElementType :=
  readVariant fun
    | "Primitive" => some (.content fun s => (readPrimitive s).map .primitive)
    | "Class" => some (.content fun s => (readString s).map .named)
    | _ => none

/-- A type as JSON, in its flat form. -/
def ofType (t : TypeDesc) : Json :=
  let flat := t.flatten
  .object [("element", ofElementType flat.element), ("dimensions", nat flat.dimensions.toNat)]

/-- Reads a natural number of 32 bits. -/
def readUInt32 : Reader UInt32 := fun s => (readUnsignedBits 32 s).map UInt32.ofNat

/-- The members that the flat form of a type is read from. -/
def flatTypeFields : Fields FlatType :=
  (Fields.ready FlatType.mk |>.field "element" readElementType).field "dimensions" readUInt32

/-- Reads a type from its flat form, which may have too many dimensions. -/
def readType : Reader TypeDesc := fun s => do
  let flat ← flatTypeFields.read s
  match TypeDesc.ofFlat flat with
  | .ok t => pure t
  | .error cause => throw (.dimensions cause)

/-- The id of an object as JSON. -/
def ofId (id : ObjectId) : Json := nat id.index.toNat

/-- Reads the id of an object, which need not exist. -/
def readId : Reader ObjectId := fun s => (readUInt32 s).map ObjectId.mk

/-- A scalar as JSON, tagged with its kind. -/
def ofScalar (s : Scalar) : Json :=
  tagged s.kindName <|
    match s with
    | .bool b => .bool b
    | .char c => .text (String.singleton c)
    | .byte n => int n.toInt
    | .short n => int n.toInt
    | .int n => int n.toInt
    | .long n => int n.toInt
    | .float bits => single bits
    | .double bits => double bits
    | .text t => .text t

/-- A value as JSON, tagged with its case. -/
def ofValue : Value → Json
  | .null => .text "Null"
  | .scalar s => ofScalar s
  | .classOf t => tagged "Class" (ofType t)
  | .ref id => tagged "Ref" (ofId id)

/-- The case of a value whose content is read as a scalar. -/
def scalarContent {α : Type} (read : Reader α) (make : α → Scalar) : Variant Value :=
  .content fun s => (read s).map fun a => .scalar (make a)

/-- Reads a value. -/
def readValue : Reader Value :=
  readVariant fun
    | "Null" => some (.alone .null)
    | "Bool" => some (scalarContent readBool .bool)
    | "Char" => some (scalarContent readChar .char)
    | "Byte" => some (scalarContent (readSignedBits 8) fun i => .byte (Int8.ofInt i))
    | "Short" => some (scalarContent (readSignedBits 16) fun i => .short (Int16.ofInt i))
    | "Int" => some (scalarContent (readSignedBits 32) fun i => .int (Int32.ofInt i))
    | "Long" => some (scalarContent (readSignedBits 64) fun i => .long (Int64.ofInt i))
    | "Float" => some (scalarContent (readFloating .single) fun n => .float (UInt32.ofNat n))
    | "Double" => some (scalarContent (readFloating .double) fun n => .double (UInt64.ofNat n))
    | "Text" => some (scalarContent readString .text)
    | "Class" => some (.content fun s => (readType s).map .classOf)
    | "Ref" => some (.content fun s => (readId s).map .ref)
    | _ => none

/-- The modifiers of a field as JSON. -/
def ofModifiers (m : Modifiers) : Json :=
  .object [("constant", .bool m.constant), ("process_wide", .bool m.processWide),
    ("transient", .bool m.transient)]

/-- The members that the modifiers of a field are read from. -/
def modifiersFields : Fields Modifiers :=
  ((Fields.ready Modifiers.mk |>.field "constant" readBool).field "process_wide" readBool).field
    "transient" readBool

/-- What is known of the content of a field as JSON. -/
def ofSlot : Slot → Json
  | .value content => tagged "Value" (ofValue content)
  | .inaccessible => .text "Inaccessible"

/-- Reads what is known of the content of a field. -/
def readSlot : Reader Slot :=
  readVariant fun
    | "Value" => some (.content fun s => (readValue s).map .value)
    | "Inaccessible" => some (.alone .inaccessible)
    | _ => none

/-- A field as JSON. -/
def ofField (f : Field) : Json :=
  .object [("name", .text f.name), ("declared", ofType f.declared),
    ("modifiers", ofModifiers f.modifiers), ("serializable", .bool f.serializable),
    ("slot", ofSlot f.slot)]

/-- The members that a field is read from. -/
def fieldFields : Fields Field :=
  ((((Fields.ready Field.mk |>.field "name" readString).field "declared" readType).field
    "modifiers" modifiersFields.read).field "serializable" readBool).field "slot" readSlot

/-- An object with fields as JSON. -/
def ofStruct (s : Struct) : Json :=
  .object [("class", .text s.className),
    ("has_default_constructor", .bool s.hasDefaultConstructor), ("remote", .bool s.isRemote),
    ("fields", listOf ofField s.fields)]

/-- The members that an object with fields is read from. -/
def structFields : Fields Struct :=
  (((Fields.ready Struct.mk |>.field "class" readString).field "has_default_constructor"
    readBool).field "remote" readBool).field "fields" (readList fieldFields.read)

/-- The entries of a property bag as JSON, as the members of an object. -/
def ofTextMap (m : TextMap) : Json :=
  .object (m.entries.map fun (k, v) => (k, .text v))

/-- Reads a map of texts; the last value of a repeated name is kept. -/
def readTextMap : Reader TextMap := fun s => (readObject readString s).map TextMap.ofList

/-- The entry of a map as JSON, as a list of its key and its value. -/
def ofEntry (e : Value × Value) : Json := .list [ofValue e.1, ofValue e.2]

/-- An object of a heap as JSON, tagged with its shape. -/
def ofObject : Object → Json
  | .array component elements =>
    tagged "Array"
      (.object [("component", ofType component), ("elements", listOf ofValue elements)])
  | .collection className elements =>
    tagged "Collection"
      (.object [("class", .text className), ("elements", listOf ofValue elements)])
  | .properties entries => tagged "Properties" (ofTextMap entries)
  | .map className entries =>
    tagged "Map" (.object [("class", .text className), ("entries", listOf ofEntry entries)])
  | .struct s => tagged "Struct" (ofStruct s)

/-- The members that an array is read from. -/
def arrayFields : Fields Object :=
  (Fields.ready Object.array |>.field "component" readType).field "elements" (readList readValue)

/-- The members that a collection is read from. -/
def collectionFields : Fields Object :=
  (Fields.ready Object.collection |>.field "class" readString).field "elements"
    (readList readValue)

/-- The members that a map is read from. -/
def mapFields : Fields Object :=
  (Fields.ready Object.map |>.field "class" readString).field "entries"
    (readList (readPair readValue readValue))

/-- Reads an object of a heap. -/
def readHeapObject : Reader Object :=
  readVariant fun
    | "Array" => some (.content arrayFields.read)
    | "Collection" => some (.content collectionFields.read)
    | "Properties" => some (.content fun s => (readTextMap s).map .properties)
    | "Map" => some (.content mapFields.read)
    | "Struct" => some (.content fun s => (structFields.read s).map .struct)
    | _ => none

/-- A heap as JSON. The id of an object is its position in the list. -/
def ofHeap (h : Heap) : Json := .object [("objects", listOf ofObject h.objects.toList)]

/-- The members that a heap is read from. -/
def heapFields : Fields Heap :=
  Fields.ready (fun objects : List Object => Heap.mk objects.toArray) |>.field "objects"
    (readList readHeapObject)

/-- The arguments of a call as JSON. -/
def ofArguments (a : Arguments) : Json :=
  .object [("heap", ofHeap a.heap), ("values", listOf ofValue a.values)]

/-- The members that the arguments of a call are read from. -/
def argumentsFields : Fields Arguments :=
  (Fields.ready Arguments.mk |>.field "heap" heapFields.read).field "values" (readList readValue)

/-- A payload as JSON. -/
def ofPayload (p : Payload) : Json :=
  .object [("heap", ofHeap p.heap), ("value", ofValue p.value)]

/-- The members that a payload is read from. -/
def payloadFields : Fields Payload :=
  (Fields.ready Payload.mk |>.field "heap" heapFields.read).field "value" readValue

/-- The outcome of a call as JSON, tagged with its case. -/
def ofOutcome : Outcome → Json
  | .returned p => tagged "Returned" (ofPayload p)
  | .thrown p => tagged "Thrown" (ofPayload p)

/-- Reads the outcome of a call. -/
def readOutcome : Reader Outcome :=
  readVariant fun
    | "Returned" => some (.content fun s => (payloadFields.read s).map .returned)
    | "Thrown" => some (.content fun s => (payloadFields.read s).map .thrown)
    | _ => none

/-- The key of a method as JSON. -/
def ofSignature (s : Signature) : Json :=
  .object [("full", .text s.full), ("args", .text s.parameters)]

/-- The members that the key of a method is read from. -/
def signatureFields : Fields Signature :=
  (Fields.ready Signature.mk |>.field "full" readString).field "args" readString

end CallReplay.Json
