import CallReplay.Wire.Decoder
import CallReplay.Payload

/-!
# Binary encoding of value graphs

Every part of a value graph has a writer and a reader. Records are their fields in order; the
values, the objects and the slots of fields are enumerations, numbered in the order in which the
cases stand here. A type is written flat. Reading a property bag inserts its entries one after
another, so a repeated key collapses to one entry.
-/

namespace CallReplay.Wire

/-- The number of a primitive kind. -/
def primitiveNumber (kind : Primitive) : Nat := Primitive.all.idxOf kind

/-- A primitive type as its number. -/
def writePrimitive (kind : Primitive) : List UInt8 := writeVariant (primitiveNumber kind)

/-- Reads a primitive type. -/
def readPrimitive : Decoder Primitive := do
  let number ← readUInt32
  match Primitive.all[number.toNat]? with
  | some kind => pure kind
  | none => unknownVariant number Primitive.all.length

/-- The number of the case of an element type and what belongs to it. -/
def writeElementType : ElementType → List UInt8
  | .primitive kind => writeVariant 0 ++ writePrimitive kind
  | .named name => writeVariant 1 ++ writeText name

/-- Reads an element type. -/
def readElementType : Decoder ElementType := do
  let number ← readUInt32
  match number.toNat with
  | 0 => return .primitive (← readPrimitive)
  | 1 => return .named (← readText)
  | _ => unknownVariant number 2

/-- A type in its flat form. -/
def writeType (t : TypeDesc) : List UInt8 :=
  let flat := t.flatten
  writeElementType flat.element ++ writeUInt32 flat.dimensions

/-- Reads a type from its flat form, which may have too many dimensions. -/
def readType : Decoder TypeDesc := do
  let element ← readElementType
  let dimensions ← readUInt32
  match TypeDesc.ofFlat ⟨element, dimensions⟩ with
  | .ok type => pure type
  | .error cause => throw (.dimensions cause)

/-- The id of an object. -/
def writeId (id : ObjectId) : List UInt8 := writeUInt32 id.index

/-- Reads the id of an object, which need not exist. -/
def readId : Decoder ObjectId := return ⟨← readUInt32⟩

/-- The number of the case of a value and what belongs to it. -/
def writeValue : Value → List UInt8
  | .null => writeVariant 0
  | .scalar (.bool b) => writeVariant 1 ++ writeBool b
  | .scalar (.char c) => writeVariant 2 ++ writeChar c
  | .scalar (.byte n) => writeVariant 3 ++ littleEndian 1 n.toUInt8.toNat
  | .scalar (.short n) => writeVariant 4 ++ littleEndian 2 n.toUInt16.toNat
  | .scalar (.int n) => writeVariant 5 ++ littleEndian 4 n.toUInt32.toNat
  | .scalar (.long n) => writeVariant 6 ++ littleEndian 8 n.toUInt64.toNat
  | .scalar (.float bits) => writeVariant 7 ++ writeUInt32 bits
  | .scalar (.double bits) => writeVariant 8 ++ writeUInt64 bits
  | .scalar (.text s) => writeVariant 9 ++ writeText s
  | .classOf type => writeVariant 10 ++ writeType type
  | .ref id => writeVariant 11 ++ writeId id

/-- Reads a value. -/
def readValue : Decoder Value := do
  let number ← readUInt32
  match number.toNat with
  | 0 => return .null
  | 1 => return .scalar (.bool (← readBool))
  | 2 => return .scalar (.char (← readChar))
  | 3 => return .scalar (.byte (UInt8.ofNat (← readNat 1)).toInt8)
  | 4 => return .scalar (.short (UInt16.ofNat (← readNat 2)).toInt16)
  | 5 => return .scalar (.int (UInt32.ofNat (← readNat 4)).toInt32)
  | 6 => return .scalar (.long (UInt64.ofNat (← readNat 8)).toInt64)
  | 7 => return .scalar (.float (← readUInt32))
  | 8 => return .scalar (.double (← readUInt64))
  | 9 => return .scalar (.text (← readText))
  | 10 => return .classOf (← readType)
  | 11 => return .ref (← readId)
  | _ => unknownVariant number 12

/-- The modifiers of a field, one byte for each. -/
def writeModifiers (m : Modifiers) : List UInt8 :=
  writeBool m.constant ++ writeBool m.processWide ++ writeBool m.transient

/-- Reads the modifiers of a field. -/
def readModifiers : Decoder Modifiers := do
  let constant ← readBool
  let processWide ← readBool
  let transient ← readBool
  pure ⟨constant, processWide, transient⟩

/-- What is known of the content of a field. -/
def writeSlot : Slot → List UInt8
  | .value content => writeVariant 0 ++ writeValue content
  | .inaccessible => writeVariant 1

/-- Reads what is known of the content of a field. -/
def readSlot : Decoder Slot := do
  let number ← readUInt32
  match number.toNat with
  | 0 => return .value (← readValue)
  | 1 => return .inaccessible
  | _ => unknownVariant number 2

/-- A field, part by part. -/
def writeField (f : Field) : List UInt8 :=
  writeText f.name ++ writeType f.declared ++ writeModifiers f.modifiers ++
    writeBool f.serializable ++ writeSlot f.slot

/-- Reads a field. -/
def readField : Decoder Field := do
  let name ← readText
  let declared ← readType
  let modifiers ← readModifiers
  let serializable ← readBool
  let slot ← readSlot
  pure ⟨name, declared, modifiers, serializable, slot⟩

/-- An object with fields, part by part. -/
def writeStruct (s : Struct) : List UInt8 :=
  writeText s.className ++ writeBool s.hasDefaultConstructor ++ writeBool s.isRemote ++
    writeList writeField s.fields

/-- Reads an object with fields. -/
def readStruct : Decoder Struct := do
  let className ← readText
  let hasDefaultConstructor ← readBool
  let isRemote ← readBool
  let fields ← readList readField
  pure ⟨className, hasDefaultConstructor, isRemote, fields⟩

/-- Two values one behind the other. -/
def writePair {α β : Type} (first : α → List UInt8) (second : β → List UInt8) (p : α × β) :
    List UInt8 :=
  first p.1 ++ second p.2

/-- Reads two values. -/
def readPair {α β : Type} (first : Decoder α) (second : Decoder β) : Decoder (α × β) := do
  let a ← first
  let b ← second
  pure (a, b)

/-- The number of the shape of an object and what it holds. -/
def writeObject : Object → List UInt8
  | .array component elements =>
    writeVariant 0 ++ writeType component ++ writeList writeValue elements
  | .collection className elements =>
    writeVariant 1 ++ writeText className ++ writeList writeValue elements
  | .properties entries =>
    writeVariant 2 ++ writeList (writePair writeText writeText) entries.entries
  | .map className entries =>
    writeVariant 3 ++ writeText className ++ writeList (writePair writeValue writeValue) entries
  | .struct s => writeVariant 4 ++ writeStruct s

/-- Reads an object. The keys of a property bag may repeat; then the last value counts. -/
def readObject : Decoder Object := do
  let number ← readUInt32
  match number.toNat with
  | 0 => return .array (← readType) (← readList readValue)
  | 1 => return .collection (← readText) (← readList readValue)
  | 2 => return .properties (.ofList (← readList (readPair readText readText)))
  | 3 => return .map (← readText) (← readList (readPair readValue readValue))
  | 4 => return .struct (← readStruct)
  | _ => unknownVariant number 5

/-- The objects of a heap in the order of their ids. -/
def writeHeap (h : Heap) : List UInt8 := writeList writeObject h.objects.toList

/-- Reads a heap. -/
def readHeap : Decoder Heap := return ⟨(← readList readObject).toArray⟩

/-- The arguments of a call behind the heap that they refer to. -/
def writeArguments (a : Arguments) : List UInt8 :=
  writeHeap a.heap ++ writeList writeValue a.values

/-- Reads the arguments of a call. -/
def readArguments : Decoder Arguments := do
  let heap ← readHeap
  let values ← readList readValue
  pure ⟨heap, values⟩

/-- A value behind the heap that it refers to. -/
def writePayload (p : Payload) : List UInt8 := writeHeap p.heap ++ writeValue p.value

/-- Reads a payload. -/
def readPayload : Decoder Payload := do
  let heap ← readHeap
  let value ← readValue
  pure ⟨heap, value⟩

end CallReplay.Wire
