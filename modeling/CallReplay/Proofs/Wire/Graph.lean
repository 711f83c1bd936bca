import CallReplay.Wire.Graph
import CallReplay.Proofs.TextMap
import CallReplay.Proofs.TypeDesc
import CallReplay.Proofs.Wire.Decoder

/-!
# Reading value graphs that were written

Everything in a value graph is read back from its bytes, except for types with more than 255
dimensions, which can be written but are refused. So the bytes of a graph are read exactly if all
types in it are shallow, and what is read then is the graph itself, floating point numbers bit for
bit and property bags in order.
-/

namespace CallReplay

/-- The types in a value. -/
def Value.types : Value → List TypeDesc
  | .classOf type => [type]
  | _ => []

/-- The types in a slot. -/
def Slot.types : Slot → List TypeDesc
  | .value content => content.types
  | .inaccessible => []

/-- The types in a field: its declared type and those in its slot. -/
def Field.types (f : Field) : List TypeDesc := f.declared :: f.slot.types

/-- The types in an object. -/
def Object.types : Object → List TypeDesc
  | .array component elements => component :: elements.flatMap Value.types
  | .collection _ elements => elements.flatMap Value.types
  | .properties _ => []
  | .map _ entries => entries.flatMap fun entry => entry.1.types ++ entry.2.types
  | .struct s => s.fields.flatMap Field.types

/-- The types in a heap. -/
def Heap.types (h : Heap) : List TypeDesc := h.objects.toList.flatMap Object.types

/-- The types in an argument list. -/
def Arguments.types (a : Arguments) : List TypeDesc := a.heap.types ++ a.values.flatMap Value.types

/-- The types in a payload. -/
def Payload.types (p : Payload) : List TypeDesc := p.heap.types ++ p.value.types

end CallReplay

namespace CallReplay.Wire

/-- Types that can be read back. -/
def Shallow (types : List TypeDesc) : Prop := ∀ t ∈ types, t.dimensions ≤ maxDimensions

/-- Types whose dimensions can be counted in 32 bits. -/
def Countable (types : List TypeDesc) : Prop := ∀ t ∈ types, t.dimensions < 2 ^ 32

section

variable {types more : List TypeDesc} {t : TypeDesc}

/-- Types of few dimensions have dimensions that can be counted in 32 bits. -/
lemma Shallow.countable (h : Shallow types) : Countable types :=
  fun t ht => Nat.lt_of_le_of_lt (h t ht) (by decide)

/-- No types have few dimensions. -/
@[simp] lemma shallow_nil : Shallow [] := nofun

/-- Types have few dimensions if the first has and the others have. -/
@[simp] lemma shallow_cons : Shallow (t :: types) ↔ t.dimensions ≤ maxDimensions ∧ Shallow types :=
  List.forall_mem_cons

/-- Types have few dimensions if those of both lists have. -/
@[simp] lemma shallow_append : Shallow (types ++ more) ↔ Shallow types ∧ Shallow more :=
  List.forall_mem_append

/-- The types of several things are shallow if those of each are. -/
lemma shallow_flatMap {α : Type} {l : List α} {f : α → List TypeDesc} :
    Shallow (l.flatMap f) ↔ ∀ a ∈ l, Shallow (f a) := by
  simp only [Shallow, List.mem_flatMap]
  exact ⟨fun h a ha t ht => h t ⟨a, ha, ht⟩, fun h t ⟨a, ha, ht⟩ => h a ha t ht⟩

/-- Dimensions can be counted if those of the first type can and those of the others can. -/
@[simp] lemma countable_cons : Countable (t :: types) ↔ t.dimensions < 2 ^ 32 ∧ Countable types :=
  List.forall_mem_cons

/-- Dimensions can be counted if those of both lists can. -/
@[simp] lemma countable_append : Countable (types ++ more) ↔ Countable types ∧ Countable more :=
  List.forall_mem_append

/-- The types of one of several things can be counted if those of all can. -/
lemma Countable.of_mem {α : Type} {l : List α} {f : α → List TypeDesc} (h : Countable (l.flatMap f))
    {a : α} (ha : a ∈ l) : Countable (f a) :=
  fun t ht => h t (List.mem_flatMap.mpr ⟨a, ha, ht⟩)

end

/-- A primitive type is read back. -/
lemma reads_primitive (kind : Primitive) : Reads readPrimitive (writePrimitive kind) kind := by
  have number : Reads readUInt32 (writePrimitive kind) (UInt32.ofNat (primitiveNumber kind)) := by
    apply reads_variant
    cases kind <;> decide
  rw [← List.append_nil (writePrimitive kind)]
  refine number.bind ?_
  cases kind <;> exact reads_pure _

/-- An element type is read back. -/
lemma reads_elementType {e : ElementType} (h : Fits (writeElementType e)) :
    Reads readElementType (writeElementType e) e := by
  cases e with
  | primitive kind =>
    exact (reads_variant (by decide)).bind ((reads_primitive kind).map ElementType.primitive)
  | named name =>
    exact (reads_variant (by decide)).bind ((reads_text h.of_append.2).map ElementType.named)

/-- What is left of reading a type once its flat form is known. -/
def finishType (flat : FlatType) : Decoder TypeDesc :=
  match TypeDesc.ofFlat flat with
  | .ok type => pure type
  | .error cause => throw (.dimensions cause)

/-- A type is read back unless it has too many dimensions. -/
lemma decides_type {t : TypeDesc} (hfits : Fits (writeType t)) (hcount : t.dimensions < 2 ^ 32) :
    Decides readType (writeType t) t (t.dimensions ≤ maxDimensions) := by
  -- The flat form takes any number of dimensions; it is checked after its bytes have been read.
  have finished : Decides (finishType t.flatten) [] t (t.dimensions ≤ maxDimensions) := by
    simp only [finishType, TypeDesc.ofFlat_flatten hcount]
    by_cases hfew : t.dimensions ≤ maxDimensions
    · rw [if_pos hfew]
      exact (reads_pure t).decides hfew
    · rw [if_neg hfew]
      exact ⟨fun h => absurd h hfew, fun _ => ⟨_, fun _ => rfl⟩⟩
  have dimensions := (reads_uInt32 t.flatten.dimensions).then
    (f := fun dimensions => finishType ⟨t.flatten.element, dimensions⟩) finished
  rw [List.append_nil] at dimensions
  exact (reads_elementType hfits.of_append.1).then dimensions

/-- A scalar is read back, its bits included. -/
lemma reads_scalar {s : Scalar} (h : Fits (writeValue (.scalar s))) :
    Reads readValue (writeValue (.scalar s)) (.scalar s) := by
  -- The number of the variant is read first and selects the reader of the rest.
  have variant {number : Nat} {bytes : List UInt8} {f : UInt32 → Decoder Value} {v : Value}
      (hnumber : number < 2 ^ 32) (hf : Reads (f (UInt32.ofNat number)) bytes v) :
      Reads (readUInt32 >>= f) (writeVariant number ++ bytes) v :=
    (reads_variant hnumber).bind hf
  cases s with
  | bool b => exact variant (by decide) ((reads_bool b).map fun b => Value.scalar (.bool b))
  | char c => exact variant (by decide) ((reads_char c).map fun c => Value.scalar (.char c))
  | byte n =>
    have number : Reads (readNat 1) (littleEndian 1 n.toUInt8.toNat) n.toUInt8.toNat :=
      reads_nat n.toUInt8.toNat_lt
    have read := number.map fun k => Value.scalar (.byte (UInt8.ofNat k).toInt8)
    rw [UInt8.ofNat_toNat, Int8.toInt8_toUInt8] at read
    exact variant (by decide) read
  | short n =>
    have number : Reads (readNat 2) (littleEndian 2 n.toUInt16.toNat) n.toUInt16.toNat :=
      reads_nat n.toUInt16.toNat_lt
    have read := number.map fun k => Value.scalar (.short (UInt16.ofNat k).toInt16)
    rw [UInt16.ofNat_toNat, Int16.toInt16_toUInt16] at read
    exact variant (by decide) read
  | int n =>
    have number : Reads (readNat 4) (littleEndian 4 n.toUInt32.toNat) n.toUInt32.toNat :=
      reads_nat n.toUInt32.toNat_lt
    have read := number.map fun k => Value.scalar (.int (UInt32.ofNat k).toInt32)
    rw [UInt32.ofNat_toNat, Int32.toInt32_toUInt32] at read
    exact variant (by decide) read
  | long n =>
    have number : Reads (readNat 8) (littleEndian 8 n.toUInt64.toNat) n.toUInt64.toNat :=
      reads_nat n.toUInt64.toNat_lt
    have read := number.map fun k => Value.scalar (.long (UInt64.ofNat k).toInt64)
    rw [UInt64.ofNat_toNat, Int64.toInt64_toUInt64] at read
    exact variant (by decide) read
  | float bits =>
      exact variant (by decide) ((reads_uInt32 bits).map fun b => Value.scalar (.float b))
  | double bits =>
      exact variant (by decide) ((reads_uInt64 bits).map fun b => Value.scalar (.double b))
  | text s =>
    exact variant (by decide) ((reads_text h.of_append.2).map fun s => Value.scalar (.text s))

/-- A value is read back unless it is the class of a type with too many dimensions. -/
lemma decides_value {v : Value} (hfits : Fits (writeValue v)) (hcount : Countable v.types) :
    Decides readValue (writeValue v) v (Shallow v.types) := by
  cases v with
  | null =>
    have read : Reads readValue (writeVariant 0 ++ []) Value.null :=
      (reads_variant (by decide)).bind (reads_pure Value.null)
    exact read.decides shallow_nil
  | scalar s => exact (reads_scalar hfits).decides shallow_nil
  | classOf type =>
    have read := decides_type hfits.of_append.2 (countable_cons.mp hcount).1
    exact ((reads_variant (by decide)).then (read.map Value.classOf)).congr (by simp [Value.types])
  | ref id =>
    have read : Reads readId (writeId id) id := (reads_uInt32 id.index).map ObjectId.mk
    have value : Reads readValue (writeVariant 11 ++ writeId id) (.ref id) :=
      (reads_variant (by decide)).bind (read.map Value.ref)
    exact value.decides shallow_nil

/-- A value is written in at least one byte. -/
lemma writeValue_ne_nil (v : Value) : writeValue v ≠ [] := by
  match v with
  | .null | .classOf _ | .ref _ => simp [writeValue, writeVariant, littleEndian]
  | .scalar (.bool _) | .scalar (.char _) | .scalar (.byte _) | .scalar (.short _)
  | .scalar (.int _)
  | .scalar (.long _) | .scalar (.float _) | .scalar (.double _) | .scalar (.text _) =>
    simp [writeValue, writeVariant, littleEndian]

/-- Values are read back unless one of them is the class of a type with too many dimensions. -/
lemma decides_values {values : List Value} (hfits : Fits (writeList writeValue values))
    (hcount : Countable (values.flatMap Value.types)) :
    Decides (readList readValue) (writeList writeValue values) values
      (Shallow (values.flatMap Value.types)) :=
  (decides_readList writeValue_ne_nil hfits fun _ hv hfits =>
    decides_value hfits (hcount.of_mem hv)).congr shallow_flatMap.symm

/-- The modifiers of a field are read back. -/
lemma reads_modifiers (m : Modifiers) : Reads readModifiers (writeModifiers m) m := by
  rw [writeModifiers, List.append_assoc]
  exact (reads_bool _).bind ((reads_bool _).bind ((reads_bool _).map _))

/-- A slot is read back as its value is. -/
lemma decides_slot {slot : Slot} (hfits : Fits (writeSlot slot)) (hcount : Countable slot.types) :
    Decides readSlot (writeSlot slot) slot (Shallow slot.types) := by
  cases slot with
  | value content =>
    exact (reads_variant (by decide)).then ((decides_value hfits.of_append.2 hcount).map Slot.value)
  | inaccessible =>
    have read : Reads readSlot (writeVariant 1 ++ []) .inaccessible :=
      (reads_variant (by decide)).bind (reads_pure Slot.inaccessible)
    exact read.decides shallow_nil

/-- A field is read back unless its types are too deep. -/
lemma decides_field {f : Field} (hfits : Fits (writeField f)) (hcount : Countable f.types) :
    Decides readField (writeField f) f (Shallow f.types) := by
  obtain ⟨name, declared, modifiers, serializable, slot⟩ := f
  simp only [writeField, List.append_assoc] at hfits ⊢
  obtain ⟨hname, hfits⟩ := hfits.of_append
  obtain ⟨htype, hfits⟩ := hfits.of_append
  obtain ⟨hdeclared, hslot⟩ := countable_cons.mp hcount
  have slot := decides_slot hfits.of_append.2.of_append.2 hslot
  have field : Decides readField _ (Field.mk name declared modifiers serializable _) _ :=
    (reads_text hname).then ((decides_type htype hdeclared).bind
      ((reads_modifiers modifiers).then ((reads_bool serializable).then (slot.map _))))
  exact field.congr shallow_cons.symm

/-- A field is written in at least one byte. -/
lemma writeField_ne_nil (f : Field) : writeField f ≠ [] := by
  simp [writeField, writeText, writeLength, littleEndian]

/-- A structured object is read back unless the types of its fields are too deep. -/
lemma decides_struct {s : Struct} (hfits : Fits (writeStruct s))
    (hcount : Countable (s.fields.flatMap Field.types)) :
    Decides readStruct (writeStruct s) s (Shallow (s.fields.flatMap Field.types)) := by
  obtain ⟨className, hasDefaultConstructor, isRemote, fields⟩ := s
  simp only [writeStruct, List.append_assoc] at hfits ⊢
  obtain ⟨hname, hfits⟩ := hfits.of_append
  have read := decides_readList writeField_ne_nil hfits.of_append.2.of_append.2
    fun _ hf hfits => decides_field hfits (hcount.of_mem hf)
  have content : Decides readStruct _ (Struct.mk className hasDefaultConstructor isRemote _) _ :=
    (reads_text hname).then ((reads_bool hasDefaultConstructor).then
      ((reads_bool isRemote).then (read.map _)))
  exact content.congr shallow_flatMap.symm

/-- A pair is read back if both of its parts are. -/
lemma decides_pair {α β : Type} {first : α → List UInt8} {second : β → List UInt8} {x : Decoder α}
    {y : Decoder β} {a : α} {b : β} {p q : Prop} (hx : Decides x (first a) a p)
    (hy : Decides y (second b) b q) :
    Decides (readPair x y) (writePair first second (a, b)) (a, b) (p ∧ q) :=
  hx.bind (hy.map fun b => (a, b))

/-- Map entries are read back unless one of them is the class of a type with too many dimensions. -/
lemma decides_entries {entries : List (Value × Value)}
    (hfits : Fits (writeList (writePair writeValue writeValue) entries))
    (hcount : Countable (entries.flatMap fun entry => entry.1.types ++ entry.2.types)) :
    Decides (readList (readPair readValue readValue))
      (writeList (writePair writeValue writeValue) entries) entries
      (Shallow (entries.flatMap fun entry => entry.1.types ++ entry.2.types)) := by
  have hwrite (entry : Value × Value) : writePair writeValue writeValue entry ≠ [] := by
    simp [writePair, writeValue_ne_nil]
  have entry (e : Value × Value) (he : e ∈ entries)
    (hfits : Fits (writePair writeValue writeValue e)) :
      Decides (readPair readValue readValue) (writePair writeValue writeValue e) e
        (Shallow e.1.types ∧ Shallow e.2.types) := by
    obtain ⟨hkey, hvalue⟩ := countable_append.mp (hcount.of_mem he)
    exact decides_pair (decides_value hfits.of_append.1 hkey)
      (decides_value hfits.of_append.2 hvalue)
  refine (decides_readList hwrite hfits entry).congr ?_
  rw [shallow_flatMap]
  exact forall₂_congr fun _ _ => shallow_append.symm

/-- A property bag is read back, with its entries in order. -/
lemma reads_properties {entries : TextMap}
    (hfits : Fits (writeList (writePair writeText writeText) entries.entries)) :
    Reads (readList (readPair readText readText) >>= fun entries => pure (.ofList entries))
      (writeList (writePair writeText writeText) entries.entries) entries := by
  have hwrite (entry : String × String) : writePair writeText writeText entry ≠ [] := by
    simp [writePair, writeText, writeLength, littleEndian]
  have entry (e : String × String) (_ : e ∈ entries.entries)
      (hfits : Fits (writePair writeText writeText e)) :
      Decides (readPair readText readText) (writePair writeText writeText e) e True := by
    have key := (reads_text hfits.of_append.1).decides trivial
    have value := (reads_text hfits.of_append.2).decides trivial
    exact (decides_pair key value).congr (by simp)
  have read := ((decides_readList hwrite hfits entry).reads fun _ _ => trivial).map TextMap.ofList
  rwa [TextMap.ofList_entries] at read

/-- An object is read back unless the types in it are too deep. -/
lemma decides_object {object : Object} (hfits : Fits (writeObject object))
    (hcount : Countable object.types) :
    Decides readObject (writeObject object) object (Shallow object.types) := by
  cases object with
  | array component elements =>
    simp only [writeObject, List.append_assoc] at hfits ⊢
    obtain ⟨htype, hvalues⟩ := hfits.of_append.2.of_append
    obtain ⟨hcomponent, helements⟩ := countable_cons.mp hcount
    have content : Decides (readType >>= fun type => readList readValue >>= fun elements =>
        pure (.array type elements)) _ (Object.array component elements) _ :=
      (decides_type htype hcomponent).bind ((decides_values hvalues helements).map _)
    exact ((reads_variant (by decide)).then content).congr shallow_cons.symm
  | collection className elements =>
    simp only [writeObject, List.append_assoc] at hfits ⊢
    obtain ⟨hname, hvalues⟩ := hfits.of_append.2.of_append
    have content : Decides (readText >>= fun name => readList readValue >>= fun elements =>
        pure (.collection name elements)) _ (Object.collection className elements) _ :=
      (reads_text hname).then ((decides_values hvalues hcount).map _)
    exact (reads_variant (by decide)).then content
  | properties entries =>
    have content : Reads (readList (readPair readText readText) >>= fun entries =>
        pure (.properties (.ofList entries)))
        (writeList (writePair writeText writeText) entries.entries)
        (Object.properties entries) := by
      have read := (reads_properties hfits.of_append.2).map Object.properties
      simpa only [bind_assoc, pure_bind] using read
    exact (reads_variant (by decide)).then (content.decides shallow_nil)
  | map className entries =>
    simp only [writeObject, List.append_assoc] at hfits ⊢
    obtain ⟨hname, hentries⟩ := hfits.of_append.2.of_append
    have content : Decides (readText >>= fun name =>
        readList (readPair readValue readValue) >>= fun entries => pure (.map name entries)) _
        (Object.map className entries) _ :=
      (reads_text hname).then ((decides_entries hentries hcount).map _)
    exact (reads_variant (by decide)).then content
  | struct s =>
    exact (reads_variant (by decide)).then
      ((decides_struct hfits.of_append.2 hcount).map Object.struct)

/-- An object is written in at least one byte. -/
lemma writeObject_ne_nil (object : Object) : writeObject object ≠ [] := by
  cases object <;> simp [writeObject, writeVariant, littleEndian]

/-- A heap is read back unless the types in it are too deep. -/
lemma decides_heap {heap : Heap} (hfits : Fits (writeHeap heap)) (hcount : Countable heap.types) :
    Decides readHeap (writeHeap heap) heap (Shallow heap.types) := by
  have read := (decides_readList writeObject_ne_nil hfits fun _ ho hfits =>
    decides_object hfits (hcount.of_mem ho)).map fun objects => Heap.mk objects.toArray
  exact read.congr shallow_flatMap.symm

/-- An argument list is read back unless the types in it are too deep. -/
theorem decides_arguments {a : Arguments} (hfits : Fits (writeArguments a))
    (hcount : Countable a.types) :
    Decides readArguments (writeArguments a) a (Shallow a.types) := by
  obtain ⟨hheap, hvalues⟩ := countable_append.mp hcount
  have read : Decides readArguments (writeArguments a) a _ :=
    (decides_heap hfits.of_append.1 hheap).bind
      ((decides_values hfits.of_append.2 hvalues).map (Arguments.mk a.heap))
  exact read.congr shallow_append.symm

/-- A payload is read back unless the types in it are too deep. -/
theorem decides_payload {p : Payload} (hfits : Fits (writePayload p)) (hcount : Countable p.types) :
    Decides readPayload (writePayload p) p (Shallow p.types) := by
  obtain ⟨hheap, hvalue⟩ := countable_append.mp hcount
  have read : Decides readPayload (writePayload p) p _ :=
    (decides_heap hfits.of_append.1 hheap).bind
      ((decides_value hfits.of_append.2 hvalue).map (Payload.mk p.heap))
  exact read.congr shallow_append.symm

end CallReplay.Wire
