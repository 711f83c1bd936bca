import CallReplay.Json.Artifact
import CallReplay.Proofs.Json.Records
import CallReplay.Proofs.Json.Spelling
import CallReplay.Proofs.Wire.Graph

/-!
# Reading what was written

What the program writes as JSON it reads back, part by part: `Yields` relates a reader, a written
value and what is read from it, and is closed under everything that readers are put together with.
It holds for all parts of a value graph whose types have at most 255 dimensions and whose values are
not floating point, and for all options and artifacts.
-/

namespace CallReplay

/-- Whether a scalar is a floating point number. -/
def Scalar.isFloating : Scalar → Bool
  | .float _ | .double _ => true
  | _ => false

/-- Whether a value is a floating point number. -/
def Value.isFloating : Value → Bool
  | .scalar s => s.isFloating
  | _ => false

end CallReplay

namespace CallReplay.Json

open Decimal (Numeral)

/-- What is written can be printed, and its tree is read as a value. -/
structure Yields {α : Type} (read : Reader α) (j : Json) (a : α) : Prop where
  printable : Printable j
  reads : read (source j) = .ok a

/-! ### Trees of written values -/

/-- The sources of values are those of each. -/
lemma sources_eq_map (es : List Json) : sources es = es.map source := by
  induction es with
  | nil => rfl
  | cons e es ih => rw [sources, ih, List.map_cons]

/-- The sources of members are those of each, under the names of the members. -/
lemma memberSources_eq_map (ms : List (String × Json)) :
    memberSources ms = (ms.map fun m => (m.1, source m.2)).map fun m => (some m.1, m.2) := by
  induction ms with
  | nil => rfl
  | cons m ms ih => rw [memberSources, ih]; rfl

mutual

/-- The tree of a value is JSON all through. -/
lemma isWhole_source : ∀ j : Json, (source j).isWhole = true
  | .null | .bool _ | .number _ | .text _ => rfl
  | .list es => by rw [source, Source.isWhole, areWhole_sources es]; rfl
  | .object ms => by rw [source, Source.isWhole, membersWhole_memberSources ms]; rfl

/-- What is written for values is JSON. -/
lemma areWhole_sources : ∀ es : List Json, areWhole (sources es) = true
  | [] => rfl
  | e :: es => by rw [sources, areWhole, isWhole_source e, areWhole_sources es]; rfl

/-- What is written for members is JSON. -/
lemma membersWhole_memberSources :
    ∀ ms : List (String × Json), membersWhole (memberSources ms) = true
  | [] => rfl
  | (_, v) :: ms => by
      rw [memberSources, membersWhole, isWhole_source v, membersWhole_memberSources ms]; rfl

end

section

variable {α β : Type} {read : Reader α} {j : Json} {a : α}

/-! ### Simple values -/

/-- A text is read back. -/
lemma yields_text (s : String) : Yields readString (.text s) s := ⟨.text s, rfl⟩

/-- A truth value is read back. -/
lemma yields_bool (b : Bool) : Yields readBool (.bool b) b := ⟨.bool b, rfl⟩

/-- A character is read back. -/
lemma yields_char (c : Char) : Yields readChar (.text (String.singleton c)) c := by
  refine ⟨.text _, ?_⟩
  simp only [source, readChar, readString, bind, Except.bind, String.toList_singleton]
  rfl

/-- An integer that fits 64 bits is read back from its digits. -/
lemma toInteger?_ofInt {i : Int} (least : -(2 ^ 63 : Int) ≤ i) (greatest : i < 2 ^ 64) :
    toInteger? (Numeral.ofInt i) = some i := by
  have size := Literal.natOfDigits_toDigits i.natAbs
  by_cases sign : i < 0
  · have bounds : 0 < i.natAbs ∧ i.natAbs ≤ 0x8000000000000000 := by omega
    simp only [toInteger?, Numeral.ofInt, Numeral.isInteger, List.isEmpty_nil, Option.isNone_none,
      Bool.and_self, if_true, sign, decide_true, size, if_pos bounds, Option.some.injEq]
    omega
  · have bound : i.natAbs < 0x10000000000000000 := by omega
    simp only [toInteger?, Numeral.ofInt, Numeral.isInteger, List.isEmpty_nil, Option.isNone_none,
      Bool.and_self, if_true, sign, decide_false, Bool.false_eq_true, if_false, size, if_pos bound,
      Option.some.injEq]
    omega

/-- An integer is read back within any bounds that 64 bits allow. -/
lemma yields_integer {least greatest i : Int} (fits : -(2 ^ 63 : Int) ≤ least ∧ greatest < 2 ^ 64)
    (inside : least ≤ i ∧ i ≤ greatest) : Yields (readInteger least greatest) (int i) i := by
  refine ⟨.number (proper_ofInt i), ?_⟩
  simp only [int, source, readInteger, toInteger?_ofInt (le_trans fits.1 inside.1)
    (lt_of_le_of_lt inside.2 fits.2), if_pos inside]

/-- What is read from a written value is changed afterwards. -/
lemma Yields.map (h : Yields read j a) (f : α → β) : Yields (fun s => (read s).map f) j (f a) :=
  ⟨h.printable, map_eq_ok_iff.mpr ⟨a, h.reads, rfl⟩⟩

/-- A natural number is read back if it has no more bits than are read. -/
lemma yields_unsigned {bits n : Nat} (narrow : bits ≤ 64) (fits : n < 2 ^ bits) :
    Yields (readUnsignedBits bits) (nat n) n := by
  have wide : 2 ^ bits ≤ 2 ^ 64 := Nat.pow_le_pow_right (by decide) narrow
  have inside : (0 : Int) ≤ n ∧ (n : Int) ≤ (Nat.pow 2 bits - 1 : Nat) := by
    change _ ∧ (n : Int) ≤ (2 ^ bits - 1 : Nat)
    omega
  have number : nat n = int n := rfl
  rw [number]
  refine (yields_integer ⟨by decide, ?_⟩ inside).map Int.toNat
  change ((2 ^ bits - 1 : Nat) : Int) < _
  omega

/-- An integer is read back if it has no more bits than are read. -/
lemma yields_signed {bits : Nat} {i : Int} (narrow : 0 < bits ∧ bits ≤ 64)
    (least : -(2 ^ (bits - 1) : Int) ≤ i) (greatest : i < 2 ^ (bits - 1)) :
    Yields (readSignedBits bits) (int i) i := by
  have wide : 2 ^ (bits - 1) ≤ 2 ^ 63 := Nat.pow_le_pow_right (by decide) (by omega)
  have positive : 0 < 2 ^ (bits - 1) := Nat.two_pow_pos _
  have cast : ((2 ^ (bits - 1) : Nat) : Int) = 2 ^ (bits - 1) := by norm_cast
  have bound : Nat.pow 2 (bits - 1) = 2 ^ (bits - 1) := rfl
  rw [← cast] at least greatest
  refine yields_integer ?_ ?_ <;> (rw [bound]; omega)

/-- A number of 32 bits is read back. -/
lemma yields_uint32 (n : UInt32) : Yields readUInt32 (nat n.toNat) n := by
  have h := (yields_unsigned (by decide) n.toNat_lt).map UInt32.ofNat
  rwa [UInt32.ofNat_toNat] at h

/-! ### Lists, pairs and maps -/

/-- Values are read back if each of them is. -/
lemma readAll_sources {write : α → Json} {values : List α}
    (h : ∀ a ∈ values, Yields read (write a) a) :
    readAll read (sources (values.map write)) = .ok values := by
  induction values with
  | nil => rfl
  | cons a values ih =>
    have first := (h a List.mem_cons_self).reads
    have rest := ih fun a ha => h a (List.mem_cons_of_mem _ ha)
    simp only [List.map_cons, sources, readAll, first, rest]
    rfl

/-- A list is read back if each of its elements is. -/
lemma Yields.list {write : α → Json} {values : List α} (h : ∀ a ∈ values, Yields read (write a) a) :
    Yields (readList read) (listOf write values) values := by
  refine ⟨.list fun e he => ?_, ?_⟩
  · obtain ⟨a, ha, rfl⟩ := List.mem_map.mp he
    exact (h a ha).printable
  · simp only [listOf, source, readList, readAll_sources h]
    rfl

/-- A pair is read back if both of its parts are. -/
lemma Yields.pair {other : Reader β} {k : Json} {b : β} (first : Yields read j a)
    (second : Yields other k b) :
    Yields (readPair read other) (.list [j, k]) (a, b) := by
  refine ⟨.list fun e he => ?_, ?_⟩
  · simp only [List.mem_cons, List.not_mem_nil, or_false] at he
    obtain rfl | rfl := he
    exacts [first.printable, second.printable]
  · simp only [source, sources, readPair, first.reads, second.reads]
    rfl

/-- Members whose values are texts are read back in their order. -/
lemma readMemberList_memberSources (entries : List (String × String)) :
    readMemberList readString (memberSources (entries.map fun e => (e.1, .text e.2))) =
    .ok entries := by
  induction entries with
  | nil => rfl
  | cons entry entries ih =>
    simp only [List.map_cons, memberSources, source, readMemberList, readString, ih]
    rfl

/-- The entries of a map are read in order, and a map is what its own entries make. -/
lemma yields_textMap (m : TextMap) : Yields readTextMap (ofTextMap m) m := by
  refine ⟨.object fun e he => ?_, ?_⟩
  · obtain ⟨entry, -, rfl⟩ := List.mem_map.mp he
    exact .text _
  · refine map_eq_ok_iff.mpr ⟨m.entries, ?_, TextMap.ofList_entries m⟩
    simp only [ofTextMap, source, readObject, readMemberList_memberSources]
    rfl

/-! ### Cases -/

/-- A case without content is read from its name. -/
lemma yields_alone {pick : String → Option (Variant α)} {name : String}
    (known : pick name = some (.alone a)) :
    Yields (readVariant pick) (.text name) a :=
  ⟨.text name, by simp only [source, readVariant, known]⟩

/-- A case with content is read from its only member. -/
lemma Yields.tagged {pick : String → Option (Variant α)} {name : String} (h : Yields read j a)
    (known : pick name = some (.content read)) : Yields (readVariant pick) (tagged name j) a := by
  refine ⟨.object fun m hm => ?_, ?_⟩
  · rw [List.mem_singleton] at hm
    subst hm
    exact h.printable
  · simp only [Json.tagged, source, memberSources, readVariant, known, Variant.readContent, h.reads]
    rfl

/-- An object that is read as a value is read as such where the value may be missing. -/
lemma Yields.option {ms : List (String × Json)} (h : Yields read (.object ms) a) :
    Yields (readOption read) (.object ms) (some a) :=
  ⟨h.printable, map_eq_ok_iff.mpr ⟨a, h.reads, rfl⟩⟩

end

/-! ### Records -/

/-- The members, the last one first, that a record is written with: one for each field, except that
a field may be left out if what stands in for it is its value. -/
inductive Fields.Written : {α : Type} → Fields α → List (String × Json) → α → Prop
  | ready {α : Type} (value : α) : Written (.ready value) [] value
  | given {α β : Type} {earlier : Fields (β → α)} {make : β → α} {name : String} {read : Reader β}
      {absent short : Option β} {ms : List (String × Json)} {j : Json} {b : β}
      (before : Written earlier ms make) (yields : Yields read j b) :
      Written (.awaited earlier name read absent short) ((name, j) :: ms) (make b)
  | left {α β : Type} {earlier : Fields (β → α)} {make : β → α} {name : String} {read : Reader β}
      {short : Option β} {ms : List (String × Json)} {b : β} (before : Written earlier ms make) :
      Written (.awaited earlier name read (some b) short) ms (make b)

namespace Fields.Written

variable {α : Type} {fields : Fields α} {ms : List (String × Json)} {a : α}

/-- The values of the members that a record is written with can be printed. -/
lemma printable (h : Written fields ms a) : ∀ m ∈ ms, Printable m.2 := by
  induction h with
  | ready value => exact List.forall_mem_nil _
  | given before yields ih => exact List.forall_mem_cons.mpr ⟨yields.printable, ih⟩
  | left before ih => exact ih

/-- Every member has the name of a field. -/
lemma mem_names (h : Written fields ms a) : ∀ m ∈ ms, m.1 ∈ fields.names := by
  induction h with
  | ready value => exact List.forall_mem_nil _
  | given before yields ih =>
    exact List.forall_mem_cons.mpr
      ⟨List.mem_cons_self, fun m hm => List.mem_cons_of_mem _ (ih m hm)⟩
  | left before ih => exact fun m hm => List.mem_cons_of_mem _ (ih m hm)

/-- What stands in an object under a name, behind what stands under it in front. -/
lemma parts_append (front back : List (Option String × Source)) (closed : Bool) (position : Nat)
    (name : String) :
    (Source.object (front ++ back) closed).parts position name =
      (Source.object front closed).parts position name ++
        (Source.object back closed).parts position name :=
  List.filterMap_append

/-- Nothing stands under a name that no field has. -/
lemma parts_eq_nil (h : Written fields ms a) {name : String} (other : name ∉ fields.names)
    (position : Nat) :
    (Source.object (ms.map fun m => (some m.1, source m.2)).reverse true).parts position name =
    [] := by
  refine List.filterMap_eq_nil_iff.mpr fun m hm => if_neg fun same => ?_
  obtain ⟨member, hmember, rfl⟩ := List.mem_map.mp (List.mem_reverse.mp hm)
  obtain rfl : member.1 = name := Option.some.inj same
  exact other (h.mem_names member hmember)

/-- The tree of the members is read as the record. -/
lemma reads (h : Written fields ms a) (distinct : fields.names.Nodup) :
    Reads (.object (ms.map fun m => (some m.1, source m.2)).reverse true) fields a := by
  induction h with
  | ready value => exact .ready value
  | @given _ _ earlier make name read absent short ms j b before yields ih =>
    obtain ⟨other, distinct⟩ := List.nodup_cons.mp distinct
    rw [List.map_cons, List.reverse_cons]
    refine .given ((ih distinct).congr (fun position key hkey => ?_) fun _ _ => rfl) ?_ yields.reads
    · have differs : some name ≠ some key := by
        rintro ⟨⟩
        exact other hkey
      rw [parts_append]
      simp [Source.parts, differs]
    · rw [parts_append, before.parts_eq_nil other]
      simp [Source.parts]
  | left before ih =>
    obtain ⟨other, distinct⟩ := List.nodup_cons.mp distinct
    exact .missing (ih distinct) (before.parts_eq_nil other _) rfl

end Fields.Written

/-- A record is read back from the object that it is written as. -/
lemma Yields.record {α : Type} {fields : Fields α} {ms : List (String × Json)} {a : α}
    (distinct : fields.names.Nodup) (h : fields.Written ms.reverse a) :
    Yields fields.read (.object ms) a := by
  refine ⟨.object fun m hm => h.printable m (List.mem_reverse.mpr hm), ?_⟩
  have reads := h.reads distinct
  have members : (ms.reverse.map fun m => (some m.1, source m.2)).reverse =
      (ms.map fun m => (m.1, source m.2)).map fun m => (some m.1, m.2) := by
    rw [List.map_reverse, List.reverse_reverse, List.map_map]
    rfl
  rw [members] at reads
  rw [source, memberSources_eq_map]
  refine Fields.read_of_reads distinct (fun m hm => ?_) reads
  obtain ⟨member, -, rfl⟩ := List.mem_map.mp hm
  exact isWhole_source member.2

/-! ### Value graphs -/

open Wire (Shallow shallow_cons shallow_append shallow_flatMap)

/-- A primitive type is read back. -/
lemma yields_primitive (kind : Primitive) : Yields readPrimitive (ofPrimitive kind) kind :=
  yields_alone (by rw [Primitive.ofName?_name]; rfl)

/-- An element type is read back. -/
lemma yields_elementType (e : ElementType) : Yields readElementType (ofElementType e) e := by
  cases e with
  | primitive kind => exact ((yields_primitive kind).map ElementType.primitive).tagged rfl
  | named name => exact ((yields_text name).map ElementType.named).tagged rfl

/-- The flat form of a type is read back. -/
lemma yields_flatType (flat : FlatType) : Yields flatTypeFields.read
    (.object [("element", ofElementType flat.element), ("dimensions", nat flat.dimensions.toNat)])
    flat := by
  obtain ⟨element, dimensions⟩ := flat
  exact .record (by decide)
    (.given (.given (.ready _) (yields_elementType element)) (yields_uint32 dimensions))

/-- A type with at most 255 dimensions is read back from its flat form. -/
lemma yields_type {t : TypeDesc} (few : t.dimensions ≤ maxDimensions) :
    Yields readType (ofType t) t := by
  have flat := yields_flatType t.flatten
  refine ⟨flat.printable, ?_⟩
  have countable : t.dimensions < 2 ^ 32 := Nat.lt_of_le_of_lt few (by decide)
  have reads : flatTypeFields.read (source (ofType t)) = .ok t.flatten := flat.reads
  simp only [readType, reads, bind, Except.bind, TypeDesc.ofFlat_flatten countable, if_pos few]
  rfl

/-- The id of an object is read back. -/
lemma yields_id (id : ObjectId) : Yields readId (ofId id) id :=
  (yields_uint32 id.index).map ObjectId.mk

/-- A scalar is read back unless it is a floating point number, which may be rounded when
it is read. -/
lemma yields_scalar {s : Scalar} (exact : s.isFloating = false) :
    Yields readValue (ofScalar s) (.scalar s) := by
  cases s with
  | bool b => exact ((yields_bool b).map fun b => Value.scalar (.bool b)).tagged rfl
  | char c => exact ((yields_char c).map fun c => Value.scalar (.char c)).tagged rfl
  | byte n =>
    have h := (@yields_signed 8 _ (by decide) n.le_toInt n.toInt_lt).map fun i => Value.scalar
      (.byte (Int8.ofInt i))
    rw [Int8.ofInt_toInt] at h
    exact h.tagged rfl
  | short n =>
    have h := (@yields_signed 16 _ (by decide) n.le_toInt n.toInt_lt).map fun i => Value.scalar
      (.short (Int16.ofInt i))
    rw [Int16.ofInt_toInt] at h
    exact h.tagged rfl
  | int n =>
    have h := (@yields_signed 32 _ (by decide) n.le_toInt n.toInt_lt).map fun i => Value.scalar
      (.int (Int32.ofInt i))
    rw [Int32.ofInt_toInt] at h
    exact h.tagged rfl
  | long n =>
    have h := (@yields_signed 64 _ (by decide) n.le_toInt n.toInt_lt).map fun i => Value.scalar
      (.long (Int64.ofInt i))
    rw [Int64.ofInt_toInt] at h
    exact h.tagged rfl
  | float bits => cases exact
  | double bits => cases exact
  | text t => exact ((yields_text t).map fun t => Value.scalar (.text t)).tagged rfl

/-- A value is read back unless it is a floating point number. -/
lemma yields_value {v : Value} (shallow : Shallow v.types) (exact : v.isFloating = false) :
    Yields readValue (ofValue v) v := by
  cases v with
  | null => exact yields_alone rfl
  | scalar s => exact yields_scalar exact
  | classOf t => exact ((yields_type (shallow_cons.mp shallow).1).map Value.classOf).tagged rfl
  | ref id => exact ((yields_id id).map Value.ref).tagged rfl

/-- The modifiers of a field are read back. -/
lemma yields_modifiers (m : Modifiers) : Yields modifiersFields.read (ofModifiers m) m := by
  obtain ⟨constant, processWide, transient⟩ := m
  exact .record (by decide)
    (.given (.given (.given (.ready _) (yields_bool constant)) (yields_bool processWide))
      (yields_bool transient))

/-- The content of a field is read back. -/
lemma yields_slot {slot : Slot} (shallow : Shallow slot.types)
    (exact : ∀ v, slot.value? = some v → v.isFloating = false) :
    Yields readSlot (ofSlot slot) slot := by
  cases slot with
  | value v => exact ((yields_value shallow (exact v rfl)).map Slot.value).tagged rfl
  | inaccessible => exact yields_alone rfl

/-- A field is read back. -/
lemma yields_field {f : Field} (shallow : Shallow f.types)
    (exact : ∀ v, f.slot.value? = some v → v.isFloating = false) :
    Yields fieldFields.read (ofField f) f := by
  obtain ⟨name, declared, modifiers, serializable, slot⟩ := f
  obtain ⟨few, shallow⟩ := shallow_cons.mp shallow
  exact .record (by decide)
    (.given (.given (.given (.given (.given (.ready _) (yields_text name)) (yields_type few))
      (yields_modifiers modifiers)) (yields_bool serializable)) (yields_slot shallow exact))

/-- An object with fields is read back. -/
lemma yields_struct {s : Struct} (shallow : Shallow (s.fields.flatMap Field.types))
    (exact : ∀ v ∈ (Object.struct s).values, v.isFloating = false) :
    Yields structFields.read (ofStruct s) s := by
  obtain ⟨className, hasDefaultConstructor, isRemote, fields⟩ := s
  have yields : ∀ f ∈ fields, Yields fieldFields.read (ofField f) f := fun f hf =>
    yields_field (shallow_flatMap.mp shallow f hf) fun v hv => exact v
      (List.mem_filterMap.mpr ⟨f, hf, hv⟩)
  exact .record (by decide) (.given (.given (.given (.given (.ready _) (yields_text className))
    (yields_bool hasDefaultConstructor)) (yields_bool isRemote)) (.list yields))

/-- Values are read back in their order. -/
lemma yields_values {values : List Value} (shallow : Shallow (values.flatMap Value.types))
    (exact : ∀ v ∈ values, v.isFloating = false) :
    Yields (readList readValue) (listOf ofValue values) values :=
  .list fun v hv => yields_value (shallow_flatMap.mp shallow v hv) (exact v hv)

/-- The entries of a map are read back in their order. -/
lemma yields_entries {entries : List (Value × Value)}
    (shallow : Shallow (entries.flatMap fun e => e.1.types ++ e.2.types))
    (exact : ∀ v ∈ entries.flatMap fun e => [e.1, e.2], v.isFloating = false) :
    Yields (readList (readPair readValue readValue)) (listOf ofEntry entries) entries := by
  refine .list fun e he => ?_
  obtain ⟨key, value⟩ := shallow_append.mp (shallow_flatMap.mp shallow e he)
  have among : ∀ v ∈ [e.1, e.2], v.isFloating = false :=
    fun v hv => exact v (List.mem_flatMap.mpr ⟨e, he, hv⟩)
  exact .pair (yields_value key (among e.1 List.mem_cons_self))
    (yields_value value (among e.2 (List.mem_cons_of_mem _ List.mem_cons_self)))

/-- An object of a heap is read back, whatever its shape is. -/
lemma yields_object {object : Object} (shallow : Shallow object.types)
    (exact : ∀ v ∈ object.values, v.isFloating = false) :
    Yields readHeapObject (ofObject object) object := by
  cases object with
  | array component elements =>
    obtain ⟨few, shallow⟩ := shallow_cons.mp shallow
    have content : Yields arrayFields.read
        (.object [("component", ofType component), ("elements", listOf ofValue elements)])
        (.array component elements) :=
      .record (by decide)
        (.given (.given (.ready _) (yields_type few)) (yields_values shallow exact))
    exact content.tagged rfl
  | collection className elements =>
    have content : Yields collectionFields.read
        (.object [("class", .text className), ("elements", listOf ofValue elements)])
        (.collection className elements) :=
      .record (by decide)
        (.given (.given (.ready _) (yields_text className)) (yields_values shallow exact))
    exact content.tagged rfl
  | properties entries => exact ((yields_textMap entries).map Object.properties).tagged rfl
  | map className entries =>
    have content : Yields mapFields.read
        (.object [("class", .text className), ("entries", listOf ofEntry entries)])
        (.map className entries) :=
      .record (by decide)
        (.given (.given (.ready _) (yields_text className)) (yields_entries shallow exact))
    exact content.tagged rfl
  | struct s => exact ((yields_struct shallow exact).map Object.struct).tagged rfl

/-- A heap is read back with each object under its id. -/
lemma yields_heap {h : Heap} (shallow : Shallow h.types)
    (exact : ∀ v ∈ h.values, v.isFloating = false) :
    Yields heapFields.read (ofHeap h) h := by
  obtain ⟨objects⟩ := h
  have yields : ∀ o ∈ objects.toList, Yields readHeapObject (ofObject o) o := fun o ho =>
    yields_object (shallow_flatMap.mp shallow o ho) fun v hv => exact v
      (List.mem_flatMap.mpr ⟨o, ho, hv⟩)
  have content : heapFields.Written [("objects", listOf ofObject objects.toList)] ⟨objects⟩ :=
    .given (.ready _) (.list yields)
  exact .record (by decide) content

/-- The arguments of a call are read back. -/
lemma yields_arguments {a : Arguments} (shallow : Shallow a.types)
    (exact : ∀ v ∈ a.heap.values ++ a.values, v.isFloating = false) :
    Yields argumentsFields.read (ofArguments a) a := by
  obtain ⟨heap, values⟩ := a
  obtain ⟨inHeap, inValues⟩ := shallow_append.mp shallow
  obtain ⟨exactHeap, exactValues⟩ := List.forall_mem_append.mp exact
  exact .record (by decide) (.given (.given (.ready _) (yields_heap inHeap exactHeap))
    (yields_values inValues exactValues))

/-- A payload is read back. -/
lemma yields_payload {p : Payload} (shallow : Shallow p.types)
    (exact : ∀ v ∈ p.heap.values ++ [p.value], v.isFloating = false) :
    Yields payloadFields.read (ofPayload p) p := by
  obtain ⟨heap, value⟩ := p
  obtain ⟨inHeap, inValue⟩ := shallow_append.mp shallow
  obtain ⟨exactHeap, exactValue⟩ := List.forall_mem_append.mp exact
  exact .record (by decide) (.given (.given (.ready _) (yields_heap inHeap exactHeap))
    (yields_value inValue (exactValue value List.mem_cons_self)))

/-- The outcome of a call is read back. -/
lemma yields_outcome {o : Outcome} (shallow : Shallow o.payload.types)
    (exact : ∀ v ∈ o.payload.heap.values ++ [o.payload.value], v.isFloating = false) :
    Yields readOutcome (ofOutcome o) o := by
  cases o with
  | returned p => exact ((yields_payload shallow exact).map Outcome.returned).tagged rfl
  | thrown p => exact ((yields_payload shallow exact).map Outcome.thrown).tagged rfl

/-- The key of a method is read back. -/
lemma yields_signature (s : Signature) : Yields signatureFields.read (ofSignature s) s := by
  obtain ⟨full, parameters⟩ := s
  exact .record (by decide) (.given (.given (.ready _) (yields_text full)) (yields_text parameters))

/-! ### Options and artifacts -/

/-- The options of the compiler are read back if 64 bits are enough for the depth. -/
lemma yields_scriptOptions {o : Script.Options} (deep : o.maxDepth < 2 ^ 64) :
    Yields scriptOptionsFields.read (ofScriptOptions o) o := by
  obtain ⟨bypassHelper, separator, maxDepth⟩ := o
  exact .record (by decide)
    (.given (.given (.given (.ready _) (yields_text bypassHelper)) (yields_text separator))
      (yields_unsigned (by decide) deep))

/-- The options of the recorder are read back if 64 bits are enough for the depth. -/
lemma yields_recorderOptions {o : RecorderOptions} (deep : o.script.maxDepth < 2 ^ 64) :
    Yields recorderOptionsFields.read (ofRecorderOptions o) o := by
  obtain ⟨script, nameFormat, registryClass, registryVariable, previousResult⟩ := o
  exact .record (by decide)
    (.given (.given (.given (.given (.given (.ready _) (yields_scriptOptions deep))
      (yields_text nameFormat)) (yields_text registryClass)) (yields_text registryVariable))
      (yields_text previousResult))

/-- The id of an artifact is read back. -/
lemma yields_artifactId (id : ArtifactId) : Yields readArtifactId (ofArtifactId id) id :=
  (yields_text id.text).map ArtifactId.mk

/-- A sampler is read back. -/
lemma yields_sampler (s : Sampler) : Yields samplerFields.read (ofSampler s) s := by
  obtain ⟨id, name, target, method, argumentsScript⟩ := s
  exact .record (by decide)
    (.given (.given (.given (.given (.given (.ready _) (yields_artifactId id))
      (yields_text name)) (yields_text target)) (yields_text method)) (yields_text argumentsScript))

/-- A post-processor is read back. -/
lemma yields_postProcessor (p : PostProcessor) :
    Yields postProcessorFields.read (ofPostProcessor p) p := by
  obtain ⟨id, name, script, resetInterpreter, runsAfter⟩ := p
  exact .record (by decide)
    (.given (.given (.given (.given (.given (.ready _) (yields_artifactId id))
      (yields_text name)) (yields_text script)) (yields_bool resetInterpreter))
      (yields_artifactId runsAfter))

/-- The summary of an artifact is read back. -/
lemma yields_summary (s : ArtifactSummary) : Yields summaryFields.read (ofSummary s) s := by
  obtain ⟨id, name, callIndex, target, method, hasPostProcessor⟩ := s
  exact .record (by decide)
    (.given (.given (.given (.given (.given (.given (.ready _) (yields_artifactId id))
      (yields_text name)) (yields_uint32 callIndex)) (yields_text target)) (yields_text method))
    (yields_bool hasPostProcessor))

/-- A post-processor that is left out is read as none. -/
lemma yields_storedArtifact (a : StoredArtifact) :
    Yields storedArtifactFields.read (ofStoredArtifact a) a := by
  obtain ⟨callIndex, signature, sampler, postProcessor⟩ := a
  cases postProcessor with
  | none =>
    exact .record (by decide) (.left (.given (.given (.given (.ready _) (yields_uint32 callIndex))
      (yields_text signature)) (yields_sampler sampler)))
  | some p =>
    exact .record (by decide) (.given (.given (.given (.given (.ready _) (yields_uint32 callIndex))
      (yields_text signature)) (yields_sampler sampler)) (yields_postProcessor p).option)

end CallReplay.Json
