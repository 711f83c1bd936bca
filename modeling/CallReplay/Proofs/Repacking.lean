import CallReplay.Proofs.Framing

/-!
# Packing records that were unpacked

A value that was read from bytes is written in no more bytes (`Wire.Takes`): numbers have their
width, texts are read from their own bytes, and a key that comes twice in a property bag is written
once. So the parts of a record that was unpacked fit into a frame again, whatever else the bytes of
its graphs have held.
-/

namespace CallReplay

namespace Wire

/-- Reading a value takes at least so many bytes. -/
def Takes {ε α : Type} (read : StateT (List UInt8) (Except ε) α) (size : α → Nat) : Prop :=
  ∀ bytes a rest, read.run bytes = .ok (a, rest) → size a + rest.length ≤ bytes.length

section

variable {ε α β : Type} {x : StateT (List UInt8) (Except ε) α}
  {f : α → StateT (List UInt8) (Except ε) β} {m size : α → Nat}

/-- Nothing is read for a value of no size. -/
lemma takes_pure {a : α} (h : size a = 0) :
    Takes (pure a : StateT (List UInt8) (Except ε) α) size := by
  intro bytes b rest hb
  cases hb
  rw [h, Nat.zero_add]

/-- Nothing comes of a reader that fails. -/
lemma takes_throw (e : ε) : Takes (throw e : StateT (List UInt8) (Except ε) α) size := by
  intro bytes b rest hb
  cases hb

/-- The second of two readers has to take what the first does not. -/
lemma Takes.bind {size : β → Nat} (hx : Takes x m) (hf : ∀ a, Takes (f a) fun b => size b - m a) :
    Takes (x >>= f) size := by
  intro bytes b rest hb
  obtain ⟨a, left, hfirst, hsecond⟩ := run_bind_eq_ok_iff.mp hb
  have first := hx _ _ _ hfirst
  have second := hf a _ _ _ hsecond
  dsimp only at second
  omega

/-- What is made of a value may be smaller than the value. -/
lemma Takes.map {size : β → Nat} (hx : Takes x m) (g : α → β) (h : ∀ a, size (g a) ≤ m a) :
    Takes (x >>= fun a => pure (g a)) size :=
  hx.bind fun a => takes_pure (Nat.sub_eq_zero_of_le (h a))

end

section

variable {α : Type} {write : α → List UInt8} {read : Decoder α}

/-- Bytes that are taken are as many as are taken. -/
lemma takes_takeBytes (error : DecodeError) (count : Nat) :
    Takes (takeBytes error count) List.length := by
  intro bytes taken rest h
  change takeBytes error count bytes = _ at h
  rw [takeBytes, splitBytes?_eq] at h
  split at h
  next hsplit =>
    split at hsplit
    next hcount =>
      cases hsplit
      cases h
      rw [← List.length_append, List.take_append_drop]
    next => cases hsplit
  next => cases h

/-- A number is read from as many bytes as its width says. -/
lemma takes_nat (width : Nat) : Takes (readNat width) fun _ => width := by
  intro bytes n rest h
  obtain ⟨taken, left, htaken, hn⟩ := run_bind_eq_ok_iff.mp h
  cases hn
  change takeBytes .endOfInput width bytes = _ at htaken
  rw [takeBytes, splitBytes?_eq] at htaken
  split at htaken
  next hsplit =>
    split at hsplit
    next hcount =>
      cases hsplit
      cases htaken
      rw [List.length_drop]
      exact (Nat.add_sub_of_le hcount).le
    next => cases hsplit
  next => cases htaken

/-- A byte is read from a byte. -/
lemma takes_byte : Takes readByte fun _ => 1 := (takes_nat 1).map UInt8.ofNat fun _ => Nat.le_refl 1

/-- A number of 32 bits is read from four bytes. -/
lemma takes_uInt32 : Takes readUInt32 fun _ => 4 :=
  (takes_nat 4).map UInt32.ofNat fun _ => Nat.le_refl 4

/-- A number of 64 bits is read from eight bytes. -/
lemma takes_uInt64 : Takes readUInt64 fun _ => 8 :=
  (takes_nat 8).map UInt64.ofNat fun _ => Nat.le_refl 8

/-- A truth value is read from a byte. -/
lemma takes_bool : Takes readBool fun _ => 1 := by
  refine takes_byte.bind fun b => ?_
  split
  · exact takes_pure rfl
  · split
    · exact takes_pure rfl
    · exact takes_throw _

/-- A truth value is written in a byte. -/
@[simp] lemma length_writeBool (b : Bool) : (writeBool b).length = 1 := rfl

/-- A number of 32 bits is written in four bytes. -/
@[simp] lemma length_writeUInt32 (n : UInt32) : (writeUInt32 n).length = 4 :=
  length_littleEndian 4 _

/-- A number of 64 bits is written in eight bytes. -/
@[simp] lemma length_writeUInt64 (n : UInt64) : (writeUInt64 n).length = 8 :=
  length_littleEndian 8 _

/-- The number of a case is written in four bytes. -/
@[simp] lemma length_writeVariant (number : Nat) : (writeVariant number).length = 4 :=
  length_littleEndian 4 _

/-- A length is written in eight bytes. -/
@[simp] lemma length_writeLength (n : Nat) : (writeLength n).length = 8 := length_littleEndian 8 _

/-- A text is read from at least as many bytes as it is written in. -/
lemma takes_text : Takes readText fun s => (writeText s).length := by
  refine (takes_nat 8).bind fun length => (takes_takeBytes _ length).bind fun bytes => ?_
  split
  next s hs =>
    have hlength := Text.Utf8.length_encode_le_of_decode hs
    refine takes_pure ?_
    simp only [writeText, List.length_append, length_writeLength]
    omega
  next => exact takes_throw _

/-- A character is read from at least as many bytes as it is written in. -/
lemma takes_char : Takes readChar fun c => (writeChar c).length := by
  intro bytes c rest h
  change readChar bytes = _ at h
  cases bytes with
  | nil => cases h
  | cons lead tail =>
    rw [readChar] at h
    split at h
    next c length hhead =>
      cases h
      obtain ⟨hc, hone, hlength⟩ := Text.Utf8.length_encodeChar_le_of_head hhead
      simp only [writeChar, List.length_drop, List.length_cons]
      omega
    next => cases h

/-- Nothing comes of a number that no case has. -/
lemma takes_unknownVariant {size : α → Nat} (found : UInt32) (count : Nat) :
    Takes (unknownVariant found count : Decoder α) size :=
  takes_throw _

/-- Values one behind the other are read from at least as many bytes as they are written in. -/
lemma takes_readMany (h : Takes read fun a => (write a).length) (count : Nat) :
    Takes (readMany read count) fun values => (writeAll write values).length := by
  induction count with
  | zero => exact takes_pure rfl
  | succ count ih =>
    refine h.bind fun value => ih.map (value :: ·) fun rest => ?_
    simp [writeAll]

/-- A list is read from at least as many bytes as it is written in. -/
lemma takes_readList (h : Takes read fun a => (write a).length) :
    Takes (readList read) fun values => (writeList write values).length := by
  intro bytes values rest hvalues
  obtain ⟨length, left, hlength, hmany⟩ := run_bind_eq_ok_iff.mp hvalues
  have first : 8 + left.length ≤ bytes.length := takes_nat 8 _ _ _ hlength
  have second : (writeAll write values).length + rest.length ≤ left.length :=
    takes_readMany h length _ _ _ hmany
  simp only [writeList, List.length_append, length_writeLength]
  omega

/-- A pair is read from at least as many bytes as it is written in. -/
lemma takes_pair {β : Type} {second : β → List UInt8} {y : Decoder β}
    (hx : Takes read fun a => (write a).length) (hy : Takes y fun b => (second b).length) :
    Takes (readPair read y) fun p => (writePair write second p).length := by
  refine hx.bind fun a => hy.map (fun b => (a, b)) fun b => ?_
  simp [writePair]

end

/-- A primitive type is read from at least as many bytes as it is written in. -/
lemma takes_primitive : Takes readPrimitive fun kind => (writePrimitive kind).length := by
  refine takes_uInt32.bind fun number => ?_
  split
  · exact takes_pure (by simp [writePrimitive])
  · exact takes_unknownVariant _ _

/-- An element type is read from at least as many bytes as it is written in. -/
lemma takes_elementType : Takes readElementType fun e => (writeElementType e).length := by
  refine takes_uInt32.bind fun number => ?_
  split
  · exact takes_primitive.map _ fun kind => by simp [writeElementType]
  · exact takes_text.map _ fun name => by simp [writeElementType]
  · exact takes_unknownVariant _ _

/-- A type is read from at least as many bytes as it is written in. -/
lemma takes_type : Takes readType fun t => (writeType t).length := by
  refine takes_elementType.bind fun element => takes_uInt32.bind fun dimensions => ?_
  split
  next t ht =>
    unfold TypeDesc.ofFlat at ht
    split at ht
    · cases ht
    · cases ht
      refine takes_pure ?_
      simp [writeType, TypeDesc.flatten_eq, TypeDesc.element_wrap, ElementType.element_toType]
  next => exact takes_throw _

/-- The id of an object is read from at least as many bytes as it is written in. -/
lemma takes_id : Takes readId fun id => (writeId id).length :=
  takes_uInt32.map ObjectId.mk fun _ => by simp [writeId]

/-- A value is read from at least as many bytes as it is written in. -/
lemma takes_value : Takes readValue fun v => (writeValue v).length := by
  refine takes_uInt32.bind fun number => ?_
  split
  · exact takes_pure (by simp [writeValue])
  · exact takes_bool.map _ fun b => by simp [writeValue]
  · exact takes_char.map _ fun c => by simp [writeValue]
  · exact (takes_nat 1).map _ fun n => by simp [writeValue, length_littleEndian]
  · exact (takes_nat 2).map _ fun n => by simp [writeValue, length_littleEndian]
  · exact (takes_nat 4).map _ fun n => by simp [writeValue, length_littleEndian]
  · exact (takes_nat 8).map _ fun n => by simp [writeValue, length_littleEndian]
  · exact takes_uInt32.map _ fun bits => by simp [writeValue]
  · exact takes_uInt64.map _ fun bits => by simp [writeValue]
  · exact takes_text.map _ fun s => by simp [writeValue]
  · exact takes_type.map _ fun t => by simp [writeValue]
  · exact takes_id.map _ fun id => by simp [writeValue]
  · exact takes_unknownVariant _ _

/-- The content of a field is read from at least as many bytes as it is written in. -/
lemma takes_slot : Takes readSlot fun slot => (writeSlot slot).length := by
  refine takes_uInt32.bind fun number => ?_
  split
  · exact takes_value.map _ fun v => by simp [writeSlot]
  · exact takes_pure (by simp [writeSlot])
  · exact takes_unknownVariant _ _

/-- The modifiers of a field are read from at least as many bytes as they are written in. -/
lemma takes_modifiers : Takes readModifiers fun m => (writeModifiers m).length :=
  takes_bool.bind fun _ => takes_bool.bind fun _ => takes_bool.map _ fun _ => by
  simp [writeModifiers]

/-- A field is read from at least as many bytes as it is written in. -/
lemma takes_field : Takes readField fun f => (writeField f).length := by
  refine takes_text.bind fun name => takes_type.bind fun declared =>
    takes_modifiers.bind fun modifiers =>
    takes_bool.bind fun serializable => takes_slot.map _ fun slot => ?_
  simp only [writeField, List.length_append, length_writeBool]
  omega

/-- An object with fields is read from at least as many bytes as it is written in. -/
lemma takes_struct : Takes readStruct fun s => (writeStruct s).length := by
  refine takes_text.bind fun name => takes_bool.bind fun hasDefaultConstructor =>
    takes_bool.bind fun isRemote =>
    (takes_readList takes_field).map _ fun fields => ?_
  simp only [writeStruct, List.length_append, length_writeBool]
  omega

/-- An entry of a property bag takes no more bytes than when it was put in. -/
lemma length_writeAll_put_le (write : String × String → List UInt8) (key value : String)
    (entries : List (String × String)) :
    (writeAll write (TextMap.put key value entries)).length ≤
      (writeAll write entries).length + (write (key, value)).length := by
  induction entries with
  | nil => simp [TextMap.put, writeAll]
  | cons entry rest ih =>
    obtain ⟨k, v⟩ := entry
    rw [TextMap.put]
    simp only [writeAll] at ih ⊢
    split
    next same =>
      cases same
      simp only [List.flatMap_cons, List.length_append]
      omega
    next =>
      simp only [List.flatMap_cons, List.length_append]
      omega

/-- A repeated key makes a property bag shorter than the entries that were put in. -/
lemma length_writeAll_ofList_le (write : String × String → List UInt8)
    (entries : List (String × String)) :
    (writeAll write (TextMap.ofList entries).entries).length ≤ (writeAll write entries).length := by
  have more :
    ∀ m : TextMap, (writeAll write (entries.foldl (fun m e => m.insert e.1 e.2) m).entries).length ≤
      (writeAll write m.entries).length + (writeAll write entries).length := by
    induction entries with
    | nil => exact fun m => Nat.le_refl _
    | cons entry rest ih =>
      intro m
      have first : (writeAll write (m.insert entry.1 entry.2).entries).length ≤
          (writeAll write m.entries).length + (write entry).length :=
        length_writeAll_put_le write entry.1 entry.2 m.entries
      have others := ih (m.insert entry.1 entry.2)
      simp only [writeAll, List.flatMap_cons, List.length_append, List.foldl_cons] at first others ⊢
      omega
  have all := more .empty
  rwa [show writeAll write TextMap.empty.entries = [] from rfl, List.length_nil, Nat.zero_add]
    at all

/-- An object is read from at least as many bytes as it is written in. A property bag may be written
in fewer, since it has each of its keys once. -/
lemma takes_object : Takes readObject fun object => (writeObject object).length := by
  have values := takes_readList takes_value
  refine takes_uInt32.bind fun number => ?_
  split
  · refine takes_type.bind fun component => values.map _ fun elements => ?_
    simp only [writeObject, List.length_append, length_writeVariant]
    omega
  · refine takes_text.bind fun name => values.map _ fun elements => ?_
    simp only [writeObject, List.length_append, length_writeVariant]
    omega
  · refine (takes_readList (takes_pair takes_text takes_text)).map _ fun entries => ?_
    have shorter := length_writeAll_ofList_le (writePair writeText writeText) entries
    simp only [writeObject, writeList, List.length_append, length_writeVariant, length_writeLength]
    omega
  · refine takes_text.bind fun name =>
      (takes_readList (takes_pair takes_value takes_value)).map _ fun entries => ?_
    simp only [writeObject, List.length_append, length_writeVariant]
    omega
  · exact takes_struct.map _ fun s => by simp [writeObject]
  · exact takes_unknownVariant _ _

/-- A heap is read from at least as many bytes as it is written in. -/
lemma takes_heap : Takes readHeap fun heap => (writeHeap heap).length :=
  (takes_readList takes_object).map _ fun objects => by simp [writeHeap]

/-- A payload is written in no more bytes than it was read from. -/
theorem takes_payload : Takes readPayload fun p => (writePayload p).length := by
  refine takes_heap.bind fun heap => takes_value.map _ fun value => ?_
  simp [writePayload]

end Wire

/-- A payload that was unpacked is packed to no more bytes. -/
lemma Payload.length_le_of_unpack {bytes : List UInt8} {p : Payload} (h : unpack bytes = .ok p) :
    (Wire.writePayload p).length ≤ bytes.length := by
  unfold Payload.unpack at h
  split at h
  · cases h
  next hdecode =>
    split at h
    · cases h
    · cases h
      obtain ⟨⟨p', rest⟩, hread, rfl⟩ := map_eq_ok_iff.mp hdecode
      exact (Nat.le_add_right _ _).trans (Wire.takes_payload _ _ _ hread)

namespace Frame

/-- A name is written in no more bytes than it was read from. -/
lemma length_encode_le_of_decodeName {bytes : List UInt8} {name : String}
    (h : decodeName bytes = .ok name) :
    (Text.Utf8.encode name).length ≤ bytes.length := by
  unfold decodeName at h
  split at h
  next hdecode =>
    cases h
    exact Text.Utf8.length_encode_le_of_decode hdecode
  next => cases h

/-- The payload in what a frame holds is the one that was read, returned or thrown. -/
lemma outcome_content (name : String) (packed : List UInt8) (isThrown : Bool) (payload : Payload) :
    (content name packed isThrown payload).outcome.payload = payload := by
  cases isThrown <;> rfl

end Frame

namespace CallRecord

/-- A record that was unpacked can be packed. -/
theorem pack_of_unpack {bytes : List UInt8} {r : CallRecord} (h : unpack bytes = .ok r) :
    ∃ packed, r.pack = .ok packed := by
  obtain ⟨found, hparts⟩ := readParts_of_unpack h
  obtain ⟨p, name, isThrown, payload, fit, _, hname, _, hpayload, rfl⟩ :=
    Frame.parts_of_run_readParts hparts
  rw [unpack_of_readParts hparts] at h
  obtain ⟨arguments, _, rfl⟩ := map_eq_ok_iff.mp h
  refine ⟨_, pack_eq_ok_iff.mpr ⟨_, rfl, ⟨?_, fit.packedArguments, ?_⟩, rfl⟩⟩
  · exact Nat.lt_of_le_of_lt (Frame.length_encode_le_of_decodeName hname) fit.method
  · rw [Frame.outcome_content]
    exact Nat.lt_of_le_of_lt (Payload.length_le_of_unpack hpayload) fit.payload

end CallRecord

end CallReplay
