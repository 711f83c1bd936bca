import CallReplay.Proofs.Framing

/-!
# Bytes behind the value of a block

A frame ends where its lengths say, and what follows it is too much. Its two blocks are not
held to that: a value is read from the start of its block, no reader looks at what stands
behind the bytes that it takes (`Wire.Leaves`), and what it hands on is dropped. So a block may
go on behind its value for as long as its length can be written, and the frame stands for the
same call (`unpack_surplus`).
-/

namespace CallReplay

namespace Wire

/-- Whatever is read is read in the same way with more bytes behind it, which are handed on. -/
def Leaves {ε α : Type} (read : StateT (List UInt8) (Except ε) α) : Prop :=
  ∀ bytes a rest more, read.run bytes = .ok (a, rest) →
  read.run (bytes ++ more) = .ok (a, rest ++ more)

section

variable {ε α β : Type} {x : StateT (List UInt8) (Except ε) α}
  {f : α → StateT (List UInt8) (Except ε) β}

/-- A value does not depend on the bytes. -/
lemma leaves_pure (a : α) : Leaves (pure a : StateT (List UInt8) (Except ε) α) := by
  intro bytes b rest more h
  cases h
  rfl

/-- Nothing is read by a reader that fails. -/
lemma leaves_throw (e : ε) : Leaves (throw e : StateT (List UInt8) (Except ε) α) := by
  intro bytes b rest more h
  cases h

/-- The second of two readers finds the further bytes where the first hands them on. -/
lemma Leaves.bind (hx : Leaves x) (hf : ∀ a, Leaves (f a)) : Leaves (x >>= f) := by
  intro bytes b rest more h
  obtain ⟨a, left, hfirst, hnext⟩ := run_bind_eq_ok_iff.mp h
  exact run_bind_eq_ok_iff.mpr ⟨a, left ++ more, hx _ _ _ more hfirst, hf a _ _ _ more hnext⟩

/-- What is made of a value does not depend on the bytes behind it. -/
lemma Leaves.map (hx : Leaves x) (g : α → β) : Leaves (x >>= fun a => pure (g a)) :=
  hx.bind fun a => leaves_pure (g a)

end

section

variable {α β : Type} {read : Decoder α} {other : Decoder β}

/-- Bytes are taken whatever comes behind them. -/
lemma leaves_takeBytes (error : DecodeError) (count : Nat) : Leaves (takeBytes error count) := by
  intro bytes taken rest more h
  change takeBytes error count bytes = _ at h
  change takeBytes error count (bytes ++ more) = _
  rw [takeBytes, splitBytes?_eq] at h ⊢
  by_cases enough : count ≤ bytes.length
  · rw [if_pos enough] at h
    cases h
    rw [if_pos (by rw [List.length_append]; omega), List.take_append_of_le_length enough,
      List.drop_append_of_le_length enough]
  · rw [if_neg enough] at h
    cases h

/-- A number is read whatever comes behind it. -/
lemma leaves_nat (width : Nat) : Leaves (readNat width) := (leaves_takeBytes _ width).map _

/-- A byte is read whatever comes behind it. -/
lemma leaves_byte : Leaves readByte := (leaves_nat 1).map _

/-- A number of 32 bits is read whatever comes behind it. -/
lemma leaves_uInt32 : Leaves readUInt32 := (leaves_nat 4).map _

/-- A number of 64 bits is read whatever comes behind it. -/
lemma leaves_uInt64 : Leaves readUInt64 := (leaves_nat 8).map _

/-- A truth value is read whatever comes behind it. -/
lemma leaves_bool : Leaves readBool := by
  refine leaves_byte.bind fun b => ?_
  split
  · exact leaves_pure false
  · split
    · exact leaves_pure true
    · exact leaves_throw _

/-- A text is read whatever comes behind it. -/
lemma leaves_text : Leaves readText := by
  refine (leaves_nat 8).bind fun length => (leaves_takeBytes _ length).bind fun bytes => ?_
  split
  · exact leaves_pure _
  · exact leaves_throw _

/-- A character is read whatever comes behind it. -/
lemma leaves_char : Leaves readChar := by
  intro bytes c rest more h
  change readChar bytes = _ at h
  cases bytes with
  | nil => cases h
  | cons lead tail =>
    rw [readChar] at h
    split at h
    next c length hhead =>
      cases h
      have enough := (Text.Utf8.length_encodeChar_le_of_head hhead).2.2
      change readChar (lead :: (tail ++ more)) = _
      rw [readChar, Text.Utf8.head_append hhead, ← List.drop_append_of_le_length (by omega)]
    next => cases h

/-- A number that no case has is refused whatever comes behind it. -/
lemma leaves_unknownVariant (found : UInt32) (count : Nat) :
    Leaves (unknownVariant found count : Decoder α) :=
  leaves_throw _

/-- Values are read whatever comes behind them. -/
lemma leaves_readMany (h : Leaves read) (count : Nat) : Leaves (readMany read count) := by
  induction count with
  | zero => exact leaves_pure []
  | succ count ih => exact h.bind fun value => ih.map (value :: ·)

/-- A list is read whatever comes behind it. -/
lemma leaves_readList (h : Leaves read) : Leaves (readList read) :=
  (leaves_nat 8).bind (leaves_readMany h)

/-- A pair is read whatever comes behind it. -/
lemma leaves_pair (hx : Leaves read) (hy : Leaves other) : Leaves (readPair read other) :=
  hx.bind fun a => hy.map fun b => (a, b)

/-- A value is decoded from the start of bytes, so that it does not matter what
stands behind them. -/
lemma decode_append (h : Leaves read) {bytes : List UInt8} {a : α}
    (hdecode : decode read bytes = .ok a) (more : List UInt8) :
    decode read (bytes ++ more) = .ok a := by
  obtain ⟨⟨found, rest⟩, hread, rfl⟩ := map_eq_ok_iff.mp hdecode
  exact map_eq_ok_iff.mpr ⟨(found, rest ++ more), h _ _ _ more hread, rfl⟩

end

/-- A primitive type is read whatever comes behind it. -/
lemma leaves_primitive : Leaves readPrimitive := by
  refine leaves_uInt32.bind fun number => ?_
  split
  · exact leaves_pure _
  · exact leaves_unknownVariant _ _

/-- An element type is read whatever comes behind it. -/
lemma leaves_elementType : Leaves readElementType := by
  refine leaves_uInt32.bind fun number => ?_
  split
  · exact leaves_primitive.map _
  · exact leaves_text.map _
  · exact leaves_unknownVariant _ _

/-- A type is read whatever comes behind it. -/
lemma leaves_type : Leaves readType := by
  refine leaves_elementType.bind fun element => leaves_uInt32.bind fun dimensions => ?_
  split
  · exact leaves_pure _
  · exact leaves_throw _

/-- A value is read whatever comes behind it. -/
lemma leaves_value : Leaves readValue := by
  refine leaves_uInt32.bind fun number => ?_
  split
  · exact leaves_pure _
  · exact leaves_bool.map _
  · exact leaves_char.map _
  · exact (leaves_nat 1).map _
  · exact (leaves_nat 2).map _
  · exact (leaves_nat 4).map _
  · exact (leaves_nat 8).map _
  · exact leaves_uInt32.map _
  · exact leaves_uInt64.map _
  · exact leaves_text.map _
  · exact leaves_type.map _
  · exact (leaves_uInt32.map ObjectId.mk).map _
  · exact leaves_unknownVariant _ _

/-- The content of a field is read whatever comes behind it. -/
lemma leaves_slot : Leaves readSlot := by
  refine leaves_uInt32.bind fun number => ?_
  split
  · exact leaves_value.map _
  · exact leaves_pure _
  · exact leaves_unknownVariant _ _

/-- The modifiers of a field are read whatever comes behind them. -/
lemma leaves_modifiers : Leaves readModifiers :=
  leaves_bool.bind fun _ => leaves_bool.bind fun _ => leaves_bool.map _

/-- A field is read whatever comes behind it. -/
lemma leaves_field : Leaves readField :=
  leaves_text.bind fun _ => leaves_type.bind fun _ => leaves_modifiers.bind fun _ =>
    leaves_bool.bind fun _ => leaves_slot.map _

/-- An object with fields is read whatever comes behind it. -/
lemma leaves_struct : Leaves readStruct :=
  leaves_text.bind fun _ => leaves_bool.bind fun _ => leaves_bool.bind fun _ =>
  (leaves_readList leaves_field).map _

/-- An object is read whatever comes behind it. -/
lemma leaves_object : Leaves readObject := by
  have values := leaves_readList leaves_value
  have entries := leaves_readList (leaves_pair leaves_value leaves_value)
  refine leaves_uInt32.bind fun number => ?_
  split
  · exact leaves_type.bind fun _ => values.map _
  · exact leaves_text.bind fun _ => values.map _
  · exact (leaves_readList (leaves_pair leaves_text leaves_text)).map _
  · exact leaves_text.bind fun _ => entries.map _
  · exact leaves_struct.map _
  · exact leaves_unknownVariant _ _

/-- A heap is read whatever comes behind it. -/
lemma leaves_heap : Leaves readHeap := (leaves_readList leaves_object).map _

/-- Arguments are read up to their own end. -/
theorem leaves_arguments : Leaves readArguments :=
  leaves_heap.bind fun _ => (leaves_readList leaves_value).map _

/-- A payload is read up to its own end. -/
theorem leaves_payload : Leaves readPayload := leaves_heap.bind fun _ => leaves_value.map _

end Wire

/-- A block that arguments are unpacked from may go on behind them. -/
lemma Arguments.unpack_append {bytes : List UInt8} {a : Arguments} (h : unpack bytes = .ok a)
    (more : List UInt8) : unpack (bytes ++ more) = .ok a := by
  cases bytes with
  | nil => cases h
  | cons version body =>
    rw [unpack] at h
    split at h
    next known =>
      split at h
      · cases h
      next found hdecode =>
        rw [List.cons_append, unpack, if_pos known,
          Wire.decode_append Wire.leaves_arguments hdecode]
        exact h
    · cases h

/-- A block that a payload is unpacked from may go on behind it. -/
lemma Payload.unpack_append {bytes : List UInt8} {p : Payload} (h : unpack bytes = .ok p)
    (more : List UInt8) :
    unpack (bytes ++ more) = .ok p := by
  unfold unpack at h ⊢
  split at h
  · cases h
  next found hdecode =>
    rw [Wire.decode_append Wire.leaves_payload hdecode]
    exact h

namespace CallRecord

open CallReplay.Frame (Parts Spoilt content decodeName decodeDiscriminant)

variable {p : Parts} {r : CallRecord} {bytes more : List UInt8}

/-- A frame is unpacked to what its parts are decoded to. -/
lemma unpack_bytes_eq_ok_iff (fit : p.Fit) : unpack p.bytes = .ok r ↔
    ∃ name isThrown payload arguments, decodeName p.method = .ok name ∧
      decodeDiscriminant [p.discriminant] = .ok isThrown ∧ Payload.unpack p.payload = .ok payload ∧
      Arguments.unpack p.packedArguments = .ok arguments ∧
      r = ofContent (content name p.packedArguments isThrown payload) arguments := by
  constructor
  · intro h
    have unspoilt : ∀ e, ¬Spoilt p.bytes e := fun e spoilt => by
      cases (unpack_of_spoilt spoilt).1.symm.trans h
    cases hname : decodeName p.method with
    | error e => exact absurd (.method fit p.toMethod_isPrefix hname) (unspoilt e)
    | ok name =>
      cases hdiscriminant : decodeDiscriminant [p.discriminant] with
      | error e =>
        exact absurd (.discriminant fit p.toDiscriminant_isPrefix hname hdiscriminant) (unspoilt e)
      | ok isThrown =>
        cases hpayload : Payload.unpack p.payload with
        | error e =>
          exact absurd (.payload fit p.toPayload_isPrefix hname hdiscriminant hpayload) (unspoilt e)
        | ok payload =>
          have read := (Frame.reads_bytes fit hname hdiscriminant hpayload).run_eq
          rw [unpack_of_readParts read] at h
          obtain ⟨arguments, harguments, rfl⟩ := map_eq_ok_iff.mp h
          exact ⟨name, isThrown, payload, arguments, rfl, rfl, rfl, harguments, rfl⟩
  · rintro ⟨name, isThrown, payload, arguments, hname, hdiscriminant, hpayload, harguments, rfl⟩
    rw [unpack_of_readParts (Frame.reads_bytes fit hname hdiscriminant hpayload).run_eq]
    exact map_eq_ok_iff.mpr ⟨arguments, harguments, rfl⟩

/-- Bytes that a record is unpacked from are a frame, and the frame stands for the same call if
bytes are put in at the end of one of its blocks and the length of the block is raised accordingly,
as long as it can be written: the record keeps those behind the arguments with the packed arguments,
and nothing is left of those behind the payload. -/
theorem unpack_surplus (h : unpack bytes = .ok r) :
    (∃ p : Parts, p.Fit ∧ bytes = p.bytes) ∧
      ∀ p : Parts, p.Fit → bytes = p.bytes → ∀ more : List UInt8,
        (p.packedArguments.length + more.length < 256 ^ 4 →
          unpack (Parts.bytes { p with packedArguments := p.packedArguments ++ more }) =
            .ok { r with packedArguments := r.packedArguments ++ more }) ∧
        (p.payload.length + more.length < 256 ^ 4 →
          unpack (Parts.bytes { p with payload := p.payload ++ more }) = .ok r) := by
  constructor
  · obtain ⟨found, hparts⟩ := readParts_of_unpack h
    obtain ⟨p, _, _, _, fit, hbytes, _⟩ := Frame.parts_of_run_readParts hparts
    rw [List.append_nil] at hbytes
    exact ⟨p, fit, hbytes⟩
  · rintro p fit rfl more
    obtain ⟨name, isThrown, payload, arguments, hname, hdiscriminant, hpayload, harguments, rfl⟩ :=
      (unpack_bytes_eq_ok_iff fit).mp h
    constructor
    · intro short
      have longer : Parts.Fit { p with packedArguments := p.packedArguments ++ more } :=
        { fit with packedArguments := by rwa [List.length_append] }
      exact (unpack_bytes_eq_ok_iff longer).mpr
        ⟨name, isThrown, payload, arguments, hname, hdiscriminant, hpayload,
        Arguments.unpack_append harguments more, rfl⟩
    · intro short
      have longer : Parts.Fit { p with payload := p.payload ++ more } :=
        { fit with payload := by rwa [List.length_append] }
      exact (unpack_bytes_eq_ok_iff longer).mpr
        ⟨name, isThrown, payload, arguments, hname, hdiscriminant,
        Payload.unpack_append hpayload more, harguments, rfl⟩

/-- The parts of the frame of a call without arguments that has returned a number. -/
def countedParts : Parts :=
  Frame.partsOf "count" (Arguments.pack ⟨.empty, []⟩) (.returned ⟨.empty, .scalar (.int 7)⟩)

/-- The parts fit their lengths. -/
lemma fit_countedParts : countedParts.Fit := ⟨by cbv, by cbv, by cbv⟩

/-- Three bytes behind the arguments of the call and two behind its payload do not matter. -/
theorem unpack_surplus_counted : ∃ r, unpack countedParts.bytes = .ok r ∧
    unpack (Parts.bytes
      { countedParts with packedArguments := countedParts.packedArguments ++ [0, 3, 0xFF] }) =
      .ok { r with packedArguments := r.packedArguments ++ [0, 3, 0xFF] } ∧
    unpack (Parts.bytes { countedParts with payload := countedParts.payload ++ [0xFF, 0] }) =
      .ok r := by
  have unpacked : unpack countedParts.bytes = .ok countedCall := by cbv
  obtain ⟨_, surplus⟩ := unpack_surplus unpacked
  exact ⟨_, unpacked, (surplus _ fit_countedParts rfl [0, 3, 0xFF]).1 (by cbv),
    (surplus _ fit_countedParts rfl [0xFF, 0]).2 (by cbv)⟩

/-- A byte at the end of either block is not noticed. -/
theorem unpack_surplus_accepted : ∃ (p : Parts) (more : List UInt8), p.Fit ∧ more ≠ [] ∧
    (∃ r, unpack p.bytes = .ok r) ∧
    (∃ r, unpack (Parts.bytes { p with packedArguments := p.packedArguments ++ more }) = .ok r) ∧
    ∃ r, unpack (Parts.bytes { p with payload := p.payload ++ more }) = .ok r := by
  refine ⟨countedParts, [0xFF], fit_countedParts, List.cons_ne_nil _ _, ⟨countedCall, by cbv⟩,
    ⟨{ countedCall with packedArguments := countedCall.packedArguments ++ [0xFF] }, by cbv⟩,
    ⟨countedCall, by cbv⟩⟩

end CallRecord

end CallReplay
