import CallReplay.Frame
import CallReplay.Proofs.Except
import CallReplay.Proofs.Wire.Graph

/-!
# Reading frames that were written

The parts of a frame are read back one after another, and some are decoded as soon as they have been
taken (`thenDecode`). What remains to decide whether a packed record is read back are its two
blocks: the frame around them is always found whole, so nothing that is wrong with a block is taken
for a fault of the frame.
-/

namespace CallReplay.Frame

open Wire (Reads Refuses reads_pure run_bind_eq_ok_iff run_bind_eq_error_iff)

/-- A number is written in as many bytes as its width says. -/
lemma length_bigEndian (width n : Nat) : (bigEndian width n).length = width := by
  rw [bigEndian, List.length_reverse, Wire.length_littleEndian]

/-- A number that its width can hold is read back from its bytes, the highest first. -/
lemma ofBigEndian_bigEndian {width n : Nat} (h : n < 256 ^ width) :
    ofBigEndian (bigEndian width n) = n := by
  rw [ofBigEndian, bigEndian, List.reverse_reverse, Wire.ofLittleEndian_littleEndian h]

/-- Bytes are taken as they are. -/
lemma reads_take (part : FramePart) (bytes : List UInt8) :
    Reads (take part bytes.length) bytes bytes := by
  intro rest
  change take part bytes.length (bytes ++ rest) = _
  rw [take, Wire.splitBytes?_append]

/-- Bytes after their length, which has a width of its own. -/
def sized (width : Nat) (bytes : List UInt8) : List UInt8 := bigEndian width bytes.length ++ bytes

/-- Bytes after their length are read back. -/
lemma reads_sized {part : FramePart} {width : Nat} {bytes : List UInt8}
    (h : bytes.length < 256 ^ width) :
    Reads (readSized part width) (sized width bytes) bytes := by
  have length : Reads (take part width) (bigEndian width bytes.length)
      (bigEndian width bytes.length) := by
    have taken := reads_take part (bigEndian width bytes.length)
    rwa [length_bigEndian] at taken
  apply length.bind
  rw [ofBigEndian_bigEndian h]
  exact reads_take part bytes

/-- A tag is read back. -/
lemma reads_tag (t : Tag) : Reads (expectTag t) (writeTag t) () := by
  have hlength : (tagBytes t).length < 256 ^ 2 := by cases t <;> decide
  rw [← List.append_nil (writeTag t)]
  apply (reads_sized hlength).bind
  rw [if_pos rfl]
  exact reads_pure ()

/-- Takes bytes and decodes them at once. -/
def thenDecode {α : Type} (x : Reader (List UInt8)) (decode : List UInt8 → Except RecordError α) :
    Reader α := do
  let block ← x
  match decode block with
  | .ok a => pure a
  | .error e => throw e

section

variable {α : Type} {x : Reader (List UInt8)} {decode : List UInt8 → Except RecordError α}
  {bytes rest block : List UInt8} {a : α} {e : RecordError}

/-- A part is read if it is taken and then decoded. -/
lemma run_thenDecode_eq_ok_iff :
    (thenDecode x decode).run bytes = .ok (a, rest) ↔
      ∃ block, x.run bytes = .ok (block, rest) ∧ decode block = .ok a := by
  rw [thenDecode, run_bind_eq_ok_iff]
  constructor
  · rintro ⟨block, left, hblock, hdecode⟩
    split at hdecode
    · rename_i ok
      cases hdecode
      exact ⟨block, hblock, ok⟩
    · cases hdecode
  · rintro ⟨block, hblock, hdecode⟩
    exact ⟨block, rest, hblock, by rw [hdecode]; rfl⟩

/-- A part is not read if it cannot be taken or cannot be decoded. -/
lemma run_thenDecode_eq_error_iff :
    (thenDecode x decode).run bytes = .error e ↔
      x.run bytes = .error e ∨ ∃ block rest, x.run bytes = .ok (block, rest) ∧
      decode block = .error e := by
  rw [thenDecode, run_bind_eq_error_iff]
  refine or_congr_right ⟨?_, ?_⟩
  · rintro ⟨block, left, hblock, hdecode⟩
    split at hdecode
    · cases hdecode
    · rename_i error
      cases hdecode
      exact ⟨block, left, hblock, error⟩
  · rintro ⟨block, rest, hblock, hdecode⟩
    exact ⟨block, rest, hblock, by rw [hdecode]; rfl⟩

/-- Bytes that are taken and can be decoded are read. -/
lemma reads_thenDecode (hx : Reads x bytes block) (h : decode block = .ok a) :
    Reads (thenDecode x decode) bytes a :=
  fun rest => run_thenDecode_eq_ok_iff.mpr ⟨block, hx rest, h⟩

/-- Bytes that are taken and cannot be decoded are refused. -/
lemma refuses_thenDecode (hx : Reads x bytes block) (h : decode block = .error e) :
    Refuses (thenDecode x decode) bytes e :=
  fun rest => run_thenDecode_eq_error_iff.mpr (.inr ⟨block, rest, hx rest, h⟩)

end

/-- The method name that bytes stand for. -/
def decodeName (bytes : List UInt8) : Except RecordError String :=
  match Text.Utf8.decode bytes with
  | .ok name => .ok name
  | .error cause => .error (.methodName cause)

/-- How the call ended, as a byte tells it: whether with a failure. -/
def decodeDiscriminant : List UInt8 → Except RecordError Bool
  | [0] => .ok false
  | [1] => .ok true
  | other => .error (.discriminant (other.headD 0))

/-- The name is taken after its length and decoded. -/
lemma readName_eq : readName = thenDecode (readSized .methodName 2) decodeName := by
  refine bind_congr fun bytes => ?_
  unfold decodeName
  cases Text.Utf8.decode bytes <;> rfl

/-- The discriminant is a byte that is decoded. -/
lemma readDiscriminant_eq :
    readDiscriminant = thenDecode (take .discriminant 1) decodeDiscriminant := by
  refine bind_congr fun bytes => ?_
  split
  · rfl
  · rfl
  · rename_i h0 h1
    rw [decodeDiscriminant.eq_3 _ h0 h1]

/-- The payload is taken after its length and decoded. -/
lemma readPayload_eq : readPayload = thenDecode (readSized .payload 4) Payload.unpack := by
  refine bind_congr fun block => ?_
  cases Payload.unpack block <;> rfl

/-- The bytes of a frame. -/
def assemble (method : String) (packedArguments : List UInt8) (outcome : Outcome) : List UInt8 :=
  writeTag .header ++ sized 2 (Text.Utf8.encode method) ++ sized 4 packedArguments ++
    writeTag .separator ++ [discriminant outcome] ++ sized 4 (Wire.writePayload outcome.payload) ++
    writeTag .trailer

/-- Reads a frame up to its last tag. -/
def readParts : Reader Content := do
  expectTag .header
  let method ← readName
  let packedArguments ← readSized .packedArguments 4
  expectTag .separator
  let isThrown ← readDiscriminant
  let payload ← readPayload
  expectTag .trailer
  pure ⟨method, packedArguments, if isThrown then .thrown payload else .returned payload⟩

/-- Reading a frame is reading its parts and checking that nothing follows. -/
lemma readContent_eq : readContent = (do
    let content ← readParts
    expectEnd
    pure content) := by
  simp only [readContent, readParts, bind_assoc, pure_bind]

section

variable {bytes rest : List UInt8} {found : Content} {e : RecordError}

/-- A frame is read whole if nothing follows its parts. -/
lemma run_readContent_of_ok (h : readParts.run bytes = .ok (found, rest)) :
    readContent.run bytes = if rest = [] then .ok (found, [])
    else .error (.trailingBytes rest.length) := by
  rw [readContent_eq, StateT.run_bind, h]
  cases rest <;> rfl

/-- A frame is refused for the first fault in its parts. -/
lemma run_readContent_of_error (h : readParts.run bytes = .error e) :
    readContent.run bytes = .error e := by
  rw [readContent_eq, StateT.run_bind, h]
  rfl

end

/-- Writing bytes after their length in 16 bits succeeds if their number fits. -/
lemma writeShort_eq_ok_iff {bytes out : List UInt8} :
    writeShort bytes = .ok out ↔ bytes.length < 0x10000 ∧ out = sized 2 bytes := by
  unfold writeShort
  split
  · rename_i h
    simp [h, sized, eq_comm]
  · rename_i h
    simp only [h, false_and, reduceCtorEq]

/-- Writing bytes after their length in 32 bits succeeds if their number fits. -/
lemma writeBlock_eq_ok_iff {bytes out : List UInt8} :
    writeBlock bytes = .ok out ↔ bytes.length < 0x100000000 ∧ out = sized 4 bytes := by
  unfold writeBlock
  split
  · rename_i h
    simp [h, sized, eq_comm]
  · rename_i h
    simp only [h, false_and, reduceCtorEq]

/-- The parts that stand between the tags of a frame, none of them decoded. -/
structure Parts where
  method : List UInt8
  packedArguments : List UInt8
  discriminant : UInt8
  payload : List UInt8

namespace Parts

/-- The lengths of the parts can be written. -/
structure Fit (p : Parts) : Prop where
  method : p.method.length < 256 ^ 2
  packedArguments : p.packedArguments.length < 256 ^ 4
  payload : p.payload.length < 256 ^ 4

/-- A frame as far as its method name. -/
def toMethod (p : Parts) : List UInt8 := writeTag .header ++ sized 2 p.method

/-- A frame as far as the byte that tells how the call ended. -/
def toDiscriminant (p : Parts) : List UInt8 :=
  p.toMethod ++ sized 4 p.packedArguments ++ writeTag .separator ++ [p.discriminant]

/-- A frame as far as its outcome. -/
def toPayload (p : Parts) : List UInt8 := p.toDiscriminant ++ sized 4 p.payload

/-- The whole frame. -/
def bytes (p : Parts) : List UInt8 := p.toPayload ++ writeTag .trailer

/-- A frame starts with its bytes up to the payload. -/
lemma toPayload_isPrefix (p : Parts) : p.toPayload <+: p.bytes := List.prefix_append _ _

/-- A frame starts with its bytes up to the discriminant. -/
lemma toDiscriminant_isPrefix (p : Parts) : p.toDiscriminant <+: p.bytes :=
  (List.prefix_append _ _).trans p.toPayload_isPrefix

/-- A frame starts with its bytes up to the name. -/
lemma toMethod_isPrefix (p : Parts) : p.toMethod <+: p.bytes := by
  refine List.IsPrefix.trans ?_ p.toDiscriminant_isPrefix
  simp only [toDiscriminant, List.append_assoc]
  exact List.prefix_append _ _

end Parts

/-- What a frame carries. -/
def content (name : String) (packedArguments : List UInt8) (isThrown : Bool) (payload : Payload) :
    Content :=
  ⟨name, packedArguments, if isThrown then .thrown payload else .returned payload⟩

section

variable {p : Parts} {name : String} {isThrown : Bool} {payload : Payload} {e : RecordError}

/-- The parts of a frame are read if they can be decoded. -/
lemma reads_bytes (fit : p.Fit) (hname : decodeName p.method = .ok name)
    (hdiscriminant : decodeDiscriminant [p.discriminant] = .ok isThrown)
    (hpayload : Payload.unpack p.payload = .ok payload) :
    Reads readParts p.bytes (content name p.packedArguments isThrown payload) := by
  rw [readParts, readName_eq, readDiscriminant_eq, readPayload_eq]
  simp only [Parts.bytes, Parts.toPayload, Parts.toDiscriminant, Parts.toMethod, List.append_assoc]
  exact (reads_tag .header).bind ((reads_thenDecode (reads_sized fit.method) hname).bind
    ((reads_sized fit.packedArguments).bind ((reads_tag .separator).bind
      ((reads_thenDecode (reads_take .discriminant [p.discriminant]) hdiscriminant).bind
        ((reads_thenDecode (reads_sized fit.payload) hpayload).bind
          ((reads_tag .trailer).map _))))))

/-- A name that cannot be decoded is reported, whatever follows it. -/
lemma refuses_toMethod (fit : p.Fit) (h : decodeName p.method = .error e) :
    Refuses readParts p.toMethod e := by
  rw [readParts, readName_eq]
  exact (reads_tag .header).refuses_bind (refuses_thenDecode (reads_sized fit.method) h).first

/-- A discriminant that cannot be decoded is reported, whatever follows it. -/
lemma refuses_toDiscriminant (fit : p.Fit) (hname : decodeName p.method = .ok name)
    (h : decodeDiscriminant [p.discriminant] = .error e) :
    Refuses readParts p.toDiscriminant e := by
  rw [readParts, readName_eq, readDiscriminant_eq]
  simp only [Parts.toDiscriminant, Parts.toMethod, List.append_assoc]
  exact (reads_tag .header).refuses_bind
    ((reads_thenDecode (reads_sized fit.method) hname).refuses_bind
      ((reads_sized fit.packedArguments).refuses_bind ((reads_tag .separator).refuses_bind
      (refuses_thenDecode (reads_take .discriminant [p.discriminant]) h).first)))

/-- A payload that cannot be decoded is reported, whatever follows it. -/
lemma refuses_toPayload (fit : p.Fit) (hname : decodeName p.method = .ok name)
    (hdiscriminant : decodeDiscriminant [p.discriminant] = .ok isThrown)
    (h : Payload.unpack p.payload = .error e) : Refuses readParts p.toPayload e := by
  rw [readParts, readName_eq, readDiscriminant_eq, readPayload_eq]
  simp only [Parts.toPayload, Parts.toDiscriminant, Parts.toMethod, List.append_assoc]
  exact (reads_tag .header).refuses_bind
    ((reads_thenDecode (reads_sized fit.method) hname).refuses_bind
      ((reads_sized fit.packedArguments).refuses_bind ((reads_tag .separator).refuses_bind
      ((reads_thenDecode (reads_take .discriminant [p.discriminant]) hdiscriminant).refuses_bind
        (refuses_thenDecode (reads_sized fit.payload) h).first))))

end

section

variable {method : String} {packedArguments : List UInt8} {outcome : Outcome}

/-- The parts of the frame of a call. -/
def partsOf (method : String) (packedArguments : List UInt8) (outcome : Outcome) : Parts where
  method := Text.Utf8.encode method
  packedArguments := packedArguments
  discriminant := discriminant outcome
  payload := Wire.writePayload outcome.payload

/-- A frame is put together from its parts. -/
lemma assemble_eq :
    assemble method packedArguments outcome = (partsOf method packedArguments outcome).bytes := rfl

/-- A name is decoded from its bytes. -/
lemma decodeName_encode : decodeName (Text.Utf8.encode method) = .ok method := by
  rw [decodeName, Text.Utf8.decode_encode]

/-- The discriminant tells whether a call has thrown something. -/
lemma decodeDiscriminant_discriminant :
    decodeDiscriminant [discriminant outcome] = .ok outcome.isThrown := by
  cases outcome <;> rfl

/-- The frame of a call is read as the block of its outcome is. -/
lemma run_readContent (hmethod : (Text.Utf8.encode method).length < 0x10000)
    (harguments : packedArguments.length < 256 ^ 4)
    (hpayload : (Wire.writePayload outcome.payload).length < 256 ^ 4) :
    readContent.run (assemble method packedArguments outcome) =
      (Payload.unpack (Wire.writePayload outcome.payload)).map fun p =>
        (⟨method, packedArguments, if outcome.isThrown then .thrown p else .returned p⟩, []) := by
  have fit : (partsOf method packedArguments outcome).Fit := ⟨hmethod, harguments, hpayload⟩
  rw [assemble_eq]
  cases h : Payload.unpack (Wire.writePayload outcome.payload) with
  | ok p =>
    have read := reads_bytes fit decodeName_encode decodeDiscriminant_discriminant h
    exact run_readContent_of_ok read.run_eq
  | error e =>
    have refused := refuses_toPayload fit decodeName_encode decodeDiscriminant_discriminant h
    exact run_readContent_of_error (refused (writeTag .trailer))

end

end CallReplay.Frame

namespace CallReplay.CallRecord

/-- Whether the parts of a completed record fit into a frame. -/
structure Framable (r : CallRecord) (outcome : Outcome) : Prop where
  method : (Text.Utf8.encode r.method).length < 0x10000
  arguments : r.packedArguments.length < 0x100000000
  payload : (Wire.writePayload outcome.payload).length < 0x100000000

/-- A record is packed if its call has ended and its parts fit into a frame. -/
lemma pack_eq_ok_iff {r : CallRecord} {bytes : List UInt8} :
    r.pack = .ok bytes ↔ ∃ outcome, r.outcome = some outcome ∧ r.Framable outcome ∧
      bytes = Frame.assemble r.method r.packedArguments outcome := by
  unfold pack
  cases r.outcome with
  | none => simp
  | some outcome =>
    simp only [bind_eq_ok_iff, Frame.writeShort_eq_ok_iff, Frame.writeBlock_eq_ok_iff,
      Option.some.injEq, exists_eq_left']
    constructor
    · rintro ⟨name, ⟨hname, rfl⟩, arguments, ⟨harguments, rfl⟩, payload, ⟨hpayload, rfl⟩, h⟩
      cases h
      exact ⟨⟨hname, harguments, hpayload⟩, rfl⟩
    · rintro ⟨⟨hname, harguments, hpayload⟩, rfl⟩
      exact ⟨_, ⟨hname, rfl⟩, _, ⟨harguments, rfl⟩, _, ⟨hpayload, rfl⟩, rfl⟩

/-- A packed record is unpacked as its two blocks are. -/
lemma unpack_assemble {r : CallRecord} {outcome : Outcome} (h : r.Framable outcome) :
    unpack (Frame.assemble r.method r.packedArguments outcome) = (do
      let p ← Payload.unpack (Wire.writePayload outcome.payload)
      let arguments ← Arguments.unpack r.packedArguments
      pure
        { index := 0
          target := ""
          scope := ""
          method := r.method
          argumentTypes := none
          signature := .mangle r.method none
          packedArguments := r.packedArguments
          arguments := arguments
          outcome := some (if outcome.isThrown then .thrown p else .returned p)
          remoteReturned := false
          remotePaths := .empty }) := by
  rw [unpack, Frame.run_readContent h.method h.arguments h.payload]
  cases Payload.unpack (Wire.writePayload outcome.payload) <;> rfl

end CallReplay.CallRecord
