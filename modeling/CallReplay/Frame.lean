import CallReplay.CallRecord

/-!
# Frames of call records

A completed record is framed as three tags with the method name, the packed arguments, a byte that
tells how the call ended, and the packed outcome between them:

* the tag `CALL`, the method name, the block of the arguments;
* the tag `RETURN`, the byte 0 for a returned value or 1 for a thrown failure, the block of the
  outcome;
* the tag `END`, and nothing after it.

Tags and the name stand after their lengths in 16 bits, blocks after theirs in 32 bits, the high
byte first. Where the call was made and the types of its parameters are no part of the frame.
-/

namespace CallReplay.Frame

/-- A number at a width of so many bytes, the highest byte first. -/
def bigEndian (width n : Nat) : List UInt8 := (Wire.littleEndian width n).reverse

/-- The number that bytes stand for, the highest byte first. -/
def ofBigEndian (bytes : List UInt8) : Nat := Wire.ofLittleEndian bytes.reverse

/-- Bytes after their length in 16 bits, if that is enough for it. -/
def writeShort (bytes : List UInt8) : Except RecordError (List UInt8) :=
  if bytes.length < 0x10000 then .ok (bigEndian 2 bytes.length ++ bytes)
  else .error (.textTooLong bytes.length)

/-- Bytes after their length in 32 bits, if that is enough for it. -/
def writeBlock (bytes : List UInt8) : Except RecordError (List UInt8) :=
  if bytes.length < 0x100000000 then .ok (bigEndian 4 bytes.length ++ bytes)
  else .error (.blockTooLong bytes.length)

/-- The bytes of a tag. -/
def tagBytes (t : Tag) : List UInt8 := Text.Utf8.encode t.text

/-- A tag after its length. -/
def writeTag (t : Tag) : List UInt8 := bigEndian 2 (tagBytes t).length ++ tagBytes t

/-- The byte that tells how a call ended. -/
def discriminant (outcome : Outcome) : UInt8 := if outcome.isThrown then 1 else 0

/-- Reads a part of a frame from the start of some bytes. -/
abbrev Reader (α : Type) := StateT (List UInt8) (Except RecordError) α

/-- Takes so many bytes for a part. -/
def take (part : FramePart) (count : Nat) : Reader (List UInt8) := fun bytes =>
  match Wire.splitBytes? count bytes with
  | some (taken, rest) => .ok (taken, rest)
  | none => .error (.truncated part count bytes.length)

/-- Reads bytes after their length, which has a width of its own. -/
def readSized (part : FramePart) (width : Nat) : Reader (List UInt8) := do
  let length ← take part width
  take part (ofBigEndian length)

/-- Reads a tag, which has to be the given one. -/
def expectTag (t : Tag) : Reader Unit := do
  let found ← readSized (.tag t) 2
  if found = tagBytes t then pure () else throw (.wrongTag t found)

/-- Reads the name of the method, which has to be UTF-8. -/
def readName : Reader String := do
  let bytes ← readSized .methodName 2
  match Text.Utf8.decode bytes with
  | .ok name => pure name
  | .error cause => throw (.methodName cause)

/-- Reads the byte that tells how the call ended: whether with a failure. -/
def readDiscriminant : Reader Bool := do
  let bytes ← take .discriminant 1
  match bytes with
  | [0] => pure false
  | [1] => pure true
  | other => throw (.discriminant (other.headD 0))

/-- Reads the block of the payload and what it holds. -/
def readPayload : Reader Payload := do
  let block ← readSized .payload 4
  match Payload.unpack block with
  | .ok p => pure p
  | .error e => throw e

/-- Checks that nothing follows. -/
def expectEnd : Reader Unit := fun bytes =>
  if bytes.isEmpty then .ok ((), bytes) else .error (.trailingBytes bytes.length)

/-- What a frame carries, its arguments still packed. -/
structure Content where
  method : String
  packedArguments : List UInt8
  outcome : Outcome
  deriving DecidableEq

/-- Reads a whole frame in one pass. Nothing may come behind its last tag. -/
def readContent : Reader Content := do
  expectTag .header
  let method ← readName
  let packedArguments ← readSized .packedArguments 4
  expectTag .separator
  let isThrown ← readDiscriminant
  let payload ← readPayload
  expectTag .trailer
  expectEnd
  pure ⟨method, packedArguments, if isThrown then .thrown payload else .returned payload⟩

end CallReplay.Frame

namespace CallReplay.CallRecord

/-- The frame that carries a record, if its call has ended and every part fits its length. -/
def pack (r : CallRecord) : Except RecordError (List UInt8) :=
  match r.outcome with
  | none => .error (.packedWhilePending r.method)
  | some outcome => do
    let name ← Frame.writeShort (Text.Utf8.encode r.method)
    let arguments ← Frame.writeBlock r.packedArguments
    let payload ← Frame.writeBlock (Wire.writePayload outcome.payload)
    pure (Frame.writeTag .header ++ name ++ arguments ++ Frame.writeTag .separator ++
      [Frame.discriminant outcome] ++ payload ++ Frame.writeTag .trailer)

/-- The record that a frame carries. It has index 0, and its target, its scope and its parameter
types are not known. -/
def unpack (bytes : List UInt8) : Except RecordError CallRecord := do
  let (content, _) ← Frame.readContent.run bytes
  let arguments ← Arguments.unpack content.packedArguments
  pure
    { index := 0
      target := ""
      scope := ""
      method := content.method
      argumentTypes := none
      signature := .mangle content.method none
      packedArguments := content.packedArguments
      arguments := arguments
      outcome := some content.outcome
      remoteReturned := false
      remotePaths := .empty }

end CallReplay.CallRecord
