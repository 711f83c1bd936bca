import CallReplay.Wire.Decoder
import CallReplay.Heap

/-!
# Errors of call records

A call record can be refused in three ways. Its bytes may not be framed as a record at all; a part
of a well-framed record may not be decodable; or the record may be asked for something that its
state does not allow.
-/

namespace CallReplay

/-- The tags of a frame. -/
inductive Tag where
  | header
  | separator
  | trailer
  deriving DecidableEq

/-- The text of a tag. -/
def Tag.text : Tag → String
  | header => "CALL"
  | separator => "RETURN"
  | trailer => "END"

/-- The parts of a frame. -/
inductive FramePart where
  | tag (t : Tag)
  | methodName
  | packedArguments
  | discriminant
  | payload
  deriving DecidableEq

/-- What a part is called in reports. -/
def FramePart.title : FramePart → String
  | tag t => t.text
  | methodName => "method name"
  | packedArguments => "packed arguments"
  | discriminant => "outcome discriminant"
  | payload => "outcome payload"

/-- Why a block is not the encoding of a value graph. -/
inductive BlockError where
  | encoding (cause : Wire.DecodeError)
  | graph (cause : GraphError)
  deriving DecidableEq

/-- What is reported about a block that cannot be decoded. -/
def BlockError.message : BlockError → String
  | encoding cause => cause.message
  | graph cause => cause.message

/-- Why a call record cannot be read, written or used. -/
inductive RecordError where
  /-- Another tag stands where this one should. -/
  | wrongTag (expected : Tag) (found : List UInt8)
  /-- The bytes end before a part is complete. -/
  | truncated (part : FramePart) (needed remaining : Nat)
  /-- Bytes follow the last tag. -/
  | trailingBytes (count : Nat)
  /-- The method name is not UTF-8. -/
  | methodName (cause : Text.Utf8.Error)
  /-- The byte that tells a returned value from a thrown failure is neither. -/
  | discriminant (found : UInt8)
  /-- The outcome cannot be decoded. -/
  | payload (cause : BlockError)
  /-- The arguments cannot be decoded. -/
  | arguments (cause : BlockError)
  /-- The block of the arguments does not even hold their version. -/
  | noArguments
  /-- The arguments are encoded in another version. -/
  | packVersion (version : UInt8)
  /-- A text is too long for its length to be written. -/
  | textTooLong (bytes : Nat)
  /-- A block is too long for its length to be written. -/
  | blockTooLong (bytes : Nat)
  /-- A record cannot be written before its call has ended. -/
  | packedWhilePending (method : String)
  /-- A record has no outcome before its call has ended. -/
  | pending (method : String)
  /-- A call that returned has no failure. -/
  | notThrown (method : String)
  /-- A call ends only once. -/
  | alreadyCompleted (method : String)
  deriving DecidableEq

namespace RecordError

/-- Whether the bytes are not framed as a record. -/
def isFraming : RecordError → Bool
  | wrongTag .. | truncated .. | trailingBytes _ => true
  | _ => false

/-- Whether a part of a framed record cannot be decoded. -/
def isCorruption : RecordError → Bool
  | methodName _ | discriminant _ | payload _ | arguments _ | noArguments | packVersion _ => true
  | _ => false

/-- Whether the state of the record does not allow what it was asked for. -/
def isState : RecordError → Bool
  | packedWhilePending _ | pending _ | notThrown _ | alreadyCompleted _ => true
  | _ => false

/-- What is reported about a record. -/
def message : RecordError → String
  | wrongTag expected found =>
    "invalid record framing: expected tag '" ++ expected.text ++ "', found '" ++
      Text.Utf8.lossy found ++ "'"
  | truncated part needed remaining =>
    s!"truncated record: {part.title} needs {needed} byte(s) but only {remaining} remain"
  | trailingBytes count => s!"invalid record framing: {count} trailing byte(s) after end tag"
  | methodName cause => "corrupt method name: " ++ cause.message
  | discriminant found => s!"corrupt outcome discriminant: expected 0 or 1, found {found.toNat}"
  | payload cause => "corrupt outcome payload: " ++ cause.message
  | arguments cause => "corrupt arguments: " ++ cause.message
  | noArguments => "corrupt arguments: empty argument block"
  | packVersion version => s!"unsupported argument encoding version {version.toNat}"
  | textTooLong bytes => s!"encoding error: string of {bytes} bytes exceeds u16"
  | blockTooLong bytes => s!"encoding error: block of {bytes} bytes exceeds u32"
  | packedWhilePending method =>
    "invalid record state: cannot pack call to '" ++ method ++ "' before it completes"
  | pending method => "invalid record state: call to '" ++ method ++ "' has not completed"
  | notThrown method =>
    "invalid record state: call to '" ++ method ++ "' returned normally; it has no failure"
  | alreadyCompleted method => "call record for '" ++ method ++ "' is already completed"

end RecordError

end CallReplay
