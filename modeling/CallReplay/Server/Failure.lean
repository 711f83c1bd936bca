import CallReplay.Server.SessionId
import CallReplay.Store

/-!
# Failures of the server

Why the server refuses a request, and the kind of failure that is reported to the client. A record
that cannot be read is told apart by whether its frame or its content is at fault.
-/

namespace CallReplay

/-- Why the server refuses a request. -/
inductive Failure where
  /-- No session with the id is open. -/
  | noSession (id : SessionId)
  /-- A session needs a remote object with a name. -/
  | blankTarget
  /-- The posted bytes are no call record. -/
  | record (cause : RecordError)
  /-- The posted record could not be recorded. -/
  | recording (cause : RecordingError)
  /-- The database refuses the request. -/
  | store (cause : StoreError)
  deriving DecidableEq

/-- What kind of failure is reported to the client. -/
inductive FailureKind where
  | notFound
  | badRequest
  /-- The posted bytes are not framed as a record. -/
  | framing
  /-- A part of the posted record cannot be decoded. -/
  | corruption
  | internal
  deriving DecidableEq

/-- The kind of failure that an error of a record is. -/
def RecordError.failureKind (e : RecordError) : FailureKind :=
  if e.isFraming then .framing
  else if e.isCorruption then .corruption
  else if e.isState then .badRequest
  else .internal

/-- The kind of failure that an error of the database is. -/
def StoreError.failureKind : StoreError → FailureKind
  | record cause => cause.failureKind
  | notFound _ => .notFound
  | postProcessorTaken | noSuchSampler => .internal
  | badName _ | cannotOpen _ | inputOutput | notADatabase | refused _ | setup .. => .internal

/-- The kind of failure that an error of recording is. A graph without a script is the client's. -/
def RecordingError.failureKind : RecordingError → FailureKind
  | script _ => .badRequest
  | store cause => cause.failureKind

namespace Failure

/-- What kind of failure a client is told of. -/
def kind : Failure → FailureKind
  | noSession _ => .notFound
  | blankTarget => .badRequest
  | record cause => cause.failureKind
  | recording cause => cause.failureKind
  | store cause => cause.failureKind

/-- What a client is told about a failure. -/
def message : Failure → String
  | noSession id => "session " ++ id.text
  | blankTarget => "target must not be empty"
  | record cause => cause.message
  | recording (.script (.graph cause)) => cause.message
  | recording (.script cause) => cause.message
  | recording (.store cause) => cause.message
  | store cause => cause.message

end Failure

end CallReplay
