import CallReplay.RecordError
import CallReplay.RemotePath
import CallReplay.Signature
import CallReplay.Wire.Graph

/-!
# Call records

A call record is one intercepted call: where it was made, its method, its arguments and, once the
call has ended, its outcome. When the record is made, the key of the method is made and the
arguments are packed, and the packed bytes are what is kept; the outcome is set once. After that
only the paths to remote objects in the returned value may still be noted.
-/

namespace CallReplay

/-- The version of the argument encoding. -/
def packVersion : UInt8 := 1

/-- The arguments as a block of bytes. -/
def Arguments.pack (a : Arguments) : List UInt8 := packVersion :: Wire.writeArguments a

/-- The arguments that a block of bytes stands for. -/
def Arguments.unpack : List UInt8 → Except RecordError Arguments
  | [] => .error .noArguments
  | version :: body =>
    if version = packVersion then
      match Wire.decode Wire.readArguments body with
      | .error cause => .error (.arguments (.encoding cause))
      | .ok a =>
        match a.validate with
        | .error cause => .error (.arguments (.graph cause))
        | .ok () => .ok a
    else .error (.packVersion version)

/-- The payload that a block of bytes stands for. -/
def Payload.unpack (bytes : List UInt8) : Except RecordError Payload :=
  match Wire.decode Wire.readPayload bytes with
  | .error cause => .error (.payload (.encoding cause))
  | .ok p =>
    match p.validate with
    | .error cause => .error (.payload (.graph cause))
    | .ok () => .ok p

/-- One intercepted call. -/
structure CallRecord where
  /-- The position of the call in its recording. -/
  index : UInt32
  /-- The remote object that was called. -/
  target : String
  /-- The recording that the call belongs to; empty outside of one. -/
  scope : String
  /-- The name of the method. -/
  method : String
  /-- The declared parameter types, if they are known. -/
  argumentTypes : Option (List TypeDesc)
  /-- The mangled key of the method. -/
  signature : Signature
  /-- The packed arguments. -/
  packedArguments : List UInt8
  /-- The arguments. -/
  arguments : Arguments
  /-- How the call ended, once it has. -/
  outcome : Option Outcome
  /-- Whether remote objects were found in the returned value. -/
  remoteReturned : Bool
  /-- The handles of those objects with the paths to them. -/
  remotePaths : TextMap
  deriving DecidableEq

namespace CallRecord

/-- The record of a call that has just begun. -/
def new (index : UInt32) (target method : String) (argumentTypes : Option (List TypeDesc))
    (arguments : Arguments) : CallRecord where
  index := index
  target := target
  scope := ""
  method := method
  argumentTypes := argumentTypes
  signature := .mangle method argumentTypes
  packedArguments := arguments.pack
  arguments := arguments
  outcome := none
  remoteReturned := false
  remotePaths := .empty

/-- The record with the place that its frame does not carry. -/
def withOrigin (r : CallRecord) (index : UInt32) (target : String) : CallRecord :=
  { r with index := index, target := target }

/-- The record as a part of a recording. -/
def withScope (r : CallRecord) (scope : String) : CallRecord := { r with scope := scope }

/-- The record with its arguments read again from the packed bytes. -/
def recreateArguments (r : CallRecord) : Except RecordError CallRecord := do
  let arguments ← Arguments.unpack r.packedArguments
  pure { r with arguments := arguments }

/-- Sets the outcome of a call, unless it has one. -/
def finish (r : CallRecord) (outcome : Outcome) : Except RecordError CallRecord :=
  match r.outcome with
  | some _ => .error (.alreadyCompleted r.method)
  | none => .ok { r with outcome := some outcome }

/-- Sets what the call has returned. -/
def complete (r : CallRecord) (value : Payload) : Except RecordError CallRecord :=
  r.finish (.returned value)

/-- Sets what the call has thrown. -/
def completeWithFailure (r : CallRecord) (failure : Payload) : Except RecordError CallRecord :=
  r.finish (.thrown failure)

/-- Whether the call has ended. -/
def isCompleted (r : CallRecord) : Bool := r.outcome.isSome

/-- Whether the call has ended by throwing something. -/
def isFailure (r : CallRecord) : Bool := r.outcome.any Outcome.isThrown

/-- The value with which the call ended, either way. -/
def payload (r : CallRecord) : Except RecordError Payload :=
  match r.outcome with
  | some outcome => .ok outcome.payload
  | none => .error (.pending r.method)

/-- The failure with which the call ended. -/
def thrown (r : CallRecord) : Except RecordError Payload :=
  match r.outcome with
  | some (.thrown p) => .ok p
  | some (.returned _) => .error (.notThrown r.method)
  | none => .error (.pending r.method)

/-- The record with the mark for remote objects in the returned value. -/
def setRemoteReturned (r : CallRecord) (found : Bool) : CallRecord :=
  { r with remoteReturned := found }

/-- The record with the handles of remote objects and the paths to them. -/
def setRemotePaths (r : CallRecord) (paths : TextMap) : CallRecord :=
  { r with remotePaths := paths }

/-- Looks for remote objects in the returned value and notes them if there are any. The number tells
how many were found. -/
def annotate (r : CallRecord) (stem : String) : Except Script.ScriptError (Nat × CallRecord) :=
  match r.outcome with
  | some (.returned p) => do
    let paths ← RemotePath.table p stem
    if paths.size = 0 then pure (0, r)
    else pure (paths.size, (r.setRemoteReturned true).setRemotePaths paths)
  | _ => .ok (0, r)

/-- Looks for remote objects in the returned value if a stem for their handles is given. -/
def annotateIf (r : CallRecord) (stem : Option String) : Except Script.ScriptError CallRecord :=
  match stem with
  | none => .ok r
  | some stem => (r.annotate stem).map Prod.snd

/-- Whether two records compare as equal; see `Scalar.agrees`. -/
def agrees (a b : CallRecord) : Bool :=
  a.index == b.index && a.target == b.target && a.scope == b.scope && a.method == b.method &&
    a.argumentTypes == b.argumentTypes && a.signature == b.signature &&
    a.packedArguments == b.packedArguments && a.arguments.agrees b.arguments &&
    a.remoteReturned == b.remoteReturned && a.remotePaths.agrees b.remotePaths &&
    (match a.outcome, b.outcome with
      | some x, some y => x.agrees y
      | none, none => true
      | _, _ => false)

end CallRecord

end CallReplay
