import CallReplay.Json.Number
import CallReplay.TypeDesc

/-!
# Decoding JSON trees

A `Reader` takes a value of some type from the tree of a text. It meets the parts of the tree in the
order of the text and fails at the first fault: where the text stops being JSON, where it holds
something else than the value needs, or where an array type has too many dimensions.

Records are described by their `Fields`. A record is read from an object, whose members may stand in
any order and where unknown members are passed over, or from a list of its fields in order. An
enumeration is read by `readVariant`: a variant without content is its name alone, and a variant
with content is an object with one member.
-/

namespace CallReplay.Json

open Decimal (Numeral Format)

/-- Why a tree is not the text of a value. -/
inductive DecodeError where
  | malformed
  | unfit
  | dimensions (cause : TooManyDimensions)
  deriving DecidableEq

/-- Takes a value from a tree. -/
abbrev Reader (α : Type) := Source → Except DecodeError α

/-- The fault of a tree that is not of the kind that is asked for. A number that no 64-bit encoding
can hold and a text without content are malformed wherever they are looked at. -/
def refuse : Source → DecodeError
  | .broken => .malformed
  | .text none => .malformed
  | .number n =>
    if (toInteger? n).isNone && (toDouble? n).isNone then .malformed else .unfit
  | _ => .unfit

/-- Reads nothing from null. -/
def readNull : Reader Unit
  | .null => .ok ()
  | s => .error (refuse s)

/-- Reads a truth value. -/
def readBool : Reader Bool
  | .bool b => .ok b
  | s => .error (refuse s)

/-- Reads a text, which has to be valid UTF-16 once its escapes are replaced. -/
def readString : Reader String
  | .text (some s) => .ok s
  | s => .error (refuse s)

/-- Reads a character from a text of one character. -/
def readChar : Reader Char := fun s => do
  match (← readString s).toList with
  | [c] => pure c
  | _ => throw .unfit

/-- Reads an integer within bounds. It may not be written with a fraction or an exponent. -/
def readInteger (least greatest : Int) : Reader Int
  | .number n =>
    match toInteger? n with
    | some i => if least ≤ i ∧ i ≤ greatest then .ok i else .error .unfit
    | none => .error (refuse (.number n))
  | s => .error (refuse s)

/-- Reads a natural number of so many bits. -/
def readUnsignedBits (bits : Nat) : Reader Nat := fun s =>
  (readInteger 0 (Nat.pow 2 bits - 1 : Nat) s).map Int.toNat

/-- Reads an integer of so many bits, one of which is for its sign. -/
def readSignedBits (bits : Nat) : Reader Int :=
  readInteger (-(Nat.pow 2 (bits - 1) : Nat)) (Nat.pow 2 (bits - 1) - 1 : Nat)

/-- Reads a floating point number as its encoding. -/
def readFloating (f : Format) : Reader Nat
  | .number n =>
    match toFloating? f n with
    | some bits => .ok bits
    | none => .error .malformed
  | s => .error (refuse s)

/-- Reads each value of a list. -/
def readAll {α : Type} (read : Reader α) : List Source → Except DecodeError (List α)
  | [] => .ok []
  | s :: rest => do
    let a ← read s
    let as ← readAll read rest
    pure (a :: as)

/-- Reads the values of a list. That the list breaks off is noticed after its last value. -/
def readList {α : Type} (read : Reader α) : Reader (List α)
  | .list elements closed => do
    let as ← readAll read elements
    if closed then pure as else throw .malformed
  | s => .error (refuse s)

/-- Reads a pair from a list of two values. -/
def readPair {α β : Type} (first : Reader α) (second : Reader β) : Reader (α × β)
  | .list elements closed =>
    match elements with
    | [] => .error (if closed then .unfit else .malformed)
    | [a] => do
      let _ ← first a
      throw (if closed then .unfit else .malformed)
    | a :: b :: rest => do
      let a ← first a
      let b ← second b
      if rest.isEmpty && closed then pure (a, b) else throw .malformed
  | s => .error (refuse s)

/-- Reads a value that may be null. -/
def readOption {α : Type} (read : Reader α) : Reader (Option α)
  | .null => .ok none
  | s => (read s).map some

/-- Reads one member after another, each with a name that has content. -/
def readMemberList {α : Type} (read : Reader α) :
    List (Option String × Source) → Except DecodeError (List (String × α))
  | [] => .ok []
  | (none, _) :: _ => .error .malformed
  | (some key, s) :: rest => do
    let a ← read s
    let as ← readMemberList read rest
    pure ((key, a) :: as)

/-- Reads the members of an object, whatever their names are. -/
def readObject {α : Type} (read : Reader α) : Reader (List (String × α))
  | .object members closed => do
    let as ← readMemberList read members
    if closed then pure as else throw .malformed
  | s => .error (refuse s)

/-- A variant of an enumeration: a name alone, or a name with content. -/
inductive Variant (α : Type) where
  | alone (value : α)
  | content (read : Reader α)

/-- Reads the content of a variant; a variant without content may be written with null. -/
def Variant.readContent {α : Type} : Variant α → Reader α
  | alone value, s => do
    readNull s
    pure value
  | content read, s => read s

/-- Reads a value of an enumeration whose variants `pick` knows by their names. -/
def readVariant {α : Type} (pick : String → Option (Variant α)) : Reader α
  | .text (some name) =>
    match pick name with
    | some (.alone value) => .ok value
    | _ => .error .unfit
  | .object ((some name, s) :: rest) closed =>
    match pick name with
    | some variant => do
      let value ← variant.readContent s
      if rest.isEmpty && closed then pure value else throw .malformed
    | none => .error .unfit
  | .object _ _ => .error .malformed
  | s => .error (refuse s)

/-- What is known of the fields of a record while it is read. A field that is still awaited may
have a value that stands in for a missing member, and one that stands in where a list of fields
ends before it. -/
inductive Fields : Type → Type 1 where
  | ready {α : Type} (value : α) : Fields α
  | awaited {α β : Type} (earlier : Fields (β → α)) (name : String) (read : Reader β)
      (absent short : Option β) : Fields α
  | found {α β : Type} (earlier : Fields (β → α)) (name : String) (value : β) : Fields α

namespace Fields

/-- Adds a field that must be there. -/
def field {α β : Type} (earlier : Fields (β → α)) (name : String) (read : Reader β) : Fields α :=
  .awaited earlier name read none none

/-- Adds a field that has a default. -/
def withDefault {α β : Type} (earlier : Fields (β → α)) (name : String) (read : Reader β)
    (default : β) : Fields α :=
  .awaited earlier name read (some default) (some default)

/-- Adds a field that counts as null where the member is missing. -/
def optional {α β : Type} (earlier : Fields (Option β → α)) (name : String) (read : Reader β) :
    Fields α :=
  .awaited earlier name (readOption read) (some none) none

/-- Takes in a member. A second member of one name is a fault even before its value is looked at; a
member that is no field only has to be JSON. -/
def put (key : String) (s : Source) : {α : Type} → Fields α → Except DecodeError (Fields α)
  | _, ready value => if s.isWhole then .ok (ready value) else .error .malformed
  | _, awaited earlier name read absent short =>
    if name = key then
      match read s with
      | .ok value => .ok (found earlier name value)
      | .error e => .error e
    else
      match put key s earlier with
      | .ok earlier => .ok (awaited earlier name read absent short)
      | .error e => .error e
  | _, found earlier name value =>
    if name = key then .error .unfit
    else
      match put key s earlier with
      | .ok earlier => .ok (found earlier name value)
      | .error e => .error e

/-- Takes in one member after another. -/
def putAll {α : Type} (fields : Fields α) :
    List (Option String × Source) → Except DecodeError (Fields α)
  | [] => .ok fields
  | (none, _) :: _ => .error .malformed
  | (some key, s) :: rest =>
    match put key s fields with
    | .ok fields => putAll fields rest
    | .error e => .error e

/-- The record, if every field is known or has a stand-in. -/
def finish : {α : Type} → Fields α → Except DecodeError α
  | _, ready value => .ok value
  | _, awaited earlier _ _ absent _ => do
    let make ← finish earlier
    match absent with
    | some value => pure (make value)
    | none => throw .unfit
  | _, found earlier _ value => do
    let make ← finish earlier
    pure (make value)

/-- Reads the fields from a list in order, and what the list holds after them. -/
def take (closed : Bool) : {α : Type} → Fields α → List Source →
    Except DecodeError (α × List Source)
  | _, ready value, elements => .ok (value, elements)
  | _, awaited earlier _ read _ short, elements => do
    let (make, elements) ← take closed earlier elements
    match elements with
    | s :: rest =>
      let value ← read s
      pure (make value, rest)
    | [] =>
      if closed then
        match short with
        | some value => pure (make value, [])
        | none => throw .unfit
      else throw .malformed
  | _, found earlier _ value, elements => do
    let (make, elements) ← take closed earlier elements
    pure (make value, elements)

/-- Reads a record from the members of an object or from the elements of a list. -/
def read {α : Type} (fields : Fields α) : Reader α
  | .object members closed =>
    match putAll fields members with
    | .ok fields => if closed then fields.finish else .error .malformed
    | .error e => .error e
  | .list elements closed => do
    let (value, rest) ← fields.take closed elements
    if rest.isEmpty && closed then pure value else throw .malformed
  | s => .error (refuse s)

end Fields

/-- Reads a text as a whole. What it holds is looked at before what comes behind it. -/
def decode {α : Type} (read : Reader α) (s : String) : Except DecodeError α := do
  let document := Json.read s
  let value ← read document.root
  if document.complete then pure value else throw .malformed

end CallReplay.Json
