import CallReplay.TypeDesc
import CallReplay.Text.Utf8

/-!
# Binary encoding of simple values

Numbers are written little-endian at a fixed width, texts and lists after their length as a
64-bit number, a truth value as a byte, a character as its UTF-8 bytes, and the variant of an
enumeration as its number in 32 bits. A `Decoder` reads a value from the start of some bytes and
hands on the rest.
-/

namespace CallReplay.Wire

/-- Why bytes are not the encoding of a value. -/
inductive DecodeError where
  /-- The bytes end inside a value of fixed width, or where a character should begin. -/
  | endOfInput
  /-- A text is longer than the bytes that are left. -/
  | textTooLong
  /-- A text is not UTF-8. -/
  | text (cause : Text.Utf8.Error)
  /-- A byte is no truth value. -/
  | bool (found : UInt8)
  /-- The bytes of a character are not UTF-8. -/
  | char
  /-- An enumeration has no variant of this number. -/
  | variant (found : UInt32) (count : Nat)
  /-- An array type has too many dimensions. -/
  | dimensions (cause : TooManyDimensions)
  deriving DecidableEq

/-- What is reported about bytes that cannot be decoded. -/
def DecodeError.message : DecodeError → String
  | endOfInput => "io error: unexpected end of file"
  | textTooLong => "io error: "
  | text cause => "string is not valid utf8: " ++ cause.message
  | bool found => s!"invalid u8 while decoding bool, expected 0 or 1, found {found.toNat}"
  | char => "char is not valid"
  | variant found count =>
    "invalid value: integer \x60" ++ toString found.toNat ++
      "\x60, expected variant index 0 <= i < " ++ toString count
  | dimensions cause => cause.message

/-- Reads a value from the start of some bytes. -/
abbrev Decoder (α : Type) := StateT (List UInt8) (Except DecodeError) α

/-- A number at a width of so many bytes, the lowest byte first. -/
def littleEndian : (width : Nat) → Nat → List UInt8
  | 0, _ => []
  | width + 1, n => UInt8.ofNat (n % 256) :: littleEndian width (n / 256)

/-- The number that bytes stand for, the lowest byte first. -/
def ofLittleEndian : List UInt8 → Nat
  | [] => 0
  | b :: rest => b.toNat + 256 * ofLittleEndian rest

/-- Splits so many bytes off the start; there may be fewer. -/
def splitBytes? : Nat → List UInt8 → Option (List UInt8 × List UInt8)
  | 0, bytes => some ([], bytes)
  | _ + 1, [] => none
  | count + 1, b :: bytes => (splitBytes? count bytes).map fun (taken, rest) => (b :: taken, rest)

/-- Splitting succeeds if there are enough bytes, and then parts them at the count. -/
theorem splitBytes?_eq (count : Nat) (bytes : List UInt8) :
    splitBytes? count bytes =
      if count ≤ bytes.length then some (bytes.take count, bytes.drop count) else none := by
  induction count generalizing bytes with
  | zero => simp [splitBytes?]
  | succ count ih =>
    cases bytes with
    | nil => simp [splitBytes?]
    | cons b bytes =>
      rw [splitBytes?, ih]
      by_cases h : count ≤ bytes.length <;> simp [h]

/-- Takes so many bytes off; if there are fewer, that is the given error. -/
def takeBytes (error : DecodeError) (count : Nat) : Decoder (List UInt8) := fun bytes =>
  match splitBytes? count bytes with
  | some (taken, rest) => .ok (taken, rest)
  | none => .error error

/-- Reads a natural number of so many bytes, the low byte first. -/
def readNat (width : Nat) : Decoder Nat := do
  let bytes ← takeBytes .endOfInput width
  pure (ofLittleEndian bytes)

/-- Reads a byte. -/
def readByte : Decoder UInt8 := return UInt8.ofNat (← readNat 1)

/-- A number of 32 bits, the low byte first. -/
def writeUInt32 (n : UInt32) : List UInt8 := littleEndian 4 n.toNat

/-- Reads a number of 32 bits. -/
def readUInt32 : Decoder UInt32 := return UInt32.ofNat (← readNat 4)

/-- A number of 64 bits, the low byte first. -/
def writeUInt64 (n : UInt64) : List UInt8 := littleEndian 8 n.toNat

/-- Reads a number of 64 bits. -/
def readUInt64 : Decoder UInt64 := return UInt64.ofNat (← readNat 8)

/-- A truth value in one byte. -/
def writeBool (b : Bool) : List UInt8 := [if b then 1 else 0]

/-- Reads a truth value. There are two bytes that stand for one. -/
def readBool : Decoder Bool := do
  let b ← readByte
  if b = 0 then pure false
  else if b = 1 then pure true
  else throw (.bool b)

/-- A length in eight bytes. -/
def writeLength (n : Nat) : List UInt8 := littleEndian 8 n

/-- A text after the number of its bytes. -/
def writeText (s : String) : List UInt8 :=
  let bytes := Text.Utf8.encode s
  writeLength bytes.length ++ bytes

/-- Reads a text, which has to be UTF-8. -/
def readText : Decoder String := do
  let length ← readNat 8
  let bytes ← takeBytes .textTooLong length
  match Text.Utf8.decode bytes with
  | .ok s => pure s
  | .error cause => throw (.text cause)

/-- A character as its bytes in UTF-8. -/
def writeChar (c : Char) : List UInt8 := String.utf8EncodeChar c

/-- Reads a character. Its first byte tells how many belong to it. -/
def readChar : Decoder Char := fun bytes =>
  match bytes with
  | [] => .error .endOfInput
  | lead :: rest =>
    match Text.Utf8.head lead rest with
    | .char c length => .ok (c, rest.drop (length - 1))
    | _ => .error .char

/-- The number of the case of an enumeration. -/
def writeVariant (number : Nat) : List UInt8 := littleEndian 4 number

/-- Fails because an enumeration of so many variants has none of this number. -/
def unknownVariant {α : Type} (found : UInt32) (count : Nat) : Decoder α :=
  throw (.variant found count)

/-- Values one behind the other. -/
def writeAll {α : Type} (write : α → List UInt8) (values : List α) : List UInt8 :=
  values.flatMap write

/-- Reads so many values. -/
def readMany {α : Type} (read : Decoder α) : Nat → Decoder (List α)
  | 0 => pure []
  | n + 1 => do
    let value ← read
    let rest ← readMany read n
    pure (value :: rest)

/-- Values after their number. -/
def writeList {α : Type} (write : α → List UInt8) (values : List α) : List UInt8 :=
  writeLength values.length ++ writeAll write values

/-- Reads as many values as their number says. -/
def readList {α : Type} (read : Decoder α) : Decoder (List α) := do
  let length ← readNat 8
  readMany read length

/-- Reads a value from the start of some bytes and leaves out what follows it. -/
def decode {α : Type} (read : Decoder α) (bytes : List UInt8) : Except DecodeError α :=
  (read.run bytes).map Prod.fst

end CallReplay.Wire
