import CallReplay.TypeDesc
import CallReplay.Text.Units

/-!
# Recorded values

A value is null, a scalar, a reference to a class or a reference to an object of a heap. Scalars and
class references are held in the value itself; whatever has an identity of its own lives in a heap
and is named by an `ObjectId`, so two references with one id are the same object.

Floating point scalars are held as the bits of their IEEE 754 encoding, so nothing about them, the
payload of a NaN included, is lost.
-/

namespace CallReplay

/-- The identity of an object: its position in the heap that owns it. -/
structure ObjectId where
  index : UInt32
  deriving DecidableEq

/-- A value without identity: a truth value, a character, a number or a text. -/
inductive Scalar where
  | bool (value : Bool)
  | char (value : Char)
  | byte (value : Int8)
  | short (value : Int16)
  | int (value : Int32)
  | long (value : Int64)
  | float (bits : UInt32)
  | double (bits : UInt64)
  | text (value : String)
  deriving DecidableEq

/-- A value seen as an argument, a result, a field, an element or a map operand. -/
inductive Value where
  | null
  | scalar (value : Scalar)
  | classOf (type : TypeDesc)
  | ref (id : ObjectId)
  deriving DecidableEq

instance : Inhabited Value := ⟨.null⟩

namespace Scalar

/-- The primitive kind of a scalar; text has none. -/
def primitive? : Scalar → Option Primitive
  | bool _ => some .boolean
  | char _ => some .char
  | byte _ => some .byte
  | short _ => some .short
  | int _ => some .int
  | long _ => some .long
  | float _ => some .float
  | double _ => some .double
  | text _ => none

/-- The word for the scalar's shape. -/
def kindName : Scalar → String
  | bool _ => "Bool"
  | char _ => "Char"
  | byte _ => "Byte"
  | short _ => "Short"
  | int _ => "Int"
  | long _ => "Long"
  | float _ => "Float"
  | double _ => "Double"
  | text _ => "Text"

/-- The class that the scalar has where an object is expected. -/
def boxedType (s : Scalar) : TypeDesc :=
  match s.primitive? with
  | some kind => .named kind.wrapper
  | none => .text

/-- Whether a literal can express the scalar: a character must be a single UTF-16 unit. -/
def isExpressible : Scalar → Bool
  | char c => Text.isSingleUnit c
  | _ => true

/-- Whether two encodings of a number, given without their sign bits, are numbers that compare as
equal: neither is a NaN, and they are the same or both zero. -/
def sameNumber (infinity a b : Nat) (sameSign : Bool) : Bool :=
  a ≤ infinity && b ≤ infinity && a == b && (sameSign || a == 0)

/-- Whether two scalars compare as equal. Floating point numbers compare by value: a NaN equals
nothing and the two zeros are equal. -/
def agrees : Scalar → Scalar → Bool
  | float a, float b =>
    sameNumber 0x7F800000 (a &&& 0x7FFFFFFF).toNat (b &&& 0x7FFFFFFF).toNat (a >>> 31 == b >>> 31)
  | double a, double b =>
    sameNumber 0x7FF0000000000000 (a &&& 0x7FFFFFFFFFFFFFFF).toNat (b &&& 0x7FFFFFFFFFFFFFFF).toNat
      (a >>> 63 == b >>> 63)
  | a, b => decide (a = b)

end Scalar

namespace Value

/-- A text value. -/
abbrev text (s : String) : Value := .scalar (.text s)

/-- Whether a value is null. -/
def isNull : Value → Bool
  | null => true
  | _ => false

/-- The object that the value refers to, if it is a reference. -/
def objectId? : Value → Option ObjectId
  | ref id => some id
  | _ => none

/-- The primitive kind of a scalar value. -/
def primitive? : Value → Option Primitive
  | scalar s => s.primitive?
  | _ => none

/-- The word for the value's shape. -/
def kindName : Value → String
  | null => "Null"
  | scalar s => s.kindName
  | classOf _ => "Class"
  | ref _ => "Ref"

/-- Whether two values compare as equal; see `Scalar.agrees`. -/
def agrees : Value → Value → Bool
  | scalar a, scalar b => a.agrees b
  | a, b => decide (a = b)

end Value

end CallReplay
