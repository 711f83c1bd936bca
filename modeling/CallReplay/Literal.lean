import CallReplay.Value
import CallReplay.Text.Hex
import CallReplay.Decimal.Shortest

/-!
# Source literals

Scripts hold scalars as Java literals in printable ASCII. In text, quotes, backslashes and the named
control characters have their short escapes, and every other character that is not printable ASCII
is written as the `\u` escapes of its UTF-16 units. A number keeps its width by a cast, a suffix or
a decimal point; floating point numbers have the fewest digits that read back, and the three values
without digits are named constants.
-/

namespace CallReplay.Literal

/-- Four upper-case hexadecimal digits for a UTF-16 unit. -/
def unitDigits (unit : UInt16) : List Char :=
  let n := unit.toNat
  [Text.hexDigitUpper (n / 4096), Text.hexDigitUpper (n / 256 % 16),
    Text.hexDigitUpper (n / 16 % 16), Text.hexDigitUpper (n % 16)]

/-- The escape of a UTF-16 unit. -/
def unitEscape (unit : UInt16) : List Char :=
  '\\' :: 'u' :: unitDigits unit

/-- A character as it is written between double quotes. -/
def escapeChar (c : Char) : List Char :=
  if c = '"' then ['\\', '"']
  else if c = '\\' then ['\\', '\\']
  else if c = '\n' then ['\\', 'n']
  else if c = '\t' then ['\\', 't']
  else if c = '\r' then ['\\', 'r']
  else if c = '\x08' then ['\\', 'b']
  else if c = '\x0c' then ['\\', 'f']
  else if c < ' ' ∨ '\x7f' ≤ c then (Text.units c).flatMap unitEscape
  else [c]

/-- A text as it is written between double quotes. -/
def escape (s : String) : String :=
  String.ofList (s.toList.flatMap escapeChar)

/-- The literal for a text. -/
def ofText (s : String) : String :=
  "\"" ++ escape s ++ "\""

/-- The literal of a character, as it would be were it a single UTF-16 unit. -/
def ofChar (c : Char) : String :=
  String.ofList ('\'' :: (if c = '\'' then ['\\', '\''] else escapeChar c) ++ ['\''])

/-- The literal of a character; only single UTF-16 units have one. -/
def ofChar? (c : Char) : Option String :=
  if Text.isSingleUnit c then some (ofChar c) else none

/-- How scripts lay out floating point numbers: positionally from a ten-thousandth up to below
ten to the sixteenth, and without a sign where the exponent is positive. -/
def layout : Decimal.Layout := ⟨-3, 16, .up, false⟩

/-- A floating point literal, given the class that names the constants and the suffix
of the width. -/
def ofFloating (f : Decimal.Format) (className suffix : String) (bits : Nat) : String :=
  match f.decode bits with
  | .nan => className ++ ".NaN"
  | .infinite false => className ++ ".POSITIVE_INFINITY"
  | .infinite true => className ++ ".NEGATIVE_INFINITY"
  | .finite negative mantissa exponent =>
    (layout.finite f negative mantissa exponent).render ++ suffix

/-- The literal for a number of 32 bits. -/
def ofFloat (bits : UInt32) : String := ofFloating .single "Float" "f" bits.toNat

/-- The literal for a number of 64 bits. -/
def ofDouble (bits : UInt64) : String := ofFloating .double "Double" "" bits.toNat

/-- The literal for an integer. -/
def ofInt (n : Int) : String := (Decimal.Numeral.ofInt n).render

/-- The literal for a class. -/
def ofClass (type : TypeDesc) : String := type.canonicalName ++ ".class"

/-- The literal of a scalar. It means the scalar if `Scalar.isExpressible` holds of it. -/
def ofScalar : Scalar → String
  | .bool b => if b then "true" else "false"
  | .char c => ofChar c
  | .byte n => "(byte) " ++ ofInt n.toInt
  | .short n => "(short) " ++ ofInt n.toInt
  | .int n => ofInt n.toInt
  | .long n => ofInt n.toInt ++ "L"
  | .float bits => ofFloat bits
  | .double bits => ofDouble bits
  | .text s => ofText s

/-- The literal of a scalar that has one. -/
def ofScalar? (s : Scalar) : Option String :=
  if s.isExpressible then some (ofScalar s) else none

/-- The type that a scalar's variable is declared with. -/
def typeName (s : Scalar) : String :=
  match s.primitive? with
  | some kind => kind.keyword
  | none => "String"

end CallReplay.Literal
