import CallReplay.Json.Source
import CallReplay.Decimal.Shortest

/-!
# Numbers in JSON

A number that is written without a fraction and without an exponent is an integer if it fits
64 bits; every other number, and the written form `-0`, is floating point. Floating point
numbers are read with at most one rounding of the digits and one of the power of ten: as many
leading digits as fit 64 bits make up the significand, every further digit only moves the
exponent, and the significand is multiplied or divided by a power of ten that is itself a
64-bit floating point number.
-/

namespace CallReplay.Json

open Decimal (Numeral Format Layout)

/-- The significands below this bound are kept exactly. -/
def significandBound : Nat := 0x10000000000000000

/-- How digits are taken into the significand: the significand, the power of ten that goes with it,
and whether a digit has been left out, after which no digit is taken in. -/
structure Significand where
  value : Nat
  exponent : Int
  full : Bool

/-- Takes in a digit before the point. From the first digit that does not fit on, each digit raises
the exponent. -/
def Significand.pushWhole (s : Significand) (digit : Nat) : Significand :=
  if s.full then { s with exponent := s.exponent + 1 }
  else if 10 * s.value + digit < significandBound then { s with value := 10 * s.value + digit }
  else { s with exponent := s.exponent + 1, full := true }

/-- Takes in a digit after the point. From the first digit that does not fit on, digits are left
out. -/
def Significand.pushFraction (s : Significand) (digit : Nat) : Significand :=
  if s.full then s
  else if 10 * s.value + digit < significandBound then
    ⟨10 * s.value + digit, s.exponent - 1, false⟩
  else { s with full := true }

/-- The value of a decimal digit. -/
def digitValue (c : Char) : Nat := c.toNat - 0x30

/-- The significand of a written number, before its exponent is counted in. -/
def significand (n : Numeral) : Significand :=
  let start : Significand := ⟨0, 0, false⟩
  let whole := n.whole.foldl (fun s c => Significand.pushWhole s (digitValue c)) start
  n.fraction.foldl (fun s c => Significand.pushFraction s (digitValue c))
  { whole with full := false }

/-- The 64-bit encoding of the product of an encoding, without sign, and `num / den`. -/
def timesRatio (bits num den : Nat) : Nat :=
  match Format.double.decode bits with
  | .finite _ mantissa exponent =>
    let (n, d) := Format.scale (mantissa * num) den exponent
    Format.double.round n d
  | _ => bits

/-- The encoding of a power of ten. -/
def powerOfTen (n : Nat) : Nat := Format.double.round (Nat.pow 10 n) 1

/-- The number that an encoding without sign stands for, as a quotient. -/
def ratioOf (bits : Nat) : Nat × Nat :=
  match Format.double.decode bits with
  | .finite _ mantissa exponent => Format.scale mantissa 1 exponent
  | _ => (0, 1)

/-- Multiplies an encoding by the encoding of a power of ten. -/
def timesPower (bits n : Nat) : Nat :=
  let (num, den) := ratioOf (powerOfTen n)
  timesRatio bits num den

/-- Divides an encoding by the encoding of a power of ten. -/
def overPower (bits n : Nat) : Nat :=
  let (num, den) := ratioOf (powerOfTen n)
  timesRatio bits den num

/-- The largest power of ten with a 64-bit encoding. -/
def greatestPower : Nat := 308

/-- Divides an encoding by a power of ten, in steps of the largest power. -/
def shrink : Nat → Nat → Nat → Nat
  | 0, bits, n => overPower bits n
  | steps + 1, bits, n =>
    if n ≤ greatestPower then overPower bits n
    else if bits = 0 then 0
    else shrink steps (overPower bits greatestPower) (n - greatestPower)

/-- The 64-bit encoding of a written number, unless it is too large for one. -/
def toDouble? (n : Numeral) : Option Nat :=
  let s := significand n
  let written : Int :=
    match n.exponent with
    | none => 0
    | some e =>
      let size : Int := Decimal.natOfDigits e.digits
      if e.sign = some .minus then -size else size
  let exponent := s.exponent + written
  let bits := Format.double.round s.value 1
  let result :=
    if s.value = 0 then some 0
    else if exponent < 0 then
      -- Three steps bring every significand to zero.
      some (shrink 3 bits (-exponent).toNat)
    else if greatestPower < exponent.toNat then none
    else
      let product := timesPower bits exponent.toNat
      if product = Format.double.infinity then none else some product
  result.map (Format.double.withSign n.negative)

/-- The integer that a number is, if it counts as one. -/
def toInteger? (n : Numeral) : Option Int :=
  if n.isInteger then
    let size := Decimal.natOfDigits n.whole
    if n.negative then
      if 0 < size ∧ size ≤ 0x8000000000000000 then some (-size) else none
    else if size < 0x10000000000000000 then some size
    else none
  else none

/-- The encoding of a number in a format. An integer is rounded once; other numbers are read as
64-bit numbers first. -/
def toFloating? (f : Format) (n : Numeral) : Option Nat :=
  match toInteger? n with
  | some i => some (f.withSign (i < 0) (f.round i.natAbs 1))
  | none => (toDouble? n).map (Format.convert .double f)

/-- How 64-bit numbers are laid out; every exponent has its sign. -/
def doubleLayout : Layout := ⟨-4, 16, .even, true⟩

/-- How 32-bit numbers are laid out; every exponent has its sign. -/
def singleLayout : Layout := ⟨-5, 13, .even, true⟩

/-- A floating point number; JSON has null for those that are not finite. -/
def floating (f : Format) (l : Layout) (bits : Nat) : Json :=
  match f.decode bits with
  | .finite negative mantissa exponent => .number (l.finite f negative mantissa exponent)
  | _ => .null

/-- A number of 64 bits as JSON, with the fewest digits that read back. -/
def double (bits : UInt64) : Json := floating .double doubleLayout bits.toNat

/-- A number of 32 bits as JSON, with the fewest digits that read back. -/
def single (bits : UInt32) : Json := floating .single singleLayout bits.toNat

end CallReplay.Json
