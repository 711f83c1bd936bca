/-!
# Binary floating point

The encodings of IEEE 754 as bits: `Format.decode` takes an encoding apart into a mantissa and a
power of two, and `Format.round` finds the encoding nearest to a quotient of natural numbers, the
one with an even mantissa when two are equally near. Arithmetic on encodings is exact arithmetic
followed by one such rounding.
-/

namespace CallReplay.Decimal

/-- A binary interchange format: the widths of its two fields beside the sign. -/
structure Format where
  exponentBits : Nat
  fractionBits : Nat
  deriving DecidableEq

/-- What an encoding stands for. A finite number is `mantissa * 2 ^ exponent`. -/
inductive Decoded where
  | nan
  | infinite (negative : Bool)
  | finite (negative : Bool) (mantissa : Nat) (exponent : Int)
  deriving DecidableEq

namespace Format

/-- The format with 8 bits for the exponent and 23 for the fraction. -/
def single : Format := ⟨8, 23⟩

/-- The format with 11 bits for the exponent and 52 for the fraction. -/
def double : Format := ⟨11, 52⟩

/-- The mantissas of normal numbers start here. -/
def hidden (f : Format) : Nat := Nat.pow 2 f.fractionBits

/-- The exponent field of the encodings that are no finite numbers. -/
def topExponent (f : Format) : Nat := Nat.pow 2 f.exponentBits - 1

/-- The power of two that goes with the mantissas of the smallest numbers. -/
def leastExponent (f : Format) : Int :=
  2 - (Nat.pow 2 (f.exponentBits - 1) : Nat) - f.fractionBits

/-- The bit of the sign. -/
def signBit (f : Format) : Nat := Nat.pow 2 (f.exponentBits + f.fractionBits)

/-- The encoding of positive infinity. -/
def infinity (f : Format) : Nat := f.topExponent * f.hidden

/-- Takes an encoding apart. -/
def decode (f : Format) (bits : Nat) : Decoded :=
  let negative := f.signBit ≤ bits
  let exponent := bits / f.hidden % Nat.pow 2 f.exponentBits
  let fraction := bits % f.hidden
  if exponent = f.topExponent then
    if fraction = 0 then .infinite negative else .nan
  else if exponent = 0 then
    .finite negative fraction f.leastExponent
  else
    .finite negative (fraction + f.hidden) (f.leastExponent + (exponent - 1 : Nat))

/-- The quotient rounded to the nearest natural number, a half to the even neighbour. -/
def roundDiv (num den : Nat) : Nat :=
  let q := num / den
  let r := num % den
  if 2 * r < den then q
  else if den < 2 * r then q + 1
  else q + q % 2

/-- `num / den` times a power of two, as a quotient of natural numbers. -/
def scale (num den : Nat) (power : Int) : Nat × Nat :=
  if 0 ≤ power then (num * Nat.pow 2 power.toNat, den)
  else (num, den * Nat.pow 2 (-power).toNat)

/-- An exponent with which `num / den` has a mantissa of the format's full width, or the least
exponent of the format. The estimate from the bit lengths is at most one too small. -/
def exponentFor (f : Format) (num den : Nat) : Int :=
  let estimate : Int := (num.log2 : Int) - (den.log2 : Int) - 1 - f.fractionBits
  let (n, d) := scale num den (-estimate)
  let exponent := if 2 * f.hidden * d ≤ n then estimate + 1 else estimate
  max exponent f.leastExponent

/-- The encoding, without a sign, that is nearest to `num / den`; infinity if the quotient is beyond
the largest number by half a step or more. -/
def round (f : Format) (num den : Nat) : Nat :=
  if num = 0 then
    0
  else
    let exponent := f.exponentFor num den
    let (n, d) := scale num den (-exponent)
    let mantissa := roundDiv n d
    let steps := (exponent - f.leastExponent).toNat
    min (steps * f.hidden + mantissa) f.infinity

/-- An encoding with the sign put in. -/
def withSign (f : Format) (negative : Bool) (bits : Nat) : Nat :=
  if negative then bits + f.signBit else bits

/-- The encoding in another format that is nearest to a number. -/
def convert (source target : Format) (bits : Nat) : Nat :=
  match source.decode bits with
  | .nan => target.infinity + 1
  | .infinite negative => target.withSign negative target.infinity
  | .finite negative mantissa exponent =>
    let (n, d) := scale mantissa 1 exponent
    target.withSign negative (target.round n d)

end Format

end CallReplay.Decimal
