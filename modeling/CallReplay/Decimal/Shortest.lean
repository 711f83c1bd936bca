import CallReplay.Decimal.Ieee
import CallReplay.Decimal.Numeral

/-!
# Shortest decimals

A finite floating point number is written with the fewest decimal digits that still read back as it.
Every real number nearer to it than to its neighbours reads back as it, and so do the two half-way
points if its mantissa is even. `shortest` looks at decimal grids from coarse to fine and takes the
first grid that has a point in that interval; of two points the nearer one, and of two equally near
ones the one that `Tie` names.
-/

namespace CallReplay.Decimal

/-- Which of two equally near neighbours is taken. -/
inductive Tie where
  | up
  | even
  deriving DecidableEq

/-- A positive number `digits * 10 ^ exponent`. -/
structure Scientific where
  digits : Nat
  exponent : Int
  deriving DecidableEq

/-- A positive number and the interval of reals that read back as it, over one denominator. -/
structure Rounding where
  low : Nat
  value : Nat
  high : Nat
  den : Nat
  closed : Bool

/-- The interval around `mantissa * 2 ^ exponent`. Below a power of two the neighbour is half as far
away, except below the least normal number. -/
def Rounding.of (f : Format) (mantissa : Nat) (exponent : Int) : Rounding :=
  let below := if mantissa = f.hidden ∧ f.leastExponent < exponent then 1 else 2
  let (unit, den) := Format.scale 1 4 exponent
  ⟨(4 * mantissa - below) * unit, 4 * mantissa * unit, (4 * mantissa + 2) * unit, den,
    mantissa % 2 = 0⟩

/-- Whether `num / den` reads back as the number. -/
def Rounding.contains (r : Rounding) (num den : Nat) : Bool :=
  if r.closed then
    r.low * den ≤ num * r.den && num * r.den ≤ r.high * den
  else
    r.low * den < num * r.den && num * r.den < r.high * den

/-- The exponent of the leading decimal digit of `num / den`. -/
def leadingExponent (num den : Nat) : Int :=
  if den ≤ num then
    ((Nat.toDigits 10 (num / den)).length : Int) - 1
  else
    -((Nat.toDigits 10 ((den + num - 1) / num - 1)).length : Int)

/-- The point of the grid of multiples of `10 ^ exponent` that reads back as the number and is
nearest to it, as a count of grid steps. -/
def Rounding.onGrid? (r : Rounding) (tie : Tie) (exponent : Int) : Option Nat :=
  let unit := if 0 ≤ exponent then Nat.pow 10 exponent.toNat else 1
  let den := if 0 ≤ exponent then 1 else Nat.pow 10 (-exponent).toNat
  let below := r.value * den / (r.den * unit)
  let rest := r.value * den % (r.den * unit)
  let lower := if 0 < below ∧ r.contains (below * unit) den then some below else none
  let upper := if r.contains ((below + 1) * unit) den then some (below + 1) else none
  match lower, upper with
  | none, none => none
  | some n, none => some n
  | none, some n => some n
  | some low, some high =>
    if 2 * rest < r.den * unit then some low
    else if r.den * unit < 2 * rest then some high
    else
      match tie with
      | .up => some high
      | .even => if low % 2 = 0 then some low else some high

/-- Takes the zeros at the end of the digits into the exponent. -/
def Scientific.trim : Nat → Scientific → Scientific
  | 0, d => d
  | n + 1, d =>
    if d.digits % 10 = 0 ∧ d.digits ≠ 0 then trim n ⟨d.digits / 10, d.exponent + 1⟩ else d

/-- Searches grids from the one of `exponent` on, each ten times as fine as the one before it. -/
def Rounding.search (r : Rounding) (tie : Tie) : Nat → Int → Scientific
  | 0, exponent => ⟨(r.onGrid? tie exponent).getD 0, exponent⟩
  | n + 1, exponent =>
    match r.onGrid? tie exponent with
    | some digits => Scientific.trim 20 ⟨digits, exponent⟩
    | none => search r tie n (exponent - 1)

/-- The shortest decimal that reads back as `mantissa * 2 ^ exponent`, which is not zero. Seventeen
digits are enough for either format. -/
def shortest (f : Format) (tie : Tie) (mantissa : Nat) (exponent : Int) : Scientific :=
  let r := Rounding.of f mantissa exponent
  r.search tie 17 (leadingExponent r.value r.den)

/-- How finite numbers are laid out: positionally while the decimal point stands between the two
given places, counted from before the first digit, and with an exponent otherwise. -/
structure Layout where
  leastPoint : Int
  greatestPoint : Int
  tie : Tie
  /-- Whether a positive exponent has a sign. -/
  showPlus : Bool

/-- An exponent as it is written. -/
def Layout.exponent (l : Layout) (n : Int) : Exponent :=
  let sign := if n < 0 then some .minus else if l.showPlus then some .plus else none
  ⟨sign, Nat.toDigits 10 n.natAbs⟩

/-- The written form of a decimal. Positional forms have at least one digit on each side of the
point; a form with an exponent has a point only if it has more than one digit. -/
def Layout.numeral (l : Layout) (negative : Bool) (d : Scientific) : Numeral :=
  let digits := Nat.toDigits 10 d.digits
  let point : Int := digits.length + d.exponent
  if 0 ≤ d.exponent ∧ point ≤ l.greatestPoint then
    ⟨negative, digits ++ List.replicate d.exponent.toNat '0', ['0'], none⟩
  else if 0 < point ∧ point ≤ l.greatestPoint then
    ⟨negative, digits.take point.toNat, digits.drop point.toNat, none⟩
  else if l.leastPoint ≤ point ∧ point ≤ 0 then
    ⟨negative, ['0'], List.replicate (-point).toNat '0' ++ digits, none⟩
  else
    ⟨negative, digits.take 1, digits.drop 1, some (l.exponent (point - 1))⟩

/-- The written form of a finite number given by its parts; zero is `0.0` with its sign. -/
def Layout.finite (l : Layout) (f : Format) (negative : Bool) (mantissa : Nat) (exponent : Int) :
    Numeral :=
  if mantissa = 0 then
    ⟨negative, ['0'], ['0'], none⟩
  else
    l.numeral negative (shortest f l.tie mantissa exponent)

end CallReplay.Decimal
