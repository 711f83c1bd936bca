/-!
# Written numbers

A numeral is a number as it is written in decimal: a sign, the digits before and after the point,
and an exponent if one is written.
-/

namespace CallReplay.Decimal

/-- The sign of an exponent. -/
inductive Sign where
  | plus
  | minus
  deriving DecidableEq

/-- The character of a sign. -/
def Sign.char : Sign → Char
  | plus => '+'
  | minus => '-'

/-- The exponent part of a numeral: its sign, if one is written, and its digits. -/
structure Exponent where
  sign : Option Sign
  digits : List Char
  deriving DecidableEq

/-- A number as it is written. An empty fraction is written without a point. -/
structure Numeral where
  negative : Bool
  whole : List Char
  fraction : List Char
  exponent : Option Exponent
  deriving DecidableEq

/-- The characters of an exponent. -/
def Exponent.chars (e : Exponent) : List Char :=
  'e' :: (e.sign.map Sign.char).toList ++ e.digits

namespace Numeral

/-- The characters of a numeral. -/
def chars (n : Numeral) : List Char :=
  (if n.negative then ['-'] else []) ++ n.whole ++
    (if n.fraction.isEmpty then [] else '.' :: n.fraction) ++
    (match n.exponent with
      | none => []
      | some e => e.chars)

/-- A numeral as a text. -/
def render (n : Numeral) : String := String.ofList n.chars

/-- A natural number in decimal. -/
def ofNat (n : Nat) : Numeral := ⟨false, Nat.toDigits 10 n, [], none⟩

/-- An integer in decimal. -/
def ofInt (n : Int) : Numeral := ⟨n < 0, Nat.toDigits 10 n.natAbs, [], none⟩

/-- Whether the numeral is written without a fraction and without an exponent. -/
def isInteger (n : Numeral) : Bool := n.fraction.isEmpty && n.exponent.isNone

end Numeral

/-- The number that decimal digits stand for. -/
def natOfDigits (digits : List Char) : Nat :=
  digits.foldl (fun n c => 10 * n + (c.toNat - 0x30)) 0

end CallReplay.Decimal
