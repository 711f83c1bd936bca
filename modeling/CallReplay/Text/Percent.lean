import CallReplay.Text.Hex
import CallReplay.Text.Split
import CallReplay.Text.Utf8

/-!
# Percent encoding

In the target of a request a byte may be written as a percent sign and two hexadecimal digits. A
percent sign that is not followed by two digits stands for itself. A query is a list of names and
values that are encoded in this way, in which a plus sign stands for a space.
-/

namespace CallReplay.Text.Percent

/-- The byte that two bytes stand for as hexadecimal digits. -/
def byte? (high low : UInt8) : Option UInt8 := do
  let h ← hexValue? (Char.ofNat high.toNat)
  let l ← hexValue? (Char.ofNat low.toNat)
  pure (UInt8.ofNat (16 * h + l))

/-- The byte of a percent sign. -/
def sign : UInt8 := 0x25

/-- The bytes that are written in some bytes. -/
def decode : List UInt8 → List UInt8
  | b :: high :: low :: rest =>
    match if b = sign then byte? high low else none with
    | some byte => byte :: decode rest
    | none => b :: decode (high :: low :: rest)
  | bytes => bytes

/-- The text that is written in a part of a path. -/
def text? (part : List Char) : Option String :=
  (Utf8.decode (decode (Utf8.encode (String.ofList part)))).toOption

/-- The text that is written in a name or a value of a query. Bytes that are not UTF-8 are
replaced. -/
def formText (part : List Char) : String :=
  let spaced := part.map fun c => if c = '+' then ' ' else c
  Utf8.lossy (decode (Utf8.encode (String.ofList spaced)))

/-- A name and its value; without an equals sign the value is empty. -/
def formPair (part : List Char) : String × String :=
  let (name, value) := part.span (· ≠ '=')
  (formText name, formText (value.drop 1))

/-- The names and values of a query, in order. -/
def formPairs (query : List Char) : List (String × String) :=
  ((parts '&' query).filter fun part => !part.isEmpty).map formPair

end CallReplay.Text.Percent
