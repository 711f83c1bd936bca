import CallReplay.Text.Hex
import CallReplay.Text.Split

/-!
# Session ids

A session has an id of 128 bits. It is written as thirty-two hexadecimal digits in groups with
hyphens between them. It is read from that form, bare, in braces or behind `urn:uuid:`, and from the
digits alone. Letters may have either case.
-/

namespace CallReplay

/-- The id of a session. -/
structure SessionId where
  value : BitVec 128
  deriving DecidableEq

namespace SessionId

/-- The lengths of the groups of digits. -/
def groupLengths : List Nat := [8, 4, 4, 4, 12]

/-- Cuts digits into groups of the given lengths. -/
def groups : List Nat → List Char → List (List Char)
  | [], _ => []
  | n :: ns, digits => digits.take n :: groups ns (digits.drop n)

/-- The written form of an id. -/
def text (id : SessionId) : String :=
  let digits := (Text.hexOfNat 32 id.value.toNat).toList
  "-".intercalate ((groups groupLengths digits).map String.ofList)

/-- The id that thirty-two digits stand for. -/
def ofDigits? (digits : List Char) : Option SessionId :=
  if digits.length = 32 then (Text.natOfHex? digits).map fun n => ⟨BitVec.ofNat 128 n⟩ else none

/-- The id that groups of digits with hyphens between them stand for. -/
def ofHyphenated? (cs : List Char) : Option SessionId :=
  let groups := Text.parts '-' cs
  if groups.map List.length = groupLengths then ofDigits? groups.flatten else none

/-- Reads an id in any of its forms. -/
def parse? (s : String) : Option SessionId :=
  let cs := s.toList.map Char.toLower
  ofDigits? cs <|> ofHyphenated? cs <|>
    (Text.unwrap? ['\x7b'] ['\x7d'] cs).bind ofHyphenated? <|>
    (Text.unwrap? "urn:uuid:".toList [] cs).bind ofHyphenated?

end SessionId

end CallReplay
