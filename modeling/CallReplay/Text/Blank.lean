/-!
# White space

The characters with the Unicode property White_Space, and the test for a text that holds nothing
else.
-/

namespace CallReplay.Text

/-- The characters with the property White_Space. -/
def blankRanges : List (Nat × Nat) :=
  [
    (0x9, 0xD), (0x20, 0x20), (0x85, 0x85), (0xA0, 0xA0), (0x1680, 0x1680), (0x2000, 0x200A),
    (0x2028, 0x2029), (0x202F, 0x202F), (0x205F, 0x205F), (0x3000, 0x3000)
  ]

/-- Whether a character has the property White_Space. -/
def isBlankChar (c : Char) : Bool :=
  blankRanges.any fun r => r.1 ≤ c.toNat && c.toNat ≤ r.2

/-- Whether a text is empty once white space is taken off. -/
def isBlank (s : String) : Bool :=
  s.toList.all isBlankChar

end CallReplay.Text
