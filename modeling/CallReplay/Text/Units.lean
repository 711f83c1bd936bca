/-!
# UTF-16 units

A character of the basic plane is a single 16-bit unit; every other character is a pair of
surrogates.
-/

namespace CallReplay.Text

/-- Whether a character is a single UTF-16 unit. -/
def isSingleUnit (c : Char) : Bool := c.toNat < 0x10000

/-- The UTF-16 units of a character. -/
def units (c : Char) : List UInt16 :=
  if isSingleUnit c then
    [UInt16.ofNat c.toNat]
  else
    let offset := c.toNat - 0x10000
    [UInt16.ofNat (0xD800 + offset / 0x400), UInt16.ofNat (0xDC00 + offset % 0x400)]

end CallReplay.Text
