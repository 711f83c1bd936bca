/-!
# Replacing text

Every occurrence of a pattern is replaced, from left to right; an occurrence begins after the end of
the one before it, and what is put in is not searched again.
-/

namespace CallReplay.Text

/-- Replaces every occurrence of a pattern in the characters that are left after so many characters
of an occurrence are passed over. -/
def replaceFrom (pattern replacement : List Char) : (skip : Nat) → List Char → List Char
  | _, [] => []
  | skip + 1, _ :: rest => replaceFrom pattern replacement skip rest
  | 0, c :: rest =>
    if pattern.isPrefixOf (c :: rest) then
      replacement ++ replaceFrom pattern replacement (pattern.length - 1) rest
    else
      c :: replaceFrom pattern replacement 0 rest

/-- Replaces every occurrence of a pattern that is not empty. -/
def replace (s pattern replacement : String) : String :=
  String.ofList (replaceFrom pattern.toList replacement.toList 0 s.toList)

end CallReplay.Text
