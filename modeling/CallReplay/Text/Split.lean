/-!
# Splitting text

A text, or any other list, is cut at every element that is a separator. There is one part more than
there are separators, so the first part always exists and is returned on its own.
-/

namespace CallReplay.Text

variable {α : Type} [DecidableEq α]

/-- The part before the first separator, and the parts after it. -/
def split (separator : α) : List α → List α × List (List α)
  | [] => ([], [])
  | c :: rest =>
    let (first, others) := split separator rest
    if c = separator then ([], first :: others) else (c :: first, others)

/-- All parts of a text. -/
def parts (separator : α) (cs : List α) : List (List α) :=
  let (first, others) := split separator cs
  first :: others

/-- What is left of a text between an opening and a closing text. -/
def unwrap? (opening closing cs : List Char) : Option (List Char) :=
  if opening.isPrefixOf cs && closing.isSuffixOf (cs.drop opening.length) then
    let inner := cs.drop opening.length
    some (inner.take (inner.length - closing.length))
  else none

end CallReplay.Text
