import CallReplay.Decimal.Numeral
import CallReplay.Text.Hex

/-!
# JSON values

A JSON value as a tree, and its two written forms: `Json.render` without any space, and
`Json.pretty` with two spaces of indentation for each level.
-/

namespace CallReplay

open Decimal (Numeral)

/-- A JSON value. The members of an object keep their order. -/
inductive Json where
  | null
  | bool (value : Bool)
  | number (numeral : Numeral)
  | text (content : String)
  | list (elements : List Json)
  | object (members : List (String × Json))

namespace Json

instance : Inhabited Json := ⟨.null⟩

/-- An integer as JSON. -/
def int (n : Int) : Json := .number (Numeral.ofInt n)

/-- A natural number as JSON. -/
def nat (n : Nat) : Json := .number (Numeral.ofNat n)

/-- A text that may be missing; null stands for none. -/
def ofOption {α : Type} (f : α → Json) : Option α → Json
  | none => .null
  | some a => f a

/-- A character as it is written between double quotes. -/
def escapeChar (c : Char) : List Char :=
  if c = '"' then ['\\', '"']
  else if c = '\\' then ['\\', '\\']
  else if c = '\n' then ['\\', 'n']
  else if c = '\r' then ['\\', 'r']
  else if c = '\t' then ['\\', 't']
  else if c = '\x08' then ['\\', 'b']
  else if c = '\x0c' then ['\\', 'f']
  else if c < ' ' then
    ['\\', 'u', '0', '0', Text.hexDigit (c.toNat / 16), Text.hexDigit (c.toNat % 16)]
  else [c]

/-- A text between double quotes. -/
def quote (s : String) : List Char :=
  '"' :: s.toList.flatMap escapeChar ++ ['"']

mutual

/-- The characters of a value without any space. -/
def chars : Json → List Char
  | null => "null".toList
  | bool true => "true".toList
  | bool false => "false".toList
  | number n => n.chars
  | text s => quote s
  | list [] => ['[', ']']
  | list (e :: es) => '[' :: chars e ++ charsOfElements es
  | object [] => ['{', '}']
  | object ((k, v) :: ms) => '{' :: quote k ++ ':' :: chars v ++ charsOfMembers ms

/-- The elements after the first one and the end of the list. -/
def charsOfElements : List Json → List Char
  | [] => [']']
  | e :: es => ',' :: chars e ++ charsOfElements es

/-- The members after the first one and the end of the object. -/
def charsOfMembers : List (String × Json) → List Char
  | [] => ['}']
  | (k, v) :: ms => ',' :: quote k ++ ':' :: chars v ++ charsOfMembers ms

end

/-- A value written without any space. -/
def render (j : Json) : String := String.ofList (chars j)

/-- A line feed and the indentation of a level. -/
def newLine (level : Nat) : List Char := '\n' :: List.replicate (2 * level) ' '

mutual

/-- The characters of a value at a level of indentation. -/
def prettyChars (level : Nat) : Json → List Char
  | null => "null".toList
  | bool true => "true".toList
  | bool false => "false".toList
  | number n => n.chars
  | text s => quote s
  | list [] => ['[', ']']
  | list (e :: es) =>
    '[' :: newLine (level + 1) ++ prettyChars (level + 1) e ++ prettyElements level es
  | object [] => ['{', '}']
  | object ((k, v) :: ms) =>
    '{' :: newLine (level + 1) ++ quote k ++ ':' :: ' ' :: prettyChars (level + 1) v ++
      prettyMembers level ms

/-- The elements after the first one and the end of the list. -/
def prettyElements (level : Nat) : List Json → List Char
  | [] => newLine level ++ [']']
  | e :: es =>
    ',' :: newLine (level + 1) ++ prettyChars (level + 1) e ++ prettyElements level es

/-- The members after the first one and the end of the object. -/
def prettyMembers (level : Nat) : List (String × Json) → List Char
  | [] => newLine level ++ ['}']
  | (k, v) :: ms =>
    ',' :: newLine (level + 1) ++ quote k ++ ':' :: ' ' :: prettyChars (level + 1) v ++
      prettyMembers level ms

end

/-- A value written with two spaces of indentation for each level. -/
def pretty (j : Json) : String := String.ofList (prettyChars 0 j)

mutual

/-- The value with the members of every object in the order of their names. -/
def sorted : Json → Json
  | list es => .list (sortedElements es)
  | object ms => .object ((sortedMembers ms).mergeSort fun a b => !(b.1 < a.1))
  | j => j

/-- Sorts within each element. -/
def sortedElements : List Json → List Json
  | [] => []
  | e :: es => sorted e :: sortedElements es

/-- Sorts within each member. -/
def sortedMembers : List (String × Json) → List (String × Json)
  | [] => []
  | (k, v) :: ms => (k, sorted v) :: sortedMembers ms

end

/-- The member of a name. Of several the last counts. -/
def get? (j : Json) (name : String) : Option Json :=
  match j with
  | object ms => (ms.reverse.find? fun m => m.1 == name).map (·.2)
  | _ => none

end Json

end CallReplay
