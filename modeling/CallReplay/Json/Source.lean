import CallReplay.Json

/-!
# Reading JSON text

Reading a text never fails: it finds the tree that the text holds as far as it is JSON, and marks
the place where it stops being JSON. Whoever decodes the tree from its start therefore meets
faults in the order in which they stand in the text, whether they are faults of JSON or of what
the value should be.

Numbers are kept as they are written, and a text whose escapes are not UTF-16 is kept as a text
without content, since neither is a fault in a value that nobody asks for.
-/

namespace CallReplay.Json

open Decimal (Exponent Numeral Sign)

/-- What a text holds, as far as it is JSON. A list or an object that is not closed ends where the
text stops being JSON. -/
inductive Source where
  | null
  | bool (value : Bool)
  | number (numeral : Numeral)
  | text (content : Option String)
  | list (elements : List Source) (closed : Bool)
  | object (members : List (Option String × Source)) (closed : Bool)
  | broken

instance : Inhabited Source := ⟨.broken⟩

/-- The tree of a whole text, and whether nothing follows it. -/
structure Document where
  root : Source
  complete : Bool

/-- Leaves out the white space that JSON allows between its parts. -/
def skipBlank (cs : List Char) : List Char :=
  cs.dropWhile fun c => c == ' ' || c == '\n' || c == '\t' || c == '\r'

/-- Takes a given beginning off. -/
def dropStart? : List Char → List Char → Option (List Char)
  | [], cs => some cs
  | w :: ws, c :: cs => if w = c then dropStart? ws cs else none
  | _ :: _, [] => none

/-- A part of a text between quotes: a character, or an escaped UTF-16 unit. -/
inductive Piece where
  | char (c : Char)
  | unit (code : Nat)

/-- The characters that the parts stand for, unless a surrogate stands alone. -/
def joinPieces? : List Piece → Option (List Char)
  | [] => some []
  | .char c :: rest => (joinPieces? rest).map (c :: ·)
  | .unit u :: rest =>
    if 0xD800 ≤ u ∧ u ≤ 0xDBFF then
      match rest with
      | .unit v :: rest =>
        if 0xDC00 ≤ v ∧ v ≤ 0xDFFF then
          (joinPieces? rest).map
            (Char.ofNat (0x10000 + (u - 0xD800) * 0x400 + (v - 0xDC00)) :: ·)
        else none
      | _ => none
    else if 0xDC00 ≤ u ∧ u ≤ 0xDFFF then
      none
    else
      (joinPieces? rest).map (Char.ofNat u :: ·)

/-- The character that a one-letter escape stands for. -/
def shortEscape? : Char → Option Char
  | '"' => some '"'
  | '\\' => some '\\'
  | '/' => some '/'
  | 'b' => some '\x08'
  | 'f' => some '\x0c'
  | 'n' => some '\n'
  | 'r' => some '\r'
  | 't' => some '\t'
  | _ => none

/-- The parts of a text up to its closing quote, and what follows. -/
def scanPieces : List Char → Option (List Piece × List Char)
  | [] => none
  | '"' :: rest => some ([], rest)
  | '\\' :: 'u' :: a :: b :: c :: d :: rest => do
    let code ← Text.natOfHex? [a, b, c, d]
    let (pieces, rest) ← scanPieces rest
    pure (.unit code :: pieces, rest)
  | '\\' :: e :: rest => do
    let c ← shortEscape? e
    let (pieces, rest) ← scanPieces rest
    pure (.char c :: pieces, rest)
  | c :: rest =>
    if c < ' ' ∨ c = '\\' then none
    else do
      let (pieces, rest) ← scanPieces rest
      pure (.char c :: pieces, rest)

/-- Takes a text up to its closing quote. Its content is missing if the escapes are not UTF-16. -/
def scanText (cs : List Char) : Option (Option String × List Char) := do
  let (pieces, rest) ← scanPieces cs
  pure ((joinPieces? pieces).map String.ofList, rest)

/-- Splits off the digits at the start. -/
def takeDigits (cs : List Char) : List Char × List Char :=
  (cs.takeWhile Char.isDigit, cs.dropWhile Char.isDigit)

/-- Takes the digits behind a point, of which there is at least one. -/
def scanFraction (cs : List Char) : Option (List Char × List Char) :=
  match cs with
  | '.' :: rest =>
    match takeDigits rest with
    | ([], _) => none
    | (digits, rest) => some (digits, rest)
  | _ => some ([], cs)

/-- Takes an exponent, if there is one, which has at least one digit. -/
def scanExponent (cs : List Char) : Option (Option Exponent × List Char) :=
  match cs with
  | c :: rest =>
    if c = 'e' ∨ c = 'E' then
      let (sign, rest) :=
        match rest with
        | '-' :: rest => (some Sign.minus, rest)
        | '+' :: rest => (some Sign.plus, rest)
        | rest => (none, rest)
      match takeDigits rest with
      | ([], _) => none
      | (digits, rest) => some (some ⟨sign, digits⟩, rest)
    else some (none, cs)
  | [] => some (none, [])

/-- Reads a number after its sign. A first zero is the only whole digit. -/
def scanUnsigned (negative : Bool) (cs : List Char) : Option (Numeral × List Char) := do
  let (whole, rest) := takeDigits cs
  if whole = [] ∨ (whole.head? = some '0' ∧ whole.length ≠ 1) then none
  else do
    let (fraction, rest) ← scanFraction rest
    let (exponent, rest) ← scanExponent rest
    pure (⟨negative, whole, fraction, exponent⟩, rest)

/-- Takes a number. A minus sign may stand before it. -/
def scanNumeral : List Char → Option (Numeral × List Char)
  | '-' :: rest => scanUnsigned true rest
  | cs => scanUnsigned false cs

/-- The outcome of reading a part of a value, where failing breaks the tree. -/
def orBroken {α : Type} (make : α → Source) : Option (α × List Char) → Source × List Char
  | some (a, rest) => (make a, rest)
  | none => (.broken, [])

mutual

/-- Reads a value, with at most so many steps. What follows a break is lost. -/
def scanValue : Nat → List Char → Source × List Char
  | 0, _ => (.broken, [])
  | n + 1, cs =>
    match skipBlank cs with
    | 'n' :: rest => orBroken (fun _ => .null) ((dropStart? ['u', 'l', 'l'] rest).map ((), ·))
    | 't' :: rest => orBroken (fun _ => .bool true) ((dropStart? ['r', 'u', 'e'] rest).map ((), ·))
    | 'f' :: rest =>
      orBroken (fun _ => .bool false) ((dropStart? ['a', 'l', 's', 'e'] rest).map ((), ·))
    | '"' :: rest => orBroken .text (scanText rest)
    | '[' :: rest =>
      match skipBlank rest with
      | ']' :: rest => (.list [] true, rest)
      | _ =>
        let (elements, closed, rest) := scanElements n rest
        (.list elements closed, rest)
    | '{' :: rest =>
      match skipBlank rest with
      | '}' :: rest => (.object [] true, rest)
      | _ =>
        let (members, closed, rest) := scanMembers n rest
        (.object members closed, rest)
    | cs => orBroken .number (scanNumeral cs)

/-- Reads the elements of a list up to its end; the flag tells whether the list is closed. -/
def scanElements : Nat → List Char → List Source × Bool × List Char
  | 0, _ => ([], false, [])
  | n + 1, cs =>
    let (element, rest) := scanValue n cs
    match skipBlank rest with
    | ']' :: rest => ([element], true, rest)
    | ',' :: rest =>
      let (elements, closed, rest) := scanElements n rest
      (element :: elements, closed, rest)
    | _ => ([element], false, [])

/-- Reads the members of an object up to its end; the flag tells whether the object is closed. -/
def scanMembers : Nat → List Char → List (Option String × Source) × Bool × List Char
  | 0, _ => ([], false, [])
  | n + 1, cs =>
    match skipBlank cs with
    | '"' :: rest =>
      match scanText rest with
      | none => ([], false, [])
      | some (key, rest) =>
        match skipBlank rest with
        | ':' :: rest =>
          let (value, rest) := scanValue n rest
          match skipBlank rest with
          | '}' :: rest => ([(key, value)], true, rest)
          | ',' :: rest =>
            let (members, closed, rest) := scanMembers n rest
            ((key, value) :: members, closed, rest)
          | _ => ([(key, value)], false, [])
        | _ => ([(key, .broken)], false, [])
    | _ => ([], false, [])

end

/-- Reads a whole text. Every step takes a character or enters a list or an object, so twice the
length of the text is enough. -/
def read (s : String) : Document :=
  let cs := s.toList
  let (root, rest) := scanValue (2 * cs.length + 2) cs
  ⟨root, (skipBlank rest).isEmpty⟩

mutual

/-- Whether the tree is JSON all through. -/
def Source.isWhole : Source → Bool
  | .broken => false
  | .list elements closed => areWhole elements && closed
  | .object members closed => membersWhole members && closed
  | _ => true

/-- Whether every tree is JSON all through. -/
def areWhole : List Source → Bool
  | [] => true
  | e :: es => e.isWhole && areWhole es

/-- Whether the value of every member is JSON all through. -/
def membersWhole : List (Option String × Source) → Bool
  | [] => true
  | (_, v) :: ms => v.isWhole && membersWhole ms

end

mutual

/-- The tree that is read from the written form of a value. -/
def source : Json → Source
  | .null => .null
  | .bool b => .bool b
  | .number n => .number n
  | .text s => .text (some s)
  | .list es => .list (sources es) true
  | .object ms => .object (memberSources ms) true

/-- The sources of values. -/
def sources : List Json → List Source
  | [] => []
  | e :: es => source e :: sources es

/-- The sources of members. -/
def memberSources : List (String × Json) → List (Option String × Source)
  | [] => []
  | (k, v) :: ms => (some k, source v) :: memberSources ms

end

mutual

/-- The value that a tree holds if it is JSON all through and every text in it has content. -/
def Source.value? : Source → Option Json
  | .null => some .null
  | .bool b => some (.bool b)
  | .number n => some (.number n)
  | .text s => s.map .text
  | .list es closed => do
    let es ← values? es
    if closed then some (.list es) else none
  | .object ms closed => do
    let ms ← memberValues? ms
    if closed then some (.object ms) else none
  | .broken => none

/-- The values of sources, if each of them is JSON. -/
def values? : List Source → Option (List Json)
  | [] => some []
  | e :: es => do
    let v ← e.value?
    let vs ← values? es
    pure (v :: vs)

/-- The members of sources, if each of them is JSON. -/
def memberValues? : List (Option String × Source) → Option (List (String × Json))
  | [] => some []
  | (k, v) :: ms => do
    let k ← k
    let v ← v.value?
    let ms ← memberValues? ms
    pure ((k, v) :: ms)

end

/-- The value of a text, if the text is JSON and nothing else. -/
def parse? (s : String) : Option Json :=
  let d := read s
  if d.complete then d.root.value? else none

end CallReplay.Json
