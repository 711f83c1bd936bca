import CallReplay.Json.Source
import CallReplay.Proofs.Literal

/-!
# Reading JSON text that was written

JSON allows white space between the parts of a text. `Spells` says which texts stand for a value;
the two written forms are among them. Whatever the white space, reading a text that spells a value
finds the tree of that value and nothing after it. A number ends where neither a digit nor a point
nor an exponent can follow, so the texts are read with anything behind them that stops a number.
-/

namespace CallReplay.Json

open Decimal (Exponent Numeral Sign)

/-- Characters that are decimal digits. -/
def Digits (cs : List Char) : Prop := ∀ c ∈ cs, c.isDigit = true

/-- Numerals as JSON has them: the whole part has digits, the first of several is not zero, and an
exponent has digits. -/
structure Proper (n : Numeral) : Prop where
  whole : Digits n.whole
  someWhole : n.whole ≠ []
  leading : n.whole.head? = some '0' → n.whole.length = 1
  fraction : Digits n.fraction
  exponent : ∀ e, n.exponent = some e → Digits e.digits ∧ e.digits ≠ []

/-- What may stand behind a number: nothing, or a character that could not belong to it. -/
def Stops (rest : List Char) : Prop :=
  ∀ c, rest.head? = some c → c.isDigit = false ∧ c ≠ '.' ∧ c ≠ 'e' ∧ c ≠ 'E'

/-- White space as JSON allows it between its parts. -/
def Blank (cs : List Char) : Prop :=
  ∀ c ∈ cs, (c == ' ' || c == '\n' || c == '\t' || c == '\r') = true

section

variable {cs rest : List Char} {n : Numeral}

/-! ### Numbers -/

/-- A digit is no other character than a digit. -/
lemma ne_of_isDigit {c d : Char} (digit : c.isDigit = true) (other : d.isDigit = false) :
    c ≠ d := by
  rintro rfl
  rw [other] at digit
  cases digit

/-- A natural number is written as JSON has numbers. -/
lemma proper_ofNat (n : Nat) : Proper (Numeral.ofNat n) where
  whole _ h := Literal.isDigit_of_mem_toDigits h
  someWhole := Nat.toDigits_ne_nil
  leading h := by
    have zero : n = 0 := Literal.eq_zero_of_head?_toDigits h
    subst zero
    rfl
  fraction := List.forall_mem_nil _
  exponent _ h := by cases h

/-- An integer is written as JSON has numbers. -/
lemma proper_ofInt (i : Int) : Proper (Numeral.ofInt i) where
  whole := (proper_ofNat i.natAbs).whole
  someWhole := (proper_ofNat i.natAbs).someWhole
  leading := (proper_ofNat i.natAbs).leading
  fraction := (proper_ofNat i.natAbs).fraction
  exponent := (proper_ofNat i.natAbs).exponent

/-- All digits are taken where something else comes behind them. -/
lemma takeDigits_append (digits : Digits cs) (stop : ∀ c, rest.head? = some c → c.isDigit = false) :
    takeDigits (cs ++ rest) = (cs, rest) := by
  rw [takeDigits, List.takeWhile_append_of_pos digits, List.dropWhile_append_of_pos digits]
  cases rest with
  | nil => simp
  | cons c rest => simp [stop c rfl]

/-- The exponent of a numeral as it is written. -/
def exponentChars (n : Numeral) : List Char := (n.exponent.map Exponent.chars).getD []

/-- The fraction of a numeral as it is written. -/
def fractionChars (n : Numeral) : List Char := if n.fraction.isEmpty then [] else '.' :: n.fraction

/-- A numeral is written as its sign, its whole part, its fraction and its exponent. -/
lemma chars_eq (n : Numeral) :
    n.chars = (if n.negative then ['-'] else []) ++
    (n.whole ++ (fractionChars n ++ exponentChars n)) := by
  obtain ⟨negative, whole, fraction, exponent⟩ := n
  cases exponent <;> simp [Numeral.chars, fractionChars, exponentChars]

/-- The exponent of a numeral is read back. -/
lemma scanExponent_append (proper : Proper n) (stops : Stops rest) :
    scanExponent (exponentChars n ++ rest) = some (n.exponent, rest) := by
  cases shape : n.exponent with
  | none =>
    simp only [exponentChars, shape, Option.map_none, Option.getD_none, List.nil_append]
    cases rest with
    | nil => rfl
    | cons c rest =>
      obtain ⟨-, -, lower, upper⟩ := stops c rfl
      simp [scanExponent, lower, upper]
  | some e =>
    obtain ⟨sign, digits⟩ := e
    obtain ⟨all, nonempty⟩ := proper.exponent _ shape
    have taken : takeDigits (digits ++ rest) = (digits, rest) :=
      takeDigits_append all fun c h => (stops c h).1
    obtain ⟨d, ds, rfl⟩ := List.exists_cons_of_ne_nil nonempty
    have digit : d.isDigit = true := all d List.mem_cons_self
    simp only [exponentChars, shape, Option.map_some, Option.getD_some, Exponent.chars,
      List.cons_append]
    cases sign with
    | none =>
      have minus : d ≠ '-' := ne_of_isDigit digit rfl
      have plus : d ≠ '+' := ne_of_isDigit digit rfl
      simp only [List.cons_append] at taken
      simp [scanExponent, minus, plus, taken]
    | some sign =>
      simp only [List.cons_append] at taken
      cases sign <;> simp [scanExponent, Sign.char, taken]

/-- What may stand behind a number may stand behind its whole digits with an exponent in between. -/
lemma head?_exponentChars (stops : Stops rest) (c : Char)
    (h : (exponentChars n ++ rest).head? = some c) :
    c.isDigit = false ∧ c ≠ '.' := by
  cases shape : n.exponent with
  | none =>
    simp only [exponentChars, shape, Option.map_none, Option.getD_none, List.nil_append] at h
    exact ⟨(stops c h).1, (stops c h).2.1⟩
  | some e =>
    simp only [exponentChars, shape, Option.map_some, Option.getD_some, Exponent.chars,
      List.cons_append, List.head?_cons, Option.some.injEq] at h
    subst h
    decide

/-- The fraction of a numeral is read back. -/
lemma scanFraction_append (proper : Proper n) (stops : Stops rest) :
    scanFraction (fractionChars n ++ (exponentChars n ++ rest)) =
    some (n.fraction, exponentChars n ++ rest) := by
  have behind := head?_exponentChars (n := n) stops
  generalize exponentChars n ++ rest = more at behind ⊢
  cases shape : n.fraction with
  | nil =>
    simp only [fractionChars, shape, List.isEmpty_nil, if_true, List.nil_append]
    cases more with
    | nil => rfl
    | cons c more =>
      have point : c ≠ '.' := (behind c rfl).2
      simp [scanFraction, point]
  | cons d ds =>
    have taken : takeDigits (n.fraction ++ more) = (n.fraction, more) :=
      takeDigits_append proper.fraction fun c h => (behind c h).1
    rw [shape] at taken
    simp only [List.cons_append] at taken
    simp [fractionChars, shape, scanFraction, taken]

/-- A numeral is read back from behind its sign. -/
lemma scanUnsigned_append (proper : Proper n) (stops : Stops rest) :
    scanUnsigned n.negative (n.whole ++ (fractionChars n ++ (exponentChars n ++ rest))) =
    some (n, rest) := by
  have taken : takeDigits (n.whole ++ (fractionChars n ++ (exponentChars n ++ rest))) =
      (n.whole, fractionChars n ++ (exponentChars n ++ rest)) := by
    refine takeDigits_append proper.whole fun c h => ?_
    cases shape : n.fraction with
    | nil =>
      simp only [fractionChars, shape, List.isEmpty_nil, if_true, List.nil_append] at h
      exact (head?_exponentChars stops c h).1
    | cons d ds =>
      simp only [fractionChars, shape, List.isEmpty_cons, Bool.false_eq_true, if_false,
        List.cons_append, List.head?_cons, Option.some.injEq] at h
      subst h
      decide
  have accepted : ¬(n.whole = [] ∨ n.whole.head? = some '0' ∧ n.whole.length ≠ 1) := by
    rintro (none | ⟨zero, several⟩)
    · exact proper.someWhole none
    · exact several (proper.leading zero)
  simp only [scanUnsigned, taken, if_neg accepted, scanFraction_append proper stops,
    scanExponent_append proper stops, Option.bind_eq_bind, Option.bind_some, pure]

/-- The first character of a number is a sign or a digit. -/
lemma chars_head (proper : Proper n) :
    ∃ c cs, n.chars = c :: cs ∧ (c = '-' ∨ c.isDigit = true) := by
  obtain ⟨d, ds, shape⟩ := List.exists_cons_of_ne_nil proper.someWhole
  have digit : d.isDigit = true := proper.whole d (shape ▸ List.mem_cons_self)
  cases sign : n.negative with
  | true => exact ⟨'-', _, by rw [chars_eq, sign]; rfl, .inl rfl⟩
  | false => exact ⟨d, _, by rw [chars_eq, sign, shape]; rfl, .inr digit⟩

/-- A numeral is read back if what comes behind it could not belong to it. -/
lemma scanNumeral_append (proper : Proper n) (stops : Stops rest) :
    scanNumeral (n.chars ++ rest) = some (n, rest) := by
  have unsigned := scanUnsigned_append proper stops
  rw [chars_eq]
  simp only [List.append_assoc]
  cases sign : n.negative with
  | true =>
    rw [sign] at unsigned
    exact unsigned
  | false =>
    rw [sign] at unsigned
    obtain ⟨d, ds, shape⟩ := List.exists_cons_of_ne_nil proper.someWhole
    have digit : d.isDigit = true := proper.whole d (shape ▸ List.mem_cons_self)
    have minus : d ≠ '-' := ne_of_isDigit digit rfl
    rw [shape] at unsigned ⊢
    simp only [Bool.false_eq_true, if_false, List.nil_append, List.cons_append] at unsigned ⊢
    simpa [scanNumeral, minus] using unsigned

end

/-! ### Texts -/

/-- What a written character is read as: control characters without an escape of their own are
written by their code. -/
def pieceOf (c : Char) : Piece :=
  if c < ' ' ∧ c ∉ ['\n', '\r', '\t', '\x08', '\x0c'] then .unit c.toNat else .char c

/-- The code of a control character is read back. -/
lemma natOfHex?_control {n : Nat} (h : n < 32) :
    Text.natOfHex? ['0', '0', Text.hexDigit (n / 16), Text.hexDigit (n % 16)] = some n := by
  revert n
  decide

/-- A one-letter escape is read as the character that it stands for. -/
lemma scanPieces_shortEscape {e c : Char} (known : shortEscape? e = some c) (rest : List Char) :
    scanPieces ('\\' :: e :: rest) = (scanPieces rest).map fun p => (.char c :: p.1, p.2) := by
  have noCode : e ≠ 'u' := by rintro rfl; cases known
  cases h : scanPieces rest <;> simp [scanPieces, noCode, known, h]

/-- A written character is read as one piece. -/
lemma scanPieces_escapeChar (c : Char) (rest : List Char) :
    scanPieces (escapeChar c ++ rest) = (scanPieces rest).map fun p => (pieceOf c :: p.1, p.2) := by
  unfold escapeChar
  split_ifs with quoted slash feed return' tab back form control
  · subst quoted; exact scanPieces_shortEscape rfl rest
  · subst slash; exact scanPieces_shortEscape rfl rest
  · subst feed; exact scanPieces_shortEscape rfl rest
  · subst return'; exact scanPieces_shortEscape rfl rest
  · subst tab; exact scanPieces_shortEscape rfl rest
  · subst back; exact scanPieces_shortEscape rfl rest
  · subst form; exact scanPieces_shortEscape rfl rest
  · have code : c.toNat < 32 := control
    have coded : pieceOf c = .unit c.toNat :=
      if_pos ⟨control, by simp [feed, return', tab, back, form]⟩
    cases h : scanPieces rest <;> simp [scanPieces, natOfHex?_control code, coded, h]
  · have plain : pieceOf c = .char c := if_neg fun h => control h.1
    cases h : scanPieces rest <;> simp [scanPieces, slash, control, plain, h]

/-- A control character is no surrogate, so its code stands for it. -/
lemma joinPieces?_pieceOf (c : Char) (rest : List Piece) :
    joinPieces? (pieceOf c :: rest) = (joinPieces? rest).map (c :: ·) := by
  unfold pieceOf
  split
  next control =>
    have code : c.toNat < 32 := control.1
    have high : ¬(0xD800 ≤ c.toNat ∧ c.toNat ≤ 0xDBFF) := by omega
    have low : ¬(0xDC00 ≤ c.toNat ∧ c.toNat ≤ 0xDFFF) := by omega
    rw [joinPieces?.eq_def]
    simp only [if_neg high, if_neg low, Char.ofNat_toNat]
  next => rfl

/-- A written text is read as the pieces of its characters. -/
lemma scanPieces_flatMap (cs rest : List Char) :
    scanPieces (cs.flatMap escapeChar ++ '"' :: rest) = some (cs.map pieceOf, rest) := by
  induction cs with
  | nil => rfl
  | cons c cs ih => rw [List.flatMap_cons, List.append_assoc, scanPieces_escapeChar, ih]; rfl

/-- The pieces of characters are joined to these characters. -/
lemma joinPieces?_map (cs : List Char) : joinPieces? (cs.map pieceOf) = some cs := by
  induction cs with
  | nil => rfl
  | cons c cs ih => rw [List.map_cons, joinPieces?_pieceOf, ih]; rfl

/-- A quoted text is read back, whatever its characters. -/
lemma scanText_quote (s : String) (rest : List Char) :
    scanText (s.toList.flatMap escapeChar ++ '"' :: rest) = some (some s, rest) := by
  simp only [scanText, scanPieces_flatMap, Option.bind_eq_bind, Option.bind_some, joinPieces?_map,
    Option.map_some, String.ofList_toList, pure]

/-! ### Values -/

mutual

/-- A text stands for a value: texts and numbers are as the program writes them, and there is any
white space between the parts. -/
inductive Spells : Json → List Char → Prop
  | null : Spells .null "null".toList
  | isTrue : Spells (.bool true) "true".toList
  | isFalse : Spells (.bool false) "false".toList
  | number {n : Numeral} (proper : Proper n) : Spells (.number n) n.chars
  | text (s : String) : Spells (.text s) (quote s)
  | emptyList {gap : List Char} (blank : Blank gap) : Spells (.list []) ('[' :: (gap ++ [']']))
  | list {es : List Json} {cs : List Char} (body : SpellsElements es cs) :
      Spells (.list es) ('[' :: cs)
  | emptyObject {gap : List Char} (blank : Blank gap) : Spells (.object []) ('{' :: (gap ++ ['}']))
  | object {ms : List (String × Json)} {cs : List Char} (body : SpellsMembers ms cs) :
      Spells (.object ms) ('{' :: cs)

/-- A text stands for the elements of a list, up to the end of the list. -/
inductive SpellsElements : List Json → List Char → Prop
  | last {e : Json} {cs before after : List Char} (blank : Blank before) (element : Spells e cs)
      (blank' : Blank after) : SpellsElements [e] (before ++ (cs ++ (after ++ [']'])))
  | cons {e : Json} {es : List Json} {cs ds before after : List Char} (blank : Blank before)
      (element : Spells e cs) (blank' : Blank after) (more : SpellsElements es ds) :
      SpellsElements (e :: es) (before ++ (cs ++ (after ++ ',' :: ds)))

/-- A text stands for the members of an object, up to the end of the object. -/
inductive SpellsMembers : List (String × Json) → List Char → Prop
  | last {k : String} {v : Json} {cs before named between after : List Char} (blank : Blank before)
      (blankNamed : Blank named) (blankBetween : Blank between) (value : Spells v cs)
      (blank' : Blank after) :
      SpellsMembers [(k, v)]
        (before ++ (quote k ++ (named ++ ':' :: (between ++ (cs ++ (after ++ ['}']))))))
  | cons {k : String} {v : Json} {ms : List (String × Json)}
      {cs ds before named between after : List Char} (blank : Blank before)
      (blankNamed : Blank named) (blankBetween : Blank between) (value : Spells v cs)
      (blank' : Blank after) (more : SpellsMembers ms ds) :
      SpellsMembers ((k, v) :: ms)
        (before ++ (quote k ++ (named ++ ':' :: (between ++ (cs ++ (after ++ ',' :: ds))))))

end

section

variable {j : Json} {es : List Json} {ms : List (String × Json)} {cs gap rest : List Char}
  {c : Char} {n : Nat}

/-- No white space is white space. -/
lemma blank_nil : Blank [] := List.forall_mem_nil _

/-- White space is skipped. -/
lemma skipBlank_append (blank : Blank gap) (cs : List Char) :
    skipBlank (gap ++ cs) = skipBlank cs :=
  List.dropWhile_append_of_pos blank

/-- A character at which white space ends. -/
abbrev Dark (c : Char) : Prop := (c == ' ' || c == '\n' || c == '\t' || c == '\r') = false

/-- Nothing is skipped before a character that is not white space. -/
lemma skipBlank_cons (dark : Dark c) (cs : List Char) : skipBlank (c :: cs) = c :: cs := by
  simp only [skipBlank]
  rw [List.dropWhile_cons_of_neg]
  simpa [Dark] using dark

/-- White space is skipped up to the first character that is none. -/
lemma skipBlank_gap (blank : Blank gap) (dark : Dark c) (cs : List Char) :
    skipBlank (gap ++ c :: cs) = c :: cs := by
  rw [skipBlank_append blank, skipBlank_cons dark]

/-- White space stops a number, and so do the characters that come after a value. -/
lemma stops_gap (blank : Blank gap) (closes : c ∈ [',', ']', '}']) (cs : List Char) :
    Stops (gap ++ c :: cs) := by
  intro d h
  cases gap with
  | nil =>
    obtain rfl : c = d := by simpa using h
    have which : c = ',' ∨ c = ']' ∨ c = '}' := by simpa using closes
    obtain rfl | rfl | rfl := which <;> decide
  | cons b gap =>
    obtain rfl : b = d := by simpa using h
    have white : b = ' ' ∨ b = '\n' ∨ b = '\t' ∨ b = '\r' := by
      simpa [or_assoc] using blank b List.mem_cons_self
    obtain rfl | rfl | rfl | rfl := white <;> decide

/-- The first character of a text that stands for a value is not white and ends neither a list
nor an object. -/
lemma Spells.head (h : Spells j cs) : ∃ c ds, cs = c :: ds ∧ Dark c ∧ c ≠ ']' ∧ c ≠ '}' := by
  cases h with
  | number proper =>
    obtain ⟨c, ds, shape, rfl | digit⟩ := chars_head proper
    · exact ⟨'-', ds, shape, rfl, by decide, by decide⟩
    · have dark : Dark c := by
        simp only [Dark, Bool.or_eq_false_iff, beq_eq_false_iff_ne, ne_eq]
        exact ⟨⟨⟨ne_of_isDigit digit rfl, ne_of_isDigit digit rfl⟩, ne_of_isDigit digit rfl⟩,
          ne_of_isDigit digit rfl⟩
      exact ⟨c, ds, shape, dark, ne_of_isDigit digit rfl, ne_of_isDigit digit rfl⟩
  | _ => exact ⟨_, _, rfl, rfl, by decide, by decide⟩

/-- With so many steps every value, and the rest of every list and object, is read from each text
that stands for it. White space in front of a value takes no step. -/
structure ReadsBack (n : Nat) : Prop where
  value {j : Json} {cs gap rest : List Char} (spells : Spells j cs) (blank : Blank gap)
    (stops : Stops rest) (enough : 2 * cs.length ≤ n) :
    scanValue n (gap ++ (cs ++ rest)) = (source j, rest)
  elements {es : List Json} {cs : List Char} (rest : List Char) (spells : SpellsElements es cs)
    (enough : 2 * cs.length ≤ n) : scanElements n (cs ++ rest) = (sources es, true, rest)
  members {ms : List (String × Json)} {cs : List Char} (rest : List Char)
  (spells : SpellsMembers ms cs)
    (enough : 2 * cs.length ≤ n) : scanMembers n (cs ++ rest) = (memberSources ms, true, rest)

/-- The rest of a list that has an element does not start by closing the list. -/
lemma SpellsElements.head (h : SpellsElements es cs) (rest : List Char) :
    ∃ c ds, skipBlank (cs ++ rest) = c :: ds ∧ c ≠ ']' := by
  cases h with
  | last blank element blank' =>
    obtain ⟨c, ds, rfl, dark, open', -⟩ := element.head
    exact ⟨c, _, by rw [List.append_assoc]; exact skipBlank_gap blank dark _, open'⟩
  | cons blank element blank' more =>
    obtain ⟨c, ds, rfl, dark, open', -⟩ := element.head
    exact ⟨c, _, by rw [List.append_assoc]; exact skipBlank_gap blank dark _, open'⟩

/-- The rest of an object that has a member does not start by closing the object. -/
lemma SpellsMembers.head (h : SpellsMembers ms cs) (rest : List Char) :
    ∃ c ds, skipBlank (cs ++ rest) = c :: ds ∧ c ≠ '}' := by
  have dark : Dark '"' := by decide
  cases h with
  | last blank =>
      exact ⟨'"', _, by rw [List.append_assoc]; exact skipBlank_gap blank dark _, by decide⟩
  | cons blank =>
      exact ⟨'"', _, by rw [List.append_assoc]; exact skipBlank_gap blank dark _, by decide⟩

/-- A value is read with one more step than what stands in it. -/
lemma ReadsBack.scanValue_succ (ih : ReadsBack n) (spells : Spells j cs) (blank : Blank gap)
    (stops : Stops rest) (enough : 2 * cs.length ≤ n + 1) :
    scanValue (n + 1) (gap ++ (cs ++ rest)) = (source j, rest) := by
  obtain ⟨c, ds, shape, dark, -, -⟩ := spells.head
  have skipped : skipBlank (gap ++ (cs ++ rest)) = cs ++ rest := by
    rw [shape]
    exact skipBlank_gap blank dark _
  unfold scanValue
  rw [skipped]
  cases spells with
  | null => rfl
  | isTrue => rfl
  | isFalse => rfl
  | number proper =>
    obtain ⟨d, es, written, start⟩ := chars_head proper
    have scanned := scanNumeral_append proper stops
    rw [written] at scanned ⊢
    simp only [List.cons_append] at scanned ⊢
    split <;> first
      | (next heq => cases heq; exact absurd start (by decide))
      | rw [scanned]; rfl
  | text s =>
    have scanned := scanText_quote s rest
    simp only [quote, List.cons_append, List.append_assoc, List.nil_append, scanned]
    rfl
  | emptyList blank' =>
    have closed := skipBlank_gap blank' (by decide : Dark ']') rest
    simp only [List.cons_append, List.append_assoc, List.nil_append, closed]
    rfl
  | list body =>
    obtain ⟨d, es, opened, other⟩ := body.head rest
    have scanned := ih.elements rest body (by simp only [List.length_cons] at enough; omega)
    simp only [List.cons_append, opened]
    split
    next closed => cases closed; exact absurd rfl other
    next => rw [scanned]; rfl
  | emptyObject blank' =>
    have closed := skipBlank_gap blank' (by decide : Dark '}') rest
    simp only [List.cons_append, List.append_assoc, List.nil_append, closed]
    rfl
  | object body =>
    obtain ⟨d, es, opened, other⟩ := body.head rest
    have scanned := ih.members rest body (by simp only [List.length_cons] at enough; omega)
    simp only [List.cons_append, opened]
    split
    next closed => cases closed; exact absurd rfl other
    next => rw [scanned]; rfl

/-- The rest of a list is read with one more step than its first element and what
comes after that. -/
lemma ReadsBack.scanElements_succ (ih : ReadsBack n) (rest : List Char)
    (spells : SpellsElements es cs) (enough : 2 * cs.length ≤ n + 1) :
    scanElements (n + 1) (cs ++ rest) = (sources es, true, rest) := by
  cases spells with
  | last blank element blank' =>
    have scanned := ih.value element blank (stops_gap blank' (by decide : ']' ∈ _) rest)
      (by simp only [List.length_append, List.length_cons] at enough; omega)
    simp only [scanElements, List.append_assoc, List.cons_append, List.nil_append, scanned,
      skipBlank_gap blank' (by decide : Dark ']')]
    rfl
  | cons blank element blank' more =>
    rename_i e es ds₁ ds before after
    have scanned := ih.value element blank (stops_gap blank' (by decide : ',' ∈ _) (ds ++ rest))
      (by simp only [List.length_append, List.length_cons] at enough; omega)
    have scannedMore := ih.elements rest more
      (by simp only [List.length_append, List.length_cons] at enough; omega)
    simp only [scanElements, List.append_assoc, List.cons_append, scanned, scannedMore,
      skipBlank_gap blank' (by decide : Dark ',')]
    rfl

/-- The rest of an object is read with one more step than its first value and what
comes after that. -/
lemma ReadsBack.scanMembers_succ (ih : ReadsBack n) (rest : List Char)
    (spells : SpellsMembers ms cs) (enough : 2 * cs.length ≤ n + 1) :
    scanMembers (n + 1) (cs ++ rest) = (memberSources ms, true, rest) := by
  cases spells with
  | last blank blankNamed blankBetween value blank' =>
    have scanned := ih.value value blankBetween (stops_gap blank' (by decide : '}' ∈ _) rest)
      (by simp only [List.length_append, List.length_cons] at enough; omega)
    simp only [scanMembers, quote, List.append_assoc, List.cons_append, List.nil_append,
      skipBlank_gap blank (by decide : Dark '"'), scanText_quote,
      skipBlank_gap blankNamed (by decide : Dark ':'),
      scanned, skipBlank_gap blank' (by decide : Dark '}')]
    rfl
  | cons blank blankNamed blankBetween value blank' more =>
    rename_i k v ms cs ds before named between after
    have scanned :=
      ih.value value blankBetween (stops_gap blank' (by decide : ',' ∈ _) (ds ++ rest))
        (by simp only [List.length_append, List.length_cons] at enough; omega)
    have scannedMore := ih.members rest more
      (by simp only [List.length_append, List.length_cons] at enough; omega)
    simp only [scanMembers, quote, List.append_assoc, List.cons_append, List.nil_append,
      skipBlank_gap blank (by decide : Dark '"'), scanText_quote,
      skipBlank_gap blankNamed (by decide : Dark ':'),
      scanned, scannedMore, skipBlank_gap blank' (by decide : Dark ',')]
    rfl

/-- The rest of a list has its bracket at least. -/
lemma SpellsElements.length_pos (h : SpellsElements es cs) : 0 < cs.length := by
  cases h <;> simp only [List.length_append, List.length_cons] <;> omega

/-- The rest of an object has its brace at least. -/
lemma SpellsMembers.length_pos (h : SpellsMembers ms cs) : 0 < cs.length := by
  cases h <;> simp only [List.length_append, List.length_cons] <;> omega

/-- Twice as many steps as there are characters are enough. -/
lemma readsBack (n : Nat) : ReadsBack n := by
  -- On the steps, as the functions recurse: the text of a part is shorter by more than the one step
  -- that is taken.
  induction n with
  | zero =>
    refine ⟨fun spells _ _ enough => ?_, fun _ spells enough => ?_, fun _ spells enough => ?_⟩
    · obtain ⟨c, ds, rfl, -⟩ := spells.head
      simp only [List.length_cons] at enough
      omega
    · have := spells.length_pos
      omega
    · have := spells.length_pos
      omega
  | succ n ih => exact ⟨ih.scanValue_succ, ih.scanElements_succ, ih.scanMembers_succ⟩

/-- A text that stands for a value is read as the tree of that value, and nothing follows it. -/
theorem read_of_spells {s : String} (h : Spells j s.toList) : read s = ⟨source j, true⟩ := by
  have stops : Stops [] := fun c hc => by cases hc
  have scanned :=
    (readsBack (2 * s.toList.length + 2)).value h blank_nil stops (Nat.le_add_right _ 2)
  rw [List.nil_append, List.append_nil] at scanned
  simp only [read, scanned]
  rfl

end

/-! ### Written forms -/

/-- Values whose numbers are such as JSON has them. -/
inductive Printable : Json → Prop
  | null : Printable .null
  | bool (b : Bool) : Printable (.bool b)
  | number {n : Numeral} (proper : Proper n) : Printable (.number n)
  | text (s : String) : Printable (.text s)
  | list {es : List Json} (elements : ∀ e ∈ es, Printable e) : Printable (.list es)
  | object {ms : List (String × Json)} (members : ∀ m ∈ ms, Printable m.2) : Printable (.object ms)

section

variable (level : Nat) (k : String) (v : Json) (ms : List (String × Json)) (e : Json)
  (es : List Json)

/-- How an object is printed in one line. -/
lemma chars_object :
    chars (.object ((k, v) :: ms)) = '{' :: (quote k ++ ':' :: (chars v ++ charsOfMembers ms)) := by
  change '{' :: quote k ++ ':' :: chars v ++ charsOfMembers ms = _
  simp only [List.cons_append, List.append_assoc]

/-- How a list is printed in lines. -/
lemma prettyChars_list :
    prettyChars level (.list (e :: es)) =
      '[' :: (newLine (level + 1) ++ (prettyChars (level + 1) e ++ prettyElements level es)) := by
  change '[' :: newLine (level + 1) ++ prettyChars (level + 1) e ++ prettyElements level es = _
  simp only [List.cons_append, List.append_assoc]

/-- How an object is printed in lines. -/
lemma prettyChars_object :
    prettyChars level (.object ((k, v) :: ms)) =
      '{' :: (newLine (level + 1) ++ (quote k ++ ':' :: ' ' :: (prettyChars (level + 1) v ++
        prettyMembers level ms))) := by
  change '{' :: newLine (level + 1) ++ quote k ++ ':' :: ' ' :: prettyChars (level + 1) v ++
    prettyMembers level ms = _
  simp only [List.cons_append, List.append_assoc]

end

/-- A space is white space. -/
lemma blank_space : Blank [' '] := by
  intro c h
  rw [List.mem_singleton] at h
  subst h
  rfl

/-- A line feed and indentation are white space. -/
lemma blank_newLine (level : Nat) : Blank (newLine level) := by
  intro c h
  simp only [newLine, List.mem_cons, List.mem_replicate] at h
  obtain rfl | ⟨-, rfl⟩ := h <;> rfl

mutual

/-- A value is spelled by its form without any space. -/
lemma spells_chars : ∀ {j : Json}, Printable j → Spells j (chars j)
  | .null, _ => .null
  | .bool true, _ => .isTrue
  | .bool false, _ => .isFalse
  | .number _, .number proper => .number proper
  | .text s, _ => .text s
  | .list [], _ => .emptyList blank_nil
  | .list (e :: es), .list elements => by
    have first := spells_chars (elements e List.mem_cons_self)
    exact .list (spells_charsOfElements first fun e h => elements e (List.mem_cons_of_mem _ h))
  | .object [], _ => .emptyObject blank_nil
  | .object ((k, v) :: ms), .object members => by
    have first := spells_chars (members (k, v) List.mem_cons_self)
    have body := spells_charsOfMembers k first fun m h => members m (List.mem_cons_of_mem _ h)
    rw [chars_object]
    exact .object body

/-- The elements behind the first one are spelled as they are printed in one line. -/
lemma spells_charsOfElements : ∀ {e : Json} {es : List Json} {cs : List Char}, Spells e cs →
    (∀ e ∈ es, Printable e) → SpellsElements (e :: es) (cs ++ charsOfElements es)
  | _, [], _, first, _ => .last blank_nil first blank_nil
  | _, e :: es, _, first, elements => by
    have next' := spells_chars (elements e List.mem_cons_self)
    have more := spells_charsOfElements next' fun e h => elements e (List.mem_cons_of_mem _ h)
    exact .cons blank_nil first blank_nil more

/-- The members behind the first one are spelled as they are printed in one line. -/
lemma spells_charsOfMembers :
    ∀ {v : Json} {ms : List (String × Json)} {cs : List Char} (k : String), Spells v cs →
    (∀ m ∈ ms, Printable m.2) →
    SpellsMembers ((k, v) :: ms) (quote k ++ ':' :: (cs ++ charsOfMembers ms))
  | _, [], _, k, first, _ => .last blank_nil blank_nil blank_nil first blank_nil
  | _, (k', v) :: ms, _, k, first, members => by
    have next' := spells_chars (members (k', v) List.mem_cons_self)
    have more := spells_charsOfMembers k' next' fun m h => members m (List.mem_cons_of_mem _ h)
    simpa [charsOfMembers] using SpellsMembers.cons (k := k) blank_nil blank_nil blank_nil first
      blank_nil more

end

mutual

/-- A value is spelled by its form with indentation. -/
lemma spells_prettyChars (level : Nat) : ∀ {j : Json}, Printable j → Spells j (prettyChars level j)
  | .null, _ => .null
  | .bool true, _ => .isTrue
  | .bool false, _ => .isFalse
  | .number _, .number proper => .number proper
  | .text s, _ => .text s
  | .list [], _ => .emptyList blank_nil
  | .list (e :: es), .list elements => by
    have first := spells_prettyChars (level + 1) (elements e List.mem_cons_self)
    have body := spells_prettyElements level first fun e h => elements e (List.mem_cons_of_mem _ h)
    rw [prettyChars_list]
    exact .list body
  | .object [], _ => .emptyObject blank_nil
  | .object ((k, v) :: ms), .object members => by
    have first := spells_prettyChars (level + 1) (members (k, v) List.mem_cons_self)
    have body := spells_prettyMembers level k first fun m h => members m (List.mem_cons_of_mem _ h)
    rw [prettyChars_object]
    exact .object body

/-- The elements behind the first one are spelled as they are printed in lines. -/
lemma spells_prettyElements (level : Nat) :
    ∀ {e : Json} {es : List Json} {cs : List Char}, Spells e cs →
    (∀ e ∈ es, Printable e) →
      SpellsElements (e :: es) (newLine (level + 1) ++ (cs ++ prettyElements level es))
  | _, [], _, first, _ => .last (blank_newLine _) first (blank_newLine _)
  | _, e :: es, _, first, elements => by
    have next' := spells_prettyChars (level + 1) (elements e List.mem_cons_self)
    have more := spells_prettyElements level next' fun e h => elements e (List.mem_cons_of_mem _ h)
    simpa [prettyElements] using SpellsElements.cons (blank_newLine _) first blank_nil more

/-- The members behind the first one are spelled as they are printed in lines. -/
lemma spells_prettyMembers (level : Nat) :
    ∀ {v : Json} {ms : List (String × Json)} {cs : List Char} (k : String),
    Spells v cs → (∀ m ∈ ms, Printable m.2) → SpellsMembers ((k, v) :: ms)
      (newLine (level + 1) ++ (quote k ++ ':' :: ' ' :: (cs ++ prettyMembers level ms)))
  | _, [], _, k, first, _ => .last (blank_newLine _) blank_nil blank_space first (blank_newLine _)
  | _, (k', v) :: ms, _, k, first, members => by
    have next' := spells_prettyChars (level + 1) (members (k', v) List.mem_cons_self)
    have more := spells_prettyMembers level k' next' fun m h => members m (List.mem_cons_of_mem _ h)
    simpa [prettyMembers] using
      SpellsMembers.cons (k := k) (blank_newLine (level + 1)) blank_nil blank_space first
        blank_nil more

end

/-- The two written forms of a value are read as its tree. -/
theorem read_written {j : Json} (h : Printable j) {s : String}
    (written : s = render j ∨ s = pretty j) :
    read s = ⟨source j, true⟩ := by
  obtain rfl | rfl := written
  · exact read_of_spells (by rw [render, String.toList_ofList]; exact spells_chars h)
  · exact read_of_spells (by rw [pretty, String.toList_ofList]; exact spells_prettyChars 0 h)

end CallReplay.Json
