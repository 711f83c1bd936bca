import CallReplay.Literal
import CallReplay.Proofs.Text.Hex
import CallReplay.Proofs.Text.Split

/-!
# Literals read back

The rules by which Java reads a literal, and the proof that they read from the literals of a script
what was written. Reading takes two passes. The first translates Unicode escapes all over the source
and leaves UTF-16 units (`translate?`); the second reads the text behind the opening quote up to the
first quote that is not escaped (`content?`). What `escapeChar` writes for a character comes out of
the first pass as its `lexeme` and out of the second as its units, whatever follows it.
-/

namespace CallReplay.Literal

/-! ## The rules -/

/-- The unit that a Unicode escape stands for, and what is behind it, given what is behind its
backslash: one `u` or more and four hexadecimal digits. -/
def unicode? : List Char → Option (UInt16 × List Char)
  | 'u' :: 'u' :: rest => unicode? ('u' :: rest)
  | 'u' :: a :: b :: c :: d :: rest => do
    let n ← Text.natOfHex? [a, b, c, d]
    pure (UInt16.ofNat n, rest)
  | _ => none

/-- A Unicode escape takes at least one character. -/
lemma length_unicode? {cs rest : List Char} {unit : UInt16} (h : unicode? cs = some (unit, rest)) :
    rest.length < cs.length := by
  induction cs using unicode?.induct with
  | case1 more ih =>
    rw [unicode?] at h
    exact Nat.lt_succ_of_lt (ih h)
  | case2 a b c d more _ =>
    rw [unicode?] at h
    · obtain ⟨n, -, heq⟩ := Option.bind_eq_some_iff.mp h
      cases heq
      simp only [List.length_cons]
      omega
    · assumption
  | case3 cs =>
    rw [unicode?] at h
    · cases h
    all_goals assumption

/-- The UTF-16 units of a source. A backslash starts a Unicode escape if `even` many of them stand
right before it and a `u` behind it. -/
def translate? (even : Bool) : List Char → Option (List UInt16)
  | [] => some []
  | c :: rest =>
    if c ≠ '\\' then (translate? true rest).map (Text.units c ++ ·)
    else if even ∧ rest.head? = some 'u' then
      match _ : unicode? rest with
      | none => none
      | some (unit, following) => (translate? true following).map (unit :: ·)
    else (translate? (!even) rest).map (Text.units c ++ ·)
  termination_by cs => cs.length
  decreasing_by
    all_goals simp only [List.length_cons]
    · omega
    · have := length_unicode? ‹_›
      omega
    · omega

/-- The unit of a character of the basic plane. -/
def unit (c : Char) : UInt16 := UInt16.ofNat c.toNat

/-- The characters that follow the backslash of an escape sequence, and those that the
sequences stand for. -/
def sequences : List (Char × Char) :=
  [('"', '"'), ('\'', '\''), ('\\', '\\'), ('n', '\n'), ('t', '\t'), ('r', '\r'), ('b', '\x08'),
  ('f', '\x0c')]

/-- The unit that an escape sequence of one character stands for. -/
def sequence? (u : UInt16) : Option UInt16 :=
  (sequences.find? fun p => unit p.1 = u).map fun p => unit p.2

/-- The units between quotes, and what is behind the closing one, given what is behind the opening
one. A literal ends in the line it starts in. -/
def content? (quote : Char) : List UInt16 → Option (List UInt16 × List UInt16)
  | [] => none
  | u :: rest =>
    if u = unit quote then some ([], rest)
    else if u = unit '\n' ∨ u = unit '\r' then none
    else if u = unit '\\' then
      match rest with
      | [] => none
      | escaped :: rest => do
        let u ← sequence? escaped
        (content? quote rest).map (Prod.map (u :: ·) id)
    else (content? quote rest).map (Prod.map (u :: ·) id)

/-- Reads a quoted literal at the start of a source, and returns the units it stands for and those
that follow it. -/
def quoted? (quote : Char) (source : List Char) : Option (List UInt16 × List UInt16) := do
  let units ← translate? true source
  if units.head? = some (unit quote) then content? quote units.tail else none

/-- Reads a source that is the literal of a text. -/
def readText? (source : String) : Option (List UInt16) :=
  match quoted? '"' source.toList with
  | some (units, []) => some units
  | _ => none

/-- Reads a source that is the literal of a character, which is a single unit. -/
def readChar? (source : String) : Option UInt16 :=
  match quoted? '\'' source.toList with
  | some ([u], []) => some u
  | _ => none

/-- The number that decimal digits stand for. A leading zero would make them octal. -/
def magnitude? (digits : List Char) : Option Nat :=
  if digits ≠ [] ∧ digits.all Char.isDigit ∧ (digits.head? = some '0' → digits = ['0']) then
    some (Decimal.natOfDigits digits)
  else none

/-- A number of so many bits. The magnitude of the least one is read behind a minus sign only. -/
def integer? (width : Nat) : List Char → Option Int
  | '-' :: digits => do
    let n ← magnitude? digits
    if n ≤ 2 ^ (width - 1) then some (-n) else none
  | digits => do
    let n ← magnitude? digits
    if n < 2 ^ (width - 1) then some n else none

/-- Reads a source that is the literal of a whole number. A cast keeps the low bits of an `int`. -/
def readNumber? (source : List Char) : Option Scalar :=
  if let some digits := Text.unwrap? "(byte) ".toList [] source then
    (integer? 32 digits).map fun n => .byte (Int8.ofInt n)
  else if let some digits := Text.unwrap? "(short) ".toList [] source then
    (integer? 32 digits).map fun n => .short (Int16.ofInt n)
  else if let some digits := Text.unwrap? [] ['L'] source then
    (integer? 64 digits).map fun n => .long (Int64.ofInt n)
  else
    (integer? 32 source).map fun n => .int (Int32.ofInt n)

/-- Reads a source that is the literal of a truth value or of a whole number. -/
def readScalar? (source : String) : Option Scalar :=
  if source = "true" then some (.bool true)
  else if source = "false" then some (.bool false)
  else readNumber? source.toList

/-! ## Passes -/

section

variable {quote c d : Char} {even : Bool} {u : UInt16} {us vs : List UInt16}
  {cs ds rest : List Char}

/-- The first pass leaves a character as its units. -/
lemma translate?_of_ne (plain : c ≠ '\\') :
    translate? even (c :: rest) = (translate? true rest).map (Text.units c ++ ·) := by
  rw [translate?, if_pos plain]

/-- The first pass leaves a backslash that starts no Unicode escape, and from then on
counts one more. -/
lemma translate?_backslash (other : ¬(even = true ∧ rest.head? = some 'u')) :
    translate? even ('\\' :: rest) = (translate? (!even) rest).map (unit '\\' :: ·) := by
  rw [translate?, if_neg (not_not_intro rfl), if_neg other]
  rfl

/-- The digits of a unit are read back. -/
lemma natOfHex?_unitDigits (u : UInt16) : Text.natOfHex? (unitDigits u) = some u.toNat := by
  have bound : u.toNat < 65536 := u.toNat_lt
  have h₁ : Text.hexValue? _ = some (u.toNat / 4096) := Text.hexValue?_hexDigitUpper (by omega)
  have h₂ : Text.hexValue? _ = some (u.toNat / 256 % 16) := Text.hexValue?_hexDigitUpper (by omega)
  have h₃ : Text.hexValue? _ = some (u.toNat / 16 % 16) := Text.hexValue?_hexDigitUpper (by omega)
  have h₄ : Text.hexValue? _ = some (u.toNat % 16) := Text.hexValue?_hexDigitUpper (by omega)
  simp only [Text.natOfHex?, unitDigits, List.foldl_cons, List.foldl_nil, h₁, h₂, h₃, h₄,
    Option.bind_eq_bind, Option.bind_some, Option.pure_def, Option.some.injEq]
  omega

/-- The unit of a Unicode escape is read from its digits. -/
lemma unicode?_unitDigits (u : UInt16) (rest : List Char) :
    unicode? ('u' :: (unitDigits u ++ rest)) = some (u, rest) := by
  have marker : Text.hexDigitUpper (u.toNat / 4096) ≠ 'u' :=
    Text.hexDigitUpper_ne_u (Nat.div_lt_of_lt_mul u.toNat_lt)
  have digits := natOfHex?_unitDigits u
  rw [unitDigits] at digits ⊢
  rw [List.cons_append, List.cons_append, List.cons_append, List.cons_append, List.nil_append,
    unicode?, digits]
  · rw [Option.bind_eq_bind, Option.bind_some, UInt16.ofNat_toNat]
    rfl
  · exact marker

/-- The first pass turns a Unicode escape into its unit. -/
lemma translate?_unitEscape (u : UInt16) (rest : List Char) :
    translate? true (unitEscape u ++ rest) = (translate? true rest).map (u :: ·) := by
  rw [unitEscape, List.cons_append, List.cons_append, translate?, if_neg (not_not_intro rfl),
    if_pos ⟨rfl, rfl⟩]
  split
  · next failed =>
    rw [unicode?_unitDigits] at failed
    cases failed
  · next read =>
    rw [unicode?_unitDigits] at read
    cases read
    rfl

/-- Units that stand for themselves between quotes. -/
def Ordinary (quote : Char) (u : UInt16) : Prop :=
  u ≠ unit quote ∧ u ≠ unit '\n' ∧ u ≠ unit '\r' ∧ u ≠ unit '\\'

/-- The second pass leaves units that stand for themselves. -/
lemma content?_ordinary (ordinary : ∀ u ∈ us, Ordinary quote u) (vs : List UInt16) :
    content? quote (us ++ vs) = (content? quote vs).map (Prod.map (us ++ ·) id) := by
  induction us with
  | nil => exact Option.map_id'.symm
  | cons u us ih =>
    obtain ⟨⟨quoted, feed, return', backslash⟩, others⟩ := List.forall_mem_cons.mp ordinary
    rw [List.cons_append, content?.eq_def]
    dsimp only
    rw [if_neg quoted, if_neg (not_or.mpr ⟨feed, return'⟩), if_neg backslash, ih others,
      Option.map_map]
    rfl

/-- The unit of a character of the first plane has the number of the character. -/
lemma toNat_unit (basic : c.toNat < 0x10000) : (unit c).toNat = c.toNat := by
  rw [unit, UInt16.toNat_ofNat', Nat.mod_eq_of_lt basic]

/-- Only an ASCII character itself has the unit of that character. -/
lemma eq_of_unit_mem_units (h : unit d ∈ Text.units c) (ascii : d.toNat < 0x80) : d = c := by
  have hd : (unit d).toNat = d.toNat := toNat_unit (Nat.lt_trans ascii (by decide))
  rw [Text.units] at h
  split at h
  · next single =>
    have hc : (unit c).toNat = c.toNat := toNat_unit (of_decide_eq_true single)
    rw [List.mem_singleton.mp h] at hd
    exact Char.toNat_inj.mp (hd.symm.trans hc)
  · have bound : c.toNat ≤ 0x10FFFF := c.toNat_le_max
    simp only [List.mem_cons, List.not_mem_nil, or_false] at h
    rcases h with h | h <;> rw [h, UInt16.toNat_ofNat'] at hd <;> omega

/-- The units of a character stand for themselves unless it ends a literal or starts an escape. -/
lemma ordinary_of_mem_units (isQuote : quote ∈ ['"', '\'']) (quoted : c ≠ quote) (feed : c ≠ '\n')
    (return' : c ≠ '\r') (backslash : c ≠ '\\') : ∀ u ∈ Text.units c, Ordinary quote u := by
  have ascii : quote.toNat < 0x80 := by
    rcases List.mem_pair.mp isQuote with rfl | rfl <;> decide
  rintro u mem
  refine ⟨?_, ?_, ?_, ?_⟩ <;> rintro rfl
  · exact quoted (eq_of_unit_mem_units mem ascii).symm
  · exact feed (eq_of_unit_mem_units mem (by decide)).symm
  · exact return' (eq_of_unit_mem_units mem (by decide)).symm
  · exact backslash (eq_of_unit_mem_units mem (by decide)).symm

/-! ## What is written stands for its units -/

/-- The first pass takes what is written to units that the second one takes to those
it stands for. -/
def Denotes (quote : Char) (written : List Char) (units : List UInt16) : Prop :=
  ∃ lexeme : List UInt16,
    (∀ rest, translate? true (written ++ rest) = (translate? true rest).map (lexeme ++ ·)) ∧
    ∀ rest, content? quote (lexeme ++ rest) = (content? quote rest).map (Prod.map (units ++ ·) id)

namespace Denotes

/-- Nothing stands for no units. -/
lemma nil : Denotes quote [] [] :=
  ⟨[], fun _ => Option.map_id'.symm, fun _ => Option.map_id'.symm⟩

/-- What is written one behind the other stands for the units one behind the other. -/
lemma append (first : Denotes quote cs us) (second : Denotes quote ds vs) :
    Denotes quote (cs ++ ds) (us ++ vs) := by
  obtain ⟨lexeme, translated, read⟩ := first
  obtain ⟨lexeme', translated', read'⟩ := second
  refine ⟨lexeme ++ lexeme', fun rest => ?_, fun rest => ?_⟩
  · rw [List.append_assoc, translated, translated', Option.map_map]
    exact congrArg (Option.map · _) (funext fun _ => (List.append_assoc ..).symm)
  · rw [List.append_assoc, read, read', Option.map_map]
    exact congrArg (Option.map · _) (funext fun _ => Prod.ext (List.append_assoc ..).symm rfl)

/-- If the parts of what is written stand for units, the whole stands for all of them. -/
lemma flatMap {α : Type} {as : List α} {f : α → List Char} {g : α → List UInt16}
    (each : ∀ a ∈ as, Denotes quote (f a) (g a)) : Denotes quote (as.flatMap f) (as.flatMap g) := by
  induction as with
  | nil => exact nil
  | cons a as ih =>
    obtain ⟨first, others⟩ := List.forall_mem_cons.mp each
    exact append first (ih others)

/-- A character stands for itself. -/
lemma plain (backslash : c ≠ '\\') (ordinary : ∀ u ∈ Text.units c, Ordinary quote u) :
    Denotes quote [c] (Text.units c) :=
  ⟨Text.units c, fun _ => translate?_of_ne backslash, content?_ordinary ordinary⟩

/-- A Unicode escape stands for its unit. -/
lemma unitEscape (ordinary : Ordinary quote u) : Denotes quote (unitEscape u) [u] :=
  ⟨[u], translate?_unitEscape u, content?_ordinary (List.forall_mem_singleton.mpr ordinary)⟩

/-- An escape sequence stands for the unit that is listed for it. -/
lemma sequence (isQuote : quote ∈ ['"', '\'']) (listed : (c, d) ∈ sequences) :
    Denotes quote ['\\', c] [unit d] := by
  have entries : ∀ p ∈ sequences, p.1 ≠ 'u' ∧ Text.units p.1 = [unit p.1] ∧
      sequence? (unit p.1) = some (unit p.2) := by
    decide
  obtain ⟨marker, single, known⟩ := entries _ listed
  refine ⟨[unit '\\', unit c], fun rest => ?_, fun rest => ?_⟩
  · have next : ¬(true = true ∧ (c :: rest).head? = some 'u') :=
      fun h => marker (Option.some.inj h.2)
    rw [List.cons_append, List.cons_append, List.nil_append, translate?_backslash next]
    by_cases backslash : c = '\\'
    · subst backslash
      rw [translate?_backslash (fun h => Bool.noConfusion h.1), Option.map_map]
      rfl
    · rw [translate?_of_ne backslash, single, Option.map_map]
      rfl
  · have inside : unit '\\' ≠ unit quote := by
      rcases List.mem_pair.mp isQuote with rfl | rfl <;> decide
    rw [List.cons_append, List.cons_append, List.nil_append, content?.eq_def]
    dsimp only
    rw [if_neg inside, if_neg (by decide), if_pos rfl, known]
    rfl

/-- What is written for a character stands for its units. -/
lemma escapeChar (isQuote : quote ∈ ['"', '\'']) (other : c = quote → c = '"') :
    Denotes quote (escapeChar c) (Text.units c) := by
  unfold Literal.escapeChar
  split_ifs with doubleQuote backslash feed tab return' back form hidden
  · subst doubleQuote
    exact sequence (c := '"') (d := '"') isQuote (by decide)
  · subst backslash
    exact sequence (c := '\\') (d := '\\') isQuote (by decide)
  · subst feed
    exact sequence (c := 'n') (d := '\n') isQuote (by decide)
  · subst tab
    exact sequence (c := 't') (d := '\t') isQuote (by decide)
  · subst return'
    exact sequence (c := 'r') (d := '\r') isQuote (by decide)
  · subst back
    exact sequence (c := 'b') (d := '\x08') isQuote (by decide)
  · subst form
    exact sequence (c := 'f') (d := '\x0c') isQuote (by decide)
  -- no unit of any other character has a meaning between the quotes
  all_goals
    have ordinary : ∀ u ∈ Text.units c, Ordinary quote u :=
      ordinary_of_mem_units isQuote (mt other doubleQuote) feed return' backslash
  · have each := flatMap (g := fun u => [u]) fun u mem => unitEscape (ordinary u mem)
    rwa [List.flatMap_singleton'] at each
  · exact plain backslash ordinary

end Denotes

end

section

variable {quote : Char} {written : List Char} {units : List UInt16}

/-- Behind the closing quote the source is read on as if it began there. -/
lemma quoted?_of_denotes (isQuote : quote ∈ ['"', '\'']) (denotes : Denotes quote written units)
    (rest : List Char) :
    quoted? quote (quote :: (written ++ quote :: rest)) =
    (translate? true rest).map (units, ·) := by
  obtain ⟨lexeme, translated, read⟩ := denotes
  obtain ⟨single, plain⟩ : Text.units quote = [unit quote] ∧ quote ≠ '\\' := by
    rcases List.mem_pair.mp isQuote with rfl | rfl <;> decide
  rw [quoted?, translate?_of_ne plain, translated, translate?_of_ne plain, single]
  cases translate? true rest with
  | none => rfl
  | some following =>
    have closed : content? quote (unit quote :: following) = some ([], following) := by
      rw [content?.eq_def]
      exact if_pos rfl
    have inside := read (unit quote :: following)
    rw [closed] at inside
    simpa using inside

end

/-- The literal for a text is the escaped text in quotes. -/
lemma toList_ofText (s : String) :
    (ofText s).toList = '"' :: (s.toList.flatMap escapeChar ++ ['"']) := by
  simp [ofText, escape]

/-- The literal of a text is read back whatever follows it. -/
theorem quoted?_ofText (s : String) (rest : List Char) :
    quoted? '"' ((ofText s).toList ++ rest) =
    (translate? true rest).map (s.toList.flatMap Text.units, ·) := by
  have isQuote : '"' ∈ ['"', '\''] := List.mem_cons_self
  have denotes : Denotes '"' (s.toList.flatMap escapeChar) (s.toList.flatMap Text.units) :=
    .flatMap fun _ _ => .escapeChar isQuote id
  rw [← quoted?_of_denotes isQuote denotes, toList_ofText, List.cons_append, List.append_assoc,
    List.singleton_append]

/-- The literal for a text is read as the units of the text. -/
lemma readText?_ofText (s : String) :
    readText? (ofText s) = some (s.toList.flatMap Text.units) := by
  have read := quoted?_ofText s []
  rw [List.append_nil, translate?, Option.map_some] at read
  rw [readText?, read]

/-- A character that fits one unit has only this one. -/
lemma units_of_isSingleUnit {c : Char} (single : Text.isSingleUnit c = true) :
    Text.units c = [unit c] := if_pos single

/-- The literal for a character is read as its unit. -/
lemma readChar?_ofChar {c : Char} (single : Text.isSingleUnit c = true) :
    readChar? (ofChar c) = some (unit c) := by
  have isQuote : '\'' ∈ ['"', '\''] := by decide
  have denotes : Denotes '\'' (if c = '\'' then ['\\', '\''] else escapeChar c) [unit c] := by
    split
    · next quote =>
      subst quote
      exact .sequence isQuote (by decide)
    · next other =>
      exact units_of_isSingleUnit single ▸ .escapeChar isQuote fun quote => absurd quote other
  have read := quoted?_of_denotes isQuote denotes []
  rw [translate?, Option.map_some] at read
  rw [readChar?, ofChar, String.toList_ofList, List.cons_append, read]

/-- Printable ASCII characters, the space among them. -/
def IsPrintable (c : Char) : Prop := ' ' ≤ c ∧ c ≤ '~'

instance (c : Char) : Decidable (IsPrintable c) := inferInstanceAs (Decidable (_ ∧ _))

/-- A hexadecimal digit is printable. -/
lemma isPrintable_hexDigitUpper {n : Nat} (h : n < 16) : IsPrintable (Text.hexDigitUpper n) := by
  revert n
  decide

/-- A Unicode escape is written with printable characters. -/
lemma isPrintable_of_mem_unitEscape {u : UInt16} {c : Char} (h : c ∈ unitEscape u) :
    IsPrintable c := by
  have bound : u.toNat < 65536 := u.toNat_lt
  simp only [unitEscape, unitDigits, List.mem_cons, List.not_mem_nil, or_false] at h
  rcases h with rfl | rfl | rfl | rfl | rfl | rfl
  · decide
  · decide
  all_goals exact isPrintable_hexDigitUpper (by omega)

/-- Whatever a character is, it is written with printable characters. -/
lemma isPrintable_of_mem_escapeChar {c d : Char} (h : d ∈ escapeChar c) : IsPrintable d := by
  unfold escapeChar at h
  split_ifs at h with doubleQuote backslash feed tab return' back form hidden
  on_goal 8 =>
    obtain ⟨u, -, h⟩ := List.mem_flatMap.mp h
    exact isPrintable_of_mem_unitEscape h
  on_goal 8 =>
    obtain ⟨low, high⟩ := not_or.mp hidden
    have below : c.toNat < 0x7F := not_le.mp high
    rw [List.mem_singleton.mp h]
    exact ⟨Char.not_lt.mp low, Nat.le_of_lt_succ below⟩
  all_goals
    rcases List.mem_pair.mp h with rfl | rfl <;> decide

/-- The literal of a text is printable ASCII, and so takes up one line. -/
lemma isPrintable_of_mem_ofText {s : String} {c : Char} (h : c ∈ (ofText s).toList) :
    IsPrintable c := by
  rw [toList_ofText, List.mem_cons, List.mem_append, List.mem_flatMap, List.mem_singleton] at h
  rcases h with rfl | ⟨d, -, h⟩ | rfl
  · decide
  · exact isPrintable_of_mem_escapeChar h
  · decide

/-! ## Whole numbers -/

section

variable {n : Nat} {i : Int} {width : Nat} {c : Char}

/-- The digits of a natural number are read back. -/
lemma natOfDigits_toDigits (n : Nat) : Decimal.natOfDigits (Nat.toDigits 10 n) = n :=
  Nat.ofDigitChars_toDigits (by decide) (by decide)

/-- A natural number is written with digits. -/
lemma isDigit_of_mem_toDigits (h : c ∈ Nat.toDigits 10 n) : c.isDigit = true :=
  Nat.isDigit_of_mem_toDigits (by decide) (by decide) h

/-- Only zero is written with a leading zero. -/
lemma eq_zero_of_head?_toDigits (h : (Nat.toDigits 10 n).head? = some '0') : n = 0 := by
  induction n using Nat.strongRecOn with
  | ind n ih =>
    rw [Nat.toDigits_eq_if (by decide)] at h
    split at h
    · exact Nat.digitChar_eq_zero.mp (Option.some.inj h)
    · rw [List.head?_append_of_ne_nil _ Nat.toDigits_ne_nil] at h
      have := ih (n / 10) (by omega) h
      omega

/-- The magnitude of an integer literal is read from its digits. -/
lemma magnitude?_toDigits (n : Nat) : magnitude? (Nat.toDigits 10 n) = some n := by
  have digits : (Nat.toDigits 10 n).all Char.isDigit = true :=
    List.all_eq_true.mpr fun _ => isDigit_of_mem_toDigits
  have leading : (Nat.toDigits 10 n).head? = some '0' → Nat.toDigits 10 n = ['0'] := by
    intro h
    rw [eq_zero_of_head?_toDigits h]
    rfl
  rw [magnitude?, if_pos ⟨Nat.toDigits_ne_nil, digits, leading⟩, natOfDigits_toDigits]

/-- The literal for an integer is its magnitude behind its sign. -/
lemma toList_ofInt (i : Int) :
    (ofInt i).toList = (if i < 0 then ['-'] else []) ++ Nat.toDigits 10 i.natAbs := by
  simp [ofInt, Decimal.Numeral.render, Decimal.Numeral.ofInt, Decimal.Numeral.chars]

/-- The literal for an integer is read back if its width is enough. -/
lemma integer?_ofInt (least : -(2 ^ (width - 1) : Int) ≤ i) (greatest : i < 2 ^ (width - 1)) :
    integer? width (ofInt i).toList = some i := by
  rw [toList_ofInt]
  by_cases negative : i < 0
  · rw [if_pos negative, List.singleton_append, integer?, magnitude?_toDigits]
    have fits : i.natAbs ≤ 2 ^ (width - 1) := by
      zify
      rw [abs_of_neg negative]
      omega
    rw [Option.bind_eq_bind, Option.bind_some, if_pos fits]
    exact congrArg some (by omega)
  · rw [if_neg negative, List.nil_append, integer?, magnitude?_toDigits]
    · have fits : i.natAbs < 2 ^ (width - 1) := by
        zify
        rw [abs_of_nonneg (not_lt.mp negative)]
        exact greatest
      rw [Option.bind_eq_bind, Option.bind_some, if_pos fits]
      exact congrArg some (by omega)
    · intro digits heq
      have minus := isDigit_of_mem_toDigits (heq ▸ List.mem_cons_self (a := '-'))
      exact absurd minus (by decide)

/-- Only digits and a sign are in the literal for an integer. -/
lemma notMem_ofInt (other : ¬(c.isDigit = true ∨ c = '-')) : c ∉ (ofInt i).toList := by
  intro h
  rw [toList_ofInt, List.mem_append] at h
  rcases h with h | h
  · split at h
    · exact other (.inr (List.mem_singleton.mp h))
    · cases h
  · exact other (.inl (isDigit_of_mem_toDigits h))

end

/-- What is neither in the text around an integer nor a digit or a sign is not in both together. -/
lemma notMem_around_ofInt {i : Int} {c : Char} {opening closing : List Char} (before : c ∉ opening)
    (other : ¬(c.isDigit = true ∨ c = '-')) (behind : c ∉ closing) :
    c ∉ opening ++ ((ofInt i).toList ++ closing) :=
  List.not_mem_append before (List.not_mem_append (notMem_ofInt other) behind)

/-- A source that has no `u` and no `a` in it is neither a text nor a truth value. -/
lemma readScalar?_eq_readNumber? {source : String} (u : 'u' ∉ source.toList)
    (a : 'a' ∉ source.toList) :
    readScalar? source = readNumber? source.toList := by
  rw [readScalar?, if_neg, if_neg]
  · rintro rfl
    exact a (by decide)
  · rintro rfl
    exact u (by decide)

/-- The literal for a truth value is read back. -/
lemma readScalar?_bool (b : Bool) : readScalar? (ofScalar (.bool b)) = some (.bool b) := by
  cases b <;> rfl

/-- The literal for an integer of 8 bits is read back. -/
lemma readScalar?_byte (n : Int8) : readScalar? (ofScalar (.byte n)) = some (.byte n) := by
  have least := n.le_toInt
  have greatest := n.toInt_lt
  have read : integer? 32 (ofInt n.toInt).toList = some n.toInt :=
    integer?_ofInt (by omega) (by omega)
  have source : (ofScalar (.byte n)).toList =
      "(byte) ".toList ++ ((ofInt n.toInt).toList ++ []) := by
    rw [ofScalar, String.toList_append, List.append_nil]
  rw [readScalar?_eq_readNumber?, readNumber?, source, Text.unwrap?_append]
  · dsimp only
    rw [read]
    exact congrArg (some ∘ Scalar.byte) (Int8.ofInt_toInt n)
  all_goals
    rw [source]
    exact notMem_around_ofInt (by decide) (by decide) (by decide)

/-- The literal for an integer of 16 bits is read back. -/
lemma readScalar?_short (n : Int16) : readScalar? (ofScalar (.short n)) = some (.short n) := by
  have least := n.le_toInt
  have greatest := n.toInt_lt
  have read : integer? 32 (ofInt n.toInt).toList = some n.toInt :=
    integer?_ofInt (by omega) (by omega)
  have source : (ofScalar (.short n)).toList =
      "(short) ".toList ++ ((ofInt n.toInt).toList ++ []) := by
    rw [ofScalar, String.toList_append, List.append_nil]
  rw [readScalar?_eq_readNumber?, readNumber?, source, Text.unwrap?_eq_none (c := 'b') (by decide),
    Text.unwrap?_append]
  · dsimp only
    rw [read]
    exact congrArg (some ∘ Scalar.short) (Int16.ofInt_toInt n)
  all_goals
    try rw [source]
    exact notMem_around_ofInt (by decide) (by decide) (by decide)

/-- The literal for an integer of 32 bits is read back. -/
lemma readScalar?_int (n : Int32) : readScalar? (ofScalar (.int n)) = some (.int n) := by
  have read : integer? 32 (ofInt n.toInt).toList = some n.toInt :=
    integer?_ofInt n.le_toInt n.toInt_lt
  rw [ofScalar, readScalar?_eq_readNumber? (notMem_ofInt (by decide)) (notMem_ofInt (by decide)),
    readNumber?, Text.unwrap?_eq_none (c := '(') (by decide) (notMem_ofInt (by decide)),
    Text.unwrap?_eq_none (c := '(') (by decide) (notMem_ofInt (by decide)),
    Text.unwrap?_eq_none (c := 'L') (by decide) (notMem_ofInt (by decide)), read]
  exact congrArg (some ∘ Scalar.int) (Int32.ofInt_toInt n)

/-- The literal for an integer of 64 bits is read back. -/
lemma readScalar?_long (n : Int64) : readScalar? (ofScalar (.long n)) = some (.long n) := by
  have read : integer? 64 (ofInt n.toInt).toList = some n.toInt :=
    integer?_ofInt n.le_toInt n.toInt_lt
  have source : (ofScalar (.long n)).toList = [] ++ ((ofInt n.toInt).toList ++ ['L']) := by
    simp [ofScalar]
  rw [readScalar?_eq_readNumber?, readNumber?, source, Text.unwrap?_eq_none (c := '(') (by decide),
    Text.unwrap?_eq_none (c := '(') (by decide), Text.unwrap?_append]
  · dsimp only
    rw [read]
    exact congrArg (some ∘ Scalar.long) (Int64.ofInt_toInt n)
  all_goals
    try rw [source]
    exact notMem_around_ofInt (by decide) (by decide) (by decide)

/-- Literals read back exactly. That of a text is printable ASCII and stands for the units of the
text, a character has a literal if it is a single unit, which the literal stands for, and a truth
value or a whole number is read back with its width. -/
theorem literals_read_back :
    (∀ s : String, (∀ c ∈ (ofText s).toList, IsPrintable c) ∧
      readText? (ofText s) = some (s.toList.flatMap Text.units)) ∧
    (∀ c : Char, (ofChar? c).map readChar? =
      if c.toNat < 0x10000 then some (some (UInt16.ofNat c.toNat)) else none) ∧
    (∀ b : Bool, (ofScalar? (.bool b)).map readScalar? = some (some (.bool b))) ∧
    (∀ n : Int8, (ofScalar? (.byte n)).map readScalar? = some (some (.byte n))) ∧
    (∀ n : Int16, (ofScalar? (.short n)).map readScalar? = some (some (.short n))) ∧
    (∀ n : Int32, (ofScalar? (.int n)).map readScalar? = some (some (.int n))) ∧
    ∀ n : Int64, (ofScalar? (.long n)).map readScalar? = some (some (.long n)) := by
  refine ⟨fun s => ⟨fun c => isPrintable_of_mem_ofText, readText?_ofText s⟩, fun c => ?_,
    fun b => congrArg some (readScalar?_bool b), fun n => congrArg some (readScalar?_byte n),
    fun n => congrArg some (readScalar?_short n), fun n => congrArg some (readScalar?_int n),
    fun n => congrArg some (readScalar?_long n)⟩
  rw [ofChar?]
  by_cases single : c.toNat < 0x10000
  · have isSingle : Text.isSingleUnit c = true := decide_eq_true single
    rw [if_pos isSingle, if_pos single]
    exact congrArg some (readChar?_ofChar isSingle)
  · have isPair : ¬Text.isSingleUnit c = true := fun h => single (of_decide_eq_true h)
    rw [if_neg isPair, if_neg single]
    rfl

/-- A backslash that is followed by what looks like the rest of a Unicode escape, and a character
of two units. -/
theorem literals_read_back_lookalike :
    readText? (ofText "\\u0041\"😀") =
        some [0x5C, 0x75, 0x30, 0x30, 0x34, 0x31, 0x22, 0xD83D, 0xDE00] ∧
      (∀ c ∈ (ofText "\\u0041\"😀").toList, IsPrintable c) ∧
      (ofScalar? (.long (-9223372036854775808))).map readScalar? =
      some (some (.long (-9223372036854775808))) := by
  obtain ⟨texts, -, -, -, -, -, longs⟩ := literals_read_back
  have units : "\\u0041\"😀".toList.flatMap Text.units =
      [0x5C, 0x75, 0x30, 0x30, 0x34, 0x31, 0x22, 0xD83D, 0xDE00] := by
    decide
  exact ⟨units ▸ (texts _).2, (texts _).1, longs _⟩

end CallReplay.Literal
