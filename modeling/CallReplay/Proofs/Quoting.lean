import CallReplay.Proofs.Literal

/-!
# Literals in a line

A literal that stands in a line is read from its opening quote to the first quote that ends it,
whatever the line goes on with. So a source starts with at most one literal (`StartsWith.unique`),
and a line that is put together around the literal of a text quotes that text there and no other
(`quotes_of_eq`, `Quotes.unique`): no character of the text is taken for a part of the line.
-/

namespace CallReplay

namespace Text

variable {c d : Char} {us vs : List UInt16}

/-- A character has at least one unit. -/
lemma units_ne_nil (c : Char) : units c ≠ [] := by
  unfold units
  split <;> exact List.cons_ne_nil _ _

/-- The unit of a character of the first plane is its number. -/
lemma toNat_units_of_isSingleUnit (single : isSingleUnit c = true) :
    (units c).map UInt16.toNat = [c.toNat] := by
  have basic : c.toNat < 0x10000 := of_decide_eq_true single
  rw [units, if_pos single, List.map_singleton, UInt16.toNat_ofNat', Nat.mod_eq_of_lt basic]

/-- The units of a character beyond the first plane are a pair of surrogates. -/
lemma toNat_units_of_pair (pair : ¬isSingleUnit c = true) :
    (units c).map UInt16.toNat =
    [0xD800 + (c.toNat - 0x10000) / 0x400, 0xDC00 + (c.toNat - 0x10000) % 0x400] := by
  have bound : c.toNat ≤ 0x10FFFF := c.toNat_le_max
  simp only [units, if_neg pair, List.map_cons, List.map_nil, UInt16.toNat_ofNat']
  rw [Nat.mod_eq_of_lt (by omega), Nat.mod_eq_of_lt (by omega)]

/-- No character is a surrogate. -/
lemma toNat_lt_or_lt (c : Char) : c.toNat < 0xD800 ∨ 0xDFFF < c.toNat := by
  rcases c.valid with low | ⟨high, -⟩
  · exact .inl low
  · exact .inr high

/-- The first character of a text can be told from the units of the text. -/
lemma units_append_inj (h : units c ++ us = units d ++ vs) : c = d ∧ us = vs := by
  have numbers := congrArg (List.map UInt16.toNat) h
  rw [List.map_append, List.map_append] at numbers
  have hc := toNat_lt_or_lt c
  have hd := toNat_lt_or_lt d
  have boundC : c.toNat ≤ 0x10FFFF := c.toNat_le_max
  have boundD : d.toNat ≤ 0x10FFFF := d.toNat_le_max
  have same : c = d := by
    by_cases singleC : isSingleUnit c = true <;> by_cases singleD : isSingleUnit d = true
    · rw [toNat_units_of_isSingleUnit singleC, toNat_units_of_isSingleUnit singleD] at numbers
      exact Char.toNat_inj.mp (List.cons.inj numbers).1
    · rw [toNat_units_of_isSingleUnit singleC, toNat_units_of_pair singleD] at numbers
      have := (List.cons.inj numbers).1
      omega
    · rw [toNat_units_of_pair singleC, toNat_units_of_isSingleUnit singleD] at numbers
      have := (List.cons.inj numbers).1
      omega
    · rw [toNat_units_of_pair singleC, toNat_units_of_pair singleD] at numbers
      obtain ⟨high, rest⟩ := List.cons.inj numbers
      have low := (List.cons.inj rest).1
      have beyondC : 0x10000 ≤ c.toNat := not_lt.mp fun h => singleC (decide_eq_true h)
      have beyondD : 0x10000 ≤ d.toNat := not_lt.mp fun h => singleD (decide_eq_true h)
      exact Char.toNat_inj.mp (by omega)
  subst same
  exact ⟨rfl, List.append_cancel_left h⟩

/-- Texts with the same units are the same. -/
theorem flatMap_units_injective : Function.Injective fun s : String => s.toList.flatMap units := by
  have chars : Function.Injective fun cs : List Char => cs.flatMap units := by
    intro cs ds h
    induction cs generalizing ds with
    | nil =>
      cases ds with
      | nil => rfl
      | cons d ds =>
        have empty := List.append_eq_nil_iff.mp h.symm
        exact absurd empty.1 (units_ne_nil d)
    | cons c cs ih =>
      cases ds with
      | nil => exact absurd (List.append_eq_nil_iff.mp h).1 (units_ne_nil c)
      | cons d ds =>
        obtain ⟨rfl, rest⟩ := units_append_inj h
        rw [ih rest]
  exact fun s s' h => String.toList_injective (chars h)

end Text

namespace Literal

/-! ## Reading goes on behind a literal -/

section

variable {quote : Char} {even : Bool} {us vs ws : List UInt16} {cs rest : List Char} {u : UInt16}

/-- A Unicode escape is read whatever comes behind it. -/
lemma unicode?_append (h : unicode? cs = some (u, rest)) (more : List Char) :
    unicode? (cs ++ more) = some (u, rest ++ more) := by
  induction cs using unicode?.induct with
  | case1 following ih =>
    rw [unicode?] at h
    rw [List.cons_append, List.cons_append, unicode?]
    exact ih h
  | case2 a b c d following marker =>
    rw [unicode?] at h
    · obtain ⟨n, digits, heq⟩ := Option.bind_eq_some_iff.mp h
      cases heq
      simp only [List.cons_append]
      rw [unicode?, digits]
      · rfl
      · exact marker
    · exact marker
  | case3 cs =>
    rw [unicode?] at h
    · cases h
    all_goals assumption

/-- Only nothing is translated to nothing. -/
lemma eq_nil_of_translate?_eq_nil (h : translate? even cs = some []) : cs = [] := by
  cases cs with
  | nil => rfl
  | cons c rest =>
    rw [translate?] at h
    split_ifs at h with plain escape
    · obtain ⟨_, -, heq⟩ := Option.map_eq_some_iff.mp h
      exact absurd (List.append_eq_nil_iff.mp heq).1 (Text.units_ne_nil c)
    · split at h
      · cases h
      · obtain ⟨_, -, heq⟩ := Option.map_eq_some_iff.mp h
        cases heq
    · obtain ⟨_, -, heq⟩ := Option.map_eq_some_iff.mp h
      exact absurd (List.append_eq_nil_iff.mp heq).1 (Text.units_ne_nil c)

/-- A backslash before a `u` starts a Unicode escape. -/
lemma translate?_escape (starts : rest.head? = some 'u') :
    translate? true ('\\' :: rest) =
      (unicode? rest).bind fun p => (translate? true p.2).map (p.1 :: ·) := by
  rw [translate?, if_neg (not_not_intro rfl), if_pos ⟨rfl, starts⟩]
  split
  · next failed =>
    rw [failed]
    rfl
  · next read =>
    rw [read]
    rfl

/-- The first pass goes on behind a source whose last unit is not a backslash as if
it began there. -/
lemma translate?_append {last : UInt16} (h : translate? even cs = some vs)
    (ends : vs.getLast? = some last) (plain : last ≠ unit '\\') (more : List Char) :
    translate? even (cs ++ more) = (translate? true more).map (vs ++ ·) := by
  -- In each case the units of the first character or escape are followed by others, or the source
  -- ends with it.
  induction even, cs using translate?.induct generalizing vs with
  | case1 even =>
    rw [translate?] at h
    cases h
    cases ends
  | case2 even c rest other ih =>
    rw [translate?_of_ne other] at h
    obtain ⟨us, passed, rfl⟩ := Option.map_eq_some_iff.mp h
    rw [List.cons_append, translate?_of_ne other]
    cases us with
    | nil => rw [eq_nil_of_translate?_eq_nil passed, List.nil_append, List.append_nil]
    | cons u us =>
      rw [List.getLast?_append_of_ne_nil _ (List.cons_ne_nil u us)] at ends
      rw [ih passed ends, Option.map_map]
      exact congrArg (Option.map · _) (funext fun _ => (List.append_assoc ..).symm)
  | case3 even c rest backslash escape failed =>
    cases not_not.mp backslash
    cases escape.1
    rw [translate?_escape escape.2, failed] at h
    cases h
  | case4 even c rest backslash escape u following read ih =>
    cases not_not.mp backslash
    cases escape.1
    have starts : (rest ++ more).head? = some 'u' := by
      rw [List.head?_append, escape.2, Option.some_or]
    rw [translate?_escape escape.2, read, Option.bind_some] at h
    obtain ⟨us, passed, rfl⟩ := Option.map_eq_some_iff.mp h
    rw [List.cons_append, translate?_escape starts, unicode?_append read, Option.bind_some]
    cases us with
    | nil =>
      obtain rfl : following = [] := eq_nil_of_translate?_eq_nil passed
      rfl
    | cons u' us =>
      rw [List.getLast?_cons_cons] at ends
      rw [ih passed ends, Option.map_map]
      rfl
  | case5 even c rest backslash other ih =>
    cases not_not.mp backslash
    rw [translate?_backslash other] at h
    obtain ⟨us, passed, rfl⟩ := Option.map_eq_some_iff.mp h
    cases us with
    | nil => exact absurd (Option.some.inj ends).symm plain
    | cons u us =>
      rw [List.getLast?_cons_cons] at ends
      have nonempty : rest ≠ [] := by
        rintro rfl
        rw [translate?] at passed
        cases passed
      have other' : ¬(even = true ∧ (rest ++ more).head? = some 'u') := by
        rwa [List.head?_append_of_ne_nil _ nonempty]
      rw [List.cons_append, translate?_backslash other', ih passed ends, Option.map_map]
      rfl

/-- The quote ends the text. -/
lemma content?_quote (quote : Char) (vs : List UInt16) :
    content? quote (unit quote :: vs) = some ([], vs) := by
  rw [content?.eq_def]
  exact if_pos rfl

/-- A line break is not allowed in a text. -/
lemma content?_break (other : u ≠ unit quote) (breaks : u = unit '\n' ∨ u = unit '\r') :
    content? quote (u :: vs) = none := by
  rw [content?.eq_def]
  dsimp only
  rw [if_neg other, if_pos breaks]

/-- A backslash starts an escape sequence. -/
lemma content?_sequence (other : unit '\\' ≠ unit quote) (escaped : UInt16) (vs : List UInt16) :
    content? quote (unit '\\' :: escaped :: vs) =
      (sequence? escaped).bind fun u => (content? quote vs).map (Prod.map (u :: ·) id) := by
  rw [content?.eq_def]
  dsimp only
  rw [if_neg other, if_neg (by decide), if_pos rfl]
  rfl

/-- What is read between quotes is read so whatever follows the closing one, which comes last. -/
lemma content?_append (h : content? quote vs = some (us, [])) :
    vs.getLast? = some (unit quote) ∧ ∀ more, content? quote (vs ++ more) = some (us, more) := by
  induction vs using content?.induct quote generalizing us with
  | case1 => cases h
  | case2 rest =>
    rw [content?_quote] at h
    cases h
    exact ⟨rfl, content?_quote quote⟩
  | case3 u rest other breaks =>
    rw [content?_break other breaks] at h
    cases h
  | case4 other _ =>
    rw [content?.eq_def] at h
    dsimp only at h
    rw [if_neg other, if_neg (by decide), if_pos rfl] at h
    cases h
  | case5 escaped rest other _ ih =>
    rw [content?_sequence other] at h
    obtain ⟨u, known, h⟩ := Option.bind_eq_some_iff.mp h
    obtain ⟨⟨us, _⟩, inside, heq⟩ := Option.map_eq_some_iff.mp h
    cases heq
    obtain ⟨ends, go⟩ := ih inside
    refine ⟨?_, fun more => ?_⟩
    · rw [List.getLast?_cons_cons, List.getLast?_cons, ends, Option.getD_some]
    · rw [List.cons_append, List.cons_append, content?_sequence other, known, go]
      rfl
  | case6 u rest other breaks backslash ih =>
    have ordinary : ∀ w ∈ [u], Ordinary quote w :=
      List.forall_mem_singleton.mpr
        ⟨other, fun h => breaks (.inl h), fun h => breaks (.inr h), backslash⟩
    have single : content? quote (u :: rest) = (content? quote rest).map (Prod.map (u :: ·) id) :=
      content?_ordinary ordinary rest
    rw [single] at h
    obtain ⟨⟨us, _⟩, inside, heq⟩ := Option.map_eq_some_iff.mp h
    cases heq
    obtain ⟨ends, go⟩ := ih inside
    refine ⟨?_, fun more => ?_⟩
    · rw [List.getLast?_cons, ends, Option.getD_some]
    · have whole : content? quote (u :: (rest ++ more)) =
          (content? quote (rest ++ more)).map (Prod.map (u :: ·) id) :=
        content?_ordinary ordinary (rest ++ more)
      rw [List.cons_append, whole, go]
      rfl

/-- Behind a source that is one literal reading goes on as if it began there. -/
lemma quoted?_append (isQuote : quote ∈ ['"', '\'']) (h : quoted? quote cs = some (us, []))
    (more : List Char) :
    quoted? quote (cs ++ more) = (translate? true more).map (us, ·) := by
  obtain ⟨vs, passed, h⟩ := Option.bind_eq_some_iff.mp h
  split at h
  · next opens =>
    cases vs with
    | nil => cases opens
    | cons u vs =>
      obtain ⟨ends, go⟩ := content?_append h
      rw [List.tail_cons] at ends go
      have last : (u :: vs).getLast? = some (unit quote) := by
        rw [List.getLast?_cons, ends, Option.getD_some]
      have other : unit quote ≠ unit '\\' := by
        rcases List.mem_pair.mp isQuote with rfl | rfl <;> decide
      rw [quoted?, translate?_append passed last other]
      cases translate? true more with
      | none => rfl
      | some following =>
        have starts : (u :: vs ++ following).head? = some (unit quote) := opens
        exact (if_pos starts).trans (go following)
  · cases h

end

/-! ## At most one literal -/

/-- A source starts with the literal of a text that has these units, and goes on with the rest. -/
def StartsWith (source : String) (units : List UInt16) (rest : String) : Prop :=
  ∃ literal : String, source = literal ++ rest ∧ readText? literal = some units

/-- A text literal is read up to its end. -/
lemma quoted?_of_readText? {literal : String} {units : List UInt16}
    (h : readText? literal = some units) :
    quoted? '"' literal.toList = some (units, []) := by
  rw [readText?] at h
  split at h
  · next read =>
    cases h
    exact read
  · cases h

/-- No source starts with two literals. -/
theorem StartsWith.unique {source rest rest' : String} {units units' : List UInt16}
    (first : StartsWith source units rest) (second : StartsWith source units' rest') :
    units = units' ∧ rest = rest' := by
  -- One of the two literals starts with the other, and goes on behind it with nothing.
  have within : ∀ {literal literal' : String} {more : List Char} {us us' : List UInt16},
    readText? literal = some us →
      readText? literal' = some us' → literal'.toList = literal.toList ++ more → us = us' ∧
      more = [] := by
    intro literal literal' more us us' read read' longer
    have whole := quoted?_of_readText? read'
    rw [longer, quoted?_append List.mem_cons_self (quoted?_of_readText? read)] at whole
    obtain ⟨following, passed, heq⟩ := Option.map_eq_some_iff.mp whole
    cases heq
    exact ⟨rfl, eq_nil_of_translate?_eq_nil passed⟩
  obtain ⟨literal, rfl, read⟩ := first
  obtain ⟨literal', heq, read'⟩ := second
  have chars : literal.toList ++ rest.toList = literal'.toList ++ rest'.toList := by
    rw [← String.toList_append, heq, String.toList_append]
  rcases List.append_eq_append_iff.mp chars with ⟨more, longer, hrest⟩ | ⟨more, longer, hrest⟩
  · obtain ⟨rfl, rfl⟩ := within read read' longer
    exact ⟨rfl, String.toList_injective hrest⟩
  · obtain ⟨rfl, rfl⟩ := within read' read longer
    exact ⟨rfl, String.toList_injective hrest.symm⟩

/-- A line has the literal of a text between an opening and a closing: what is read behind the
opening is the text, and what is left is the closing. -/
def Quotes (line opening text closing : String) : Prop :=
  ∃ source, line = opening ++ source ∧
    ∀ units rest, StartsWith source units rest ↔ units = text.toList.flatMap Text.units ∧
    rest = closing

/-- A line that is put together around the literal of a text quotes it, whatever the text is. -/
theorem quotes_of_eq {line opening text closing : String}
    (h : line = opening ++ ofText text ++ closing) :
    Quotes line opening text closing := by
  subst h
  have starts : StartsWith (ofText text ++ closing) (text.toList.flatMap Text.units) closing :=
    ⟨ofText text, rfl, readText?_ofText text⟩
  refine ⟨ofText text ++ closing, String.append_assoc, fun units rest =>
    ⟨fun h => h.unique starts, ?_⟩⟩
  rintro ⟨rfl, rfl⟩
  exact starts

/-- Behind an opening a line quotes no more than one text. -/
theorem Quotes.unique {line opening text text' closing closing' : String}
    (h : Quotes line opening text closing) (h' : Quotes line opening text' closing') :
    text = text' ∧ closing = closing' := by
  obtain ⟨source, rfl, reads⟩ := h
  obtain ⟨source', heq, reads'⟩ := h'
  cases String.append_right_inj opening |>.mp heq
  obtain ⟨units, rest⟩ := (reads' _ _).mp ((reads _ _).mpr ⟨rfl, rfl⟩)
  exact ⟨Text.flatMap_units_injective units, rest⟩

end Literal

end CallReplay
