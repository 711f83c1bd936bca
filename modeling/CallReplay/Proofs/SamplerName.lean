import CallReplay.Recorder
import CallReplay.Proofs.Text.Replace
import CallReplay.Proofs.Text.Split

/-!
# Names of samplers

The name of a sampler is made from a format, which is text with places for the index, the target and
the method of the call (`Composed`). What the format asks for is the format with what belongs to
each place put in once (`filledName`). The places are filled one after another instead, the method
last, so a place for the method that the target spells, alone or together with the text beside it,
is filled too. Between two places for the method all places for it are filled, and no other place is
filled where the format has none (`samplerName_fills`).
-/

namespace CallReplay

namespace NameFormat

/-- What a format has places for. -/
inductive Place where
  | index
  | target
  | method
  deriving DecidableEq

namespace Place

/-- The places of a format. -/
def all : List Place := [index, target, method]

/-- What stands between the braces of a place. -/
def name : Place → String
  | index => "index"
  | target => "target"
  | method => "method"

/-- How a place is written behind the brace that opens it. -/
def body (p : Place) : List Char := p.name.toList ++ ['}']

/-- How a place is written. -/
def mark (p : Place) : List Char := '{' :: p.body

/-- What belongs to a place in the name of a call. -/
def value (r : CallRecord) : Place → List Char
  | index => (toString r.index.toNat).toList
  | target => r.target.toList
  | method => r.method.toList

end Place

/-- What a format is made of. -/
inductive Piece where
  | char (c : Char)
  | place (p : Place)
  deriving DecidableEq

/-- A piece with a text for each place. -/
def Piece.shown (text : Place → List Char) : Piece → List Char
  | char c => [c]
  | place p => text p

/-- The pieces of a format from left to right: a place where one is written, and
else a character. -/
def pieces : (skip : Nat) → List Char → List Piece
  | _, [] => []
  | skip + 1, _ :: rest => pieces skip rest
  | 0, c :: rest =>
    match Place.all.find? fun p => p.mark.isPrefixOf (c :: rest) with
    | some p => .place p :: pieces (p.mark.length - 1) rest
    | none => .char c :: pieces 0 rest

/-- Pieces put together, with a text for each place. -/
def fill (text : Place → List Char) (ps : List Piece) : List Char := ps.flatMap (Piece.shown text)

/-- The name of a call that a format asks for. -/
def filledName (format : String) (r : CallRecord) : String :=
  String.ofList (fill (Place.value r) (pieces 0 format.toList))

/-- What a name has between the places for the method. -/
def between (format : String) (r : CallRecord) : List String :=
  (Text.parts (.place .method) (pieces 0 format.toList)).map fun ps =>
    String.ofList (fill (Place.value r) ps)

/-- Text is made of pieces: a place stands wherever it is written, and else a character. -/
inductive Composed : List Char → List Piece → Prop where
  | nil : Composed [] []
  | place {cs ps} (p : Place) : Composed cs ps → Composed (p.mark ++ cs) (.place p :: ps)
  | char {c cs ps} : (∀ p : Place, ¬ p.mark <+: c :: cs) → Composed cs ps →
      Composed (c :: cs) (.char c :: ps)

section

variable {p q : Place} {c : Char} {cs rest b : List Char} {ps : List Piece}
  {text text' : Place → List Char}

/-- How the place for the method is written. -/
lemma toList_methodMark : "\x7bmethod\x7d".toList = Place.method.mark := rfl

/-- A text that starts with a place is cut behind it. -/
lemma pieces_mark (p : Place) (rest : List Char) :
    pieces 0 (p.mark ++ rest) = .place p :: pieces 0 rest := by
  cases p <;> rfl

/-- A text that starts with no place is cut behind its first character. -/
lemma pieces_of_unwritten (h : ∀ p : Place, ¬ p.mark <+: c :: rest) :
    pieces 0 (c :: rest) = .char c :: pieces 0 rest := by
  have none : (Place.all.find? fun p => p.mark.isPrefixOf (c :: rest)) = none := by
    rw [List.find?_eq_none]
    intro p _ starts
    exact h p (List.isPrefixOf_iff_prefix.mp starts)
  rw [pieces, none]

/-- Every text is made of the pieces that it is cut into. -/
theorem composed_pieces (cs : List Char) : Composed cs (pieces 0 cs) := by
  -- By the length, since a place is left behind as a whole.
  induction hlength : cs.length using Nat.strong_induction_on generalizing cs with
  | _ length ih =>
    subst hlength
    cases cs with
    | nil => exact .nil
    | cons c rest =>
      by_cases written : ∃ p : Place, p.mark <+: c :: rest
      · obtain ⟨p, tail, htail⟩ := written
        have shorter : tail.length < (c :: rest).length := by
          rw [← htail, Place.mark, List.length_append, List.length_cons]
          omega
        rw [← htail, pieces_mark]
        exact .place p (ih _ shorter tail rfl)
      · rw [not_exists] at written
        rw [pieces_of_unwritten written]
        exact .char written (ih _ (Nat.lt_succ_self _) rest rfl)

/-- Pieces are put together one behind the other. -/
lemma fill_cons (text : Place → List Char) (piece : Piece) (ps : List Piece) :
    fill text (piece :: ps) = piece.shown text ++ fill text ps := List.flatMap_cons

/-- With the places as they are written there is the text again. -/
lemma Composed.fill_mark (h : Composed cs ps) : fill Place.mark ps = cs := by
  induction h with
  | nil => rfl
  | place p _ ih => rw [fill_cons, ih, Piece.shown]
  | char _ _ ih => rw [fill_cons, ih, Piece.shown, List.singleton_append]

/-- What is put together is up to the texts of the places that are there. -/
lemma fill_congr (h : ∀ q, .place q ∈ ps → text q = text' q) : fill text ps = fill text' ps := by
  refine List.flatMap_congr fun piece hpiece => ?_
  cases piece with
  | char c => rfl
  | place q => exact h q hpiece

/-- Pieces are what is between the places of one kind, with the text for these places between. -/
lemma fill_eq_intercalate (text : Place → List Char) (p : Place) (ps : List Piece) :
    fill text ps = (text p).intercalate ((Text.parts (.place p) ps).map (fill text)) := by
  induction ps with
  | nil => rfl
  | cons piece ps ih =>
    by_cases hp : piece = .place p
    · have parts : Text.parts (.place p) (piece :: ps) = [] :: Text.parts (.place p) ps := by
        rw [hp, ← Text.parts_append List.not_mem_nil, List.nil_append]
      rw [fill_cons, ih, parts, hp, Text.parts]
      simp only [List.map_cons, List.intercalate_cons_cons]
      rfl
    · rw [fill_cons, ih, Text.parts_cons_of_ne hp, Text.parts]
      simp only [List.map_cons, fill_cons]
      cases (Text.split (.place p) ps).2 with
      | nil => simp
      | cons group groups => simp [List.intercalate_cons_cons]

/-- Behind its first brace a place has none that opens one. -/
lemma brace_notMem_body (p : Place) : '{' ∉ p.body := by
  cases p <;> decide

/-- What stands in the places when one of them is replaced: that one is as it is written, another is
as it is written or has no brace that opens a place, and what is written of a place does not end in
the text of another. -/
structure Passes (p : Place) (text : Place → List Char) : Prop where
  own : text p = p.mark
  others : ∀ q, text q = q.mark ∨ '{' ∉ text q
  stops : ∀ q b rest, b ≠ [] → b <:+ p.body → ¬ b <+: text q ++ rest

/-- A text whose first character a place lacks does not go on with what is written of the place. -/
lemma not_prefix_of_head? {t : List Char} (head : t.head? = some c) (absent : c ∉ p.body)
    (hb : b ≠ []) (suffix : b <:+ p.body) : ¬ b <+: t ++ rest := by
  obtain ⟨d, b, rfl⟩ := List.exists_cons_of_ne_nil hb
  obtain ⟨t, rfl⟩ : ∃ tail, t = c :: tail := by
    cases t <;> simp_all
  intro starts
  obtain ⟨rfl, -⟩ := List.cons_prefix_cons.mp starts
  exact absent (suffix.subset List.mem_cons_self)

/-- What is written of a place behind a character was written in the format. -/
lemma Passes.prefix_of_prefix_fill (passes : Passes p text) (h : Composed cs ps)
    (suffix : b <:+ p.body) (starts : b <+: fill text ps) : b <+: cs := by
  induction h generalizing b with
  | nil => exact starts
  | place q _ _ =>
    rw [fill_cons] at starts
    by_cases hb : b = []
    · exact hb ▸ List.nil_prefix
    · exact absurd starts (passes.stops q b _ hb suffix)
  | char _ _ ih =>
    rw [fill_cons, Piece.shown, List.singleton_append] at starts
    cases b with
    | nil => exact List.nil_prefix
    | cons d b =>
      obtain ⟨rfl, later⟩ := List.cons_prefix_cons.mp starts
      exact List.cons_prefix_cons.mpr ⟨rfl, ih ((List.suffix_cons d b).trans suffix) later⟩

/-- Places differ in their first letter. -/
lemma eq_of_head?_body (same : p.body.head? = q.body.head?) : p = q := by
  revert same
  cases p <;> cases q <;> decide

/-- No place starts like another behind the brace. -/
lemma not_body_prefix (h : q ≠ p) (rest : List Char) : ¬ p.body <+: q.body ++ rest := by
  have written : ∀ p : Place, p.body ≠ [] := by
    intro p
    cases p <;> decide
  rintro ⟨tail, same⟩
  have heads := congrArg List.head? same
  rw [List.head?_append_of_ne_nil _ (written p), List.head?_append_of_ne_nil _ (written q)] at heads
  exact h (eq_of_head?_body heads).symm

/-- Replacing one place puts a text into it and leaves all else as it is. -/
theorem Passes.replaceFrom_fill (passes : Passes p text) (replacement : List Char)
    (h : Composed cs ps) :
    Text.replaceFrom p.mark replacement 0 (fill text ps) =
    fill (Function.update text p replacement) ps := by
  have replaces : ∃ count, Text.Replaces p.mark replacement (fill text ps)
      (fill (Function.update text p replacement) ps) count := by
    induction h with
    | nil => exact ⟨0, .nil⟩
    | @place _ ps q _ ih =>
      obtain ⟨count, ih⟩ := ih
      rw [fill_cons, fill_cons, Piece.shown, Piece.shown]
      by_cases hq : q = p
      · rw [hq, passes.own, Function.update_self]
        exact ⟨count + 1, .hit ih⟩
      · rw [Function.update_of_ne hq]
        rcases passes.others q with mark | plain
        · have differ : ¬ p.mark <+: q.mark ++ fill text ps := by
            intro starts
            exact not_body_prefix hq _ (List.cons_prefix_cons.mp starts).2
          rw [mark]
          exact ⟨count, .skip differ (ih.copy (brace_notMem_body q))⟩
        · exact ⟨count, ih.copy plain⟩
    | char written composed ih =>
      obtain ⟨count, ih⟩ := ih
      refine ⟨count, .skip (fun starts => written p ?_) ih⟩
      obtain ⟨rfl, later⟩ := List.cons_prefix_cons.mp starts
      exact List.cons_prefix_cons.mpr
        ⟨rfl, passes.prefix_of_prefix_fill composed List.suffix_rfl later⟩
  obtain ⟨_, replaces⟩ := replaces
  exact replaces.eq_replaceFrom (List.cons_ne_nil _ _)

end

section

variable {r : CallRecord} {p : Place} {b rest : List Char}

/-- No end of a place stands where a place starts. -/
lemma not_prefix_mark (q : Place) (hb : b ≠ []) (suffix : b <:+ p.body) : ¬ b <+: q.mark ++ rest :=
  not_prefix_of_head? rfl (brace_notMem_body p) hb suffix

/-- The index is written with digits. -/
lemma isDigit_of_mem_index {c : Char} (h : c ∈ Place.index.value r) : c.isDigit = true := by
  rw [Place.value, Nat.toString_eq_repr, Nat.toList_repr] at h
  exact Nat.isDigit_of_mem_toDigits (by decide) (by decide) h

/-- The index has no brace in it. -/
lemma brace_notMem_index (r : CallRecord) : '{' ∉ Place.index.value r := by
  intro brace
  cases isDigit_of_mem_index brace

/-- No end of a place stands where the index starts. -/
lemma not_prefix_index (r : CallRecord) (hb : b ≠ []) (suffix : b <:+ p.body) :
    ¬ b <+: Place.index.value r ++ rest := by
  have digits : Place.index.value r ≠ [] := by
    rw [Place.value, Nat.toString_eq_repr, Nat.toList_repr]
    exact Nat.toDigits_ne_nil
  have letters : p.body.all (fun c => !c.isDigit) = true := by
    cases p <;> rfl
  refine not_prefix_of_head? (List.head?_eq_some_head digits) (fun inside => ?_) hb suffix
  simpa [isDigit_of_mem_index (List.head_mem digits)] using List.all_eq_true.mp letters _ inside

/-- What stands in the places when the index has been put in. -/
def indexed (r : CallRecord) : Place → List Char :=
  Function.update Place.mark .index (Place.index.value r)

/-- What stands in the places when only the method has not been put in. -/
def targeted (r : CallRecord) : Place → List Char :=
  Function.update (indexed r) .target (Place.target.value r)

/-- When the index is replaced, all places are as they are written. -/
lemma passes_index : Passes .index Place.mark where
  own := rfl
  others := fun _ => .inl rfl
  stops := fun q _ _ => not_prefix_mark q

/-- When the target is replaced, the index is in its place. -/
lemma passes_target (r : CallRecord) : Passes .target (indexed r) where
  own := rfl
  others := by
    intro q
    cases q with
    | index => exact .inr (brace_notMem_index r)
    | target => exact .inl rfl
    | method => exact .inl rfl
  stops := by
    intro q b rest
    cases q with
    | index => exact not_prefix_index r
    | target => exact not_prefix_mark .target
    | method => exact not_prefix_mark .method

/-- A target without braces that has a character which is not in the name of the place
for the method. -/
structure IsPlain (target : String) : Prop where
  opening : '{' ∉ target.toList
  closing : '}' ∉ target.toList
  other : ∃ c ∈ target.toList, c ∉ Place.method.name.toList

/-- What is written of a place ends in a brace, which such a target lacks, and does not have the
target in it. -/
lemma IsPlain.not_prefix (plain : IsPlain r.target) (hb : b ≠ [])
    (suffix : b <:+ Place.method.body) :
    ¬ b <+: Place.target.value r ++ rest := by
  intro starts
  have closes : '}' ∈ b := by
    obtain ⟨front, hbody⟩ := suffix
    have last := congrArg List.getLast? hbody
    rw [List.getLast?_append_of_ne_nil _ hb] at last
    exact List.mem_of_getLast? last
  rcases List.prefix_or_prefix_of_prefix starts (List.prefix_append _ _) with within | beyond
  · exact plain.closing (within.subset closes)
  · obtain ⟨c, hc, other⟩ := plain.other
    rcases List.mem_append.mp (suffix.subset (beyond.subset hc)) with name | brace
    · exact other name
    · exact plain.closing (List.mem_singleton.mp brace ▸ hc)

/-- When the method is replaced, the index and a plain target are in their places. -/
lemma passes_method (plain : IsPlain r.target) : Passes .method (targeted r) where
  own := rfl
  others := by
    intro q
    cases q with
    | index => exact .inr (brace_notMem_index r)
    | target => exact .inr plain.opening
    | method => exact .inl rfl
  stops := by
    intro q b rest
    cases q with
    | index => exact not_prefix_index r
    | target => exact plain.not_prefix
    | method => exact not_prefix_mark .method

end

/-- How the name of a sampler comes from the format, and when it is the name that the
format asks for. -/
structure Fills (options : RecorderOptions) (r : CallRecord) : Prop where
  /-- In what is between the places for the method, each place for it is filled. -/
  name : Recorder.samplerName options r = r.method.intercalate
    ((between options.nameFormat r).map fun s => Text.replace s "\x7bmethod\x7d" r.method)
  /-- The format asks for what is between as it is. -/
  asked : filledName options.nameFormat r = r.method.intercalate (between options.nameFormat r)
  /-- So the name is the one that is asked for exactly if nothing between has a place for the
  method, or the method is named like the place. -/
  same : Recorder.samplerName options r = filledName options.nameFormat r ↔
    r.method = "\x7bmethod\x7d" ∨
      ∀ s ∈ between options.nameFormat r, ¬ "\x7bmethod\x7d".toList <:+: s.toList
  /-- With a plain target it is, whatever the format. -/
  plain : IsPlain r.target → Recorder.samplerName options r = filledName options.nameFormat r

section

variable (options : RecorderOptions) (r : CallRecord)

/-- The index and the target are put in as the format asks for, and then the method is replaced. -/
theorem toList_samplerName : (Recorder.samplerName options r).toList =
    Text.replaceFrom Place.method.mark r.method.toList 0
      (fill (targeted r) (pieces 0 options.nameFormat.toList)) := by
  have composed := composed_pieces options.nameFormat.toList
  have first := passes_index.replaceFrom_fill (Place.index.value r) composed
  have second := (passes_target r).replaceFrom_fill (Place.target.value r) composed
  rw [composed.fill_mark] at first
  simp only [Recorder.samplerName, Text.replace, String.toList_ofList]
  change Text.replaceFrom Place.method.mark _ 0
    (Text.replaceFrom Place.target.mark (Place.target.value r) 0
      (Text.replaceFrom Place.index.mark (Place.index.value r) 0 _)) = _
  rw [first]
  exact congrArg _ second

/-- The texts between the places for the method. -/
def groups : List (List Char) :=
  (Text.parts (.place .method) (pieces 0 options.nameFormat.toList)).map (fill (Place.value r))

/-- The name that is asked for has the method between the groups. -/
lemma toList_filledName :
    (filledName options.nameFormat r).toList = r.method.toList.intercalate (groups options r) := by
  rw [filledName, String.toList_ofList, fill_eq_intercalate (Place.value r) .method]
  rfl

/-- When only the method has not been put in, the places for it that the format has join the
texts between them. -/
lemma fill_targeted : fill (targeted r) (pieces 0 options.nameFormat.toList) =
    Place.method.mark.intercalate (groups options r) := by
  have each : ∀ ps ∈ Text.parts (.place .method) (pieces 0 options.nameFormat.toList),
      fill (targeted r) ps = fill (Place.value r) ps := by
    intro ps hps
    refine fill_congr fun q hq => ?_
    cases q with
    | index => rfl
    | target => rfl
    | method => exact absurd hq (Text.notMem_of_mem_parts hps)
  rw [fill_eq_intercalate (targeted r) .method, List.map_congr_left each]
  rfl

/-- The name that is made has the method between the groups, in each of which places for it
are replaced too. -/
lemma toList_samplerName_groups :
    (Recorder.samplerName options r).toList = r.method.toList.intercalate
      ((groups options r).map (Text.replaceFrom Place.method.mark r.method.toList 0)) := by
  rw [toList_samplerName, fill_targeted]
  exact Text.replaceFrom_intercalate (brace_notMem_body .method) _ _

/-- The groups are what the name has between the places for the method. -/
lemma map_toList_between : (between options.nameFormat r).map String.toList = groups options r := by
  simp [between, groups, Function.comp_def]

/-- In the name of a sampler the format is filled, and then the places for the method in
what is between. -/
theorem samplerName_fills : Fills options r where
  name := by
    rw [← String.toList_inj, toList_samplerName_groups, String.toList_intercalate,
      ← map_toList_between, List.map_map, List.map_map]
    simp only [Function.comp_def, Text.toList_replace, toList_methodMark]
  asked := by
    rw [← String.toList_inj, toList_filledName, String.toList_intercalate, map_toList_between]
  same := by
    have some : Place.method.mark ≠ [] := List.cons_ne_nil _ _
    rw [← String.toList_inj, toList_samplerName_groups, toList_filledName,
      Text.intercalate_replaceFrom_eq_iff some, ← map_toList_between, List.forall_mem_map,
      ← toList_methodMark,
      String.toList_inj]
  plain := by
    intro plain
    have composed := composed_pieces options.nameFormat.toList
    have values : Function.update (targeted r) .method (Place.method.value r) = Place.value r := by
      funext q
      cases q <;> rfl
    have last := (passes_method plain).replaceFrom_fill (Place.method.value r) composed
    rw [values] at last
    rw [← String.toList_inj, toList_samplerName, filledName, String.toList_ofList]
    exact last

end

/-- A call of `run` without arguments. -/
def runCall (target : String) : CallRecord := .new 0 target "run" none ⟨.empty, []⟩

/-- The name of the method is put in where the target spells a place for it, alone or as the end of
one that the format begins. -/
theorem samplerName_replaces_target :
    (Recorder.samplerName {} (runCall "\x7bmethod\x7d") = "0 run.run" ∧
      filledName ({} : RecorderOptions).nameFormat (runCall "\x7bmethod\x7d") =
      "0 \x7bmethod\x7d.run") ∧
    (Recorder.samplerName { nameFormat := "\x7bmeth\x7btarget\x7d" } (runCall "od\x7d") = "run" ∧
      filledName "\x7bmeth\x7btarget\x7d" (runCall "od\x7d") = "\x7bmethod\x7d") ∧
    ¬ ∀ options r, Recorder.samplerName options r = filledName options.nameFormat r := by
  have name : Recorder.samplerName {} (runCall "\x7bmethod\x7d") = "0 run.run" := by cbv
  have asked : filledName ({} : RecorderOptions).nameFormat (runCall "\x7bmethod\x7d") =
      "0 \x7bmethod\x7d.run" := by
    cbv
  refine ⟨⟨name, asked⟩, ⟨by cbv, by cbv⟩, fun always => ?_⟩
  have same := always {} (runCall "\x7bmethod\x7d")
  rw [name, asked] at same
  revert same
  decide

end NameFormat

end CallReplay
