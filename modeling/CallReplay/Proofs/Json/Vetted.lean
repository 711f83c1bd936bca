import CallReplay.Proofs.Json.Written

/-!
# What is read is fit to be written

Any text may be read, also one that nothing writes. `Outline` says where the data model has
types; wherever it does, a tree that is read has a count of at most 255 dimensions, and the types
in what is read have no more either. So a tree that gives a greater count anywhere among its
types is refused.
-/

namespace CallReplay.Decimal

/-- The power of ten that an exponent stands for. -/
def Exponent.value (e : Exponent) : ℤ :=
  if e.sign = some .minus then -natOfDigits e.digits else natOfDigits e.digits

/-- The number that a numeral stands for. -/
def Numeral.value (n : Numeral) : ℚ :=
  (if n.negative then -1 else 1) * natOfDigits (n.whole ++ n.fraction) *
    10 ^ ((n.exponent.elim 0 Exponent.value) - n.fraction.length)

end CallReplay.Decimal

namespace CallReplay.Json

open Decimal (Numeral)

/-- An integer has the value that it is written with. -/
lemma value_eq_of_toInteger? {n : Numeral} {i : Int} (h : toInteger? n = some i) : n.value = i := by
  obtain ⟨negative, whole, fraction, exponent⟩ := n
  unfold toInteger? at h
  split at h
  next plain =>
    obtain ⟨noFraction, noExponent⟩ : fraction = [] ∧ exponent = none := by
      simpa [Numeral.isInteger] using plain
    subst noFraction noExponent
    cases negative with
    | true =>
      simp only [if_true] at h
      split at h <;> cases h
      simp [Numeral.value]
    | false =>
      simp only [Bool.false_eq_true, if_false] at h
      split at h <;> cases h
      simp [Numeral.value]
  next => cases h

/-- Where the data model has types: nowhere, in a part itself, in the elements of a list, in fields
of a record or in the content of cases. -/
inductive Outline where
  | other
  | type
  | list (element : Outline)
  | record (fields : List (String × Outline))
  | choice (cases : List (String × Outline))

/-- In a tree that is read as an outline says, a type is expected at a part of the tree. -/
inductive Outline.Expects : Outline → Source → Source → Prop
  | here (s : Source) : Expects .type s s
  | element {outline : Outline} {elements : List Source} {closed : Bool} {s t : Source}
      (mem : s ∈ elements) (inside : Expects outline s t) :
      Expects (.list outline) (.list elements closed) t
  | field {fields : List (String × Outline)} {position : Nat} {name : String} {outline : Outline}
      {s part t : Source} (field : fields[position]? = some (name, outline))
      (mem : part ∈ s.parts position name) (inside : Expects outline part t) :
      Expects (.record fields) s t
  | content {cases : List (String × Outline)} {name : String} {outline : Outline}
      {members : List (Option String × Source)} {closed : Bool} {s t : Source}
      (case : cases.lookup name = some outline) (mem : (some name, s) ∈ members)
      (inside : Expects outline s t) :
      Expects (.choice cases) (.object members closed) t

/-- The count of dimensions that a tree of a type gives is a number of at most 255. -/
def Few (t : Source) : Prop :=
  ∀ count ∈ t.parts 1 "dimensions", ∃ n, count = .number n ∧ n.value ≤ (maxDimensions : ℚ)

/-- What is read is good, and wherever the outline expects a type in the tree there
are few dimensions. -/
def Vets {α : Type} (outline : Outline) (read : Reader α) (good : α → Prop) : Prop :=
  ∀ s a, read s = .ok a → good a ∧ ∀ t, outline.Expects s t → Few t

section

variable {α β : Type} {outline : Outline} {read : Reader α} {good p : α → Prop} {q : β → Prop}

/-- Where no type is expected, none has too many dimensions. -/
lemma vets_other (h : ∀ s a, read s = .ok a → good a) : Vets .other read good :=
  fun s a hread => ⟨h s a hread, fun _ expects => by cases expects⟩

/-- A reader of something without types vets it. -/
lemma vets_any (read : Reader α) : Vets .other read fun _ => True := vets_other fun _ _ _ => trivial

/-- What is made of a good value has the types of its tree. -/
lemma Vets.map (h : Vets outline read p) (f : α → β) (keeps : ∀ a, p a → q (f a)) :
    Vets outline (fun s => (read s).map f) q := by
  intro s b hb
  obtain ⟨a, ha, rfl⟩ := map_eq_ok_iff.mp hb
  obtain ⟨hgood, few⟩ := h s a ha
  exact ⟨keeps a hgood, few⟩

/-- Every value of a list is read from an element, and every element is read. -/
lemma mem_of_readAll {sources : List Source} {as : List α} (h : readAll read sources = .ok as) :
    (∀ a ∈ as, ∃ s, read s = .ok a) ∧ ∀ s ∈ sources, ∃ a, read s = .ok a := by
  induction sources generalizing as with
  | nil =>
    cases h
    exact ⟨List.forall_mem_nil _, List.forall_mem_nil _⟩
  | cons s sources ih =>
    obtain ⟨a, ha, h⟩ := bind_eq_ok_iff.mp h
    obtain ⟨rest, hrest, h⟩ := bind_eq_ok_iff.mp h
    cases h
    obtain ⟨values, parts⟩ := ih hrest
    exact ⟨List.forall_mem_cons.mpr ⟨⟨s, ha⟩, values⟩, List.forall_mem_cons.mpr ⟨⟨a, ha⟩, parts⟩⟩

/-- The elements of a list have types where the outline says so of each. -/
lemma Vets.list (h : Vets outline read good) :
    Vets (.list outline) (readList read) fun as => ∀ a ∈ as, good a := by
  intro s as has
  unfold readList at has
  split at has
  next elements closed =>
    obtain ⟨as', all, has⟩ := bind_eq_ok_iff.mp has
    split at has <;> cases has
    obtain ⟨values, parts⟩ := mem_of_readAll all
    refine ⟨fun a ha => ?_, fun t expects => ?_⟩
    · obtain ⟨s, hs⟩ := values a ha
      exact (h s a hs).1
    · cases expects with
      | element mem inside =>
        obtain ⟨a, ha⟩ := parts _ mem
        exact (h _ a ha).2 t inside
  next => cases has

/-- A list or an object ends where its last part is read. -/
lemma eq_of_ends {γ : Type} {rest : List γ} {closed : Bool} {a b : α}
    (h : (if rest.isEmpty && closed then pure a else throw .malformed : Except DecodeError α) =
    .ok b) :
    rest = [] ∧ b = a := by
  split at h
  next ends =>
    cases h
    exact ⟨List.isEmpty_iff.mp (Bool.and_eq_true_iff.mp ends).1, rfl⟩
  next => cases h

/-- The two elements of a pair have types where the outline says so of elements. -/
lemma Vets.pair {other : Reader β} (first : Vets outline read p) (second : Vets outline other q) :
    Vets (.list outline) (readPair read other) fun e => p e.1 ∧ q e.2 := by
  intro s e he
  unfold readPair at he
  split at he
  next elements closed =>
    split at he
    · cases he
    · obtain ⟨a, -, he⟩ := bind_eq_ok_iff.mp he
      cases he
    next s t rest =>
      obtain ⟨a, ha, he⟩ := bind_eq_ok_iff.mp he
      obtain ⟨b, hb, he⟩ := bind_eq_ok_iff.mp he
      obtain ⟨rfl, rfl⟩ := eq_of_ends he
      refine ⟨⟨(first s a ha).1, (second t b hb).1⟩, fun u expects => ?_⟩
      cases expects with
      | element mem inside =>
        simp only [List.mem_cons, List.not_mem_nil, or_false] at mem
        obtain rfl | rfl := mem
        exacts [(first _ a ha).2 u inside, (second _ b hb).2 u inside]
  next => cases he

/-- What a case gives is good; a case without content has no types. -/
def Variant.Vets (outline : Outline) (good : α → Prop) : Variant α → Prop
  | .alone value => good value ∧ outline = .other
  | .content read => Json.Vets outline read good

/-- The content of a case has types where the outline says so of the case. -/
lemma Variant.Vets.readContent {variant : Variant α} (h : variant.Vets outline good) :
    Json.Vets outline variant.readContent good := by
  intro s a ha
  cases variant with
  | alone value =>
    obtain ⟨hgood, rfl⟩ := h
    obtain ⟨-, -, ha⟩ := bind_eq_ok_iff.mp ha
    cases ha
    exact ⟨hgood, fun t expects => by cases expects⟩
  | content read => exact h s a ha

/-- A value that is read by its case has types where the outline says so of that case. -/
lemma Vets.choice {pick : String → Option (Variant α)} {cases : List (String × Outline)}
    (h : ∀ name variant, pick name = some variant →
    variant.Vets ((cases.lookup name).getD .other) good) :
    Vets (.choice cases) (readVariant pick) good := by
  intro s a ha
  unfold readVariant at ha
  split at ha
  next name =>
    split at ha <;> cases ha
    next known => exact ⟨(h _ _ known).1, fun t expects => by cases expects⟩
  next name content rest closed =>
    split at ha
    next variant known =>
      obtain ⟨b, hb, ha⟩ := bind_eq_ok_iff.mp ha
      obtain ⟨rfl, rfl⟩ := eq_of_ends ha
      obtain ⟨hgood, few⟩ := (h name variant known).readContent content a hb
      refine ⟨hgood, fun t expects => ?_⟩
      cases expects with
      | content case mem inside =>
        obtain ⟨rfl, rfl⟩ : _ = name ∧ _ = content := by simpa using mem
        rw [case] at few
        exact few t inside
    next => cases ha
  next => cases ha
  next => cases ha

end

/-! ### Records -/

/-- The outline of each field, the last one first, says where it has types, and what is read for it
makes a good record. -/
inductive Fields.Vets : {α : Type} → Fields α → List (String × Outline) → (α → Prop) → Prop
  | ready {α : Type} {good : α → Prop} {value : α} (h : good value) : Vets (.ready value) [] good
  | awaited {α β : Type} {good : α → Prop} {p : β → Prop} {earlier : Fields (β → α)} {name : String}
      {read : Reader β} {absent short : Option β} {outline : Outline}
      {outlines : List (String × Outline)}
      (before : Vets earlier outlines fun make => ∀ b, p b → good (make b))
      (field : Json.Vets outline read p) (absent' : ∀ b, absent = some b → p b)
      (short' : ∀ b, short = some b → p b) :
      Vets (.awaited earlier name read absent short) ((name, outline) :: outlines) good

namespace Fields.Vets

variable {α : Type} {fields : Fields α} {outlines : List (String × Outline)} {good : α → Prop}
  {a : α} {s : Source}

/-- Nothing has been found yet for fields that are vetted. -/
lemma isFresh (h : Vets fields outlines good) : fields.isFresh = true := by
  induction h with
  | ready => rfl
  | awaited before field absent' short' ih => exact ih

/-- There is an outline for each field. -/
lemma size_eq (h : Vets fields outlines good) : fields.size = outlines.length := by
  induction h with
  | ready => rfl
  | awaited before field absent' short' ih => exact congrArg (· + 1) ih

/-- A record that is read from good parts is good. -/
lemma good_of_reads (h : Vets fields outlines good) (reads : Reads s fields a) : good a := by
  induction h with
  | ready hgood =>
    cases reads
    exact hgood
  | awaited before field absent' short' ih =>
    cases reads with
    | given readsBefore only read => exact ih readsBefore _ (field _ _ read).1
    | missing readsBefore nothing standIn =>
      refine ih readsBefore _ ?_
      cases s with
      | list elements closed => exact short' _ standIn
      | _ => exact absent' _ standIn

/-- The types in a part of a record have few dimensions, wherever the part stands. -/
lemma few_of_reads (h : Vets fields outlines good) (reads : Reads s fields a) {position : Nat}
    {name : String} {outline : Outline} {part t : Source}
    (listed : outlines.reverse[position]? = some (name, outline))
    (mem : part ∈ s.parts position name) (expects : outline.Expects part t) : Few t := by
  induction h with
  | ready => cases listed
  | @awaited _ _ _ _ _ _ _ _ _ _ front before field absent' short' ih =>
    have size := before.size_eq
    rw [List.reverse_cons] at listed
    rcases Nat.lt_or_ge position front.reverse.length with earlier | later
    · rw [List.getElem?_append_left earlier] at listed
      cases reads with
      | given readsBefore only read => exact ih readsBefore listed
      | missing readsBefore nothing standIn => exact ih readsBefore listed
    · rw [List.getElem?_append_right later, List.getElem?_singleton] at listed
      split at listed <;> cases listed
      next last =>
        obtain rfl : position = Fields.size _ := by
          rw [size]
          simp only [List.length_reverse] at later last
          omega
        cases reads with
        | given readsBefore only read =>
          rw [only, List.mem_singleton] at mem
          subst mem
          exact (field _ _ read).2 t expects
        | missing readsBefore nothing standIn =>
          rw [nothing] at mem
          cases mem

end Fields.Vets

/-- A record that is read is good, and the types of its fields have few dimensions. -/
lemma Vets.record {α : Type} {fields : Fields α} {outlines : List (String × Outline)}
    {good : α → Prop} (distinct : fields.names.Nodup) (h : fields.Vets outlines.reverse good) :
    Vets (.record outlines) fields.read good := by
  intro s a ha
  have reads := Fields.reads_of_read h.isFresh distinct ha
  refine ⟨h.good_of_reads reads, fun t expects => ?_⟩
  cases expects with
  | field listed mem inside => exact h.few_of_reads reads (by rwa [List.reverse_reverse]) mem inside

/-! ### Value graphs -/

open Wire (Shallow shallow_nil shallow_cons shallow_append shallow_flatMap)

/-- A number that is read in some bits fits them, and it is the number that the
numeral stands for. -/
lemma readUnsignedBits_eq_ok {bits n : Nat} {s : Source} (h : readUnsignedBits bits s = .ok n) :
    n < 2 ^ bits ∧ ∃ m, s = .number m ∧ m.value = n := by
  obtain ⟨i, hi, rfl⟩ := map_eq_ok_iff.mp h
  have positive : 0 < 2 ^ bits := Nat.two_pow_pos bits
  have bound : Nat.pow 2 bits = 2 ^ bits := rfl
  unfold readInteger at hi
  split at hi
  next m =>
    split at hi
    next integer =>
      split at hi <;> cases hi
      next inside =>
        rw [bound] at inside
        refine ⟨by omega, m, rfl, ?_⟩
        rw [value_eq_of_toInteger? integer]
        exact_mod_cast (Int.toNat_of_nonneg inside.1).symm
    next => cases hi
  next => cases hi

/-- A count of 32 bits is read from a number of that value. -/
lemma value_eq_of_readUInt32 {s : Source} {count : UInt32} (h : readUInt32 s = .ok count) :
    ∃ n, s = .number n ∧ n.value = count.toNat := by
  obtain ⟨size, hsize, rfl⟩ := map_eq_ok_iff.mp h
  obtain ⟨small, n, rfl, value⟩ := readUnsignedBits_eq_ok hsize
  exact ⟨n, rfl, by rw [value, UInt32.toNat_ofNat', Nat.mod_eq_of_lt small]⟩

/-- A field without a stand-in is read. -/
lemma Source.standIn_none {β : Type} (s : Source) : s.standIn (none : Option β) none = none := by
  cases s <;> rfl

/-- The count of a flat type is what its tree gives as its dimensions. -/
lemma readUInt32_of_readFlatType {s : Source} {flat : FlatType}
    (h : flatTypeFields.read s = .ok flat) :
    ∀ count ∈ s.parts 1 "dimensions", readUInt32 count = .ok flat.dimensions := by
  have reads :
    Fields.Reads s (.awaited (.awaited (.ready FlatType.mk) "element" readElementType none none)
      "dimensions" readUInt32 none none) flat := Fields.reads_of_read rfl (by decide) h
  intro count mem
  cases reads with
  | missing before nothing standIn =>
    rw [Source.standIn_none] at standIn
    cases standIn
  | @given _ _ _ _ _ _ _ _ part dimensions before only read =>
    rw [show s.parts 1 "dimensions" = [part] from only, List.mem_singleton] at mem
    subst mem
    cases before with
    | missing before nothing standIn =>
      rw [Source.standIn_none] at standIn
      cases standIn
    | given before =>
      cases before
      exact read

/-- A type that is read has few dimensions, and its tree gives no more. -/
lemma vets_type : Vets .type readType fun t => t.dimensions ≤ maxDimensions := by
  intro s t ht
  obtain ⟨flat, hflat, ht⟩ := bind_eq_ok_iff.mp ht
  split at ht
  next known =>
    cases ht
    obtain ⟨few, fewRead⟩ := TypeDesc.few_of_ofFlat known
    refine ⟨fewRead, fun u expects count mem => ?_⟩
    cases expects
    obtain ⟨n, rfl, value⟩ := value_eq_of_readUInt32 (readUInt32_of_readFlatType hflat count mem)
    exact ⟨n, rfl, value ▸ (by exact_mod_cast few)⟩
  next => cases ht

/-! ### The outline of a value graph -/

namespace Outline

/-- A value has a type if it is a class. -/
def value : Outline := .choice [("Class", .type)]

/-- The content of a field has the types of its value. -/
def slot : Outline := .choice [("Value", value)]

/-- A field has its declared type and the types of its content. -/
def field : Outline :=
  .record [("name", .other), ("declared", .type), ("modifiers", .other), ("serializable", .other),
  ("slot", slot)]

/-- An object with fields has the types of its fields. -/
def struct : Outline :=
  .record [("class", .other), ("has_default_constructor", .other), ("remote", .other),
  ("fields", .list field)]

/-- An object has the types of what it holds, and an array that of its elements too. Property bags
have no types. -/
def object : Outline :=
  .choice [("Array", .record [("component", .type), ("elements", .list value)]),
    ("Collection", .record [("class", .other), ("elements", .list value)]),
    ("Map", .record [("class", .other), ("entries", .list (.list value))]), ("Struct", struct)]

/-- A heap has the types of its objects. -/
def heap : Outline := .record [("objects", .list object)]

/-- Arguments have the types of their heap and of their values. -/
def arguments : Outline := .record [("heap", heap), ("values", .list value)]

/-- A payload has the types of its heap and of its value. -/
def payload : Outline := .record [("heap", heap), ("value", value)]

/-- An outcome has the types of its payload. -/
def outcome : Outline := .choice [("Returned", payload), ("Thrown", payload)]

end Outline

section

variable {outline : Outline} {t : TypeDesc} {s : Source}

/-- Where a type is expected in a field, one is expected there in the object that is written
for the record. -/
lemma Outline.Expects.inField {outlines : List (String × Outline)} (position : Nat) {name : String}
    {ms : List (String × Json)} {j : Json} (listed : outlines[position]? = some (name, outline))
    (mem : (name, j) ∈ ms) (inside : outline.Expects (source j) s) :
    (Outline.record outlines).Expects (source (.object ms)) s := by
  refine .field listed ?_ inside
  rw [source, memberSources_eq_map]
  refine List.mem_filterMap.mpr ⟨(some name, source j), ?_, if_pos rfl⟩
  exact List.mem_map.mpr ⟨(name, source j), List.mem_map.mpr ⟨_, mem, rfl⟩, rfl⟩

/-- Where a type is expected in an element, one is expected there in the list that is written. -/
lemma Outline.Expects.inElement {α : Type} {write : α → Json} {values : List α} {a : α}
    (mem : a ∈ values) (inside : outline.Expects (source (write a)) s) :
    (Outline.list outline).Expects (source (listOf write values)) s := by
  rw [listOf, source, sources_eq_map]
  exact .element (List.mem_map.mpr ⟨_, List.mem_map.mpr ⟨a, mem, rfl⟩, rfl⟩) inside

/-- Where a type is expected in the content of a case, one is expected there in
the tagged content. -/
lemma Outline.Expects.inCase {cases : List (String × Outline)} {name : String} {j : Json}
    (case : cases.lookup name = some outline) (inside : outline.Expects (source j) s) :
    (Outline.choice cases).Expects (source (tagged name j)) s :=
  .content case List.mem_cons_self inside

/-! ### A type is expected wherever one is written -/

/-- The types of a value are expected where they are written. -/
lemma expects_value {v : Value} (h : t ∈ v.types) :
    Outline.value.Expects (source (ofValue v)) (source (ofType t)) := by
  cases v with
  | classOf type =>
    rw [Value.types, List.mem_singleton] at h
    subst h
    exact .inCase rfl (.here _)
  | _ => cases h

/-- The types of values are expected where they are written. -/
lemma expects_values {values : List Value} (h : t ∈ values.flatMap Value.types) :
    (Outline.list .value).Expects (source (listOf ofValue values)) (source (ofType t)) := by
  obtain ⟨v, hv, ht⟩ := List.mem_flatMap.mp h
  exact .inElement hv (expects_value ht)

/-- The types of the entries of a map are expected where they are written. -/
lemma expects_entries {entries : List (Value × Value)}
    (h : t ∈ entries.flatMap fun e => e.1.types ++ e.2.types) :
    (Outline.list (.list .value)).Expects (source (listOf ofEntry entries))
      (source (ofType t)) := by
  obtain ⟨e, he, ht⟩ := List.mem_flatMap.mp h
  refine .inElement he ?_
  obtain key | value := List.mem_append.mp ht
  · exact .element List.mem_cons_self (expects_value key)
  · exact .element (List.mem_cons_of_mem _ List.mem_cons_self) (expects_value value)

/-- The types of the content of a field are expected where they are written. -/
lemma expects_slot {slot : Slot} (h : t ∈ slot.types) :
    Outline.slot.Expects (source (ofSlot slot)) (source (ofType t)) := by
  cases slot with
  | value v => exact .inCase rfl (expects_value h)
  | inaccessible => cases h

/-- The types of a field are expected where they are written. -/
lemma expects_field {f : Field} (h : t ∈ f.types) :
    Outline.field.Expects (source (ofField f)) (source (ofType t)) := by
  obtain ⟨name, declared, modifiers, serializable, slot⟩ := f
  obtain rfl | h := List.mem_cons.mp h
  · exact .inField 1 rfl (by simp) (.here _)
  · exact .inField 4 rfl (by simp) (expects_slot h)

/-- The types of an object with fields are expected where they are written. -/
lemma expects_struct {s : Struct} (h : t ∈ s.fields.flatMap Field.types) :
    Outline.struct.Expects (source (ofStruct s)) (source (ofType t)) := by
  obtain ⟨f, hf, ht⟩ := List.mem_flatMap.mp h
  exact .inField 3 rfl (by simp) (.inElement hf (expects_field ht))

/-- The types of an object are expected where they are written. -/
lemma expects_object {object : Object} (h : t ∈ object.types) :
    Outline.object.Expects (source (ofObject object)) (source (ofType t)) := by
  cases object with
  | array component elements =>
    refine .inCase rfl ?_
    obtain rfl | h := List.mem_cons.mp h
    · exact .inField 0 rfl (by simp) (.here _)
    · exact .inField 1 rfl (by simp) (expects_values h)
  | collection className elements => exact .inCase rfl (.inField 1 rfl (by simp) (expects_values h))
  | properties entries => cases h
  | map className entries => exact .inCase rfl (.inField 1 rfl (by simp) (expects_entries h))
  | struct s => exact .inCase rfl (expects_struct h)

/-- The types of a heap are expected where they are written. -/
lemma expects_heap {heap : Heap} (h : t ∈ heap.types) :
    Outline.heap.Expects (source (ofHeap heap)) (source (ofType t)) := by
  obtain ⟨object, ho, ht⟩ := List.mem_flatMap.mp h
  exact .inField 0 rfl (by simp) (.inElement ho (expects_object ht))

/-- The types of arguments are expected where they are written. -/
lemma expects_arguments {a : Arguments} (h : t ∈ a.types) :
    Outline.arguments.Expects (source (ofArguments a)) (source (ofType t)) := by
  obtain inHeap | inValues := List.mem_append.mp h
  · exact .inField 0 rfl (by simp) (expects_heap inHeap)
  · exact .inField 1 rfl (by simp) (expects_values inValues)

/-- The types of a payload are expected where they are written. -/
lemma expects_payload {p : Payload} (h : t ∈ p.types) :
    Outline.payload.Expects (source (ofPayload p)) (source (ofType t)) := by
  obtain inHeap | inValue := List.mem_append.mp h
  · exact .inField 0 rfl (by simp) (expects_heap inHeap)
  · exact .inField 1 rfl (by simp) (expects_value inValue)

/-- The types of an outcome are expected where they are written. -/
lemma expects_outcome {o : Outcome} (h : t ∈ o.payload.types) :
    Outline.outcome.Expects (source (ofOutcome o)) (source (ofType t)) := by
  cases o with
  | returned p => exact .inCase rfl (expects_payload h)
  | thrown p => exact .inCase rfl (expects_payload h)

end

/-! ### What is read -/

/-- Of the values only the class of a type has a type in it. -/
lemma vets_value : Vets .value readValue fun v => Shallow v.types := by
  have scalar {α : Type} (read : Reader α) (make : α → Scalar) :
      (scalarContent read make).Vets .other fun v => Shallow v.types := by
    have content : Vets .other (fun s => (read s).map fun a => Value.scalar (make a)) fun v =>
        Shallow v.types :=
      (vets_any read).map _ fun _ _ => shallow_nil
    exact content
  refine Vets.choice fun name variant known => ?_
  split at known <;> cases known
  · exact ⟨shallow_nil, rfl⟩
  · exact scalar readBool .bool
  · exact scalar readChar .char
  · exact scalar (readSignedBits 8) _
  · exact scalar (readSignedBits 16) _
  · exact scalar (readSignedBits 32) _
  · exact scalar (readSignedBits 64) _
  · exact scalar (readFloating .single) _
  · exact scalar (readFloating .double) _
  · exact scalar readString .text
  · exact vets_type.map Value.classOf fun _ few => shallow_cons.mpr ⟨few, shallow_nil⟩
  · exact (vets_any readId).map Value.ref fun _ _ => shallow_nil

/-- The content of a field that is read has types of few dimensions. -/
lemma vets_slot : Vets .slot readSlot fun slot => Shallow slot.types := by
  refine Vets.choice fun name variant known => ?_
  split at known <;> cases known
  · exact vets_value.map Slot.value fun _ h => h
  · exact ⟨shallow_nil, rfl⟩

/-- A field that has no stand-in. -/
lemma Fields.Vets.field {α β : Type} {good : α → Prop} {p : β → Prop} {earlier : Fields (β → α)}
    {name : String} {read : Reader β} {outline : Outline} {outlines : List (String × Outline)}
    (before : Vets earlier outlines fun make => ∀ b, p b → good (make b))
    (field : Json.Vets outline read p) :
    Vets (earlier.field name read) ((name, outline) :: outlines) good :=
  .awaited before field (fun _ h => by cases h) fun _ h => by cases h

-- Below, the facts that a record is made from come in the order of its fields, each field with what
-- is known of it.

/-- A field that is read has types of few dimensions. -/
lemma vets_field : Vets .field fieldFields.read fun f => Shallow f.types :=
  .record (by decide)
    (.field (.field (.field (.field (.field
      (.ready fun _ _ _ few _ _ _ _ _ shallow => shallow_cons.mpr ⟨few, shallow⟩)
      (vets_any _)) vets_type) (vets_any _)) (vets_any _)) vets_slot)

/-- An object with fields that is read has types of few dimensions. -/
lemma vets_struct :
    Vets .struct structFields.read fun s => Shallow (s.fields.flatMap Field.types) :=
  .record (by decide) (.field (.field (.field (.field (.ready fun _ _ _ _ _ _ _ fields =>
    shallow_flatMap.mpr fields) (vets_any _)) (vets_any _)) (vets_any _)) vets_field.list)

/-- An array that is read has types of few dimensions. -/
lemma vets_array :
    Vets (.record [("component", .type), ("elements", .list .value)]) arrayFields.read
      fun object => Shallow object.types :=
  .record (by decide) (.field (.field (.ready fun _ few _ elements =>
    shallow_cons.mpr ⟨few, shallow_flatMap.mpr elements⟩) vets_type) vets_value.list)

/-- A collection that is read has types of few dimensions. -/
lemma vets_collection :
    Vets (.record [("class", .other), ("elements", .list .value)]) collectionFields.read
      fun object => Shallow object.types :=
  .record (by decide) (.field (.field (.ready fun _ _ _ elements =>
    shallow_flatMap.mpr elements) (vets_any _)) vets_value.list)

/-- A map that is read has types of few dimensions. -/
lemma vets_map :
    Vets (.record [("class", .other), ("entries", .list (.list .value))]) mapFields.read
      fun object => Shallow object.types :=
  .record (by decide) (.field (.field (.ready fun _ _ _ entries =>
    shallow_flatMap.mpr fun e he => shallow_append.mpr (entries e he)) (vets_any _))
      (vets_value.pair vets_value).list)

/-- An object that is read has types of few dimensions. -/
lemma vets_object : Vets .object readHeapObject fun object => Shallow object.types := by
  refine Vets.choice fun name variant known => ?_
  split at known <;> cases known
  · exact vets_array
  · exact vets_collection
  · exact (vets_any readTextMap).map Object.properties fun _ _ => shallow_nil
  · exact vets_map
  · exact vets_struct.map Object.struct fun _ h => h

/-- A heap that is read has types of few dimensions. -/
lemma vets_heap : Vets .heap heapFields.read fun h => Shallow h.types :=
  .record (by decide)
    (.field (.ready fun _ objects => shallow_flatMap.mpr objects) vets_object.list)

/-- Arguments that are read have types of few dimensions. -/
lemma vets_arguments : Vets .arguments argumentsFields.read fun a => Shallow a.types :=
  .record (by decide) (.field (.field (.ready fun _ heap _ values =>
    shallow_append.mpr ⟨heap, shallow_flatMap.mpr values⟩) vets_heap) vets_value.list)

/-- A payload that is read has types of few dimensions. -/
lemma vets_payload : Vets .payload payloadFields.read fun p => Shallow p.types :=
  .record (by decide) (.field (.field (.ready fun _ heap _ value =>
    shallow_append.mpr ⟨heap, value⟩) vets_heap) vets_value)

/-- An outcome that is read has types of few dimensions. -/
lemma vets_outcome : Vets .outcome readOutcome fun o => Shallow o.payload.types := by
  refine Vets.choice fun name variant known => ?_
  split at known <;> cases known
  · exact vets_payload.map Outcome.returned fun _ h => h
  · exact vets_payload.map Outcome.thrown fun _ h => h

end CallReplay.Json
