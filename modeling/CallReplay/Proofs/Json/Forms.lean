import CallReplay.Proofs.Json.Vetted
import CallReplay.Proofs.Json.Written

/-!
# JSON forms

Every type that the program shows as JSON has one form (`Form`), and it is exact: a value without
floating point numbers is read back from the text that is printed for it, and so is any value that
was read from a text. The limits of the forms, at most 255 dimensions for a type and 64 bits for a
depth, are kept by everything that is read, and a text that goes beyond the first wherever a type is
expected is refused.
-/

namespace CallReplay.Json

open Wire (Shallow shallow_nil)

/-- The types that have a form of their own. -/
inductive Form : Type → Type
  | type : Form TypeDesc
  | value : Form Value
  | object : Form Object
  | heap : Form Heap
  | arguments : Form Arguments
  | payload : Form Payload
  | outcome : Form Outcome
  | signature : Form Signature
  | recorderOptions : Form RecorderOptions
  | scriptOptions : Form Script.Options
  | sampler : Form Sampler
  | postProcessor : Form PostProcessor
  | storedArtifact : Form StoredArtifact
  | summary : Form ArtifactSummary

namespace Form

/-- How a value of a form is written. -/
def write : {α : Type} → Form α → α → Json
  | _, type => ofType
  | _, value => ofValue
  | _, object => ofObject
  | _, heap => ofHeap
  | _, arguments => ofArguments
  | _, payload => ofPayload
  | _, outcome => ofOutcome
  | _, signature => ofSignature
  | _, recorderOptions => ofRecorderOptions
  | _, scriptOptions => ofScriptOptions
  | _, sampler => ofSampler
  | _, postProcessor => ofPostProcessor
  | _, storedArtifact => ofStoredArtifact
  | _, summary => ofSummary

/-- How a value of a form is read. -/
def read : {α : Type} → Form α → Reader α
  | _, type => readType
  | _, value => readValue
  | _, object => readHeapObject
  | _, heap => heapFields.read
  | _, arguments => argumentsFields.read
  | _, payload => payloadFields.read
  | _, outcome => readOutcome
  | _, signature => signatureFields.read
  | _, recorderOptions => recorderOptionsFields.read
  | _, scriptOptions => scriptOptionsFields.read
  | _, sampler => samplerFields.read
  | _, postProcessor => postProcessorFields.read
  | _, storedArtifact => storedArtifactFields.read
  | _, summary => summaryFields.read

/-- Where the form has types. -/
def outline : {α : Type} → Form α → Outline
  | _, type => .type
  | _, value => .value
  | _, object => .object
  | _, heap => .heap
  | _, arguments => .arguments
  | _, payload => .payload
  | _, outcome => .outcome
  | _, _ => .other

/-- The types in a value of the form. -/
def types : {α : Type} → Form α → α → List TypeDesc
  | _, type, t => [t]
  | _, value, v => v.types
  | _, object, o => o.types
  | _, heap, h => h.types
  | _, arguments, a => a.types
  | _, payload, p => p.types
  | _, outcome, o => o.payload.types
  | _, _, _ => []

/-- The recorded values in a value of the form. -/
def values : {α : Type} → Form α → α → List Value
  | _, value, v => [v]
  | _, object, o => o.values
  | _, heap, h => h.values
  | _, arguments, a => a.heap.values ++ a.values
  | _, payload, p => p.heap.values ++ [p.value]
  | _, outcome, o => o.payload.heap.values ++ [o.payload.value]
  | _, _, _ => []

/-- The depths in a value of the form. -/
def depths : {α : Type} → Form α → α → List Nat
  | _, recorderOptions, o => [o.script.maxDepth]
  | _, scriptOptions, o => [o.maxDepth]
  | _, _, _ => []

/-- Whether the value is within the limits of the form. -/
structure Within {α : Type} (form : Form α) (a : α) : Prop where
  shallow : Shallow (form.types a)
  narrow : ∀ depth ∈ form.depths a, depth < 2 ^ 64

/-- Whether no floating point number is in the value. -/
def Exact {α : Type} (form : Form α) (a : α) : Prop := ∀ v ∈ form.values a, v.isFloating = false

variable {α : Type} {form : Form α} {a : α}

/-- Within its limits and without floating point numbers every value is read back. -/
lemma yields (within : form.Within a) (exact : form.Exact a) :
    Yields form.read (form.write a) a := by
  obtain ⟨shallow, narrow⟩ := within
  cases form with
  | type => exact yields_type (Wire.shallow_cons.mp shallow).1
  | value => exact yields_value shallow (exact a List.mem_cons_self)
  | object => exact yields_object shallow exact
  | heap => exact yields_heap shallow exact
  | arguments => exact yields_arguments shallow exact
  | payload => exact yields_payload shallow exact
  | outcome => exact yields_outcome shallow exact
  | signature => exact yields_signature a
  | recorderOptions => exact yields_recorderOptions (narrow _ List.mem_cons_self)
  | scriptOptions => exact yields_scriptOptions (narrow _ List.mem_cons_self)
  | sampler => exact yields_sampler a
  | postProcessor => exact yields_postProcessor a
  | storedArtifact => exact yields_storedArtifact a
  | summary => exact yields_summary a

end Form

/-! ### What is read -/

/-- A field with a default that is as good as what is read. -/
lemma Fields.Vets.withDefault {α β : Type} {good : α → Prop} {p : β → Prop}
    {earlier : Fields (β → α)} {name : String} {read : Reader β} {default : β} {outline : Outline}
    {outlines : List (String × Outline)}
    (before : Vets earlier outlines fun make => ∀ b, p b → good (make b))
    (field : Json.Vets outline read p) (default' : p default) :
    Vets (earlier.withDefault name read default) ((name, outline) :: outlines) good := by
  refine .awaited before field ?_ ?_ <;> (rintro _ ⟨⟩; exact default')

/-- The default depth fits 64 bits, and so does every depth that is read. -/
lemma vets_scriptOptions :
    Vets (.record [("bypass_constructor", .other), ("separator", .other), ("max_depth", .other)])
      scriptOptionsFields.read fun o => o.maxDepth < 2 ^ 64 := by
  have depth : Vets .other (readUnsignedBits 64) fun n => n < 2 ^ 64 :=
    vets_other fun _ _ h => (readUnsignedBits_eq_ok h).1
  exact .record (by decide)
    (.withDefault (.withDefault (.withDefault (.ready fun _ _ _ _ _ deep => deep)
      (vets_any _) trivial) (vets_any _) trivial) depth (by decide))

/-- Options that are read have a depth of 64 bits. -/
lemma vets_recorderOptions :
    Vets (.record [("generator", .other), ("name_format", .other), ("registry_class", .other),
      ("registry_variable", .other), ("previous_result", .other)])
      recorderOptionsFields.read fun o => o.script.maxDepth < 2 ^ 64 := by
  have script : Vets .other scriptOptionsFields.read fun o => o.maxDepth < 2 ^ 64 :=
    vets_other fun s o h => (vets_scriptOptions s o h).1
  exact .record (by decide) (.withDefault (.withDefault (.withDefault (.withDefault (.withDefault
    (.ready fun _ deep _ _ _ _ _ _ _ _ => deep) script (by decide)) (vets_any _) trivial)
    (vets_any _) trivial) (vets_any _) trivial) (vets_any _) trivial)

/-- A reader vets whatever is weaker than what it vets. -/
lemma Vets.imp {α : Type} {outline : Outline} {read : Reader α} {p q : α → Prop}
    (h : Vets outline read p) (weaker : ∀ a, p a → q a) : Vets outline read q :=
  fun s a ha => ⟨weaker a (h s a ha).1, (h s a ha).2⟩

/-- What is read is within the limits of its form, and so is every type in its tree. -/
lemma Form.vets {α : Type} (form : Form α) : Vets form.outline form.read form.Within := by
  cases form with
  | type => exact vets_type.imp fun t few =>
      ⟨Wire.shallow_cons.mpr ⟨few, shallow_nil⟩, List.forall_mem_nil _⟩
  | value => exact vets_value.imp fun _ shallow => ⟨shallow, List.forall_mem_nil _⟩
  | object => exact vets_object.imp fun _ shallow => ⟨shallow, List.forall_mem_nil _⟩
  | heap => exact vets_heap.imp fun _ shallow => ⟨shallow, List.forall_mem_nil _⟩
  | arguments => exact vets_arguments.imp fun _ shallow => ⟨shallow, List.forall_mem_nil _⟩
  | payload => exact vets_payload.imp fun _ shallow => ⟨shallow, List.forall_mem_nil _⟩
  | outcome => exact vets_outcome.imp fun _ shallow => ⟨shallow, List.forall_mem_nil _⟩
  | recorderOptions =>
    exact vets_other fun s o h =>
      ⟨shallow_nil, List.forall_mem_singleton.mpr (vets_recorderOptions s o h).1⟩
  | scriptOptions =>
    exact vets_other fun s o h =>
      ⟨shallow_nil, List.forall_mem_singleton.mpr (vets_scriptOptions s o h).1⟩
  | signature | sampler | postProcessor | storedArtifact | summary =>
    exact vets_other fun _ _ _ => ⟨shallow_nil, List.forall_mem_nil _⟩

/-- A type is expected wherever a value of the form has one. -/
lemma Form.expects {α : Type} {form : Form α} {a : α} {t : TypeDesc} (h : t ∈ form.types a) :
    form.outline.Expects (source (form.write a)) (source (ofType t)) := by
  cases form with
  | type =>
    obtain rfl := List.mem_singleton.mp h
    exact .here _
  | value => exact expects_value h
  | object => exact expects_object h
  | heap => exact expects_heap h
  | arguments => exact expects_arguments h
  | payload => exact expects_payload h
  | outcome => exact expects_outcome h
  | _ => cases h

/-- Reading a text that is printed for a value is reading the tree of the value. -/
lemma decode_printed {α : Type} {read : Reader α} {j : Json} (printable : Printable j)
    {text : String} (printed : text ∈ [render j, pretty j]) :
    decode read text = read (source j) := by
  have document : Json.read text = ⟨source j, true⟩ := by
    refine read_written printable ?_
    simpa using printed
  rw [decode, document]
  cases read (source j) <;> rfl

/-- A text is read only if its tree is. -/
lemma read_of_decode {α : Type} {read : Reader α} {text : String} {a : α}
    (h : decode read text = .ok a) :
    read (Json.read text).root = .ok a := by
  obtain ⟨b, hb, h⟩ := bind_eq_ok_iff.mp h
  split at h <;> cases h
  exact hb

/-- JSON forms are exact. A value within the limits of its form and without floating point numbers
is read back from the texts that are printed for it; so is any value without floating point numbers
that was read from some text; and a text that gives more than 255 dimensions where a type is
expected, as it is wherever a value has one, is refused. -/
theorem form_exact {α : Type} (form : Form α) :
    (∀ a, form.Within a → form.Exact a →
      ∀ text ∈ [render (form.write a), pretty (form.write a)], decode form.read text = .ok a) ∧
    (∀ given a, decode form.read given = .ok a → form.Exact a →
      ∀ text ∈ [render (form.write a), pretty (form.write a)], decode form.read text = .ok a) ∧
    (∀ text t n, form.outline.Expects (Json.read text).root t → .number n ∈ t.parts 1 "dimensions" →
      (maxDimensions : ℚ) < n.value → ∃ e, decode form.read text = .error e) ∧
    ∀ a, ∀ t ∈ form.types a, form.outline.Expects (source (form.write a)) (source (ofType t)) := by
  have back (a : α) (within : form.Within a) (exact : form.Exact a) :
      ∀ text ∈ [render (form.write a), pretty (form.write a)], decode form.read text = .ok a := by
    intro text printed
    obtain ⟨printable, reads⟩ := form.yields within exact
    rw [decode_printed printable printed, reads]
  refine ⟨back, fun given a read => ?_, fun text t n expects count many => ?_, fun a t =>
    form.expects⟩
  · exact back a (form.vets _ a (read_of_decode read)).1
  · cases read : decode form.read text with
    | error e => exact ⟨e, rfl⟩
    | ok a =>
      obtain ⟨m, same, few⟩ := (form.vets _ a (read_of_decode read)).2 t expects _ count
      cases same
      exact absurd many (not_lt.mpr few)

/-- A payload whose only object holds itself, a text and a class; a type given as a list of its
fields; and a class whose dimensions are written as `2.56e2`. -/
theorem form_exact_cycle :
    let payload : Payload :=
      ⟨⟨#[.collection "Bag" [.ref ⟨0⟩, .text "\"a\n", .classOf (.array .text)]]⟩, .ref ⟨0⟩⟩
    let listed : Json := .list [tagged "Class" (.text "A"), nat 1]
    let many : Decimal.Numeral := ⟨false, ['2'], ['5', '6'], some ⟨none, ['2']⟩⟩
    let type : Json :=
      .object [("element", tagged "Class" (.text "A")), ("dimensions", .number many)]
    decode Form.payload.read (render (Form.payload.write payload)) = .ok payload ∧
      decode Form.type.read (render listed) = .ok (.array (.named "A")) ∧
      decode Form.type.read (pretty (Form.type.write (.array (.named "A")))) =
        .ok (.array (.named "A")) ∧
      (∃ e, decode Form.value.read (render (tagged "Class" type)) = .error e) ∧
      Form.payload.outline.Expects (source (Form.payload.write payload))
        (source (ofType (.array .text))) := by
  intro payload listed many type
  have element : Printable (tagged "Class" (.text "A")) :=
    (yields_elementType (.named "A")).printable
  have types : Form.payload.types payload = [.array .text] := rfl
  have within : Form.payload.Within payload :=
    ⟨types ▸ Wire.shallow_cons.mpr ⟨by decide, shallow_nil⟩, List.forall_mem_nil _⟩
  have exact : Form.payload.Exact payload := by
    unfold Form.Exact
    decide
  have read : decode Form.type.read (render listed) = .ok (.array (.named "A")) := by
    have printable : Printable listed := .list (List.forall_mem_cons.mpr
      ⟨element, List.forall_mem_singleton.mpr (.number (proper_ofNat 1))⟩)
    rw [decode_printed printable List.mem_cons_self]
    cbv
  have proper : Proper many := by
    constructor <;> simp [many, Digits]
  have root : Json.read (render (tagged "Class" type)) = ⟨source (tagged "Class" type), true⟩ := by
    refine read_written (.object (List.forall_mem_singleton.mpr (.object ?_))) (.inl rfl)
    exact List.forall_mem_cons.mpr ⟨element, List.forall_mem_singleton.mpr (.number proper)⟩
  refine ⟨(form_exact .payload).1 payload within exact _ List.mem_cons_self, read,
    (form_exact .type).2.1 _ _ read (List.forall_mem_nil _) _
      (List.mem_cons_of_mem _ List.mem_cons_self),
    (form_exact .value).2.2.1 _ (source type) many ?_ ?_ ?_,
    (form_exact .payload).2.2.2 payload _ (types ▸ List.mem_cons_self)⟩
  · rw [root]
    exact .inCase rfl (.here _)
  · simp [type, source, memberSources, Source.parts]
  · have digits : Decimal.natOfDigits (many.whole ++ many.fraction) = 256 := by decide
    have exponent : many.exponent.elim 0 Decimal.Exponent.value = 2 := by decide
    rw [Decimal.Numeral.value, digits, exponent]
    norm_num [many, maxDimensions]

end CallReplay.Json
