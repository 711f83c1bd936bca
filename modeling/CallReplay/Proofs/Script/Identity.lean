import CallReplay.Proofs.Script.Scope

/-!
# One construction for each object

Values of one heap may be compiled one after another, into any variables. What comes out creates
every object that was met once, in the order in which they were met and in the variable that the
names report for it, and answers every other meeting with a copy of that variable. The meetings are
the references among the values and those that the tasks of the created objects compile, each once.
All of this holds whatever the variables are called: two objects may even share one.
-/

namespace CallReplay.Script

/-- A value to be compiled: the variable for it and the type that null is declared with. -/
structure Call where
  item : Holder
  hint : Option TypeDesc

/-- Compiles values one after another; the names that one call gives are known to the next. -/
def compileAll (heap : Heap) (options : Options) : List Call → Compile Scriptlet
  | [] => pure (.plain [])
  | call :: rest => do
    let first ← compile heap options call.item.value call.item.name call.hint
    let others ← compileAll heap options rest
    pure (first ++ others)

/-- The task of a call. -/
def Call.task (call : Call) : Task := .compile call.item call.hint

/-- The objects that tasks compile, each with the variable for it. -/
def references (tasks : List Task) : List (ObjectId × String) :=
  (compiled tasks).filterMap fun item => item.value.objectId?.map fun id => (id, item.name)

/-- The objects that are compiled for an object in a variable. -/
def metIn (heap : Heap) : ObjectId × String → List (ObjectId × String)
  | (id, name) =>
    match heap.get? id with
    | some object => references (objectTasks heap object name)
    | none => []

/-- The statements that meetings with objects lead to: an object without a variable is created,
another one is copied. -/
def answers (heap : Heap) (options : Options) : Names → List (ObjectId × String) → List Statement
  | _, [] => []
  | n, (id, name) :: rest =>
    match heap.get? id with
    | none => answers heap options n rest
    | some object =>
      match n.find? id with
      | some previous => .copy object.runtimeType name previous :: answers heap options n rest
      | none =>
        construction options object name :: answers heap options (n.insert id name) rest

/-- Whether a statement leaves an object in a variable: it creates one or copies a variable. -/
def Statement.holdsObject : Statement → Bool
  | .copy .. => true
  | s => s.isConstruction

/-- What the statements for a sequence of values have to do with the objects of the heap. -/
structure KeepsIdentity (heap : Heap) (options : Options) (calls : List Call) (out : List Statement)
    (names : Names) : Prop where
  /-- No object has two variables, and the names report the one in its entry. -/
  reported : names.Distinct ∧
    ∀ id name, names.find? id = some name ↔ (id, name) ∈ names.entries
  /-- There are as many constructions as objects with a variable. -/
  count : (out.filter Statement.isConstruction).length = names.entries.length
  /-- The constructions are those of the objects with a variable, the oldest first. -/
  constructed : (out.filter Statement.isConstruction).map some =
    names.entries.reverse.map fun entry =>
      (heap.get? entry.1).map fun object => construction options object entry.2
  /-- Each of them gives the variable that the names report its object. -/
  assigned : (out.filter Statement.isConstruction).map Statement.assigned? =
    names.entries.reverse.map fun entry => some entry.2
  /-- Every reference that is compiled leads to one statement: the first to an object to its
  construction, each other one to a copy of the object's variable. -/
  answered : ∃ met : List (ObjectId × String),
    met.Perm (references (calls.map Call.task) ++ names.entries.flatMap (metIn heap)) ∧
      out.filter Statement.holdsObject = answers heap options .empty met
  /-- Every variable that is read was given a value by an earlier statement. -/
  assignedBefore : ∀ (i : Nat) (s : Statement), out[i]? = some s → ∀ x ∈ s.reads,
    ∃ (j : Nat) (t : Statement), j < i ∧ out[j]? = some t ∧ t.assigned? = some x

/-- Compiling values one after another is doing their tasks. -/
lemma compileAll_eq (heap : Heap) (options : Options) (calls : List Call) :
    compileAll heap options calls =
      runTasks heap (compileObject heap options options.maxDepth) (calls.map Call.task) := by
  induction calls with
  | nil => rfl
  | cons call rest ih =>
    simp only [compileAll, ih, List.map_cons, runTasks]
    rfl

section

variable {heap : Heap} {options : Options} {n n' : Names} {tasks : List Task} {out : List Statement}

/-- A statement that creates an object is a construction. -/
lemma Statement.Creates.isConstruction {s : Statement} {name : String} (h : s.Creates name) :
    s.isConstruction = true := by
  cases h <;> rfl

/-- A statement that creates an object makes a variable hold it. -/
lemma Statement.Creates.holdsObject {s : Statement} {name : String} (h : s.Creates name) :
    s.holdsObject = true := by
  cases h <;> rfl

/-- A store makes no variable hold an object. -/
lemma holdsObject_statement (receiver : String) (change : Store) :
    (change.statement receiver).holdsObject = false := by
  cases change <;> rfl

/-- A value without parts is no object. -/
lemma holdsObject_leaf? {item : Holder} {hint : Option TypeDesc} {s : Statement}
    (h : leaf? item hint = some s) : s.holdsObject = false := by
  unfold leaf? at h
  split at h <;> cases h <;> rfl

/-- What leaves no object in a variable creates none. -/
lemma isConstruction_of_holdsObject {s : Statement} (h : s.holdsObject = false) :
    s.isConstruction = false := by
  cases s <;> simp_all [Statement.holdsObject]

/-- A value that is no reference adds no reference to those that tasks compile. -/
lemma references_leaf {item : Holder} {hint : Option TypeDesc} {s : Statement} {rest : List Task}
    (h : leaf? item hint = some s) :
    references (.compile item hint :: rest) = references rest := by
  obtain ⟨name, value⟩ := item
  cases value with
  | ref id => cases h
  | _ => rfl

/-- What tasks one behind the other refer to is what each of them refers to. -/
lemma references_append (a b : List Task) : references (a ++ b) = references a ++ references b := by
  simp [references, compiled]

/-- The objects that a run gives variables are those that it creates, in order. -/
theorem Emits.constructed (run : Emits heap options n tasks out n') :
    ∃ new, n'.entries = new ++ n.entries ∧
      (out.filter Statement.isConstruction).map some = new.reverse.map fun entry =>
        (heap.get? entry.1).map fun object => construction options object entry.2 := by
  induction run with
  | done => exact ⟨[], rfl, rfl⟩
  | look _ _ ih => exact ih
  | @store n n' receiver change rest out _ ih =>
    have hplain := isConstruction_of_holdsObject (holdsObject_statement receiver change)
    rwa [List.filter_cons_of_neg (Bool.eq_false_iff.mp hplain)]
  | leaf plain _ ih =>
    have hplain := isConstruction_of_holdsObject (holdsObject_leaf? plain)
    rwa [List.filter_cons_of_neg (Bool.eq_false_iff.mp hplain)]
  | copy _ _ _ ih => exact ih
  | @create n n' name id hint object rest out found _ _ ih =>
    obtain ⟨new, hentries, hout⟩ := ih
    refine ⟨new ++ [(id, name)], by simpa [Names.insert] using hentries, ?_⟩
    simp [(creates_construction options object name).isConstruction, hout, found]

/-- Every reference that a run compiles is met once, and answered as its meeting asks. -/
theorem Emits.answered (run : Emits heap options n tasks out n') :
    ∃ new met, n'.entries = new ++ n.entries ∧
      met.Perm (references tasks ++ new.flatMap (metIn heap)) ∧
      out.filter Statement.holdsObject = answers heap options n met := by
  induction run with
  | done => exact ⟨[], [], rfl, .refl _, rfl⟩
  | look _ _ ih => exact ih
  | @store n n' receiver change rest out _ ih =>
    obtain ⟨new, met, hentries, hmet, hout⟩ := ih
    refine ⟨new, met, hentries, hmet, ?_⟩
    rwa [List.filter_cons_of_neg (Bool.eq_false_iff.mp (holdsObject_statement receiver change))]
  | leaf plain _ ih =>
    obtain ⟨new, met, hentries, hmet, hout⟩ := ih
    refine ⟨new, met, hentries, by rwa [references_leaf plain], ?_⟩
    rwa [List.filter_cons_of_neg (Bool.eq_false_iff.mp (holdsObject_leaf? plain))]
  | @copy n n' name id hint object previous rest out found has _ ih =>
    obtain ⟨new, met, hentries, hmet, hout⟩ := ih
    refine ⟨new, (id, name) :: met, hentries, hmet.cons _, ?_⟩
    simp only [answers, found, has]
    exact congrArg _ hout
  | @create n n' name id hint object rest out found fresh _ ih =>
    obtain ⟨new, met, hentries, hmet, hout⟩ := ih
    refine ⟨new ++ [(id, name)], (id, name) :: met, by simpa [Names.insert] using hentries, ?_, ?_⟩
    · -- The references of the new object's tasks count as those of a created object from now on.
      rw [references_append, List.append_assoc] at hmet
      have hswap : (references (objectTasks heap object name) ++
          (references rest ++ new.flatMap (metIn heap))).Perm
          (references rest ++ (new ++ [(id, name)]).flatMap (metIn heap)) := by
        have hnew : (new ++ [(id, name)]).flatMap (metIn heap) =
            new.flatMap (metIn heap) ++ references (objectTasks heap object name) := by
          simp [metIn, found]
        rw [hnew, ← List.append_assoc (references rest)]
        exact List.perm_append_comm
      exact (hmet.trans hswap).cons _
    · have holds := (creates_construction options object name).holdsObject
      simp only [answers, found, fresh, List.filter_cons, holds, if_true]
      exact congrArg _ hout

/-- If statements are the constructions of some objects, each of the objects exists and is
created among them. -/
lemma mem_of_constructed {constructions : List Statement} {entries : List (ObjectId × String)}
    (h : constructions.map some = entries.map fun entry =>
      (heap.get? entry.1).map fun object => construction options object entry.2)
    {entry : ObjectId × String} (hentry : entry ∈ entries) :
    ∃ object, heap.get? entry.1 = some object ∧
    construction options object entry.2 ∈ constructions := by
  have hmem := h ▸ List.mem_map_of_mem hentry
  obtain ⟨s, hs, heq⟩ := List.mem_map.mp hmem
  obtain ⟨object, hobject, rfl⟩ := Option.map_eq_some_iff.mp heq.symm
  exact ⟨object, hobject, hs⟩

/-- If statements are the constructions of some objects, they give the variables of those
objects their values. -/
lemma assigned_of_constructed {constructions : List Statement} {entries : List (ObjectId × String)}
    (h : constructions.map some = entries.map fun entry =>
      (heap.get? entry.1).map fun object => construction options object entry.2) :
    constructions.map Statement.assigned? = entries.map fun entry => some entry.2 := by
  calc constructions.map Statement.assigned?
      = (constructions.map some).map fun s => s.bind Statement.assigned? := by simp
    _ = (entries.map fun entry => (heap.get? entry.1).map fun object =>
          construction options object entry.2).map fun s => s.bind Statement.assigned? := by rw [h]
    _ = entries.map fun entry => some entry.2 := by
      rw [List.map_map]
      apply List.map_congr_left
      intro entry hentry
      obtain ⟨object, hobject, _⟩ := mem_of_constructed h hentry
      simp [hobject, (creates_construction options object entry.2).assigned?]

/-- Compiling values from outside needs nothing that was compiled before. -/
lemma supplied_calls (calls : List Call) : Supplied [] (calls.map Call.task) := by
  apply supplied_of_no_store
  simp [Call.task]

end

/-- Compiling values one after another keeps the identity of objects: each is created once, in the
variable that the names report, and copied from that variable whenever it is met again; and what one
part of the calls has given a variable keeps it through the calls that follow. -/
theorem compileAll_keepsIdentity {heap : Heap} {options : Options} {calls : List Call}
    {s : Scriptlet} {names : Names}
    (h : outcome (compileAll heap options calls) .empty = (.ok s, names)) :
    KeepsIdentity heap options calls s.statements names ∧
      ∀ earlier later, calls = earlier ++ later → ∃ first others before,
        outcome (compileAll heap options earlier) .empty = (.ok first, before) ∧
        outcome (compileAll heap options later) before = (.ok others, names) ∧
        s = first ++ others ∧
        ∀ id name, before.find? id = some name → names.find? id = some name := by
  have run {calls n s n'} (h : outcome (compileAll heap options calls) n = (.ok s, n')) :
      Emits heap options n (calls.map Call.task) s.statements n' := by
    rw [compileAll_eq] at h
    exact emits_of_runTasks h
  have distinct : names.Distinct := (run h).distinct Names.distinct_empty
  -- Nothing has a variable at first, so what is new is all that has one.
  obtain ⟨new, hentries, constructed⟩ := (run h).constructed
  obtain ⟨new', met, hentries', hmet, answered⟩ := (run h).answered
  simp only [Names.empty, List.append_nil] at hentries hentries'
  subst hentries hentries'
  refine ⟨⟨⟨distinct, fun id name => distinct.find?_eq_some_iff⟩, ?_, constructed, ?_,
    ⟨met, hmet, answered⟩, ?_⟩, ?_⟩
  · simpa using congrArg List.length constructed
  · exact assigned_of_constructed constructed
  · intro i statement hi x hx
    have inScope := (run h).wellScoped (Names.covered_empty []) (supplied_calls calls)
    rcases inScope.assigned_before hi hx with hnone | hbefore
    · cases hnone
    · exact hbefore
  · rintro earlier later rfl
    rw [compileAll_eq, List.map_append, runTasks_append, outcome_bind_ok] at h
    obtain ⟨first, before, hfirst, h⟩ := h
    rw [outcome_bind_ok] at h
    obtain ⟨others, after, hothers, h⟩ := h
    cases h
    rw [← compileAll_eq] at hfirst hothers
    refine ⟨first, others, before, hfirst, hothers, rfl, fun id name hfind => ?_⟩
    have hbefore := (run hfirst).distinct Names.distinct_empty
    rw [hbefore.find?_eq_some_iff] at hfind
    exact distinct.find?_eq_some_iff.mpr ((run hothers).entries_suffix.mem hfind)

/-- A list that holds an item twice and itself. -/
def sharedHeap : Heap :=
  ⟨#[.collection "L" [.ref ⟨1⟩, .ref ⟨1⟩, .ref ⟨0⟩], .struct ⟨"p.Item", true, false, []⟩]⟩

/-- The list and its item, both compiled into one variable. -/
def sharedCalls : List Call :=
  [⟨⟨"x", .ref ⟨0⟩⟩, none⟩, ⟨⟨"x", .ref ⟨1⟩⟩, none⟩]

/-- Objects that are shared, in a cycle and in variables of one name keep their identity. -/
theorem compileAll_keepsIdentity_shared :
    ∃ s names, outcome (compileAll sharedHeap {} sharedCalls) .empty = (.ok s, names) ∧
      KeepsIdentity sharedHeap {} sharedCalls s.statements names := by
  have h : outcome (compileAll sharedHeap {} sharedCalls) .empty =
      (.ok ⟨[⟨"p.Item", "x_element0_item"⟩],
        [.construct "L" "x", .construct "p.Item" "x_element0_item",
          .copy (.named "p.Item") "x_element1_item" "x_element0_item",
          .copy (.named "L") "x_element2_l" "x", .add "x" "x_element0_item",
          .add "x" "x_element1_item", .add "x" "x_element2_l",
          .copy (.named "p.Item") "x" "x_element0_item"]⟩,
        ⟨[(⟨1⟩, "x_element0_item"), (⟨0⟩, "x")]⟩) := by cbv
  exact ⟨_, _, h, (compileAll_keepsIdentity h).1⟩

end CallReplay.Script
