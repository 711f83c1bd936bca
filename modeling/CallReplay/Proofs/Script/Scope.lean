import CallReplay.Proofs.Script.Run

/-!
# Scope of variables

A statement reads variables, and most statements give one a value. Statements are well scoped if
each reads only variables that were given a value before. On the side of the compiler, a list of
tasks is supplied if everything that a store mentions has been compiled by then; the tasks of an
object are (`supplied_objectTasks`), and so what a run emits is well scoped (`Emits.wellScoped`).
-/

namespace CallReplay.Script

/-- The variables that an operand reads. -/
def Operand.reads : Operand → List String
  | held name => [name]
  | null | text _ => []

/-- The variables that a statement reads, the one of the object that it changes included. -/
def Statement.reads : Statement → List String
  | copy _ _ previous => [previous]
  | storeElement array _ value => [array, value]
  | add collection value => [collection, value]
  | put map key value => map :: (key.reads ++ value.reads)
  | setProperty properties _ _ => [properties]
  | storeField object _ value => object :: value.toList
  | _ => []

/-- Every statement reads only variables that are known or were given a value before. -/
def WellScoped : List String → List Statement → Prop
  | _, [] => True
  | known, s :: rest =>
    (∀ x ∈ s.reads, x ∈ known) ∧ WellScoped (s.assigned?.toList ++ known) rest

/-- In well-scoped statements a variable that is read is known or was given a value by an earlier
statement. -/
lemma WellScoped.assigned_before {known : List String} {out : List Statement}
    (h : WellScoped known out) {i : Nat} {s : Statement} (hi : out[i]? = some s) {x : String}
    (hx : x ∈ s.reads) : x ∈ known ∨ ∃ j t, j < i ∧ out[j]? = some t ∧ t.assigned? = some x := by
  induction out generalizing known i with
  | nil => simp at hi
  | cons first rest ih =>
    cases i with
    | zero =>
      cases hi
      exact .inl (h.1 x hx)
    | succ i =>
      rcases ih h.2 hi with hknown | ⟨j, t, hj, ht, hassigned⟩
      · rcases List.mem_append.mp hknown with hfirst | hknown
        · exact .inr ⟨0, first, Nat.succ_pos i, rfl, Option.mem_toList.mp hfirst⟩
        · exact .inl hknown
      · exact .inr ⟨j + 1, t, Nat.succ_lt_succ hj, ht, hassigned⟩

/-- What a store mentions in a variable of its own. -/
def Store.items : Store → List Holder
  | element _ item => [item]
  | add item => [item]
  | put key value => [key, value].filter fun item => !item.isInline
  | property _ _ => []
  | field _ item => if item.value.isNull then [] else [item]
  | unread _ => []

/-- Everything that a store mentions has been compiled by then, its object included. -/
def Supplied : List Holder → List Task → Prop
  | _, [] => True
  | known, .look _ :: rest => Supplied known rest
  | known, .compile item _ :: rest => Supplied (item :: known) rest
  | known, .store receiver change :: rest =>
    (∃ id, ⟨receiver, .ref id⟩ ∈ known) ∧ (∀ item ∈ change.items, item ∈ known) ∧
      Supplied known rest

/-- What tasks compile. -/
def compiled (tasks : List Task) : List Holder :=
  tasks.filterMap fun
    | .compile item _ => some item
    | _ => none

/-- Tasks stay supplied if more has been compiled. -/
lemma Supplied.mono {known more : List Holder} {tasks : List Task} (h : Supplied known tasks)
    (hmore : ∀ item ∈ known, item ∈ more) : Supplied more tasks := by
  induction tasks generalizing known more with
  | nil => trivial
  | cons task rest ih =>
    cases task with
    | look id => exact ih h hmore
    | compile item hint =>
      apply ih h
      intro other hother
      rcases List.mem_cons.mp hother with rfl | hother
      · exact List.mem_cons_self
      · exact List.mem_cons_of_mem _ (hmore other hother)
    | store receiver change =>
      obtain ⟨⟨id, hid⟩, hitems, hrest⟩ := h
      exact ⟨⟨id, hmore _ hid⟩, fun item hitem => hmore item (hitems item hitem), ih hrest hmore⟩

/-- Two lists of tasks are supplied one after the other if the second is supplied with what
the first compiles. -/
lemma Supplied.append {known : List Holder} {a b : List Task} (ha : Supplied known a)
    (hb : Supplied (compiled a ++ known) b) : Supplied known (a ++ b) := by
  induction a generalizing known with
  | nil => exact hb
  | cons task rest ih =>
    cases task with
    | look id => exact ih ha hb
    | compile item hint =>
      apply ih ha
      apply hb.mono
      intro other hother
      simp only [compiled, List.filterMap_cons, List.cons_append, List.mem_cons, List.mem_append]
        at hother ⊢
      tauto
    | store receiver change => exact ⟨ha.1, ha.2.1, ih ha.2.2 hb⟩

/-- Tasks without stores are supplied. -/
lemma supplied_of_no_store {known : List Holder} {tasks : List Task}
    (h : ∀ receiver change, .store receiver change ∉ tasks) : Supplied known tasks := by
  induction tasks generalizing known with
  | nil => trivial
  | cons task rest ih =>
    have hrest : ∀ receiver change, .store receiver change ∉ rest :=
      fun receiver change hmem => h receiver change (List.mem_cons_of_mem _ hmem)
    cases task with
    | look id => exact ih hrest
    | compile item hint => exact ih hrest
    | store receiver change => exact absurd List.mem_cons_self (h receiver change)

/-- Stores are supplied if all that they mention has been compiled. -/
lemma supplied_stores {known : List Holder} {receiver : String} {id : ObjectId}
    {stores : List Store} (hid : ⟨receiver, .ref id⟩ ∈ known)
    (h : ∀ change ∈ stores, ∀ item ∈ change.items, item ∈ known) :
    Supplied known (stores.map (.store receiver)) := by
  induction stores with
  | nil => trivial
  | cons change rest ih =>
    refine ⟨⟨id, hid⟩, h change List.mem_cons_self, ih fun other hother => ?_⟩
    exact h other (List.mem_cons_of_mem _ hother)

/-- Two lists of tasks that are supplied each are supplied together. -/
lemma Supplied.append_self {known : List Holder} {a b : List Task} (ha : Supplied known a)
    (hb : Supplied known b) : Supplied known (a ++ b) :=
  ha.append (hb.mono fun _ hitem => List.mem_append_right _ hitem)

/-- The tasks for elements are supplied if those for each element are. -/
lemma supplied_flatMap {α : Type} {known : List Holder} {f : α → List Task} {l : List α}
    (h : ∀ a ∈ l, Supplied known (f a)) : Supplied known (l.flatMap f) := by
  induction l with
  | nil => trivial
  | cons a rest ih =>
    rw [List.flatMap_cons]
    apply (h a List.mem_cons_self).append_self
    exact ih fun b hb => h b (List.mem_cons_of_mem _ hb)

/-- What tasks one behind the other compile is what each of them compiles. -/
lemma compiled_append (a b : List Task) : compiled (a ++ b) = compiled a ++ compiled b :=
  List.filterMap_append

/-- What the tasks for elements compile is what those for each element compile. -/
lemma compiled_flatMap {α : Type} (f : α → List Task) (l : List α) :
    compiled (l.flatMap f) = l.flatMap fun a => compiled (f a) :=
  List.filterMap_flatMap

/-- Stores compile nothing. -/
lemma compiled_stores (receiver : String) (stores : List Store) :
    compiled (stores.map (.store receiver)) = [] := by
  simp [compiled]

/-- Compiling a value stores nothing itself. -/
lemma store_notMem_namedTasks {hint : Option TypeDesc} {item : Holder} {receiver : String}
    {change : Store} : .store receiver change ∉ namedTasks hint item := by
  cases hvalue : item.value <;> simp [namedTasks, looks, hvalue]

/-- Preparing an operand stores nothing itself. -/
lemma store_notMem_operandTasks {item : Holder} {receiver : String} {change : Store} :
    .store receiver change ∉ operandTasks item := by
  unfold operandTasks
  split <;> simp

/-- Compiling named values comes without stores. -/
lemma store_notMem_named {hint : Option TypeDesc} {items : List Holder} {receiver : String}
    {change : Store} : .store receiver change ∉ items.flatMap (namedTasks hint) := by
  intro hmem
  obtain ⟨item, _, hstore⟩ := List.mem_flatMap.mp hmem
  exact store_notMem_namedTasks hstore

/-- Compiling the operands of entries comes without stores. -/
lemma store_notMem_operands {items : List (Holder × Holder)} {receiver : String} {change : Store} :
    .store receiver change ∉ items.flatMap fun (key, value) => operandTasks key ++
    operandTasks value := by
  intro hmem
  obtain ⟨item, _, hstore⟩ := List.mem_flatMap.mp hmem
  rcases List.mem_append.mp hstore with hkey | hvalue
  · exact store_notMem_operandTasks hkey
  · exact store_notMem_operandTasks hvalue

/-- Compiling a value compiles it under its name. -/
lemma compiled_namedTasks (hint : Option TypeDesc) (item : Holder) :
    compiled (namedTasks hint item) = [item] := by
  cases hvalue : item.value <;> simp [compiled, namedTasks, looks, hvalue]

/-- An operand is compiled unless it stands in the call itself. -/
lemma compiled_operandTasks (item : Holder) :
    compiled (operandTasks item) = if item.isInline then [] else [item] := by
  unfold operandTasks
  split <;> rfl

/-- The store of a field comes after its value. -/
lemma supplied_storeTasks {known : List Holder} {name : String} {id : ObjectId} {field : Field}
    {value : Value} (hid : ⟨name, .ref id⟩ ∈ known) :
    Supplied known (storeTasks name field value) := by
  unfold storeTasks
  split
  · rename_i hnull
    exact ⟨⟨id, hid⟩, by simp [Store.items, hnull], trivial⟩
  · rename_i hvalue
    exact ⟨⟨id, List.mem_cons_of_mem _ hid⟩, by simp [Store.items, hvalue], trivial⟩

/-- The tasks of a field are supplied once its object exists. -/
lemma supplied_fieldTasks {heap : Heap} {known : List Holder} {name : String} {id : ObjectId}
    {field : Field} (hid : ⟨name, .ref id⟩ ∈ known) :
    Supplied known (fieldTasks heap name field) := by
  unfold fieldTasks
  split
  · trivial
  · split
    · exact ⟨⟨id, hid⟩, by simp [Store.items], trivial⟩
    · rename_i value _
      apply Supplied.append_self
      · split
        · trivial
        · cases value <;> trivial
      · split
        · exact supplied_storeTasks hid
        · trivial

/-- Stores of named values come after the values. -/
lemma supplied_named_stores {known : List Holder} {name : String} {id : ObjectId}
    {hint : Option TypeDesc} {items : List Holder} {stores : List Store}
    (hid : ⟨name, .ref id⟩ ∈ known) (h : ∀ change ∈ stores, ∀ item ∈ change.items, item ∈ items) :
    Supplied known (items.flatMap (namedTasks hint) ++ stores.map (.store name)) := by
  apply Supplied.append (supplied_of_no_store fun _ _ => store_notMem_named)
  apply supplied_stores (List.mem_append_right _ hid)
  intro change hchange item hitem
  apply List.mem_append_left
  rw [compiled_flatMap, List.mem_flatMap]
  exact ⟨item, h change hchange item hitem, by simp [compiled_namedTasks]⟩

/-- Stores of map entries come after the operands. -/
lemma supplied_put_stores {known : List Holder} {name : String} {id : ObjectId}
    {items : List (Holder × Holder)} (hid : ⟨name, .ref id⟩ ∈ known) :
    Supplied known (items.flatMap (fun (key, value) => operandTasks key ++ operandTasks value) ++
      (items.map fun (key, value) => .put key value).map (.store name)) := by
  apply Supplied.append (supplied_of_no_store fun _ _ => store_notMem_operands)
  apply supplied_stores (List.mem_append_right _ hid)
  intro change hchange item hitem
  obtain ⟨⟨key, value⟩, hentry, rfl⟩ := List.mem_map.mp hchange
  simp only [Store.items, List.mem_filter, Bool.not_eq_true'] at hitem
  apply List.mem_append_left
  rw [compiled_flatMap, List.mem_flatMap]
  refine ⟨(key, value), hentry, ?_⟩
  rw [compiled_append, List.mem_append, compiled_operandTasks, compiled_operandTasks]
  rcases List.mem_cons.mp hitem.1 with rfl | hvalue
  · exact .inl (by simp [hitem.2])
  · rw [List.mem_singleton.mp hvalue] at hitem ⊢
    exact .inr (by simp [hitem.2])

/-- The tasks of an object are supplied once it exists. -/
theorem supplied_objectTasks {heap : Heap} {known : List Holder} {name : String} {id : ObjectId}
    (object : Object) (hid : ⟨name, .ref id⟩ ∈ known) :
    Supplied known (objectTasks heap object name) := by
  cases object with
  | array component elements =>
    simp only [objectTasks]
    split
    · trivial
    · apply supplied_named_stores hid
      intro change hchange item hitem
      obtain ⟨⟨element, index⟩, helement, rfl⟩ := List.mem_map.mp hchange
      rw [List.mem_singleton.mp hitem]
      exact List.fst_mem_of_mem_zipIdx helement
  | collection className elements =>
    apply supplied_named_stores hid
    intro change hchange item hitem
    obtain ⟨element, helement, rfl⟩ := List.mem_map.mp hchange
    rwa [List.mem_singleton.mp hitem]
  | properties entries =>
    apply supplied_stores hid
    intro change hchange item hitem
    obtain ⟨entry, _, rfl⟩ := List.mem_map.mp hchange
    cases hitem
  | map className entries => exact supplied_put_stores hid
  | struct s => exact supplied_flatMap fun field _ => supplied_fieldTasks hid

/-- Every task gives its variable a value, whichever statement it leads to. -/
lemma assigned?_leaf? {item : Holder} {hint : Option TypeDesc} {s : Statement}
    (h : leaf? item hint = some s) : s.assigned? = some item.name := by
  unfold leaf? at h
  split at h <;> cases h <;> rfl

/-- The statement for a value without parts reads no variable. -/
lemma reads_leaf? {item : Holder} {hint : Option TypeDesc} {s : Statement}
    (h : leaf? item hint = some s) : s.reads = [] := by
  unfold leaf? at h
  split at h <;> cases h <;> rfl

/-- A statement creates an object and leaves it in a variable. -/
inductive Statement.Creates (name : String) : Statement → Prop where
  | inlineArray {component elements} : Creates name (.inlineArray component name elements)
  | sizedArray {component length} : Creates name (.sizedArray component name length)
  | construct {className} : Creates name (.construct className name)
  | bypass {className helper} : Creates name (.bypass className name helper)

/-- The statement for a new object creates it, whatever its shape. -/
lemma creates_construction (options : Options) (object : Object) (name : String) :
    (construction options object name).Creates name := by
  cases object with
  | array component elements =>
    simp only [construction]
    split
    · exact .inlineArray
    · exact .sizedArray
  | collection className elements => exact .construct
  | properties entries => exact .construct
  | map className entries => exact .construct
  | struct s =>
    simp only [construction, creation]
    split
    · exact .construct
    · exact .bypass

/-- A statement that creates an object assigns it to a variable. -/
lemma Statement.Creates.assigned? {s : Statement} {name : String} (h : s.Creates name) :
    s.assigned? = some name := by
  cases h <;> rfl

/-- A statement that creates an object reads no variable. -/
lemma Statement.Creates.reads {s : Statement} {name : String} (h : s.Creates name) :
    s.reads = [] := by
  cases h <;> rfl

/-- A store assigns no variable. -/
lemma assigned?_statement (receiver : String) (change : Store) :
    (change.statement receiver).assigned? = none := by
  cases change <;> rfl

/-- An operand reads the variable of what it mentions, if it has one. -/
lemma reads_operand {item : Holder} {x : String} (h : x ∈ item.operand.reads) :
    item.isInline = false ∧ x = item.name := by
  obtain ⟨name, value⟩ := item
  unfold Holder.operand at h
  unfold Holder.isInline
  split at h <;> simp_all [Operand.reads]

/-- A store reads the variables of its object and of what it mentions. -/
lemma reads_statement {receiver : String} {change : Store} {x : String}
    (h : x ∈ (change.statement receiver).reads) :
    x = receiver ∨ ∃ item ∈ change.items, x = item.name := by
  cases change with
  | put key value =>
    simp only [Store.statement, Statement.reads, List.mem_cons, List.mem_append] at h
    rcases h with h | h | h
    · exact .inl h
    · obtain ⟨hkey, hx⟩ := reads_operand h
      exact .inr ⟨key, by simp [Store.items, hkey], hx⟩
    · obtain ⟨hvalue, hx⟩ := reads_operand h
      exact .inr ⟨value, by simp [Store.items, hvalue], hx⟩
  | field name item =>
    simp only [Store.statement, Statement.reads, List.mem_cons, Option.mem_toList] at h
    rcases h with h | h
    · exact .inl h
    · cases hnull : item.value.isNull with
      | true => simp [hnull] at h
      | false => exact .inr ⟨item, by simp [Store.items, hnull], by simpa [hnull] using h.symm⟩
  | element index item => simpa [Store.statement, Statement.reads, Store.items] using h
  | add item => simpa [Store.statement, Statement.reads, Store.items] using h
  | property key value => simpa [Store.statement, Statement.reads, Store.items] using h
  | unread name => cases h

/-- Names are covered by what has been compiled if each is the variable of its object there. -/
def Names.Covered (n : Names) (known : List Holder) : Prop :=
  ∀ id name, n.find? id = some name → ⟨name, .ref id⟩ ∈ known

/-- In the beginning there are no variables to be covered. -/
lemma Names.covered_empty (known : List Holder) : Names.empty.Covered known :=
  fun _ _ hfind => by cases hfind

/-- Variables that are covered stay so when more is known. -/
lemma Names.Covered.mono {n : Names} {known more : List Holder} (h : n.Covered known)
    (hmore : ∀ item ∈ known, item ∈ more) : n.Covered more :=
  fun id name hfind => hmore _ (h id name hfind)

/-- Names stay covered when an object is given the variable that it is compiled into. -/
lemma Names.Covered.insert {n : Names} {known : List Holder} {id : ObjectId} {name : String}
    (h : n.Covered known) : (n.insert id name).Covered (⟨name, .ref id⟩ :: known) := by
  intro other previous hfind
  rw [find?_insert] at hfind
  split at hfind
  · rename_i hid
    cases hfind
    rw [hid]
    exact List.mem_cons_self
  · exact List.mem_cons_of_mem _ (h other previous hfind)

/-- What a run over supplied tasks emits is well scoped. -/
theorem Emits.wellScoped {heap : Heap} {options : Options} {n n' : Names} {tasks : List Task}
    {out : List Statement} {known : List Holder} (run : Emits heap options n tasks out n')
    (hnames : n.Covered known) (htasks : Supplied known tasks) :
    WellScoped (known.map Holder.name) out := by
  induction run generalizing known with
  | done => trivial
  | look _ _ ih => exact ih hnames htasks
  | store _ ih =>
    obtain ⟨⟨id, hid⟩, hitems, hrest⟩ := htasks
    refine ⟨fun x hx => ?_, by simpa [assigned?_statement] using ih hnames hrest⟩
    rcases reads_statement hx with rfl | ⟨item, hitem, rfl⟩
    · exact List.mem_map_of_mem hid
    · exact List.mem_map_of_mem (hitems item hitem)
  | leaf plain _ ih =>
    refine ⟨by simp [reads_leaf? plain], ?_⟩
    rw [assigned?_leaf? plain]
    exact ih (hnames.mono fun _ h => List.mem_cons_of_mem _ h) htasks
  | copy found has _ ih =>
    refine ⟨fun x hx => ?_, ih (hnames.mono fun _ h => List.mem_cons_of_mem _ h) htasks⟩
    rw [List.mem_singleton.mp hx]
    exact List.mem_map_of_mem (hnames _ _ has)
  | @create n n' name id hint object rest out _ _ _ ih =>
    have creates := creates_construction options object name
    refine ⟨by simp [creates.reads], ?_⟩
    -- The variable of the object is known from here on.
    rw [creates.assigned?]
    apply ih hnames.insert
    -- The tasks of the new object come before those that were waiting.
    exact (supplied_objectTasks _ List.mem_cons_self).append_self htasks

end CallReplay.Script
