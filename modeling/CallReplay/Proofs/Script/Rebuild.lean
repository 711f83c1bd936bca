import CallReplay.Proofs.Script.Filling

/-!
# Scripts rebuild their objects

Executing what a run of the compiler emits follows the run. The objects that have variables are
those that were created, in one order, so the place of an object is known as soon as it has a
variable. `Follows` relates a state of the compiler to a state of the script: every variable holds
what it is for, and every created object lacks just the stores that are still among the tasks. One
statement keeps this (`Emits.follows`), and once no tasks are left every object is rebuilt.
-/

namespace CallReplay.Script

namespace Names

/-- The number of entries behind that of an object. -/
def placeIn (id : ObjectId) : List (ObjectId × String) → Option Nat
  | [] => none
  | (other, _) :: rest => if id = other then some rest.length else placeIn id rest

/-- The place of an object: how many objects were given a variable before it. -/
def place (n : Names) (id : ObjectId) : Option Nat := placeIn id n.entries

/-- An object that is given a variable comes after those that have one. -/
lemma place_insert (n : Names) (id other : ObjectId) (name : String) :
    (n.insert id name).place other = if other = id then some n.entries.length else n.place other :=
  rfl

/-- An object has a place if it has a variable. -/
lemma isSome_place (n : Names) (id : ObjectId) : (n.place id).isSome = (n.find? id).isSome := by
  obtain ⟨entries⟩ := n
  simp only [place, find?]
  induction entries with
  | nil => rfl
  | cons entry rest ih =>
    obtain ⟨other, name⟩ := entry
    rw [placeIn, List.lookup_cons]
    by_cases hid : id = other
    · simp [hid]
    · rw [if_neg hid, beq_eq_false_iff_ne.mpr hid, ih]

/-- An object with a place has a variable. -/
lemma mem_of_place {n : Names} {id : ObjectId} {at' : Nat} (h : n.place id = some at') :
    id ∈ n.entries.map Prod.fst := by
  by_contra habsent
  have hplace := isSome_place n id
  rw [h, find?_eq_none_iff.mpr habsent] at hplace
  cases hplace

/-- The place of an object is among those of all that have a variable. -/
lemma place_lt {n : Names} {id : ObjectId} {at' : Nat} (h : n.place id = some at') :
    at' < n.entries.length := by
  obtain ⟨entries⟩ := n
  simp only [place] at h
  induction entries with
  | nil => cases h
  | cons entry rest ih =>
    rw [placeIn] at h
    rw [List.length_cons]
    split at h
    · cases h
      exact Nat.lt_succ_self _
    · exact Nat.lt_succ_of_lt (ih h)

/-- Different objects have different places. -/
lemma place_injective {n : Names} {a b : ObjectId} {at' : Nat} (ha : n.place a = some at')
    (hb : n.place b = some at') : a = b := by
  obtain ⟨entries⟩ := n
  induction entries with
  | nil => cases ha
  | cons entry rest ih =>
    obtain ⟨other, name⟩ := entry
    change (insert ⟨rest⟩ other name).place a = _ at ha
    change (insert ⟨rest⟩ other name).place b = _ at hb
    rw [place_insert] at ha hb
    split at ha <;> split at hb
    · simp_all
    · cases ha
      exact absurd (place_lt hb) (Nat.lt_irrefl _)
    · cases hb
      exact absurd (place_lt ha) (Nat.lt_irrefl _)
    · exact ih ha hb

/-- Every number below that of the objects with a variable is a place. -/
lemma Distinct.exists_place {n : Names} (h : n.Distinct) {at' : Nat}
    (hlt : at' < n.entries.length) :
    ∃ id, n.place id = some at' := by
  obtain ⟨entries⟩ := n
  induction entries with
  | nil => cases hlt
  | cons entry rest ih =>
    obtain ⟨other, name⟩ := entry
    have hrest := List.nodup_cons.mp h
    rcases Nat.lt_succ_iff_lt_or_eq.mp hlt with hlt | rfl
    · obtain ⟨id, hid⟩ := ih hrest.2 hlt
      have hne : id ≠ other := fun h => hrest.1 (h ▸ mem_of_place hid)
      exact ⟨id, by simpa [place, placeIn, hne] using hid⟩
    · exact ⟨other, by simp [place, placeIn]⟩

/-- Places stay when further objects are given variables. -/
lemma Distinct.place_of_suffix {n n' : Names} (h : n'.Distinct) (hsuffix : n.entries <:+ n'.entries)
    {id : ObjectId} {at' : Nat} (hplace : n.place id = some at') : n'.place id = some at' := by
  obtain ⟨entries⟩ := n
  obtain ⟨entries'⟩ := n'
  obtain ⟨new, rfl⟩ := hsuffix
  induction new with
  | nil => exact hplace
  | cons entry rest ih =>
    obtain ⟨other, name⟩ := entry
    have hrest := List.nodup_cons.mp h
    have hbefore := ih hrest.2
    have hne : id ≠ other := fun h => hrest.1 (h ▸ mem_of_place hbefore)
    simpa [place, placeIn, hne] using hbefore

end Names

section

variable {heap : Heap} {options : Options} {place : ObjectId → Option Nat} {n n' : Names}
  {tasks : List Task} {out : List Statement}

/-- A field compiles its value if it is rebuilt and not null. -/
lemma compiled_fieldTasks (object : String) (field : Field) :
    compiled (fieldTasks heap object field) =
      match field.slot with
      | .inaccessible => []
      | .value value =>
        if isRebuilt heap field value && !value.isNull then [⟨fieldName object field.name, value⟩]
        else [] := by
  obtain ⟨ids, htasks⟩ := fieldTasks_eq heap object field
  have looked : compiled (ids.map .look) = [] := by simp [compiled]
  rw [htasks, compiled_append, looked, List.nil_append]
  cases field.slot with
  | inaccessible => cases field.modifiers.isPersistent <;> rfl
  | value value =>
    cases hrebuilt : isRebuilt heap field value with
    | false => simp [hrebuilt, compiled]
    | true => cases hnull : value.isNull <;> simp [hrebuilt, compiled, storeTasks, hnull]

/-- A reference does not stand in the call itself. -/
lemma isInline_of_ref {item : Holder} {id : ObjectId} (h : item.value = .ref id) :
    item.isInline = false := by
  simp [Holder.isInline, h]

/-- What is compiled for elements refers to the objects that the elements refer to. -/
lemma exists_compiled_elements_iff {hint : Option TypeDesc} {values : List Value} {name : String}
    {stores : List Store} {id : ObjectId} :
    (∃ item ∈ compiled ((elementItems heap name 0 values).flatMap (namedTasks hint) ++
      stores.map (.store name)), item.value = .ref id) ↔ .ref id ∈ values := by
  conv_rhs => rw [← map_value_elementItems heap name 0 values, List.mem_map]
  simp [compiled_append, compiled_flatMap, compiled_namedTasks, compiled_stores]

/-- What is compiled for an operand refers to an object if the operand does. -/
lemma exists_compiled_operand_iff {item : Holder} {id : ObjectId} :
    (∃ other ∈ compiled (operandTasks item), other.value = .ref id) ↔ item.value = .ref id := by
  rw [compiled_operandTasks]
  cases hinline : item.isInline with
  | false => simp
  | true =>
    refine iff_of_false (by simp) fun href => ?_
    cases (isInline_of_ref href).symm.trans hinline

/-- What is compiled for a field refers to an object if the field does and is rebuilt. -/
lemma exists_compiled_field_iff {object : String} {field : Field} {id : ObjectId} :
    (∃ item ∈ compiled (fieldTasks heap object field), item.value = .ref id) ↔
      field.slot = .value (.ref id) ∧ isRebuilt heap field (.ref id) = true := by
  rw [compiled_fieldTasks]
  cases field.slot with
  | inaccessible => simp
  | value value =>
    cases value with
    | ref other =>
      by_cases hid : other = id
      · subst hid
        simp [Value.isNull]
      · simp [Value.isNull, hid]
    | _ => simp [Value.isNull]

/-- The objects that a structured object keeps are those that a field refers to which is rebuilt. -/
lemma ref_mem_keptValues_struct {s : Struct} {id : ObjectId} :
    .ref id ∈ keptValues heap (.struct s) ↔
      ∃ field ∈ s.fields, field.slot = .value (.ref id) ∧
      isRebuilt heap field (.ref id) = true := by
  simp only [keptValues, keptFields, List.mem_map, List.mem_filterMap]
  constructor
  · rintro ⟨kept, ⟨field, hfield, hkept⟩, href⟩
    refine ⟨field, hfield, ?_⟩
    cases hslot : field.slot with
    | inaccessible => simp [hslot] at hkept
    | value value =>
      simp only [hslot, Option.ite_none_right_eq_some] at hkept
      obtain ⟨hrebuilt, hkept⟩ := hkept
      cases hkept
      cases href
      exact ⟨rfl, hrebuilt⟩
  · rintro ⟨field, hfield, hslot, hrebuilt⟩
    exact ⟨(field.name, .ref id), ⟨field, hfield, by simp [hslot, hrebuilt]⟩, rfl⟩

/-- What is compiled for an object refers to the objects that it holds when it is rebuilt. -/
lemma exists_compiled_ref_iff {object : Object} {name : String} {id : ObjectId} :
    (∃ item ∈ compiled (objectTasks heap object name), item.value = .ref id) ↔
      .ref id ∈ keptValues heap object := by
  cases object with
  | array component values =>
    cases hinline : inlineElements? component values with
    | none =>
      simp only [objectTasks, hinline]
      exact exists_compiled_elements_iff
    | some items =>
      simp only [objectTasks, hinline]
      constructor
      · rintro ⟨item, hitem, _⟩
        cases hitem
      · intro hmem
        -- The elements of a literal are the same wherever objects are, so none of them is one.
        have held : List.Forall₂ (Holds fun _ => none) values _ := forall₂_inlineElements? hinline
        obtain ⟨cell, _, hcell⟩ := exists_of_forall₂ held hmem
        cases hcell with
        | object hplace => cases hplace
  | collection className values => exact exists_compiled_elements_iff
  | properties entries => simp only [objectTasks, compiled_stores, keptValues, Object.values]; simp
  | map className entries =>
    have kept : .ref id ∈ keptValues heap (.map className entries) ↔
        ∃ item ∈ entryItems name 0 entries, item.1.value = .ref id ∨ item.2.value = .ref id := by
      simp only [keptValues, Object.values]
      conv_lhs => rw [← map_value_entryItems name 0 entries]
      simp [eq_comm]
    rw [kept]
    simp only [objectTasks, compiled_append, compiled_flatMap, compiled_stores, List.append_nil,
      List.mem_flatMap, List.mem_append]
    constructor
    · rintro ⟨item, ⟨entry, hentry, hkey | hvalue⟩, href⟩
      · exact ⟨entry, hentry, .inl (exists_compiled_operand_iff.mp ⟨item, hkey, href⟩)⟩
      · exact ⟨entry, hentry, .inr (exists_compiled_operand_iff.mp ⟨item, hvalue, href⟩)⟩
    · rintro ⟨entry, hentry, hkey | hvalue⟩
      · obtain ⟨item, hitem, href⟩ := exists_compiled_operand_iff.mpr hkey
        exact ⟨item, ⟨entry, hentry, .inl hitem⟩, href⟩
      · obtain ⟨item, hitem, href⟩ := exists_compiled_operand_iff.mpr hvalue
        exact ⟨item, ⟨entry, hentry, .inr hitem⟩, href⟩
  | struct s =>
    simp only [objectTasks, compiled_flatMap, List.mem_flatMap, ref_mem_keptValues_struct]
    constructor
    · rintro ⟨item, ⟨field, hfield, hitem⟩, href⟩
      exact ⟨field, hfield, exists_compiled_field_iff.mp ⟨item, hitem, href⟩⟩
    · rintro ⟨field, hfield, hkept⟩
      obtain ⟨item, hitem, href⟩ := (@exists_compiled_field_iff heap name field id).mpr hkept
      exact ⟨item, ⟨field, hfield, hitem⟩, href⟩

/-- There is something to hold for a value if there is for the object that it may refer to. -/
lemma exists_holds {value : Value}
    (h : ∀ id, value = .ref id → ∃ cell, Holds place (.ref id) cell) :
    ∃ cell, Holds place value cell := by
  cases value with
  | null => exact ⟨_, .null⟩
  | scalar s => exact ⟨_, .scalar⟩
  | classOf type => exact ⟨_, .classOf⟩
  | ref id => exact h id rfl

/-- In the end there is something to hold for every value that a run compiles. -/
lemma Emits.held (run : Emits heap options n tasks out n') (hdistinct : n'.Distinct) :
    ∀ item ∈ compiled tasks, ∃ cell, Holds n'.place item.value cell := by
  induction run with
  | done => exact nofun
  | look _ _ ih => exact ih hdistinct
  | store _ ih => exact ih hdistinct
  | @leaf n n' item hint statement rest out plain _ ih =>
    intro other hother
    rcases List.mem_cons.mp hother with rfl | hother
    · apply exists_holds
      intro id href
      simp [leaf?, href] at plain
    · exact ih hdistinct other hother
  | @copy n n' name id hint object previous rest out _ known next ih =>
    intro other hother
    rcases List.mem_cons.mp hother with rfl | hother
    · have hplace : (n.place id).isSome := by rw [Names.isSome_place, known]; rfl
      obtain ⟨at', hat⟩ := Option.isSome_iff_exists.mp hplace
      exact ⟨_, .object (hdistinct.place_of_suffix next.entries_suffix hat)⟩
    · exact ih hdistinct other hother
  | @create n n' name id hint object rest out _ _ next ih =>
    intro other hother
    rcases List.mem_cons.mp hother with rfl | hother
    -- Names only grow, so the place that the object gets here is its place at the end.
    · have hplace : (n.insert id name).place id = some n.entries.length := by
        simp [Names.place_insert]
      exact ⟨_, .object (hdistinct.place_of_suffix next.entries_suffix hplace)⟩
    · apply ih hdistinct
      rw [compiled_append]
      exact List.mem_append_right _ hother

/-- The objects that the compiler meets when it compiles some values: those that the values refer
to, and those that an object that is met holds when it is rebuilt. -/
inductive Met (heap : Heap) (roots : List Value) : ObjectId → Prop where
  | root {id} : .ref id ∈ roots → Met heap roots id
  | kept {parent id object} :
    Met heap roots parent →
    heap.get? parent = some object →
    .ref id ∈ keptValues heap object →
    Met heap roots id

/-- A run gives variables to objects that are met only. -/
lemma Emits.met {roots : List Value} (run : Emits heap options n tasks out n')
    (hnames : ∀ id, (n.find? id).isSome → Met heap roots id)
    (htasks : ∀ item ∈ compiled tasks, ∀ id, item.value = .ref id → Met heap roots id) :
    ∀ id, (n'.find? id).isSome → Met heap roots id := by
  induction run with
  | done => exact hnames
  | look _ _ ih => exact ih hnames htasks
  | store _ ih => exact ih hnames htasks
  | leaf _ _ ih =>
    exact ih hnames fun item hitem => htasks item (List.mem_cons_of_mem _ hitem)
  | copy _ _ _ ih =>
    exact ih hnames fun item hitem => htasks item (List.mem_cons_of_mem _ hitem)
  | @create n n' name id hint object rest out found _ _ ih =>
    have hid : Met heap roots id := htasks ⟨name, .ref id⟩ List.mem_cons_self id rfl
    apply ih
    · intro other hother
      rw [Names.find?_insert] at hother
      split at hother
      · rename_i h
        exact h ▸ hid
      · exact hnames other hother
    · intro item hitem other href
      rw [compiled_append, List.mem_append] at hitem
      rcases hitem with hobject | hrest
      · exact .kept hid found (exists_compiled_ref_iff.mp ⟨item, hobject, href⟩)
      · exact htasks item (List.mem_cons_of_mem _ hrest) other href

/-- A script follows a run: it is where the statements that the run has emitted lead. -/
structure Follows (heap : Heap) (place : ObjectId → Option Nat) (n : Names) (tasks : List Task)
    (known : List Holder) (s : State) : Prop where
  /-- The objects with a variable are those that were created. -/
  created : s.objects.length = n.entries.length
  /-- Each object that has a variable was compiled into it. -/
  covered : n.Covered known
  /-- No two values were compiled into one variable. -/
  distinct : (known.map Holder.name).Nodup
  /-- The variable of each value holds what there is to hold for it. -/
  held : ∀ item ∈ known, ∃ cell, Holds place item.value cell ∧ s.read item.name = .ok cell
  /-- Every object that is changed by the tasks has a variable. -/
  owned : ∀ receiver change, .store receiver change ∈ tasks → ∃ id, n.find? id = some receiver
  /-- The stores that are left lead from each created object to its object rebuilt. -/
  filling : ∀ id name, n.find? id = some name → ∃ object at' content rebuilt,
    heap.get? id = some object ∧ n.place id = some at' ∧ s.objects[at']? = some content ∧
      Fills place content (pending name tasks) rebuilt ∧ Rebuilds heap place object rebuilt

/-- Assigning a variable changes no other. -/
lemma read_assign (s : State) (name other : String) (content : Cell) :
    (s.assign name content).read other = if other = name then .ok content else s.read other := by
  simp only [State.read, State.assign, List.lookup_cons]
  by_cases h : other = name
  · simp [h]
  · simp [h, beq_eq_false_iff_ne.mpr h]

/-- Creating an object in a variable changes no other variable. -/
lemma read_create (s : State) (name other : String) (object : Created) :
    (s.create name object).read other =
      if other = name then .ok (.object s.objects.length) else s.read other :=
  read_assign s name other _

/-- The statement for a value that is no reference gives its variable what there is to hold. -/
lemma step_leaf {s : State} {item : Holder} {hint : Option TypeDesc} {statement : Statement}
    {cell : Cell} (plain : leaf? item hint = some statement) (hcell : Holds place item.value cell) :
    step s statement = .ok (s.assign item.name cell) := by
  obtain ⟨name, value⟩ := item
  cases hcell with
  | object => cases plain
  | _ => cases plain; rfl

/-- The statement that creates an object leaves it in its variable. -/
lemma step_construction (s : State) (options : Options) (object : Object) (name : String) :
    step s (construction options object name) = .ok (s.create name (initial object)) := by
  cases object with
  | array component elements =>
    simp only [construction, initial]
    cases inlineElements? component elements <;> rfl
  | struct content => simp only [construction, creation]; split <;> rfl
  | _ => rfl

/-- An operand stands for what there is to hold for it. -/
lemma operand_eq {s : State} {item : Holder} {cell : Cell} (hcell : Holds place item.value cell)
    (hread : item.isInline = false → s.read item.name = .ok cell) :
    s.operand item.operand = .ok cell := by
  obtain ⟨name, value⟩ := item
  cases hcell with
  | null => rfl
  | classOf => exact hread rfl
  | object => exact hread rfl
  | @scalar value =>
    cases value with
    | text => rfl
    | _ => exact hread rfl

/-- The statement of a store makes its change, if the variables hold what they are for. -/
lemma step_statement {s : State} {receiver : String} {change : Store} {update : Update} {at' : Nat}
    {content next : Created} (makes : Makes place change update)
    (hitems : ∀ item ∈ change.items, ∃ cell, Holds place item.value cell ∧
    s.read item.name = .ok cell)
    (hreceiver : s.read receiver = .ok (.object at')) (hcontent : s.objects[at']? = some content)
    (hnext : content.update update = some next) :
    step s (change.statement receiver) = .ok { s with objects := s.objects.set at' next } := by
  have changed : s.change receiver update = .ok { s with objects := s.objects.set at' next } := by
    simp [State.change, hreceiver, hcontent, hnext, bind, Except.bind, pure, Except.pure]
  have read {item cell} (hitem : item ∈ change.items) (hcell : Holds place item.value cell) :
      s.read item.name = .ok cell := by
    obtain ⟨cell', hcell', hread⟩ := hitems item hitem
    rwa [hcell.unique hcell']
  cases makes with
  | element hcell =>
    simp only [Store.statement, step, read (by simp [Store.items]) hcell]
    exact changed
  | add hcell =>
    simp only [Store.statement, step, read (by simp [Store.items]) hcell]
    exact changed
  | put hkey hvalue =>
    have hkeyRead := operand_eq hkey fun h => read (by simp [Store.items, h]) hkey
    have hvalueRead := operand_eq hvalue fun h => read (by simp [Store.items, h]) hvalue
    simp only [Store.statement, step, hkeyRead, hvalueRead]
    exact changed
  | property => exact changed
  | @field name item cell hcell =>
    cases hnull : item.value.isNull with
    | true =>
      obtain ⟨itemName, value⟩ := item
      cases value with
      | null =>
        cases hcell
        exact changed
      | _ => cases hnull
    | false =>
      simp only [Store.statement, hnull, Bool.false_eq_true, if_false, step,
        read (by simp [Store.items, hnull]) hcell]
      exact changed

/-- The stores of an object's tasks are all for its own variable. -/
lemma receiver_objectTasks {object : Object} {name receiver : String} {change : Store}
    (h : .store receiver change ∈ objectTasks heap object name) : receiver = name := by
  have stores {changes : List Store} (h : .store receiver change ∈ changes.map (Task.store name)) :
      receiver = name := by
    obtain ⟨other, _, hother⟩ := List.mem_map.mp h
    cases hother
    rfl
  cases object with
  | array component elements =>
    simp only [objectTasks] at h
    split at h
    · cases h
    · rcases List.mem_append.mp h with h | h
      · exact absurd h store_notMem_named
      · exact stores h
  | collection className elements =>
    rcases List.mem_append.mp h with h | h
    · exact absurd h store_notMem_named
    · exact stores h
  | properties entries => exact stores h
  | map className entries =>
    rcases List.mem_append.mp h with h | h
    · exact absurd h store_notMem_operands
    · exact stores h
  | struct s =>
    obtain ⟨field, _, h⟩ := List.mem_flatMap.mp h
    obtain ⟨ids, htasks⟩ := fieldTasks_eq heap name field
    rw [htasks, List.mem_append] at h
    rcases h with h | h
    · simp at h
    · split at h
      · split at h
        · cases List.mem_singleton.mp h
          rfl
        · cases h
      · split at h
        · unfold storeTasks at h
          split at h <;> simp_all
        · cases h

namespace Follows

variable {known : List Holder} {s : State} {rest : List Task}

/-- An object in the variable of another is the other. -/
lemma eq_of_find? {a b : ObjectId} {name : String} (h : Follows heap place n tasks known s)
    (ha : n.find? a = some name) (hb : n.find? b = some name) : a = b := by
  have hsame := List.inj_on_of_nodup_map h.distinct (h.covered a name ha) (h.covered b name hb) rfl
  simpa using hsame

/-- A script follows when an object has been looked up. -/
lemma look {id : ObjectId} (h : Follows heap place n (.look id :: rest) known s) :
    Follows heap place n rest known s :=
  { h with
    owned := fun receiver change hmem => h.owned receiver change (List.mem_cons_of_mem _ hmem) }

/-- A script follows when a fresh variable is given what there is to hold for a value. -/
lemma assign {item : Holder} {hint : Option TypeDesc} {cell : Cell}
    (h : Follows heap place n (.compile item hint :: rest) known s)
    (fresh : item.name ∉ known.map Holder.name) (hcell : Holds place item.value cell) :
    Follows heap place n rest (item :: known) (s.assign item.name cell) where
  created := h.created
  covered := h.covered.mono fun _ hmem => List.mem_cons_of_mem _ hmem
  distinct := List.nodup_cons.mpr ⟨fresh, h.distinct⟩
  held := by
    intro other hother
    rw [read_assign]
    rcases List.mem_cons.mp hother with rfl | hother
    · exact ⟨cell, hcell, by simp⟩
    · have hne : other.name ≠ item.name := fun heq => fresh (heq ▸ List.mem_map_of_mem hother)
      rw [if_neg hne]
      exact h.held other hother
  owned := fun receiver change hmem => h.owned receiver change (List.mem_cons_of_mem _ hmem)
  filling := h.filling

/-- A script follows when an object without a variable is created into a fresh one. -/
lemma create {name : String} {id : ObjectId} {hint : Option TypeDesc} {object : Object}
    (h : Follows heap place n (.compile ⟨name, .ref id⟩ hint :: rest) known s)
    (fresh : name ∉ known.map Holder.name) (found : heap.get? id = some object)
    (new : n.find? id = none) (hplace : place id = some n.entries.length)
    (hfilling : ∃ rebuilt,
      Fills place (initial object) (pending name (objectTasks heap object name)) rebuilt ∧
        Rebuilds heap place object rebuilt) :
    Follows heap place (n.insert id name) (objectTasks heap object name ++ rest)
      (⟨name, .ref id⟩ :: known) (s.create name (initial object)) where
  created := by simp [State.create, Names.insert, h.created]
  covered := h.covered.insert
  distinct := List.nodup_cons.mpr ⟨fresh, h.distinct⟩
  held := by
    intro other hother
    rw [read_create]
    rcases List.mem_cons.mp hother with rfl | hother
    · exact ⟨_, .object hplace, by simp [h.created]⟩
    · have hne : other.name ≠ name := fun heq => fresh (heq ▸ List.mem_map_of_mem hother)
      rw [if_neg hne]
      exact h.held other hother
  owned := by
    intro receiver change hmem
    rcases List.mem_append.mp hmem with hmem | hmem
    · exact ⟨id, by simp [Names.find?_insert, receiver_objectTasks hmem]⟩
    · obtain ⟨other, hother⟩ := h.owned receiver change (List.mem_cons_of_mem _ hmem)
      have hne : other ≠ id := by
        rintro rfl
        cases new.symm.trans hother
      exact ⟨other, by rwa [Names.find?_insert, if_neg hne]⟩
  filling := by
    intro other otherName hfind
    rw [Names.find?_insert] at hfind
    rw [Names.place_insert]
    split at hfind
    · rename_i hid
      cases hfind
      obtain ⟨rebuilt, fills, rebuilds⟩ := hfilling
      -- Its variable is fresh, so none of the tasks that were waiting stores in it.
      have alone : pending name rest = [] := by
        apply pending_eq_nil
        intro change hmem
        obtain ⟨owner, howner⟩ := h.owned name change (List.mem_cons_of_mem _ hmem)
        exact fresh (List.mem_map_of_mem (h.covered owner name howner))
      refine ⟨object, n.entries.length, initial object, rebuilt, hid ▸ found, if_pos hid, ?_, ?_,
        rebuilds⟩
      · simp [State.create, ← h.created]
      · rwa [pending_append, alone, List.append_nil]
    · rename_i hid
      obtain ⟨object', at', content, rebuilt, found', hat, hcontent, fills, rebuilds⟩ :=
        h.filling other otherName hfind
      -- The new tasks store only in the new variable, so nothing is added for another object.
      have apart : pending otherName (objectTasks heap object name) = [] := by
        apply pending_eq_nil
        intro change hmem
        exact fresh
          (receiver_objectTasks hmem ▸ List.mem_map_of_mem (h.covered other otherName hfind))
      refine ⟨object', at', content, rebuilt, found', (if_neg hid).trans hat, ?_, ?_, rebuilds⟩
      · exact (List.getElem?_append_left (List.getElem?_eq_some_iff.mp hcontent).1).trans hcontent
      · rwa [pending_append, apart, List.nil_append]

/-- A script follows when a store is made. -/
lemma store {receiver : String} {change : Store}
    (h : Follows heap place n (.store receiver change :: rest) known s)
    (hplace : ∀ id at', n.place id = some at' → place id = some at')
    (hitems : ∀ item ∈ change.items, item ∈ known) :
    ∃ s', step s (change.statement receiver) = .ok s' ∧ Follows heap place n rest known s' := by
  obtain ⟨id, hid⟩ := h.owned receiver change List.mem_cons_self
  obtain ⟨object, at', content, rebuilt, found, hat, hcontent, fills, rebuilds⟩ :=
    h.filling id receiver hid
  -- The store is the next one for its own object and is none for any other.
  have hpending : pending receiver (.store receiver change :: rest) =
      change :: pending receiver rest := by
    simp [pending]
  have apart {other otherName} (hfind : n.find? other = some otherName) (hne : other ≠ id) :
      pending otherName (.store receiver change :: rest) = pending otherName rest := by
    have hname : receiver ≠ otherName := by
      rintro rfl
      exact hne (h.eq_of_find? hfind hid)
    simp [pending, hname]
  have owned : ∀ receiver change, .store receiver change ∈ rest →
      ∃ id, n.find? id = some receiver :=
    fun receiver change hmem => h.owned receiver change (List.mem_cons_of_mem _ hmem)
  rw [hpending] at fills
  cases fills with
  | unread fills =>
    refine ⟨s, rfl, h.created, h.covered, h.distinct, h.held, owned, ?_⟩
    intro other otherName hfind
    by_cases hother : other = id
    · subst hother
      cases hid.symm.trans hfind
      exact ⟨object, at', content, rebuilt, found, hat, hcontent, fills, rebuilds⟩
    · rw [← apart hfind hother]
      exact h.filling other otherName hfind
  | @change _ next _ _ update _ makes hnext fills =>
    have hreceiver : s.read receiver = .ok (.object at') := by
      obtain ⟨cell, hcell, hread⟩ := h.held ⟨receiver, .ref id⟩ (h.covered id receiver hid)
      rwa [hcell.unique (.object (hplace id at' hat))] at hread
    refine ⟨_, step_statement makes (fun item hitem => h.held item (hitems item hitem)) hreceiver
      hcontent hnext, ?_⟩
    refine ⟨by simpa using h.created, h.covered, h.distinct, h.held, owned, ?_⟩
    intro other otherName hfind
    by_cases hother : other = id
    · subst hother
      cases hid.symm.trans hfind
      have hlt := (List.getElem?_eq_some_iff.mp hcontent).1
      exact ⟨object, at', next, rebuilt, found, hat, by simp [hlt], fills, rebuilds⟩
    · obtain ⟨object', at'', content', rebuilt', found', hat', hcontent', fills', rebuilds'⟩ :=
        h.filling other otherName hfind
      rw [apart hfind hother] at fills'
      have hne : at' ≠ at'' := by
        rintro rfl
        exact hother (Names.place_injective hat' hat)
      exact ⟨object', at'', content', rebuilt', found',
        hat', by rwa [List.getElem?_set_ne hne], fills',
        rebuilds'⟩

end Follows

/-- Where no variable is assigned twice, the first that is assigned is fresh. -/
lemma fresh_of_nodup {statement : Statement} {name : String} {names : List String}
    (hassigned : statement.assigned? = some name)
    (h : ((statement :: out).filterMap Statement.assigned? ++ names).Nodup) :
    name ∉ names ∧ (out.filterMap Statement.assigned? ++ name :: names).Nodup := by
  rw [List.filterMap_cons_some hassigned, List.cons_append] at h
  exact ⟨fun hmem => (List.nodup_cons.mp h).1 (List.mem_append_right _ hmem),
    List.nodup_middle.mpr h⟩

/-- A value that is compiled first is known to the tasks that follow. -/
lemma mem_known_or_compiled {first item : Holder} {hint : Option TypeDesc} {rest : List Task}
    {known : List Holder} (h : item ∈ known ∨ item ∈ compiled (.compile first hint :: rest)) :
    item ∈ first :: known ∨ item ∈ compiled rest := by
  rcases h with h | h
  · exact .inl (List.mem_cons_of_mem _ h)
  · rcases List.mem_cons.mp h with rfl | h
    · exact .inl List.mem_cons_self
    · exact .inr h

/-- Executing what a run emits succeeds and follows the run, if it assigns no variable twice and the
fields of every structured object have different names. -/
theorem Emits.follows {known : List Holder} {s : State} (run : Emits heap options n tasks out n')
    (hfields : ∀ id object, heap.get? id = some object → FieldsDistinct object)
    (hdistinct : n'.Distinct) (hsupplied : Supplied known tasks)
    (hfresh : (out.filterMap Statement.assigned? ++ known.map Holder.name).Nodup)
    (h : Follows heap n'.place n tasks known s) :
    ∃ s' known', Script.run s out = .ok s' ∧ Follows heap n'.place n' [] known' s' ∧
      ∀ item, item ∈ known ∨ item ∈ compiled tasks → item ∈ known' := by
  -- The places are those at the end of the run; they do not change on the way, so what variables
  -- hold stays right when further objects are created.
  induction run generalizing known s with
  | done => exact ⟨s, known, rfl, h, fun item hmem => hmem.elim id nofun⟩
  | look _ _ ih => exact ih hdistinct hsupplied hfresh h.look
  | @store n n' receiver change rest out next ih =>
    obtain ⟨_, hitems, hsupplied⟩ := hsupplied
    obtain ⟨s', hstep, h⟩ :=
      h.store (fun _ _ => hdistinct.place_of_suffix next.entries_suffix) hitems
    rw [List.filterMap_cons_none (assigned?_statement receiver change)] at hfresh
    obtain ⟨s'', known', hrun, h⟩ := ih hdistinct hsupplied hfresh h
    exact ⟨s'', known', by rwa [Script.run, hstep], h⟩
  | @leaf n n' item hint statement rest out plain next ih =>
    obtain ⟨hnew, hfresh⟩ := fresh_of_nodup (assigned?_leaf? plain) hfresh
    obtain ⟨cell, hcell⟩ := (Emits.leaf plain next).held hdistinct item List.mem_cons_self
    obtain ⟨s', known', hrun, h, hknown⟩ := ih hdistinct hsupplied hfresh (h.assign hnew hcell)
    exact ⟨s', known', by rwa [Script.run, step_leaf plain hcell], h,
      fun other hother => hknown other (mem_known_or_compiled hother)⟩
  | @copy n n' name id hint object previous rest out found has next ih =>
    obtain ⟨hnew, hfresh⟩ := fresh_of_nodup rfl hfresh
    obtain ⟨cell, hcell, hread⟩ := h.held ⟨previous, .ref id⟩ (h.covered id previous has)
    have hstep : step s (.copy object.runtimeType name previous) = .ok (s.assign name cell) := by
      simp only [step, hread]
      rfl
    obtain ⟨s', known', hrun, h, hknown⟩ := ih hdistinct hsupplied hfresh (h.assign hnew hcell)
    exact ⟨s', known', by rwa [Script.run, hstep], h,
      fun other hother => hknown other (mem_known_or_compiled hother)⟩
  | @create n n' name id hint object rest out found new next ih =>
    obtain ⟨hnew, hfresh⟩ :=
      fresh_of_nodup (creates_construction options object name).assigned? hfresh
    have hplace : n'.place id = some n.entries.length := by
      apply hdistinct.place_of_suffix next.entries_suffix
      simp [Names.place_insert]
    -- Whatever the object keeps is compiled by its tasks, and so is placed in the end.
    have hheld : ∀ value ∈ keptValues heap object, ∃ cell, Holds n'.place value cell := by
      intro value hvalue
      apply exists_holds
      rintro other rfl
      obtain ⟨item, hitem, href⟩ := exists_compiled_ref_iff.mpr hvalue
      rw [← href]
      exact next.held hdistinct item (compiled_append _ _ ▸ List.mem_append_left _ hitem)
    have hsupplied : Supplied (⟨name, .ref id⟩ :: known) (objectTasks heap object name ++ rest) :=
      (supplied_objectTasks object List.mem_cons_self).append_self hsupplied
    obtain ⟨s', known', hrun, h, hknown⟩ := ih hdistinct hsupplied hfresh
      (h.create hnew found new hplace (fills_objectTasks name (hfields id object found) hheld))
    refine ⟨s',
      known', by rwa [Script.run, step_construction], h, fun other hother => hknown other ?_⟩
    rw [compiled_append, List.mem_append]
    exact (mem_known_or_compiled hother).imp_right .inr

/-- Created objects are the objects that some values lead to, up to isomorphism, and the contents of
variables are the values. -/
structure Isomorphism (heap : Heap) (values : List Value) (cells : List Cell)
    (objects : List Created) (place : ObjectId → Option Nat) : Prop where
  /-- At each position there is what there is to hold for the value at that position. -/
  positions : List.Forall₂ (Holds place) values cells
  /-- The objects that are met have a place, and no other objects have one. -/
  met : ∀ id, (place id).isSome ↔ Met heap values id
  /-- No two objects have one place. -/
  injective : ∀ a b at', place a = some at' → place b = some at' → a = b
  /-- Every created object is at the place of an object. -/
  surjective : ∀ at' < objects.length, ∃ id, place id = some at'
  /-- At the place of an object there is the object rebuilt. -/
  rebuilt : ∀ id at', place id = some at' → ∃ object content,
    heap.get? id = some object ∧ objects[at']? = some content ∧ Rebuilds heap place object content

/-- A rebuilt object holds something for every value that it keeps. -/
lemma Rebuilds.exists_holds {object : Object} {content : Created} {value : Value}
    (h : Rebuilds heap place object content) (hvalue : value ∈ keptValues heap object) :
    ∃ cell, Holds place value cell := by
  cases h with
  | array hcells =>
    obtain ⟨cell, _, hcell⟩ := exists_of_forall₂ hcells hvalue
    exact ⟨cell, hcell⟩
  | collection hcells =>
    obtain ⟨cell, _, hcell⟩ := exists_of_forall₂ hcells hvalue
    exact ⟨cell, hcell⟩
  | properties => cases hvalue
  | map hcells =>
    obtain ⟨entry, hentry, hvalue⟩ := List.mem_flatMap.mp hvalue
    obtain ⟨cell, _, hkey, hheld⟩ := exists_of_forall₂ hcells hentry
    rcases List.mem_pair.mp hvalue with rfl | rfl
    · exact ⟨cell.1, hkey⟩
    · exact ⟨cell.2, hheld⟩
  | struct hcells =>
    obtain ⟨kept, hkept, rfl⟩ := List.mem_map.mp hvalue
    obtain ⟨cell, _, _, hcell⟩ := exists_of_forall₂ hcells hkept
    exact ⟨cell.2, hcell⟩

/-- A script that follows a run to its end has rebuilt what was compiled. -/
theorem Follows.isomorphism {values : List Value} {cells : List Cell} {known : List Holder}
    {s : State} (h : Follows heap n.place n [] known s) (hdistinct : n.Distinct)
    (hmet : ∀ id, (n.find? id).isSome → Met heap values id)
    (hcells : List.Forall₂ (Holds n.place) values cells) :
    Isomorphism heap values cells s.objects n.place := by
  have rebuilt : ∀ id at', n.place id = some at' → ∃ object content, heap.get? id = some object ∧
      s.objects[at']? = some content ∧ Rebuilds heap n.place object content := by
    intro id at' hat
    have hfind : (n.find? id).isSome := by
      rw [← Names.isSome_place, hat]
      rfl
    obtain ⟨name, hname⟩ := Option.isSome_iff_exists.mp hfind
    obtain ⟨object, _, content, rebuilt, found, hat', hcontent, fills, rebuilds⟩ :=
      h.filling id name hname
    cases hat.symm.trans hat'
    -- Nothing is pending, so the object is as its last store left it.
    cases fills
    exact ⟨object, content, found, hcontent, rebuilds⟩
  refine ⟨hcells, fun id => ⟨fun hsome => hmet id (Names.isSome_place n id ▸ hsome), fun hid => ?_⟩,
    fun a b at' => Names.place_injective, ?_, rebuilt⟩
  · induction hid with
    | root hroot =>
      obtain ⟨cell, _, hcell⟩ := exists_of_forall₂ hcells hroot
      cases hcell with
      | object hplace => exact Option.isSome_of_eq_some hplace
    | kept _ found hkept ih =>
      obtain ⟨at', hat⟩ := Option.isSome_iff_exists.mp ih
      obtain ⟨object, content, found', _, rebuilds⟩ := rebuilt _ at' hat
      cases found.symm.trans found'
      obtain ⟨cell, hcell⟩ := rebuilds.exists_holds hkept
      cases hcell with
      | object hplace => exact Option.isSome_of_eq_some hplace
  · intro at' hlt
    exact hdistinct.exists_place (h.created ▸ hlt)

/-- A script starts to follow a run at the empty state, if the tasks only compile. -/
lemma follows_empty (hplain : ∀ receiver change, .store receiver change ∉ tasks) :
    Follows heap place .empty tasks [] .empty where
  created := rfl
  covered := Names.covered_empty []
  distinct := List.nodup_nil
  held := nofun
  owned := fun receiver change hmem => absurd hmem (hplain receiver change)
  filling := nofun

end

end CallReplay.Script
