import CallReplay.Proofs.Lists
import CallReplay.Proofs.Script.Execution
import CallReplay.Proofs.TextMap

/-!
# Filling of created objects

When a script has run, each object that it has created corresponds to an object of the heap. The
correspondence is given by places: the place of an object is the number of the created object for
it. `Holds` and `Rebuilds` say what it means for a value and for an object. The stores among an
object's tasks lead from the object as it was created to the object rebuilt (`fills_objectTasks`),
so what is left of them says what a partly filled object still lacks.
-/

namespace CallReplay.Script

/-- What a variable holds for a value, if objects have places. -/
inductive Holds (place : ObjectId → Option Nat) : Value → Cell → Prop where
  | null : Holds place .null .null
  | scalar {value} : Holds place (.scalar value) (.scalar value)
  | classOf {type} : Holds place (.classOf type) (.classOf type)
  | object {id at'} : place id = some at' → Holds place (.ref id) (.object at')

/-- The fields that are set when a structured object is rebuilt, with their values. -/
def keptFields (heap : Heap) (fields : List Field) : List (String × Value) :=
  fields.filterMap fun field =>
    match field.slot with
    | .value value => if isRebuilt heap field value then some (field.name, value) else none
    | .inaccessible => none

/-- The values in an object that it holds when it is rebuilt. -/
def keptValues (heap : Heap) : Object → List Value
  | .struct s => (keptFields heap s.fields).map Prod.snd
  | object => object.values

/-- A created object is an object of the heap rebuilt: it has the same class or component type and
the same elements, entries or properties in the same order, and exactly the fields that are kept. -/
inductive Rebuilds (heap : Heap) (place : ObjectId → Option Nat) : Object → Created → Prop where
  | array {component elements cells} :
    List.Forall₂ (Holds place) elements cells →
    Rebuilds heap place (.array component elements) (.array component cells)
  | collection {className elements cells} :
    List.Forall₂ (Holds place) elements cells →
    Rebuilds heap place (.collection className elements)
      (.instanceOf { className := className, elements := cells })
  | properties {entries} :
    Rebuilds heap place (.properties entries)
      (.instanceOf { className := propertiesClass, properties := entries })
  | map {className entries cells} :
    List.Forall₂ (fun entry cell => Holds place entry.1 cell.1 ∧ Holds place entry.2 cell.2)
      entries cells →
    Rebuilds heap place (.map className entries)
      (.instanceOf { className := className, entries := cells })
  | struct {s cells} :
    List.Forall₂ (fun field cell => cell.1 = field.1 ∧ Holds place field.2 cell.2)
      (keptFields heap s.fields) cells →
    Rebuilds heap place (.struct s) (.instanceOf { className := s.className, fields := cells })

/-- The change that a store makes. -/
inductive Makes (place : ObjectId → Option Nat) : Store → Update → Prop where
  | element {index item cell} :
    Holds place item.value cell →
    Makes place (.element index item) (.element index cell)
  | add {item cell} :
    Holds place item.value cell →
    Makes place (.add item) (.add cell)
  | put {key value keyCell valueCell} :
    Holds place key.value keyCell →
    Holds place value.value valueCell →
    Makes place (.put key value) (.put keyCell valueCell)
  | property {key value} :
    Makes place (.property key value) (.property key value)
  | field {name item cell} :
    Holds place item.value cell →
    Makes place (.field name item) (.field name cell)

/-- Stores lead from one object to another. -/
inductive Fills (place : ObjectId → Option Nat) : Created → List Store → Created → Prop where
  | done {c} : Fills place c [] c
  | change {c d e store update rest} :
    Makes place store update →
    c.update update = some d →
    Fills place d rest e →
    Fills place c (store :: rest) e
  | unread {c d name rest} :
    Fills place c rest d →
    Fills place c (.unread name :: rest) d

/-- The object that the statement for an object creates. -/
def initial : Object → Created
  | .array component elements =>
    match inlineElements? component elements with
    | some items => .array component (items.map Cell.ofElement)
    | none => .array component (List.replicate elements.length .null)
  | .collection className _ | .map className _ => .instanceOf { className := className }
  | .properties _ => .instanceOf { className := propertiesClass }
  | .struct s => .instanceOf { className := s.className }

/-- The stores among tasks that change the object in a variable. -/
def pending (receiver : String) (tasks : List Task) : List Store :=
  tasks.filterMap fun
    | .store other change => if other = receiver then some change else none
    | _ => none

/-- Whether the fields of a structured object have different names. -/
def FieldsDistinct : Object → Prop
  | .struct s => (s.fields.map Field.name).Nodup
  | _ => True

section

variable {heap : Heap} {place : ObjectId → Option Nat}

/-- What is held for a value is determined by the value. -/
lemma Holds.unique {value : Value} {a b : Cell} (ha : Holds place value a)
    (hb : Holds place value b) : a = b := by
  cases ha with
  | object hplace =>
    cases hb with
    | object hplace' => rw [Option.some.inj (hplace.symm.trans hplace')]
  | _ => cases hb; rfl

/-- Stores that lead to an object and on to another lead to the other. -/
lemma Fills.append {c d e : Created} {a b : List Store} (ha : Fills place c a d)
    (hb : Fills place d b e) : Fills place c (a ++ b) e := by
  induction ha with
  | done => exact hb
  | change makes updated _ ih => exact .change makes updated (ih hb)
  | unread _ ih => exact .unread (ih hb)

/-- Elements are stored in an array from a position on. -/
lemma fills_elements {component : TypeDesc} {items : List Holder} {cells before : List Cell}
    (h : List.Forall₂ (Holds place) (items.map Holder.value) cells) :
    Fills place (.array component (before ++ List.replicate items.length .null))
      ((items.zipIdx before.length).map fun (item, index) => .element index item)
      (.array component (before ++ cells)) := by
  induction items generalizing cells before with
  | nil =>
    cases h
    exact .done
  | cons item rest ih =>
    obtain ⟨cell, others, hcell, hothers, rfl⟩ := List.forall₂_cons_left_iff.mp h
    have stored := @ih others (before ++ [cell]) hothers
    rw [List.length_append, List.append_assoc, List.append_assoc] at stored
    refine .change (.element hcell) ?_ stored
    simp [Created.update, List.replicate_succ]

/-- Elements that are added one after another fill a collection. -/
lemma fills_add {x : Instance} {items : List Holder} {cells : List Cell}
    (h : List.Forall₂ (Holds place) (items.map Holder.value) cells) :
    Fills place (.instanceOf x) (items.map .add)
      (.instanceOf { x with elements := x.elements ++ cells }) := by
  induction items generalizing cells x with
  | nil =>
    cases h
    simpa using Fills.done
  | cons item rest ih =>
    obtain ⟨cell, others, hcell, hothers, rfl⟩ := List.forall₂_cons_left_iff.mp h
    have added := ih hothers (x := { x with elements := x.elements ++ [cell] })
    refine .change (.add hcell) rfl ?_
    simpa using added

/-- Entries that are put one after another fill a map. -/
lemma fills_put {x : Instance} {items : List (Holder × Holder)} {cells : List (Cell × Cell)}
    (h : List.Forall₂
      (fun item cell => Holds place item.1.value cell.1 ∧ Holds place item.2.value cell.2)
      items cells) :
    Fills place (.instanceOf x) (items.map fun (key, value) => .put key value)
      (.instanceOf { x with entries := x.entries ++ cells }) := by
  induction h generalizing x with
  | nil => simpa using Fills.done
  | @cons item cell rest others hcell _ ih =>
    have put := ih (x := { x with entries := x.entries ++ [cell] })
    refine .change (.put hcell.1 hcell.2) rfl ?_
    simpa using put

/-- Properties are set one after another. -/
lemma fills_properties {x : Instance} {entries : List (String × String)} :
    Fills place (.instanceOf x) (entries.map fun (key, value) => .property key value)
      (.instanceOf { x with
        properties := entries.foldl (fun m e => m.insert e.1 e.2) x.properties }) := by
  induction entries generalizing x with
  | nil => exact .done
  | cons entry rest ih => exact .change .property rfl ih

/-- A field that was not set before is set at the end. -/
lemma setCell_of_notMem {name : String} {content : Cell} {cells : List (String × Cell)}
    (h : name ∉ cells.map Prod.fst) : setCell name content cells = cells ++ [(name, content)] := by
  induction cells with
  | nil => rfl
  | cons cell rest ih =>
    simp only [List.map_cons, List.mem_cons, not_or] at h
    rw [setCell, if_neg (Ne.symm h.1), ih h.2, List.cons_append]

/-- Elements of a literal correspond to the values that they are written for. -/
lemma forall₂_inlineElements? {component : TypeDesc} {elements : List Value}
    {items : List (Option Scalar)} (h : inlineElements? component elements = some items) :
    List.Forall₂ (Holds place) elements (items.map Cell.ofElement) := by
  unfold inlineElements? at h
  split at h
  · induction elements generalizing items with
    | nil =>
      cases h
      exact .nil
    | cons element rest ih =>
      simp only [List.mapM_cons, bind, Option.bind_eq_some_iff, pure, Option.some.injEq] at h
      obtain ⟨first, hfirst, others, hothers, rfl⟩ := h
      refine .cons ?_ (ih hothers)
      cases element with
      | null =>
        cases hfirst
        exact .null
      | scalar s =>
        simp only [inlineElements?.inlineElement?, Option.ite_none_right_eq_some] at hfirst
        cases hfirst.2
        exact .scalar
      | _ => cases hfirst
  · cases h

/-- What is pending of tasks one behind the other is what is pending of each. -/
lemma pending_append (receiver : String) (a b : List Task) :
    pending receiver (a ++ b) = pending receiver a ++ pending receiver b := by
  simp [pending]

/-- All stores into an object are pending for it. -/
lemma pending_stores (receiver : String) (stores : List Store) :
    pending receiver (stores.map (.store receiver)) = stores := by
  simp [pending, List.filterMap_map]

/-- Where no store is for a variable, none is pending for it. -/
lemma pending_eq_nil {receiver : String} {tasks : List Task}
    (h : ∀ change, .store receiver change ∉ tasks) : pending receiver tasks = [] := by
  simp only [pending, List.filterMap_eq_nil_iff]
  intro task htask
  cases task with
  | store other change =>
    by_cases hother : other = receiver
    · exact absurd (hother ▸ htask) (h change)
    · simp [hother]
  | _ => rfl

/-- The variables for elements are for the elements, in order. -/
lemma map_value_elementItems (heap : Heap) (container : String) (start : Nat)
    (elements : List Value) :
    (elementItems heap container start elements).map Holder.value = elements := by
  simp [elementItems, Function.comp_def, List.zipIdx_map_fst]

/-- The items of a map hold its entries. -/
lemma map_value_entryItems (map : String) (start : Nat) (entries : List (Value × Value)) :
    (entryItems map start entries).map (fun item => (item.1.value, item.2.value)) = entries := by
  simp [entryItems, Function.comp_def, List.zipIdx_map_fst]

/-- The fields that are kept are told one by one. -/
lemma keptFields_cons (field : Field) (rest : List Field) :
    keptFields heap (field :: rest) = keptFields heap [field] ++ keptFields heap rest := by
  simp only [keptFields, ← List.filterMap_append, List.singleton_append]

/-- The tasks of a field are look-ups and then those that set it, if it is rebuilt. -/
lemma fieldTasks_eq (heap : Heap) (object : String) (field : Field) :
    ∃ ids : List ObjectId, fieldTasks heap object field = ids.map .look ++
      match field.slot with
      | .inaccessible =>
        if field.modifiers.isPersistent then [.store object (.unread field.name)] else []
      | .value value => if isRebuilt heap field value then storeTasks object field value
          else [] := by
  unfold fieldTasks
  cases hpersistent : field.modifiers.isPersistent with
  | false =>
    refine ⟨[], ?_⟩
    cases field.slot with
    | inaccessible => rfl
    | value value => simp [isRebuilt, hpersistent]
  | true =>
    cases field.slot with
    | inaccessible => exact ⟨[], rfl⟩
    | value value =>
      simp only [Bool.not_true, Bool.false_eq_true, if_false, List.append_cancel_right_eq]
      split
      · exact ⟨[], rfl⟩
      · cases value with
        | ref id => exact ⟨[id], rfl⟩
        | _ => exact ⟨[], rfl⟩

/-- The store of a field comes out if the field is rebuilt, or noted as unread. -/
lemma pending_fieldTasks (object : String) (field : Field) :
    pending object (fieldTasks heap object field) =
      match field.slot with
      | .inaccessible => if field.modifiers.isPersistent then [.unread field.name] else []
      | .value value =>
        if isRebuilt heap field value then [.field field.name ⟨fieldName object field.name, value⟩]
        else [] := by
  obtain ⟨ids, htasks⟩ := fieldTasks_eq heap object field
  have looked : pending object (ids.map .look) = [] := pending_eq_nil (by simp)
  rw [htasks, pending_append, looked, List.nil_append]
  cases field.slot with
  | inaccessible => cases field.modifiers.isPersistent <;> simp [pending]
  | value value =>
    simp only
    split
    · cases hnull : value.isNull <;> simp [pending, storeTasks, hnull]
    · rfl

/-- A field is set by its stores if it is kept, and else left alone. -/
lemma fills_field {x : Instance} {object : String} {field : Field}
    (hnew : field.name ∉ x.fields.map Prod.fst)
    (hheld : ∀ kept ∈ keptFields heap [field], ∃ cell, Holds place kept.2 cell) :
    ∃ cells : List (String × Cell),
      List.Forall₂ (fun kept cell => cell.1 = kept.1 ∧ Holds place kept.2 cell.2)
        (keptFields heap [field]) cells ∧
      (∀ cell ∈ cells, cell.1 = field.name) ∧
      Fills place (.instanceOf x) (pending object (fieldTasks heap object field))
        (.instanceOf { x with fields := x.fields ++ cells }) := by
  have alone :
      Fills place (.instanceOf x) [] (.instanceOf { x with fields := x.fields ++ [] }) := by
    simpa using Fills.done
  rw [pending_fieldTasks]
  cases hslot : field.slot with
  | inaccessible =>
    refine ⟨[], by simp [keptFields, hslot], nofun, ?_⟩
    simp only
    split
    · exact .unread alone
    · exact alone
  | value value =>
    cases hrebuilt : isRebuilt heap field value with
    | false =>
        exact ⟨[], by simp [keptFields, hslot, hrebuilt], nofun, by simpa [hrebuilt] using alone⟩
    | true =>
      have hkept : keptFields heap [field] = [(field.name, value)] := by
        simp [keptFields, hslot, hrebuilt]
      obtain ⟨cell, hcell⟩ := hheld (field.name, value) (by simp [hkept])
      refine ⟨[(field.name, cell)], by simpa [hkept] using hcell, by simp, ?_⟩
      simp only [hrebuilt, if_true]
      have makes : Makes place (.field field.name ⟨fieldName object field.name, value⟩)
          (.field field.name cell) := .field hcell
      refine .change makes ?_ .done
      simp only [Created.update, setCell_of_notMem hnew]

/-- Fields of different names are set by their stores. -/
lemma fills_fields {x : Instance} {object : String} {fields : List Field}
    (hdistinct : (fields.map Field.name).Nodup)
    (hnew : ∀ field ∈ fields, field.name ∉ x.fields.map Prod.fst)
    (hheld : ∀ kept ∈ keptFields heap fields, ∃ cell, Holds place kept.2 cell) :
    ∃ cells : List (String × Cell),
      List.Forall₂ (fun kept cell => cell.1 = kept.1 ∧ Holds place kept.2 cell.2)
        (keptFields heap fields) cells ∧
      Fills place (.instanceOf x) (pending object (fields.flatMap (fieldTasks heap object)))
        (.instanceOf { x with fields := x.fields ++ cells }) := by
  induction fields generalizing x with
  | nil => exact ⟨[], .nil, by simpa [pending] using Fills.done⟩
  | cons field rest ih =>
    rw [keptFields_cons] at hheld ⊢
    rw [List.map_cons, List.nodup_cons] at hdistinct
    obtain ⟨first, hfirst, hname, filled⟩ := fills_field (hnew field List.mem_cons_self)
      fun kept hkept => hheld kept (List.mem_append_left _ hkept)
    -- The fields that are left are none of those that have been set.
    have hnew' : ∀ other ∈ rest, other.name ∉ (x.fields ++ first).map Prod.fst := by
      intro other hother hmem
      rw [List.map_append, List.mem_append] at hmem
      rcases hmem with hbefore | hnow
      · exact hnew other (List.mem_cons_of_mem _ hother) hbefore
      · obtain ⟨cell, hcell, hcellName⟩ := List.mem_map.mp hnow
        apply hdistinct.1
        rw [← hname cell hcell, hcellName]
        exact List.mem_map_of_mem hother
    obtain ⟨others, hothers, filled'⟩ :=
      ih (x := { x with fields := x.fields ++ first }) hdistinct.2
        hnew' fun kept hkept => hheld kept (List.mem_append_right _ hkept)
    refine ⟨first ++ others, List.rel_append hfirst hothers, ?_⟩
    rw [List.flatMap_cons, pending_append, ← List.append_assoc]
    exact filled.append filled'

/-- The stores of an object lead from what its statement creates to the object rebuilt. -/
theorem fills_objectTasks {object : Object} (name : String) (hfields : FieldsDistinct object)
    (hheld : ∀ value ∈ keptValues heap object, ∃ cell, Holds place value cell) :
    ∃ rebuilt, Fills place (initial object) (pending name (objectTasks heap object name)) rebuilt ∧
      Rebuilds heap place object rebuilt := by
  -- Only the stores count here; what is looked up and compiled before them is left out.
  have named (hint : Option TypeDesc) (items : List Holder) :
      pending name (items.flatMap (namedTasks hint)) = [] :=
      pending_eq_nil fun _ => store_notMem_named
  cases object with
  | array component elements =>
    cases hinline : inlineElements? component elements with
    | some items =>
      simp only [initial, objectTasks, hinline]
      exact ⟨_, .done, .array (forall₂_inlineElements? hinline)⟩
    | none =>
      obtain ⟨cells, hcells⟩ := exists_forall₂ hheld
      refine ⟨_, ?_, .array hcells⟩
      simp only [initial, objectTasks, hinline, pending_append, named, pending_stores]
      have hcells' : List.Forall₂ (Holds place)
          ((elementItems heap name 0 elements).map Holder.value) cells := by
        rwa [map_value_elementItems]
      have filled := @fills_elements place component _ _ [] hcells'
      simpa [elementItems] using filled
  | collection className elements =>
    obtain ⟨cells, hcells⟩ := exists_forall₂ hheld
    refine ⟨_, ?_, .collection hcells⟩
    simp only [initial, objectTasks, pending_append, named, pending_stores]
    apply fills_add
    rwa [map_value_elementItems]
  | properties entries =>
    refine ⟨_, ?_, .properties⟩
    simp only [initial, objectTasks, pending_stores]
    have filled := @fills_properties place { className := propertiesClass } entries.entries
    have hentries : entries.entries.foldl (fun m e => m.insert e.1 e.2) .empty = entries :=
      TextMap.ofList_entries entries
    simpa [hentries] using filled
  | map className entries =>
    have hentries : ∀ entry ∈ entries, ∃ cell : Cell × Cell,
        Holds place entry.1 cell.1 ∧ Holds place entry.2 cell.2 := by
      intro entry hentry
      obtain ⟨key, hkey⟩ := hheld entry.1 (List.mem_flatMap.mpr ⟨entry, hentry, by simp⟩)
      obtain ⟨value, hvalue⟩ := hheld entry.2 (List.mem_flatMap.mpr ⟨entry, hentry, by simp⟩)
      exact ⟨(key, value), hkey, hvalue⟩
    obtain ⟨cells, hcells⟩ := exists_forall₂ hentries
    refine ⟨_, ?_, .map hcells⟩
    have operands : pending name ((entryItems name 0 entries).flatMap
        fun (key, value) => operandTasks key ++ operandTasks value) = [] :=
      pending_eq_nil fun _ => store_notMem_operands
    simp only [initial, objectTasks, pending_append, operands, pending_stores]
    have values := map_value_entryItems name 0 entries
    rw [← values, List.forall₂_map_left_iff] at hcells
    exact fills_put hcells
  | struct s =>
    obtain ⟨cells, hcells, filled⟩ := @fills_fields heap place { className := s.className } name
      s.fields hfields (by simp) fun kept hkept => hheld kept.2 (List.mem_map_of_mem hkept)
    exact ⟨_, filled, .struct hcells⟩

end

end CallReplay.Script
