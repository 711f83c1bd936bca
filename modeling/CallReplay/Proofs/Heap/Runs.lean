import CallReplay.Proofs.Heap.Operations

/-!
# Runs of operations on heaps

Each operation keeps a heap closed if what it puts in is admitted by the heap as it is once the
operation is done (`Operation.closed_after`), and it keeps every object that it does not name
(`Operation.get?_after`). So whatever is done to the empty heap, every state is a valid graph, and
an id denotes its object from the allocation on (`made_keepsGraphs`).
-/

namespace CallReplay.Heap

namespace Operation

/-- The object that an operation adds. -/
def added? : Operation → Option Object
  | alloc object => some object
  | allocRef object => some object
  | allocStruct content => some (.struct content)
  | change .. => none

/-- How the id of an added object is told. -/
def tell (id : ObjectId) : Operation → Answer
  | allocRef _ => .reference (.ref id)
  | _ => .allocated id

/-- The values that an operation puts in. -/
def values : Operation → List Value
  | alloc object => object.values
  | allocRef object => object.values
  | allocStruct content => (Object.struct content).values
  | change _ (.setField _ value) => [value]
  | change _ (.push value) => [value]
  | change _ (.replace object) => object.values
  | change _ (.hideField _) => []

end Operation

/-- What an operation makes of the object that an id names: a change of that object which succeeds
changes it, and nothing else does. -/
def Operation.onObject (id : ObjectId) (object : Object) : Operation → Object
  | change other c =>
    if other = id then
      match c.effect id object with
      | .ok (_, changed) => changed
      | .error _ => object
    else object
  | _ => object

/-! ## One step -/

section

variable {h : Heap} {id : ObjectId} {object changed : Object} {c : Change} {op : Operation}
  {a : Answer}

/-- An operation keeps every object, apart from what it changes of its own. -/
theorem Operation.get?_after (found : h.get? id = some object) (op : Operation) :
    (op.after h).get? id = some (op.onObject id object) := by
  have kept : ∀ other : Object, (h.alloc other).2.get? id = some object := by
    intro other
    have inside : id.index.toNat < h.objects.size := (Array.getElem?_eq_some_iff.mp found).1
    exact (Array.getElem?_push_lt inside).trans
      ((Array.getElem?_eq_getElem inside).symm.trans found)
  cases op with
  | alloc other => exact kept other
  | allocRef other => exact kept other
  | allocStruct content => exact kept (.struct content)
  | change other c =>
    rw [Operation.onObject]
    split
    · next heq =>
      subst heq
      rw [after_change found]
      cases c.effect other object with
      | ok result => exact get?_put found result.2
      | error _ => exact found
    · next hne =>
      cases found' : h.get? other with
      | none =>
        rw [after_eq, atOnce_change_of_none found']
        exact found
      | some object' =>
        rw [after_change found']
        cases c.effect other object' with
        | ok result => exact (get?_put_of_ne (Ne.symm hne) result.2).trans found
        | error _ => exact found

/-- A heap gets larger by what an operation adds. -/
lemma Operation.size_after (h : Heap) (op : Operation) :
    (op.after h).size = h.size + if op.added?.isSome then 1 else 0 := by
  cases op with
  | change id c =>
    cases found : h.get? id with
    | none =>
      rw [after_eq, atOnce_change_of_none found]
      rfl
    | some object =>
      rw [after_change found]
      cases c.effect id object with
      | ok result => exact size_put
      | error _ => rfl
  | alloc other => exact Array.size_push other
  | allocRef other => exact Array.size_push other
  | allocStruct content => exact Array.size_push _

/-- An object that is added gets the number of those that are there as its id. -/
lemma Operation.added (hadded : op.added? = some object) (room : h.size < 2 ^ 32) :
    ∃ id : ObjectId, id.index.toNat = h.size ∧ op.answer h = .ok (op.tell id) ∧
    (op.after h).get? id = some object := by
  have number : (UInt32.ofNat h.size).toNat = h.size := by
    rw [UInt32.toNat_ofNat', Nat.mod_eq_of_lt room]
  have there : ∀ other : Object, (h.alloc other).2.get? (h.alloc other).1 = some other := by
    intro other
    change (h.objects.push other)[(UInt32.ofNat h.size).toNat]? = some other
    rw [number]
    exact Array.getElem?_push_size
  cases op with
  | alloc other =>
    cases hadded
    exact ⟨_, number, rfl, there _⟩
  | allocRef other =>
    cases hadded
    exact ⟨_, number, rfl, there _⟩
  | allocStruct content =>
    cases hadded
    exact ⟨_, number, rfl, there _⟩
  | change => cases hadded

/-- A value may stand in a heap: a reference leads to an object, and a character is one of
the basic plane. -/
def Admits (h : Heap) : Value → Prop
  | .ref id => id.index.toNat < h.size
  | .scalar (.char c) => c.toNat < 0x10000
  | _ => True

/-- A value is sound if the heap admits it. -/
lemma sound_iff_admits {value : Value} : h.Sound value ↔ h.Admits value := by
  cases value with
  | ref id =>
    rw [Sound, checkValue]
    split
    · next inside => exact iff_of_true rfl inside
    · next outside =>
      refine iff_of_false (fun failed => ?_) outside
      cases failed
  | scalar scalar =>
    cases scalar with
    | char c => rw [sound_char_iff, Text.isSingleUnit, decide_eq_true_iff, Admits]
    | _ => exact iff_of_true rfl trivial
  | _ => exact iff_of_true rfl trivial

/-- After a field was set, an object holds what it held before and what was put in. -/
lemma mem_values_of_setsFirst {s : Struct} {name : String} {slot : Slot} {fields : List Field}
    {value : Value} (sets : SetsFirst name slot s.fields fields)
    (hvalue : value ∈ (Object.struct { s with fields := fields }).values) :
    value ∈ (Object.struct s).values ∨ slot = .value value := by
  obtain ⟨before, f, rest, hfields, -, -, rfl⟩ := sets
  obtain ⟨g, hg, hslot⟩ := List.mem_filterMap.mp hvalue
  have old : ∀ g ∈ s.fields, g.slot.value? = some value → value ∈ (Object.struct s).values :=
    fun g hg hslot => List.mem_filterMap.mpr ⟨g, hg, hslot⟩
  rw [hfields] at old
  rcases List.mem_append.mp hg with hg | hg
  · exact .inl (old g (List.mem_append_left _ hg) hslot)
  · rcases List.mem_cons.mp hg with rfl | hg
    · cases slot with
      | value content => exact .inr (congrArg Slot.value (Option.some.inj hslot))
      | inaccessible => cases hslot
    · exact .inl (old g (List.mem_append_right _ (List.mem_cons_of_mem _ hg)) hslot)

/-- A value that stands in an object after a change stood there before, or was put in. -/
lemma mem_values_of_effect (made : c.effect id object = .ok (a, changed)) {value : Value}
    (hvalue : value ∈ changed.values) :
    value ∈ object.values ∨ value ∈ (Operation.change id c).values := by
  cases c with
  | setField name content =>
    obtain ⟨s, fields, rfl, rfl, sets⟩ := of_effect_setField made
    rcases mem_values_of_setsFirst sets hvalue with old | new
    · exact .inl old
    · cases new
      exact .inr List.mem_cons_self
  | push content =>
    cases object with
    | array component elements =>
      cases made
      exact List.mem_append.mp hvalue
    | collection className elements =>
      cases made
      exact List.mem_append.mp hvalue
    | _ => cases made
  | replace other =>
    cases made
    exact .inr hvalue
  | hideField name =>
    obtain rfl | ⟨s, fields, rfl, rfl, sets⟩ := of_effect_hideField made
    · exact .inl hvalue
    · rcases mem_values_of_setsFirst sets hvalue with old | new
      · exact .inl old
      · cases new

/-- What is sound stays sound in a heap that is not smaller. -/
lemma Sound.mono {h' : Heap} {value : Value} (sound : h.Sound value) (larger : h.size ≤ h'.size) :
    h'.Sound value := by
  rw [sound_iff_admits] at sound ⊢
  cases value with
  | ref id => exact Nat.lt_of_lt_of_le sound larger
  | scalar scalar => cases scalar <;> exact sound
  | _ => exact sound

/-- An operation that puts in what the heap admits in the end keeps the heap closed. -/
theorem Operation.closed_after (closed : h.Closed) (op : Operation)
    (admitted : ∀ a, op.answer h = .ok a → ∀ value ∈ op.values, (op.after h).Admits value) :
    (op.after h).Closed := by
  have larger : h.size ≤ (op.after h).size := by
    rw [op.size_after]
    exact Nat.le_add_right _ _
  have old : ∀ object ∈ h.objects, ∀ value ∈ object.values, (op.after h).Sound value :=
    fun object hobject value hvalue => (closed object hobject value hvalue).mono larger
  have pushed : ∀ added : Object, (op.after h).objects = h.objects.push added →
      (∀ value ∈ added.values, (op.after h).Admits value) → (op.after h).Closed := by
    intro added hobjects fit object hobject value hvalue
    rw [hobjects] at hobject
    rcases Array.mem_push.mp hobject with hobject | rfl
    · exact old object hobject value hvalue
    · exact sound_iff_admits.mpr (fit value hvalue)
  cases op with
  | alloc other => exact pushed other rfl (admitted _ rfl)
  | allocRef other => exact pushed other rfl (admitted _ rfl)
  | allocStruct content => exact pushed (.struct content) rfl (admitted _ rfl)
  | change id c =>
    cases found : h.get? id with
    | none =>
      rw [after_eq, atOnce_change_of_none found]
      exact closed
    | some object =>
      cases made : c.effect id object with
      | error e =>
        rw [after_change found, made]
        exact closed
      | ok result =>
        have after : (Operation.change id c).after h = h.put id result.2 := by
          rw [after_change found, made]
        have answered : (Operation.change id c).answer h = .ok result.1 := by
          rw [answer_change found, made]
          rfl
        intro object' hobject' value hvalue
        rw [after] at hobject'
        rcases Array.mem_or_eq_of_mem_setIfInBounds hobject' with hobject' | rfl
        · exact old object' hobject' value hvalue
        · rcases mem_values_of_effect made hvalue with held | put
          · exact old object (Array.mem_of_getElem? found) value held
          · exact sound_iff_admits.mpr (admitted _ answered value put)

end

/-! ## Runs -/

/-- The heap that a sequence of operations makes of the empty one. -/
def made (ops : List Operation) : Heap := ops.foldl Operation.after .empty

/-- How many objects a sequence of operations adds. -/
def allocations (ops : List Operation) : Nat := ops.countP fun op => op.added?.isSome

/-- What one operation does to a heap. -/
structure Operation.Does (h : Heap) (op : Operation) : Prop where
  /-- In place it does what it is said to do at once. -/
  atOnce : op.run.run h =
    match op.atOnce h with
    | .ok (a, changed) => .ok a changed
    | .error e => .error e h
  /-- If it fails, it has a reason to, and it has changed nothing. -/
  failed : ∀ e, op.answer h = .error e → op.Refused h e ∧ op.after h = h
  /-- It changes no object but the one that it names. -/
  kept : ∀ id object, h.get? id = some object → (∀ c, op ≠ .change id c) →
      (op.after h).get? id = some object
  /-- Setting a field changes the value in the first field of that name, and nothing else
  of the object. -/
  field : ∀ id name value a, op = .change id (.setField name value) → op.answer h = .ok a →
    ∃ s fields, h.get? id = some (.struct s) ∧ SetsFirst name (.value value) s.fields fields ∧
      (op.after h).get? id = some (.struct { s with fields := fields })

/-- Every operation does what it is said to do. -/
lemma Operation.does (h : Heap) (op : Operation) : op.Does h where
  atOnce := op.run_eq_atOnce h
  failed e failed := ⟨answer_eq_error_iff.mp failed, after_of_error failed⟩
  kept id object found other := by
    rw [get?_after found]
    cases op with
    | change id' c =>
      rw [onObject, if_neg]
      rintro rfl
      exact other c rfl
    | _ => rfl
  field id name value a hop answered := by
    subst hop
    cases found : h.get? id with
    | none =>
      rw [answer_eq, atOnce_change_of_none found] at answered
      cases answered
    | some object =>
      rw [answer_change found] at answered
      obtain ⟨⟨_, changed⟩, made, rfl⟩ := map_eq_ok_iff.mp answered
      obtain ⟨s, fields, rfl, rfl, sets⟩ := of_effect_setField made
      refine ⟨s, fields, rfl, sets, ?_⟩
      rw [after_change found, made]
      exact get?_put found _

/-- Of what the operations put in, each value is admitted by the heap as it is once the value is in.
An operation that fails puts nothing in. -/
def Fits (h : Heap) : List Operation → Prop
  | [] => True
  | op :: rest => (∀ a, op.answer h = .ok a → ∀ value ∈ op.values, (op.after h).Admits value) ∧
      Fits (op.after h) rest

/-- What a run of operations makes of the empty heap. -/
structure KeepsGraphs (ops : List Operation) : Prop where
  /-- Every state is valid, together with whatever roots it admits. -/
  valid : ∀ done rest, ops = done ++ rest → ∀ roots, (∀ root ∈ roots, (made done).Admits root) →
    (made done).validate roots = .ok ()
  /-- Objects get their number as their id, and an object is from then on what the changes of it
  have made of it. -/
  numbered : ∀ done op rest object, ops = done ++ op :: rest → op.added? = some object →
    ∃ id : ObjectId, id.index.toNat = allocations done ∧ op.answer (made done) = .ok (op.tell id) ∧
      ∀ more others, rest = more ++ others →
        (made (done ++ op :: more)).get? id = some (more.foldl (Operation.onObject id) object)
  /-- There are no other objects. -/
  size : ∀ done rest, ops = done ++ rest → (made done).size = allocations done
  /-- Each operation does what it is meant to do. -/
  steps : ∀ done op rest, ops = done ++ op :: rest → op.Does (made done)

section

variable {h : Heap} {id : ObjectId} {object : Object} {ops more done rest : List Operation}
  {op : Operation}

/-- Operations are made one after another. -/
lemma made_append (ops more : List Operation) :
    made (ops ++ more) = more.foldl (fun h op => op.after h) (made ops) :=
  List.foldl_append

/-- Operations that fit keep a heap closed. -/
lemma Fits.closed (fits : Fits h ops) (closed : h.Closed) :
    (ops.foldl (fun h op => op.after h) h).Closed := by
  induction ops generalizing h with
  | nil => exact closed
  | cons op rest ih => exact ih fits.2 (op.closed_after closed fits.1)

/-- If operations fit, the first of them do. -/
lemma Fits.of_append (fits : Fits h (ops ++ more)) : Fits h ops := by
  induction ops generalizing h with
  | nil => trivial
  | cons op rest ih => exact ⟨fits.1, ih fits.2⟩

/-- A heap grows by one object for each allocation. -/
lemma size_foldl_after (h : Heap) (ops : List Operation) :
    (ops.foldl (fun h op => op.after h) h).size = h.size + allocations ops := by
  induction ops generalizing h with
  | nil => rfl
  | cons op rest ih =>
    rw [List.foldl_cons, ih, op.size_after, allocations, allocations, List.countP_cons]
    omega

/-- A heap that was made has as many objects as were allocated. -/
lemma size_made (ops : List Operation) : (made ops).size = allocations ops := by
  rw [made, size_foldl_after]
  exact Nat.zero_add _

/-- An object is what the changes of it make of it. -/
lemma get?_foldl_after (found : h.get? id = some object) (ops : List Operation) :
    (ops.foldl (fun h op => op.after h) h).get? id =
    some (ops.foldl (Operation.onObject id) object) := by
  induction ops generalizing h object with
  | nil => exact found
  | cons op rest ih => exact ih (op.get?_after found)

end

/-- Whatever is done to the empty heap, the graph is valid after each operation, if there are fewer
than 2^32 allocations and each value that is put in is admitted once it is in. The ids are 0, 1, 2
and so on, in order, and each of them keeps denoting its object. -/
theorem made_keepsGraphs {ops : List Operation} (few : allocations ops < 2 ^ 32)
    (fits : Fits .empty ops) :
    KeepsGraphs ops where
  valid done rest hops roots admitted := by
    rw [hops] at fits
    have closed : (made done).Closed :=
      fits.of_append.closed fun object hobject => absurd hobject (Array.not_mem_empty object)
    exact validate_eq_ok_iff.mpr
      ⟨fun root hroot => sound_iff_admits.mpr (admitted root hroot), closed⟩
  numbered done op rest object hops hadded := by
    have room : (made done).size < 2 ^ 32 := by
      rw [size_made]
      refine Nat.lt_of_le_of_lt ?_ few
      rw [hops, allocations, allocations, List.countP_append]
      exact Nat.le_add_right _ _
    obtain ⟨id, number, answered, there⟩ := Operation.added hadded room
    refine ⟨id, number.trans (size_made done), answered, fun more others _ => ?_⟩
    rw [made_append]
    exact get?_foldl_after there more
  size done _ _ := size_made done
  steps done op _ _ := op.does (made done)

instance (h : Heap) : DecidablePred h.Admits
  | .ref _ => Nat.decLt _ _
  | .scalar (.char _) => Nat.decLt _ _
  | .scalar (.bool _) | .scalar (.byte _) | .scalar (.short _) | .scalar (.int _)
  | .scalar (.long _)
  | .scalar (.float _) | .scalar (.double _) | .scalar (.text _) | .null
  | .classOf _ => isTrue trivial

/-- A node that is made to refer to itself, a list that holds itself from the start and is given the
node, and operations that fail: on an id that is not there, on a field that is not there, and on an
object of another shape. -/
def cycle : List Operation :=
  [.allocStruct ⟨"p.Node", true, false, [⟨"next", .named "p.Node", {}, true, .value .null⟩]⟩,
    .change ⟨0⟩ (.setField "next" (.ref ⟨0⟩)),
    .change ⟨7⟩ (.push .null),
    .allocRef (.collection "java.util.ArrayList" [.ref ⟨1⟩, .scalar (.char 'é')]),
    .change ⟨1⟩ (.push (.ref ⟨0⟩)),
    .change ⟨0⟩ (.setField "previous" (.ref ⟨9⟩)),
    .change ⟨0⟩ (.push (.ref ⟨9⟩)),
    .change ⟨0⟩ (.hideField "next")]

/-- The heap is valid in the end, the list has id 1, and it still is the list with what was
pushed to it. -/
theorem made_keepsGraphs_cycle : (made cycle).validate [.ref ⟨1⟩] = .ok () ∧
    (made cycle).get? ⟨1⟩ =
      some (.collection "java.util.ArrayList" [.ref ⟨1⟩, .scalar (.char 'é'), .ref ⟨0⟩]) := by
  have fits : Fits .empty cycle := by
    refine ⟨fun
      _ _ => by
      decide, fun _ _ => by
      decide, ?_, fun _ _ => by
      decide, fun _ _ => by decide, ?_, ?_, fun _ _ => by decide, trivial⟩
    all_goals
      rintro a answered
      cases answered
  have few : allocations cycle < 2 ^ 32 := by decide
  have keeps := made_keepsGraphs few fits
  obtain ⟨id, number, -, denotes⟩ := keeps.numbered (cycle.take 3) _ (cycle.drop 4) _ rfl rfl
  obtain rfl : id = ⟨1⟩ := congrArg ObjectId.mk (UInt32.toNat_inj.mp number)
  exact ⟨keeps.valid cycle [] rfl [.ref ⟨1⟩] (by decide), denotes (cycle.drop 4) [] rfl⟩

end CallReplay.Heap
