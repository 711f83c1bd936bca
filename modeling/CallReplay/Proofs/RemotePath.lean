import CallReplay.Proofs.Except
import CallReplay.Proofs.Heap
import CallReplay.RemotePath

/-!
# Depth of the walk to remote objects

The walk keeps a list of values to be visited. Each of them is led to from the returned value by a
chain of distinct objects that have all been visited, one for each unit of its depth
(`Pending.LedTo`). Every step of the walk preserves this, so on a valid graph the walk fails only
where a chain is longer than it may be (`visit_error`).
-/

namespace CallReplay.RemotePath

open Script (ScriptError)

/-- The walk goes on to values that the object holds. -/
lemma mem_values_of_mem_children {object : Object} {segment : Segment} {value : Value}
    (h : (segment, value) ∈ children object) : value ∈ object.values := by
  cases object with
  | array component elements =>
    obtain ⟨⟨element, index⟩, hmem, heq⟩ := List.mem_map.mp h
    cases heq
    exact List.fst_mem_of_mem_zipIdx hmem
  | collection className elements =>
    obtain ⟨⟨element, index⟩, hmem, heq⟩ := List.mem_map.mp h
    cases heq
    exact List.fst_mem_of_mem_zipIdx hmem
  | properties entries => cases h
  | map className entries =>
    obtain ⟨⟨⟨key, content⟩, index⟩, hmem, heq⟩ := List.mem_map.mp h
    cases heq
    exact List.mem_flatMap.mpr
      ⟨_, List.fst_mem_of_mem_zipIdx hmem, List.mem_cons_of_mem _ List.mem_cons_self⟩
  | struct s =>
    obtain ⟨field, hfield, heq⟩ := List.mem_filterMap.mp h
    obtain ⟨content, hslot, hpair⟩ := Option.map_eq_some_iff.mp heq
    cases hpair
    exact List.mem_filterMap.mpr ⟨field, hfield, hslot⟩

/-- A value is led to from a root by distinct objects, listed from the root on: the root is led to
by none, and what an object holds by the object after those that lead to it. -/
inductive LedTo (heap : Heap) (root : Value) : List ObjectId → Value → Prop where
  | root : LedTo heap root [] root
  | held {above id object value} :
    LedTo heap root above (.ref id) →
    id ∉ above →
    heap.get? id = some object →
    value ∈ object.values →
    LedTo heap root (above ++ [id]) value

section

variable {heap : Heap} {root value : Value} {above : List ObjectId}

/-- In a closed heap a sound root leads to sound values only. -/
lemma LedTo.sound (closed : heap.Closed) (hroot : heap.Sound root)
    (led : LedTo heap root above value) :
    heap.Sound value := by
  cases led with
  | root => exact hroot
  | held _ _ found hvalue => exact closed.sound found hvalue

/-- The objects that lead to a new object form a chain with it, which starts at the root. -/
lemma LedTo.chain {id : ObjectId} {object : Object} (led : LedTo heap root above (.ref id))
    (new : id ∉ above) (found : heap.get? id = some object) :
    heap.IsChain (above ++ [id]) ∧
      ∃ first rest, above ++ [id] = first :: rest ∧ root = .ref first := by
  generalize hvalue : Value.ref id = value at led
  induction led generalizing id object with
  | root => exact ⟨Heap.isChain_singleton found, id, [], rfl, hvalue.symm⟩
  | held _ unmet present hmem ih =>
    cases hvalue
    obtain ⟨chain, first, rest, hfirst, hroot⟩ := ih unmet present rfl
    refine ⟨chain.concat ⟨_, present, hmem⟩ new found, first, rest ++ [id], ?_, hroot⟩
    rw [hfirst, List.cons_append]

/-- A value to be visited is led to from a root by visited objects, one for each unit of its depth,
and there are no more of them than may stand above an object. -/
def Pending.IsLed (heap : Heap) (root : Value) (visited : List ObjectId) (p : Pending) : Prop :=
  ∃ above, LedTo heap root above p.value ∧ above.length = p.depth ∧ p.depth ≤ maxDepth ∧
    ∀ id ∈ above, id ∈ visited

/-- A value stays led to when one more object has been visited. -/
lemma Pending.IsLed.visit {visited : List ObjectId} {p : Pending} (led : p.IsLed heap root visited)
    (id : ObjectId) : p.IsLed heap root (id :: visited) := by
  obtain ⟨above, hled, hlength, hdepth, hvisited⟩ := led
  exact ⟨above, hled, hlength, hdepth, fun other hother => List.mem_cons_of_mem id
    (hvisited other hother)⟩

/-- What is below an object that is visited for the first time is led to by it. -/
lemma Pending.IsLed.below {visited : List ObjectId} {p : Pending} {id : ObjectId} {object : Object}
    (led : p.IsLed heap root visited) (href : p.value = .ref id) (new : id ∉ visited)
    (room : p.depth < maxDepth) (found : heap.get? id = some object) :
    ∀ q ∈ p.below object, q.IsLed heap root (id :: visited) := by
  obtain ⟨above, hled, hlength, _, hvisited⟩ := led
  rw [href] at hled
  intro q hq
  obtain ⟨⟨segment, value⟩, hchild, rfl⟩ := List.mem_map.mp hq
  have hvalue : value ∈ object.values := mem_values_of_mem_children hchild
  refine ⟨above ++ [id], hled.held (fun hmem => new (hvisited id hmem)) found hvalue, ?_, room, ?_⟩
  · rw [List.length_append, hlength]
    rfl
  · intro other hother
    rcases List.mem_append.mp hother with hother | hother
    · exact List.mem_cons_of_mem _ (hvisited other hother)
    · rw [List.mem_singleton.mp hother]
      exact List.mem_cons_self

/-- A new object below as many as may stand above it ends a chain that is one longer. -/
lemma Pending.IsLed.nests {visited : List ObjectId} {p : Pending} {id : ObjectId}
    (led : p.IsLed heap root visited) (closed : heap.Closed) (sound : heap.Sound root)
    (href : p.value = .ref id) (new : id ∉ visited) (full : maxDepth ≤ p.depth) :
    heap.Nests [root] (maxDepth + 1) := by
  obtain ⟨above, hled, hlength, hdepth, hvisited⟩ := led
  rw [href] at hled
  obtain ⟨object, found⟩ := Heap.sound_ref_iff.mp (hled.sound closed sound)
  obtain ⟨chain, first, rest, hfirst, hroot⟩ :=
    hled.chain (fun hmem => new (hvisited id hmem)) found
  have length : (above ++ [id]).length = maxDepth + 1 := by
    rw [List.length_append, hlength, Nat.le_antisymm hdepth full]
    rfl
  rw [hfirst] at chain length
  exact ⟨first, rest, List.mem_singleton.mpr hroot.symm, chain, length⟩

end

section

variable {heap : Heap} {root : Value} {e : ScriptError}

/-- A valid graph is walked unless a chain of objects is longer than it may be. -/
theorem visit_error {visited : List ObjectId} {pending : List Pending} (closed : heap.Closed)
    (sound : heap.Sound root) (led : ∀ p ∈ pending, p.IsLed heap root visited)
    (h : visit heap visited pending = .error e) :
    e = .nestingTooDeep maxDepth ∧ heap.Nests [root] (maxDepth + 1) := by
  -- Each step keeps the pending values led to. The third case is where the walk gives up, and the
  -- fourth does not occur.
  fun_induction visit heap visited pending with
  | case1 => cases h
  | case2 visited p pending id href known ih => exact ih (List.forall_mem_cons.mp led).2 h
  | case3 visited p pending id href new full =>
    cases h
    exact ⟨rfl, (led p List.mem_cons_self).nests closed sound href new full⟩
  | case4 visited p pending id href new room missing =>
    obtain ⟨above, hled, _⟩ := led p List.mem_cons_self
    rw [href] at hled
    obtain ⟨object, found⟩ := Heap.sound_ref_iff.mp (hled.sound closed sound)
    cases missing.symm.trans found
  | case5 visited p pending id href new room object found remote ih =>
    have others : ∀ q ∈ pending, q.IsLed heap root (id :: visited) :=
      fun q hq => (led q (List.mem_cons_of_mem _ hq)).visit id
    rcases bind_eq_error_iff.mp h with hothers | ⟨_, _, hpure⟩
    · exact ih others hothers
    · cases hpure
  | case6 visited p pending id href new room object found local' ih =>
    refine ih (fun q hq => ?_) h
    rcases List.mem_append.mp hq with hbelow | hq
    · exact (led p List.mem_cons_self).below href new (Nat.lt_of_not_le room) found q hbelow
    · exact (led q (List.mem_cons_of_mem _ hq)).visit id
  | case7 visited p pending plain ih => exact ih (List.forall_mem_cons.mp led).2 h

/-- The remote objects of a valid payload are found unless a chain of objects that starts at the
value is longer than it may be. -/
theorem table_error {p : Payload} {stem : String} (valid : p.validate = .ok ())
    (h : table p stem = .error e) :
    e = .nestingTooDeep maxDepth ∧ p.heap.Nests [p.value] (maxDepth + 1) := by
  obtain ⟨sound, closed⟩ := Heap.validate_eq_ok_iff.mp valid
  rw [table, map_eq_error_iff] at h
  refine visit_error closed (sound _ List.mem_cons_self) ?_ h
  intro q hq
  cases List.mem_singleton.mp hq
  exact ⟨[], .root, rfl, Nat.zero_le _, nofun⟩

end

end CallReplay.RemotePath
