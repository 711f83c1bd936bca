import CallReplay.Proofs.Except
import CallReplay.Proofs.Heap

/-!
# Operations on heaps

A heap is changed in place: an operation looks up the object that an id names and overwrites it, or
it adds an object at the end. It may fail on the way, and what it has changed by then is changed. No
operation has changed anything when it fails, so in place it does what it is said to do at once
(`Operation.run_eq_atOnce`). It fails only where there is no such object, or where the object has
not the shape or not the field that is asked for (`answer_eq_error_iff`).
-/

namespace CallReplay.Heap

/-! ## Operations in place -/

/-- What can be done to an object that is in the heap. -/
inductive Change where
  | setField (name : String) (value : Value)
  | push (value : Value)
  | replace (object : Object)
  | hideField (name : String)
  deriving DecidableEq

/-- What can be done to a heap. -/
inductive Operation where
  | alloc (object : Object)
  | allocRef (object : Object)
  | allocStruct (content : Struct)
  | change (id : ObjectId) (change : Change)
  deriving DecidableEq

/-- What an operation answers. -/
inductive Answer where
  | allocated (id : ObjectId)
  | reference (value : Value)
  | done
  | hidden (found : Bool)
  deriving DecidableEq

/-- Operations change a heap in place. What they have changed when one fails is changed. -/
abbrev InPlace := EStateM GraphError Heap

/-- The object that an id names, which is about to be changed. -/
def borrow (id : ObjectId) : InPlace Object := do
  let h ← getThe Heap
  match h.get? id with
  | some object => pure object
  | none => throw (.objectNotFound id)

/-- The heap with another object at the place of an id. -/
def put (h : Heap) (id : ObjectId) (object : Object) : Heap :=
  ⟨h.objects.setIfInBounds id.index.toNat object⟩

/-- Changes the object that an id names. -/
def overwrite (id : ObjectId) (object : Object) : InPlace Unit := modify (·.put id object)

/-- Makes a change to the object that an id names. -/
def Change.run (id : ObjectId) : Change → InPlace Answer
  | setField name value => do
    match ← borrow id with
    | .struct s =>
      match setFirst? name (.value value) s.fields with
      | some fields =>
        overwrite id (.struct { s with fields := fields })
        pure .done
      | none => throw (.fieldNotFound s.className name)
    | _ => throw (.unexpectedShape id .struct)
  | push value => do
    match ← borrow id with
    | .array component elements =>
      overwrite id (.array component (elements ++ [value]))
      pure .done
    | .collection className elements =>
      overwrite id (.collection className (elements ++ [value]))
      pure .done
    | _ => throw (.unexpectedShape id .elements)
  | replace object => do
    let _ ← borrow id
    overwrite id object
    pure .done
  | hideField name => do
    match ← borrow id with
    | .struct s =>
      match setFirst? name .inaccessible s.fields with
      | some fields =>
        overwrite id (.struct { s with fields := fields })
        pure (.hidden true)
      | none => pure (.hidden false)
    | _ => pure (.hidden false)

namespace Operation

/-- Carries an operation out. -/
def run : Operation → InPlace Answer
  | alloc object => return .allocated (← modifyGet (·.alloc object))
  | allocRef object => return .reference (.ref (← modifyGet (·.alloc object)))
  | allocStruct content => return .allocated (← modifyGet (·.alloc (.struct content)))
  | change id c => c.run id

/-- The answer to an operation and the heap that it is said to lead to. -/
def atOnce (h : Heap) : Operation → Except GraphError (Answer × Heap)
  | alloc object => .ok (.allocated (h.alloc object).1, (h.alloc object).2)
  | allocRef object => .ok (.reference (.ref (h.alloc object).1), (h.alloc object).2)
  | allocStruct content =>
      .ok (.allocated (h.alloc (.struct content)).1, (h.alloc (.struct content)).2)
  | change id (.setField name value) =>
      (h.setField id name value).map fun changed => (.done, changed)
  | change id (.push value) => (h.pushElement id value).map fun changed => (.done, changed)
  | change id (.replace object) => (h.replace id object).map fun changed => (.done, changed)
  | change id (.hideField name) =>
      (h.hideField id name).map fun (found, changed) => (.hidden found, changed)

/-- The answer to an operation. -/
def answer (h : Heap) (op : Operation) : Except GraphError Answer :=
  match op.run.run h with
  | .ok a _ => .ok a
  | .error e _ => .error e

/-- The heap after an operation, whether or not it fails. -/
def after (h : Heap) (op : Operation) : Heap :=
  match op.run.run h with
  | .ok _ changed => changed
  | .error _ left => left

end Operation

/-! ## What a change does to its object -/

/-- The answer to a change of an object, and what the object is after it. -/
def Change.effect (id : ObjectId) : Change → Object → Except GraphError (Answer × Object)
  | setField name value, .struct s =>
    match setFirst? name (.value value) s.fields with
    | some fields => .ok (.done, .struct { s with fields := fields })
    | none => .error (.fieldNotFound s.className name)
  | setField .., _ => .error (.unexpectedShape id .struct)
  | push value, .array component elements => .ok (.done, .array component (elements ++ [value]))
  | push value, .collection className elements =>
      .ok (.done, .collection className (elements ++ [value]))
  | push _, _ => .error (.unexpectedShape id .elements)
  | replace object, _ => .ok (.done, object)
  | hideField name, .struct s =>
    match setFirst? name .inaccessible s.fields with
    | some fields => .ok (.hidden true, .struct { s with fields := fields })
    | none => .ok (.hidden false, .struct s)
  | hideField _, object => .ok (.hidden false, object)

section

variable {h : Heap} {id other : ObjectId} {object : Object} {c : Change} {op : Operation}

/-- Overwriting an object allocates none. -/
@[simp] lemma size_put : (h.put id object).size = h.size := Array.size_setIfInBounds

/-- The object that was overwritten is the new one. -/
lemma get?_put (found : h.get? id = some object) (changed : Object) :
    (h.put id changed).get? id = some changed := by
  have inside : id.index.toNat < h.objects.size := (Array.getElem?_eq_some_iff.mp found).1
  exact Array.getElem?_setIfInBounds_self_of_lt inside

/-- Overwriting an object changes no other. -/
lemma get?_put_of_ne (hne : other ≠ id) (changed : Object) :
    (h.put id changed).get? other = h.get? other := by
  apply Array.getElem?_setIfInBounds_ne
  rintro heq
  exact hne (congrArg ObjectId.mk (UInt32.toNat_inj.mp heq.symm))

/-- Overwriting an object with itself changes nothing. -/
lemma put_self (found : h.get? id = some object) : h.put id object = h := by
  refine congrArg Heap.mk (Array.ext_getElem? fun i => ?_)
  rw [Array.getElem?_setIfInBounds]
  split
  · next heq =>
    rw [if_pos (Array.getElem?_eq_some_iff.mp found).1, ← heq]
    exact found.symm
  · rfl

/-- Looking up an object that does not exist fails and changes nothing. -/
lemma run_borrow_of_none (missing : h.get? id = none) :
    (borrow id).run h = .error (.objectNotFound id) h := by
  change (match h.get? id with
    | some object => pure object
    | none => throw (.objectNotFound id) : InPlace Object).run h = _
  rw [missing]
  rfl

/-- Looking up an object changes nothing. -/
lemma run_borrow (found : h.get? id = some object) : (borrow id).run h = .ok object h := by
  simp [borrow, EStateM.run_bind, found]

/-- Changing an object that does not exist fails and changes nothing. -/
lemma run_change_of_none (missing : h.get? id = none) :
    (c.run id).run h = .error (.objectNotFound id) h := by
  cases c <;> rw [Change.run, EStateM.run_bind, run_borrow_of_none missing]

/-- Changing an object overwrites it with what the change makes of it. -/
lemma run_change (found : h.get? id = some object) : (c.run id).run h =
    match c.effect id object with
    | .ok (a, changed) => .ok a (h.put id changed)
    | .error e => .error e h := by
  cases c with
  | setField name value =>
    rw [Change.run, EStateM.run_bind, run_borrow found]
    cases object with
    | struct s =>
      dsimp only [Change.effect]
      cases setFirst? name (.value value) s.fields <;> rfl
    | _ => rfl
  | push value =>
    rw [Change.run, EStateM.run_bind, run_borrow found]
    cases object <;> rfl
  | replace changed =>
    rw [Change.run, EStateM.run_bind, run_borrow found]
    rfl
  | hideField name =>
    rw [Change.run, EStateM.run_bind, run_borrow found]
    -- An object without such a field stays as it is.
    have same := put_self found
    cases object with
    | struct s =>
      dsimp only [Change.effect]
      cases setFirst? name .inaccessible s.fields with
      | some fields => rfl
      | none =>
        dsimp only
        rw [same]
        rfl
    | _ =>
      dsimp only [Change.effect]
      rw [same]
      rfl

/-- An object that does not exist is not found. -/
lemma get_of_none (missing : h.get? id = none) : h.get id = .error (.objectNotFound id) := by
  rw [get, missing]

/-- An object that exists is found. -/
lemma get_of_some (found : h.get? id = some object) : h.get id = .ok object := by
  rw [get, found]

/-- An object that exists can be overwritten. -/
lemma replace_of_some (found : h.get? id = some object) (changed : Object) :
    h.replace id changed = .ok (h.put id changed) := by
  rw [replace, get_of_some found]
  rfl

/-- An object that does not exist cannot be changed. -/
lemma atOnce_change_of_none (missing : h.get? id = none) :
    (Operation.change id c).atOnce h = .error (.objectNotFound id) := by
  have failed := get_of_none missing
  cases c with
  | setField name value => rw [Operation.atOnce, setField, getStruct, failed]; rfl
  | push value => rw [Operation.atOnce, pushElement, failed]; rfl
  | replace changed => rw [Operation.atOnce, replace, failed]; rfl
  | hideField name => rw [Operation.atOnce, hideField, failed]; rfl

/-- Changing an object that exists is up to the object alone. -/
lemma atOnce_change (found : h.get? id = some object) :
    (Operation.change id c).atOnce h =
    (c.effect id object).map fun (a, changed) => (a, h.put id changed) := by
  have looked := get_of_some found
  cases c with
  | setField name value =>
    rw [Operation.atOnce, setField, getStruct, looked]
    cases object with
    | struct s =>
      change Except.map _
        (match setFirst? name (.value value) s.fields with | some fields => _ | none => _) = _
      dsimp only [Change.effect]
      cases setFirst? name (.value value) s.fields with
      | some fields =>
        dsimp only
        rw [replace_of_some found]
        rfl
      | none => rfl
    | _ => rfl
  | push value =>
    rw [Operation.atOnce, pushElement, looked]
    cases object with
    | array component elements =>
      change Except.map _ (h.replace id _) = _
      rw [replace_of_some found]
      rfl
    | collection className elements =>
      change Except.map _ (h.replace id _) = _
      rw [replace_of_some found]
      rfl
    | _ => rfl
  | replace changed =>
    rw [Operation.atOnce, replace_of_some found]
    rfl
  | hideField name =>
    rw [Operation.atOnce, hideField, looked]
    have same := put_self found
    cases object with
    | struct s =>
      change Except.map _
        (match setFirst? name .inaccessible s.fields with | some fields => _ | none => _) = _
      dsimp only [Change.effect]
      cases setFirst? name .inaccessible s.fields with
      | some fields =>
        dsimp only
        rw [replace_of_some found]
        rfl
      | none =>
        dsimp only [Except.map]
        rw [same]
        rfl
    | _ =>
      dsimp only [Change.effect, Except.map]
      rw [same]
      rfl

/-- In place an operation does what it is said to do at once, and nothing if it fails. -/
theorem Operation.run_eq_atOnce (h : Heap) (op : Operation) : op.run.run h =
    match op.atOnce h with
    | .ok (a, changed) => .ok a changed
    | .error e => .error e h := by
  cases op with
  | change id c =>
    cases found : h.get? id with
    | none =>
      rw [atOnce_change_of_none found]
      exact run_change_of_none found
    | some object =>
      rw [atOnce_change found, Operation.run, run_change found]
      cases c.effect id object <;> rfl
  | _ => rfl

end

namespace Operation

/-- Why an operation fails: there is no such object, the object has not the shape, or it has
no such field. -/
inductive Refused (h : Heap) : Operation → GraphError → Prop where
  | missing {id c} :
    h.get? id = none →
    Refused h (.change id c) (.objectNotFound id)
  | notStruct {id object name value} :
    h.get? id = some object →
    (∀ s, object ≠ .struct s) →
    Refused h (.change id (.setField name value)) (.unexpectedShape id .struct)
  | unknownField {id s name value} :
    h.get? id = some (.struct s) →
    (∀ f ∈ s.fields, f.name ≠ name) →
    Refused h (.change id (.setField name value)) (.fieldNotFound s.className name)
  | notElements {id object value} :
    h.get? id = some object →
    (∀ component elements, object ≠ .array component elements) →
    (∀ className elements, object ≠ .collection className elements) →
    Refused h (.change id (.push value)) (.unexpectedShape id .elements)

end Operation

/-- A field is set where it stands: those before it have other names, and nothing else
of it changes. -/
def SetsFirst (name : String) (slot : Slot) (fields changed : List Field) : Prop :=
  ∃ before f rest, fields = before ++ f :: rest ∧ f.name = name ∧ (∀ g ∈ before, g.name ≠ name) ∧
    changed = before ++ { f with slot := slot } :: rest

/-- No field is set if none has the name. -/
lemma setFirst?_eq_none_iff {name : String} {slot : Slot} {fields : List Field} :
    setFirst? name slot fields = none ↔ ∀ f ∈ fields, f.name ≠ name := by
  induction fields with
  | nil => exact iff_of_true rfl nofun
  | cons f rest ih =>
    rw [setFirst?, List.forall_mem_cons]
    split
    · next named => exact iff_of_false nofun fun h => h.1 named
    · next other => rw [Option.map_eq_none_iff, ih, and_iff_right other]

/-- The field that is set is the first of its name. -/
lemma setsFirst_of_setFirst? {name : String} {slot : Slot} {fields changed : List Field}
    (h : setFirst? name slot fields = some changed) : SetsFirst name slot fields changed := by
  induction fields generalizing changed with
  | nil => cases h
  | cons f rest ih =>
    rw [setFirst?] at h
    split at h
    · next named =>
      cases h
      exact ⟨[], f, rest, rfl, named, nofun, rfl⟩
    · next other =>
      obtain ⟨more, hmore, rfl⟩ := Option.map_eq_some_iff.mp h
      obtain ⟨before, g, rest', rfl, named, others, rfl⟩ := ih hmore
      exact ⟨f :: before, g, rest', rfl, named, List.forall_mem_cons.mpr ⟨other, others⟩, rfl⟩

section

variable {h : Heap} {id : ObjectId} {object changed : Object} {c : Change} {op : Operation}
  {a : Answer} {e : GraphError}

/-- The heap after an operation is what it leaves at once, or the same heap if it fails. -/
lemma after_eq (h : Heap) (op : Operation) : op.after h =
    match op.atOnce h with
    | .ok (_, changed) => changed
    | .error _ => h := by
  rw [Operation.after, op.run_eq_atOnce]
  cases op.atOnce h <;> rfl

/-- The answer of an operation is the one that it gives at once. -/
lemma answer_eq (h : Heap) (op : Operation) : op.answer h = (op.atOnce h).map Prod.fst := by
  rw [Operation.answer, op.run_eq_atOnce]
  cases op.atOnce h <;> rfl

/-- An operation that fails has changed nothing. -/
lemma after_of_error (failed : op.answer h = .error e) : op.after h = h := by
  rw [answer_eq] at failed
  rw [after_eq]
  cases hatOnce : op.atOnce h with
  | error _ => rfl
  | ok _ =>
    rw [hatOnce] at failed
    cases failed

/-- The heap after a change has the object that the change makes, or is the same if it fails. -/
lemma after_change (found : h.get? id = some object) : (Operation.change id c).after h =
    match c.effect id object with
    | .ok (_, changed) => h.put id changed
    | .error _ => h := by
  rw [after_eq, atOnce_change found]
  cases c.effect id object <;> rfl

/-- The answer of a change is up to the object alone. -/
lemma answer_change (found : h.get? id = some object) :
    (Operation.change id c).answer h = (c.effect id object).map Prod.fst := by
  rw [answer_eq, atOnce_change found]
  cases c.effect id object <;> rfl

/-- A change that fails has a reason to. -/
lemma refused_of_effect (found : h.get? id = some object) (failed : c.effect id object = .error e) :
    (Operation.change id c).Refused h e := by
  cases c with
  | setField name value =>
    cases object with
    | struct s =>
      dsimp only [Change.effect] at failed
      split at failed <;> cases failed
      next unset => exact .unknownField found (setFirst?_eq_none_iff.mp unset)
    | _ =>
      cases failed
      exact .notStruct found (by rintro s ⟨⟩)
  | push value =>
    cases object with
    | array | collection => cases failed
    | _ =>
      cases failed
      exact .notElements found (by rintro _ _ ⟨⟩) (by rintro _ _ ⟨⟩)
  | replace changed => cases failed
  | hideField name =>
    cases object with
    | struct s =>
      dsimp only [Change.effect] at failed
      split at failed <;> cases failed
    | _ => cases failed

/-- With a reason to, an operation fails. -/
lemma Operation.Refused.answer (refused : op.Refused h e) : op.answer h = .error e := by
  cases refused with
  | missing missing =>
    rw [answer_eq, atOnce_change_of_none missing]
    rfl
  | @notStruct id object name value found other =>
    rw [answer_change found]
    cases object with
    | struct s => exact absurd rfl (other s)
    | _ => rfl
  | @unknownField id s name value found others =>
    rw [answer_change found]
    dsimp only [Change.effect]
    rw [setFirst?_eq_none_iff.mpr others]
    rfl
  | @notElements id object value found array collection =>
    rw [answer_change found]
    cases object with
    | array component elements => exact absurd rfl (array component elements)
    | collection className elements => exact absurd rfl (collection className elements)
    | _ => rfl

/-- An operation fails for the reasons there are and for no others. -/
theorem answer_eq_error_iff : op.answer h = .error e ↔ op.Refused h e := by
  refine ⟨fun failed => ?_, fun refused => refused.answer⟩
  cases op with
  | change id c =>
    cases found : h.get? id with
    | none =>
      rw [answer_eq, atOnce_change_of_none found] at failed
      cases failed
      exact .missing found
    | some object =>
      rw [answer_change found] at failed
      exact refused_of_effect found (map_eq_error_iff.mp failed)
  | _ => cases failed

/-- A field that is set was there, and nothing else of its object changes. -/
lemma of_effect_setField {name : String} {value : Value}
    (made : (Change.setField name value).effect id object = .ok (a, changed)) :
    ∃ s fields, object = .struct s ∧ changed = .struct { s with fields := fields } ∧
      SetsFirst name (.value value) s.fields fields := by
  cases object with
  | struct s =>
    dsimp only [Change.effect] at made
    split at made <;> cases made
    next fields set => exact ⟨s, fields, rfl, rfl, setsFirst_of_setFirst? set⟩
  | _ => cases made

/-- Hiding a field that is there makes it unreadable, and changes nothing else. -/
lemma of_effect_hideField {name : String}
    (made : (Change.hideField name).effect id object = .ok (a, changed)) :
    changed = object ∨ ∃ s fields, object = .struct s ∧
    changed = .struct { s with fields := fields } ∧
      SetsFirst name .inaccessible s.fields fields := by
  cases object with
  | struct s =>
    dsimp only [Change.effect] at made
    split at made <;> cases made
    next fields set => exact .inr ⟨s, fields, rfl, rfl, setsFirst_of_setFirst? set⟩
    next => exact .inl rfl
  | _ =>
    cases made
    exact .inl rfl

end

end CallReplay.Heap
