import CallReplay.Proofs.CallRecord
import CallReplay.Proofs.RemotePath
import CallReplay.Proofs.Script.Filling
import CallReplay.Proofs.TextMap

/-!
# The remote objects of a returned value

The walk finds a remote object if and only if a path leads to it from the returned value that passes
no other remote object (`Leads`). It may pass over an object that has been visited, since what lies
behind that object has been found or is still pending: a path either avoids a visited object or has
a part behind it that does (`Leads.avoid_or`). The segments of the path on which an object was found
lead back to that object (`Leads.resolve_eq`).
-/

namespace CallReplay

namespace RemotePath

open Script (ScriptError)

/-- A segment leads from an object to a value that the object holds. -/
inductive Step : Object → Segment → Value → Prop where
  | field {s f value} :
    f ∈ s.fields →
    f.slot = .value value →
    Step (.struct s) (.field f.name) value
  | index {component elements i value} :
    elements[i]? = some value →
    Step (.array component elements) (.index i) value
  | element {className elements i value} :
    elements[i]? = some value →
    Step (.collection className elements) (.element i) value
  | key {className entries text value} :
    (.text text, value) ∈ entries →
    Step (.map className entries) (.key text) value
  | entry {className entries i key value} :
    entries[i]? = some (key, value) →
    (∀ text, key ≠ .text text) →
    Step (.map className entries) (.entry i) value

/-- A field holds a value if its content could be read. -/
lemma value?_eq_some_iff {slot : Slot} {value : Value} :
    slot.value? = some value ↔ slot = .value value := by
  cases slot <;> simp [Slot.value?]

/-- An entry whose key is no text is reached by its position. -/
lemma entrySegment_of_ne {key : Value} (h : ∀ text, key ≠ .text text) (position : Nat) :
    entrySegment key position = .entry position := by
  unfold entrySegment
  split
  · exact absurd rfl (h _)
  · rfl

/-- The walk looks at the values that a segment leads to. -/
lemma mem_children_iff {object : Object} {segment : Segment} {value : Value} :
    (segment, value) ∈ children object ↔ Step object segment value := by
  constructor
  · intro h
    cases object with
    | array component elements =>
      obtain ⟨⟨element, i⟩, hmem, heq⟩ := List.mem_map.mp h
      cases heq
      exact .index (List.mk_mem_zipIdx_iff_getElem?.mp hmem)
    | collection className elements =>
      obtain ⟨⟨element, i⟩, hmem, heq⟩ := List.mem_map.mp h
      cases heq
      exact .element (List.mk_mem_zipIdx_iff_getElem?.mp hmem)
    | properties entries => cases h
    | map className entries =>
      obtain ⟨⟨⟨key, content⟩, i⟩, hmem, heq⟩ := List.mem_map.mp h
      have hentry := List.mk_mem_zipIdx_iff_getElem?.mp hmem
      by_cases htext : ∃ text, key = .text text
      · obtain ⟨text, rfl⟩ := htext
        cases heq
        exact .key (List.mem_of_getElem? hentry)
      · simp only [entrySegment_of_ne (not_exists.mp htext), Prod.mk.injEq] at heq
        obtain ⟨rfl, rfl⟩ := heq
        exact .entry hentry (not_exists.mp htext)
    | struct s =>
      obtain ⟨field, hfield, heq⟩ := List.mem_filterMap.mp h
      obtain ⟨content, hslot, hpair⟩ := Option.map_eq_some_iff.mp heq
      cases hpair
      exact .field hfield (value?_eq_some_iff.mp hslot)
  · intro h
    cases h with
    | field hfield hslot => exact List.mem_filterMap.mpr ⟨_, hfield, by rw [hslot]; rfl⟩
    | index helement =>
      exact List.mem_map.mpr ⟨_, List.mk_mem_zipIdx_iff_getElem?.mpr helement, rfl⟩
    | element helement =>
      exact List.mem_map.mpr ⟨_, List.mk_mem_zipIdx_iff_getElem?.mpr helement, rfl⟩
    | key hentry =>
      obtain ⟨i, hi⟩ := List.mem_iff_getElem?.mp hentry
      exact List.mem_map.mpr ⟨_, List.mk_mem_zipIdx_iff_getElem?.mpr hi, rfl⟩
    | entry hentry hplain =>
      refine List.mem_map.mpr ⟨_, List.mk_mem_zipIdx_iff_getElem?.mpr hentry, ?_⟩
      simp only [entrySegment_of_ne hplain]

/-- An object of the heap is a remote one. -/
def IsRemoteAt (heap : Heap) (id : ObjectId) : Prop :=
  ∃ s, heap.get? id = some (.struct s) ∧ s.isRemote = true

/-- The segments of a path lead from a value to an object. On the way the path passes no remote
object, and neither there nor at its end an object that it has to avoid. -/
inductive Leads (heap : Heap) (avoided : List ObjectId) :
    Value → List Segment → ObjectId → Prop where
  | here {id} :
    id ∉ avoided →
    Leads heap avoided (.ref id) [] id
  | step {id object segment value path target} :
    id ∉ avoided →
    heap.get? id = some object →
    isRemote object = false →
    Step object segment value →
    Leads heap avoided value path target →
    Leads heap avoided (.ref id) (segment :: path) target

section

variable {heap : Heap} {avoided : List ObjectId} {value : Value} {path : List Segment}
  {id target : ObjectId} {object : Object}

/-- An object that exists is a remote one if it is marked so. -/
lemma isRemoteAt_iff (found : heap.get? id = some object) :
    IsRemoteAt heap id ↔ isRemote object = true := by
  unfold IsRemoteAt isRemote
  rw [found]
  cases object <;> simp

/-- A path from an object avoids what it has to from the start. -/
lemma Leads.source_notMem (led : Leads heap avoided (.ref id) path target) : id ∉ avoided := by
  cases led with
  | here new => exact new
  | step new => exact new

/-- A path does not end at an object that it has to avoid. -/
lemma Leads.target_notMem (led : Leads heap avoided value path target) : target ∉ avoided := by
  induction led with
  | here new => exact new
  | step _ _ _ _ _ ih => exact ih

/-- A path that avoids more objects avoids fewer of them. -/
lemma Leads.of_cons (led : Leads heap (id :: avoided) value path target) :
    Leads heap avoided value path target := by
  induction led with
  | here new => exact .here fun hmem => new (List.mem_cons_of_mem id hmem)
  | step new found inner step _ ih =>
    exact .step (fun hmem => new (List.mem_cons_of_mem id hmem)) found inner step ih

/-- A path avoids a further object, ends at it, or goes on behind it along a path that avoids it. -/
lemma Leads.avoid_or (led : Leads heap avoided value path target) (id : ObjectId) :
    (∃ path, Leads heap (id :: avoided) value path target) ∨ target = id ∨
      ∃ object segment next path, heap.get? id = some object ∧ isRemote object = false ∧
        Step object segment next ∧ Leads heap (id :: avoided) next path target := by
  induction led with
  | @here other new =>
    by_cases heq : other = id
    · exact .inr (.inl heq)
    · exact .inl ⟨[], .here (List.not_mem_cons_of_ne_of_not_mem heq new)⟩
  | @step other object segment next path target new found inner step _ ih =>
    rcases ih with ⟨path, led⟩ | hend | hbehind
    · by_cases heq : other = id
      · cases heq
        exact .inr (.inr ⟨object, segment, next, path, found, inner, step, led⟩)
      · exact .inl ⟨segment :: path,
          .step (List.not_mem_cons_of_ne_of_not_mem heq new) found inner step led⟩
    · exact .inr (.inl hend)
    · exact .inr (.inr hbehind)

end

section

variable {heap : Heap} {visited : List ObjectId} {pending : List Pending} {found : List Found}

/-- An object was found on a path that goes on from that of a pending value. -/
def Found.IsLed (heap : Heap) (visited : List ObjectId) (pending : List Pending) (f : Found) :
    Prop :=
  ∃ p ∈ pending, ∃ path, f.path = p.path ++ path ∧ Leads heap visited p.value path f.object

/-- What was found is led to when more is pending. -/
lemma Found.IsLed.cons {f : Found} (led : f.IsLed heap visited pending) (p : Pending) :
    f.IsLed heap visited (p :: pending) := by
  obtain ⟨q, hq, hled⟩ := led
  exact ⟨q, List.mem_cons_of_mem p hq, hled⟩

/-- What was found with one more object visited would also be found without. -/
lemma Found.IsLed.of_visited {f : Found} {id : ObjectId}
    (led : f.IsLed heap (id :: visited) pending) :
    f.IsLed heap visited pending := by
  obtain ⟨p, hp, path, hpath, hled⟩ := led
  exact ⟨p, hp, path, hpath, hled.of_cons⟩

/-- What was found below an object or behind what else is pending was found behind
what is pending. -/
lemma Found.IsLed.of_below {f : Found} {p : Pending} {id : ObjectId} {object : Object}
    (href : p.value = .ref id) (new : id ∉ visited) (present : heap.get? id = some object)
    (inner : isRemote object = false)
    (led : f.IsLed heap (id :: visited) (p.below object ++ pending)) :
    f.IsLed heap visited (p :: pending) := by
  obtain ⟨q, hq, path, hpath, hled⟩ := led
  rcases List.mem_append.mp hq with hbelow | hq
  · obtain ⟨⟨segment, value⟩, hchild, rfl⟩ := List.mem_map.mp hbelow
    refine ⟨p, List.mem_cons_self, segment :: path, ?_, ?_⟩
    · rw [hpath, List.append_assoc, List.singleton_append]
    · rw [href]
      exact .step new present inner (mem_children_iff.mp hchild) hled.of_cons
  · exact ⟨q, List.mem_cons_of_mem p hq, path, hpath, hled.of_cons⟩

/-- Every object that is found is remote and led to. -/
theorem visit_sound (h : visit heap visited pending = .ok found) :
    ∀ f ∈ found, IsRemoteAt heap f.object ∧ f.IsLed heap visited pending := by
  fun_induction visit heap visited pending generalizing found with
  | case1 =>
    cases h
    intro f hf
    cases hf
  | case2 visited p pending id href known ih =>
    intro f hf
    exact ⟨(ih h f hf).1, (ih h f hf).2.cons p⟩
  | case3 => cases h
  | case4 => cases h
  | case5 visited p pending id href new room object present remote ih =>
    obtain ⟨others, hothers, hpure⟩ := bind_eq_ok_iff.mp h
    cases hpure
    intro f hf
    rcases List.mem_cons.mp hf with rfl | hf
    · refine ⟨(isRemoteAt_iff present).mpr remote, p, List.mem_cons_self, [], ?_, ?_⟩
      · rw [List.append_nil]
      · rw [href]
        exact .here new
    · exact ⟨(ih hothers f hf).1, (ih hothers f hf).2.of_visited.cons p⟩
  | case6 visited p pending id href new room object present inner ih =>
    intro f hf
    rw [Bool.not_eq_true] at inner
    exact ⟨(ih h f hf).1, (ih h f hf).2.of_below href new present inner⟩
  | case7 visited p pending plain ih =>
    intro f hf
    exact ⟨(ih h f hf).1, (ih h f hf).2.cons p⟩

/-- Every remote object that is led to is found. -/
theorem visit_complete {p : Pending} {path : List Segment} {target : ObjectId}
    (h : visit heap visited pending = .ok found) (hp : p ∈ pending)
    (remote : IsRemoteAt heap target) (led : Leads heap visited p.value path target) :
    target ∈ found.map Found.object := by
  fun_induction visit heap visited pending generalizing found p path with
  | case1 => cases hp
  | case2 visited q pending id href known ih =>
    rcases List.mem_cons.mp hp with rfl | hp
    · rw [href] at led
      exact absurd known led.source_notMem
    · exact ih h hp led
  | case3 => cases h
  | case4 => cases h
  | case5 visited q pending id href new room object present isRemote ih =>
    obtain ⟨others, hothers, hpure⟩ := bind_eq_ok_iff.mp h
    cases hpure
    rw [List.map_cons, List.mem_cons]
    -- A path cannot go on behind a remote object.
    rcases led.avoid_or id with ⟨path, hled⟩ | hend | ⟨object', _, _, _, present', inner, _⟩
    · rcases List.mem_cons.mp hp with rfl | hp
      · rw [href] at hled
        exact absurd List.mem_cons_self hled.source_notMem
      · exact .inr (ih hothers hp hled)
    · exact .inl hend
    · cases present.symm.trans present'
      cases isRemote.symm.trans inner
  | case6 visited q pending id href new room object present local' ih =>
    rcases led.avoid_or id
      with ⟨path, hled⟩ | hend | ⟨object', segment, next, path, present', _, step, hled⟩
    · rcases List.mem_cons.mp hp with rfl | hp
      · rw [href] at hled
        exact absurd List.mem_cons_self hled.source_notMem
      · exact ih h (List.mem_append_right _ hp) hled
    · rw [hend] at remote
      exact absurd ((isRemoteAt_iff present).mp remote) local'
    · cases present.symm.trans present'
      have hbelow : ⟨next, q.path ++ [segment], q.depth + 1⟩ ∈ q.below object :=
        List.mem_map.mpr ⟨(segment, next), mem_children_iff.mpr step, rfl⟩
      exact ih h (List.mem_append_left _ hbelow) hled
  | case7 visited q pending plain ih =>
    rcases List.mem_cons.mp hp with rfl | hp
    · cases hvalue : p.value with
      | ref id => exact absurd hvalue (plain id)
      | _ =>
        rw [hvalue] at led
        cases led
    · exact ih h hp led

/-- No object is found twice. -/
theorem visit_nodup (h : visit heap visited pending = .ok found) :
    (found.map Found.object).Nodup := by
  fun_induction visit heap visited pending generalizing found with
  | case1 =>
    cases h
    exact List.nodup_nil
  | case2 visited p pending id href known ih => exact ih h
  | case3 => cases h
  | case4 => cases h
  | case5 visited p pending id href new room object present remote ih =>
    obtain ⟨others, hothers, hpure⟩ := bind_eq_ok_iff.mp h
    cases hpure
    rw [List.map_cons, List.nodup_cons]
    refine ⟨fun hmem => ?_, ih hothers⟩
    obtain ⟨f, hf, heq⟩ := List.mem_map.mp hmem
    obtain ⟨_, _, _, _, _, led⟩ := visit_sound hothers f hf
    rw [heq] at led
    exact led.target_notMem List.mem_cons_self
  | case6 visited p pending id href new room object present local' ih => exact ih h
  | case7 visited p pending plain ih => exact ih h

end

/-- The keys of a map that are texts. -/
def textKeys (entries : List (Value × Value)) : List String :=
  entries.filterMap fun entry =>
    match entry.1 with
    | .scalar (.text text) => some text
    | _ => none

/-- Whether the text keys of a map are different. -/
def TextKeysDistinct : Object → Prop
  | .map _ entries => (textKeys entries).Nodup
  | _ => True

/-- The value that an object holds at a segment: a field by its name, an element by its index, the
value of a map entry by its key or by its position. -/
def Segment.follow : Segment → Object → Option Value
  | .field name, .struct s => (s.field? name).bind fun f => f.slot.value?
  | .index i, .array _ elements => elements[i]?
  | .element i, .collection _ elements => elements[i]?
  | .key text, .map _ entries => entries.lookup (.text text)
  | .entry i, .map _ entries => entries[i]?.map Prod.snd
  | _, _ => none

/-- The value that is reached from a value by following segments one by one. -/
def resolve (heap : Heap) : Value → List Segment → Option Value
  | value, [] => some value
  | .ref id, segment :: path => do
    let object ← heap.get? id
    let next ← segment.follow object
    resolve heap next path
  | _, _ :: _ => none

/-- If no two fields have one name, each is found by its own. -/
lemma field?_of_mem {s : Struct} {f : Field} (hdistinct : (s.fields.map Field.name).Nodup)
    (hf : f ∈ s.fields) : s.field? f.name = some f := by
  obtain ⟨before, after, hfields⟩ := List.append_of_mem hf
  rw [hfields, List.map_append, List.nodup_append] at hdistinct
  refine List.find?_eq_some_iff_append.mpr ⟨beq_self_eq_true _, before, after, hfields, ?_⟩
  intro other hother
  have hne := hdistinct.2.2 _ (List.mem_map_of_mem hother) f.name (by simp)
  simpa using hne

/-- If no two entries have one text as their key, each is found by its own. -/
lemma lookup_of_mem {entries : List (Value × Value)} {text : String} {value : Value}
    (hdistinct : (textKeys entries).Nodup) (hentry : (.text text, value) ∈ entries) :
    entries.lookup (.text text) = some value := by
  obtain ⟨before, after, hentries⟩ := List.append_of_mem hentry
  rw [hentries, textKeys, List.filterMap_append, List.nodup_append] at hdistinct
  refine List.lookup_eq_some_iff.mpr ⟨before, after, hentries, ?_⟩
  intro other hother
  have hne : Value.text text ≠ other.1 := by
    intro heq
    have hkey : text ∈ textKeys before := List.mem_filterMap.mpr ⟨other, hother, by rw [← heq]⟩
    exact hdistinct.2.2 text hkey text (by simp) rfl
  simpa using hne

/-- Where names and text keys are different, following a segment is the way that
the segment leads. -/
lemma Step.follow_eq {object : Object} {segment : Segment} {value : Value}
    (step : Step object segment value) (hfields : Script.FieldsDistinct object)
    (hkeys : TextKeysDistinct object) : segment.follow object = some value := by
  cases step with
  | field hfield hslot =>
    rw [Segment.follow, field?_of_mem hfields hfield, Option.bind_some, hslot]
    rfl
  | index helement => exact helement
  | element helement => exact helement
  | key hentry => exact lookup_of_mem hkeys hentry
  | entry hentry _ =>
    rw [Segment.follow, hentry]
    rfl

/-- Where names and text keys are different, a path is resolved to the object that it leads to. -/
theorem Leads.resolve_eq {heap : Heap} {avoided : List ObjectId} {value : Value}
    {path : List Segment} {target : ObjectId} (led : Leads heap avoided value path target)
    (hdistinct : ∀ object ∈ heap.objects, Script.FieldsDistinct object ∧ TextKeysDistinct object) :
    resolve heap value path = some (.ref target) := by
  induction led with
  | here => rfl
  | step _ found _ step _ ih =>
    obtain ⟨hfields, hkeys⟩ := hdistinct _ (Array.mem_of_getElem? found)
    rw [resolve, found, Option.bind_eq_bind, Option.bind_some, step.follow_eq hfields hkeys,
      Option.bind_eq_bind, Option.bind_some, ih]

/-- Handles with different numbers are different. -/
lemma handle_inj {stem : String} {m n : Nat} (h : handle stem m = handle stem n) : m = n := by
  have hdigits : toString m = toString n := String.append_right_inj stem |>.mp h
  exact Nat.repr_inj.mp hdigits

/-- Every object that was found has an entry of its own, in the order in which they were found. -/
lemma entries_handleTable (stem : String) (found : List Found) :
    (handleTable stem found).entries =
      found.zipIdx.map fun (f, n) => (stem ++ toString n, render f.path) := by
  have keys : (found.zipIdx.map fun (f, n) => (handle stem n, render f.path)).map Prod.fst =
      (List.range found.length).map (handle stem) := by
    rw [List.range_eq_range', ← List.zipIdx_map_snd 0 found, List.map_map, List.map_map]
    rfl
  apply TextMap.entries_foldl_insert
  change ([] ++ _ : List (String × String)).map Prod.fst |>.Nodup
  rw [List.nil_append, keys]
  exact List.nodup_range.map fun _ _ => handle_inj

/-- What is registered of the remote objects that were found from a payload. -/
structure Registers (p : Payload) (stem : String) (found : List Found) (paths : TextMap) :
    Prop where
  /-- The objects that are registered are the remote ones that a path leads to from the value. -/
  reached : ∀ id, id ∈ found.map Found.object ↔
    IsRemoteAt p.heap id ∧ ∃ path, Leads p.heap [] p.value path id
  /-- Each of them is registered once. -/
  once : (found.map Found.object).Nodup
  /-- They are numbered in the order in which they were found. -/
  numbered : paths.entries = found.zipIdx.map fun (f, n) => (stem ++ toString n, render f.path)
  /-- Each is registered with a path that leads to it. -/
  led : ∀ f ∈ found, Leads p.heap [] p.value f.path f.object
  /-- The path is resolved to the object if it says at every step where to go. -/
  resolved : (∀ object ∈ p.heap.objects, Script.FieldsDistinct object ∧ TextKeysDistinct object) →
    ∀ f ∈ found, resolve p.heap p.value f.path = some (.ref f.object)

/-- The remote objects that are found from a payload are registered. -/
lemma registers_scan {p : Payload} {stem : String} {found : List Found} (h : scan p = .ok found) :
    Registers p stem found (handleTable stem found) := by
  have led : ∀ f ∈ found, IsRemoteAt p.heap f.object ∧ Leads p.heap [] p.value f.path f.object := by
    intro f hf
    obtain ⟨remote, q, hq, path, hpath, hled⟩ := visit_sound h f hf
    cases List.mem_singleton.mp hq
    rw [hpath]
    exact ⟨remote, hled⟩
  refine ⟨fun id => ⟨fun hmem => ?_, fun ⟨remote, path, hled⟩ => ?_⟩, visit_nodup h,
    entries_handleTable stem found, fun f hf => (led f hf).2, fun hdistinct f hf => ?_⟩
  · obtain ⟨f, hf, rfl⟩ := List.mem_map.mp hmem
    exact ⟨(led f hf).1, f.path, (led f hf).2⟩
  · exact visit_complete h List.mem_cons_self remote hled
  · exact (led f hf).2.resolve_eq hdistinct

end RemotePath

namespace CallRecord

open RemotePath (Registers)
open Script (ScriptError)

/-- What looking for remote objects answers, and the record that it leaves. -/
def searchRemote (r : CallRecord) (stem : String) : Except ScriptError Nat × CallRecord :=
  match (search stem).run r with
  | .ok count left => (.ok count, left)
  | .error e left => (.error e, left)

/-- What looking for remote objects leaves of a record. -/
structure Annotates (r : CallRecord) (stem : String) : Prop where
  /-- What is found in a returned value is noted, and nothing else in the record changes. -/
  noted : ∀ p paths, r.outcome = some (.returned p) → RemotePath.table p stem = .ok paths →
    paths.entries ≠ [] →
    r.searchRemote stem = (.ok paths.size, { r with remoteReturned := true, remotePaths := paths })
  /-- If nothing is found the record stays as it was. -/
  nothing : ∀ p paths, r.outcome = some (.returned p) → RemotePath.table p stem = .ok paths →
    paths.entries = [] → r.searchRemote stem = (.ok 0, r)
  /-- If the walk fails the record stays as it was. -/
  failed : ∀ p e, r.outcome = some (.returned p) → RemotePath.table p stem = .error e →
    r.searchRemote stem = (.error e, r)
  /-- If the call has thrown a failure or has not ended the record stays as it was. -/
  notReturned : (∀ p, r.outcome ≠ some (.returned p)) → r.searchRemote stem = (.ok 0, r)

/-- The record that is left is the one that looking for remote objects is said to lead to at once,
and the record as it was if that fails. -/
lemma searchRemote_eq (r : CallRecord) (stem : String) : r.searchRemote stem =
    match r.annotate stem with
    | .ok (count, annotated) => (.ok count, annotated)
    | .error e => (.error e, r) := by
  rw [searchRemote, run_search]
  cases r.annotate stem <;> rfl

/-- Every record is annotated as it should be. -/
lemma annotates (r : CallRecord) (stem : String) : r.Annotates stem where
  noted := by
    intro p paths hreturned htable hsome
    have hsize : paths.size ≠ 0 := fun h => hsome (List.length_eq_zero_iff.mp h)
    rw [searchRemote_eq, annotate_of_returned hreturned, htable, Except.map, if_neg hsize]
    rfl
  nothing := by
    intro p paths hreturned htable hnone
    have hsize : paths.size = 0 := List.length_eq_zero_iff.mpr hnone
    rw [searchRemote_eq, annotate_of_returned hreturned, htable, Except.map, if_pos hsize]
  failed := by
    intro p e hreturned htable
    rw [searchRemote_eq, annotate_of_returned hreturned, htable, Except.map]
  notReturned := by
    intro hother
    rw [searchRemote_eq, annotate_of_not_returned hother]

/-- If the walk from a value does not fail it has registered every remote object that a path leads
to, once, under its number and with a path that leads to it. A record of a call that has returned
the value notes just this, and in every other case the record stays as it was. -/
theorem annotate_registers (r : CallRecord) (stem : String) :
    (∀ p paths, RemotePath.table p stem = .ok paths →
      ∃ found, RemotePath.scan p = .ok found ∧ Registers p stem found paths) ∧
      r.Annotates stem := by
  refine ⟨fun p paths h => ?_, r.annotates stem⟩
  obtain ⟨found, hscan, rfl⟩ := map_eq_ok_iff.mp h
  exact ⟨found, hscan, RemotePath.registers_scan hscan⟩

/-- A folder. Its items hold a remote object and the folder itself. Its index, a map, holds the same
object under a text, another under a number, and one more in a list. The first remote object holds a
remote object of its own, and a field of the folder could not be read. -/
def folder : Payload where
  heap := ⟨#[
    .struct ⟨"p.Folder", true, false, [⟨"hidden", .named "p.Stub", {}, true, .inaccessible⟩,
      ⟨"items", .array (.named "p.Item"), {}, true, .value (.ref ⟨1⟩)⟩,
      ⟨"index", .named "p.Map", {}, true, .value (.ref ⟨2⟩)⟩]⟩,
    .array (.named "p.Item") [.null, .ref ⟨3⟩, .ref ⟨0⟩],
    .map "p.Map" [(.text "a", .ref ⟨3⟩), (.scalar (.int 7), .ref ⟨4⟩), (.text "b", .ref ⟨5⟩)],
    .struct ⟨"p.Stub", true, true, [⟨"next", .named "p.Stub", {}, true, .value (.ref ⟨6⟩)⟩]⟩,
    .struct ⟨"p.Stub", true, true, []⟩,
    .collection "p.List" [.ref ⟨7⟩],
    .struct ⟨"p.Stub", true, true, []⟩,
    .struct ⟨"p.Stub", true, true, []⟩]⟩
  value := .ref ⟨0⟩

/-- A call that has returned the folder. -/
def folderCall : CallRecord :=
  { new 3 "p.Remote" "open" none ⟨.empty, []⟩ with outcome := some (.returned folder) }

/-- The remote objects in the folder are registered on the paths on which they are met first. The
one behind another remote object is not. -/
theorem annotate_registers_folder : ∃ paths found, RemotePath.table folder "h" = .ok paths ∧
    RemotePath.scan folder = .ok found ∧ found.map RemotePath.Found.object = [⟨3⟩, ⟨4⟩, ⟨7⟩] ∧
    paths.entries = [("h0", ".items[1]"), ("h1", ".index.values().toArray()[1]"),
      ("h2", ".index.get(\"b\").toArray()[0]")] ∧
    (∀ f ∈ found, RemotePath.resolve folder.heap folder.value f.path = some (.ref f.object)) ∧
    folderCall.searchRemote "h" =
      (.ok 3, { folderCall with remoteReturned := true, remotePaths := paths }) := by
  have hscan : RemotePath.scan folder = .ok [⟨⟨3⟩, [.field "items", .index 1]⟩,
      ⟨⟨4⟩, [.field "index", .entry 1]⟩, ⟨⟨7⟩, [.field "index", .key "b", .element 0]⟩] := by cbv
  have hdistinct : ∀ object ∈ folder.heap.objects,
      Script.FieldsDistinct object ∧ RemotePath.TextKeysDistinct object := by
    simp [folder, Script.FieldsDistinct, RemotePath.TextKeysDistinct, RemotePath.textKeys]
  obtain ⟨paths, htable⟩ : ∃ paths, RemotePath.table folder "h" = .ok paths :=
    ⟨_, map_eq_ok_iff.mpr ⟨_, hscan, rfl⟩⟩
  obtain ⟨registers, annotates⟩ := annotate_registers folderCall "h"
  obtain ⟨found, hfound, hregisters⟩ := registers folder paths htable
  cases hscan.symm.trans hfound
  have hentries : paths.entries = [("h0", ".items[1]"), ("h1", ".index.values().toArray()[1]"),
      ("h2", ".index.get(\"b\").toArray()[0]")] := by
    rw [hregisters.numbered]
    decide +kernel
  have hsize : paths.size = 3 := by
    rw [TextMap.size, hentries]
    rfl
  have hnoted :=
    annotates.noted folder paths rfl htable (by rw [hentries]; exact List.cons_ne_nil _ _)
  rw [hsize] at hnoted
  exact ⟨paths, _, htable, hscan, rfl, hentries, hregisters.resolved hdistinct, hnoted⟩

end CallRecord

end CallReplay
