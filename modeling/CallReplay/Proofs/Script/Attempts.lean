import CallReplay.Proofs.Script.Depth
import CallReplay.Proofs.Script.Identity

/-!
# Calls that fail

Values may be compiled one after another although some calls fail. An object is given its variable
before what it holds is compiled, and a fault does not take the variable back. So whatever comes of
a call, it gives variables to objects of its graph, and to no others (`Enters`); what has a variable
keeps it. If the call succeeds, its statements create these objects; if it fails, the names report
variables that nothing has been assigned to, and a later call may copy them.
-/

namespace CallReplay.Script

/-- How the names change along a run over tasks that may end at any task: objects without a variable
are given one, and then their own tasks are next. -/
inductive Enters (heap : Heap) : Names → List Task → Names → Prop where
  | stop {n tasks} :
    Enters heap n tasks n
  | pass {n n' task rest} :
    Enters heap n rest n' →
    Enters heap n (task :: rest) n'
  | create {n n' name id hint object rest} :
    heap.get? id = some object →
    n.find? id = none →
    Enters heap (n.insert id name) (objectTasks heap object name ++ rest) n' →
    Enters heap n (.compile ⟨name, .ref id⟩ hint :: rest) n'

/-- The objects that tasks lead to, each with a variable that is asked for it. -/
inductive Asked (heap : Heap) (tasks : List Task) : ObjectId × String → Prop where
  | task {entry} :
    entry ∈ references tasks →
    Asked heap tasks entry
  | held {parent entry} :
    Asked heap tasks parent →
    entry ∈ metIn heap parent →
    Asked heap tasks entry

section

variable {heap : Heap} {options : Options} {n n' m : Names} {tasks a b : List Task}

/-- Tasks may be passed over. -/
lemma Enters.pass_all (first : List Task) (run : Enters heap n b n') :
    Enters heap n (first ++ b) n' := by
  induction first with
  | nil => exact run
  | cons task rest ih => exact .pass ih

/-- What is entered on behalf of tasks one after another is entered on behalf of all. -/
lemma Enters.append (run : Enters heap n a m) (next : Enters heap m b n') :
    Enters heap n (a ++ b) n' := by
  induction run with
  | stop => exact next.pass_all _
  | pass _ ih => exact .pass (ih next)
  | create found new _ ih => exact .create found new (by simpa using ih next)

/-- What is made of a result does not change the names that are left. -/
lemma outcome_bind_pure {α β : Type} (x : Compile α) (f : α → β) (n : Names) :
    (outcome (x >>= fun a => pure (f a)) n).2 = (outcome x n).2 := by
  rw [outcome_bind]
  rcases outcome x n with ⟨_ | _, _⟩ <;> rfl

/-- What compiling a value leaves, whatever comes of it, if compiling an object leaves the like. -/
lemma enters_compileValue {nested : ObjectId → String → Compile Scriptlet}
    (hnested : ∀ id name hint n, Enters heap n [.compile ⟨name, .ref id⟩ hint]
      (outcome (nested id name) n).2) (item : Holder) (hint : Option TypeDesc) (n : Names) :
    Enters heap n [.compile item hint]
      (outcome (compileValue nested item.value item.name hint) n).2 := by
  obtain ⟨name, value⟩ := item
  cases value with
  | ref id => exact hnested id name hint n
  | null | classOf => exact .stop
  | scalar s =>
    cases s with
    | char c =>
      simp only [compileValue]
      split <;> exact .stop
    | _ => exact .stop

/-- Whatever comes of tasks, objects are entered one after another, if this is so of each object. -/
lemma enters_runTasks {nested : ObjectId → String → Compile Scriptlet}
    (hnested : ∀ id name hint n, Enters heap n [.compile ⟨name, .ref id⟩ hint]
      (outcome (nested id name) n).2) (tasks : List Task) (n : Names) : Enters heap n tasks
      (outcome (runTasks heap nested tasks) n).2 := by
  induction tasks generalizing n with
  | nil => exact .stop
  | cons task rest ih =>
    have first : Enters heap n [task] (outcome (runTask heap nested task) n).2 := by
      cases task with
      | look id =>
        simp only [runTask, Heap.get]
        cases heap.get? id <;> exact .stop
      | store receiver change => exact .stop
      | compile item hint => exact enters_compileValue hnested item hint n
    rw [runTasks, outcome_bind]
    rcases ended : outcome (runTask heap nested task) n with ⟨e | part, m⟩
    · rw [ended] at first
      exact first.append .stop
    · rw [ended] at first
      simp only [outcome_bind_pure]
      exact first.append (ih m)

/-- Whatever comes of compiling an object, the objects that have got variables are entered
one after another. -/
theorem enters_compileObject (room : Nat) (id : ObjectId) (name : String) (hint : Option TypeDesc)
    (n : Names) :
    Enters heap n [.compile ⟨name, .ref id⟩ hint]
      (outcome (compileObject heap options room id name) n).2 := by
  induction room generalizing id name hint n with
  | zero =>
    rw [outcome_compileObject]
    cases heap.get? id with
    | none => exact .stop
    | some object => cases n.find? id <;> exact .stop
  | succ room ih =>
    rw [outcome_compileObject]
    cases found : heap.get? id with
    | none => exact .stop
    | some object =>
      cases new : n.find? id with
      | some previous => exact .stop
      | none =>
        simp only [outcome_bind_pure]
        refine .create found new ?_
        rw [List.append_nil]
        exact enters_runTasks ih _ _

/-- An entry that tasks ask for is asked for by others that ask for as much. -/
lemma Asked.mono {entry : ObjectId × String} (asked : Asked heap a entry)
    (h : ∀ other ∈ references a, Asked heap b other) : Asked heap b entry := by
  induction asked with
  | task hentry => exact h _ hentry
  | held _ hentry ih => exact ih.held hentry

/-- An entry that tasks ask for is asked for when there is one more. -/
lemma Asked.cons {entry : ObjectId × String} (asked : Asked heap tasks entry) (task : Task) :
    Asked heap (task :: tasks) entry := by
  refine asked.mono fun other hother => .task ?_
  rw [← List.singleton_append, references_append]
  exact List.mem_append_right _ hother

/-- The objects that are entered along a run exist, are asked for, and had no variable before. -/
theorem Enters.entered (run : Enters heap n tasks n') : ∃ new, n'.entries = new ++ n.entries ∧
    ∀ entry ∈ new, n.find? entry.1 = none ∧ (∃ object, heap.get? entry.1 = some object) ∧
      Asked heap tasks entry := by
  induction run with
  | stop => exact ⟨[], rfl, by simp⟩
  | @pass n n' task rest _ ih =>
    obtain ⟨new, hentries, hnew⟩ := ih
    refine ⟨new, hentries, fun entry hentry => ?_⟩
    obtain ⟨fresh, found, asked⟩ := hnew entry hentry
    exact ⟨fresh, found, asked.cons task⟩
  | @create n n' name id hint object rest found absent _ ih =>
    obtain ⟨new, hentries, hnew⟩ := ih
    have first : (id, name) ∈ references (.compile ⟨name, .ref id⟩ hint :: rest) :=
      List.mem_cons_self
    refine ⟨new ++ [(id, name)], by simpa [Names.insert] using hentries, fun entry hentry => ?_⟩
    rcases List.mem_append.mp hentry with hentry | hentry
    · obtain ⟨fresh, found', asked⟩ := hnew entry hentry
      refine ⟨?_, found', asked.mono fun other hother => ?_⟩
      · rw [Names.find?_insert] at fresh
        split at fresh
        · cases fresh
        · exact fresh
      · rw [references_append] at hother
        rcases List.mem_append.mp hother with hother | hother
        · exact (Asked.task first).held (by simpa [metIn, found] using hother)
        · exact (Asked.task hother).cons _
    · cases List.mem_singleton.mp hentry
      exact ⟨absent, ⟨object, found⟩, .task first⟩

/-- The objects that had a variable keep it. -/
lemma Enters.entries_suffix (run : Enters heap n tasks n') : n.entries <:+ n'.entries := by
  obtain ⟨new, hentries, _⟩ := run.entered
  exact ⟨new, hentries.symm⟩

/-- No object gets a second variable. -/
lemma Enters.distinct (run : Enters heap n tasks n') (h : n.Distinct) : n'.Distinct := by
  induction run with
  | stop => exact h
  | pass _ ih => exact ih h
  | create _ new _ ih => exact ih (h.insert new)

/-- An object that tasks refer to is a value that they regard. -/
lemma mem_regarded_of_references {entry : ObjectId × String} (h : entry ∈ references tasks) :
    .ref entry.1 ∈ regarded tasks := by
  obtain ⟨⟨name, value⟩, hitem, hentry⟩ := List.mem_filterMap.mp h
  obtain ⟨id, hid, rfl⟩ := Option.map_eq_some_iff.mp hentry
  obtain ⟨task, htask, hitem⟩ := List.mem_filterMap.mp hitem
  cases value <;> cases hid
  cases task <;> cases hitem
  exact List.mem_filterMap.mpr ⟨_, htask, rfl⟩

/-- An object is asked for only if the values that tasks look at lead to it. -/
lemma Asked.reaches {entry : ObjectId × String} (asked : Asked heap tasks entry) :
    heap.Reaches (regarded tasks) entry.1 := by
  induction asked with
  | task hentry => exact .root (mem_regarded_of_references hentry)
  | @held parent entry _ hentry ih =>
    obtain ⟨id, name⟩ := parent
    simp only [metIn] at hentry
    split at hentry
    · rename_i object found
      exact ih.step ⟨object, found, mem_regarded_objectTasks (mem_regarded_of_references hentry)⟩
    · cases hentry

/-- A variable that was given once is found ever after. -/
lemma Names.Distinct.find?_of_suffix (h : n'.Distinct) (hsuffix : n.entries <:+ n'.entries)
    {id : ObjectId} {name : String} (hfind : n.find? id = some name) : n'.find? id = some name := by
  have distinct : n.Distinct := h.sublist (hsuffix.sublist.map Prod.fst)
  rw [distinct.find?_eq_some_iff] at hfind
  exact h.find?_eq_some_iff.mpr (hsuffix.mem hfind)

/-- An object that has got a variable is among what is new. -/
lemma Names.Distinct.mem_new (h : n'.Distinct) {new : List (ObjectId × String)}
    (hentries : n'.entries = new ++ n.entries) {id : ObjectId} {name : String}
    (hnone : n.find? id = none) (hfind : n'.find? id = some name) : (id, name) ∈ new := by
  rw [h.find?_eq_some_iff, hentries] at hfind
  refine (List.mem_append.mp hfind).resolve_right fun hold => ?_
  exact Names.find?_eq_none_iff.mp hnone (List.mem_map_of_mem hold)

/-- A variable that a run copies is the one that the names report for an object of the type. -/
theorem Emits.aliased {out : List Statement} (run : Emits heap options n tasks out n')
    (h : n.Distinct) {type : TypeDesc} {name previous : String}
    (hmem : .copy type name previous ∈ out) :
    ∃ id object, heap.get? id = some object ∧ type = object.runtimeType ∧
    n'.find? id = some previous := by
  induction run with
  | done => cases hmem
  | look _ _ ih => exact ih h hmem
  | store _ ih =>
    rcases List.mem_cons.mp hmem with hstore | hmem
    · cases (holdsObject_statement _ _).symm.trans (congrArg Statement.holdsObject hstore.symm)
    · exact ih h hmem
  | leaf plain _ ih =>
    rcases List.mem_cons.mp hmem with rfl | hmem
    · cases holdsObject_leaf? plain
    · exact ih h hmem
  | @copy n n' _ id hint object _ rest out found known run ih =>
    rcases List.mem_cons.mp hmem with hcopy | hmem
    · cases hcopy
      exact ⟨id, object, found, rfl, (run.distinct h).find?_of_suffix run.entries_suffix known⟩
    · exact ih h hmem
  | create _ new _ ih =>
    rcases List.mem_cons.mp hmem with hcreate | hmem
    · cases (creates_construction ..).isConstruction.symm.trans
        (congrArg Statement.isConstruction hcreate.symm)
    · exact ih (h.insert new) hmem

end

/-- One call of several: the names before it, what came of it, and the names after it. -/
structure Attempt where
  call : Call
  before : Names
  result : Except ScriptError Scriptlet
  after : Names

/-- Makes a call. -/
def attempt (heap : Heap) (options : Options) (n : Names) (call : Call) : Attempt :=
  let ended := outcome (compile heap options call.item.value call.item.name call.hint) n
  ⟨call, n, ended.1, ended.2⟩

/-- Makes calls one after another, whether they fail or not. -/
def attempts (heap : Heap) (options : Options) : Names → List Call → List Attempt
  | _, [] => []
  | n, call :: rest =>
    attempt heap options n call :: attempts heap options (attempt heap options n call).after rest

namespace Attempt

/-- A call that has succeeded with some statements. -/
structure Returns (heap : Heap) (options : Options) (a : Attempt) (s : Scriptlet) : Prop where
  /-- The statements create the objects that have got a variable, and no others, in the order
  of the entries. -/
  created : ∃ new, a.after.entries = new ++ a.before.entries ∧
    (s.statements.filter Statement.isConstruction).map some = new.reverse.map fun entry =>
      (heap.get? entry.1).map fun object => construction options object entry.2
  declared : ∀ id name, a.before.find? id = none → a.after.find? id = some name →
    ∃ object, heap.get? id = some object ∧ construction options object name ∈ s.statements
  /-- A variable that is copied is one that the names report for an object of the type. -/
  aliased : ∀ type name previous, .copy type name previous ∈ s.statements →
    ∃ id object, heap.get? id = some object ∧ type = object.runtimeType ∧
    a.after.find? id = some previous
  /-- A variable that is read was reported before the call, or an earlier statement has given
  it a value. -/
  assigned : ∀ (i : Nat) (t : Statement), s.statements[i]? = some t → ∀ x ∈ t.reads,
    (∃ id, a.before.find? id = some x) ∨
      ∃ (j : Nat) (t' : Statement), j < i ∧ s.statements[j]? = some t' ∧ t'.assigned? = some x

/-- A call that has failed with some error. -/
structure Fails (heap : Heap) (options : Options) (a : Attempt) (e : ScriptError) : Prop where
  /-- Some value in the graph is not sound, or the objects of a chain that starts at the value
  of the call, none of which had a variable, are more than the limit allows. Calls made before
  do not count. -/
  cause : (∃ cause value, e = .graph cause ∧ heap.checkValue value = .error cause ∧
      heap.Meets [a.call.item.value] value) ∨
    e = .nestingTooDeep options.maxDepth ∧ ∃ id ids, a.call.item.value = .ref id ∧
    heap.IsChain (id :: ids) ∧
      ids.length = options.maxDepth ∧ ∀ other ∈ id :: ids, a.before.find? other = none
  /-- A variable for the object of the call is left, unless it was not entered; then nothing is. -/
  left :
    (∃ id object, a.call.item.value = .ref id ∧ heap.get? id = some object ∧ options.maxDepth ≠ 0 ∧
      a.before.find? id = none ∧ a.after.find? id = some a.call.item.name) ∨
    a.after = a.before ∧
    (options.maxDepth = 0 ∨ ∀ id, a.call.item.value = .ref id → heap.get? id = none)

/-- What a call does, whatever comes of it. -/
structure Lawful (heap : Heap) (options : Options) (a : Attempt) : Prop where
  distinct : a.after.Distinct
  kept : ∀ id name, a.before.find? id = some name → a.after.find? id = some name
  /-- An object that gets a variable is one that the value of the call leads to. -/
  entered : ∀ id name, a.before.find? id = none → a.after.find? id = some name →
    Asked heap [a.call.task] (id, name) ∧ heap.Reaches [a.call.item.value] id ∧
      ∃ object, heap.get? id = some object
  returns : ∀ s, a.result = .ok s → a.Returns heap options s
  fails : ∀ e, a.result = .error e → a.Fails heap options e

end Attempt

section

variable {heap : Heap} {options : Options} {n n' : Names} {call : Call}

/-- Whatever comes of a call, objects are entered one after another. -/
lemma enters_attempt (n : Names) (call : Call) :
    Enters heap n [call.task] (attempt heap options n call).after :=
  enters_compileValue (enters_compileObject options.maxDepth) call.item call.hint n

/-- The statements of a call that succeeds. -/
lemma attempt_returns (h : n.Distinct) {s : Scriptlet}
    (hresult : (attempt heap options n call).result = .ok s) :
    (attempt heap options n call).Returns heap options s := by
  have run : Emits heap options n [call.task] s.statements (attempt heap options n call).after :=
    emits_of_compile (Prod.ext hresult rfl)
  obtain ⟨new, hentries, hconstructed⟩ := run.constructed
  refine ⟨⟨new, hentries, hconstructed⟩, ?_, fun _ _ _ => run.aliased h, ?_⟩
  · intro id name hnone hfind
    have hnew := (run.distinct h).mem_new hentries hnone hfind
    obtain ⟨object, found, hmem⟩ := mem_of_constructed hconstructed (List.mem_reverse.mpr hnew)
    exact ⟨object, found, List.mem_of_mem_filter hmem⟩
  · intro i t hi x hx
    have covered : n.Covered (n.entries.map fun entry => ⟨entry.2, .ref entry.1⟩) :=
      fun id name hfind => List.mem_map_of_mem (h.find?_eq_some_iff.mp hfind)
    have inScope := run.wellScoped covered (supplied_of_no_store (by simp [Call.task]))
    refine (inScope.assigned_before hi hx).imp_left fun hknown => ?_
    simp only [List.map_map, List.mem_map] at hknown
    obtain ⟨⟨id, name⟩, hentry, rfl⟩ := hknown
    exact ⟨id, h.find?_eq_some_iff.mpr hentry⟩

/-- What a call that fails leaves. -/
lemma attempt_fails (h : n.Distinct) {e : ScriptError}
    (hresult : (attempt heap options n call).result = .error e) :
    (attempt heap options n call).Fails heap options e := by
  have ended : outcome (compile heap options call.item.value call.item.name call.hint) n =
      (.error e, (attempt heap options n call).after) := Prod.ext hresult rfl
  have failed : (∃ cause, e = .graph cause ∧ heap.checkValue call.item.value = .error cause ∧
      (attempt heap options n call).after = n) ∨ ∃ id, call.item.value = .ref id ∧
        outcome (compileObject heap options options.maxDepth id call.item.name) n =
          (.error e, (attempt heap options n call).after) := outcome_compileValue_error ended
  rcases failed with ⟨cause, rfl, unsound, same⟩ | ⟨id, href, hobject⟩
  · refine ⟨.inl ⟨cause, _, rfl, unsound, .inl List.mem_cons_self⟩,
      .inr ⟨same, .inr fun id href => ?_⟩⟩
    by_contra present
    have sound := Heap.sound_ref_iff.mpr (Option.ne_none_iff_exists'.mp present)
    rw [← href] at sound
    cases sound.symm.trans unsound
  have reached : heap.Reaches [call.item.value] id := .root (by simp [href])
  refine ⟨?_, ?_⟩
  · rcases outcome_compileObject_error reached hobject
      with unsound | ⟨rfl, ids, chain, hlength, fresh⟩
    · exact .inl unsound
    · exact .inr ⟨rfl, id, ids, href, chain, hlength, fresh⟩
  rcases outcome_compileObject_cases hobject with
    ⟨missing, _, same⟩ | ⟨object, found, new, ⟨limit, _, same⟩ | ⟨room, limit, htasks⟩⟩
  · refine .inr ⟨same, .inr fun other hother => ?_⟩
    cases href.symm.trans hother
    exact missing
  · exact .inr ⟨same, .inl limit⟩
  · -- The entry made before the tasks of the object is still there when they have failed.
    have run : Enters heap (n.insert id call.item.name) (objectTasks heap object call.item.name)
        (outcome
          (runTasks heap (compileObject heap options room) (objectTasks heap object call.item.name))
          (n.insert id call.item.name)).2 := enters_runTasks (enters_compileObject room) _ _
    rw [htasks] at run
    have entry : (n.insert id call.item.name).find? id = some call.item.name := by
      rw [Names.find?_insert, if_pos rfl]
    have left := (run.distinct (h.insert new)).find?_of_suffix run.entries_suffix entry
    exact .inl ⟨id, object, href, found, by omega, new, left⟩

/-- Every attempt is lawful if no object had two variables before it. -/
lemma attempt_lawful (h : n.Distinct) (call : Call) :
    (attempt heap options n call).Lawful heap options := by
  have run : Enters heap n [call.task] (attempt heap options n call).after := enters_attempt n call
  refine ⟨run.distinct h, fun id name => (run.distinct h).find?_of_suffix run.entries_suffix, ?_,
    fun _ => attempt_returns h, fun _ => attempt_fails h⟩
  intro id name hnone hfind
  obtain ⟨new, hentries, hnew⟩ := run.entered
  obtain ⟨_, found, asked⟩ := hnew _ ((run.distinct h).mem_new hentries hnone hfind)
  exact ⟨asked, asked.reaches, found⟩

/-- Calls find the names that those before them have left. -/
lemma lawful_of_mem_attempts (h : n.Distinct) {calls : List Call} {a : Attempt}
    (ha : a ∈ attempts heap options n calls) :
    a.Lawful heap options ∧ n.entries <:+ a.after.entries := by
  induction calls generalizing n with
  | nil => cases ha
  | cons call rest ih =>
    have first : Enters heap n [call.task] (attempt heap options n call).after :=
      enters_attempt n call
    rcases List.mem_cons.mp ha with rfl | ha
    · exact ⟨attempt_lawful h call, first.entries_suffix⟩
    · obtain ⟨lawful, later⟩ := ih (first.distinct h) ha
      exact ⟨lawful, first.entries_suffix.trans later⟩

end

/-- What several calls do to the names, and what of it their statements account for. -/
structure Traced (heap : Heap) (options : Options) (calls : List Call) (all : List Attempt) :
    Prop where
  calls : all.map Attempt.call = calls
  lawful : ∀ a ∈ all, a.Lawful heap options
  /-- No entry is changed by a later call. -/
  kept : ∀ (i j : Nat) (a b : Attempt), i ≤ j → all[i]? = some a → all[j]? = some b →
    ∀ id name, a.after.find? id = some name → b.after.find? id = some name
  /-- A variable that is reported comes from one call. The statements that this call returned create
  the object in the variable, or the call has failed. -/
  origin : ∀ (i : Nat) (a : Attempt), all[i]? = some a → ∀ id name, a.after.find? id = some name →
    ∃ (j : Nat) (b : Attempt), j ≤ i ∧ all[j]? = some b ∧ b.before.find? id = none ∧
      b.after.find? id = some name ∧
      ((∃ s object, b.result = .ok s ∧ heap.get? id = some object ∧
          construction options object name ∈ s.statements) ∨ ∃ e, b.result = .error e)

section

variable {heap : Heap} {options : Options} {n : Names} {calls : List Call}

/-- There is an attempt for each call. -/
lemma map_call_attempts (n : Names) (calls : List Call) :
    (attempts heap options n calls).map Attempt.call = calls := by
  induction calls generalizing n with
  | nil => rfl
  | cons call rest ih => exact congrArg _ (ih _)

/-- A variable that is reported after a call is reported after every later one. -/
lemma attempts_kept (h : n.Distinct) {i j : Nat} {a b : Attempt} (hij : i ≤ j)
    (hi : (attempts heap options n calls)[i]? = some a)
    (hj : (attempts heap options n calls)[j]? = some b) {id : ObjectId} {name : String}
    (hfind : a.after.find? id = some name) : b.after.find? id = some name := by
  induction calls generalizing n i j with
  | nil => cases hi
  | cons call rest ih =>
    have later : (attempt heap options n call).after.Distinct := (enters_attempt n call).distinct h
    cases j with
    | zero =>
      cases Nat.le_zero.mp hij
      cases hi.symm.trans hj
      exact hfind
    | succ j =>
      cases i with
      | succ i => exact ih later (Nat.le_of_succ_le_succ hij) hi hj
      | zero =>
        cases hi
        obtain ⟨lawful, grown⟩ := lawful_of_mem_attempts later (List.mem_of_getElem? hj)
        exact lawful.distinct.find?_of_suffix grown hfind

/-- A variable that is reported after some calls was reported before them, or one of them
has given it. -/
lemma attempts_origin (h : n.Distinct) {i : Nat} {a : Attempt}
    (hi : (attempts heap options n calls)[i]? = some a) {id : ObjectId} {name : String}
    (hfind : a.after.find? id = some name) :
    n.find? id = some name ∨ ∃ j b, j ≤ i ∧ (attempts heap options n calls)[j]? = some b ∧
      b.before.find? id = none ∧ b.after.find? id = some name := by
  induction calls generalizing n i with
  | nil => cases hi
  | cons call rest ih =>
    have first : (attempt heap options n call).Lawful heap options := attempt_lawful h call
    -- A variable that is reported after the first call is from before, or it is new.
    have now (hfind : (attempt heap options n call).after.find? id = some name) :
        n.find? id = some name ∨ n.find? id = none := by
      cases hbefore : n.find? id with
      | none => exact .inr rfl
      | some other => exact .inl ((first.kept id other hbefore).symm.trans hfind)
    cases i with
    | zero =>
      cases hi
      exact (now hfind).imp_right fun hnone => ⟨0, _, Nat.le_refl 0, rfl, hnone, hfind⟩
    | succ i =>
      rcases ih first.distinct hi with hfirst | ⟨j, b, hj, hb, hnone, hgiven⟩
      · exact (now hfirst).imp_right fun hnone => ⟨0, _, Nat.zero_le _, rfl, hnone, hfirst⟩
      · exact .inr ⟨j + 1, b, Nat.succ_le_succ hj, hb, hnone, hgiven⟩

/-- Whether calls fail or not, the names that they leave are accounted for call by call. -/
theorem attempts_traced (heap : Heap) (options : Options) (calls : List Call) :
    Traced heap options calls (attempts heap options .empty calls) where
  calls := map_call_attempts .empty calls
  lawful := fun _ ha => (lawful_of_mem_attempts Names.distinct_empty ha).1
  kept := fun _ _ _ _ hij hi hj _ _ => attempts_kept Names.distinct_empty hij hi hj
  origin := by
    intro i a hi id name hfind
    rcases attempts_origin Names.distinct_empty hi hfind with hempty | ⟨j, b, hj, hb, hnone, hgiven⟩
    · cases hempty
    refine ⟨j, b, hj, hb, hnone, hgiven, ?_⟩
    have lawful := (lawful_of_mem_attempts Names.distinct_empty (List.mem_of_getElem? hb)).1
    cases hresult : b.result with
    | error e => exact .inr ⟨e, rfl⟩
    | ok s =>
      obtain ⟨object, found, hmem⟩ := (lawful.returns s hresult).declared id name hnone hgiven
      exact .inl ⟨s, object, rfl, found, hmem⟩

end

/-- A list with a reference that leads nowhere. -/
def brokenHeap : Heap := ⟨#[.collection "p.List" [.ref ⟨7⟩]]⟩

/-- The list is compiled into one variable, which fails, and then into another one, which succeeds
with a copy of the first. No statement gives the first variable a value, but the names report it. -/
theorem attempts_phantom : ∃ failed copied s,
    attempts brokenHeap {} .empty [⟨⟨"x", .ref ⟨0⟩⟩, none⟩, ⟨⟨"y", .ref ⟨0⟩⟩, none⟩] =
    [failed, copied] ∧
      failed.result = .error (.graph (.objectNotFound ⟨7⟩)) ∧ copied.result = .ok s ∧
      copied.after.find? ⟨0⟩ = some "x" ∧ .copy (.named "p.List") "y" "x" ∈ s.statements ∧
      (∀ object, construction {} object "x" ∉ s.statements) ∧
      ∀ t ∈ s.statements, t.assigned? ≠ some "x" := by
  refine ⟨_, _, .single (.copy (.named "p.List") "y" "x"),
    rfl, by cbv, by cbv, by cbv, List.mem_cons_self, ?_, ?_⟩
  · intro object hmem
    cases (creates_construction {} object "x").isConstruction.symm.trans
      (congrArg Statement.isConstruction (List.mem_singleton.mp hmem))
  · intro t hmem
    cases List.mem_singleton.mp hmem
    decide

end CallReplay.Script
