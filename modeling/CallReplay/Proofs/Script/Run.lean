import CallReplay.Proofs.Script.Plan

/-!
# Runs of the compiler

The result of a computation of the compiler is its value or its error, with the names that it
leaves. `Emits` follows a successful run task by task: it says which statements come out of a list
of tasks and which names are known afterwards. When an object is met for the first time, its own
tasks are put in front of those that are left, so a run is a plain sequence and facts about it are
proved by one induction. `emits_of_runTasks` leads from the compiler to `Emits`.
-/

namespace CallReplay.Script

namespace Names

/-- Giving a variable to an object changes that of no other. -/
lemma find?_insert (n : Names) (id other : ObjectId) (name : String) :
    (n.insert id name).find? other = if other = id then some name else n.find? other := by
  simp only [find?, insert, List.lookup_cons]
  split <;> simp_all

/-- No object has two variables. -/
def Distinct (n : Names) : Prop := (n.entries.map Prod.fst).Nodup

/-- In the beginning no object has two variables. -/
lemma distinct_empty : Distinct empty := List.nodup_nil

/-- An object without a variable is in no entry. -/
lemma find?_eq_none_iff {n : Names} {id : ObjectId} :
    n.find? id = none ↔ id ∉ n.entries.map Prod.fst := by
  simp only [find?, List.lookup_eq_none_iff, List.mem_map, not_exists, not_and, ne_eq, bne,
    Bool.not_eq_true', beq_eq_false_iff_ne]
  exact forall₂_congr fun entry _ => ⟨fun h hid => h hid.symm, fun h hid => h hid.symm⟩

/-- Giving a variable to an object that has none keeps them distinct. -/
lemma Distinct.insert {n : Names} (h : n.Distinct) {id : ObjectId} {name : String}
    (hnew : n.find? id = none) : (n.insert id name).Distinct :=
  List.nodup_cons.mpr ⟨find?_eq_none_iff.mp hnew, h⟩

/-- Distinct names report the variable of an object that their entry for it holds. -/
lemma Distinct.find?_eq_some_iff {n : Names} (h : n.Distinct) {id : ObjectId} {name : String} :
    n.find? id = some name ↔ (id, name) ∈ n.entries := by
  obtain ⟨entries⟩ := n
  simp only [Distinct] at h
  simp only [find?]
  induction entries with
  | nil => simp
  | cons entry rest ih =>
    obtain ⟨other, previous⟩ := entry
    simp only [List.map_cons, List.nodup_cons] at h
    rw [List.lookup_cons]
    by_cases hid : id = other
    · subst hid
      have habsent : (id, name) ∉ rest := fun hmem => h.1 (List.mem_map_of_mem hmem)
      simp only [beq_self_eq_true, Option.some.injEq, List.mem_cons, Prod.mk.injEq, true_and,
        habsent, or_false, eq_comm]
    · have hne : (id, name) ≠ (other, previous) := fun h => hid (congrArg Prod.fst h)
      rw [beq_eq_false_iff_ne.mpr hid, List.mem_cons, or_iff_right hne]
      exact ih h.2

end Names

/-- The result of a computation that starts with some names, and the names that it leaves. -/
def outcome {α : Type} (x : Compile α) (names : Names) : Except ScriptError α × Names :=
  x.run.run names

section

variable {α β : Type} {x : Compile α} {f : α → Compile β} {n n' : Names}

/-- A value leaves the names as they are. -/
@[simp] lemma outcome_pure (a : α) (n : Names) : outcome (pure a : Compile α) n = (.ok a, n) := rfl

/-- An error leaves the names as they are. -/
@[simp] lemma outcome_throw (e : ScriptError) (n : Names) :
    outcome (throw e : Compile α) n = (.error e, n) := rfl

/-- The result of two computations is that of the second if the first succeeds. -/
lemma outcome_bind (x : Compile α) (f : α → Compile β) (n : Names) :
    outcome (x >>= f) n =
      match outcome x n with
      | (.ok a, m) => outcome (f a) m
      | (.error e, m) => (.error e, m) := by
  unfold outcome ExceptT.run StateT.run
  simp only [bind, ExceptT.bind, ExceptT.mk, StateT.bind, ExceptT.bindCont]
  rcases x n with ⟨_ | _, _⟩ <;> rfl

/-- Two computations succeed together if the first leads to a success of the second. -/
lemma outcome_bind_ok {b : β} : outcome (x >>= f) n = (.ok b, n') ↔
    ∃ a m, outcome x n = (.ok a, m) ∧ outcome (f a) m = (.ok b, n') := by
  rw [outcome_bind]
  rcases outcome x n with ⟨_ | a, m⟩ <;> simp

/-- Two steps fail if the first one fails, or the second one does after it. -/
lemma outcome_bind_error {e : ScriptError} : outcome (x >>= f) n = (.error e, n') ↔
    outcome x n = (.error e, n') ∨
      ∃ a m, outcome x n = (.ok a, m) ∧ outcome (f a) m = (.error e, n') := by
  rw [outcome_bind]
  rcases outcome x n with ⟨_ | a, m⟩ <;> simp

/-- Looking an object up succeeds if it exists and changes no names. -/
lemma outcome_get_ok {heap : Heap} {id : ObjectId} {object : Object} :
    outcome (onGraph (heap.get id)) n = (.ok object, n') ↔ heap.get? id = some object ∧ n' = n := by
  unfold Heap.get
  cases heap.get? id with
  | none => simp
  | some found => simp [eq_comm]

/-- The statement for a value that is no reference. -/
def leaf? (item : Holder) (hint : Option TypeDesc) : Option Statement :=
  match item.value with
  | .null => some (.declareNull hint item.name)
  | .classOf type => some (.declareClass item.name type)
  | .scalar s => some (.declareScalar item.name s)
  | .ref _ => none

end

section

variable {heap : Heap} {options : Options} {nested : ObjectId → String → Compile Scriptlet}
  {n n' : Names} {s : Scriptlet} {e : ScriptError}

/-- Compiling a value succeeds with its statement, or as compiling its object does. -/
lemma outcome_compileValue_ok {item : Holder} {hint : Option TypeDesc}
    (h : outcome (compileValue nested item.value item.name hint) n = (.ok s, n')) :
    (∃ statement, leaf? item hint = some statement ∧ s = .single statement ∧ n' = n) ∨
      ∃ id, item.value = .ref id ∧ outcome (nested id item.name) n = (.ok s, n') := by
  obtain ⟨name, value⟩ := item
  match value with
  | .null => simp_all [compileValue, leaf?]
  | .classOf type => simp_all [compileValue, leaf?]
  | .ref id => exact .inr ⟨id, rfl, h⟩
  | .scalar scalar =>
    refine .inl ⟨_, rfl, ?_⟩
    cases scalar with
    | char c =>
      simp only [compileValue] at h
      split at h
      · simp_all
      · simp at h
    | _ => simp_all [compileValue]

/-- What compiling an object does: it is looked up, then copied if it has a variable, and else given
the variable at hand, created and filled, if there is room for one more. -/
lemma outcome_compileObject (room : Nat) (id : ObjectId) (name : String) (n : Names) :
    outcome (compileObject heap options room id name) n =
      match heap.get? id with
      | none => (.error (.graph (.objectNotFound id)), n)
      | some object =>
        match n.find? id with
        | some previous => (.ok (.single (.copy object.runtimeType name previous)), n)
        | none =>
          match room with
          | 0 => (.error (.nestingTooDeep options.maxDepth), n)
          | left + 1 =>
            outcome (do
              let parts ← runTasks heap (compileObject heap options left)
                (objectTasks heap object name)
              pure (⟨banners object name, [construction options object name]⟩ ++ parts))
              (n.insert id name) := by
  unfold compileObject
  rw [outcome_bind]
  cases h : heap.get? id with
  | none => simp [Heap.get, h]
  | some object =>
    simp only [Heap.get, h, onGraph_ok, outcome_pure]
    rw [outcome_bind]
    change outcome (match n.find? id with | some previous => _ | none => _) n = _
    cases n.find? id with
    | some previous => rfl
    | none =>
      cases room with
      | zero => rfl
      | succ left =>
        simp only [compileParts_eq]
        rfl

/-- Compiling an object succeeds by copying the variable that it has, or by giving it the variable
at hand and filling it. -/
lemma outcome_compileObject_ok {room : Nat} {id : ObjectId} {name : String}
    (h : outcome (compileObject heap options room id name) n = (.ok s, n')) :
    ∃ object, heap.get? id = some object ∧
      ((∃ previous, n.find? id = some previous ∧
          s = .single (.copy object.runtimeType name previous) ∧ n' = n) ∨
        (n.find? id = none ∧ ∃ left parts, room = left + 1 ∧
          outcome (runTasks heap (compileObject heap options left) (objectTasks heap object name))
            (n.insert id name) = (.ok parts, n') ∧
          s = ⟨banners object name, [construction options object name]⟩ ++ parts)) := by
  rw [outcome_compileObject] at h
  cases hget : heap.get? id with
  | none => simp [hget] at h
  | some object =>
    refine ⟨object, rfl, ?_⟩
    cases hfind : n.find? id with
    | some previous => simp_all
    | none =>
      cases room with
      | zero => simp [hget, hfind] at h
      | succ left =>
        simp only [hget, hfind, outcome_bind_ok, outcome_pure] at h
        obtain ⟨parts, m, hparts, h⟩ := h
        cases h
        exact .inr ⟨rfl, left, parts, rfl, hparts, rfl⟩

end

/-- A run over tasks that succeeds: the names before it, the tasks, the statements that come out,
and the names after it. The tasks of a new object are put in front of those that are left. -/
inductive Emits (heap : Heap) (options : Options) :
    Names → List Task → List Statement → Names → Prop where
  | done {n} :
    Emits heap options n [] [] n
  | look {n n' id object rest out} :
    heap.get? id = some object →
    Emits heap options n rest out n' →
    Emits heap options n (.look id :: rest) out n'
  | store {n n' receiver change rest out} :
    Emits heap options n rest out n' →
    Emits heap options n (.store receiver change :: rest) (change.statement receiver :: out) n'
  | leaf {n n' item hint statement rest out} :
    leaf? item hint = some statement →
    Emits heap options n rest out n' →
    Emits heap options n (.compile item hint :: rest) (statement :: out) n'
  | copy {n n' name id hint object previous rest out} :
    heap.get? id = some object →
    n.find? id = some previous →
    Emits heap options n rest out n' →
    Emits heap options n (.compile ⟨name, .ref id⟩ hint :: rest)
      (.copy object.runtimeType name previous :: out) n'
  | create {n n' name id hint object rest out} :
    heap.get? id = some object →
    n.find? id = none →
    Emits heap options (n.insert id name) (objectTasks heap object name ++ rest) out n' →
    Emits heap options n (.compile ⟨name, .ref id⟩ hint :: rest)
      (construction options object name :: out) n'

section

variable {heap : Heap} {options : Options} {n n' : Names} {s : Scriptlet}

/-- Runs over two lists of tasks, one after the other, are a run over both. -/
lemma Emits.append {m a b first others} (run : Emits heap options n a first m)
    (next : Emits heap options m b others n') :
    Emits heap options n (a ++ b) (first ++ others) n' := by
  induction run with
  | done => exact next
  | look found _ ih => exact .look found (ih next)
  | store _ ih => exact .store (ih next)
  | leaf plain _ ih => exact .leaf plain (ih next)
  | copy found known _ ih => exact .copy found known (ih next)
  | create found new _ ih => exact .create found new (by simpa using ih next)

/-- The names only grow along a run: what is new stands in front. -/
lemma Emits.entries_suffix {tasks out} (run : Emits heap options n tasks out n') :
    n.entries <:+ n'.entries := by
  induction run with
  | done => exact List.suffix_rfl
  | look _ _ ih => exact ih
  | store _ ih => exact ih
  | leaf _ _ ih => exact ih
  | copy _ _ _ ih => exact ih
  | create _ _ _ ih => exact (List.suffix_cons _ _).trans ih

/-- A run gives no object a second variable. -/
lemma Emits.distinct {tasks out} (run : Emits heap options n tasks out n') (h : n.Distinct) :
    n'.Distinct := by
  induction run with
  | done => exact h
  | look _ _ ih => exact ih h
  | store _ ih => exact ih h
  | leaf _ _ ih => exact ih h
  | copy _ _ _ ih => exact ih h
  | create _ new _ ih => exact ih (h.insert new)

/-- If compiling an object emits its statements, so does a run over tasks. -/
lemma emits_of_nested {nested : ObjectId → String → Compile Scriptlet}
    (hnested : ∀ {id name hint n s n'}, outcome (nested id name) n = (.ok s, n') →
      Emits heap options n [.compile ⟨name, .ref id⟩ hint] s.statements n')
    {tasks : List Task} (h : outcome (runTasks heap nested tasks) n = (.ok s, n')) :
    Emits heap options n tasks s.statements n' := by
  induction tasks generalizing n s n' with
  | nil =>
    cases h
    exact .done
  | cons task rest ih =>
    simp only [runTasks, outcome_bind_ok, outcome_pure] at h
    obtain ⟨first, m, hfirst, others, m', hothers, h⟩ := h
    cases h
    have next := ih hothers
    cases task with
    | look id =>
      simp only [runTask, outcome_bind_ok, outcome_pure, outcome_get_ok] at hfirst
      obtain ⟨object, m, ⟨found, rfl⟩, h⟩ := hfirst
      cases h
      exact .look found next
    | store receiver change =>
      cases hfirst
      exact .store next
    | compile item hint =>
      rcases outcome_compileValue_ok hfirst with ⟨statement, plain, rfl, rfl⟩ | ⟨id, href, hobject⟩
      · exact .leaf plain next
      · obtain ⟨name, value⟩ := item
        cases href
        exact (hnested hobject).append next

/-- Compiling an object emits its statements. -/
lemma emits_of_compileObject {room : Nat} {id : ObjectId} {name : String} {hint : Option TypeDesc}
    (h : outcome (compileObject heap options room id name) n = (.ok s, n')) :
    Emits heap options n [.compile ⟨name, .ref id⟩ hint] s.statements n' := by
  -- The room gets less from an object to those that its tasks compile.
  induction room generalizing id name hint n s n' with
  | zero =>
    obtain ⟨object, found, ⟨previous, known, rfl, rfl⟩ | ⟨_, left, _, hroom, _⟩⟩ :=
      outcome_compileObject_ok h
    · exact .copy found known .done
    · cases hroom
  | succ room ih =>
    obtain ⟨object, found, ⟨previous, known, rfl, rfl⟩ | ⟨new, left, parts, hroom, hparts, rfl⟩⟩ :=
      outcome_compileObject_ok h
    · exact .copy found known .done
    · cases hroom
      -- The tasks of the object are run with its own variable already known, so that cycles end in
      -- a copy.
      have filled : Emits heap options (n.insert id name) (objectTasks heap object name)
          parts.statements n' := emits_of_nested (fun h => ih h) hparts
      exact .create found new (by simpa using filled)

/-- A successful run of the compiler over tasks emits its statements, task by task. -/
theorem emits_of_runTasks {room : Nat} {tasks : List Task}
    (h : outcome (runTasks heap (compileObject heap options room) tasks) n = (.ok s, n')) :
    Emits heap options n tasks s.statements n' :=
  emits_of_nested emits_of_compileObject h

/-- Compiling a value emits its statements. -/
lemma emits_of_compile {value : Value} {name : String} {hint : Option TypeDesc}
    (h : outcome (compile heap options value name hint) n = (.ok s, n')) :
    Emits heap options n [.compile ⟨name, value⟩ hint] s.statements n' := by
  have ended : outcome (runTasks heap (compileObject heap options options.maxDepth)
      [.compile ⟨name, value⟩ hint]) n = (.ok s, n') := by
    rw [runTasks_singleton]
    exact h
  exact emits_of_runTasks ended

end

end CallReplay.Script
