import CallReplay.Proofs.Script.Rebuild

/-!
# Scripts rebuild the arguments of a call

The arguments of a call are compiled as the tasks for their variables (`compileArguments_eq`), so
what is known of runs over tasks holds for scripts. A script that assigns no variable twice runs
without a fault, and the array that it returns is the arguments up to an isomorphism of the objects
(`argumentsScript_rebuilds`). A call without arguments gets null in place of an array.
-/

namespace CallReplay

open Script

/-- Scriptlets put together. -/
def Script.Scriptlet.concat (parts : List Scriptlet) : Scriptlet := parts.foldr (· ++ ·) (.plain [])

namespace Recorder

/-- The variable for an argument at a position. -/
def argumentItem (heap : Heap) (argument : Value × Nat) : Holder :=
  ⟨argumentName (baseName heap argument.1) argument.2, argument.1⟩

/-- What is done for arguments from a position on. -/
def argumentTasks (heap : Heap) (types : List TypeDesc) (start : Nat) (values : List Value) :
    List Task :=
  (values.zipIdx start).flatMap fun argument =>
    if argument.1.isNull then []
    else namedTasks types[argument.2]? (argumentItem heap argument)

/-- The variables for arguments from a position on; null has none. -/
def argumentNames (heap : Heap) (start : Nat) (values : List Value) : List (Option String) :=
  (values.zipIdx start).map fun argument =>
    if argument.1.isNull then none else some (argumentItem heap argument).name

/-- Compiling arguments is doing their tasks; the variables are known beforehand. -/
lemma compileArguments_eq (heap : Heap) (options : Options) (types : List TypeDesc) (start : Nat)
    (values : List Value) :
    (do
      let (parts, names) ← compileArguments heap options types start values
      pure (Scriptlet.concat parts, names)) = (do
      let parts ← runTasks heap (compileObject heap options options.maxDepth)
        (argumentTasks heap types start values)
      pure (parts, argumentNames heap start values)) := by
  induction values generalizing start with
  | nil => rfl
  | cons argument rest ih =>
    -- The remaining arguments are rewritten under whatever follows them.
    have next (f : Scriptlet → List (Option String) → Compile (Scriptlet × List (Option String))) :
        (do
          let (parts, names) ← compileArguments heap options types (start + 1) rest
          f (Scriptlet.concat parts) names) = (do
          let parts ← runTasks heap (compileObject heap options options.maxDepth)
            (argumentTasks heap types (start + 1) rest)
          f parts (argumentNames heap (start + 1) rest)) := by
      have h := congrArg (fun x => x >>= fun (parts, names) => f parts names) (ih (start + 1))
      simpa only [bind_assoc, pure_bind] using h
    cases hnull : argument.isNull with
    | true =>
      simp only [compileArguments, hnull, if_true, argumentTasks, argumentNames, List.zipIdx_cons,
        List.flatMap_cons, List.map_cons, List.nil_append, bind_assoc, pure_bind]
      exact next fun parts names => pure (parts, none :: names)
    | false =>
      have first := runTasks_named heap (compileObject heap options options.maxDepth) argument
        types[start]? (argumentName · start)
      simp only [compileArguments, hnull, Bool.false_eq_true, if_false, argumentTasks,
        argumentNames, argumentItem, List.zipIdx_cons, List.flatMap_cons, List.map_cons,
        runTasks_append, first, bind_assoc, pure_bind]
      cases hbase : VariableName.ofValue heap argument with
      | error e => rfl
      | ok base =>
        simp only [onGraph_ok, pure_bind, baseName, hbase]
        refine bind_congr fun part => ?_
        exact next fun parts names => pure (part ++ parts, some (argumentName base start) :: names)

/-- Parts put together have the statements of each, in their order. -/
lemma statements_concat (parts : List Scriptlet) :
    (Scriptlet.concat parts).statements = parts.flatMap Scriptlet.statements := by
  induction parts with
  | nil => rfl
  | cons part rest ih =>
    change (part ++ Scriptlet.concat rest).statements = _
    rw [Scriptlet.statements_append, ih, List.flatMap_cons]

section

variable {heap : Heap} {options : Options} {types : List TypeDesc} {start : Nat}
  {values : List Value} {parts : List Scriptlet} {names : List (Option String)} {n n' : Names}

/-- Compiling arguments succeeds as doing their tasks does. -/
lemma outcome_compileArguments_ok
    (h : outcome (compileArguments heap options types start values) n = (.ok (parts, names), n')) :
    names = argumentNames heap start values ∧
      outcome (runTasks heap (compileObject heap options options.maxDepth)
        (argumentTasks heap types start values)) n = (.ok (Scriptlet.concat parts), n') := by
  have both := congrArg (outcome · n) (compileArguments_eq heap options types start values)
  simp only [outcome_bind, h, outcome_pure] at both
  split at both
  · rename_i ok
    cases both
    exact ⟨rfl, ok⟩
  · cases both

/-- Compiling arguments fails where working off their tasks fails. -/
lemma outcome_compileArguments_error {e : ScriptError}
    (h : outcome (compileArguments heap options types start values) n = (.error e, n')) :
    outcome (runTasks heap (compileObject heap options options.maxDepth)
      (argumentTasks heap types start values)) n = (.error e, n') := by
  have both := congrArg (outcome · n) (compileArguments_eq heap options types start values)
  simp only [outcome_bind, h, outcome_pure] at both
  split at both
  · cases both
  · rename_i failed
    cases both
    exact failed

/-- Nothing is stored on behalf of the arguments themselves. -/
lemma store_notMem_argumentTasks {receiver : String} {change : Store} :
    .store receiver change ∉ argumentTasks heap types start values := by
  intro hmem
  obtain ⟨argument, _, hstore⟩ := List.mem_flatMap.mp hmem
  split at hstore
  · cases hstore
  · exact store_notMem_namedTasks hstore

/-- What is compiled for arguments is what their variables are for. -/
lemma mem_compiled_argumentTasks {item : Holder} :
    item ∈ compiled (argumentTasks heap types start values) ↔
      ∃ argument ∈ values.zipIdx start, argument.1.isNull = false ∧
      argumentItem heap argument = item := by
  rw [argumentTasks, compiled_flatMap, List.mem_flatMap]
  refine exists_congr fun argument => and_congr_right fun _ => ?_
  cases argument.1.isNull with
  | true => simp [compiled]
  | false => simp [compiled_namedTasks, eq_comm]

/-- The variables for arguments hold what there is to hold for the arguments. -/
lemma readAll_argumentNames {place : ObjectId → Option Nat} {s : State}
    (h : ∀ argument ∈ values.zipIdx start, argument.1.isNull = false → ∃ cell,
      Holds place argument.1 cell ∧ s.read (argumentItem heap argument).name = .ok cell) :
    ∃ cells, readAll s (argumentNames heap start values) = .ok cells ∧
      List.Forall₂ (Holds place) values cells := by
  induction values generalizing start with
  | nil => exact ⟨[], rfl, .nil⟩
  | cons argument rest ih =>
    rw [List.zipIdx_cons] at h
    obtain ⟨cells, hread, hcells⟩ := ih fun other hother => h other (List.mem_cons_of_mem _ hother)
    have names : argumentNames heap start (argument :: rest) =
        (if argument.isNull then none else some (argumentItem heap (argument, start)).name) ::
          argumentNames heap (start + 1) rest := rfl
    cases hnull : argument.isNull with
    | true =>
      obtain rfl : argument = .null := by cases argument <;> first | rfl | cases hnull
      refine ⟨.null :: cells, ?_, .cons .null hcells⟩
      rw [names, if_pos hnull, readAll, hread]
      rfl
    | false =>
      obtain ⟨cell, hcell, hfirst⟩ := h (argument, start) List.mem_cons_self hnull
      refine ⟨cell :: cells, ?_, .cons hcell hcells⟩
      rw [names, if_neg (Bool.eq_false_iff.mp hnull), readAll, hfirst, hread]
      rfl

/-- Executing what arguments compile to rebuilds them, if no variable is assigned twice. -/
lemma compileArguments_rebuilds
    (h : outcome (compileArguments heap options types 0 values) .empty = (.ok (parts, names), n))
    (hfields : ∀ object ∈ heap.objects, FieldsDistinct object)
    (hnames : ((parts.flatMap Scriptlet.statements).filterMap Statement.assigned?).Nodup) :
    ∃ s cells, Script.run .empty (parts.flatMap Scriptlet.statements) = .ok s ∧
      readAll s names = .ok cells ∧ Isomorphism heap values cells s.objects n.place := by
  obtain ⟨rfl, htasks⟩ := outcome_compileArguments_ok h
  have emits := emits_of_runTasks htasks
  rw [statements_concat] at emits
  have hdistinct := emits.distinct Names.distinct_empty
  have hfound : ∀ id object, heap.get? id = some object → FieldsDistinct object :=
    fun id object found => hfields object (Array.mem_of_getElem? found)
  have hplain {receiver change} : .store receiver change ∉ argumentTasks heap types 0 values :=
    store_notMem_argumentTasks
  obtain ⟨s, known, hrun, follows, hknown⟩ := emits.follows hfound hdistinct
    (supplied_of_no_store fun _ _ => hplain) (by simpa using hnames)
      (follows_empty fun _ _ => hplain)
  obtain ⟨cells, hread, hcells⟩ := readAll_argumentNames fun argument hmem hnull =>
    follows.held _ (hknown _ (.inr (mem_compiled_argumentTasks.mpr ⟨argument, hmem, hnull, rfl⟩)))
  -- The compiler has started without names, so every object with a variable was met on the way.
  have hmet : ∀ id, (n.find? id).isSome → Met heap values id := by
    apply emits.met nofun
    intro item hitem id href
    obtain ⟨⟨value, index⟩, hmem, _, rfl⟩ := mem_compiled_argumentTasks.mp hitem
    obtain rfl : value = .ref id := href
    exact .root (List.fst_mem_of_mem_zipIdx hmem)
  exact ⟨s, cells, hrun, hread, follows.isomorphism hdistinct hmet hcells⟩

end

/-- There is an empty script for a call without arguments. -/
lemma argumentsScript_of_nil {options : RecorderOptions} {r : CallRecord}
    (h : r.arguments.values = []) : argumentsScript options r = .ok .empty := by
  simp [argumentsScript, h]

/-- The script for arguments is what compiling them gives. -/
lemma argumentsScript_of_ne_nil {options : RecorderOptions} {r : CallRecord}
    (h : r.arguments.values ≠ []) :
    argumentsScript options r = (outcome (compileArguments r.arguments.heap options.script
      (r.argumentTypes.getD []) 0 r.arguments.values) .empty).1.map
        fun (parts, names) => .build (methodKey r) parts names := by
  simp only [argumentsScript, List.isEmpty_iff, h, if_false]
  rfl

end Recorder

/-- A script that assigns no variable twice rebuilds the arguments. It never reads a variable that
has no value, and it returns an array of the arguments, with one created object for each object that
the compiler meets; without arguments it creates nothing and returns null in place of an array. -/
theorem argumentsScript_rebuilds {options : RecorderOptions} {r : CallRecord}
    {script : ArgumentsScript} (hscript : Recorder.argumentsScript options r = .ok script)
    (hfields : ∀ object ∈ r.arguments.heap.objects, FieldsDistinct object)
    (hnames : script.assigned.Nodup) :
    (r.arguments.values = [] → script.run = .ok ⟨none, []⟩) ∧
      (r.arguments.values ≠ [] → ∃ cells objects place, script.run = .ok ⟨some cells, objects⟩ ∧
        Isomorphism r.arguments.heap r.arguments.values cells objects place) := by
  refine ⟨fun hnil => ?_, fun hne => ?_⟩
  · rw [Recorder.argumentsScript_of_nil hnil] at hscript
    cases hscript
    rfl
  · rw [Recorder.argumentsScript_of_ne_nil hne] at hscript
    rcases hcompiled : outcome (Recorder.compileArguments r.arguments.heap options.script
      (r.argumentTypes.getD []) 0 r.arguments.values) .empty with ⟨e | ⟨parts, names⟩, n⟩
    · rw [hcompiled] at hscript
      cases hscript
    · rw [hcompiled] at hscript
      cases hscript
      obtain ⟨s, cells, hrun, hread, hcells⟩ :=
        Recorder.compileArguments_rebuilds hcompiled hfields hnames
      refine ⟨cells, s.objects, n.place, ?_, hcells⟩
      simp only [ArgumentsScript.run, ArgumentsScript.statements, hrun, hread, bind, Except.bind,
        pure, Except.pure]

/-- A call with a list that holds itself and an item, which refers back to the list, null, a number
and the item again. -/
def cyclicCall : CallRecord :=
  .new 0 "p.Remote" "keep" none
    ⟨⟨#[.collection "p.List" [.ref ⟨1⟩, .ref ⟨0⟩, .null],
        .struct ⟨"p.Item", true, false, [⟨"label", .text, {}, true, .value (.text "a")⟩,
          ⟨"owner", .named "p.List", {}, true, .value (.ref ⟨0⟩)⟩,
          ⟨"cache", .text, { transient := true }, true, .value (.text "b")⟩]⟩]⟩,
      [.ref ⟨0⟩, .null, .scalar (.int 3), .ref ⟨1⟩]⟩

set_option maxRecDepth 4000 in
/-- Arguments that are shared and in a cycle are rebuilt. -/
theorem argumentsScript_rebuilds_cyclic : ∃ script cells objects place,
    Recorder.argumentsScript {} cyclicCall = .ok script ∧ script.assigned.Nodup ∧
      script.run = .ok ⟨some cells, objects⟩ ∧
      Isomorphism cyclicCall.arguments.heap cyclicCall.arguments.values cells objects place := by
  have hscript : Recorder.argumentsScript {} cyclicCall = .ok (.build "keep:#0"
      [⟨[⟨"p.Item", "list0_element0_item"⟩],
        [.construct "p.List" "list0", .construct "p.Item" "list0_element0_item",
          .declareScalar "list0_element0_item_label" (.text "a"),
          .storeField "list0_element0_item" "label" (some "list0_element0_item_label"),
          .copy (.named "p.List") "list0_element0_item_owner" "list0",
          .storeField "list0_element0_item" "owner" (some "list0_element0_item_owner"),
          .copy (.named "p.List") "list0_element1_list" "list0",
          .declareNull none "list0_element2_value", .add "list0" "list0_element0_item",
          .add "list0" "list0_element1_list", .add "list0" "list0_element2_value"]⟩,
        .single (.declareScalar "integer2" (.int 3)),
        .single (.copy (.named "p.Item") "item3" "list0_element0_item")]
      [some "list0", none, some "integer2", some "item3"]) := by cbv
  have hfields : ∀ object ∈ cyclicCall.arguments.heap.objects, FieldsDistinct object := by
    simp [cyclicCall, CallRecord.new, FieldsDistinct]
  have hnames : ∀ script, Recorder.argumentsScript {} cyclicCall = .ok script →
      script.assigned.Nodup := by
    intro script h
    cases hscript.symm.trans h
    decide +kernel
  obtain ⟨cells, objects, place, hrun, hcells⟩ :=
    (argumentsScript_rebuilds hscript hfields (hnames _ hscript)).2 (List.cons_ne_nil _ _)
  exact ⟨_, cells, objects, place, hscript, hnames _ hscript, hrun, hcells⟩

/-- A call without arguments. -/
def emptyCall : CallRecord := .new 0 "p.Remote" "stop" none ⟨.empty, []⟩

/-- The script of a call without arguments returns no array. -/
theorem argumentsScript_empty_returns_null :
    emptyCall.arguments.validate = .ok () ∧
      (∀ object ∈ emptyCall.arguments.heap.objects, FieldsDistinct object) ∧
      ∃ script, Recorder.argumentsScript {} emptyCall = .ok script ∧ script.assigned.Nodup ∧
        ¬∃ cells objects, script.run = .ok ⟨some cells, objects⟩ := by
  refine ⟨rfl, by simp [emptyCall, CallRecord.new, Heap.empty], .empty, rfl, by decide, ?_⟩
  rintro ⟨cells, objects, hrun⟩
  cases hrun

end CallReplay
