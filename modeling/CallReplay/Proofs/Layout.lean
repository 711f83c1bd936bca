import CallReplay.Proofs.RemotePath
import CallReplay.Proofs.Script.Renaming

/-!
# Scripts and paths do not depend on the layout of heaps

The walk to remote objects, like the compiler, uses ids only to look objects up and to compare them
with those of the objects that it has visited. On two graphs that are the same up to ids it visits
corresponding objects in the same order (`visit_rename`). So the script for the arguments of a call
and the paths to the remote objects of its result are texts that depend on the graphs alone, and so
are the faults of graphs for which there are none.
-/

namespace CallReplay

open Heap (Renames SameGraph)

namespace RemotePath

open Script (ScriptError)

/-- A pending value with its ids renamed. -/
def Pending.rename (f : ObjectId → ObjectId) (p : Pending) : Pending :=
  { p with value := p.value.rename f }

/-- A found object with its id renamed. -/
def Found.rename (f : ObjectId → ObjectId) (found : Found) : Found :=
  { found with object := f found.object }

section

variable {f : ObjectId → ObjectId} {h h' : Heap} {roots roots' : List Value}

/-- Renaming ids does not change whether an object is remote. -/
lemma isRemote_rename (object : Object) : isRemote (object.rename f) = isRemote object := by
  cases object <;> rfl

/-- Renaming ids does not change how an entry of a map is reached. -/
lemma entrySegment_rename (key : Value) (position : Nat) :
    entrySegment (key.rename f) position = entrySegment key position := by
  cases key <;> rfl

/-- Renaming ids renames those in the parts of an object. -/
lemma children_rename (object : Object) :
    children (object.rename f) = (children object).map fun (segment, value) =>
    (segment, value.rename f) := by
  cases object with
  | array component elements =>
    simp only [Object.rename, children, List.zipIdx_map, List.map_map]
    rfl
  | collection className elements =>
    simp only [Object.rename, children, List.zipIdx_map, List.map_map]
    rfl
  | properties entries => rfl
  | map className entries =>
    simp only [Object.rename, children, List.zipIdx_map, List.map_map]
    apply List.map_congr_left
    rintro ⟨⟨key, value⟩, position⟩ _
    simp only [Function.comp_apply, Prod.map_apply, id_eq, entrySegment_rename]
  | struct s =>
    simp only [Object.rename, children, Struct.rename, List.filterMap_map, List.map_filterMap]
    congr 1
    funext field
    simp only [Function.comp_apply, Field.rename, Slot.value?_rename, Option.map_map]
    rfl

/-- What is pending below a renamed object is what was pending below the object, renamed. -/
lemma Pending.below_rename (p : Pending) (object : Object) :
    (p.rename f).below (object.rename f) = (p.below object).map (Pending.rename f) := by
  simp only [below, children_rename, List.map_map]
  rfl

/-- What is below an object that is reached refers to reached objects. -/
lemma Pending.reached_of_mem_below {p q : Pending} {object : Object}
    (held : ∀ value ∈ object.values, h.Reached roots value) (hq : q ∈ p.below object) :
    h.Reached roots q.value := by
  obtain ⟨⟨segment, value⟩, hchild, rfl⟩ := List.mem_map.mp hq
  exact held value (mem_values_of_mem_children hchild)

/-- A pending reference is renamed to a reference. -/
lemma Pending.value_rename {p : Pending} {id : ObjectId} (href : p.value = .ref id) :
    (p.rename f).value = .ref (f id) := by
  rw [rename, href]
  rfl

/-- A value that is no reference is passed over. -/
lemma visit_plain {visited : List ObjectId} {p : Pending} {pending : List Pending}
    (plain : ∀ id, p.value ≠ .ref id) :
    visit h visited (p :: pending) = visit h visited pending := by
  rw [visit]
  split
  · rename_i id href
    exact absurd href (plain id)
  · rfl

/-- One step of the walk at a reference. -/
lemma visit_ref {visited : List ObjectId} {p : Pending} {pending : List Pending} {id : ObjectId}
    (href : p.value = .ref id) :
    visit h visited (p :: pending) =
      if id ∈ visited then visit h visited pending
      else if maxDepth ≤ p.depth then .error (.nestingTooDeep maxDepth)
      else
        match h.get? id with
        | none => .error (.graph (.objectNotFound id))
        | some object =>
          if isRemote object then do
            let others ← visit h (id :: visited) pending
            pure (⟨id, p.path⟩ :: others)
          else visit h (id :: visited) (p.below object ++ pending) := by
  rw [visit]
  simp only [href]
  split
  · rfl
  · split
    · rfl
    · split
      · rename_i missing
        rw [missing]
      · rename_i object found
        rw [found]

/-- From corresponding visited objects and pending values, the walk finds corresponding objects on
the same paths, or fails for the same reason. -/
theorem visit_rename (renames : Renames f h roots h' roots') {visited : List ObjectId}
    {pending : List Pending} (hvisited : ∀ id ∈ visited, h.Reaches roots id)
    (hpending : ∀ p ∈ pending, h.Reached roots p.value) :
    visit h' (visited.map f) (pending.map (Pending.rename f)) =
      (visit h visited pending).map (List.map (Found.rename f)) := by
  -- A renaming that is injective on what is reached neither joins nor parts visited objects.
  have known {visited : List ObjectId} (hvisited : ∀ id ∈ visited, h.Reaches roots id)
    {id : ObjectId}
      (hid : h.Reaches roots id) : f id ∈ visited.map f ↔ id ∈ visited := by
    constructor
    · intro hmem
      obtain ⟨other, hother, heq⟩ := List.mem_map.mp hmem
      rwa [← renames.bijective.injOn (hvisited other hother) hid heq]
    · exact List.mem_map_of_mem
  fun_induction visit h visited pending with
  | case1 visited => simp [visit, Except.map]
  | case2 visited p pending id href old ih =>
    obtain ⟨hp, hrest⟩ := List.forall_mem_cons.mp hpending
    rw [List.map_cons, visit_ref (Pending.value_rename href),
      if_pos ((known hvisited (hp id href)).mpr old)]
    exact ih hvisited hrest
  | case3 visited p pending id href new full =>
    obtain ⟨hp, hrest⟩ := List.forall_mem_cons.mp hpending
    have full' : maxDepth ≤ (p.rename f).depth := full
    rw [List.map_cons, visit_ref (Pending.value_rename href),
      if_neg (mt (known hvisited (hp id href)).mp new), if_pos full']
    rfl
  | case4 visited p pending id href new room missing =>
    obtain ⟨object, found, _⟩ := renames.found id (hpending p List.mem_cons_self id href)
    cases missing.symm.trans found
  | case5 visited p pending id href new room object found remote ih =>
    obtain ⟨hp, hrest⟩ := List.forall_mem_cons.mp hpending
    obtain ⟨other, hother, found', held⟩ := renames.get (hp id href)
    cases found.symm.trans hother
    have others := ih (List.forall_mem_cons.mpr ⟨hp id href, hvisited⟩) hrest
    rw [List.map_cons] at others
    have room' : ¬maxDepth ≤ (p.rename f).depth := room
    rw [List.map_cons, visit_ref (Pending.value_rename href),
      if_neg (mt (known hvisited (hp id href)).mp new), if_neg room', found']
    simp only [isRemote_rename, remote, if_true, others]
    cases visit h (id :: visited) pending <;> rfl
  | case6 visited p pending id href new room object found plain ih =>
    obtain ⟨hp, hrest⟩ := List.forall_mem_cons.mp hpending
    obtain ⟨other, hother, found', held⟩ := renames.get (hp id href)
    cases found.symm.trans hother
    have below : ∀ q ∈ p.below object ++ pending, h.Reached roots q.value := by
      intro q hq
      rcases List.mem_append.mp hq with hq | hq
      · exact Pending.reached_of_mem_below held hq
      · exact hrest q hq
    have rest := ih (List.forall_mem_cons.mpr ⟨hp id href, hvisited⟩) below
    rw [List.map_cons, List.map_append, ← Pending.below_rename] at rest
    have room' : ¬maxDepth ≤ (p.rename f).depth := room
    rw [List.map_cons, visit_ref (Pending.value_rename href),
      if_neg (mt (known hvisited (hp id href)).mp new), if_neg room', found']
    simpa only [isRemote_rename, plain, Bool.false_eq_true, if_false] using rest
  | case7 visited p pending plain ih =>
    have plain' : ∀ id, (p.rename f).value ≠ .ref id := by
      intro id href
      obtain ⟨source, hsource, _⟩ := Value.ref_eq_rename_iff.mp href.symm
      exact plain source hsource
    rw [List.map_cons, visit_plain plain']
    exact ih hvisited (List.forall_mem_cons.mp hpending).2

/-- The handles and paths of remote objects do not depend on ids. -/
theorem table_rename {p p' : Payload} (renames : Renames f p.heap [p.value] p'.heap [p'.value])
    (stem : String) :
    table p' stem = table p stem := by
  have hvalue : p'.value = p.value.rename f := List.singleton_inj.mp renames.starts
  have start : ∀ q ∈ [(⟨p.value, [], 0⟩ : Pending)], p.heap.Reached [p.value] q.value := by
    intro q hq
    cases List.mem_singleton.mp hq
    exact Heap.reached_of_mem List.mem_cons_self
  have scanned : scan p' = (scan p).map (List.map (Found.rename f)) := by
    rw [scan, scan, hvalue]
    exact visit_rename renames (List.forall_mem_nil _) start
  rw [table, table, scanned]
  cases scan p with
  | error e => rfl
  | ok found =>
    simp only [Except.map, handleTable, List.zipIdx_map, List.map_map]
    rfl

end

end RemotePath

namespace Recorder

open Script

section

variable {f : ObjectId → ObjectId} {h h' : Heap} {roots roots' : List Value}

/-- Reached arguments are compiled as the arguments that correspond to them. -/
lemma mirrors_compileArguments (renames : Renames f h roots h' roots') (options : Options)
    (types : List TypeDesc) (start : Nat) {values : List Value}
    (reached : ∀ value ∈ values, h.Reached roots value) :
    Mirrors f h roots (compileArguments h options types start values)
      (compileArguments h' options types start (values.map (Value.rename f))) := by
  induction values generalizing start with
  | nil => exact .refl_pure _
  | cons argument rest ih =>
    obtain ⟨hargument, hrest⟩ := List.forall_mem_cons.mp reached
    have others := ih (start + 1) hrest
    rw [List.map_cons, compileArguments, compileArguments, Value.isNull_rename,
      renames.ofValue hargument]
    split
    · exact others.bind fun _ => .refl_pure _
    · refine (Mirrors.refl_onGraph _).bind fun base => ?_
      refine (mirrors_compileValue (fun id name href => ?_) _ _).bind fun _ =>
        others.bind fun _ => .refl_pure _
      exact mirrors_compileObject renames options options.maxDepth (hargument id href) name

/-- The script for arguments does not depend on ids. -/
theorem argumentsText_rename {r : CallRecord} {a : Arguments}
    (renames : Renames f r.arguments.heap r.arguments.values a.heap a.values) (packed : List UInt8)
    (options : RecorderOptions) :
    argumentsText options { r with arguments := a, packedArguments := packed } =
    argumentsText options r := by
  have hvalues : a.values = r.arguments.values.map (Value.rename f) := renames.starts
  rw [argumentsText, argumentsText]
  congr 1
  by_cases hnil : r.arguments.values = []
  · have hnil' : a.values = [] := by rw [hvalues, hnil]; rfl
    rw [argumentsScript_of_nil hnil, argumentsScript_of_nil hnil']
  · have hne : a.values ≠ [] := by simpa [hvalues] using hnil
    -- Compiling starts without names on both sides.
    have compiled := mirrors_compileArguments renames options.script (r.argumentTypes.getD []) 0
      fun value hvalue => Heap.reached_of_mem hvalue
    have same := congrArg Prod.fst (compiled .empty (List.forall_mem_nil _)).1
    rw [← hvalues] at same
    rw [argumentsScript_of_ne_nil hnil, argumentsScript_of_ne_nil hne]
    exact congrArg _ same

end

end Recorder

/-- The texts that are made of graphs depend on the graphs alone. -/
theorem sameGraph_sameTexts (options : RecorderOptions) (stem : String) :
    (∀ (r : CallRecord) (a : Arguments) (packed : List UInt8),
      SameGraph r.arguments.heap r.arguments.values a.heap a.values →
        Recorder.argumentsText options { r with arguments := a, packedArguments := packed } =
          Recorder.argumentsText options r) ∧
      ∀ p p' : Payload, SameGraph p.heap [p.value] p'.heap [p'.value] →
        RemotePath.table p' stem = RemotePath.table p stem := by
  refine ⟨fun r a packed same => ?_, fun p p' same => ?_⟩
  · obtain ⟨f, renames⟩ := same
    exact Recorder.argumentsText_rename renames packed options
  · obtain ⟨f, renames⟩ := same
    exact RemotePath.table_rename renames stem

/-- A list of a remote object, of itself and of the remote object again. -/
def listFirst : Heap :=
  ⟨#[.collection "p.List" [.ref ⟨1⟩, .ref ⟨0⟩, .ref ⟨1⟩], .struct ⟨"p.Stub", true, true, []⟩]⟩

/-- The same list behind what it holds, in a heap with other objects. -/
def listLast : Heap :=
  ⟨#[.collection "p.Set" [.ref ⟨9⟩], .properties .empty, .struct ⟨"p.Stub", true, true, []⟩,
    .collection "p.List" [.ref ⟨2⟩, .ref ⟨3⟩, .ref ⟨2⟩]]⟩

/-- The list leads to both objects of the first heap and to no other. -/
lemma mem_of_reaches_listFirst {id : ObjectId} (h : listFirst.Reaches [.ref ⟨0⟩] id) :
    id ∈ ([⟨0⟩, ⟨1⟩] : List ObjectId) := by
  induction h with
  | root hroot =>
    cases List.mem_singleton.mp hroot
    exact List.mem_cons_self
  | step _ refers ih =>
    obtain ⟨object, found, hmem⟩ := refers
    simp only [List.mem_cons, List.not_mem_nil, or_false] at ih
    rcases ih with rfl | rfl
    · cases found
      change .ref _ ∈ [Value.ref ⟨1⟩, .ref ⟨0⟩, .ref ⟨1⟩] at hmem
      simp only [List.mem_cons, Value.ref.injEq, List.not_mem_nil, or_false] at hmem ⊢
      rcases hmem with rfl | rfl | rfl <;> simp
    · cases found
      cases hmem

/-- Both heaps have the same graph. -/
lemma sameGraph_lists : SameGraph listFirst [.ref ⟨0⟩] listLast [.ref ⟨3⟩] := by
  refine ⟨fun id => ⟨3 - id.index⟩, .of_injOn rfl ?_ ?_⟩
  · intro a ha b hb heq
    have ha := mem_of_reaches_listFirst ha
    have hb := mem_of_reaches_listFirst hb
    simp only [List.mem_cons, List.not_mem_nil, or_false] at ha hb
    rcases ha with rfl | rfl <;> rcases hb with rfl | rfl
    · rfl
    · cases heq
    · cases heq
    · rfl
  · intro id reached
    have hid := mem_of_reaches_listFirst reached
    simp only [List.mem_cons, List.not_mem_nil, or_false] at hid
    rcases hid with rfl | rfl
    · exact ⟨_, rfl, rfl⟩
    · exact ⟨_, rfl, rfl⟩

/-- The two heaps give the same script and the same paths, one for the remote object, on
its first place. -/
theorem sameGraph_sameTexts_lists :
    SameGraph listFirst [.ref ⟨0⟩] listLast [.ref ⟨3⟩] ∧
      Recorder.argumentsText {} (.new 0 "p.Remote" "keep" none ⟨listLast, [.ref ⟨3⟩]⟩) =
        Recorder.argumentsText {} (.new 0 "p.Remote" "keep" none ⟨listFirst, [.ref ⟨0⟩]⟩) ∧
      ∃ paths, RemotePath.table ⟨listLast, .ref ⟨3⟩⟩ "s" = .ok paths ∧
      paths.entries = [("s0", ".toArray()[0]")] := by
  obtain ⟨texts, paths⟩ := sameGraph_sameTexts {} "s"
  have script :=
    texts (.new 0 "p.Remote" "keep" none ⟨listFirst, [.ref ⟨0⟩]⟩) ⟨listLast, [.ref ⟨3⟩]⟩
      (Arguments.pack ⟨listLast, [.ref ⟨3⟩]⟩) sameGraph_lists
  have table := paths ⟨listFirst, .ref ⟨0⟩⟩ ⟨listLast, .ref ⟨3⟩⟩ sameGraph_lists
  have scanned : RemotePath.scan ⟨listFirst, .ref ⟨0⟩⟩ = .ok [⟨⟨1⟩, [.element 0]⟩] := by cbv
  have first : RemotePath.table ⟨listFirst, .ref ⟨0⟩⟩ "s" =
      .ok (RemotePath.handleTable "s" [⟨⟨1⟩, [.element 0]⟩]) := map_eq_ok_iff.mpr ⟨_, scanned, rfl⟩
  exact ⟨sameGraph_lists, script, _, table.trans first, by decide +kernel⟩

end CallReplay
