import CallReplay.Proofs.Layout
import CallReplay.Proofs.RemoteSearch

/-!
# The walk to remote objects as a recursion

`RemotePath.visit` keeps the values that it has still to visit in a list. The same walk can be told
as a recursion that goes from an object to each of its parts in turn, and hands on the objects that
it has visited and the paths that it has registered (`walk`). It is written with nothing of `visit`:
it looks at each shape of an object itself, and puts its paths together as texts. A pending value
stands for a call that has not been made yet: visiting the first of them is walking from it and
going on with the others (`walks`). So both find the same paths in the same order, and where they
fail they fail alike.
-/

namespace CallReplay.RemotePath

open Script (ScriptError)

/-- The objects that have been visited, and the handles of the remote ones with the
paths to them. -/
structure Walk where
  visited : List ObjectId
  paths : TextMap

namespace Walk

/-- The walk has not visited anything yet. -/
def start : Walk := ⟨[], .empty⟩

/-- The walk has come to an object. -/
def enter (w : Walk) (id : ObjectId) : Walk := { w with visited := id :: w.visited }

end Walk

/-- Registers a path under the next handle. -/
def register (stem path : String) (paths : TextMap) : TextMap :=
  paths.insert (stem ++ toString paths.size) path

/-- How the value of a map entry is reached: by its key if that is a text, or else
by its position. -/
def entryText (key : Value) (position : Nat) : String :=
  match key with
  | .scalar (.text k) => ".get(" ++ Literal.ofText k ++ ")"
  | _ => ".values().toArray()[" ++ toString position ++ "]"

mutual

/-- Walks from a value with so many objects above it. An object that has been visited is
passed over, and a remote one is registered as a whole. From any other the walk goes on to its
parts, in order. -/
def walk (heap : Heap) (stem : String) (depth : Nat) (path : String) (value : Value) (w : Walk) :
    Except ScriptError Walk :=
  match value with
  | .ref id =>
    if id ∈ w.visited then .ok w
    else if 1024 ≤ depth then .error (.nestingTooDeep 1024)
    else
      match heap.get? id with
      | none => .error (.graph (.objectNotFound id))
      | some (.array _ elements) =>
        walkElements heap stem (depth + 1) (path ++ "[") 0 elements (w.enter id)
      | some (.collection _ elements) =>
        walkElements heap stem (depth + 1) (path ++ ".toArray()[") 0 elements (w.enter id)
      | some (.properties _) => .ok (w.enter id)
      | some (.map _ entries) => walkEntries heap stem (depth + 1) path 0 entries (w.enter id)
      | some (.struct s) =>
        if s.isRemote then .ok { w.enter id with paths := register stem path w.paths }
        else walkFields heap stem (depth + 1) path s.fields (w.enter id)
  | _ => .ok w
  termination_by (1024 - depth, 0)

/-- Walks from elements, of which the first has the given position. -/
def walkElements (heap : Heap) (stem : String) (depth : Nat) (opening : String) (position : Nat)
    (elements : List Value) (w : Walk) : Except ScriptError Walk :=
  match elements with
  | [] => .ok w
  | value :: rest => do
    let w ← walk heap stem depth (opening ++ toString position ++ "]") value w
    walkElements heap stem depth opening (position + 1) rest w
  termination_by (1024 - depth, elements.length)

/-- Walks from the values of map entries, of which the first has the given position. -/
def walkEntries (heap : Heap) (stem : String) (depth : Nat) (path : String) (position : Nat)
    (entries : List (Value × Value)) (w : Walk) : Except ScriptError Walk :=
  match entries with
  | [] => .ok w
  | (key, value) :: rest => do
    let w ← walk heap stem depth (path ++ entryText key position) value w
    walkEntries heap stem depth path (position + 1) rest w
  termination_by (1024 - depth, entries.length)

/-- Walks from the fields that could be read. -/
def walkFields (heap : Heap) (stem : String) (depth : Nat) (path : String) (fields : List Field)
    (w : Walk) : Except ScriptError Walk :=
  match fields with
  | [] => .ok w
  | field :: rest =>
    match field.slot with
    | .inaccessible => walkFields heap stem depth path rest w
    | .value value => do
      let w ← walk heap stem depth (path ++ "." ++ field.name) value w
      walkFields heap stem depth path rest w
  termination_by (1024 - depth, fields.length)

end

/-- Registers what was found, one after another. -/
def registerAll (stem : String) (found : List Found) (paths : TextMap) : TextMap :=
  found.foldl (fun paths f => register stem (render f.path) paths) paths

/-- Goes on with a walk by visiting what is pending. -/
def resume (heap : Heap) (stem : String) (pending : List Pending) (w : Walk) :
    Except ScriptError TextMap :=
  (visit heap w.visited pending).map fun found => registerAll stem found w.paths

section

variable {heap : Heap} {stem : String} {depth : Nat} {path : List Segment} {value : Value}
  {pending : List Pending} {w : Walk} {id : ObjectId} {object : Object}

/-- A path is written segment by segment. -/
lemma render_concat (path : List Segment) (segment : Segment) :
    render (path ++ [segment]) = render path ++ segment.render := by
  simp [render, String.join_append]

/-- How an entry of a map is reached is written as its text. -/
lemma render_entrySegment (key : Value) (position : Nat) :
    (entrySegment key position).render = entryText key position := by
  cases key with
  | scalar s => cases s <;> rfl
  | _ => rfl

/-- There is nothing to walk through in a value that is no reference. -/
lemma walk_plain {path' : String} (plain : ∀ id, value ≠ .ref id) :
    walk heap stem depth path' value w = .ok w := by
  cases value with
  | ref id => exact absurd rfl (plain id)
  | _ => simp only [walk]

/-- When nothing is pending, the paths that were registered are the result. -/
lemma resume_nil : resume heap stem [] w = .ok w.paths := by
  rw [resume, visit]
  rfl

/-- A pending value that is no reference is passed over. -/
lemma resume_plain (plain : ∀ id, value ≠ .ref id) :
    resume heap stem (⟨value, path, depth⟩ :: pending) w = resume heap stem pending w := by
  rw [resume, visit_plain plain]
  rfl

/-- A pending object that was visited is passed over. -/
lemma resume_visited (known : id ∈ w.visited) :
    resume heap stem (⟨.ref id, path, depth⟩ :: pending) w = resume heap stem pending w := by
  rw [resume, visit_ref rfl, if_pos known]
  rfl

/-- A pending object that is too deep ends the walk. -/
lemma resume_tooDeep (new : id ∉ w.visited) (full : maxDepth ≤ depth) :
    resume heap stem (⟨.ref id, path, depth⟩ :: pending) w = .error (.nestingTooDeep maxDepth) := by
  rw [resume, visit_ref rfl, if_neg new, if_pos full]
  rfl

/-- A pending object that does not exist ends the walk. -/
lemma resume_missing (new : id ∉ w.visited) (room : ¬maxDepth ≤ depth)
    (missing : heap.get? id = none) :
    resume heap stem (⟨.ref id, path, depth⟩ :: pending) w =
    .error (.graph (.objectNotFound id)) := by
  rw [resume, visit_ref rfl, if_neg new, if_neg room, missing]
  rfl

/-- A pending object that is remote is registered, and nothing in it is visited. -/
lemma resume_remote (new : id ∉ w.visited) (room : ¬maxDepth ≤ depth)
    (found : heap.get? id = some object) (remote : isRemote object = true) :
    resume heap stem (⟨.ref id, path, depth⟩ :: pending) w =
      resume heap stem pending
      { w.enter id with paths := register stem (render path) w.paths } := by
  rw [resume, visit_ref rfl, if_neg new, if_neg room, found]
  simp only [remote, if_true]
  rw [resume, Walk.enter]
  cases visit heap (id :: w.visited) pending <;> rfl

/-- The parts of an object are visited before all that was pending. -/
lemma resume_local (new : id ∉ w.visited) (room : ¬maxDepth ≤ depth)
    (found : heap.get? id = some object) (plain : isRemote object = false) :
    resume heap stem (⟨.ref id, path, depth⟩ :: pending) w =
      resume heap stem (Pending.below ⟨.ref id, path, depth⟩ object ++ pending) (w.enter id) := by
  rw [resume, visit_ref rfl, if_neg new, if_neg room, found]
  simp only [plain, Bool.false_eq_true, if_false]
  rfl

end

section

variable {heap : Heap} {stem : String} {depth : Nat}

/-- Visiting a pending value at some depth is walking from it and going on with what is
pending behind it. -/
def Walks (heap : Heap) (stem : String) (depth : Nat) : Prop :=
  ∀ path value pending w, resume heap stem (⟨value, path, depth⟩ :: pending) w =
    walk heap stem depth (render path) value w >>= resume heap stem pending

/-- Pending elements stand for one call each. -/
lemma Walks.elements (walks : Walks heap stem depth) (step : Nat → Segment) {opening : String}
    (renders : ∀ i, (step i).render = opening ++ toString i ++ "]") (path : List Segment)
    (elements : List Value) (pending : List Pending) (position : Nat) (w : Walk) :
    resume heap stem ((elements.zipIdx position).map
        (fun (value, i) => ⟨value, path ++ [step i], depth⟩) ++ pending) w =
      walkElements heap stem depth (render path ++ opening) position elements w >>=
        resume heap stem pending := by
  induction elements generalizing position w with
  | nil =>
    rw [walkElements]
    rfl
  | cons value rest ih =>
    have next : render (path ++ [step position]) =
        render path ++ opening ++ toString position ++ "]" := by
      simp only [render_concat, renders, String.append_assoc]
    rw [List.zipIdx_cons, List.map_cons, List.cons_append, walks, next, walkElements, bind_assoc]
    exact bind_congr fun w => ih (position + 1) w

/-- Pending values of map entries stand for one call each. -/
lemma Walks.entries (walks : Walks heap stem depth) (path : List Segment)
    (entries : List (Value × Value)) (pending : List Pending) (position : Nat) (w : Walk) :
    resume heap stem ((entries.zipIdx position).map
        (fun ((key, value), i) => ⟨value, path ++ [entrySegment key i], depth⟩) ++ pending) w =
      walkEntries heap stem depth (render path) position entries w >>=
      resume heap stem pending := by
  induction entries generalizing position w with
  | nil =>
    rw [walkEntries]
    rfl
  | cons entry rest ih =>
    obtain ⟨key, value⟩ := entry
    have next : render (path ++ [entrySegment key position]) =
        render path ++ entryText key position := by
      rw [render_concat, render_entrySegment]
    rw [List.zipIdx_cons, List.map_cons, List.cons_append, walks, next, walkEntries, bind_assoc]
    exact bind_congr fun w => ih (position + 1) w

/-- Pending values of fields stand for one call each. Nothing is pending of a field that could
not be read. -/
lemma Walks.fields (walks : Walks heap stem depth) (path : List Segment) (fields : List Field)
    (pending : List Pending) (w : Walk) :
    resume heap stem (fields.filterMap (fun f =>
        f.slot.value?.map fun value => ⟨value, path ++ [.field f.name], depth⟩) ++ pending) w =
      walkFields heap stem depth (render path) fields w >>= resume heap stem pending := by
  induction fields generalizing w with
  | nil =>
    rw [walkFields]
    rfl
  | cons field rest ih =>
    rw [List.filterMap_cons, walkFields]
    cases field.slot with
    | inaccessible => exact ih w
    | value value =>
      have next : render (path ++ [.field field.name]) = render path ++ "." ++ field.name := by
        rw [render_concat, String.append_assoc]
        rfl
      dsimp only [Slot.value?, Option.map_some]
      rw [List.cons_append, walks, next, bind_assoc]
      exact bind_congr fun w => ih w

/-- What is pending below an object that is not remote stands for the walk from its parts. -/
lemma Walks.ref (walks : Walks heap stem (depth + 1)) (path : List Segment) (id : ObjectId)
    (pending : List Pending) (w : Walk) (room : ¬1024 ≤ depth) :
    resume heap stem (⟨.ref id, path, depth⟩ :: pending) w =
      walk heap stem depth (render path) (.ref id) w >>= resume heap stem pending := by
  rw [walk]
  by_cases known : id ∈ w.visited
  · rw [resume_visited known, if_pos known]
    rfl
  rw [if_neg known, if_neg room]
  cases hget : heap.get? id with
  | none =>
    rw [resume_missing known room hget]
    rfl
  | some object =>
    cases object with
    | array component elements =>
      rw [resume_local known room hget rfl, Pending.below, children, List.map_map]
      exact walks.elements .index (fun _ => rfl) path elements pending 0 (w.enter id)
    | collection className elements =>
      rw [resume_local known room hget rfl, Pending.below, children, List.map_map]
      exact walks.elements .element (fun _ => rfl) path elements pending 0 (w.enter id)
    | properties entries =>
      rw [resume_local known room hget rfl]
      rfl
    | map className entries =>
      rw [resume_local known room hget rfl, Pending.below, children, List.map_map]
      exact walks.entries path entries pending 0 (w.enter id)
    | struct s =>
      dsimp only
      cases remote : s.isRemote with
      | true =>
        rw [resume_remote known room hget remote]
        rfl
      | false =>
        rw [resume_local known room hget remote, Pending.below, children, List.map_filterMap]
        simp only [Option.map_map]
        exact walks.fields path s.fields pending (w.enter id)

end

/-- At every depth a pending value stands for a walk from it. -/
theorem walks (heap : Heap) (stem : String) (depth : Nat) : Walks heap stem depth := by
  intro path value pending w
  cases value with
  | null =>
    have plain : ∀ id, Value.null ≠ .ref id := by simp
    rw [resume_plain plain, walk_plain plain]
    rfl
  | scalar s =>
    have plain : ∀ id, Value.scalar s ≠ .ref id := by simp
    rw [resume_plain plain, walk_plain plain]
    rfl
  | classOf type =>
    have plain : ∀ id, Value.classOf type ≠ .ref id := by simp
    rw [resume_plain plain, walk_plain plain]
    rfl
  | ref id =>
    by_cases full : 1024 ≤ depth
    · rw [walk]
      by_cases known : id ∈ w.visited
      · rw [resume_visited known, if_pos known]
        rfl
      · rw [resume_tooDeep known full, if_neg known, if_pos full]
        rfl
    · exact (walks heap stem (depth + 1)).ref path id pending w full
  termination_by 1024 - depth

/-- What was found is registered with the numbers that it has in the list. -/
lemma registerAll_empty (stem : String) (found : List Found) :
    registerAll stem found .empty = handleTable stem found := by
  induction found using List.reverseRecOn with
  | nil => rfl
  | append_singleton found f ih =>
    have size : (handleTable stem found).size = found.length := by
      rw [TextMap.size, entries_handleTable, List.length_map, List.length_zipIdx]
    have last : handleTable stem (found ++ [f]) =
        (handleTable stem found).insert (handle stem found.length) (render f.path) := by
      rw [handleTable, List.zipIdx_append, List.map_append, TextMap.ofList, List.foldl_append]
      simp only [List.zipIdx_singleton, List.map_singleton, List.foldl_cons, List.foldl_nil,
        Nat.zero_add]
      rfl
    have step : registerAll stem (found ++ [f]) .empty =
        register stem (render f.path) (registerAll stem found .empty) :=
      List.foldl_append ..
    rw [step, ih, last, register, size, handle]

/-- The walk over what is pending finds what the recursive walk finds, in the same order, and fails
as it does, whether the payload is valid or not. -/
theorem table_eq_walk (payload : Payload) (stem : String) :
    table payload stem = (walk payload.heap stem 0 "" payload.value .start).map Walk.paths := by
  have resumed : resume payload.heap stem [⟨payload.value, [], 0⟩] .start =
      walk payload.heap stem 0 "" payload.value .start >>= resume payload.heap stem [] :=
    walks payload.heap stem 0 [] payload.value [] .start
  have scanned : resume payload.heap stem [⟨payload.value, [], 0⟩] .start = table payload stem := by
    rw [resume, table, scan]
    exact congrArg (fun f => Except.map f _) (funext (registerAll_empty stem))
  rw [← scanned, resumed]
  cases walk payload.heap stem 0 "" payload.value .start with
  | error e => rfl
  | ok w => exact resume_nil

/-- A list that holds a remote object, the list itself, and an object that is missing. -/
def torn : Payload :=
  ⟨⟨#[.collection "p.List" [.ref ⟨1⟩, .ref ⟨0⟩, .ref ⟨2⟩], .struct ⟨"p.Stub", true, true, []⟩]⟩,
  .ref ⟨0⟩⟩

/-- In the folder the paths are those of the recursive walk: into the array, by position past the
key that is no text, and by the key into the list. In the torn list the walk comes to the object
that is missing. -/
theorem table_eq_walk_folder :
    table CallRecord.folder "h" = .ok (.ofList [("h0", ".items[1]"),
      ("h1", ".index.values().toArray()[1]"), ("h2", ".index.get(\"b\").toArray()[0]")]) ∧
    table torn "h" = .error (.graph (.objectNotFound ⟨2⟩)) := by
  constructor
  · rw [table_eq_walk]
    cbv
  · rw [table_eq_walk]
    cbv

end CallReplay.RemotePath
