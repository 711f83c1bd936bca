import CallReplay.Lists
import CallReplay.Payload
import CallReplay.Script.Compiler

/-!
# Paths to remote objects

A returned value may hold references to remote objects. `scan` walks the value depth first, parts in
declaration order, and finds every remote object with the path that leads to it from the value. A
remote object is taken as a whole: the walk does not look inside it. Each object is visited once, so
an object that several paths lead to is found on the first of them.
-/

namespace CallReplay

open Script (ScriptError)

namespace RemotePath

/-- How many objects may stand above one that is visited. -/
def maxDepth : Nat := 1024

/-- One step from an object to a value that it holds. -/
inductive Segment where
  | field (name : String)
  | index (position : Nat)
  | element (position : Nat)
  | key (text : String)
  | entry (position : Nat)
  deriving DecidableEq

/-- A step as it is written behind an expression. -/
def Segment.render : Segment → String
  | field name => "." ++ name
  | index position => "[" ++ toString position ++ "]"
  | element position => ".toArray()[" ++ toString position ++ "]"
  | key text => ".get(" ++ Literal.ofText text ++ ")"
  | entry position => ".values().toArray()[" ++ toString position ++ "]"

/-- The steps of a path, written one behind the other. -/
def render (path : List Segment) : String := String.join (path.map Segment.render)

/-- The step to the value of the map entry at a position. -/
def entrySegment (key : Value) (position : Nat) : Segment :=
  match key with
  | .scalar (.text s) => .key s
  | _ => .entry position

/-- The values that an object holds and that can be stepped to, in order. -/
def children : Object → List (Segment × Value)
  | .array _ elements => elements.zipIdx.map fun (v, i) => (.index i, v)
  | .collection _ elements => elements.zipIdx.map fun (v, i) => (.element i, v)
  | .properties _ => []
  | .map _ entries => entries.zipIdx.map fun ((k, v), i) => (entrySegment k i, v)
  | .struct s => s.fields.filterMap fun f => f.slot.value?.map fun v => (.field f.name, v)

/-- Whether an object is a remote one. -/
def isRemote : Object → Bool
  | .struct s => s.isRemote
  | _ => false

/-- A value to be visited, the path that leads to it, and how many objects stand above it. -/
structure Pending where
  value : Value
  path : List Segment
  depth : Nat
  deriving DecidableEq

/-- A remote object and the path on which it was found. -/
structure Found where
  object : ObjectId
  path : List Segment
  deriving DecidableEq

/-- What is to be visited below an object. -/
def Pending.below (p : Pending) (object : Object) : List Pending :=
  (children object).map fun (segment, value) => ⟨value, p.path ++ [segment], p.depth + 1⟩

/-- How many objects of a heap have not been visited. -/
def unvisited (heap : Heap) (visited : List ObjectId) : Nat :=
  (List.range heap.size).countP fun i => decide ((⟨UInt32.ofNat i⟩ : ObjectId) ∉ visited)

/-- Visiting an object of the heap leaves fewer unvisited. -/
theorem unvisited_cons_lt {heap : Heap} {visited : List ObjectId} {id : ObjectId} {object : Object}
    (hget : heap.get? id = some object) (hnew : id ∉ visited) :
    unvisited heap (id :: visited) < unvisited heap visited := by
  have hlt : id.index.toNat < heap.size := by
    unfold Heap.get? at hget
    exact (Array.getElem?_eq_some_iff.mp hget).1
  have hid : (⟨UInt32.ofNat id.index.toNat⟩ : ObjectId) = id := by simp
  apply countP_lt_countP (a := id.index.toNat)
  · intro i hi
    simp only [List.mem_cons, decide_eq_true_eq, not_or] at hi ⊢
    exact hi.2
  · exact List.mem_range.mpr hlt
  · simp [hnew]
  · simp

/-- Visits what is pending, the first value first. -/
def visit (heap : Heap) (visited : List ObjectId) :
    List Pending → Except ScriptError (List Found)
  | [] => .ok []
  | p :: pending =>
    match p.value with
    | .ref id =>
      if _hnew : id ∈ visited then
        visit heap visited pending
      else if maxDepth ≤ p.depth then
        .error (.nestingTooDeep maxDepth)
      else
        match _hget : heap.get? id with
        | none => .error (.graph (.objectNotFound id))
        | some object =>
          if isRemote object then do
            let others ← visit heap (id :: visited) pending
            pure (⟨id, p.path⟩ :: others)
          else
            visit heap (id :: visited) (p.below object ++ pending)
    | _ => visit heap visited pending
  termination_by pending => (unvisited heap visited, pending.length)
  decreasing_by
    · exact Prod.Lex.right _ (Nat.lt_succ_self _)
    · exact Prod.Lex.left _ _ (unvisited_cons_lt _hget _hnew)
    · exact Prod.Lex.left _ _ (unvisited_cons_lt _hget _hnew)
    · exact Prod.Lex.right _ (Nat.lt_succ_self _)

/-- The remote objects that a payload leads to, in the order in which they are found. -/
def scan (payload : Payload) : Except ScriptError (List Found) :=
  visit payload.heap [] [⟨payload.value, [], 0⟩]

/-- The name of the handle with a number. -/
def handle (stem : String) (number : Nat) : String := stem ++ toString number

/-- The handles of found objects, numbered from zero, with the paths as they are written. -/
def handleTable (stem : String) (found : List Found) : TextMap :=
  .ofList (found.zipIdx.map fun (f, i) => (handle stem i, render f.path))

/-- The handles and paths of the remote objects that a payload leads to. -/
def table (payload : Payload) (stem : String) : Except ScriptError TextMap :=
  (scan payload).map (handleTable stem)

end RemotePath

end CallReplay
