import CallReplay.Proofs.Script.Scope

/-!
# Execution of scripts

A script runs statement by statement on variables and on the objects that it has created, which are
numbered as they are created. Variables hold null, scalars, class references and references to
created objects. An instance of a class remembers what was done to it: the fields that were set, the
elements that were added, the entries that were put and the properties that were set, since a class
is not known to be a collection, a map or a structure when it is instantiated. Reading a variable
that has no value and a change that an object does not take are faults.
-/

namespace CallReplay.Script

/-- What a variable, an element, a part of an entry or a field holds. -/
inductive Cell where
  | null
  | scalar (value : Scalar)
  | classOf (type : TypeDesc)
  | object (place : Nat)
  deriving DecidableEq

/-- An instance of a class, with all that was done to it. -/
structure Instance where
  className : String
  fields : List (String × Cell) := []
  elements : List Cell := []
  entries : List (Cell × Cell) := []
  properties : TextMap := .empty
  deriving DecidableEq

/-- An object that a script has created. -/
inductive Created where
  | array (component : TypeDesc) (elements : List Cell)
  | instanceOf (content : Instance)
  deriving DecidableEq

/-- A change of an object. -/
inductive Update where
  | element (index : Nat) (content : Cell)
  | add (element : Cell)
  | put (key value : Cell)
  | property (key value : String)
  | field (name : String) (content : Cell)
  deriving DecidableEq

/-- Sets a field: one that was set before keeps its place. -/
def setCell (name : String) (content : Cell) : List (String × Cell) → List (String × Cell)
  | [] => [(name, content)]
  | (other, previous) :: rest =>
    if other = name then (name, content) :: rest
    else (other, previous) :: setCell name content rest

/-- The object after a change, if it takes such a change: arrays have elements up to their length,
and instances take everything else. -/
def Created.update : Created → Update → Option Created
  | array component elements, .element index content =>
    if index < elements.length then some (array component (elements.set index content)) else none
  | instanceOf x, .add element => some (instanceOf { x with elements := x.elements ++ [element] })
  | instanceOf x, .put key value =>
      some (instanceOf { x with entries := x.entries ++ [(key, value)] })
  | instanceOf x, .property key value =>
    some (instanceOf { x with properties := x.properties.insert key value })
  | instanceOf x, .field name content =>
    some (instanceOf { x with fields := setCell name content x.fields })
  | _, _ => none

/-- What can go wrong while a script runs. -/
inductive Fault where
  /-- A variable is read that was given no value. -/
  | unassigned (name : String)
  /-- A variable holds no object that takes the change. -/
  | unsuitable (name : String)
  deriving DecidableEq

/-- Where a running script stands: its variables, the latest first, and the objects that it has
created, the first one first. -/
structure State where
  bindings : List (String × Cell)
  objects : List Created
  deriving DecidableEq

namespace State

/-- The state in which a script begins. -/
def empty : State := ⟨[], []⟩

/-- What a variable holds. -/
def read (s : State) (name : String) : Except Fault Cell :=
  match s.bindings.lookup name with
  | some content => .ok content
  | none => .error (.unassigned name)

/-- Gives a variable its value. -/
def assign (s : State) (name : String) (content : Cell) : State :=
  { s with bindings := (name, content) :: s.bindings }

/-- Creates an object and leaves it in a variable. -/
def create (s : State) (name : String) (object : Created) : State :=
  ⟨(name, .object s.objects.length) :: s.bindings, s.objects ++ [object]⟩

/-- Changes the object that a variable holds. -/
def change (s : State) (name : String) (update : Update) : Except Fault State := do
  match ← s.read name with
  | .object place =>
    match s.objects[place]?.bind fun object => object.update update with
    | some object => pure { s with objects := s.objects.set place object }
    | none => throw (.unsuitable name)
  | _ => throw (.unsuitable name)

/-- What an operand of a map entry stands for. -/
def operand (s : State) : Operand → Except Fault Cell
  | .null => .ok .null
  | .text value => .ok (.scalar (.text value))
  | .held name => s.read name

end State

/-- An element of an inline array. -/
def Cell.ofElement : Option Scalar → Cell
  | some value => .scalar value
  | none => .null

/-- Runs one statement. -/
def step (s : State) : Statement → Except Fault State
  | .declareNull _ name => .ok (s.assign name .null)
  | .declareClass name type => .ok (s.assign name (.classOf type))
  | .declareScalar name value => .ok (s.assign name (.scalar value))
  | .copy _ name previous => do
    let content ← s.read previous
    pure (s.assign name content)
  | .inlineArray component name elements =>
    .ok (s.create name (.array component (elements.map Cell.ofElement)))
  | .sizedArray component name length =>
    .ok (s.create name (.array component (List.replicate length .null)))
  | .construct className name => .ok (s.create name (.instanceOf { className := className }))
  | .bypass className name _ => .ok (s.create name (.instanceOf { className := className }))
  | .storeElement array index value => do
    let content ← s.read value
    s.change array (.element index content)
  | .add collection value => do
    let content ← s.read value
    s.change collection (.add content)
  | .put map key value => do
    let key ← s.operand key
    let value ← s.operand value
    s.change map (.put key value)
  | .setProperty properties key value => s.change properties (.property key value)
  | .storeField object field none => s.change object (.field field .null)
  | .storeField object field (some value) => do
    let content ← s.read value
    s.change object (.field field content)
  | .unreadField _ _ => .ok s

/-- Runs statements one after another. -/
def run (s : State) : List Statement → Except Fault State
  | [] => .ok s
  | statement :: rest => do
    let s ← step s statement
    run s rest

/-- The contents of the variables in a list, where null stands for itself. -/
def readAll (s : State) : List (Option String) → Except Fault (List Cell)
  | [] => .ok []
  | none :: rest => do
    let others ← readAll s rest
    pure (.null :: others)
  | some name :: rest => do
    let first ← s.read name
    let others ← readAll s rest
    pure (first :: others)

/-- What a script for arguments returns, null or an array with some elements, and the objects that
it has created besides. -/
structure Returned where
  array : Option (List Cell)
  objects : List Created
  deriving DecidableEq

end CallReplay.Script

namespace CallReplay.ArgumentsScript

open Script

/-- The statements of a script before the array is put together. -/
def statements : ArgumentsScript → List Statement
  | empty => []
  | build _ parts _ => parts.flatMap Scriptlet.statements

/-- The variables to which a script gives values, in order. -/
def assigned (script : ArgumentsScript) : List String :=
  script.statements.filterMap Statement.assigned?

/-- Runs a script from an empty environment. -/
def run : ArgumentsScript → Except Fault Returned
  | empty => .ok ⟨none, []⟩
  | build tag parts names => do
    let s ← Script.run .empty (build tag parts names).statements
    let elements ← readAll s names
    pure ⟨some elements, s.objects⟩

end CallReplay.ArgumentsScript
