import CallReplay.Heap

/-!
# Argument lists and outcomes

A value graph is a heap with the values that lead into it: the arguments of a call, or the one value
with which the call ended.
-/

namespace CallReplay

/-- The arguments of a call, in order. -/
structure Arguments where
  heap : Heap
  values : List Value
  deriving DecidableEq

/-- A single value with its heap. -/
structure Payload where
  heap : Heap
  value : Value
  deriving DecidableEq

/-- How a call ended: with a returned value or with a thrown failure. -/
inductive Outcome where
  | returned (payload : Payload)
  | thrown (payload : Payload)
  deriving DecidableEq

instance : Inhabited Arguments := ⟨⟨.empty, []⟩⟩

instance : Inhabited Payload := ⟨⟨.empty, .null⟩⟩

/-- Checks that every reference in the graph of the arguments names an object of it. -/
def Arguments.validate (a : Arguments) : Except GraphError Unit := a.heap.validate a.values

/-- Checks that every reference in the graph of a payload names an object of it. -/
def Payload.validate (p : Payload) : Except GraphError Unit := p.heap.validate [p.value]

/-- Whether two argument lists compare as equal; see `Scalar.agrees`. -/
def Arguments.agrees (a b : Arguments) : Bool :=
  a.heap.agrees b.heap && listAgrees Value.agrees a.values b.values

/-- Whether two payloads compare as equal; see `Scalar.agrees`. -/
def Payload.agrees (a b : Payload) : Bool :=
  a.heap.agrees b.heap && a.value.agrees b.value

namespace Outcome

/-- The value with which the call ended, either way. -/
def payload : Outcome → Payload
  | returned p => p
  | thrown p => p

/-- Whether a call has thrown its payload. -/
def isThrown : Outcome → Bool
  | returned _ => false
  | thrown _ => true

/-- Whether two outcomes compare as equal; see `Scalar.agrees`. -/
def agrees (a b : Outcome) : Bool :=
  a.isThrown == b.isThrown && a.payload.agrees b.payload

end Outcome

end CallReplay
