import CallReplay.Heap
import CallReplay.Text.LetterCase

/-!
# Variable names

A variable is named after the type that its value has when the program runs: the simple name
with its first letter lowered, followed by `Array` for each dimension. Null has no type and
is called `value`.
-/

namespace CallReplay.VariableName

/-- What the variable of null is named after. -/
def ofNull : String := "value"

/-- The name for values of a type. -/
def ofType : TypeDesc → String
  | .array component => ofType component ++ "Array"
  | type => Text.decapitalize type.simpleName

/-- The name for a value of a heap. -/
def ofValue (h : Heap) (value : Value) : Except GraphError String := do
  match ← h.runtimeType value with
  | some type => pure (ofType type)
  | none => pure ofNull

end CallReplay.VariableName
