import CallReplay.TypeDesc

/-!
# Method signatures

The mangled key of a method tells overloads apart: the method name, a colon, and the canonical names
of the parameter types joined by commas. A method whose types are not known has the key of a method
without parameters.
-/

namespace CallReplay

/-- The mangled key of a method and the part of it that lists the parameter types. -/
structure Signature where
  full : String
  parameters : String
  deriving DecidableEq

/-- The key of a method with the given parameter types; unknown types count as none. -/
def Signature.mangle (method : String) (types : Option (List TypeDesc)) : Signature :=
  let parameters := ",".intercalate ((types.getD []).map TypeDesc.canonicalName)
  ⟨method ++ ":" ++ parameters, parameters⟩

end CallReplay
