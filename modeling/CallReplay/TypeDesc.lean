/-!
# Types of recorded values

A recorded value has a type that the replay scripts spell the Java way: a primitive keyword, the
canonical name of a class, or an array of another type. Outside the program an array type is written
flat, as the innermost element type and a count of dimensions, and at most 255 dimensions are read
back. `TypeDesc.flatten` and `TypeDesc.ofFlat` go between the two forms.
-/

namespace CallReplay

/-- The unboxed scalar kinds, in the order in which they are numbered. -/
inductive Primitive where
  | boolean
  | char
  | byte
  | short
  | int
  | long
  | float
  | double
  deriving DecidableEq

namespace Primitive

/-- The primitive types, in the order of their numbers. -/
def all : List Primitive :=
  [boolean, char, byte, short, int, long, float, double]

/-- The keyword that names the kind in a declaration. -/
def keyword : Primitive → String
  | boolean => "boolean"
  | char => "char"
  | byte => "byte"
  | short => "short"
  | int => "int"
  | long => "long"
  | float => "float"
  | double => "double"

/-- The class of the boxed form of the kind. -/
def wrapper : Primitive → String
  | boolean => "java.lang.Boolean"
  | char => "java.lang.Character"
  | byte => "java.lang.Byte"
  | short => "java.lang.Short"
  | int => "java.lang.Integer"
  | long => "java.lang.Long"
  | float => "java.lang.Float"
  | double => "java.lang.Double"

/-- The name under which a kind is stored outside the program. -/
def name : Primitive → String
  | boolean => "Boolean"
  | char => "Char"
  | byte => "Byte"
  | short => "Short"
  | int => "Int"
  | long => "Long"
  | float => "Float"
  | double => "Double"

/-- The kind that a keyword names, if there is one. -/
def ofKeyword? (word : String) : Option Primitive :=
  all.find? fun kind => kind.keyword == word

/-- The kind that a stored name stands for, if there is one. -/
def ofName? (word : String) : Option Primitive :=
  all.find? fun kind => kind.name == word

/-- Every kind is in the list of all kinds. -/
theorem mem_all (kind : Primitive) : kind ∈ all := by
  cases kind <;> decide

/-- A keyword names the kind that it was taken from. -/
theorem ofKeyword?_keyword (kind : Primitive) : ofKeyword? kind.keyword = some kind := by
  cases kind <;> rfl

/-- A stored name stands for the kind that it was taken from. -/
theorem ofName?_name (kind : Primitive) : ofName? kind.name = some kind := by
  cases kind <;> rfl

end Primitive

/-- The class of texts. -/
def textClass : String := "java.lang.String"

/-- The class of property bags. -/
def propertiesClass : String := "java.util.Properties"

/-- The class of classes. -/
def classClass : String := "java.lang.Class"

/-- A type: a primitive, a class by its canonical name, or an array of a component type. -/
inductive TypeDesc where
  | primitive (kind : Primitive)
  | named (name : String)
  | array (component : TypeDesc)
  deriving DecidableEq

/-- A type that is no array. -/
inductive ElementType where
  | primitive (kind : Primitive)
  | named (name : String)
  deriving DecidableEq

/-- An array type written flat: its innermost element and how many dimensions surround it. -/
structure FlatType where
  element : ElementType
  dimensions : UInt32
  deriving DecidableEq

/-- A flat type has more dimensions than an array can have. -/
structure TooManyDimensions where
  dimensions : UInt32
  deriving DecidableEq

/-- The most dimensions an array type may have. -/
def maxDimensions : Nat := 255

/-- The text that reports an array type with too many dimensions. -/
def TooManyDimensions.message (e : TooManyDimensions) : String :=
  s!"array type has {e.dimensions.toNat} dimensions, at most {maxDimensions} are supported"

/-- The part of a class name after its last `.` or `$`. -/
def simpleClassName (name : String) : String :=
  String.ofList (name.toList.reverse.takeWhile fun c => c != '.' && c != '$').reverse

namespace ElementType

/-- The type with no dimensions around the element. -/
def toType : ElementType → TypeDesc
  | primitive kind => .primitive kind
  | named name => .named name

/-- The name of the element as a declaration spells it. -/
def canonicalName : ElementType → String
  | primitive kind => kind.keyword
  | named name => name

end ElementType

namespace TypeDesc

/-- The type of texts. -/
def text : TypeDesc := .named textClass

/-- The full name: the element's own name and a pair of brackets per dimension. -/
def canonicalName : TypeDesc → String
  | primitive kind => kind.keyword
  | named name => name
  | array component => component.canonicalName ++ "[]"

/-- The full name without the package and the enclosing classes. -/
def simpleName : TypeDesc → String
  | primitive kind => kind.keyword
  | named name => simpleClassName name
  | array component => component.simpleName ++ "[]"

/-- The component of an array type. -/
def component? : TypeDesc → Option TypeDesc
  | array component => some component
  | _ => none

/-- How many dimensions surround the innermost element. -/
def dimensions : TypeDesc → Nat
  | array component => component.dimensions + 1
  | _ => 0

/-- The innermost element. -/
def element : TypeDesc → ElementType
  | primitive kind => .primitive kind
  | named name => .named name
  | array component => component.element

/-- Whether the type is an unboxed scalar. -/
def isPrimitive : TypeDesc → Bool
  | primitive _ => true
  | _ => false

/-- Whether values of the type are scalars, boxed or not, or text. -/
def isScalar : TypeDesc → Bool
  | primitive _ => true
  | named name => name == textClass || Primitive.all.any fun kind => kind.wrapper == name
  | array _ => false

/-- The type with a number of dimensions put around it. -/
def wrap : Nat → TypeDesc → TypeDesc
  | 0, t => t
  | n + 1, t => wrap n (.array t)

/-- The flat form of a type. -/
def flatten (t : TypeDesc) : FlatType :=
  unwind 0 t
where
  /-- Takes the dimensions off a type and goes on counting them. -/
  unwind (dimensions : UInt32) : TypeDesc → FlatType
    | primitive kind => ⟨.primitive kind, dimensions⟩
    | named name => ⟨.named name, dimensions⟩
    | array component => unwind (dimensions + 1) component

/-- The type that a flat form stands for; a form with more than 255 dimensions stands for none. -/
def ofFlat (flat : FlatType) : Except TooManyDimensions TypeDesc :=
  if flat.dimensions.toNat > maxDimensions then
    .error ⟨flat.dimensions⟩
  else
    .ok (wrap flat.dimensions.toNat flat.element.toType)

/-- The type that a declaration spells: trailing bracket pairs are dimensions, a keyword is a
primitive, and every other text names a class. -/
def ofSpelling (spelling : String) : TypeDesc :=
  strip spelling.toList.reverse
where
  /-- Reads the spelling from its end. -/
  strip : List Char → TypeDesc
    | ']' :: '[' :: rest => .array (strip rest)
    | chars =>
      let name := String.ofList chars.reverse
      match Primitive.ofKeyword? name with
      | some kind => .primitive kind
      | none => .named name

end TypeDesc

end CallReplay
