import CallReplay.Literal

/-!
# Script statements

The statements that rebuild a value graph, as a small abstract syntax, and the text of each. A
`Scriptlet` is what compiling one value yields: a banner for every structured object and the
statements that leave the value in a variable.
-/

namespace CallReplay.Script

/-- What a map entry is put together from: null and text stand in the call itself, everything else
in a variable. -/
inductive Operand where
  | null
  | text (value : String)
  | held (name : String)
  deriving DecidableEq

/-- A statement of a script. -/
inductive Statement where
  /-- Leaves null in a variable, which is declared if its type is known. -/
  | declareNull (type : Option TypeDesc) (name : String)
  /-- Declares a variable with a class reference. -/
  | declareClass (name : String) (type : TypeDesc)
  /-- Declares a variable with a scalar. -/
  | declareScalar (name : String) (value : Scalar)
  /-- Declares a variable for an object that another variable already holds. -/
  | copy (type : TypeDesc) (name previous : String)
  /-- Creates an array of scalars and nulls. -/
  | inlineArray (component : TypeDesc) (name : String) (elements : List (Option Scalar))
  /-- Creates an array of a length, to be filled later. -/
  | sizedArray (component : TypeDesc) (name : String) (length : Nat)
  /-- Creates an object with the constructor that takes no arguments. -/
  | construct (className name : String)
  /-- Creates an object with a helper that runs no constructor. -/
  | bypass (className name helper : String)
  /-- Stores a variable in an element of an array. -/
  | storeElement (array : String) (index : Nat) (value : String)
  /-- Adds a variable to a collection. -/
  | add (collection value : String)
  /-- Puts an entry into a map. -/
  | put (map : String) (key value : Operand)
  /-- Sets a property of a property bag. -/
  | setProperty (properties key value : String)
  /-- Stores a variable, or null, in a field. -/
  | storeField (object field : String) (value : Option String)
  /-- Says that a field could not be read. -/
  | unreadField (object field : String)
  deriving DecidableEq

/-- An operand as it is written in a call. -/
def Operand.render : Operand → String
  | null => "null"
  | text s => Literal.ofText s
  | held name => name

/-- An element of an inline array as it is written. -/
def renderElement : Option Scalar → String
  | none => "null"
  | some s => Literal.ofScalar s

/-- Items between braces; no items leave no space between them. -/
def braceList (items : List String) : String :=
  if items.isEmpty then "\x7b\x7d" else "\x7b " ++ ", ".intercalate items ++ " \x7d"

/-- Bracket pairs for a number of dimensions. -/
def brackets (dimensions : Nat) : String :=
  String.join (List.replicate dimensions "[]")

namespace Statement

/-- A statement as it is written, with its line end. -/
def render : Statement → String
  | declareNull (some type) name => type.canonicalName ++ " " ++ name ++ " = null;/* Null */\n"
  | declareNull none name => name ++ " = null;/* Null */\n"
  | declareClass name type => "Class " ++ name ++ " = " ++ Literal.ofClass type ++ ";\n"
  | declareScalar name value =>
    Literal.typeName value ++ " " ++ name ++ " = " ++ Literal.ofScalar value ++ ";\n"
  | copy type name previous => type.canonicalName ++ " " ++ name ++ " = " ++ previous ++ ";\n"
  | inlineArray component name elements =>
    let type := component.canonicalName
    type ++ "[] " ++ name ++ " = new " ++ type ++ "[] " ++
      braceList (elements.map renderElement) ++ ";\n"
  | sizedArray component name length =>
    component.canonicalName ++ "[] " ++ name ++ " = new " ++ component.element.canonicalName ++
      "[" ++ toString length ++ "]" ++ brackets component.dimensions ++ ";\n"
  | construct className name => className ++ " " ++ name ++ " = new " ++ className ++ "();\n"
  | bypass className name helper =>
    className ++ " " ++ name ++ " = " ++ helper ++ "(" ++ className ++ ".class); // WARNING: " ++
      className ++ " has no default constructor, instance built without running a constructor\n"
  | storeElement array index value => array ++ "[" ++ toString index ++ "] = " ++ value ++ ";\n"
  | add collection value => collection ++ ".add(" ++ value ++ ");\n"
  | put map key value => map ++ ".put(" ++ key.render ++ ", " ++ value.render ++ ");\n"
  | setProperty properties key value =>
    properties ++ ".setProperty(" ++ Literal.ofText key ++ ", " ++ Literal.ofText value ++ ");\n"
  | storeField object field none => object ++ "." ++ field ++ " = null;\n"
  | storeField object field (some value) => object ++ "." ++ field ++ " = " ++ value ++ ";\n"
  | unreadField object field =>
      "/* Couldn't populate value */ // " ++ object ++ "." ++ field ++ "\n"

/-- The variable that the statement gives a value to, if it does. -/
def assigned? : Statement → Option String
  | declareNull _ name => some name
  | declareClass name _ => some name
  | declareScalar name _ => some name
  | copy _ name _ => some name
  | inlineArray _ name _ => some name
  | sizedArray _ name _ => some name
  | construct _ name => some name
  | bypass _ name _ => some name
  | storeElement .. | add .. | put .. | setProperty .. | storeField .. | unreadField .. => none

/-- Whether the statement creates an object. -/
def isConstruction : Statement → Bool
  | inlineArray .. | sizedArray .. | construct .. | bypass .. => true
  | _ => false

end Statement

/-- The comment that goes before the statements of a structured object. -/
structure Banner where
  className : String
  name : String
  deriving DecidableEq

/-- A banner as it is written, between line ends. -/
def Banner.render (b : Banner) : String :=
  "\n// ----------  Field values for " ++ simpleClassName b.className ++ " " ++ b.name ++ "\n"

/-- What compiling a value yields. -/
structure Scriptlet where
  banners : List Banner
  statements : List Statement
  deriving DecidableEq

namespace Scriptlet

/-- A single statement. -/
def single (s : Statement) : Scriptlet := ⟨[], [s]⟩

/-- A scriptlet of statements without banners. -/
def plain (statements : List Statement) : Scriptlet := ⟨[], statements⟩

/-- One scriptlet after another, banners and statements apart. -/
def append (a b : Scriptlet) : Scriptlet :=
  ⟨a.banners ++ b.banners, a.statements ++ b.statements⟩

instance : Append Scriptlet := ⟨append⟩

/-- The lines that introduce what the statements create. -/
def bannerText (s : Scriptlet) : String := String.join (s.banners.map Banner.render)

/-- The statements as a text, one behind the other. -/
def statementText (s : Scriptlet) : String := String.join (s.statements.map Statement.render)

/-- The banners, a separator and the statements. -/
def render (s : Scriptlet) (separator : String) : String :=
  s.bannerText ++ "\n" ++ separator ++ "\n\n" ++ s.statementText

end Scriptlet

end CallReplay.Script
