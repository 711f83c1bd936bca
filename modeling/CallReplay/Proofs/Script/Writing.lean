import CallReplay.Recorder
import CallReplay.Proofs.Except
import CallReplay.Proofs.Lists

/-!
# How scripts are written

Results on scripts speak of statements. Here it is said once how each form of statement is
written (`Statement.Written`): what stands between its variables, its types and its literals,
down to the line end. A script is its first lines, then the units of its parts in their order,
and then the line that returns the variables of the arguments (`ArgumentsScript.Written`).
Nothing else is written (`argumentsText_written`).
-/

namespace CallReplay

namespace Script

/-- How an operand of a map entry is written. -/
inductive Operand.Written : Operand → String → Prop where
  | null :
    Written .null "null"
  | text {s} :
    Written (.text s) (Literal.ofText s)
  | held {name} :
    Written (.held name) name

/-- How an element of an inline array is written. -/
inductive ElementWritten : Option Scalar → String → Prop where
  | null :
    ElementWritten none "null"
  | literal {s} :
    ElementWritten (some s) (Literal.ofScalar s)

/-- How each form of statement is written. -/
inductive Statement.Written : Statement → String → Prop where
  | declareNull {type name} :
    Written (.declareNull (some type) name)
      (type.canonicalName ++ " " ++ name ++ " = null;/* Null */\n")
  | leaveNull {name} :
    Written (.declareNull none name) (name ++ " = null;/* Null */\n")
  | declareClass {name type} :
    Written (.declareClass name type)
      ("Class " ++ name ++ " = " ++ (type.canonicalName ++ ".class") ++ ";\n")
  | declareScalar {name value} :
    Written (.declareScalar name value)
      (Literal.typeName value ++ " " ++ name ++ " = " ++ Literal.ofScalar value ++ ";\n")
  | copy {type name previous} :
    Written (.copy type name previous)
      (type.canonicalName ++ " " ++ name ++ " = " ++ previous ++ ";\n")
  | emptyArray {component name} :
    Written (.inlineArray component name [])
      (component.canonicalName ++ "[] " ++ name ++ " = new " ++ component.canonicalName ++
        "[] " ++ "\x7b\x7d" ++ ";\n")
  | inlineArray {component name element elements first texts} :
    ElementWritten element first →
    List.Forall₂ ElementWritten elements texts →
    Written (.inlineArray component name (element :: elements))
      (component.canonicalName ++ "[] " ++ name ++ " = new " ++ component.canonicalName ++
        "[] " ++ ("\x7b " ++ ", ".intercalate (first :: texts) ++ " \x7d") ++ ";\n")
  | sizedArray {component name length} :
    Written (.sizedArray component name length)
      (component.canonicalName ++ "[] " ++ name ++ " = new " ++ component.element.canonicalName ++
        "[" ++ toString length ++ "]" ++ String.join (List.replicate component.dimensions "[]") ++
        ";\n")
  | construct {className name} :
    Written (.construct className name)
      (className ++ " " ++ name ++ " = new " ++ className ++ "();\n")
  | bypass {className name helper} :
    Written (.bypass className name helper)
      (className ++ " " ++ name ++ " = " ++ helper ++ "(" ++ className ++ ".class); // WARNING: " ++
        className ++ " has no default constructor, instance built without running a constructor\n")
  | storeElement {array index value} :
    Written (.storeElement array index value)
      (array ++ "[" ++ toString index ++ "] = " ++ value ++ ";\n")
  | add {collection value} :
    Written (.add collection value) (collection ++ ".add(" ++ value ++ ");\n")
  | put {map key value keyText valueText} :
    key.Written keyText →
    value.Written valueText →
    Written (.put map key value) (map ++ ".put(" ++ keyText ++ ", " ++ valueText ++ ");\n")
  | setProperty {properties key value} :
    Written (.setProperty properties key value)
      (properties ++ ".setProperty(" ++ Literal.ofText key ++ ", " ++ Literal.ofText value ++
      ");\n")
  | clearField {object field} :
    Written (.storeField object field none) (object ++ "." ++ field ++ " = null;\n")
  | storeField {object field value} :
    Written (.storeField object field (some value))
      (object ++ "." ++ field ++ " = " ++ value ++ ";\n")
  | unreadField {object field} :
    Written (.unreadField object field)
      ("/* Couldn't populate value */ // " ++ object ++ "." ++ field ++ "\n")

/-- How a banner is written: as a comment between line ends. -/
inductive Banner.Written : Banner → String → Prop where
  | comment {className name} :
    Written ⟨className, name⟩
      ("\n// ----------  Field values for " ++ simpleClassName className ++ " " ++ name ++ "\n")

/-- How a part of a script is written: its banners, the separator, and its statements. -/
inductive Scriptlet.Written (separator : String) : Scriptlet → String → Prop where
  | parts {banners statements comments units} :
    List.Forall₂ Banner.Written banners comments →
    List.Forall₂ Statement.Written statements units →
    Written separator ⟨banners, statements⟩
      (String.join comments ++ "\n" ++ separator ++ "\n\n" ++ String.join units)

end Script

/-- How a script for arguments is written: the comment with the tag, the first lines, the parts, and
the array of the arguments' variables, which is returned. -/
inductive ArgumentsScript.Written (separator : String) : ArgumentsScript → String → Prop where
  | empty :
    Written separator .empty "// No arguments\nmethodArgs ( ) \x7b return null; \x7d"
  | build {tag parts names texts} :
    List.Forall₂ (Script.Scriptlet.Written separator) parts texts →
    Written separator (.build tag parts names)
      ("// $Tag '" ++ tag ++ "'\n" ++ "setAccessibility(true);\nmethodArgs ( ) \x7b\n" ++
        String.join texts ++ "Object[] args = new Object[] \x7b " ++
        ", ".intercalate (names.map fun name => name.getD "null") ++ " \x7d;\nreturn args;\n\x7d\n")

namespace Script

/-- An operand is written in one way. -/
lemma Operand.written_iff (operand : Operand) (text : String) :
    operand.Written text ↔ text = operand.render := by
  constructor
  · rintro ⟨⟩ <;> rfl
  · rintro rfl
    cases operand <;> constructor

/-- An element of an array is written in one way. -/
lemma elementWritten_iff (element : Option Scalar) (text : String) :
    ElementWritten element text ↔ text = renderElement element := by
  constructor
  · rintro ⟨⟩ <;> rfl
  · rintro rfl
    cases element <;> constructor

/-- Each form of statement is written as it is said to be, and in no other way. -/
theorem Statement.written_iff (statement : Statement) (text : String) :
    statement.Written text ↔ text = statement.render := by
  constructor
  · intro written
    cases written with
    | inlineArray first rest =>
      rw [elementWritten_iff] at first
      rw [forall₂_iff_eq_map elementWritten_iff] at rest
      rw [first, rest]
      rfl
    | put key value =>
      rw [Operand.written_iff] at key value
      rw [key, value]
      rfl
    | _ => rfl
  · rintro rfl
    cases statement with
    | declareNull type name => cases type <;> constructor
    | inlineArray component name elements =>
      cases elements with
      | nil => exact .emptyArray
      | cons element elements =>
        exact .inlineArray ((elementWritten_iff _ _).mpr rfl)
          ((forall₂_iff_eq_map elementWritten_iff).mpr rfl)
    | put map key value =>
      exact .put ((Operand.written_iff _ _).mpr rfl) ((Operand.written_iff _ _).mpr rfl)
    | storeField object field value => cases value <;> constructor
    | _ => constructor

/-- A banner is written in one way. -/
lemma Banner.written_iff (banner : Banner) (text : String) :
    banner.Written text ↔ text = banner.render := by
  constructor
  · rintro ⟨⟩
    rfl
  · rintro rfl
    exact .comment

/-- The statements of a part are written one after another, behind its banners. -/
theorem Scriptlet.written_iff (separator : String) (part : Scriptlet) (text : String) :
    part.Written separator text ↔ text = part.render separator := by
  constructor
  · rintro ⟨comments, units⟩
    rw [forall₂_iff_eq_map Banner.written_iff] at comments
    rw [forall₂_iff_eq_map Statement.written_iff] at units
    rw [comments, units]
    rfl
  · rintro rfl
    exact .parts ((forall₂_iff_eq_map Banner.written_iff).mpr rfl)
      ((forall₂_iff_eq_map Statement.written_iff).mpr rfl)

end Script

/-- A script is written in one way. -/
lemma ArgumentsScript.written_iff (separator : String) (script : ArgumentsScript) (text : String) :
    script.Written separator text ↔ text = script.render separator := by
  constructor
  · rintro (_ | parts)
    · rfl
    · rw [forall₂_iff_eq_map (Script.Scriptlet.written_iff separator)] at parts
      rw [parts]
      rfl
  · rintro rfl
    cases script with
    | empty => exact .empty
    | build tag parts names =>
      exact .build ((forall₂_iff_eq_map (Script.Scriptlet.written_iff separator)).mpr rfl)

/-- The script for a call is written from its statements: each is written in its own way, and they
stand in the order in which they were compiled. -/
theorem Recorder.argumentsText_written {options : RecorderOptions} {r : CallRecord}
    {text : String} :
    argumentsText options r = .ok text ↔
      ∃ script, argumentsScript options r = .ok script ∧
        script.Written options.script.separator text := by
  rw [argumentsText, map_eq_ok_iff]
  exact exists_congr fun script => and_congr_right fun _ =>
    eq_comm.trans (ArgumentsScript.written_iff _ script text).symm

end CallReplay
