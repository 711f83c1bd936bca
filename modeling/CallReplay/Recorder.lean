import CallReplay.Artifact
import CallReplay.Text.Replace

/-!
# Recording calls

From the record of a call the recorder makes its artifacts: the name of the sampler from a
format, the script that rebuilds the arguments, and the script that registers the remote objects
of the returned value.
-/

namespace CallReplay

open Script (Compile Names Scriptlet ScriptError)

/-- How artifacts are made. -/
structure RecorderOptions where
  /-- How scripts are written. -/
  script : Script.Options := {}
  /-- The name of a sampler, with places for the call's index, target and method. -/
  nameFormat : String := "\x7bindex\x7d \x7btarget\x7d.\x7bmethod\x7d"
  /-- The class of the registry of remote objects. -/
  registryClass : String := "rmirec.InstanceRegistry"
  /-- The variable that holds the registry during a replay. -/
  registryVariable : String := "RMIRemoteObject.instances"
  /-- The expression for the sample before. -/
  previousResult : String := "prev"
  deriving DecidableEq

/-- The script that rebuilds the arguments of a call. -/
inductive ArgumentsScript where
  /-- The call has no arguments. -/
  | empty
  /-- The tag of the call, what each argument compiles to, and the arguments' variables in order;
  null has none. -/
  | build (tag : String) (parts : List Scriptlet) (names : List (Option String))
  deriving DecidableEq

namespace ArgumentsScript

/-- The first line of a script. -/
def tagLine (tag : String) : String := "// $Tag '" ++ tag ++ "'\n"

/-- A script as it is written. -/
def render (separator : String) : ArgumentsScript → String
  | empty => "// No arguments\nmethodArgs ( ) \x7b return null; \x7d"
  | build tag parts names =>
    tagLine tag ++ "setAccessibility(true);\nmethodArgs ( ) \x7b\n" ++
      String.join (parts.map fun part => part.render separator) ++
      "Object[] args = new Object[] \x7b " ++
      ", ".intercalate (names.map fun name => name.getD "null") ++
      " \x7d;\nreturn args;\n\x7d\n"

end ArgumentsScript

namespace Recorder

/-- The key of a call in scripts: its mangled method and its index. -/
def methodKey (r : CallRecord) : String := r.signature.full ++ "#" ++ toString r.index.toNat

/-- The name of the sampler for a call: the format with its places replaced, one kind
after the other. -/
def samplerName (options : RecorderOptions) (r : CallRecord) : String :=
  let named := Text.replace options.nameFormat "\x7bindex\x7d" (toString r.index.toNat)
  let named := Text.replace named "\x7btarget\x7d" r.target
  Text.replace named "\x7bmethod\x7d" r.method

/-- The variable for an argument at a position. -/
def argumentName (base : String) (index : Nat) : String := base ++ toString index

/-- Compiles arguments from a position on, each into a variable of its own, with the declared types
as hints. Null needs no variable. -/
def compileArguments (heap : Heap) (options : Script.Options) (types : List TypeDesc) :
    Nat → List Value → Compile (List Scriptlet × List (Option String))
  | _, [] => pure ([], [])
  | index, argument :: rest =>
    if argument.isNull then do
      let (parts, names) ← compileArguments heap options types (index + 1) rest
      pure (parts, none :: names)
    else do
      let base ← Script.onGraph (VariableName.ofValue heap argument)
      let name := argumentName base index
      let part ← Script.compile heap options argument name types[index]?
      let (parts, names) ← compileArguments heap options types (index + 1) rest
      pure (part :: parts, some name :: names)

/-- The script that rebuilds the arguments of a call, before it is written. -/
def argumentsScript (options : RecorderOptions) (r : CallRecord) :
    Except ScriptError ArgumentsScript :=
  let a := r.arguments
  if a.values.isEmpty then
    .ok .empty
  else
    let types := r.argumentTypes.getD []
    let (result, _) := (compileArguments a.heap options.script types 0 a.values).run.run .empty
    result.map fun (parts, names) => .build (methodKey r) parts names

/-- The script that rebuilds the arguments of a call. -/
def argumentsText (options : RecorderOptions) (r : CallRecord) : Except ScriptError String :=
  (argumentsScript options r).map (·.render options.script.separator)

/-- The line that registers a remote object. -/
def registration (handle path : String) : String :=
  "reg.registerRmiInstance(" ++ Literal.ofText handle ++ ", ret" ++ path ++ ");\n"

/-- The lines before the registrations. -/
def resultHeader (options : RecorderOptions) : String :=
  "Object ret = " ++ options.previousResult ++ ".getReturnValue();\n" ++
    options.registryClass ++ " reg = vars.getObject(" ++
    Literal.ofText options.registryVariable ++ ");\n" ++
    "// ret: actual object path to remote reference\n"

/-- The script that registers the remote objects of the returned value, if the record is marked as
having returned some. -/
def resultScript (options : RecorderOptions) (r : CallRecord) : Option String :=
  if r.remoteReturned then
    some (resultHeader options ++
      String.join (r.remotePaths.entries.map fun (handle, path) => registration handle path))
  else none

/-- The role of the artifact that registers remote objects. -/
def postProcessorRole : String := "post-processor"

/-- The name of the artifact that registers remote objects. -/
def postProcessorName : String := "Save remote in return value"

/-- The artifacts for a call. There is a post-processor if remote objects were found in
its returned value. -/
def artifacts (options : RecorderOptions) (r : CallRecord) : Except ScriptError Artifacts := do
  let id := ArtifactId.ofRecord r
  let script ← argumentsText options r
  let sampler : Sampler := ⟨id, samplerName options r, r.target, r.method, script⟩
  let postProcessor := (resultScript options r).map fun script =>
    ⟨id.derived postProcessorRole, postProcessorName, script, true, id⟩
  pure ⟨sampler, postProcessor⟩

end Recorder

end CallReplay
