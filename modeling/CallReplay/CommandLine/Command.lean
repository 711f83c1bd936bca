import CallReplay.CommandLine.Arguments

/-!
# Commands

The command line has three commands: to describe a packed record, to make artifacts from one, and to
list the artifacts of a database. Help can be asked for on each of them and in general.
-/

namespace CallReplay.CommandLine

/-- What artifacts are to be made from. -/
structure Generation where
  /-- The file of the packed record. -/
  file : String
  target : String
  index : UInt32
  scope : String
  /-- The stem of the handles for remote objects, if the returned value is to be
  searched for them. -/
  stem : Option String
  /-- The file of the database that keeps the artifacts. -/
  database : Option String
  /-- The file of the options. -/
  config : Option String
  deriving DecidableEq

/-- What the program is to do. -/
inductive Command where
  | inspect (file : String)
  | generate (g : Generation)
  | list (database : String)
  deriving DecidableEq

/-- What help can be about. -/
inductive Topic where
  | general
  | inspect
  | generate
  | list
  | help
  deriving DecidableEq

/-- Why arguments are no command. -/
inductive Refusal where
  | help (topic : Topic)
  | misuse (topic : Topic)
  deriving DecidableEq

/-- The arguments of each command. -/
def Topic.form : Topic → Form
  | inspect => ⟨[], 1⟩
  | generate => ⟨[.target, .index, .scope, .stem, .database, .config], 1⟩
  | list => ⟨[.database], 0⟩
  | general | help => ⟨[], 0⟩

/-- Scans the arguments of a command. -/
def Topic.scan (topic : Topic) (arguments : List String) : Except Refusal Found :=
  match Found.nothing.addAll topic.form arguments with
  | .ok found => .ok found
  | .error .help => .error (.help topic)
  | .error .misuse => .error (.misuse topic)

/-- Puts together a request for artifacts. -/
def Generation.ofFound? (f : Found) : Option Generation := do
  let file ← f.files.head?
  let target ← f.get? .target
  let index ← index? ((f.get? .index).getD "0")
  pure ⟨file, target, index, (f.get? .scope).getD "", f.get? .stem, f.get? .database,
    f.get? .config⟩

/-- What the names behind `help` ask for help on. -/
def Topic.ofNames? : List String → Option Topic
  | [] => some .general
  | ["inspect"] => some .inspect
  | ["generate"] => some .generate
  | ["list"] => some .list
  | ["help"] => some .help
  | _ => none

/-- The command that arguments stand for. -/
def Command.parse : List String → Except Refusal Command
  | [] => .error (.misuse .general)
  | name :: arguments =>
    if name = "inspect" then do
      let found ← Topic.inspect.scan arguments
      match found.files.head? with
      | some file => pure (.inspect file)
      | none => throw (.misuse .inspect)
    else if name = "generate" then do
      let found ← Topic.generate.scan arguments
      match Generation.ofFound? found with
      | some g => pure (.generate g)
      | none => throw (.misuse .generate)
    else if name = "list" then do
      let found ← Topic.list.scan arguments
      match found.get? .database with
      | some database => pure (.list database)
      | none => throw (.misuse .list)
    else if name = "help" then
      match Topic.ofNames? arguments with
      | some topic => .error (.help topic)
      | none => .error (.misuse .help)
    else
      match Found.nothing.add Topic.general.form name with
      | .error .help => .error (.help .general)
      | _ => .error (.misuse .general)

end CallReplay.CommandLine
