import CallReplay.CommandLine.Command

/-!
# Help

The help on a topic says what the command is for, how it is called, and what each argument means.
The arguments of a section stand in a column beside their meanings.
-/

namespace CallReplay.CommandLine

/-- An argument and its meaning. -/
structure Entry where
  label : String
  meaning : String

/-- A part of the help. -/
structure Section where
  title : String
  entries : List Entry

/-- An argument beside its meaning, which begins after the given width. -/
def Entry.render (width : Nat) (e : Entry) : String :=
  "  " ++ String.ofList (e.label.toList.rightpad width ' ') ++ "  " ++ e.meaning ++ "\n"

/-- A part of the help as it is written. The widest argument gives the width of the column. -/
def Section.render (s : Section) : String :=
  let width := (s.entries.map fun e => e.label.length).foldl max 0
  "\n" ++ s.title ++ ":\n" ++ String.join (s.entries.map (Entry.render width))

/-- What the command is for. -/
def Topic.about : Topic → String
  | general => "Remote call recorder tools"
  | inspect => "Decode a packed call record and describe it"
  | generate => "Generate replay artifacts from a packed call record"
  | list => "List artifacts persisted in a database"
  | help => "Print this message or the help of the given subcommand(s)"

/-- How the command is called. -/
def Topic.usage : Topic → String
  | general => "Usage: rmirec <COMMAND>"
  | inspect => "Usage: rmirec inspect <FILE>"
  | generate => "Usage: rmirec generate [OPTIONS] --target <TARGET> <FILE>"
  | list => "Usage: rmirec list --db <DB>"
  | help => "Usage: rmirec help [COMMAND]..."

/-- The entry of a topic in the list of commands. -/
def Topic.entry (name : String) (topic : Topic) : Entry := ⟨name, topic.about⟩

/-- The entry for asking for help. -/
def helpEntry : Entry := ⟨"-h, --help", "Print help"⟩

/-- The entry for the file of a packed record. -/
def fileEntry : Entry := ⟨"<FILE>", "Path to the packed record file"⟩

/-- The settings of the command that makes artifacts. -/
def generateEntries : List Entry :=
  [
    ⟨"-t, --target <TARGET>", "Identity of the remote object the call was made against"⟩,
    ⟨"-i, --index <INDEX>", "Position of the call in its recording session [default: 0]"⟩,
    ⟨"-s, --scope <SCOPE>",
      "Recording run the call belongs to. Calls with equal target, method and index only share " ++
        "an artifact id within the same scope [default: \"\"]"⟩,
    ⟨"-r, --remote-prefix <REMOTE_PREFIX>",
      "Scan the return value for remote references, naming them with this prefix"⟩,
    ⟨"-d, --db <DB>", "Persist artifacts to this SQLite database instead of only printing them"⟩,
    ⟨"-c, --config <CONFIG>", "JSON file with recorder options (missing keys use defaults)"⟩,
    helpEntry
  ]

/-- The parts of the help on a topic. -/
def Topic.sections : Topic → List Section
  | general =>
    [⟨"Commands",
        [inspect.entry "inspect", generate.entry "generate", list.entry "list",
          help.entry "help"]⟩,
      ⟨"Options", [helpEntry]⟩]
  | inspect => [⟨"Arguments", [fileEntry]⟩, ⟨"Options", [helpEntry]⟩]
  | generate => [⟨"Arguments", [fileEntry]⟩, ⟨"Options", generateEntries⟩]
  | list => [⟨"Options", [⟨"-d, --db <DB>", "Path to the artifact database file"⟩, helpEntry]⟩]
  | help => [⟨"Arguments", [⟨"[COMMAND]...", "Print help for the subcommand(s)"⟩]⟩]

/-- The help on a topic. -/
def Topic.helpText (topic : Topic) : String :=
  topic.about ++ "\n\n" ++ topic.usage ++ "\n" ++ String.join (topic.sections.map Section.render)

/-- What is said of arguments that are no command. -/
def Topic.misuseText (topic : Topic) : String :=
  topic.usage ++ "\n\nFor more information, try '--help'.\n"

end CallReplay.CommandLine
