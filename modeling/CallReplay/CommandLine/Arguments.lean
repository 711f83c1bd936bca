import CallReplay.Decimal.Numeral

/-!
# Command line arguments

A command takes files and settings. A setting has a long name and a letter; its value follows as the
next argument, behind an equals sign, or right behind the letter. The next argument is no value if
it starts with a hyphen. After an argument of two hyphens everything is a file. Asking for help ends
the scan, unless something before it was wrong.
-/

namespace CallReplay.CommandLine

/-- What a command can be told by name. -/
inductive Setting where
  | target
  | index
  | scope
  | stem
  | database
  | config
  deriving DecidableEq

/-- The long name of a setting. -/
def Setting.name : Setting → String
  | target => "target"
  | index => "index"
  | scope => "scope"
  | stem => "remote-prefix"
  | database => "db"
  | config => "config"

/-- The letter of a setting. -/
def Setting.letter : Setting → Char
  | target => 't'
  | index => 'i'
  | scope => 's'
  | stem => 'r'
  | database => 'd'
  | config => 'c'

/-- The index that a text stands for: digits, which may have a sign, of a number of 32 bits. -/
def index? (s : String) : Option UInt32 :=
  let (negative, digits) :=
    match s.toList with
    | '-' :: digits => (true, digits)
    | '+' :: digits => (false, digits)
    | digits => (false, digits)
  if digits.isEmpty || !digits.all Char.isDigit then none
  else
    let size := Decimal.natOfDigits digits
    if size < 0x100000000 && (!negative || size == 0) then some (UInt32.ofNat size) else none

/-- Whether a text can be the value of a setting. -/
def Setting.accepts (setting : Setting) (value : String) : Bool :=
  match setting with
  | index => (index? value).isSome
  | config => !value.isEmpty
  | target | scope | stem | database => true

/-- Which arguments a command takes. -/
structure Form where
  settings : List Setting
  files : Nat
  deriving DecidableEq

/-- Why the scan of the arguments ends early. -/
inductive Halt where
  | help
  | misuse
  deriving DecidableEq

/-- What has been found among the arguments. -/
structure Found where
  values : List (Setting × String)
  files : List String
  /-- A setting whose value comes next. -/
  awaiting : Option Setting
  deriving DecidableEq

namespace Found

/-- Nothing has been found. -/
def nothing : Found := ⟨[], [], none⟩

/-- The value that was given for a setting. -/
def get? (f : Found) (setting : Setting) : Option String := f.values.lookup setting

/-- Takes in the value of a setting, which must be its only one. -/
def set (f : Found) (setting : Setting) (value : String) : Except Halt Found :=
  if (f.get? setting).isSome || !setting.accepts value then .error .misuse
  else .ok { f with values := (setting, value) :: f.values, awaiting := none }

/-- Takes in a file. -/
def addFile (form : Form) (f : Found) (file : String) : Except Halt Found :=
  if f.files.length < form.files && !file.isEmpty then .ok { f with files := f.files ++ [file] }
  else .error .misuse

/-- Takes in a setting that was named, with what follows the name in the same argument. -/
def name (f : Found) (setting : Option Setting) (attached : Option (List Char)) :
    Except Halt Found :=
  match setting, attached with
  | none, _ => .error .misuse
  | some setting, some value => f.set setting (String.ofList value)
  | some setting, none => .ok { f with awaiting := some setting }

/-- What follows a letter, if anything does; an equals sign is passed over. -/
def attached? : List Char → Option (List Char)
  | [] => none
  | '=' :: value => some value
  | value => some value

/-- Takes in an argument. -/
def add (form : Form) (f : Found) (argument : String) : Except Halt Found :=
  match argument.toList with
  | '-' :: '-' :: rest =>
    let (long, value) := rest.span (· ≠ '=')
    if f.awaiting.isSome then .error .misuse
    else if long = "help".toList then .error (if value.isEmpty then .help else .misuse)
    else
      f.name (form.settings.find? fun s => s.name.toList == long)
        (if value.isEmpty then none else some (value.drop 1))
  | '-' :: letter :: rest =>
    if f.awaiting.isSome then .error .misuse
    else if letter = 'h' then .error .help
    else f.name (form.settings.find? fun s => s.letter == letter) (attached? rest)
  | _ =>
    match f.awaiting with
    | some setting => f.set setting argument
    | none => f.addFile form argument

/-- Takes in arguments one after another. -/
def addAll (form : Form) (f : Found) : List String → Except Halt Found
  | [] => if f.awaiting.isSome then .error .misuse else .ok f
  | argument :: rest =>
    if argument = "--" then
      if f.awaiting.isSome then .error .misuse else rest.foldlM (addFile form) f
    else
      match f.add form argument with
      | .ok f => addAll form f rest
      | .error halt => .error halt

end Found

end CallReplay.CommandLine
