import CallReplay.Decimal.Numeral
import CallReplay.Text.Percent

/-!
# Names of databases

A database is named by the path of its file, or by a URI of the scheme `file`. The URI consists of
an authority, which may only be empty or `localhost`, a path, and options behind a question mark;
a fragment counts for nothing. A percent sign and two hexadecimal digits stand for a byte, and a
zero byte ends the part that it stands in. An option is a name and a value, and options without a
name or with an unknown one are skipped. The options say what may be done with the database and
how its file is used.
-/

namespace CallReplay

/-- What may be done with a database. -/
inductive AccessMode where
  /-- It may only be read. -/
  | readOnly
  /-- It may be changed. -/
  | readWrite
  /-- It may be changed, and is made if it is missing. -/
  | create
  /-- It may be changed, and no file holds it. -/
  | memory
  deriving DecidableEq

/-- The access that the value of an option stands for. -/
def AccessMode.ofText? : String → Option AccessMode
  | "ro" => some readOnly
  | "rw" => some readWrite
  | "rwc" => some create
  | "memory" => some memory
  | _ => none

/-- Whether one access may be replaced by another one later in a name. The access to a database in
memory may replace any and be replaced by any; else no rights may be added. -/
def AccessMode.allows : AccessMode → AccessMode → Bool
  | _, memory | memory, _ | create, _ | _, readOnly | readWrite, readWrite => true
  | readWrite, create | readOnly, readWrite | readOnly, create => false

/-- What keeps the files of databases. -/
inductive Storage where
  /-- Files, locked in parts while they are used. -/
  | shared
  /-- Files, locked as long as they are open. -/
  | exclusive
  /-- Files without locks. -/
  | unlocked
  /-- Files that are locked by other files. -/
  | lockFiles
  /-- Memory. -/
  | memory
  deriving DecidableEq

/-- The storage that the value of an option stands for. -/
def Storage.ofText? : String → Option Storage
  | "unix" => some shared
  | "unix-excl" => some exclusive
  | "unix-none" => some unlocked
  | "unix-dotfile" => some lockFiles
  | "memdb" => some memory
  | _ => none

/-- Whether programs that use the same file can share a log of its changes. -/
def Storage.sharesLog : Storage → Bool
  | shared | exclusive => true
  | unlocked | lockFiles | memory => false

/-- Why a text is no name of a database. -/
inductive NameError where
  | authority (text : String)
  | unknownAccess (text : String)
  | unknownCache (text : String)
  | addedAccess (text : String)
  | unknownStorage (text : String)
  deriving DecidableEq

/-- What is reported about a name that cannot be read. -/
def NameError.message : NameError → String
  | authority text => "invalid uri authority: " ++ text
  | unknownAccess text => "no such access mode: " ++ text
  | unknownCache text => "no such cache mode: " ++ text
  | addedAccess text => "access mode not allowed: " ++ text
  | unknownStorage text => "no such vfs: " ++ text

/-- What the name of a database says. -/
structure DatabaseName where
  path : List UInt8
  mode : AccessMode
  storage : Storage
  /-- Whether the file is taken to be changed by nobody. -/
  immutable : Bool
  /-- Whether the file is used without locks, whatever keeps it. -/
  lockless : Bool
  /-- Whether the index of the log is only read. -/
  readsIndex : Bool
  /-- The file that a new file gets its rights from. -/
  rightsFrom : Option (List UInt8)
  deriving DecidableEq

namespace DatabaseName

/-- The path that stands for a database in memory. -/
def memoryPath : List UInt8 := Text.Utf8.encode ":memory:"

/-- A database whose file is in the usual storage, and made if it is missing. -/
def ofPath (path : List UInt8) : DatabaseName :=
  ⟨path, .create, .shared, false, false, false, none⟩

/-- Whether no file is looked for, whatever the storage. -/
def isPlaceless (n : DatabaseName) : Bool :=
  n.path.isEmpty || n.path == memoryPath || n.mode == .memory

/-- Whether the database is kept only as long as it is open. -/
def isTransient (n : DatabaseName) : Bool := n.isPlaceless || n.storage == .memory

/-- Whether the database cannot be changed. -/
def isReadOnly (n : DatabaseName) : Bool :=
  n.mode == .readOnly || (n.immutable && !n.isPlaceless)

/-- Whether changes go through a log beside the file. -/
def usesLog (n : DatabaseName) : Bool := n.storage.sharesLog && !n.lockless && !n.immutable

/-- Whether the file is locked by another file. -/
def usesLockFile (n : DatabaseName) : Bool :=
  n.storage == .lockFiles && !n.lockless && !n.immutable

/-- Whether the file can be locked against changes by others. Parts of a file that may only be read
cannot be. -/
def canReserve (n : DatabaseName) : Bool :=
  n.mode != .readOnly || n.lockless || !n.storage.sharesLog

/-- Whether the index of the log lies in a file. Who has a file for himself and may change it keeps
the index in memory. -/
def filesIndex (n : DatabaseName) : Bool := n.storage != .exclusive || n.isReadOnly

/-- What follows the authority of a URI. -/
def afterAuthority (rest : List UInt8) : Except NameError (List UInt8) :=
  match rest with
  | 0x2F :: 0x2F :: rest =>
    let (authority, path) := rest.span (· ≠ '/'.toUInt8)
    let text := Text.Utf8.lossy authority
    if text = "" ∨ text = "localhost" then .ok path else .error (.authority text)
  | _ => .ok rest

/-- The bytes that are written in a part of a URI. -/
def decodedPart (part : List UInt8) : List UInt8 := (Text.Percent.decode part).takeWhile (· ≠ 0)

/-- A name and its value; without an equals sign the value is empty. -/
def optionPair (part : List UInt8) : String × List UInt8 :=
  let (name, value) := part.span (· ≠ '='.toUInt8)
  (Text.Utf8.lossy (decodedPart name), decodedPart (value.drop 1))

/-- The options that are written behind a question mark. -/
def optionPairs (query : List UInt8) : List (String × List UInt8) :=
  ((Text.parts '&'.toUInt8 query).map optionPair).filter fun pair => pair.1 ≠ ""

/-- The number that a text begins with, behind `0x` in hexadecimal digits. -/
def leadingNumber (cs : List Char) : Nat :=
  let isHexDigit c := (Text.hexValue? c).isSome
  let hexDigits :=
    match cs with
    | '0' :: x :: rest => if x.toLower = 'x' then rest.takeWhile isHexDigit else []
    | _ => []
  if hexDigits.isEmpty then Decimal.natOfDigits (cs.takeWhile Char.isDigit)
  else (Text.natOfHex? hexDigits).getD 0

/-- Whether the value of an option says yes. Of a number below 2147483648 the last eight bits count,
and a greater one says no. -/
def isOn (value : String) : Bool :=
  if (value.toList.head?.map Char.isDigit).getD false then
    let n := leadingNumber value.toList
    n < 0x80000000 && n % 0x100 ≠ 0
  else ["on", "yes", "true"].contains (value.map Char.toLower)

/-- Takes account of an option that is refused if its value is unknown. -/
def withOption (n : DatabaseName) (pair : String × List UInt8) :
    Except NameError DatabaseName :=
  let value := Text.Utf8.lossy pair.2
  match pair.1 with
  | "mode" =>
    match AccessMode.ofText? value with
    | none => .error (.unknownAccess value)
    | some mode =>
      if n.mode.allows mode then .ok { n with mode := mode } else .error (.addedAccess value)
  | "cache" =>
    if value = "shared" ∨ value = "private" then .ok n else .error (.unknownCache value)
  | _ => .ok n

/-- Takes account of the storage, of which the last option counts. -/
def withStorage (n : DatabaseName) (pairs : List (String × List UInt8)) :
    Except NameError DatabaseName :=
  match pairs.reverse.lookup "vfs" with
  | none => .ok n
  | some value =>
    let text := Text.Utf8.lossy value
    match Storage.ofText? text with
    | some storage => .ok { n with storage := storage }
    | none => .error (.unknownStorage text)

/-- What the rest of a URI says. -/
def ofUri (rest : List UInt8) : Except NameError DatabaseName := do
  let rest ← afterAuthority rest
  let (path, query) := (rest.takeWhile (· ≠ '#'.toUInt8)).span (· ≠ '?'.toUInt8)
  let pairs := optionPairs (query.drop 1)
  let isSet name := ((pairs.lookup name).map fun value => isOn (Text.Utf8.lossy value)).getD false
  let n : DatabaseName :=
    { ofPath (decodedPart path) with
      immutable := isSet "immutable"
      lockless := isSet "nolock"
      readsIndex := isSet "readonly_shm"
      rightsFrom := pairs.lookup "modeof" }
  let n ← pairs.foldlM withOption n
  n.withStorage pairs

/-- Reads the name of a database, which is a path unless it starts with the scheme of a URI. -/
def parse (text : String) : Except NameError DatabaseName :=
  let bytes := Text.Utf8.encode text
  let scheme := Text.Utf8.encode "file:"
  if scheme.isPrefixOf bytes then ofUri (bytes.drop scheme.length) else .ok (ofPath bytes)

end DatabaseName

end CallReplay
