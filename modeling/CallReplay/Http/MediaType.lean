import CallReplay.Text.Split

/-!
# Media types

The media type of a body is a type and a subtype with a slash between them, and parameters
after semicolons. What follows the last plus sign of the subtype is its suffix. Letters count
without their case.
-/

namespace CallReplay.Http

/-- A media type without its parameters, in lower case. -/
structure MediaType where
  kind : String
  subtype : String
  suffix : Option String
  deriving DecidableEq

namespace MediaType

/-- Whether a character may stand in a name. -/
def isTokenChar (c : Char) : Bool :=
  c.isAlphanum || "!#$%&'*+-.^_\x60|~".toList.contains c

/-- Whether a character may stand between quotes: all that is visible in ASCII, and the space. -/
def isQuotedChar (c : Char) : Bool := ' ' ≤ c && c ≤ '~'

/-- Which part of the parameters comes next. -/
inductive Expecting where
  /-- A name, or nothing more. -/
  | name
  /-- The rest of a name. -/
  | moreName
  /-- A value, between quotes or not. -/
  | value
  /-- The rest of a value that is not between quotes. -/
  | moreValue
  /-- The first character between quotes. -/
  | quoted
  /-- The rest of what stands between quotes. -/
  | moreQuoted
  /-- What follows the closing quote. -/
  | closed
  deriving DecidableEq

/-- Whether parameters may end where this part is expected. -/
def Expecting.mayEnd : Expecting → Bool
  | name | value | moreValue | closed => true
  | moreName | quoted | moreQuoted => false

/-- What is expected after a character, if the character is allowed. -/
def Expecting.next? (expecting : Expecting) (c : Char) : Option Expecting :=
  match expecting with
  | name => if c = ' ' then some .name else if isTokenChar c then some .moreName else none
  | moreName => if c = '=' then some .value else if isTokenChar c then some .moreName else none
  | value => if c = '"' then some .quoted else if isTokenChar c then some .moreValue else none
  | moreValue => if c = ';' then some .name else if isTokenChar c then some .moreValue else none
  | quoted => if isQuotedChar c then some .moreQuoted else none
  | moreQuoted =>
      if c = '"' then some .closed else if isQuotedChar c then some .moreQuoted else none
  | closed => if c = ';' then some .name else if c = ' ' then some .closed else none

/-- Whether the text after the first semicolon is a list of parameters. -/
def areParameters : Expecting → List Char → Bool
  | expecting, [] => expecting.mayEnd
  | expecting, c :: rest =>
    match expecting.next? c with
    | some expecting => areParameters expecting rest
    | none => false

/-- Whether what follows the subtype is nothing or a semicolon and parameters. -/
def endsWell (rest : List Char) : Bool :=
  match rest with
  | [] => true
  | c :: parameters => c == ';' && areParameters .name parameters

/-- A name in lower case. -/
def lower (name : List Char) : String := String.ofList (name.map Char.toLower)

/-- Cuts a subtype at its last plus sign, unless that is its first character. -/
def cutSuffix (subtype : List Char) : List Char × Option (List Char) :=
  let (suffix, rest) := subtype.reverse.span (· ≠ '+')
  match rest with
  | _ :: first :: before => ((first :: before).reverse, some suffix.reverse)
  | _ => (subtype, none)

/-- Reads a media type. A subtype may only be missing at the end of the text. -/
def parse? (s : String) : Option MediaType :=
  let (kind, rest) := s.toList.span isTokenChar
  match rest with
  | '/' :: rest =>
    let (name, rest) := rest.span isTokenChar
    if kind.isEmpty || (name.isEmpty && !rest.isEmpty) || !endsWell rest then none
    else
      let (subtype, suffix) := cutSuffix name
      some ⟨lower kind, lower subtype, suffix.map lower⟩
  | _ => none

/-- Whether a body of this type is JSON. -/
def isJson (m : MediaType) : Bool :=
  m.kind == "application" && (m.subtype == "json" || m.suffix == some "json")

end MediaType

end CallReplay.Http
