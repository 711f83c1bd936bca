import CallReplay.Text.Split

/-!
# Routes

The paths of the server and the methods that each of them allows. A part of a path that stands for
an id may be anything, except that it may not be empty at the end of the path; it is read later,
since a wrong method counts before a wrong id.
-/

namespace CallReplay.Http

/-- What a path names. -/
inductive Resource where
  | sessions
  | session (id : List Char)
  | records (id : List Char)
  | artifacts
  | artifact (id : List Char)
  deriving DecidableEq

/-- What a client can ask for. -/
inductive Operation where
  | listSessions
  | openSession
  | showSession (id : List Char)
  | closeSession (id : List Char)
  | postRecord (id : List Char)
  | listArtifacts
  | showArtifact (id : List Char)
  deriving DecidableEq

/-- The resource that a path names. -/
def Resource.ofPath? (path : List Char) : Option Resource :=
  match Text.parts '/' path with
  | [[], name] =>
    if name = "sessions".toList then some .sessions
    else if name = "artifacts".toList then some .artifacts
    else none
  | [[], name, id] =>
    if id.isEmpty then none
    else if name = "sessions".toList then some (.session id)
    else if name = "artifacts".toList then some (.artifact id)
    else none
  | [[], name, id, part] =>
    if name = "sessions".toList && part = "records".toList then some (.records id)
    else none
  | _ => none

/-- The operation of a method on a resource. -/
def Resource.operation? (resource : Resource) (method : String) : Option Operation :=
  match resource with
  | sessions =>
    if method = "GET" then some .listSessions
    else if method = "POST" then some .openSession
    else none
  | session id =>
    if method = "GET" then some (.showSession id)
    else if method = "DELETE" then some (.closeSession id)
    else none
  | records id => if method = "POST" then some (.postRecord id) else none
  | artifacts => if method = "GET" then some .listArtifacts else none
  | artifact id => if method = "GET" then some (.showArtifact id) else none

end CallReplay.Http
