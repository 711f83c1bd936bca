import CallReplay.Http.MediaType
import CallReplay.Http.Message
import CallReplay.Http.Route
import CallReplay.Json.Session
import CallReplay.Text.Percent

/-!
# Answering requests

`respond` is the server as a function of a request. A request is refused without a body if its
path or its method is unknown, if an id in the path or a parameter of the query cannot be read,
or if a body that has to be JSON is not. Every other request is answered with JSON, be it a
result or a failure.
-/

namespace CallReplay.Http

/-- The largest body that is read, in bytes. -/
def bodyLimit : Nat := 2097152

/-- The status for a kind of failure. -/
def statusOf : FailureKind → Status
  | .notFound => .notFound
  | .badRequest | .framing | .corruption => .badRequest
  | .internal => .internalServerError

/-- The response to a request that was carried out. -/
def Response.json (body : Json) : Response := ⟨.ok, some body⟩

/-- The response to a request that failed. -/
def Response.failure (f : Failure) : Response := ⟨statusOf f.kind, some (Json.ofFailure f)⟩

/-- The response to a question about the server. -/
def Response.ofResult {α : Type} (write : α → Json) : Except Failure α → Response
  | .ok a => .json (write a)
  | .error f => .failure f

/-- The session that a part of a path stands for. -/
def readSessionId (part : List Char) : Except Status SessionId :=
  match (Text.Percent.text? part).bind SessionId.parse? with
  | some id => .ok id
  | none => .error .badRequest

/-- The artifact that a part of a path stands for. -/
def readArtifactId (part : List Char) : Except Status ArtifactId :=
  match Text.Percent.text? part with
  | some text => .ok ⟨text⟩
  | none => .error .badRequest

/-- The stem of the handles for remote objects, if the query has one. -/
def readStem (query : List Char) : Except Status (Option String) :=
  match (Text.Percent.formPairs query).filter fun pair => pair.1 = "remote_prefix" with
  | [] => .ok none
  | [(_, stem)] => .ok (some stem)
  | _ => .error .badRequest

/-- The body of a request, if it is not too large. -/
def readBody (r : Request) : Except Status (List UInt8) :=
  if r.body.length ≤ bodyLimit then .ok r.body else .error .contentTooLarge

/-- Reads the value in the body of a request. The body has to be declared as JSON, to be UTF-8, to
be JSON, and to stand for such a value, in this order. -/
def readJson {α : Type} (read : Json.Reader α) (r : Request) : Except Status α := do
  if !((r.contentType.bind MediaType.parse?).any MediaType.isJson) then
    throw .unsupportedMediaType
  match Text.Utf8.decode (← readBody r) with
  | .error _ => throw .badRequest
  | .ok text =>
    match Json.decode read text with
    | .ok value => pure value
    | .error .malformed => throw .badRequest
    | .error _ => throw .unprocessableContent

/-- The post that a request makes. -/
def readPost (session query : List Char) (r : Request) : Except Status Post := do
  let id ← readSessionId session
  let stem ← readStem query
  let body ← readBody r
  pure ⟨id, stem, body⟩

/-- Carries out an operation. -/
def perform (s : Server) (fresh : SessionId) (query : List Char) (r : Request) :
    Operation → Except Status (Server × Response)
  | .listSessions => .ok (s, .json (Json.ofSessions s.registry.sessions))
  | .openSession => do
    let target ← readJson Json.targetFields.read r
    match s.openSession fresh target with
    | .ok (s, session) => pure (s, .json (Json.ofSession session))
    | .error f => pure (s, .failure f)
  | .showSession id => do
    let id ← readSessionId id
    pure (s, .ofResult Json.ofSession (s.session id))
  | .closeSession id => do
    let id ← readSessionId id
    match s.closeSession id with
    | .ok s => pure (s, .json Json.success)
    | .error f => pure (s, .failure f)
  | .postRecord session => do
    let p ← readPost session query r
    let (s, answer) := s.post p
    pure (s, .ofResult Json.ofRecorded answer)
  | .listArtifacts => .ok (s, .json (Json.ofSummaries s.database.list))
  | .showArtifact id => do
    let id ← readArtifactId id
    pure (s, .ofResult Json.ofStoredArtifact (s.artifact id))

/-- Answers a request with one of the methods that the routes name. -/
def respondTo (s : Server) (fresh : SessionId) (method : String) (r : Request) :
    Server × Response :=
  let (path, query) := r.pathAndQuery
  match Resource.ofPath? path with
  | none => (s, .bare .notFound)
  | some resource =>
    match resource.operation? method with
    | none => (s, .bare .methodNotAllowed)
    | some operation =>
      match perform s fresh query r operation with
      | .ok answer => answer
      | .error status => (s, .bare status)

/-- Answers a request, given the id for a session that it may open. Any request for the options of a
resource is granted, and a request for the head of a response is answered as one for the response,
without the body. -/
def respond (s : Server) (fresh : SessionId) (r : Request) : Server × Response :=
  if r.method = "OPTIONS" then (s, .bare .ok)
  else if r.method = "HEAD" then
    let (s, response) := respondTo s fresh "GET" r
    (s, { response with body := none })
  else respondTo s fresh r.method r

end CallReplay.Http
