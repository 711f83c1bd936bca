import CallReplay.Json.Artifact
import CallReplay.Server.Post

/-!
# JSON form of sessions

What the server tells its clients of sessions, posted records and failures. The details of a failure
are left out where there are none.
-/

namespace CallReplay.Json

/-- The field of a request for a session: the remote object. -/
def targetFields : Fields String :=
  (Fields.ready fun target : String => target).field "target" readString

/-- The id of a session as JSON. -/
def ofSessionId (id : SessionId) : Json := .text id.text

/-- A session as JSON, with the number of indexes that it has given out. -/
def ofSession (s : Session) : Json :=
  .object [("id", ofSessionId s.id), ("target", .text s.target),
    ("recorded_calls", nat s.nextIndex.toNat), ("artifacts", listOf ofArtifactId s.artifacts)]

/-- The answer that lists sessions. -/
def ofSessions (sessions : List Session) : Json :=
  .object [("sessions", listOf ofSession sessions)]

/-- The answer that lists artifacts. -/
def ofSummaries (summaries : List ArtifactSummary) : Json :=
  .object [("artifacts", listOf ofSummary summaries)]

/-- The answer to a record for which artifacts were made. -/
def ofRecorded (r : Recorded) : Json :=
  .object ([("session_id", ofSessionId r.session), ("index", nat r.index.toNat),
    ("sampler", ofSampler r.artifacts.sampler)] ++ postProcessorMember r.artifacts.postProcessor)

/-- The name of a kind of failure. -/
def failureCode : FailureKind → String
  | .notFound => "NOT_FOUND"
  | .badRequest => "BAD_REQUEST"
  | .framing | .corruption => "INVALID_RECORD"
  | .internal => "INTERNAL_ERROR"

/-- The member for the details of a failure. -/
def failureDetails : FailureKind → List (String × Json)
  | .framing => [("details", .object [("kind", .text "framing")])]
  | .corruption => [("details", .object [("kind", .text "corruption")])]
  | .notFound | .badRequest | .internal => []

/-- The answer to a request that has failed. -/
def ofFailure (f : Failure) : Json :=
  .object [("success", .bool false),
    ("error", .object ([("code", .text (failureCode f.kind)), ("message", .text f.message)] ++
      failureDetails f.kind))]

/-- Writes that a request without any other answer was carried out. -/
def success : Json := .object [("success", .bool true)]

end CallReplay.Json
