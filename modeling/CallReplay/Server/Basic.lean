import CallReplay.Server.Failure
import CallReplay.Server.Session
import CallReplay.Text.Blank

/-!
# The recording server

The server keeps the open sessions and one database for all of them. A client opens a session on a
remote object, posts the packed records of calls to it, and reads the artifacts that were made from
them. Closing a session keeps its artifacts.
-/

namespace CallReplay

/-- The open sessions, the kept artifacts, and how artifacts are made. -/
structure Server where
  options : RecorderOptions
  registry : SessionRegistry
  database : Database
  deriving DecidableEq

namespace Server

/-- The server before the first request. -/
def start (options : RecorderOptions) : Server := ⟨options, .empty, .empty⟩

/-- Opens a session under a fresh id. -/
def openSession (s : Server) (fresh : SessionId) (target : String) :
    Except Failure (Server × Session) :=
  if Text.isBlank target then .error .blankTarget
  else .ok ({ s with registry := s.registry.start fresh target }, ⟨fresh, target, 0, []⟩)

/-- The open session of an id. -/
def session (s : Server) (id : SessionId) : Except Failure Session :=
  match s.registry.find? id with
  | some session => .ok session
  | none => .error (.noSession id)

/-- Closes an open session. Its artifacts stay where they are. -/
def closeSession (s : Server) (id : SessionId) : Except Failure Server := do
  let _ ← s.session id
  pure { s with registry := s.registry.close id }

/-- A sampler with its post-processor. -/
def artifact (s : Server) (id : ArtifactId) : Except Failure StoredArtifact :=
  (s.database.get id).mapError .store

end Server

end CallReplay
