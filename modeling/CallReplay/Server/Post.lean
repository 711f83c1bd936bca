import CallReplay.Server.Basic

/-!
# Posted records

A posted record goes through the server in five steps: its session must be open, its body must be a
call record, the record takes the next index of the session, its artifacts are made and kept, and
the session notes the sampler. Each step sees and changes the server as a whole, and steps of other
requests may come between them. An index that was taken is used up even if no artifacts can be made.

`post` carries a record through all its steps without any other request in between.
-/

namespace CallReplay

/-- What a client posts to a session: a packed record, and the stem of the handles for remote
objects if the returned value is to be searched for them. -/
structure Post where
  session : SessionId
  stem : Option String
  body : List UInt8
  deriving DecidableEq

/-- The answer to a posted record. -/
structure Recorded where
  session : SessionId
  index : UInt32
  artifacts : Artifacts
  deriving DecidableEq

/-- How far the server has come with a post. -/
inductive Progress where
  | received
  | admitted
  | decoded (record : CallRecord)
  | numbered (record : CallRecord)
  | kept (record : CallRecord) (artifacts : Artifacts)
  | answered (answer : Except Failure Recorded)

/-- How many steps are left until a post is answered. -/
def Progress.left : Progress → Nat
  | received => 5
  | admitted => 4
  | decoded _ => 3
  | numbered _ => 2
  | kept _ _ => 1
  | answered _ => 0

namespace Server

/-- The session of a post must be open. -/
def checkSession (s : Server) (p : Post) : Except Failure Unit := do
  let _ ← s.session p.session
  pure ()

/-- The body of a post must be a call record. -/
def decodeRecord (p : Post) : Except Failure CallRecord :=
  (CallRecord.unpack p.body).mapError .record

/-- The record takes the next index of the session. -/
def number (s : Server) (p : Post) (r : CallRecord) : Except Failure (Server × CallRecord) := do
  let session ← s.session p.session
  let placed := (r.withOrigin session.nextIndex session.target).withScope p.session.text
  pure ({ s with registry := s.registry.advance p.session }, placed)

/-- The artifacts of the record are made and kept. -/
def record (s : Server) (p : Post) (r : CallRecord) : Except Failure (Server × Artifacts) := do
  let annotated ← (r.annotateIf p.stem).mapError fun cause => .recording (.script cause)
  let (artifacts, database) ←
    (Recorder.record s.options annotated s.database).mapError .recording
  pure ({ s with database := database }, artifacts)

/-- The session notes the sampler, if it is still open. -/
def note (s : Server) (p : Post) (a : Artifacts) : Server :=
  { s with registry := s.registry.note p.session a.sampler.id }

/-- One step of the server for a post. -/
def step (s : Server) (p : Post) : Progress → Server × Progress
  | .received =>
    match s.checkSession p with
    | .ok () => (s, .admitted)
    | .error e => (s, .answered (.error e))
  | .admitted =>
    match decodeRecord p with
    | .ok r => (s, .decoded r)
    | .error e => (s, .answered (.error e))
  | .decoded r =>
    match s.number p r with
    | .ok (s, r) => (s, .numbered r)
    | .error e => (s, .answered (.error e))
  | .numbered r =>
    match s.record p r with
    | .ok (s, a) => (s, .kept r a)
    | .error e => (s, .answered (.error e))
  | .kept r a => (s.note p a, .answered (.ok ⟨p.session, r.index, a⟩))
  | .answered answer => (s, .answered answer)

/-- Every step of a post that is not answered brings it nearer to its answer. -/
theorem left_step_lt (s : Server) (p : Post) (progress : Progress) (h : 0 < progress.left) :
    (s.step p progress).2.left < progress.left := by
  cases progress with
  | received | admitted | decoded | numbered =>
    simp only [step]
    split <;> simp [Progress.left]
  | kept => simp [step, Progress.left]
  | answered => simp [Progress.left] at h

/-- Carries a post on to its answer. -/
def finish (s : Server) (p : Post) (progress : Progress) : Server × Except Failure Recorded :=
  match _h : progress with
  | .answered answer => (s, answer)
  | .received | .admitted | .decoded _ | .numbered _ | .kept .. =>
    finish (s.step p progress).1 p (s.step p progress).2
  termination_by progress.left
  decreasing_by all_goals subst _h; exact left_step_lt s p _ (by simp [Progress.left])

/-- Takes in a posted record. -/
def post (s : Server) (p : Post) : Server × Except Failure Recorded := s.finish p .received

end Server

end CallReplay
