import CallReplay.Proofs.Http.SessionView

/-!
# Answers to posted records

A client that posts a record to an open session is told that the record cannot be unpacked, that
it is nested too deep, or what was made of it; there is nothing else for the server to fail at.
The index of the record is the number of records that were posted to the session before and
could be unpacked.
-/

namespace CallReplay

open Http

namespace Http.Response

/-- The part of a body that the names of members lead to. -/
def member? (r : Response) (path : List String) : Option Json :=
  path.foldl (fun part name => part.bind fun j => j.get? name) r.body

/-- Whether a response tells of a failure with a status and a code. -/
def Tells (r : Response) (status : Status) (code : String) : Prop :=
  r.status = status ∧ r.member? ["error", "code"] = some (.text code)

/-- A failure is told with the status and the code of its kind. -/
lemma tells_failure (f : Failure) (status : Status) (code : String) :
    (Response.failure f).Tells status code ↔ statusOf f.kind = status ∧
    Json.failureCode f.kind = code := by
  have found : (Response.failure f).member? ["error", "code"] =
      some (.text (Json.failureCode f.kind)) := by
    rw [Response.failure, Json.ofFailure]
    cases f.kind <;> rfl
  rw [Tells, found, Option.some.injEq, Json.text.injEq]
  rfl

/-- A response tells one status and one code. -/
lemma Tells.same {r : Response} {status status' : Status} {code code' : String}
    (h : r.Tells status code) (h' : r.Tells status' code') : status = status' ∧ code = code' :=
  ⟨h.1.symm.trans h'.1, Json.text.inj (Option.some.inj (h.2.symm.trans h'.2))⟩

end Http.Response

/-- How a post to an open session is answered whose record could be unpacked. -/
structure Session.Answers (session : Session) (s : Server) (p : Post) (r : CallRecord)
    (answer : Server × Response) :
    Prop where
  /-- The record takes the next index, whatever comes of it. -/
  index : ∃ session', answer.1.registry.find? p.session = some session' ∧
      session'.nextIndex = session.nextIndex + 1
  tooDeep : (Server.place session r).TooDeep s.options p.stem →
    answer.2.Tells .badRequest "BAD_REQUEST" ∧ answer.1.database = s.database
  /-- The artifacts that are answered are made from the record in its place, and kept. -/
  recorded : ¬(Server.place session r).TooDeep s.options p.stem → ∃ annotated a,
    (Server.place session r).annotateIf p.stem = .ok annotated ∧
    Recorder.artifacts s.options annotated = .ok a ∧
    answer.2 = .json (Json.ofRecorded ⟨p.session, session.nextIndex, a⟩) ∧
    answer.1.database.get a.sampler.id =
      .ok ⟨session.nextIndex, r.signature.full, a.sampler, a.postProcessor⟩

/-- How a post to an open session is answered, after so many earlier ones that could be unpacked. -/
structure Post.AnsweredIn (p : Post) (session : Session) (s : Server) (earlier : Nat)
    (answer : Server × Response) :
    Prop where
  invalid : answer.2.Tells .badRequest "INVALID_RECORD" ↔ ∃ e, CallRecord.unpack p.body = .error e
  /-- What cannot be unpacked is told as it is, and changes nothing. -/
  kind : ∀ e, CallRecord.unpack p.body = .error e → answer.1 = s ∧
    (e.isFraming = true ∧ e.isCorruption = false ∧
        answer.2.member? ["error", "details", "kind"] = some (.text "framing") ∨
      e.isCorruption = true ∧ e.isFraming = false ∧
        answer.2.member? ["error", "details", "kind"] = some (.text "corruption"))
  index : session.nextIndex = UInt32.ofNat earlier
  accepted : ∀ r, CallRecord.unpack p.body = .ok r → session.Answers s p r answer

/-- How a post is answered, after so many earlier ones to its session that could be unpacked. -/
structure Post.Answered (p : Post) (s : Server) (earlier : Nat) (answer : Server × Response) :
    Prop where
  closed : s.registry.find? p.session = none → answer.1 = s ∧ answer.2.Tells .notFound "NOT_FOUND"
  opened : ∀ session, s.registry.find? p.session = some session →
      p.AnsweredIn session s earlier answer
  neverInternal : answer.2.status ≠ .internalServerError

section

variable {s : Server} {p : Post} {session : Session} {r : CallRecord} {e : RecordError}

/-- What cannot be unpacked is a fault of the frame or of a part of it, and is told as such. -/
lemma kind_of_unpack (h : CallRecord.unpack p.body = .error e) :
    e.isFraming = true ∧ e.isCorruption = false ∧ e.failureKind = .framing ∨
      e.isCorruption = true ∧ e.isFraming = false ∧ e.failureKind = .corruption := by
  rcases CallRecord.spoilt_of_unpack h with framing | spoilt
  · exact .inl ⟨framing, RecordError.isCorruption_of_isFraming framing, if_pos framing⟩
  · have corruption := (CallRecord.unpack_of_spoilt spoilt).2
    have framed := RecordError.isFraming_of_isCorruption corruption
    refine .inr ⟨corruption, framed, ?_⟩
    rw [RecordError.failureKind, framed, corruption]
    rfl

/-- The kind of a refused record stands in the details of the failure. -/
lemma member?_failure {f : Failure} {kind : String}
    (h : Json.failureDetails f.kind = [("details", .object [("kind", .text kind)])]) :
    (Response.failure f).member? ["error", "details", "kind"] = some (.text kind) := by
  rw [Response.failure, Json.ofFailure, h]
  rfl

/-- A body that cannot be unpacked changes nothing and is told to be no record. -/
lemma answers_refused (h : s.registry.find? p.session = some session)
    (hbody : CallRecord.unpack p.body = .error e) :
    s.post p = (s, .error (.record e)) ∧
    (Response.failure (.record e)).Tells .badRequest "INVALID_RECORD" ∧
      (e.isFraming = true ∧ e.isCorruption = false ∧
          (Response.failure (.record e)).member? ["error", "details", "kind"] =
            some (.text "framing") ∨
        e.isCorruption = true ∧ e.isFraming = false ∧
          (Response.failure (.record e)).member? ["error", "details", "kind"] =
          some (.text "corruption")) := by
  refine ⟨Server.post_of_refused h hbody, ?_⟩
  rw [Response.tells_failure, Failure.kind]
  rcases kind_of_unpack hbody with ⟨framing, other, hkind⟩ | ⟨corruption, other, hkind⟩
  · rw [hkind]
    refine ⟨⟨rfl, rfl⟩, .inl ⟨framing, other, member?_failure ?_⟩⟩
    rw [Failure.kind, hkind]
    rfl
  · rw [hkind]
    refine ⟨⟨rfl, rfl⟩, .inr ⟨corruption, other, member?_failure ?_⟩⟩
    rw [Failure.kind, hkind]
    rfl

/-- What was recorded is shown under its id. -/
lemma get_recorded {annotated : CallRecord} {a : Artifacts} {packed : Option (List UInt8)}
    (db : Database) (hannotated : (Server.place session r).annotateIf p.stem = .ok annotated)
    (hmade : Recorder.artifacts s.options annotated = .ok a) :
    (db.replace (Database.rowOf a annotated packed) a.postProcessor).get a.sampler.id =
      .ok ⟨session.nextIndex, r.signature.full, a.sampler, a.postProcessor⟩ := by
  obtain ⟨found, paths, rfl⟩ := CallRecord.annotateIf_eq hannotated
  exact Database.get_replace_self fun q hq =>
    (artifacts_postProcessor (c := ⟨s.options, _⟩) hmade hq).2

/-- A record that was unpacked is recorded unless it is nested too deep. -/
lemma answers_accepted (made : s.database.Made) (h : s.registry.find? p.session = some session)
    (hbody : CallRecord.unpack p.body = .ok r)
    (apart : s.database.DerivesApart (.ofRecord (Server.place session r))) :
    session.Answers s p r ((s.post p).1, .ofResult Json.ofRecorded (s.post p).2) ∧
      ((Response.ofResult Json.ofRecorded (s.post p).2).Tells .badRequest "BAD_REQUEST" ∨
        (Response.ofResult Json.ofRecorded (s.post p).2).status = .ok) := by
  rcases Server.post_of_some made h hbody apart with
    ⟨deep, limit, hpost⟩ | ⟨shallow, annotated, a, packed, hannotated, hmade, hpost⟩
  · have tells : (Response.failure (.recording (.script (.nestingTooDeep limit)))).Tells .badRequest
        "BAD_REQUEST" :=
      (Response.tells_failure ..).mpr ⟨rfl, rfl⟩
    rw [hpost]
    refine ⟨⟨?_, fun _ => ⟨tells, rfl⟩, fun shallow => absurd deep shallow⟩, .inl tells⟩
    exact ⟨{ session with nextIndex := session.nextIndex + 1 }, by simp [h], rfl⟩
  · rw [hpost]
    refine ⟨⟨?_, fun deep => absurd deep shallow, fun _ => ?_⟩, .inr rfl⟩
    · exact ⟨{ session with
        nextIndex := session.nextIndex + 1, artifacts := session.artifacts ++ [a.sampler.id] }, by
            simp [h], rfl⟩
    · exact ⟨annotated, a, hannotated, hmade, rfl, get_recorded _ hannotated hmade⟩

/-- A post to a server whose ids were made is answered as it should be. -/
lemma answered_post (made : s.database.Made) {earlier : Nat}
    (index : ∀ session, s.registry.find? p.session = some session →
    session.nextIndex = UInt32.ofNat earlier)
    (apart : ∀ session r, s.registry.find? p.session = some session →
    CallRecord.unpack p.body = .ok r →
      s.database.DerivesApart (.ofRecord (Server.place session r))) :
    p.Answered s earlier ((s.post p).1, .ofResult Json.ofRecorded (s.post p).2) := by
  cases h : s.registry.find? p.session with
  | none =>
    rw [Server.post_of_none h]
    refine ⟨fun _ => ⟨rfl, (Response.tells_failure ..).mpr ⟨rfl, rfl⟩⟩, fun session hsome => ?_, ?_⟩
    · cases h.symm.trans hsome
    · simp [Response.ofResult, Response.failure, Failure.kind, statusOf]
  | some session =>
    cases hbody : CallRecord.unpack p.body with
    | error e =>
      obtain ⟨hpost, tells, kind⟩ := answers_refused h hbody
      rw [hpost]
      refine ⟨fun hnone => ?_, fun session' hsome => ?_, ?_⟩
      · cases h.symm.trans hnone
      · refine ⟨⟨fun _ => ⟨e, hbody⟩, fun _ => tells⟩, fun e' he => ?_,
          index session' hsome, fun r hr => ?_⟩
        · cases hbody.symm.trans he
          exact ⟨rfl, kind⟩
        · cases hbody.symm.trans hr
      · rw [show (Response.ofResult Json.ofRecorded (.error (.record e))).status =
          .badRequest from tells.1]
        decide
    | ok r =>
      obtain ⟨answers, told⟩ := answers_accepted made h hbody (apart session r h hbody)
      refine ⟨fun hnone => ?_, fun session' hsome => ?_, ?_⟩
      · cases h.symm.trans hnone
      · cases h.symm.trans hsome
        refine ⟨⟨fun tells => ?_, ?_⟩, fun e he => ?_, index session h, fun r' hr => ?_⟩
        · rcases told with told | told
          · exact absurd (tells.same told).2 (by decide)
          · cases tells.1.symm.trans told
        · rintro ⟨e, he⟩
          cases hbody.symm.trans he
        · cases hbody.symm.trans he
        · cases hbody.symm.trans hr
          exact answers
      · rcases told with told | told
        · rw [show (Response.ofResult Json.ofRecorded (s.post p).2).status =
            .badRequest from told.1]
          decide
        · rw [show (Response.ofResult Json.ofRecorded (s.post p).2).status = .ok from told]
          decide

/-- After any requests the ids in the database are made. -/
lemma made_after (made : s.database.Made) (history : List Exchange) :
    (s.after history).database.Made := by
  induction history using List.reverseRecOn with
  | nil => exact made
  | append_singleton history x ih =>
    rw [after_concat, respond_fst]
    cases x.request.change with
    | nothing => exact ih
    | opens target => exact ih
    | closes id => exact ih
    | posts p => exact Server.made_post ih

end

/-- After any requests a posted record is answered by what it is and by how many were posted before
it, if no id is derived from two samplers. -/
theorem posts_answered (options : RecorderOptions) {db : Database} (made : db.Made)
    (history : List Exchange) {x : Exchange} {p : Post} (h : x.request.change = .posts p)
    (apart : ∀ session r, ((Server.mk options .empty db).after history).registry.find?
      p.session = some session →
      CallRecord.unpack p.body = .ok r →
      ((Server.mk options .empty db).after history).database.DerivesApart
        (.ofRecord (Server.place session r))) :
    p.Answered ((Server.mk options .empty db).after history)
      (decodedPosts p.session ((Server.mk options .empty db).transcript history))
      (respond ((Server.mk options .empty db).after history) x.fresh x.request) := by
  have index : ∀ session, ((Server.mk options .empty db).after history).registry.find?
    p.session = some session →
      session.nextIndex =
      UInt32.ofNat (decodedPosts p.session ((Server.mk options .empty db).transcript history)) := by
    intro session hfind
    rw [(counts_after rfl history hfind).indexes, SessionRegistry.id_of_find? hfind]
  rw [respond_of_posts h]
  exact answered_post (made_after (s := ⟨options, .empty, db⟩) made history) index apart

/-- The packed record of a call without arguments. -/
def countedFrame : List UInt8 :=
  Frame.assemble CallRecord.countedCall.method CallRecord.countedCall.packedArguments
    (.returned ⟨.empty, .scalar (.int 7)⟩)

/-- A post of a call of `count`. -/
def countedPost : Exchange := ⟨⟨2⟩, .record ⟨0⟩ countedFrame⟩

/-- The posted bytes are that call. -/
lemma unpack_countedFrame : CallRecord.unpack countedFrame = .ok CallRecord.countedCall := by cbv

/-- The request posts the frame. -/
lemma change_countedPost : countedPost.request.change = .posts ⟨⟨0⟩, none, countedFrame⟩ :=
  change_record (by cbv)

/-- After a call that is nested too deep has used up the first index, the second
call is recorded. -/
theorem posts_answeredCounted : Database.Made .empty ∧
    countedPost.request.change = .posts ⟨⟨0⟩, none, countedFrame⟩ ∧
    ∃ a, (respond (shallowServer.after [opening, nestedPost]) ⟨2⟩ countedPost.request).2 =
        .json (Json.ofRecorded ⟨⟨0⟩, 1, a⟩) ∧
      (respond (shallowServer.after [opening, nestedPost]) ⟨2⟩ countedPost.request).1.database.get
        a.sampler.id =
        .ok ⟨1, CallRecord.countedCall.signature.full, a.sampler, a.postProcessor⟩ := by
  have apart :
    ∀ session r, (shallowServer.after [opening, nestedPost]).registry.find? ⟨0⟩ = some session →
      CallRecord.unpack countedFrame = .ok r →
      (shallowServer.after [opening, nestedPost]).database.DerivesApart
        (.ofRecord (Server.place session r)) := by
    intro session r _ _
    rw [after_nestedPost]
    exact List.forall_mem_nil _
  have answered :=
    posts_answered _ Database.made_empty [opening, nestedPost] change_countedPost apart
  have answers : Session.Answers _ (shallowServer.after [opening, nestedPost]) _ _ _ :=
    (answered.opened _ find?_nestedPost).accepted _ unpack_countedFrame
  have shallow : ¬(Server.place ⟨⟨0⟩, "t", 1, []⟩ CallRecord.countedCall).TooDeep
      (shallowServer.after [opening, nestedPost]).options none := by
    rw [after_nestedPost]
    rintro (⟨name, hname, _⟩ | deep)
    · cases hname
    · have text : (Recorder.argumentsText shallowServer.options
          (Server.place ⟨⟨0⟩, "t", 1, []⟩ CallRecord.countedCall)).isOk = true := by cbv
      rw [deep] at text
      cases text
  obtain ⟨_, a, _, _, told, kept⟩ := answers.recorded shallow
  exact ⟨Database.made_empty, change_countedPost, a, told, kept⟩

end CallReplay
