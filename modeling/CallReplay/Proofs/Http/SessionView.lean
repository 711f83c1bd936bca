import CallReplay.Proofs.Http.Transcript

/-!
# What is shown of a session

A session that is open is shown alone and among the others. The number of its recorded calls is the
next index, so it counts the posts that took an index, whether anything came of them or not. Its
samplers are those of the posts that were answered with artifacts.
-/

namespace CallReplay

open Http

/-- How the server shows an open session, after what a transcript has of it. -/
structure Session.Viewed (session : Session) (s : Server) (turns : List Turn) : Prop where
  shown : ∀ fresh, respond s fresh (.session session.id) = (s, .json (Json.ofSession session))
  listed : ∀ fresh, ∃ views, respond s fresh
      .sessions = (s, .json (.object [("sessions", .list views)])) ∧
    Json.ofSession session ∈ views
  /-- The recorded calls include the posts that took an index but were refused. -/
  calls : (Json.ofSession session).get? "recorded_calls" =
    some (.nat ((recordedPosts session.id turns + refusedPosts session.id turns) % 2 ^ 32))
  artifacts : ∃ ids, (Json.ofSession session).get? "artifacts" = some (.list ids) ∧
    ids.length = recordedPosts session.id turns

/-- After any requests an open session is shown with its samplers and with the number of indexes
that it has given out. -/
theorem viewed_after (options : RecorderOptions) (db : Database) (history : List Exchange)
    {id : SessionId} {session : Session}
    (h : ((Server.mk options .empty db).after history).registry.find? id = some session) :
    session.Viewed ((Server.mk options .empty db).after history)
      ((Server.mk options .empty db).transcript history) := by
  have counts := counts_after rfl history h
  have hid := SessionRegistry.id_of_find? h
  refine ⟨fun fresh => ?_, fun fresh => ⟨_, respond_sessions _ fresh, ?_⟩, ?_, ?_⟩
  · rw [respond_session, hid, Server.session_of_some h]
    rfl
  · refine List.mem_map_of_mem (SessionRegistry.mem_sessions_iff.mpr ?_)
    rw [hid]
    exact h
  · have calls : (Json.ofSession session).get? "recorded_calls" =
      some (.nat session.nextIndex.toNat) := rfl
    rw [calls, counts.indexes, counts.refused]
    rfl
  · refine ⟨_, rfl, ?_⟩
    rw [List.length_map, counts.artifacts]

/-- A request that opens a session for the target `t`. -/
def opening : Exchange :=
  ⟨⟨0⟩, ⟨"POST", "/sessions", some "application/json", Text.Utf8.encode "\x7b\"target\":\"t\"\x7d"⟩⟩

/-- The packed record of a call with a list in a list. -/
def nestedFrame : List UInt8 :=
  Frame.assemble CallRecord.nestedCall.method CallRecord.nestedCall.packedArguments
    (.returned ⟨⟨#[.struct ⟨"p.Stub", true, true, []⟩]⟩, .ref ⟨0⟩⟩)

/-- A post of a call that is nested deeper than the server allows. -/
def nestedPost : Exchange := ⟨⟨1⟩, .record ⟨0⟩ nestedFrame⟩

/-- The server allows no list in a list. -/
def shallowServer : Server := .start (RecorderOptions.withMaxDepth {} 1)

/-- The request opens a session. -/
lemma change_opening : opening.request.change = .opens "t" := by decide +kernel

/-- The posted bytes are that call. -/
lemma unpack_nestedFrame : CallRecord.unpack nestedFrame = .ok CallRecord.nestedCall := by cbv

/-- The request posts the frame. -/
lemma change_nestedPost : nestedPost.request.change = .posts ⟨⟨0⟩, none, nestedFrame⟩ :=
  change_record (by cbv)

/-- After the first request one session is open. -/
lemma after_opening : shallowServer.after [opening] =
    { shallowServer with registry := SessionRegistry.empty.start ⟨0⟩ "t" } := by
  rw [← List.nil_append [opening], after_concat, respond_fst, change_opening]
  rfl

/-- The posted call takes an index, and nothing else comes of it. -/
lemma post_nestedFrame : (shallowServer.after [opening]).post ⟨⟨0⟩, none, nestedFrame⟩ =
    ({ shallowServer with registry := (SessionRegistry.empty.start ⟨0⟩ "t").advance ⟨0⟩ },
      .error (.recording (.script (.nestingTooDeep 1)))) := by
  have hfind : (shallowServer.after [opening]).registry.find? ⟨0⟩ = some ⟨⟨0⟩, "t", 0, []⟩ := by
    rw [after_opening]
    simp
  have text : Recorder.argumentsText shallowServer.options
    (Server.place ⟨⟨0⟩, "t", 0, []⟩ CallRecord.nestedCall) =
      .error (.nestingTooDeep 1) := by
    cbv
  have made : Recorder.artifacts shallowServer.options
    (Server.place ⟨⟨0⟩, "t", 0, []⟩ CallRecord.nestedCall) =
      .error (.nestingTooDeep 1) := by
    rw [Recorder.artifacts_eq, text]
    rfl
  have refused :
    Server.record
    { shallowServer with registry := (SessionRegistry.empty.start ⟨0⟩ "t").advance ⟨0⟩ }
      ⟨⟨0⟩, none, nestedFrame⟩ (Server.place ⟨⟨0⟩, "t", 0, []⟩ CallRecord.nestedCall) = .error _ :=
    Server.record_of_script_error rfl made
  rw [Server.post_of_unpacked hfind unpack_nestedFrame, after_opening]
  dsimp only
  rw [refused]

/-- After the second request the session has given out an index, and nothing else has changed. -/
lemma after_nestedPost : shallowServer.after [opening, nestedPost] =
    { shallowServer with registry := (SessionRegistry.empty.start ⟨0⟩ "t").advance ⟨0⟩ } := by
  have concat := after_concat shallowServer [opening] nestedPost
  rw [respond_of_posts change_nestedPost, post_nestedFrame] at concat
  exact concat

/-- The session lists no sampler. -/
lemma find?_nestedPost : (shallowServer.after [opening, nestedPost]).registry.find? ⟨0⟩ =
    some ⟨⟨0⟩, "t", 1, []⟩ := by
  rw [after_nestedPost]
  simp

/-- The session of the refused call is shown as the transcript has it. -/
theorem viewed_afterNested :
    (shallowServer.after [opening, nestedPost]).registry.find? ⟨0⟩ = some ⟨⟨0⟩, "t", 1, []⟩ ∧
    Session.Viewed ⟨⟨0⟩, "t", 1, []⟩ (shallowServer.after [opening, nestedPost])
      (shallowServer.transcript [opening, nestedPost]) :=
  ⟨find?_nestedPost, viewed_after _ .empty [opening, nestedPost] find?_nestedPost⟩

/-- One recorded call is shown where the only posted record was refused and no sampler was made. -/
theorem sessionView_ofRefused :
    (respond (shallowServer.after [opening, nestedPost]) ⟨2⟩ (.session ⟨0⟩)).2 =
      .json (Json.ofSession ⟨⟨0⟩, "t", 1, []⟩) ∧
    (Json.ofSession ⟨⟨0⟩, "t", 1, []⟩).get? "recorded_calls" = some (.nat 1) ∧
    (Json.ofSession ⟨⟨0⟩, "t", 1, []⟩).get? "artifacts" = some (.list []) ∧
    recordedPosts ⟨0⟩ (shallowServer.transcript [opening, nestedPost]) = 0 := by
  have counts := counts_after rfl [opening, nestedPost] find?_nestedPost
  refine ⟨?_, rfl, rfl, counts.artifacts.symm⟩
  rw [respond_session, Server.session_of_some find?_nestedPost]
  rfl

end CallReplay
