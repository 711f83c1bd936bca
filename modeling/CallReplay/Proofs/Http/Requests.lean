import CallReplay.Proofs.Http.Target
import CallReplay.Proofs.Server.Registry

/-!
# What a request changes

A request opens a session, closes one, posts a record, or changes nothing (`Request.change`), and
which of these it does is told by the request alone. All that a request does to the server follows
from it (`respond_fst`).
-/

namespace CallReplay

namespace Http

/-- What a request asks the server to change. -/
inductive Change where
  | nothing
  | opens (target : String)
  | closes (id : SessionId)
  | posts (p : Post)
  deriving DecidableEq

/-- What a request does to the server, as far as the request alone tells. -/
def Request.change (r : Request) : Change :=
  match r.operation? r.method with
  | some .openSession =>
    match readJson Json.targetFields.read r with
    | .ok target => if Text.isBlank target then .nothing else .opens target
    | .error _ => .nothing
  | some (.closeSession part) =>
    match readSessionId part with
    | .ok id => .closes id
    | .error _ => .nothing
  | some (.postRecord part) =>
    match readPost part r.pathAndQuery.2 r with
    | .ok p => .posts p
    | .error _ => .nothing
  | _ => .nothing

end Http

open Http (Change)

/-- The server after a change, given the id for a session that is opened. -/
def Server.apply (s : Server) (fresh : SessionId) : Change → Server
  | .nothing => s
  | .opens target => { s with registry := s.registry.start fresh target }
  | .closes id => { s with registry := s.registry.close id }
  | .posts p => (s.post p).1

namespace Http

variable {r : Request} {p : Post} {method : String}

/-- No resource answers `OPTIONS` by an operation. -/
lemma operation?_options (resource : Resource) : resource.operation? "OPTIONS" = none := by
  cases resource <;> rfl

/-- No resource answers `HEAD` by an operation of its own. -/
lemma operation?_head (resource : Resource) : resource.operation? "HEAD" = none := by
  cases resource <;> rfl

/-- A request without an operation changes nothing. -/
lemma change_of_none (h : r.operation? r.method = none) : r.change = .nothing := by
  rw [Request.change, h]

/-- A request without an operation leaves the server as it was. -/
lemma respondTo_of_none (h : r.operation? method = none) (s : Server) (fresh : SessionId) :
    (respondTo s fresh method r).1 = s := by
  rw [respondTo]
  rw [Request.operation?, Option.bind_eq_none_iff] at h
  cases hresource : Resource.ofPath? r.pathAndQuery.1 with
  | none =>
    simp only [hresource]
  | some resource =>
    simp only [hresource, h resource hresource]

/-- Closing a session that is not open changes nothing. -/
lemma closeSession_cases (s : Server) (id : SessionId) :
    s.closeSession id = .ok (s.apply id (.closes id)) ∨
      (∃ f, s.closeSession id = .error f) ∧ s.apply id (.closes id) = s := by
  cases h : s.registry.find? id with
  | some session =>
    refine .inl ?_
    simp [Server.closeSession, Server.session, h, Server.apply]
  | none =>
    refine .inr ⟨⟨.noSession id, ?_⟩, ?_⟩
    · simp [Server.closeSession, Server.session, h]
    · rw [Server.apply, SessionRegistry.close_of_none h]

/-- Showing a session leaves the server as it was. -/
lemma fst_showSession (s : Server) (fresh : SessionId) (part : List Char) (r : Request) :
    (settle s (perform s fresh r.pathAndQuery.2 r (.showSession part))).1 = s := by
  rw [perform]
  cases readSessionId part <;> rfl

/-- Showing an artifact leaves the server as it was. -/
lemma fst_showArtifact (s : Server) (fresh : SessionId) (part : List Char) (r : Request) :
    (settle s (perform s fresh r.pathAndQuery.2 r (.showArtifact part))).1 = s := by
  rw [perform]
  cases readArtifactId part <;> rfl

/-- What is asked for with GET changes nothing. -/
lemma respondTo_get_fst (s : Server) (fresh : SessionId) (r : Request) :
    (respondTo s fresh "GET" r).1 = s := by
  cases hoperation : r.operation? "GET" with
  | none => exact respondTo_of_none hoperation s fresh
  | some operation =>
    rw [respondTo_of_some hoperation]
    obtain ⟨resource, _, hresource⟩ := Option.bind_eq_some_iff.mp hoperation
    cases resource with
    | sessions =>
      cases hresource
      rfl
    | session part =>
      cases hresource
      exact fst_showSession s fresh part r
    | records part => cases hresource
    | artifacts =>
      cases hresource
      rfl
    | artifact part =>
      cases hresource
      exact fst_showArtifact s fresh part r

/-- A request changes the server as it asks to. -/
lemma respondTo_fst (s : Server) (fresh : SessionId) (r : Request) :
    (respondTo s fresh r.method r).1 = s.apply fresh r.change := by
  cases hoperation : r.operation? r.method with
  | none =>
    rw [respondTo_of_none hoperation, change_of_none hoperation]
    rfl
  | some operation =>
    rw [respondTo_of_some hoperation, Request.change, hoperation]
    cases operation with
    | listSessions => rfl
    | listArtifacts => rfl
    | showSession part => exact fst_showSession s fresh part r
    | showArtifact part => exact fst_showArtifact s fresh part r
    | openSession =>
      dsimp only [perform]
      cases readJson Json.targetFields.read r with
      | error status => rfl
      | ok target =>
        by_cases hblank : Text.isBlank target
        · simp [Server.openSession, hblank, bind, Except.bind, pure, Except.pure, settle,
            Server.apply]
        · simp [Server.openSession, hblank, bind, Except.bind, pure, Except.pure, settle,
            Server.apply]
    | closeSession part =>
      dsimp only [perform]
      cases readSessionId part with
      | error status => rfl
      | ok id =>
        rcases closeSession_cases s id with closed | ⟨⟨f, refused⟩, same⟩
        · simp only [bind, Except.bind, closed]
          rfl
        · simp only [bind, Except.bind, refused]
          exact same.symm
    | postRecord part =>
      dsimp only [perform]
      cases readPost part r.pathAndQuery.2 r <;> rfl

/-- All that a request does to the server. -/
theorem respond_fst (s : Server) (fresh : SessionId) (r : Request) :
    (respond s fresh r).1 = s.apply fresh r.change := by
  rw [respond]
  split
  next hmethod =>
    have none : r.operation? r.method = none := by
      simp [Request.operation?, hmethod, operation?_options]
    rw [change_of_none none]
    rfl
  next =>
    split
    next hmethod =>
      have none : r.operation? r.method = none := by
        simp [Request.operation?, hmethod, operation?_head]
      rw [change_of_none none]
      exact respondTo_get_fst s fresh r
    next => exact respondTo_fst s fresh r

/-- A record is posted only by a request that names its session, and whose query and body
can be read. -/
lemma operation?_of_posts (h : r.change = .posts p) :
    ∃ part, r.operation? r.method = some (.postRecord part) ∧
    readPost part r.pathAndQuery.2 r = .ok p := by
  unfold Request.change at h
  split at h
  · split at h
    · split at h <;> cases h
    · cases h
  · split at h <;> cases h
  next part hoperation =>
    split at h
    next hread =>
      cases h
      exact ⟨part, hoperation, hread⟩
    next => cases h
  · cases h

/-- A posted record is taken in, and the answer is what comes of it. -/
theorem respond_of_posts (h : r.change = .posts p) (s : Server) (fresh : SessionId) :
    respond s fresh r = ((s.post p).1, .ofResult Json.ofRecorded (s.post p).2) := by
  obtain ⟨part, hoperation, hread⟩ := operation?_of_posts h
  have notOptions : ¬r.method = "OPTIONS" := by
    intro hmethod
    simp [Request.operation?, hmethod, operation?_options] at hoperation
  have notHead : ¬r.method = "HEAD" := by
    intro hmethod
    simp [Request.operation?, hmethod, operation?_head] at hoperation
  rw [respond, if_neg notOptions, if_neg notHead, respondTo_of_some hoperation, perform, hread]
  rfl

/-- A request that posts its body to a session, with the stem of the handles if there is one. -/
structure Request.PostsTo (r : Request) (id : SessionId) (stem : Option String) : Prop where
  method : r.method = "POST"
  operation : ∃ part, r.operation? "POST" = some (.postRecord part) ∧ readSessionId part = .ok id
  query : readStem r.pathAndQuery.2 = .ok stem

namespace Request.PostsTo

variable {id : SessionId} {stem : Option String}

/-- A request that posts a body within the limit posts a record. -/
lemma change (h : r.PostsTo id stem) (small : r.body.length ≤ bodyLimit) :
    r.change = .posts ⟨id, stem, r.body⟩ := by
  obtain ⟨part, operation, session⟩ := h.operation
  have hbody : readBody r = .ok r.body := if_pos small
  have read : readPost part r.pathAndQuery.2 r = .ok ⟨id, stem, r.body⟩ := by
    rw [readPost, session, h.query, hbody]
    rfl
  rw [Request.change, h.method, operation]
  simp only [read]

/-- A body that is too large is not looked at. -/
lemma respond_tooLarge (h : r.PostsTo id stem) (large : bodyLimit < r.body.length) (s : Server)
    (fresh : SessionId) :
    respond s fresh r = (s, .bare .contentTooLarge) := by
  obtain ⟨part, operation, session⟩ := h.operation
  have hbody : readBody r = .error .contentTooLarge := if_neg (Nat.not_le.mpr large)
  have read : readPost part r.pathAndQuery.2 r = .error .contentTooLarge := by
    rw [readPost, session, h.query, hbody]
    rfl
  have notOptions : ¬r.method = "OPTIONS" := by simp [h.method]
  have notHead : ¬r.method = "HEAD" := by simp [h.method]
  rw [respond, if_neg notOptions, if_neg notHead, h.method, respondTo_of_some operation, perform,
    read]
  rfl

end Request.PostsTo

/-- The request for a record to be posted asks for that. -/
lemma operation?_record (id : SessionId) (body : List UInt8) :
    (Request.record id body).operation? "POST" = some (.postRecord id.text.toList) ∧
      (Request.record id body).pathAndQuery.2 = [] := by
  have plain : ∀ c ∈ id.text.toList, c ≠ '#' ∧ c ≠ '?' ∧ c ≠ '/' :=
    plain_of_idChars fun c => SessionId.mem_idChars_of_text
  have sessions : ∀ c ∈ "sessions".toList, c ≠ '#' ∧ c ≠ '?' ∧ c ≠ '/' := by simp
  have records : ∀ c ∈ "records".toList, c ≠ '#' ∧ c ≠ '?' ∧ c ≠ '/' := by simp
  have target : (Request.record id body).target.toList =
      '/' :: ("sessions".toList ++ '/' :: (id.text.toList ++ '/' :: "records".toList)) := by
    simp [Request.record]
  have clear : ∀ c ∈ "sessions".toList ++ '/' :: (id.text.toList ++ '/' :: "records".toList),
      c ≠ '#' ∧ c ≠ '?' := by
    simp only [List.mem_append, List.mem_cons]
    rintro c (hc | rfl | hc | rfl | hc)
    · exact ⟨(sessions c hc).1, (sessions c hc).2.1⟩
    · decide
    · exact ⟨(plain c hc).1, (plain c hc).2.1⟩
    · decide
    · exact ⟨(records c hc).1, (records c hc).2.1⟩
  have hpath := pathAndQuery_of_path target clear
  have parts : Text.parts '/'
      ([] ++ '/' :: ("sessions".toList ++ '/' :: (id.text.toList ++ '/' :: "records".toList))) =
        [[], "sessions".toList, id.text.toList, "records".toList] := by
    rw [Text.parts_append List.not_mem_nil, Text.parts_append fun h => (sessions _ h).2.2 rfl,
      Text.parts_append fun h => (plain _ h).2.2 rfl,
      Text.parts_of_notMem fun h => (records _ h).2.2 rfl]
  constructor
  · rw [Request.operation?, hpath, Resource.ofPath?, ← List.nil_append ('/' :: _), parts]
    rfl
  · rw [hpath]

/-- A record that is posted goes to its session. -/
lemma postsTo_record (id : SessionId) (body : List UInt8) :
    (Request.record id body).PostsTo id none := by
  obtain ⟨operation, query⟩ := operation?_record id body
  exact ⟨rfl, ⟨_, operation, readSessionId_text id⟩, query ▸ rfl⟩

/-- The request for a record to be posted posts it, if its body is not too large. -/
theorem change_record {id : SessionId} {body : List UInt8} (h : body.length ≤ bodyLimit) :
    (Request.record id body).change = .posts ⟨id, none, body⟩ :=
  (postsTo_record id body).change h

end Http

end CallReplay
