import CallReplay.Proofs.Http.Requests
import CallReplay.Proofs.Server.Posting

/-!
# Requests one after another

A transcript has the requests that were made of a server and their responses, in order. How many
records were posted to a session since it was opened is read off it, and that decides what an open
session says of itself: it counts the records that could be unpacked, and lists the samplers of
those that were answered with artifacts.
-/

namespace CallReplay

open Http

/-- A request, with the id for a session that it may open. -/
structure Exchange where
  fresh : SessionId
  request : Http.Request

/-- A request that was made with its response. -/
structure Turn extends Exchange where
  response : Response

namespace Exchange

/-- Whether a request opens a session under an id. -/
def opens (x : Exchange) (id : SessionId) : Bool :=
  match x.request.change with
  | .opens _ => x.fresh == id
  | _ => false

/-- The record that a request posts to a session. -/
def post? (x : Exchange) (id : SessionId) : Option Post :=
  match x.request.change with
  | .posts p => if p.session = id then some p else none
  | _ => none

/-- Whether a record is posted to a session that can be unpacked. -/
def decodes (x : Exchange) (id : SessionId) : Bool :=
  (x.post? id).any fun p => (CallRecord.unpack p.body).isOk

end Exchange

namespace Turn

/-- Whether a record is posted to a session and answered with artifacts. -/
def records (t : Turn) (id : SessionId) : Bool := (t.post? id).isSome && t.response.status = .ok

/-- Whether a record is posted to a session that can be unpacked, but is answered with a failure. -/
def refuses (t : Turn) (id : SessionId) : Bool := t.decodes id && !t.records id

end Turn

namespace Server

/-- The server after requests that were made one after another. -/
def after (s : Server) (history : List Exchange) : Server :=
  history.foldl (fun s x => (respond s x.fresh x.request).1) s

/-- The requests that are made of a server, one after another, with their responses. -/
def transcript (s : Server) : List Exchange → List Turn
  | [] => []
  | x :: rest => ⟨x, (respond s x.fresh x.request).2⟩ :: (respond s x.fresh x.request).1.transcript
      rest

end Server

/-- How many turns of a kind there are since a session was opened last. -/
def countSince (id : SessionId) (kind : Turn → Bool) (turns : List Turn) : Nat :=
  (turns.rtakeWhile fun t => !t.opens id).countP kind

/-- How many records were posted to a session that can be unpacked. -/
def decodedPosts (id : SessionId) (turns : List Turn) : Nat :=
  countSince id (fun t => t.decodes id) turns

/-- How many records were posted to a session and answered with artifacts. -/
def recordedPosts (id : SessionId) (turns : List Turn) : Nat :=
  countSince id (fun t => t.records id) turns

/-- How many records were posted to a session that can be unpacked, but were answered
with a failure. -/
def refusedPosts (id : SessionId) (turns : List Turn) : Nat :=
  countSince id (fun t => t.refuses id) turns

section

variable {s : Server} {history : List Exchange} {x : Exchange} {turns : List Turn} {t : Turn}
  {id : SessionId} {session : Session} {p : Post} {target : String}

/-- The last request is made of the server that the others leave. -/
lemma after_concat (s : Server) (history : List Exchange) (x : Exchange) :
    s.after (history ++ [x]) = (respond (s.after history) x.fresh x.request).1 :=
  List.foldl_concat ..

/-- No request changes the options. -/
lemma options_after (s : Server) (history : List Exchange) :
    (s.after history).options = s.options := by
  induction history using List.reverseRecOn with
  | nil => rfl
  | append_singleton history x ih =>
    rw [after_concat, respond_fst, ← ih]
    cases x.request.change with
    | nothing => rfl
    | opens target => rfl
    | closes id => rfl
    | posts p => exact Server.options_post _ p

/-- The last turn of a transcript is that of the last request. -/
lemma transcript_concat (s : Server) (history : List Exchange) (x : Exchange) :
    s.transcript (history ++ [x]) =
      s.transcript history ++ [⟨x, (respond (s.after history) x.fresh x.request).2⟩] := by
  induction history generalizing s with
  | nil => rfl
  | cons y rest ih => exact congrArg (List.cons _) (ih _)

/-- Nothing has been counted for a session that has just been opened. -/
lemma countSince_of_opens {kind : Turn → Bool} (h : t.opens id = true) :
    countSince id kind (turns ++ [t]) = 0 := by
  rw [countSince, List.rtakeWhile_concat_neg _ _ _ (by simp [h]), List.countP_nil]

/-- A turn that does not open the session counts if it is of the kind. -/
lemma countSince_concat {kind : Turn → Bool} (h : t.opens id = false) :
    countSince id kind (turns ++ [t]) = countSince id kind turns + if kind t then 1 else 0 := by
  rw [countSince, List.rtakeWhile_concat_pos _ _ _ (by simp [h]), List.countP_append,
    List.countP_singleton]
  rfl

/-- A request opens a session under its fresh id. -/
lemma opens_of_change (h : x.request.change = .opens target) : x.opens id = (x.fresh == id) := by
  rw [Exchange.opens, h]

/-- A request posts its record to one session. -/
lemma post?_of_posts (h : x.request.change = .posts p) :
    x.post? id = if p.session = id then some p else none := by
  rw [Exchange.post?, h]

/-- A request that posts a record opens no session. -/
lemma opens_of_posts (h : x.request.change = .posts p) : x.opens id = false := by
  rw [Exchange.opens, h]

/-- A failure is never told as a success. -/
lemma status_failure (f : Failure) : (Response.failure f).status ≠ .ok := by
  rw [Response.failure]
  cases f.kind <;> simp [statusOf]

/-- What an open session has counted. -/
structure Session.Counts (session : Session) (turns : List Turn) : Prop where
  indexes : session.nextIndex = UInt32.ofNat (decodedPosts session.id turns)
  artifacts : session.artifacts.length = recordedPosts session.id turns
  refused : decodedPosts session.id turns =
      recordedPosts session.id turns + refusedPosts session.id turns

namespace Session.Counts

/-- A session that has just been opened counts nothing. -/
lemma opened {target : String} (h : t.opens id = true) :
    (Session.mk id target 0 []).Counts (turns ++ [t]) := by
  constructor
  · rw [decodedPosts, countSince_of_opens h]
    rfl
  · rw [recordedPosts, countSince_of_opens h, List.length_nil]
  · rw [decodedPosts, recordedPosts, refusedPosts, countSince_of_opens h, countSince_of_opens h,
      countSince_of_opens h]

/-- A turn that does not open the session anew counts as what it is. -/
lemma next {session' : Session} (counts : session.Counts turns) (opens : t.opens session.id = false)
    (records : t.records session.id = true → t.decodes session.id = true)
    (hid : session'.id = session.id)
    (hindex : session'.nextIndex = session.nextIndex + if t.decodes session.id then 1 else 0)
    (hartifacts : session'.artifacts.length =
    session.artifacts.length + if t.records session.id then 1 else 0) :
    session'.Counts (turns ++ [t]) := by
  have refused := counts.refused
  rw [decodedPosts, recordedPosts, refusedPosts] at refused
  constructor
  · rw [hid, hindex, decodedPosts, countSince_concat opens, counts.indexes, decodedPosts]
    split
    · simp
    · simp
  · rw [hid, hartifacts, recordedPosts, countSince_concat opens, counts.artifacts, recordedPosts]
  · rw [hid, decodedPosts, recordedPosts, refusedPosts, countSince_concat opens,
      countSince_concat opens, countSince_concat opens, refused, Turn.refuses]
    cases hrecords : t.records session.id with
    | true =>
      rw [records hrecords]
      simp only [if_true, Bool.not_true, Bool.and_false, Bool.false_eq_true, if_false]
      omega
    | false =>
      simp only [Bool.false_eq_true, if_false, Bool.not_false, Bool.and_true]
      omega

/-- Turns that do not concern a session leave what it counts. -/
lemma skip (counts : session.Counts turns) (opens : t.opens session.id = false)
    (post : t.post? session.id = none) :
    session.Counts (turns ++ [t]) := by
  have decodes : t.decodes session.id = false := by rw [Exchange.decodes, post]; rfl
  have records : t.records session.id = false := by rw [Turn.records, post]; rfl
  refine counts.next opens (fun h => ?_) rfl ?_ ?_
  · rw [records] at h
    cases h
  · rw [decodes]
    exact (UInt32.add_zero _).symm
  · rw [records]
    rfl

end Session.Counts

/-- A record that is posted to an open session counts as it can be unpacked and as
it is answered. -/
lemma counts_of_posts (counts : session.Counts turns)
    (hfind : s.registry.find? p.session = some session) (hchange : x.request.change = .posts p) :
    ∃ session', (s.post p).1.registry.find? p.session = some session' ∧
      session'.Counts (turns ++ [⟨x, .ofResult Json.ofRecorded (s.post p).2⟩]) := by
  have hid := SessionRegistry.id_of_find? hfind
  have opens : x.opens session.id = false := opens_of_posts hchange
  have post : x.post? session.id = some p := by rw [post?_of_posts hchange, hid, if_pos rfl]
  have decodes : x.decodes session.id = (CallRecord.unpack p.body).isOk := by
    rw [Exchange.decodes, post]; rfl
  have records : ∀ response, Turn.records ⟨x, response⟩ session.id =
      decide (response.status = .ok) := by
    intro response
    rw [Turn.records, post]
    rfl
  have failed : ∀ f, Turn.records ⟨x, .failure f⟩ session.id = false := by
    intro f
    rw [records]
    exact decide_eq_false (status_failure f)
  cases hbody : CallRecord.unpack p.body with
  | error cause =>
    rw [hbody] at decodes
    rw [Server.post_of_refused hfind hbody]
    refine ⟨session, hfind, counts.next opens (fun h => ?_) rfl ?_ ?_⟩
    · cases (failed _).symm.trans h
    · simp [decodes, Except.isOk, Except.toBool]
    · simp [Response.ofResult, failed]
  | ok r =>
    rw [hbody] at decodes
    rcases Server.post_cases hfind hbody with ⟨e, hpost⟩ | ⟨_, a, db, _, _, _, hpost⟩
    · rw [hpost]
      refine ⟨{ session with nextIndex := session.nextIndex + 1 }, ?_,
        counts.next opens (fun _ => decodes) rfl ?_ ?_⟩
      · simp [hfind]
      · simp [decodes, Except.isOk, Except.toBool]
      · simp [Response.ofResult, failed]
    · rw [hpost]
      refine ⟨{ session with
          nextIndex := session.nextIndex + 1, artifacts := session.artifacts ++ [a.sampler.id] },
        ?_, counts.next opens (fun _ => decodes) rfl ?_ ?_⟩
      · simp [hfind]
      · simp [decodes, Except.isOk, Except.toBool]
      · simp [Response.ofResult, Response.json, records]

/-- If all open sessions count what was posted to them, they do so after one more request. -/
theorem counts_step (h : ∀ id session, s.registry.find? id = some session → session.Counts turns)
    (hfind : (respond s x.fresh x.request).1.registry.find? id = some session) :
    session.Counts (turns ++ [⟨x, (respond s x.fresh x.request).2⟩]) := by
  have hid := SessionRegistry.id_of_find? hfind
  rw [respond_fst] at hfind
  cases hchange : x.request.change with
  | nothing =>
    rw [hchange] at hfind
    apply (h id session hfind).skip
    · rw [Exchange.opens, hchange]
    · rw [Exchange.post?, hchange]
  | opens target =>
    rw [hchange, Server.apply, SessionRegistry.find?_start] at hfind
    split at hfind
    next same =>
      cases hfind
      apply Session.Counts.opened
      rw [opens_of_change hchange, beq_self_eq_true]
    next other =>
      apply (h id session hfind).skip
      · rw [opens_of_change hchange, hid]
        exact beq_false_of_ne (Ne.symm other)
      · rw [Exchange.post?, hchange]
  | closes closed =>
    rw [hchange, Server.apply, SessionRegistry.find?_close] at hfind
    split at hfind
    next => cases hfind
    next =>
      apply (h id session hfind).skip
      · rw [Exchange.opens, hchange]
      · rw [Exchange.post?, hchange]
  | posts p =>
    rw [hchange, Server.apply] at hfind
    by_cases hsession : id = p.session
    · subst hsession
      rw [respond_of_posts hchange]
      cases hbefore : s.registry.find? p.session with
      | none =>
        rw [Server.post_of_none hbefore, hbefore] at hfind
        cases hfind
      | some before =>
        obtain ⟨session', hafter, counts⟩ := counts_of_posts (h _ before hbefore) hbefore hchange
        cases hafter.symm.trans hfind
        exact counts
    · rw [Server.find?_post_of_ne hsession] at hfind
      apply (h id session hfind).skip
      · exact opens_of_posts hchange
      · rw [post?_of_posts hchange, hid, if_neg (Ne.symm hsession)]

/-- After any requests the open sessions have counted what was posted to them. -/
theorem counts_after (hempty : s.registry = .empty) (history : List Exchange)
    (hfind : (s.after history).registry.find? id = some session) :
    session.Counts (s.transcript history) := by
  induction history using List.reverseRecOn generalizing id session with
  | nil =>
    rw [Server.after, List.foldl_nil, hempty] at hfind
    cases hfind
  | append_singleton history x ih =>
    rw [after_concat] at hfind
    rw [transcript_concat]
    exact counts_step (fun id session => ih) hfind

end

end CallReplay
