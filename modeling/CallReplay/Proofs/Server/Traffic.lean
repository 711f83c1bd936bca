import CallReplay.Proofs.Http.Transcript
import CallReplay.Proofs.Lists

/-!
# Requests at the same time

Any number of posted records are on their way through the server, and between any two steps of one
of them come steps of the others and whole requests that open and close sessions. What one step can
do is said once (`Handling.Moves`). Every index of a session then goes to one post only, and an open
session has noted what was answered in it (`Traffic.Consistent`).
-/

namespace CallReplay

open Http

/-- The record that a post has when it is numbered. -/
def Progress.record? : Progress → Option CallRecord
  | .numbered r | .kept r _ => some r
  | _ => none

/-- A posted record on its way through the server, and the record with its number once
it has one. -/
structure Handling where
  post : Post
  progress : Progress
  numbered : Option CallRecord

namespace Handling

/-- The artifacts that a handling has made and kept. -/
def artifacts? (h : Handling) : Option Artifacts :=
  match h.progress with
  | .kept _ a => some a
  | .answered (.ok answer) => some answer.artifacts
  | _ => none

/-- The answer of a handling that has ended with artifacts. -/
def answer? (h : Handling) : Option Recorded :=
  match h.progress with
  | .answered (.ok answer) => some answer
  | _ => none

end Handling

/-- One step of the server for a post. -/
def Server.handle (s : Server) (h : Handling) : Server × Handling :=
  ((s.step h.post h.progress).1,
    ⟨h.post, (s.step h.post h.progress).2, (s.step h.post h.progress).2.record?.or h.numbered⟩)

/-- What happens at a server. -/
inductive Event where
  /-- A request comes in. A post sets out on its way, and any other request is carried
  out at once. -/
  | request (x : Exchange)
  /-- The server takes one step for the post with a number. -/
  | step (i : Nat)

namespace Event

/-- The id of the session that an event opens. -/
def opened? : Event → Option SessionId
  | .request x =>
    match x.request.change with
    | .opens _ => some x.fresh
    | _ => none
  | .step _ => none

/-- Whether an event is the arrival of a post to a session. -/
def posts (e : Event) (id : SessionId) : Bool :=
  match e with
  | .request x => (x.post? id).isSome
  | .step _ => false

/-- The steps up to the number of a record. -/
def numbering (i : Nat) : List Event := [.step i, .step i, .step i]

/-- The steps from the number of a record on. -/
def recording (i : Nat) : List Event := [.step i, .step i]

end Event

/-- A server with the posts that came in, the oldest first. -/
structure Traffic where
  server : Server
  handlings : List Handling

namespace Traffic

/-- A post has arrived, and nothing has been done for it. -/
def arrive (t : Traffic) (p : Post) : Traffic := ⟨t.server, t.handlings ++ [⟨p, .received, none⟩]⟩

/-- The traffic after a step for the post with a number. -/
def put (t : Traffic) (i : Nat) (s : Server) (h : Handling) : Traffic := ⟨s, t.handlings.set i h⟩

/-- What one event makes of the traffic. -/
def next (t : Traffic) : Event → Traffic
  | .request x =>
    match x.request.change with
    | .posts p => t.arrive p
    | _ => { t with server := (respond t.server x.fresh x.request).1 }
  | .step i =>
    match t.handlings[i]? with
    | some h => t.put i (t.server.handle h).1 (t.server.handle h).2
    | none => t

/-- What events make of the traffic, one after another. -/
def after (t : Traffic) (events : List Event) : Traffic := events.foldl next t

/-- What the posts to a session have of a kind. -/
def collect {α : Type} (t : Traffic) (id : SessionId) (f : Handling → Option α) : List α :=
  t.handlings.filterMap fun h => if h.post.session = id then f h else none

/-- The indexes that were given out in a session. -/
def indexes (t : Traffic) (id : SessionId) : List UInt32 :=
  t.collect id fun h => h.numbered.map CallRecord.index

/-- The samplers that were answered in a session. -/
def samplers (t : Traffic) (id : SessionId) : List ArtifactId :=
  t.collect id fun h => h.answer?.map fun answer => answer.artifacts.sampler.id

end Traffic

/-- A record with a place in the session that it is posted to. -/
def Post.Places (p : Post) (r : CallRecord) : Prop :=
  ∃ unpacked session, CallRecord.unpack p.body = .ok unpacked ∧ session.id = p.session ∧
    r = Server.place session unpacked

/-- How far a post has come, and what that says of its record. -/
inductive Handling.Sound : Handling → Prop
  | received {p} : Sound ⟨p, .received, none⟩
  | admitted {p} : Sound ⟨p, .admitted, none⟩
  | decoded {p r} (unpacked : CallRecord.unpack p.body = .ok r) : Sound ⟨p, .decoded r, none⟩
  | numbered {p r} (placed : p.Places r) : Sound ⟨p, .numbered r, some r⟩
  | kept {p r a} (placed : p.Places r) (made : a.sampler.id = .ofRecord r) :
      Sound ⟨p, .kept r a, some r⟩
  | recorded {p r a} (placed : p.Places r) (made : a.sampler.id = .ofRecord r) :
      Sound ⟨p, .answered (.ok ⟨p.session, r.index, a⟩), some r⟩
  | refused {p e} : Sound ⟨p, .answered (.error e), none⟩
  | failed {p e r} (placed : p.Places r) : Sound ⟨p, .answered (.error e), some r⟩

/-- What one step for a post does: it gives out an index, keeps artifacts, notes a sampler, or does
nothing that can be seen. -/
inductive Handling.Moves (s : Server) : Handling → Server → Handling → Prop
  | quiet {h h'} (post : h'.post = h.post) (numbered : h'.numbered = h.numbered)
      (artifacts : h'.artifacts? = h.artifacts?) (answer : h'.answer? = h.answer?)
      (still : h'.progress.record? = none) : Moves s h s h'
  | numbers {p r session} (found : s.registry.find? p.session = some session)
      (unpacked : CallRecord.unpack p.body = .ok r) :
      Moves s ⟨p, .decoded r, none⟩ { s with registry := s.registry.advance p.session }
        ⟨p, .numbered (Server.place session r), some (Server.place session r)⟩
  | keeps {p r a row} (placed : p.Places r) (made : a.sampler.id = .ofRecord r)
      (sampler : row.sampler = a.sampler) (index : row.callIndex = r.index)
      (signature : row.signature = r.signature.full)
      (runsAfter : ∀ q, a.postProcessor = some q → q.runsAfter = a.sampler.id) :
      Moves s ⟨p, .numbered r, some r⟩ { s with database := s.database.replace row a.postProcessor }
        ⟨p, .kept r a, some r⟩
  | notes {p r a} (placed : p.Places r) (made : a.sampler.id = .ofRecord r) :
      Moves s ⟨p, .kept r a, some r⟩ (s.note p a)
        ⟨p, .answered (.ok ⟨p.session, r.index, a⟩), some r⟩

namespace Handling

variable {s s' : Server} {h : Handling} {p : Post} {r : CallRecord} {session : Session}
  {a : Artifacts} {progress : Progress} {numbered : Option CallRecord} {e : Failure}

/-- A post to an open session is admitted. -/
lemma handle_received (found : s.registry.find? p.session = some session) :
    s.handle ⟨p, .received, none⟩ = (s, ⟨p, .admitted, none⟩) := by
  have step : s.step p .received = (s, .admitted) := by
    rw [Server.step, Server.checkSession, Server.session_of_some found]
    rfl
  rw [Server.handle, step]
  rfl

/-- A record that can be unpacked is decoded. -/
lemma handle_admitted (unpacked : CallRecord.unpack p.body = .ok r) :
    s.handle ⟨p, .admitted, none⟩ = (s, ⟨p, .decoded r, none⟩) := by
  have step : s.step p .admitted = (s, .decoded r) := by
    rw [Server.step, Server.decodeRecord, unpacked]
    rfl
  rw [Server.handle, step]
  rfl

/-- A decoded record gets the next index of its session. -/
lemma handle_decoded (found : s.registry.find? p.session = some session) :
    s.handle ⟨p, .decoded r, none⟩ =
    ({ s with registry := s.registry.advance p.session },
      ⟨p, .numbered (Server.place session r), some (Server.place session r)⟩) := by
  rw [Server.handle, Server.step, Server.number_of_some found]
  rfl

/-- The artifacts of a numbered record are made and kept. -/
lemma handle_numbered (recorded : s.record p r = .ok (s', a)) :
    s.handle ⟨p, .numbered r, some r⟩ = (s', ⟨p, .kept r a, some r⟩) := by
  rw [Server.handle, Server.step, recorded]
  rfl

/-- A post that fails at a step keeps the number that it may have, and the server is as it was. -/
lemma handle_failed (step : s.step p progress = (s, .answered (.error e))) :
    s.handle ⟨p, progress, numbered⟩ = (s, ⟨p, .answered (.error e), numbered⟩) := by
  rw [Server.handle, step]
  rfl

/-- Recording moves a handling on, to a sampler with the id of its record. -/
lemma moves_of_record (placed : p.Places r) (recorded : s.record p r = .ok (s', a)) :
    Moves s ⟨p, .numbered r, some r⟩ s' ⟨p, .kept r a, some r⟩ ∧ a.sampler.id = .ofRecord r := by
  obtain ⟨annotated, db, hannotated, hmade, hdeliver, rfl⟩ := Server.record_eq_ok_iff.mp recorded
  obtain ⟨bytes, _, _, rfl⟩ := Database.deliver_eq_ok_iff.mp hdeliver
  obtain ⟨found, paths, rfl⟩ := CallRecord.annotateIf_eq hannotated
  have made : a.sampler.id = .ofRecord r := by
    rw [Recorder.sampler_id_of_artifacts hmade]
    rfl
  have runsAfter : ∀ q, a.postProcessor = some q → q.runsAfter = a.sampler.id := fun q hq =>
    (artifacts_postProcessor (c := ⟨s.options, _⟩) hmade hq).2
  exact ⟨.keeps placed made rfl rfl rfl runsAfter, made⟩

/-- A post that is sound takes one of the steps and stays sound. -/
theorem Sound.handle (sound : h.Sound) (s : Server) :
    h.Moves s (s.handle h).1 (s.handle h).2 ∧ (s.handle h).2.Sound := by
  cases sound with
  | @received p =>
    cases found : s.registry.find? p.session with
    | none =>
      have step : s.step p .received = (s, .answered (.error (.noSession p.session))) := by
        rw [Server.step, Server.checkSession, Server.session_of_none found]
        rfl
      rw [handle_failed step]
      exact ⟨.quiet rfl rfl rfl rfl rfl, .refused⟩
    | some session =>
      rw [handle_received found]
      exact ⟨.quiet rfl rfl rfl rfl rfl, .admitted⟩
  | @admitted p =>
    cases unpacked : CallRecord.unpack p.body with
    | error cause =>
      have step : s.step p .admitted = (s, .answered (.error (.record cause))) := by
        rw [Server.step, Server.decodeRecord, unpacked]
        rfl
      rw [handle_failed step]
      exact ⟨.quiet rfl rfl rfl rfl rfl, .refused⟩
    | ok r =>
      rw [handle_admitted unpacked]
      exact ⟨.quiet rfl rfl rfl rfl rfl, .decoded unpacked⟩
  | @decoded p r unpacked =>
    cases found : s.registry.find? p.session with
    | none =>
      have step : s.step p (.decoded r) = (s, .answered (.error (.noSession p.session))) := by
        rw [Server.step, Server.number_of_none found]
      rw [handle_failed step]
      exact ⟨.quiet rfl rfl rfl rfl rfl, .refused⟩
    | some session =>
      rw [handle_decoded found]
      exact ⟨.numbers found unpacked,
        .numbered ⟨r, session, unpacked, SessionRegistry.id_of_find? found, rfl⟩⟩
  | @numbered p r placed =>
    cases recorded : s.record p r with
    | error e =>
      have step : s.step p (.numbered r) = (s, .answered (.error e)) := by
        rw [Server.step, recorded]
      rw [handle_failed step]
      exact ⟨.quiet rfl rfl rfl rfl rfl, .failed placed⟩
    | ok made =>
      rw [handle_numbered recorded]
      obtain ⟨moves, made⟩ := moves_of_record placed recorded
      exact ⟨moves, .kept placed made⟩
  | kept placed made => exact ⟨.notes placed made, .recorded placed made⟩
  | recorded placed made => exact ⟨.quiet rfl rfl rfl rfl rfl, .recorded placed made⟩
  | refused => exact ⟨.quiet rfl rfl rfl rfl rfl, .refused⟩
  | failed placed => exact ⟨.quiet rfl rfl rfl rfl rfl, .failed placed⟩

end Handling

namespace Traffic

/-- What an open session knows of its posts, if it is among the sessions that were opened. -/
structure Agrees (t : Traffic) (opened : List SessionId) (session : Session) : Prop where
  isOpened : session.id ∈ opened
  nextIndex : session.nextIndex = UInt32.ofNat (t.indexes session.id).length
  artifacts : session.artifacts.Perm (t.samplers session.id)

/-- The posts, the open sessions and the indexes that were given out fit together, once some
sessions were opened. -/
structure Consistent (t : Traffic) (opened : List SessionId) : Prop where
  sound : ∀ h ∈ t.handlings, h.Sound
  numbered : ∀ h ∈ t.handlings, h.numbered ≠ none → h.post.session ∈ opened
  sessions : ∀ session ∈ t.server.registry.sessions, t.Agrees opened session
  gapless : ∀ id, (t.indexes id).Perm ((List.range (t.indexes id).length).map UInt32.ofNat)

variable {t t' : Traffic} {opened : List SessionId} {id : SessionId} {α : Type}
  {f : Handling → Option α} {b : α} {i : Nat} {h h' : Handling} {s' : Server} {p : Post}
  {session : Session}

/-- Nothing is collected of a post that has just arrived. -/
lemma collect_arrive (hf : f ⟨p, .received, none⟩ = none) :
    (t.arrive p).collect id f = t.collect id f := by
  rw [collect, arrive, List.filterMap_append, List.filterMap_cons_none, List.filterMap_nil,
    List.append_nil]
  · rfl
  · rw [hf, ite_self]

/-- What is collected stays if the handling that is put has the same. -/
lemma collect_put (found : t.handlings[i]? = some h) (post : h'.post = h.post) (same : f h' = f h) :
    (t.put i s' h').collect id f = t.collect id f :=
  filterMap_set_of_eq found (by rw [post, same])

/-- If a handling gets what is collected, it is one more. -/
lemma collect_put_new (found : t.handlings[i]? = some h) (post : h'.post = h.post)
    (old : f h = none) (new : f h' = some b) :
    ((t.put i s' h').collect h.post.session f).Perm (b :: t.collect h.post.session f) := by
  refine perm_filterMap_set found ?_ ?_
  · rw [old, ite_self]
  · rw [post, if_pos rfl, new]

/-- What is collected for a session stays if a handling of another one is put. -/
lemma collect_put_other (found : t.handlings[i]? = some h) (post : h'.post = h.post)
    (other : id ≠ h.post.session) :
    (t.put i s' h').collect id f = t.collect id f :=
  filterMap_set_of_eq found (by rw [post, if_neg other.symm, if_neg other.symm])

/-- Nothing is collected if no handling of the session has anything. -/
lemma collect_eq_nil (hf : ∀ h ∈ t.handlings, h.post.session = id → f h = none) :
    t.collect id f = [] := by
  rw [collect, List.filterMap_eq_nil_iff]
  intro h hh
  split
  next same => exact hf h hh same
  next => rfl

/-- A session agrees with the handlings as long as their indexes and samplers stay. -/
lemma Agrees.congr (agrees : t.Agrees opened session)
    (indexes : t'.indexes session.id = t.indexes session.id)
    (samplers : t'.samplers session.id = t.samplers session.id) : t'.Agrees opened session where
  isOpened := agrees.isOpened
  nextIndex := by
    rw [indexes]
    exact agrees.nextIndex
  artifacts := by
    rw [samplers]
    exact agrees.artifacts

/-- A session that gives out an index agrees with the handlings that have one more. -/
lemma Agrees.advance (agrees : t.Agrees opened session) (index : UInt32)
    (indexes : (t'.indexes session.id).Perm (index :: t.indexes session.id))
    (samplers : t'.samplers session.id = t.samplers session.id) :
    t'.Agrees opened { session with nextIndex := session.nextIndex + 1 } where
  isOpened := agrees.isOpened
  nextIndex := by
    rw [indexes.length_eq, List.length_cons, UInt32.ofNat_add, ← agrees.nextIndex]
    rfl
  artifacts := by
    rw [samplers]
    exact agrees.artifacts

/-- A session that notes a sampler agrees with the handlings that have one more. -/
lemma Agrees.note {artifact : ArtifactId} (agrees : t.Agrees opened session)
    (indexes : t'.indexes session.id = t.indexes session.id)
    (samplers : (t'.samplers session.id).Perm (artifact :: t.samplers session.id)) :
    t'.Agrees opened { session with artifacts := session.artifacts ++ [artifact] } where
  isOpened := agrees.isOpened
  nextIndex := by
    rw [indexes]
    exact agrees.nextIndex
  artifacts :=
      (List.perm_append_singleton _ _).trans ((agrees.artifacts.cons _).trans samplers.symm)

/-- A session agrees with the handlings when further sessions have been opened. -/
lemma Agrees.mono (agrees : t.Agrees opened session) (more : List SessionId) :
    t.Agrees (opened ++ more) session :=
  ⟨List.mem_append_left _ agrees.isOpened, agrees.nextIndex, agrees.artifacts⟩

section

variable (hc : t.Consistent opened)

include hc

/-- An open session agrees with the handlings. -/
lemma Consistent.agrees (hfind : t.server.registry.find? id = some session) :
    t.Agrees opened session :=
  hc.sessions session (List.mem_of_find?_eq_some hfind)

/-- In a session that was not opened nothing has happened. -/
lemma Consistent.answer_none (hid : id ∉ opened) :
    ∀ h ∈ t.handlings, h.post.session = id → h.numbered = none ∧ h.answer? = none := by
  intro h hh hsession
  have numbered : h.numbered = none := by
    by_contra hne
    exact hid (hsession ▸ hc.numbered h hh hne)
  refine ⟨numbered, ?_⟩
  cases hc.sound h hh with
  | recorded => cases numbered
  | _ => rfl

/-- The arrival of a post keeps the traffic consistent. -/
lemma Consistent.arrive (p : Post) : (t.arrive p).Consistent opened where
  sound := by
    intro h hh
    rcases List.mem_append.mp hh with hh | hh
    · exact hc.sound h hh
    · cases List.mem_singleton.mp hh
      exact .received
  numbered := by
    intro h hh hne
    rcases List.mem_append.mp hh with hh | hh
    · exact hc.numbered h hh hne
    · cases List.mem_singleton.mp hh
      exact absurd rfl hne
  sessions := fun session hmem => (hc.sessions session hmem).congr (collect_arrive rfl)
      (collect_arrive rfl)
  gapless := by
    intro id
    rw [indexes, collect_arrive rfl]
    exact hc.gapless id

/-- A session is opened under an id of its own, before any post is numbered in it. -/
lemma Consistent.start {fresh : SessionId} (hfresh : fresh ∉ opened) (target : String) :
    (Traffic.mk { t.server with registry := t.server.registry.start fresh target }
      t.handlings).Consistent (opened ++ [fresh]) where
  sound := hc.sound
  numbered := fun h hh hne => List.mem_append_left _ (hc.numbered h hh hne)
  sessions := by
    intro session hmem
    rcases List.mem_append.mp hmem with hmem | hmem
    · exact (hc.sessions session (List.mem_of_mem_filter hmem)).mono [fresh] |>.congr rfl rfl
    · cases List.mem_singleton.mp hmem
      have nothing := hc.answer_none hfresh
      have indexes : t.indexes fresh = [] := collect_eq_nil fun h hh hsession => by
        rw [(nothing h hh hsession).1, Option.map_none]
      have samplers : t.samplers fresh = [] := collect_eq_nil fun h hh hsession => by
        rw [(nothing h hh hsession).2, Option.map_none]
      refine ⟨List.mem_append_right _ List.mem_cons_self, ?_, .of_eq samplers.symm⟩
      exact (congrArg (fun l : List UInt32 => UInt32.ofNat l.length) indexes).symm
  gapless := hc.gapless

/-- Closing a session keeps the traffic consistent. -/
lemma Consistent.close (id : SessionId) :
    (Traffic.mk { t.server with registry := t.server.registry.close id } t.handlings).Consistent
    opened :=
  ⟨hc.sound, hc.numbered, fun session hmem =>
  (hc.sessions session (List.mem_of_mem_filter hmem)).congr rfl rfl,
    hc.gapless⟩

/-- A step for a post keeps the traffic consistent if the sessions agree with it and its
index comes next. -/
lemma Consistent.put (found : t.handlings[i]? = some h) (post : h'.post = h.post) (sound : h'.Sound)
    (sessions : ∀ session ∈ s'.registry.sessions, (t.put i s' h').Agrees opened session)
    (numbered : h'.numbered = h.numbered ∨ h.numbered = none ∧ ∃ r, h'.numbered = some r ∧
    h.post.session ∈ opened ∧
      r.index = UInt32.ofNat (t.indexes h.post.session).length) :
    (t.put i s' h').Consistent opened where
  sound := by
    intro k hk
    rcases List.mem_or_eq_of_mem_set hk with hk | rfl
    · exact hc.sound k hk
    · exact sound
  numbered := by
    intro k hk hne
    rcases List.mem_or_eq_of_mem_set hk with hk | rfl
    · exact hc.numbered k hk hne
    · rw [post]
      rcases numbered with same | ⟨_, _, _, isOpened, _⟩
      · exact hc.numbered h (List.mem_of_getElem? found) (same ▸ hne)
      · exact isOpened
  sessions := sessions
  gapless := by
    intro id
    rcases numbered with same | ⟨old, r, new, _, index⟩
    · rw [indexes, collect_put found post (by rw [same])]
      exact hc.gapless id
    · by_cases other : id = h.post.session
      · -- The new index is the number of those that were given out before.
        subst other
        have more :
            ((t.put i s' h').indexes h.post.session).Perm (r.index :: t.indexes h.post.session) :=
          collect_put_new found post (by rw [old, Option.map_none]) (by rw [new, Option.map_some])
        refine more.trans ?_
        rw [more.length_eq, List.length_cons, List.range_succ, List.map_append, List.map_singleton,
          ← index]
        exact ((hc.gapless _).cons _).trans (List.perm_append_singleton _ _).symm
      · rw [indexes, collect_put_other found post other]
        exact hc.gapless id

/-- A step of a handling keeps the traffic consistent. -/
lemma Consistent.move (found : t.handlings[i]? = some h) :
    (t.put i (t.server.handle h).1 (t.server.handle h).2).Consistent opened := by
  obtain ⟨moves, sound⟩ := (hc.sound h (List.mem_of_getElem? found)).handle t.server
  generalize (t.server.handle h).1 = s' at moves
  generalize (t.server.handle h).2 = h' at moves sound
  cases moves with
  | quiet post numbered _ answer =>
    refine hc.put found post sound (fun session hmem => (hc.sessions session hmem).congr ?_ ?_)
      (.inl numbered)
    · exact collect_put found post (by rw [numbered])
    · exact collect_put found post (by rw [answer])
  | @numbers p r session hsession =>
    have agrees := hc.agrees hsession
    have hid := SessionRegistry.id_of_find? hsession
    refine hc.put found rfl sound (fun other hmem => ?_)
      (.inr ⟨rfl, _, rfl, hid ▸ agrees.isOpened, hid ▸ agrees.nextIndex⟩)
    obtain ⟨old, hold, rfl⟩ := List.mem_map.mp hmem
    have before := hc.sessions old hold
    split
    next same =>
      refine before.advance session.nextIndex ?_ (collect_put found rfl rfl)
      rw [same]
      exact collect_put_new found rfl rfl rfl
    next different =>
      exact before.congr (collect_put_other found rfl different)
        (collect_put_other found rfl different)
  | keeps =>
    refine hc.put found rfl sound (fun session hmem => (hc.sessions session hmem).congr ?_ ?_)
      (.inl rfl)
    · exact collect_put found rfl rfl
    · exact collect_put found rfl rfl
  | @notes p r a =>
    refine hc.put found rfl sound (fun session hmem => ?_) (.inl rfl)
    obtain ⟨old, hold, rfl⟩ := List.mem_map.mp hmem
    have before := hc.sessions old hold
    split
    next same =>
      refine before.note (collect_put found rfl rfl) ?_
      rw [same]
      exact collect_put_new found rfl rfl rfl
    next different =>
      exact before.congr (collect_put_other found rfl different)
        (collect_put_other found rfl different)

/-- Every event keeps the traffic consistent, if no session is opened twice. -/
theorem Consistent.next {e : Event} (hfresh : ∀ id, e.opened? = some id → id ∉ opened) :
    (t.next e).Consistent (opened ++ e.opened?.toList) := by
  cases e with
  | step i =>
    rw [Event.opened?, Option.toList_none, List.append_nil, Traffic.next]
    cases found : t.handlings[i]? with
    | none => exact hc
    | some h => exact hc.move found
  | request x =>
    rw [Event.opened?, Traffic.next]
    rw [Event.opened?] at hfresh
    cases hchange : x.request.change with
    | nothing =>
      rw [respond_fst, hchange, Option.toList_none, List.append_nil]
      exact hc
    | opens target =>
      rw [respond_fst, hchange]
      exact hc.start (hfresh _ (by rw [hchange])) target
    | closes id =>
      rw [respond_fst, hchange, Option.toList_none, List.append_nil]
      exact hc.close id
    | posts p =>
      rw [Option.toList_none, List.append_nil]
      exact hc.arrive p

end

section

variable {t : Traffic} {i : Nat} {p : Post} {r : CallRecord} {session : Session} {s' : Server}
  {h h' : Handling} {a : Artifacts}

/-- A step puts the handling that comes of it in its place. -/
lemma next_step (found : t.handlings[i]? = some h) (handled : t.server.handle h = (s', h')) :
    t.next (.step i) = t.put i s' h' := by
  rw [next, found]
  dsimp only
  rw [handled]

/-- Of two handlings that are put in one place, the later counts. -/
lemma put_put (t : Traffic) (i : Nat) (s s' : Server) (h h' : Handling) :
    (t.put i s h).put i s' h' = t.put i s' h' := by
  rw [put, put, put, List.set_set]

/-- The handling that is put in a place is found there. -/
lemma getElem?_put (found : t.handlings[i]? = some h) (s' : Server) (h' : Handling) :
    (t.put i s' h').handlings[i]? = some h' :=
  List.getElem?_set_self (List.getElem?_eq_some_iff.mp found).1

/-- Three steps give a number to a record that can be unpacked, if nothing comes between them. -/
lemma after_numbering (found : t.handlings[i]? = some ⟨p, .received, none⟩)
    (opened : t.server.registry.find? p.session = some session)
    (unpacked : CallRecord.unpack p.body = .ok r) :
    t.after (Event.numbering i) =
    t.put i { t.server with registry := t.server.registry.advance p.session }
      ⟨p, .numbered (Server.place session r), some (Server.place session r)⟩ := by
  have admitted := next_step found (Handling.handle_received opened)
  have decoded : (t.put i t.server ⟨p, .admitted, none⟩).next (.step i) =
      t.put i t.server ⟨p, .decoded r, none⟩ := by
    rw [next_step (getElem?_put found _ _) (Handling.handle_admitted unpacked), put_put]
    rfl
  have numbered :=
    next_step (getElem?_put found t.server _) (Handling.handle_decoded (r := r) opened)
  rw [put_put] at numbered
  rw [Event.numbering, after, List.foldl_cons, List.foldl_cons, List.foldl_cons, List.foldl_nil,
    admitted, decoded]
  exact numbered

/-- Two more steps record it. -/
lemma after_recording (found : t.handlings[i]? = some ⟨p, .numbered r, some r⟩)
    (recorded : t.server.record p r = .ok (s', a)) :
    t.after (Event.recording i) =
    t.put i (s'.note p a) ⟨p, .answered (.ok ⟨p.session, r.index, a⟩), some r⟩ := by
  have kept := next_step found (Handling.handle_numbered recorded)
  have noted : (t.put i s' ⟨p, .kept r a, some r⟩).next (.step i) =
      (t.put i s' ⟨p, .kept r a, some r⟩).put i (s'.note p a)
        ⟨p, .answered (.ok ⟨p.session, r.index, a⟩), some r⟩ :=
    next_step (getElem?_put found _ _) rfl
  rw [put_put] at noted
  rw [Event.recording, after, List.foldl_cons, List.foldl_cons, List.foldl_nil, kept, noted]

end

end Traffic

end CallReplay
