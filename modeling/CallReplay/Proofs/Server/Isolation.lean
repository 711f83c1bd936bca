import CallReplay.Proofs.Http.PostedRecords
import CallReplay.Proofs.Server.Traffic

/-!
# Posts do not disturb each other

However the steps of posts come one after another, each post that is numbered has an index of its
own, and what it is answered is found from then on, until the end. The sessions may be closed
meanwhile. It is assumed that no session is opened twice, that no session gets more posts than there
are indexes, and that the ids of different calls differ.
-/

namespace CallReplay

open Http

namespace Traffic

/-- A server at which nothing has happened yet. -/
def start (s : Server) : Traffic := ⟨s, []⟩

/-- No session is opened twice, and every post to a session can have an index of its own. -/
structure Orderly (events : List Event) : Prop where
  fresh : (events.filterMap Event.opened?).Nodup
  few : ∀ id, events.countP (fun e => e.posts id) < 2 ^ 32

/-- The ids of samplers tell apart the calls that have been numbered. -/
def TellsApart (t : Traffic) : Prop :=
  ∀ h ∈ t.handlings, ∀ h' ∈ t.handlings, ∀ r r', h.numbered = some r → h'.numbered = some r' →
    ArtifactId.ofRecord r = .ofRecord r' →
      r.scope = r'.scope ∧ r.target = r'.target ∧ r.signature.full = r'.signature.full ∧
      r.index = r'.index

end Traffic

/-- A post that goes on keeps its number, and its answer once it has one. -/
structure Handling.Continues (h h' : Handling) : Prop where
  post : h'.post = h.post
  numbered : ∀ r, h.numbered = some r → h'.numbered = some r
  answered : ∀ answer, h.progress = .answered answer → h' = h

/-- A handling continues itself. -/
lemma Handling.Continues.refl (h : Handling) : h.Continues h :=
  ⟨rfl, fun _ hr => hr, fun _ _ => rfl⟩

/-- A handling continues what an earlier one of it continues. -/
lemma Handling.Continues.trans {h h' h'' : Handling} (first : h.Continues h')
    (next : h'.Continues h'') :
    h.Continues h'' where
  post := next.post.trans first.post
  numbered := fun r hr => next.numbered r (first.numbered r hr)
  answered := by
    intro answer hanswer
    have same := first.answered answer hanswer
    exact (next.answered answer (same ▸ hanswer)).trans same

/-- One step continues a handling. -/
lemma Handling.Sound.continues {h : Handling} (sound : h.Sound) (s : Server) :
    h.Continues (s.handle h).2 where
  post := rfl
  numbered := by
    intro r hr
    obtain ⟨moves, _⟩ := sound.handle s
    generalize (s.handle h).1 = s' at moves
    generalize (s.handle h).2 = h' at moves
    cases moves with
    | quiet _ numbered => rw [numbered, hr]
    | numbers => cases hr
    | keeps => exact hr
    | notes => exact hr
  answered := by
    intro answer hanswer
    obtain ⟨p, progress, numbered⟩ := h
    cases hanswer
    rfl

namespace Traffic

section

variable {s : Server} {t : Traffic} {events later : List Event} {e : Event} {i j : Nat}
  {h h' : Handling} {r r' : CallRecord} {id : SessionId}

/-- The events up to some time are orderly if all of them are. -/
lemma Orderly.before (orderly : Orderly (events ++ later)) : Orderly events where
  fresh := by
    have fresh := orderly.fresh
    rw [List.filterMap_append] at fresh
    exact fresh.of_append_left
  few := by
    intro id
    have few := orderly.few id
    rw [List.countP_append] at few
    exact Nat.lt_of_le_of_lt (Nat.le_add_right _ _) few

/-- A session is not opened under an id that was used before. -/
lemma Orderly.notOpened (orderly : Orderly (events ++ [e])) (id : SessionId)
    (hid : e.opened? = some id) :
    id ∉ events.filterMap Event.opened? := by
  have fresh := orderly.fresh
  rw [List.filterMap_append, List.filterMap_cons_some hid] at fresh
  exact fun hmem => (List.nodup_append.mp fresh).2.2 id hmem id List.mem_cons_self rfl

/-- Events are carried out one after another. -/
lemma after_append (t : Traffic) (events later : List Event) :
    t.after (events ++ later) = (t.after events).after later :=
  List.foldl_append

/-- The last event comes after all others. -/
lemma after_concat (t : Traffic) (events : List Event) (e : Event) :
    t.after (events ++ [e]) = (t.after events).next e :=
  List.foldl_concat ..

/-- The traffic at a server without sessions is consistent after any events. -/
theorem consistent_after (hempty : s.registry = .empty) (orderly : Orderly events) :
    ((start s).after events).Consistent (events.filterMap Event.opened?) := by
  induction events using List.reverseRecOn with
  | nil =>
    refine ⟨List.forall_mem_nil _, List.forall_mem_nil _, fun session hmem => ?_, fun id => .refl _⟩
    change session ∈ s.registry.sessions at hmem
    rw [hempty] at hmem
    cases hmem
  | append_singleton events e ih =>
    have last : [e].filterMap Event.opened? = e.opened?.toList := by
      cases h : e.opened? <;> simp [h]
    rw [after_concat, List.filterMap_append, last]
    exact (ih orderly.before).next orderly.notOpened

/-- A post to a session comes in with each event that posts to it. -/
lemma length_next (t : Traffic) (e : Event) (id : SessionId) :
    ((t.next e).collect id fun _ => some ()).length =
    (t.collect id fun _ => some ()).length + if e.posts id then 1 else 0 := by
  cases e with
  | step i =>
    rw [next]
    cases found : t.handlings[i]? with
    | none => rfl
    | some h =>
      have same :
        (t.put i (t.server.handle h).1 (t.server.handle h).2).collect id (fun _ => some ()) =
          t.collect id fun _ => some () :=
        collect_put found rfl rfl
      exact congrArg List.length same
  | request x =>
    rw [next]
    cases hchange : x.request.change with
    | posts p =>
      dsimp only
      rw [Event.posts, post?_of_posts hchange, collect, arrive, List.filterMap_append,
        List.length_append]
      by_cases same : p.session = id
      · simp [same, collect]
      · simp [same, collect]
    | nothing | opens target | closes other =>
      rw [Event.posts, Exchange.post?, hchange]
      rfl

/-- As many handlings of a session have begun as posts to it have arrived. -/
lemma length_arrivals (s : Server) (events : List Event) (id : SessionId) :
    (((start s).after events).collect id fun _ => some ()).length =
    events.countP fun e => e.posts id := by
  induction events using List.reverseRecOn with
  | nil => rfl
  | append_singleton events e ih =>
    rw [after_concat, length_next, ih, List.countP_append, List.countP_singleton]

/-- No more indexes are given out than handlings have begun. -/
lemma length_indexes_le (t : Traffic) (id : SessionId) :
    (t.indexes id).length ≤ (t.collect id fun _ => some ()).length := by
  rw [indexes, collect, collect, List.length_filterMap_eq_countP, List.length_filterMap_eq_countP]
  refine List.countP_mono_left fun h _ hsome => ?_
  by_cases same : h.post.session = id
  · simp [same]
  · simp [same] at hsome

section

variable (hempty : s.registry = .empty) (orderly : Orderly events)

include orderly

/-- Fewer indexes are given out than 32 bits have. -/
lemma length_indexes_lt (id : SessionId) :
    (((start s).after events).indexes id).length < 2 ^ 32 := by
  refine Nat.lt_of_le_of_lt (length_indexes_le _ id) ?_
  rw [length_arrivals]
  exact orderly.few id

include hempty

/-- No index of a session is given out twice. -/
lemma nodup_indexes (id : SessionId) : (((start s).after events).indexes id).Nodup := by
  have gapless := (consistent_after hempty orderly).gapless id
  rw [gapless.nodup_iff]
  refine List.Nodup.map_on (fun a ha b hb same => ?_) List.nodup_range
  have few : (((start s).after events).indexes id).length < 2 ^ 32 := length_indexes_lt orderly id
  rw [List.mem_range] at ha hb
  have toNat := congrArg UInt32.toNat same
  rwa [UInt32.toNat_ofNat_of_lt' (ha.trans few), UInt32.toNat_ofNat_of_lt' (hb.trans few)] at toNat

/-- The indexes of a session are the numbers from zero on. -/
lemma lt_length_indexes_iff (id : SessionId) (k : Nat) :
    k < (((start s).after events).indexes id).length ↔
    ∃ index ∈ ((start s).after events).indexes id, index.toNat = k := by
  have few : (((start s).after events).indexes id).length < 2 ^ 32 := length_indexes_lt orderly id
  have gapless := (consistent_after hempty orderly).gapless id
  constructor
  · intro hk
    refine ⟨UInt32.ofNat k, gapless.mem_iff.mpr (List.mem_map_of_mem (List.mem_range.mpr hk)), ?_⟩
    exact UInt32.toNat_ofNat_of_lt' (hk.trans few)
  · rintro ⟨index, hindex, rfl⟩
    obtain ⟨k, hk, rfl⟩ := List.mem_map.mp (gapless.mem_iff.mp hindex)
    rw [List.mem_range] at hk
    rwa [UInt32.toNat_ofNat_of_lt' (hk.trans few)]

/-- Two posts to a session with the same index are one. -/
lemma eq_of_index (hi : ((start s).after events).handlings[i]? = some h)
    (hj : ((start s).after events).handlings[j]? = some h')
    (session : h'.post.session = h.post.session) (hr : h.numbered = some r)
    (hr' : h'.numbered = some r') (index : r'.index = r.index) : i = j := by
  refine eq_of_nodup_filterMap (nodup_indexes hempty orderly h.post.session) hi hj (b := r.index) ?_
    ?_
  · rw [if_pos rfl]
    exact congrArg (Option.map CallRecord.index) hr
  · rw [if_pos session, ← index]
    exact congrArg (Option.map CallRecord.index) hr'

end

/-- After an event a handling stands where it stood and continues what it was. -/
lemma continues_next {opened : List SessionId} (hc : t.Consistent opened) (e : Event)
    (found : t.handlings[i]? = some h) : ∃ h', (t.next e).handlings[i]? = some h' ∧
    h.Continues h' := by
  cases e with
  | step k =>
    rw [next]
    cases hk : t.handlings[k]? with
    | none => exact ⟨h, found, .refl h⟩
    | some g =>
      by_cases same : k = i
      · subst same
        cases hk.symm.trans found
        have sound := hc.sound h (List.mem_of_getElem? found)
        have inside : k < t.handlings.length := (List.getElem?_eq_some_iff.mp found).1
        exact ⟨_, List.getElem?_set_self inside, sound.continues t.server⟩
      · exact ⟨h, (List.getElem?_set_ne same).trans found, .refl h⟩
  | request x =>
    rw [next]
    cases x.request.change with
    | posts p =>
      have inside : i < t.handlings.length := (List.getElem?_eq_some_iff.mp found).1
      exact ⟨h, (List.getElem?_append_left inside).trans found, .refl h⟩
    | nothing | opens target | closes other => exact ⟨h, found, .refl h⟩

section

variable (hempty : s.registry = .empty)

include hempty

/-- Events carry every post on. -/
theorem continues_after (orderly : Orderly (events ++ later))
    (found : ((start s).after events).handlings[i]? = some h) :
    ∃ h', ((start s).after (events ++ later)).handlings[i]? = some h' ∧ h.Continues h' := by
  induction later using List.reverseRecOn with
  | nil =>
    rw [List.append_nil]
    exact ⟨h, found, .refl h⟩
  | append_singleton later e ih =>
    rw [← List.append_assoc] at orderly ⊢
    obtain ⟨h', found', first⟩ := ih orderly.before
    obtain ⟨h'', found'', next⟩ := continues_next (consistent_after hempty orderly.before) e found'
    rw [after_concat]
    exact ⟨h'', found'', first.trans next⟩

/-- If ids tell calls apart in the end, they have done so all along. -/
lemma TellsApart.before (orderly : Orderly (events ++ later))
    (apart : ((start s).after (events ++ later)).TellsApart) :
    ((start s).after events).TellsApart := by
  intro h hh h' hh' r r' hr hr'
  obtain ⟨i, hi⟩ := List.mem_iff_getElem?.mp hh
  obtain ⟨j, hj⟩ := List.mem_iff_getElem?.mp hh'
  obtain ⟨k, hk, continues⟩ := continues_after hempty orderly hi
  obtain ⟨k', hk', continues'⟩ := continues_after hempty orderly hj
  exact apart k (List.mem_of_getElem? hk) k' (List.mem_of_getElem? hk') r r'
    (continues.numbered r hr)
      (continues'.numbered r' hr')

end

end

end Traffic

/-- A numbered record has the session as its scope and the key of the method that was posted. -/
lemma Handling.Sound.scope {h : Handling} {r : CallRecord} (sound : h.Sound)
    (hr : h.numbered = some r) :
    ∃ unpacked, CallRecord.unpack h.post.body = .ok unpacked ∧ r.scope = h.post.session.text ∧
      r.signature = unpacked.signature := by
  have placed : h.post.Places r := by
    cases sound with
    | received | admitted | decoded | refused => cases hr
    | numbered placed | kept placed | recorded placed | failed placed =>
      cases hr
      exact placed
  obtain ⟨unpacked, session, hunpacked, hid, rfl⟩ := placed
  exact ⟨unpacked, hunpacked, congrArg SessionId.text hid, rfl⟩

/-- The sampler of a handling has the id of its record. -/
lemma Handling.Sound.made {h : Handling} {r : CallRecord} {a : Artifacts} (sound : h.Sound)
    (hr : h.numbered = some r) (ha : h.artifacts? = some a) : a.sampler.id = .ofRecord r := by
  cases sound with
  | kept placed made | recorded placed made =>
    cases hr
    cases ha
    exact made
  | received | admitted | decoded | numbered | refused | failed => cases ha

/-- A post is answered with the artifacts and the index of its record. -/
lemma Handling.Sound.of_answer {h : Handling} {answer : Recorded} (sound : h.Sound)
    (hanswer : h.answer? = some answer) :
    ∃ r, h.numbered = some r ∧ answer.artifacts.sampler.id = .ofRecord r ∧
    answer.index = r.index := by
  cases sound with
  | @recorded p r a placed made =>
    cases hanswer
    exact ⟨r, rfl, made, rfl⟩
  | received | admitted | decoded | numbered | kept | refused | failed => cases hanswer

namespace Traffic

/-- What has been made of the posts is found under the ids of the samplers. -/
def Shows (t : Traffic) : Prop :=
  ∀ h ∈ t.handlings, ∀ r a, h.numbered = some r → h.artifacts? = some a →
    t.server.database.get a.sampler.id = .ok ⟨r.index, r.signature.full, a.sampler, a.postProcessor⟩

section

variable {s : Server} {t : Traffic} {events later : List Event} {e : Event} {i j : Nat}
  {h h' : Handling} {r r' : CallRecord} {id : SessionId}

/-- What is kept of one post leaves what is kept of the others. -/
lemma shows_move (hempty : s.registry = .empty) (orderly : Orderly events)
    (apart : ((start s).after events).TellsApart) (shows : ((start s).after events).Shows)
    (found : ((start s).after events).handlings[i]? = some h) :
    (((start s).after events).put i (((start s).after events).server.handle h).1
      (((start s).after events).server.handle h).2).Shows := by
  have hc := consistent_after hempty orderly
  have hmem := List.mem_of_getElem? found
  obtain ⟨moves, _⟩ := (hc.sound h hmem).handle ((start s).after events).server
  generalize (((start s).after events).server.handle h).1 = s' at moves
  generalize (((start s).after events).server.handle h).2 = h' at moves
  intro k hk r' a' hr' ha'
  cases moves with
  | quiet post numbered artifacts =>
    rcases List.mem_or_eq_of_mem_set hk with hk | rfl
    · exact shows k hk r' a' hr' ha'
    · exact shows h hmem r' a' (numbered ▸ hr') (artifacts ▸ ha')
  | numbers =>
    rcases List.mem_or_eq_of_mem_set hk with hk | rfl
    · exact shows k hk r' a' hr' ha'
    · cases ha'
  | notes =>
    rcases List.mem_or_eq_of_mem_set hk with hk | rfl
    · exact shows k hk r' a' hr' ha'
    · cases hr'
      cases ha'
      exact shows _ hmem _ _ rfl rfl
  | @keeps p r a row placed made sampler index signature runsAfter =>
    have rows : ∀ q, a.postProcessor = some q → q.runsAfter = row.sampler.id := by
      rw [sampler]
      exact runsAfter
    rcases List.mem_or_eq_of_mem_set hk with hk | rfl
    · obtain ⟨j, hj⟩ := List.mem_iff_getElem?.mp hk
      have sound := hc.sound k hk
      -- The other call has another id, since it is another call.
      have differs : a'.sampler.id ≠ row.sampler.id := by
        intro same
        rw [sampler, made, sound.made hr' ha'] at same
        obtain ⟨scope, _, _, sameIndex⟩ := apart k hk _ hmem r' r hr' rfl same
        obtain ⟨_, _, hscope, _⟩ := sound.scope hr'
        obtain ⟨_, _, hscope', _⟩ := (hc.sound _ hmem).scope rfl
        have session := SessionId.text_injective (hscope.symm.trans (scope.trans hscope'))
        cases eq_of_index hempty orderly found hj session rfl hr' sameIndex
        cases found.symm.trans hj
        cases ha'
      exact (Database.get_replace_of_ne rows differs).trans (shows k hk r' a' hr' ha')
    · cases hr'
      cases ha'
      rw [← index, ← signature, ← sampler]
      exact Database.get_replace_self rows

/-- What was made of a post is found from then on. -/
theorem shows_after (hempty : s.registry = .empty) (orderly : Orderly events)
    (apart : ((start s).after events).TellsApart) : ((start s).after events).Shows := by
  induction events using List.reverseRecOn with
  | nil => exact List.forall_mem_nil _
  | append_singleton events e ih =>
    have apartBefore := apart.before hempty orderly
    have shows := ih orderly.before apartBefore
    rw [after_concat]
    cases e with
    | step i =>
      rw [next]
      cases found : ((start s).after events).handlings[i]? with
      | none => exact shows
      | some h => exact shows_move hempty orderly.before apartBefore shows found
    | request x =>
      rw [next]
      cases hchange : x.request.change with
      | posts p =>
        intro h hh r a hr ha
        rcases List.mem_append.mp hh with hh | hh
        · exact shows h hh r a hr ha
        · cases List.mem_singleton.mp hh
          cases hr
      | nothing | opens target | closes id =>
        rw [respond_fst, hchange]
        exact shows

/-- The samplers that are answered in a session differ, since their indexes do. -/
lemma nodup_samplers (hempty : s.registry = .empty) (orderly : Orderly events)
    (apart : ((start s).after events).TellsApart) (id : SessionId) :
    (((start s).after events).samplers id).Nodup := by
  have hc := consistent_after hempty orderly
  have indexes := nodup_indexes hempty orderly id
  rw [List.Nodup, Traffic.indexes, collect, List.pairwise_filterMap] at indexes
  rw [List.Nodup, samplers, collect, List.pairwise_filterMap]
  refine indexes.imp_of_mem fun {h h'} hh hh' differ a ha a' ha' same => ?_
  split at ha
  next session =>
    split at ha'
    next session' =>
      obtain ⟨answer, hanswer, rfl⟩ := Option.map_eq_some_iff.mp ha
      obtain ⟨answer', hanswer', rfl⟩ := Option.map_eq_some_iff.mp ha'
      obtain ⟨r, hr, made, _⟩ := (hc.sound h hh).of_answer hanswer
      obtain ⟨r', hr', made', _⟩ := (hc.sound h' hh').of_answer hanswer'
      rw [made, made'] at same
      refine differ r.index ?_ r'.index ?_ (apart h hh h' hh' r r' hr hr' same).2.2.2
      · rw [if_pos session, hr, Option.map_some]
      · rw [if_pos session', hr', Option.map_some]
    next => cases ha'
  next => cases ha

/-- What the server owes to posts that it handles at the same time. -/
structure Isolated (s : Server) (events : List Event) : Prop where
  /-- No two posts take the same index of a session. -/
  indexOnce : ∀ (i j : Nat) (h h' : Handling) (r r' : CallRecord),
      ((start s).after events).handlings[i]? = some h →
    ((start s).after events).handlings[j]? = some h' → h'.post.session = h.post.session →
    h.numbered = some r →
    h'.numbered = some r' → r'.index = r.index → i = j
  /-- The indexes that are taken in a session are the numbers from zero on. -/
  gapless : ∀ id k, k < (((start s).after events).indexes id).length ↔
    ∃ index ∈ ((start s).after events).indexes id, index.toNat = k
  /-- What a post was answered at any time is shown from then on. -/
  kept : ∀ before later, events = before ++ later →
      ∀ h ∈ ((start s).after before).handlings, ∀ answer,
    h.progress = .answered (.ok answer) → ∃ r, CallRecord.unpack h.post.body = .ok r ∧ ∀ fresh,
      respond ((start s).after events).server fresh (.artifact answer.artifacts.sampler.id) =
        (((start s).after events).server, .json (Json.ofStoredArtifact
          ⟨answer.index, r.signature.full, answer.artifacts.sampler,
          answer.artifacts.postProcessor⟩))
  /-- An open session lists the sampler of each post that was answered in it, once. -/
  listed : ∀ id session, ((start s).after events).server.registry.find? id = some session →
    session.artifacts.Nodup ∧ session.artifacts.Perm (((start s).after events).samplers id)

/-- Posts to the sessions of a server that is started on any database do not disturb each other. -/
theorem isolated_after (hempty : s.registry = .empty) (orderly : Orderly events)
    (apart : ((start s).after events).TellsApart) : Isolated s events where
  indexOnce := fun _ _ _ _ _ _ hi hj session hr hr' index => eq_of_index hempty orderly hi hj
      session hr hr' index
  gapless := lt_length_indexes_iff hempty orderly
  kept := by
    rintro before later rfl h hh answer hanswer
    obtain ⟨i, hi⟩ := List.mem_iff_getElem?.mp hh
    obtain ⟨h', hi', continues⟩ := continues_after hempty orderly hi
    obtain rfl := continues.answered _ hanswer
    have hmem := List.mem_of_getElem? hi'
    have sound := (consistent_after hempty orderly).sound h' hmem
    have recorded : h'.answer? = some answer := by rw [Handling.answer?, hanswer]
    obtain ⟨r, hr, made, hindex⟩ := sound.of_answer recorded
    have artifacts : h'.artifacts? = some answer.artifacts := by rw [Handling.artifacts?, hanswer]
    obtain ⟨unpacked, hunpacked, _, signature⟩ := sound.scope hr
    refine ⟨unpacked, hunpacked, fun fresh => ?_⟩
    have shown := shows_after hempty orderly apart h' hmem r _ hr artifacts
    have plain : ∀ c ∈ answer.artifacts.sampler.id.text.toList, c ∈ Text.idChars := by
      rw [made]
      exact fun c => ArtifactId.mem_idChars_of_ofHash
    have nonempty : answer.artifacts.sampler.id.text.toList ≠ [] := by
      rw [made]
      exact ArtifactId.text_ofRecord_ne_nil r
    rw [respond_artifact _ _ nonempty plain, Server.artifact, shown, hindex, signature]
    rfl
  listed := by
    intro id session hfind
    have agrees := (consistent_after hempty orderly).agrees hfind
    have artifacts := agrees.artifacts
    rw [SessionRegistry.id_of_find? hfind] at artifacts
    exact ⟨artifacts.nodup_iff.mpr (nodup_samplers hempty orderly apart id), artifacts⟩

end

/-- The post of a call without arguments. -/
def countedBody : Post := ⟨⟨0⟩, none, countedFrame⟩

/-- The call as it is numbered in the session. -/
def counted (index : UInt32) : CallRecord :=
  Server.place ⟨⟨0⟩, "t", index, []⟩ CallRecord.countedCall

/-- What is made for a call of `count` with an index. -/
def countedArtifacts (index : UInt32) : Artifacts :=
  ⟨⟨.ofRecord (counted index), Recorder.samplerName {} (counted index), "t", "count",
    ArgumentsScript.empty.render ", "⟩, none⟩

/-- A post of such a call that has taken its index. -/
def numberedCount (index : UInt32) : Handling :=
  ⟨countedBody, .numbered (counted index), some (counted index)⟩

/-- A post of such a call that has been answered. -/
def recordedCount (index : UInt32) : Handling :=
  ⟨countedBody, .answered (.ok ⟨⟨0⟩, index, countedArtifacts index⟩), some (counted index)⟩

/-- The first session after it has given out two indexes. -/
def twiceNumbered : SessionRegistry :=
  ((SessionRegistry.empty.start ⟨0⟩ "t").advance ⟨0⟩).advance ⟨0⟩

/-- Artifacts are made for such a call. -/
lemma artifacts_counted (index : UInt32) :
    Recorder.artifacts {} (counted index) = .ok (countedArtifacts index) := by
  rw [Recorder.artifacts_eq, Recorder.argumentsText, Recorder.argumentsScript_of_nil rfl]
  rfl

/-- Such a call is recorded whatever is in the database. -/
lemma record_counted (registry : SessionRegistry) (db : Database) (index : UInt32) :
    ∃ db', (Server.mk {} registry db).record ⟨⟨0⟩, none, countedFrame⟩ (counted index) =
      .ok (⟨{}, registry, db'⟩, countedArtifacts index) := by
  obtain ⟨packed, hpacked⟩ := CallRecord.pack_of_unpack unpack_countedFrame
  have hpack : (counted index).pack = .ok packed := hpacked
  have admitted : ∀ q, (countedArtifacts index).postProcessor = some q →
      db.Admits (countedArtifacts index).sampler.id q := by
    intro q hq
    cases hq
  have delivered : db.deliver (countedArtifacts index) (counted index) = .ok _ :=
    Database.deliver_eq_ok_iff.mpr
      ⟨_, Database.packed_eq_ok_iff.mpr (.inr ⟨packed, hpack, rfl⟩), admitted, rfl⟩
  exact ⟨_, Server.record_eq_ok_iff.mpr
    ⟨counted index, _, rfl, artifacts_counted index, delivered, rfl⟩⟩

/-- Three steps take a post of such a call to its index. -/
lemma after_numbering_counted {registry : SessionRegistry} {db : Database}
    {handlings : List Handling} {i : Nat} {index : UInt32}
    (found : handlings[i]? = some ⟨countedBody, .received, none⟩)
    (opened : registry.find? ⟨0⟩ = some ⟨⟨0⟩, "t", index, []⟩) :
    Traffic.after ⟨⟨{}, registry, db⟩, handlings⟩ (Event.numbering i) =
      ⟨⟨{}, registry.advance ⟨0⟩, db⟩, handlings.set i (numberedCount index)⟩ :=
  after_numbering (t := ⟨⟨{}, registry, db⟩, handlings⟩) found opened unpack_countedFrame

/-- Two more steps take it to its answer. -/
lemma after_recording_counted (registry : SessionRegistry) (db : Database)
    (handlings : List Handling) (i : Nat) (index : UInt32)
    (found : handlings[i]? = some (numberedCount index)) :
    ∃ db', Traffic.after ⟨⟨{}, registry, db⟩, handlings⟩ (Event.recording i) =
      ⟨⟨{}, registry.note ⟨0⟩ (.ofRecord (counted index)), db'⟩,
      handlings.set i (recordedCount index)⟩ := by
  obtain ⟨db', recorded⟩ := record_counted registry db index
  exact ⟨db', after_recording (t := ⟨⟨{}, registry, db⟩, handlings⟩) found recorded⟩

/-- A session is opened, and two posts arrive. -/
def arrivals : List Event := [.request opening, .request countedPost, .request countedPost]

/-- Both posts have arrived, and nothing else has been done. -/
lemma after_arrivals : (start (.start {})).after arrivals =
    ⟨⟨{}, SessionRegistry.empty.start ⟨0⟩ "t", .empty⟩,
      [⟨countedBody, .received, none⟩, ⟨countedBody, .received, none⟩]⟩ := by
  rw [arrivals, after]
  simp only [List.foldl_cons, List.foldl_nil, next, change_countedPost, change_opening, respond_fst]
  rfl

/-- The session that was opened has given out no index. -/
lemma find?_first : (SessionRegistry.empty.start ⟨0⟩ "t").find? ⟨0⟩ = some ⟨⟨0⟩, "t", 0, []⟩ := by
  simp

/-- Both calls are numbered and then the second is recorded before the first. -/
def crossing : List Event :=
  arrivals ++ Event.numbering 0 ++ Event.numbering 1 ++ Event.recording 1 ++ Event.recording 0

/-- The sampler with the second index is listed first. -/
lemma after_crossing : ∃ db, (start (.start {})).after crossing =
    ⟨⟨{}, (twiceNumbered.note ⟨0⟩ (.ofRecord (counted 1))).note ⟨0⟩ (.ofRecord (counted 0)), db⟩,
      [recordedCount 0, recordedCount 1]⟩ := by
  have next : ((SessionRegistry.empty.start ⟨0⟩ "t").advance ⟨0⟩).find? ⟨0⟩ =
    some ⟨⟨0⟩, "t", 1, []⟩ := by simp
  have numbered : (start (.start {})).after (arrivals ++ Event.numbering 0 ++ Event.numbering 1) =
      ⟨⟨{}, twiceNumbered, .empty⟩, [numberedCount 0, numberedCount 1]⟩ := by
    rw [after_append, after_append, after_arrivals, after_numbering_counted rfl find?_first]
    exact after_numbering_counted rfl next
  obtain ⟨db, second⟩ :=
    after_recording_counted twiceNumbered .empty [numberedCount 0, numberedCount 1] 1 1 rfl
  rw [crossing, after_append, after_append, numbered, second]
  exact after_recording_counted _ db [numberedCount 0, recordedCount 1] 0 0 rfl

/-- The events are orderly. -/
lemma orderly_crossing : Orderly crossing where
  fresh := by
    have first : (Event.request opening).opened? = some ⟨0⟩ := by
      rw [Event.opened?, change_opening]
      rfl
    have post : (Event.request countedPost).opened? = none := by
      rw [Event.opened?, change_countedPost]
    have step (i : Nat) : (Event.step i).opened? = none := rfl
    have opened : crossing.filterMap Event.opened? = [⟨0⟩] := by
      simp [crossing, arrivals, Event.numbering, Event.recording, first, post, step]
    rw [opened]
    exact List.nodup_singleton _
  few := fun id => Nat.lt_of_le_of_lt List.countP_le_length (by decide)

/-- The two calls have different ids. -/
lemma ofRecord_counted_ne : ArtifactId.ofRecord (counted 1) ≠ .ofRecord (counted 0) := by
  decide +kernel

/-- Two posts to one session are recorded in the other order than they were numbered, and both are
kept and listed. -/
theorem isolated_crossing : (Server.start {}).registry = .empty ∧ Orderly crossing ∧
    ((start (.start {})).after crossing).TellsApart ∧ Isolated (.start {}) crossing := by
  have apart : ((start (.start {})).after crossing).TellsApart := by
    obtain ⟨db, hafter⟩ := after_crossing
    rw [hafter]
    intro h hh h' hh' r r' hr hr' same
    simp only [List.mem_cons, List.not_mem_nil, or_false] at hh hh'
    rcases hh with rfl | rfl <;> rcases hh' with rfl | rfl <;> cases hr <;> cases hr'
    · exact ⟨rfl, rfl, rfl, rfl⟩
    · exact absurd same.symm ofRecord_counted_ne
    · exact absurd same ofRecord_counted_ne
    · exact ⟨rfl, rfl, rfl, rfl⟩
  exact ⟨rfl, orderly_crossing, apart, isolated_after rfl orderly_crossing apart⟩

end Traffic

end CallReplay
