import CallReplay.Proofs.Server.Isolation

/-!
# The order of a history

An open session lists the samplers of its posts in the order in which they are recorded. A post
takes its index before, so the history is in call order up to records that were underway at the same
time. Such records can stand in the other order, and then the session does not show the calls as
they were numbered.
-/

namespace CallReplay

open Http

namespace Traffic

/-- The records of a session that have an index and are still to be answered. -/
def underway (t : Traffic) (id : SessionId) : List CallRecord :=
  t.collect id fun h => h.progress.record?

/-- The answers with artifacts that posts to a session have got. -/
def answers (t : Traffic) (id : SessionId) : List Recorded := t.collect id Handling.answer?

/-- If a session is open, it lists the samplers of its answers, and any two of them in an order. -/
def Lists (t : Traffic) (id : SessionId) (order : Recorded → Recorded → Prop) : Prop :=
  ∀ session, t.server.registry.find? id = some session →
  ∃ history : List Recorded, history.Perm (t.answers id) ∧
    session.artifacts = history.map (fun answer => answer.artifacts.sampler.id) ∧
    history.Pairwise order

/-- If a session is open, it lists the samplers of its answers by increasing index. -/
def InCallOrder (t : Traffic) (id : SessionId) : Prop :=
  t.Lists id fun earlier later => earlier.index < later.index

/-- Two records of a session have been underway at the same time. -/
def Met (s : Server) (events : List Event) (id : SessionId) (answer other : Recorded) : Prop :=
  ∃ before later, events = before ++ later ∧
    [answer.index, other.index].Subperm
      ((((start s).after before).underway id).map CallRecord.index)

/-- An answer comes before another in a history. -/
def Precedes (s : Server) (events : List Event) (id : SessionId) (earlier later : Recorded) :
    Prop :=
  earlier.index < later.index ∨ Met s events id earlier later

section

variable {s s' : Server} {t t' : Traffic} {events later : List Event} {opened : List SessionId}
  {id : SessionId} {i : Nat} {h h' : Handling} {α : Type} {f : Handling → Option α} {b : α}
  {r : CallRecord} {order order' : Recorded → Recorded → Prop} {answer other : Recorded}

/-- What is collected for a session is what one of its handlings has. -/
lemma mem_collect : b ∈ t.collect id f ↔ ∃ h ∈ t.handlings, h.post.session = id ∧ f h = some b := by
  rw [collect, List.mem_filterMap]
  refine exists_congr fun h => and_congr_right fun _ => ?_
  split
  next same => simp [same]
  next other => simp [other]

/-- What a post no longer has is not collected any more. -/
lemma collect_put_subset (post : h'.post = h.post) (gone : f h' = none) :
    (t.put i s' h').collect id f ⊆ t.collect id f := by
  intro b hb
  obtain ⟨k, hk, session, hbk⟩ := mem_collect.mp hb
  rcases List.mem_or_eq_of_mem_set hk with hk | rfl
  · exact mem_collect.mpr ⟨k, hk, session, hbk⟩
  · cases gone.symm.trans hbk

/-- If a handling loses what is collected, one is left of the others. -/
lemma collect_put_old (found : t.handlings[i]? = some h) (post : h'.post = h.post)
    (old : f h = some b) (gone : f h' = none) :
    (t.collect h.post.session f).Perm (b :: (t.put i s' h').collect h.post.session f) := by
  have back : (((t.put i s' h').put i t.server h).collect h'.post.session f).Perm
      (b :: (t.put i s' h').collect h'.post.session f) :=
    collect_put_new (getElem?_put found s' h') post.symm gone old
  rwa [put_put, collect_put found rfl rfl, post] at back

/-- An answer has an index that was given out before the next one. -/
lemma index_lt_of_mem_answers (hc : t.Consistent opened) (few : (t.indexes id).length < 2 ^ 32)
    (hmem : answer ∈ t.answers id) : answer.index < UInt32.ofNat (t.indexes id).length := by
  obtain ⟨h, hh, session, hanswer⟩ := mem_collect.mp hmem
  obtain ⟨r, hr, _, hindex⟩ := (hc.sound h hh).of_answer hanswer
  have given : answer.index ∈ t.indexes id :=
    mem_collect.mpr ⟨h, hh, session, by rw [hr, hindex, Option.map_some]⟩
  obtain ⟨k, hk, same⟩ := List.mem_map.mp ((hc.gapless id).mem_iff.mp given)
  rw [List.mem_range] at hk
  rw [← same, UInt32.lt_iff_toNat_lt, UInt32.toNat_ofNat_of_lt' (hk.trans few),
    UInt32.toNat_ofNat_of_lt' few]
  exact hk

/-- A session that lists its samplers in an order lists them in any weaker one. -/
lemma Lists.mono (lists : t.Lists id order)
    (weaker : ∀ answer other, order answer other → order' answer other) :
    t.Lists id order' := by
  intro session hsession
  obtain ⟨history, perm, artifacts, sorted⟩ := lists session hsession
  exact ⟨history, perm, artifacts, sorted.imp fun {answer other} => weaker answer other⟩

/-- The history is in an order, in which a record that is underway would come after every answer. -/
structure Ordered (t : Traffic) (id : SessionId) (order : Recorded → Recorded → Prop) : Prop where
  listed : t.Lists id order
  last : ∀ r ∈ t.underway id, ∀ answer ∈ t.answers id, ∀ other : Recorded, other.index = r.index →
      order answer other

namespace Ordered

/-- What is ordered is ordered in any weaker way. -/
lemma mono (ordered : t.Ordered id order)
    (weaker : ∀ answer other, order answer other → order' answer other) :
    t.Ordered id order' where
  listed := ordered.listed.mono weaker
  last := fun r hr answer hanswer other index => weaker _ _
      (ordered.last r hr answer hanswer other index)

/-- The order stays if nothing is listed, answered or numbered. -/
lemma still (ordered : t.Ordered id order)
    (hfind : t'.server.registry.find? id = t.server.registry.find? id)
    (hanswers : t'.answers id = t.answers id) (hunderway : t'.underway id ⊆ t.underway id) :
    t'.Ordered id order where
  listed := by
    intro session hsession
    rw [hanswers]
    exact ordered.listed session (hfind ▸ hsession)
  last := by
    intro r hr answer hanswer
    rw [hanswers] at hanswer
    exact ordered.last r (hunderway hr) answer hanswer

/-- The order stays if neither the session nor its answers nor what is underway change. -/
lemma congr (ordered : t.Ordered id order)
    (hfind : t'.server.registry.find? id = t.server.registry.find? id)
    (hanswers : t'.answers id = t.answers id) (hunderway : t'.underway id = t.underway id) :
    t'.Ordered id order :=
  ordered.still hfind hanswers (hunderway ▸ List.Subset.refl _)

/-- A record is numbered, and comes after every answer. -/
lemma advance (ordered : t.Ordered id order)
    (hfind : t'.server.registry.find? id =
      (t.server.registry.find? id).map fun session =>
      { session with nextIndex := session.nextIndex + 1 })
    (hanswers : t'.answers id = t.answers id)
    (hunderway : (t'.underway id).Perm (r :: t.underway id))
    (last : ∀ answer ∈ t.answers id, ∀ other : Recorded, other.index = r.index →
    order answer other) :
    t'.Ordered id order where
  listed := by
    intro session' hsession'
    obtain ⟨session, hsession, rfl⟩ := Option.map_eq_some_iff.mp (hfind.symm.trans hsession')
    rw [hanswers]
    exact ordered.listed session hsession
  last := by
    intro r' hr' answer hanswer
    rw [hanswers] at hanswer
    rcases List.mem_cons.mp (hunderway.mem_iff.mp hr') with rfl | old
    · exact last answer hanswer
    · exact ordered.last r' old answer hanswer

/-- A record that was underway is answered, before the others that are. -/
lemma note (ordered : t.Ordered id order)
    (hfind : t'.server.registry.find? id = (t.server.registry.find? id).map fun session =>
      { session with artifacts := session.artifacts ++ [answer.artifacts.sampler.id] })
    (hanswers : (t'.answers id).Perm (answer :: t.answers id))
    (hunderway : (t.underway id).Perm (r :: t'.underway id)) (index : answer.index = r.index)
    (first : ∀ r' ∈ t'.underway id, ∀ other : Recorded, other.index = r'.index →
    order answer other) :
    t'.Ordered id order where
  listed := by
    intro session' hsession'
    obtain ⟨session, hsession, rfl⟩ := Option.map_eq_some_iff.mp (hfind.symm.trans hsession')
    obtain ⟨history, perm, artifacts, sorted⟩ := ordered.listed session hsession
    refine ⟨history ++ [answer], ?_, ?_, ?_⟩
    · exact (List.perm_append_singleton _ _).trans ((perm.cons _).trans hanswers.symm)
    · rw [List.map_append, artifacts]
      rfl
    · refine List.pairwise_append.mpr
        ⟨sorted, List.pairwise_singleton _ _, fun earlier hearlier last hlast => ?_⟩
      cases List.mem_singleton.mp hlast
      exact ordered.last r (hunderway.mem_iff.mpr List.mem_cons_self) earlier
        (perm.mem_iff.mp hearlier) _ index
  last := by
    intro r' hr' earlier hearlier other hother
    rcases List.mem_cons.mp (hanswers.mem_iff.mp hearlier) with rfl | hearlier
    · exact first r' hr' other hother
    · exact ordered.last r' (hunderway.mem_iff.mpr (List.mem_cons_of_mem _ hr')) earlier hearlier
        other hother

end Ordered

/-- The records that are underway may be answered in any order. -/
structure Allows (t : Traffic) (id : SessionId) (order : Recorded → Recorded → Prop) : Prop where
  byIndex : ∀ answer other : Recorded, answer.index < other.index → order answer other
  atOnce : ∀ answer other : Recorded, [answer.index, other.index].Subperm
      ((t.underway id).map CallRecord.index) →
    order answer other

/-- A step for a post keeps an order that allows for the records that are underway. -/
theorem Ordered.move (hc : t.Consistent opened) (few : (t.indexes id).length < 2 ^ 32)
    (allows : t.Allows id order) (ordered : t.Ordered id order) (found : t.handlings[i]? = some h) :
    (t.put i (t.server.handle h).1 (t.server.handle h).2).Ordered id order := by
  obtain ⟨moves, _⟩ := (hc.sound h (List.mem_of_getElem? found)).handle t.server
  generalize (t.server.handle h).1 = s' at moves
  generalize (t.server.handle h).2 = h' at moves
  cases moves with
  | quiet post _ _ answer still =>
    exact ordered.still rfl (collect_put found post answer) (collect_put_subset post still)
  | keeps => exact ordered.congr rfl (collect_put found rfl rfl) (collect_put found rfl rfl)
  | @numbers p r session hsession =>
    by_cases same : id = p.session
    · subst same
      refine ordered.advance ?_ (collect_put found rfl rfl) (collect_put_new found rfl rfl rfl) ?_
      · exact (SessionRegistry.find?_advance ..).trans (if_pos rfl)
      · -- The next index is larger than all that were given out.
        intro answer hanswer other index
        refine allows.byIndex answer other ?_
        have next := (hc.agrees hsession).nextIndex
        rw [SessionRegistry.id_of_find? hsession] at next
        rw [index, Server.place, next]
        exact index_lt_of_mem_answers hc few hanswer
    · refine ordered.congr ?_ (collect_put_other found rfl same) (collect_put_other found rfl same)
      exact (SessionRegistry.find?_advance ..).trans (if_neg same)
  | @notes p r a =>
    by_cases same : id = p.session
    · subst same
      have before : (t.underway p.session).Perm (r :: (t.put i (t.server.note p a)
          ⟨p, .answered (.ok ⟨p.session, r.index, a⟩), some r⟩).underway p.session) :=
        collect_put_old found rfl rfl rfl
      refine ordered.note ?_ (collect_put_new found rfl rfl rfl) before rfl ?_
      · exact (SessionRegistry.find?_note ..).trans (if_pos rfl)
      · -- Any other record that is still underway was so at the same time as this one.
        intro r' hr' other index
        refine allows.atOnce _ other ?_
        rw [index]
        have both : [r.index, r'.index].Subperm (r.index :: _) :=
          (List.subperm_cons r.index).mpr (List.singleton_subperm_iff.mpr (List.mem_map_of_mem hr'))
        exact both.trans (before.map CallRecord.index).symm.subperm
    · refine ordered.congr ?_ (collect_put_other found rfl same) (collect_put_other found rfl same)
      exact (SessionRegistry.find?_note ..).trans (if_neg same)

/-- Every event keeps such an order, if no session is opened twice. -/
theorem Ordered.next {e : Event} (hc : t.Consistent opened)
    (hfresh : ∀ fresh, e.opened? = some fresh → fresh ∉ opened)
    (few : (t.indexes id).length < 2 ^ 32) (allows : t.Allows id order)
    (ordered : t.Ordered id order) :
    (t.next e).Ordered id order := by
  cases e with
  | step i =>
    rw [Traffic.next]
    cases found : t.handlings[i]? with
    | none => exact ordered
    | some h => exact ordered.move hc few allows found
  | request x =>
    rw [Traffic.next]
    rw [Event.opened?] at hfresh
    cases hchange : x.request.change with
    | posts p => exact ordered.congr rfl (collect_arrive rfl) (collect_arrive rfl)
    | nothing =>
      rw [respond_fst, hchange]
      exact ordered
    | opens target =>
      rw [respond_fst, hchange]
      rw [hchange] at hfresh
      by_cases same : id = x.fresh
      · -- No post was answered in the session before it was opened.
        have nothing : t.answers id = [] :=
          collect_eq_nil fun h hh hsession => (hc.answer_none (same ▸ hfresh _ rfl) h hh hsession).2
        refine ⟨fun session hsession => ?_, fun r hr answer hanswer => ?_⟩
        · cases ((SessionRegistry.find?_start ..).trans (if_pos same)).symm.trans hsession
          exact ⟨[], .of_eq nothing.symm, rfl, .nil⟩
        · cases nothing ▸ hanswer
      · exact ordered.congr ((SessionRegistry.find?_start ..).trans (if_neg same)) rfl rfl
    | closes closed =>
      rw [respond_fst, hchange]
      by_cases same : id = closed
      · refine ⟨fun session hsession => ?_, ordered.last⟩
        cases ((SessionRegistry.find?_close ..).trans (if_pos same)).symm.trans hsession
      · exact ordered.congr ((SessionRegistry.find?_close ..).trans (if_neg same)) rfl rfl

/-- Posts that were underway at the same time have been so ever since. -/
lemma Met.append (met : Met s events id answer other) (later : List Event) :
    Met s (events ++ later) id answer other := by
  obtain ⟨before, rest, rfl, both⟩ := met
  exact ⟨before, rest ++ later, List.append_assoc .., both⟩

/-- After any events a session lists its samplers in call order, up to those that have met. -/
lemma ordered_after (hempty : s.registry = .empty) (orderly : Orderly events) :
    ((start s).after events).Ordered id (Precedes s events id) := by
  induction events using List.reverseRecOn with
  | nil =>
    refine ⟨fun session hsession => ?_, List.forall_mem_nil _⟩
    change s.registry.find? id = some session at hsession
    rw [hempty] at hsession
    cases hsession
  | append_singleton events e ih =>
    have hc := consistent_after hempty orderly.before
    have few : (((start s).after events).indexes id).length < 2 ^ 32 :=
      length_indexes_lt orderly.before id
    have allows : ((start s).after events).Allows id (Precedes s (events ++ [e]) id) :=
      ⟨fun _ _ => .inl, fun _ _ both => .inr ⟨events, [e], rfl, both⟩⟩
    have ordered := (ih orderly.before).mono fun _ _ =>
      Or.imp_right fun met : Met s events id _ _ => met.append [e]
    rw [after_concat]
    exact ordered.next hc orderly.notOpened few allows

/-- An open session lists what was answered in call order, up to records that were underway at
the same time. -/
theorem history_after (hempty : s.registry = .empty) (orderly : Orderly events) (id : SessionId) :
    ((start s).after events).Lists id (Precedes s events id) :=
  (ordered_after hempty orderly).listed

/-- A history is in call order if no two records of the session were ever underway at
the same time. -/
theorem inCallOrder_after (hempty : s.registry = .empty) (orderly : Orderly events)
    (single : ∀ before later, events = before ++ later →
    (((start s).after before).underway id).length ≤ 1) :
    ((start s).after events).InCallOrder id := by
  refine (ordered_after hempty orderly).listed.mono fun earlier later precedes => ?_
  rcases precedes with smaller | ⟨before, rest, split, both⟩
  · exact smaller
  · have two := both.length_le
    rw [List.length_map] at two
    exact absurd (two.trans (single before rest split)) (Nat.not_succ_le_self 1)

end

/-- The history of two crossing posts, of which both were underway before either was answered. -/
theorem history_crossing : (Server.start {}).registry = .empty ∧ Orderly crossing ∧
    ((start (.start {})).after crossing).Lists ⟨0⟩ (Precedes (.start {}) crossing ⟨0⟩) :=
  ⟨rfl, orderly_crossing, history_after rfl orderly_crossing ⟨0⟩⟩

/-- Of two crossing posts the one with the larger index comes first in the history. -/
theorem crossing_outOfOrder :
    Orderly crossing ∧ ¬((start (.start {})).after crossing).InCallOrder ⟨0⟩ := by
  refine ⟨orderly_crossing, fun inOrder => ?_⟩
  obtain ⟨db, hafter⟩ := after_crossing
  rw [hafter] at inOrder
  have found :
    ((twiceNumbered.note ⟨0⟩ (.ofRecord (counted 1))).note ⟨0⟩ (.ofRecord (counted 0))).find? ⟨0⟩ =
      some ⟨⟨0⟩, "t", 2, [.ofRecord (counted 1), .ofRecord (counted 0)]⟩ := by
    simp [twiceNumbered]
  obtain ⟨history, perm, artifacts, sorted⟩ := inOrder _ found
  -- The history starts with the answer that has the first id, and that is the one with the larger
  -- index.
  have answered : ∀ answer ∈ history,
      answer = ⟨⟨0⟩, 0, countedArtifacts 0⟩ ∨ answer = ⟨⟨0⟩, 1, countedArtifacts 1⟩ := by
    intro answer hanswer
    simpa [answers, collect, recordedCount, countedBody, Handling.answer?] using perm.mem_iff.mp
      hanswer
  obtain ⟨first, rest, rfl, hfirst, hrest⟩ := List.map_eq_cons_iff.mp artifacts.symm
  obtain ⟨second, rest, rfl, hsecond, _⟩ := List.map_eq_cons_iff.mp hrest
  have smaller : first.index < second.index := List.rel_of_pairwise_cons sorted List.mem_cons_self
  rcases answered first List.mem_cons_self with rfl | rfl
  · exact ofRecord_counted_ne hfirst.symm
  · rcases answered second (List.mem_cons_of_mem _ List.mem_cons_self) with rfl | rfl
    · exact absurd smaller (by decide)
    · exact ofRecord_counted_ne hsecond

end Traffic

end CallReplay
