import CallReplay.Server.Post
import CallReplay.Proofs.Pipeline
import CallReplay.Proofs.Repacking
import CallReplay.Proofs.Lifecycle
import CallReplay.Proofs.Server.Registry
import CallReplay.Proofs.Store.LastDelivery

/-!
# What posting a record does

An open session numbers what can be unpacked, and then either keeps and notes the artifacts or, if a
limit on nesting is exceeded, has used up an index for nothing. No other failure is left: a record
that was unpacked can be packed, and nothing but the artifacts of the same call stands in the way of
its post-processor, as long as different ids are derived from different samplers.
-/

namespace CallReplay

namespace Database

variable {db : Database} {id : ArtifactId} {row : SamplerRow} {added : Option PostProcessor}
  {p : PostProcessor}

/-- Every post-processor was made beside the sampler that it runs after. -/
structure Made (db : Database) : Prop where
  derived : ∀ q ∈ db.postProcessors, q.id = q.runsAfter.postProcessor
  belongs : ∀ q ∈ db.postProcessors, ∃ row ∈ db.samplers, row.sampler.id = q.runsAfter

/-- No other sampler has the id derived from the same id. -/
def DerivesApart (db : Database) (id : ArtifactId) : Prop :=
  ∀ row ∈ db.samplers, row.sampler.id.postProcessor = id.postProcessor → row.sampler.id = id

/-- The database without rows has only ids that were made. -/
lemma made_empty : Made empty := ⟨List.forall_mem_nil _, List.forall_mem_nil _⟩

/-- A row that replaces those of its id is in the table with the others. -/
lemma mem_samplers_replace {other : SamplerRow} : other ∈ (db.replace row added).samplers ↔
    other ∈ db.samplers ∧ other.sampler.id ≠ row.sampler.id ∨ other = row := by
  simp [replace, remove]

/-- A post-processor that comes with a row is in the table with those of other samplers. -/
lemma mem_postProcessors_replace : p ∈ (db.replace row added).postProcessors ↔
    p ∈ db.postProcessors ∧ p.runsAfter ≠ row.sampler.id ∨ added = some p := by
  simp [replace, remove]

/-- A row with a post-processor of its own keeps the ids of the database made. -/
lemma Made.replace (h : db.Made)
    (hadded : ∀ p, added = some p → p.id = row.sampler.id.postProcessor ∧
    p.runsAfter = row.sampler.id) :
    (db.replace row added).Made where
  derived := by
    intro q hq
    rcases mem_postProcessors_replace.mp hq with ⟨hq, _⟩ | hq
    · exact h.derived q hq
    · obtain ⟨hid, hafter⟩ := hadded q hq
      rw [hid, hafter]
  belongs := by
    intro q hq
    rcases mem_postProcessors_replace.mp hq with ⟨hq, hother⟩ | hq
    · obtain ⟨found, hfound, hid⟩ := h.belongs q hq
      exact ⟨found, mem_samplers_replace.mpr (.inl ⟨hfound, hid ▸ hother⟩), hid⟩
    · exact ⟨row, mem_samplers_replace.mpr (.inr rfl), (hadded q hq).2.symm⟩

/-- A post-processor with the id that is derived for it is admitted if no other sampler
has it derived. -/
lemma Made.admits (h : db.Made) (apart : db.DerivesApart id) (hid : p.id = id.postProcessor)
    (hafter : p.runsAfter = id) : db.Admits id p where
  free := by
    intro q hq same
    obtain ⟨row, hrow, hbelongs⟩ := h.belongs q hq
    rw [h.derived q hq, hid, ← hbelongs] at same
    exact hbelongs.symm.trans (apart row hrow same)
  placed := .inl hafter

/-- A sampler that was put in is shown with what was put in beside it. -/
lemma get_replace_self (hadded : ∀ p, added = some p → p.runsAfter = row.sampler.id) :
    (db.replace row added).get row.sampler.id =
    .ok ⟨row.callIndex, row.signature, row.sampler, added⟩ := by
  have found : (db.replace row added).find row.sampler.id = .ok row := by
    rw [find, find?_replace, if_pos rfl]
  have attached : (db.replace row added).attached row.sampler.id = added.toList := by
    rw [attached, Database.replace, List.filter_append, remove, List.filter_filter]
    cases added with
    | none => simp
    | some p => simp [hadded p rfl]
  rw [get, found, attached]
  cases added <;> rfl

/-- What is kept for other samplers stays as it is. -/
lemma get_replace_of_ne (hadded : ∀ p, added = some p → p.runsAfter = row.sampler.id)
    (h : id ≠ row.sampler.id) : (db.replace row added).get id = db.get id := by
  have attached : (db.replace row added).attached id = db.attached id := by
    rw [attached, Database.replace, List.filter_append, remove, List.filter_filter]
    have kept : ∀ q ∈ db.postProcessors,
        ((q.runsAfter == id) && (q.runsAfter != row.sampler.id)) = (q.runsAfter == id) := by
      intro q _
      grind
    rw [List.filter_congr kept]
    cases added with
    | none => simp [Database.attached]
    | some p => simp [Database.attached, hadded p rfl, h.symm]
  rw [get, get, find, find, find?_replace, if_neg h, attached]

end Database

namespace Recorder

variable {options : RecorderOptions} {r : CallRecord} {a : Artifacts} {db db' : Database}

/-- A call is recorded if its artifacts are made and delivered. -/
lemma record_eq_ok_iff : record options r db = .ok (a, db') ↔
    artifacts options r = .ok a ∧ db.deliver a r = .ok db' := by
  rw [record]
  cases artifacts options r with
  | error cause => simp
  | ok made =>
    cases hdeliver : db.deliver made r with
    | error cause =>
      simp only [hdeliver, reduceCtorEq, Except.ok.injEq, false_iff, not_and]
      rintro rfl
      simp [hdeliver]
    | ok changed =>
      simp only [hdeliver, Except.ok.injEq, Prod.mk.injEq]
      constructor
      · rintro ⟨rfl, rfl⟩
        exact ⟨rfl, hdeliver⟩
      · rintro ⟨rfl, hsame⟩
        exact ⟨rfl, Except.ok.inj (hdeliver.symm.trans hsame)⟩

/-- A call for which no artifacts can be made is refused for that reason. -/
lemma record_of_script_error {cause : Script.ScriptError} (h : artifacts options r = .error cause) :
    record options r db = .error (.script cause) := by
  rw [record, h]

/-- What artifacts are made for tells their ids. -/
lemma sampler_id_of_artifacts (h : artifacts options r = .ok a) : a.sampler.id = .ofRecord r := by
  rw [artifacts_eq] at h
  obtain ⟨text, _, rfl⟩ := map_eq_ok_iff.mp h
  rfl

end Recorder

namespace CallRecord

variable {r annotated : CallRecord} {stem : Option String} {options : RecorderOptions}

/-- Searching for remote objects changes at most what is noted of them. -/
lemma annotateIf_eq (h : r.annotateIf stem = .ok annotated) :
    ∃ found paths, annotated = (r.setRemoteReturned found).setRemotePaths paths := by
  cases stem with
  | none =>
    cases h
    exact ⟨r.remoteReturned, r.remotePaths, rfl⟩
  | some name =>
    obtain ⟨⟨count, changed⟩, hannotate, rfl⟩ := map_eq_ok_iff.mp h
    exact annotate_eq hannotate

/-- The returned value, if it is searched, or the arguments nest objects deeper than the
limit for them. -/
def TooDeep (r : CallRecord) (options : RecorderOptions) (stem : Option String) : Prop :=
  (∃ name, stem = some name ∧ r.annotate name = .error (.nestingTooDeep RemotePath.maxDepth)) ∨
    Recorder.argumentsText options r = .error (.nestingTooDeep options.script.maxDepth)

/-- Looking for remote objects does not change the script for the arguments. -/
lemma argumentsText_annotateIf (h : r.annotateIf stem = .ok annotated) :
    Recorder.argumentsText options annotated = Recorder.argumentsText options r := by
  obtain ⟨found, paths, rfl⟩ := annotateIf_eq h
  rfl

/-- The limits decide whether artifacts can be made for a record that was unpacked. -/
lemma artifacts_of_unpack {bytes : List UInt8} (h : unpack bytes = .ok r) (index : UInt32)
    (target scope : String) (options : RecorderOptions) (stem : Option String) :
    ((r.placed index target scope).TooDeep options stem ∧
      ∃ limit, (r.placed index target scope).annotateIf stem = .error (.nestingTooDeep limit) ∨
        ∃ annotated, (r.placed index target scope).annotateIf stem = .ok annotated ∧
          Recorder.artifacts options annotated = .error (.nestingTooDeep limit)) ∨
    (¬(r.placed index target scope).TooDeep options stem ∧
      ∃ annotated a, (r.placed index target scope).annotateIf stem = .ok annotated ∧
        Recorder.artifacts options annotated = .ok a) := by
  obtain ⟨_, valid, outcome, houtcome, hpayload⟩ := valid_of_unpack h
  generalize hplaced : r.placed index target scope = placed
  have arguments : placed.arguments = r.arguments := by rw [← hplaced]; rfl
  have ended : placed.outcome = some outcome := by rw [← hplaced]; exact houtcome
  cases hannotated : placed.annotateIf stem with
  | error e =>
    cases stem with
    | none => cases hannotated
    | some name =>
      have failed := map_eq_error_iff.mp hannotated
      obtain ⟨value, hreturned, htable⟩ := annotate_error failed
      cases ended.symm.trans hreturned
      obtain ⟨rfl, _⟩ := RemotePath.table_error hpayload htable
      exact .inl ⟨.inl ⟨name, rfl, failed⟩, _, .inl rfl⟩
  | ok annotated =>
    have same : Recorder.argumentsText options annotated = Recorder.argumentsText options placed :=
      argumentsText_annotateIf hannotated
    have searched :
        ¬∃ name, stem = some name ∧ placed.annotate name =
        .error (.nestingTooDeep RemotePath.maxDepth) := by
      rintro ⟨name, rfl, failed⟩
      cases hannotated.symm.trans (map_eq_error_iff.mpr failed)
    cases htext : Recorder.argumentsText options placed with
    | error e =>
      rw [← arguments] at valid
      obtain ⟨rfl, _⟩ := Recorder.argumentsText_error valid htext
      refine .inl ⟨.inr htext, options.script.maxDepth, .inr ⟨annotated, rfl, ?_⟩⟩
      rw [Recorder.artifacts_eq, same, htext]
      rfl
    | ok text =>
      obtain ⟨a, hmade⟩ : ∃ a, Recorder.artifacts options annotated = .ok a := by
        rw [Recorder.artifacts_eq, same, htext]
        exact ⟨_, rfl⟩
      refine .inr ⟨?_, annotated, a, rfl, hmade⟩
      rintro (deep | deep)
      · exact searched deep
      · cases htext.symm.trans deep

end CallRecord

namespace Server

variable {s s' : Server} {p : Post} {r placed : CallRecord} {a : Artifacts} {session : Session}
  {e : Failure}

/-- An open session is found. -/
lemma session_of_some {id : SessionId} (h : s.registry.find? id = some session) :
    s.session id = .ok session := by
  rw [Server.session, h]

/-- A session that is not open is refused. -/
lemma session_of_none {id : SessionId} (h : s.registry.find? id = none) :
    s.session id = .error (.noSession id) := by
  rw [Server.session, h]

/-- The record with the place that the session gives it. -/
def place (session : Session) (r : CallRecord) : CallRecord :=
  r.placed session.nextIndex session.target session.id.text

/-- An open session gives out its next index. -/
lemma number_of_some (h : s.registry.find? p.session = some session) :
    s.number p r = .ok ({ s with registry := s.registry.advance p.session }, place session r) := by
  rw [number, session_of_some h, ← SessionRegistry.id_of_find? h]
  rfl

/-- A session that is not open gives out no index. -/
lemma number_of_none (h : s.registry.find? p.session = none) :
    s.number p r = .error (.noSession p.session) := by
  rw [number, session_of_none h]
  rfl

/-- A post is recorded if its record is searched and its artifacts are made and delivered. -/
lemma record_eq_ok_iff : s.record p r = .ok (s', a) ↔
    ∃ annotated db, r.annotateIf p.stem = .ok annotated ∧
    Recorder.artifacts s.options annotated = .ok a ∧
      s.database.deliver a annotated = .ok db ∧ s' = { s with database := db } := by
  simp only [record, bind_eq_ok_iff, mapError_eq_ok_iff]
  constructor
  · rintro ⟨annotated, hannotated, ⟨made, db⟩, hrecord, h⟩
    cases h
    obtain ⟨hmade, hdeliver⟩ := Recorder.record_eq_ok_iff.mp hrecord
    exact ⟨annotated, db, hannotated, hmade, hdeliver, rfl⟩
  · rintro ⟨annotated, db, hannotated, hmade, hdeliver, rfl⟩
    exact ⟨annotated, hannotated, (a, db), Recorder.record_eq_ok_iff.mpr ⟨hmade, hdeliver⟩, rfl⟩

/-- A post is refused if its record cannot be searched. -/
lemma record_of_annotate_error {cause : Script.ScriptError}
    (h : r.annotateIf p.stem = .error cause) :
    s.record p r = .error (.recording (.script cause)) := by
  rw [record, h]
  rfl

/-- A post is refused if no artifacts can be made for its record. -/
lemma record_of_script_error {annotated : CallRecord} {cause : Script.ScriptError}
    (h : r.annotateIf p.stem = .ok annotated)
    (hmade : Recorder.artifacts s.options annotated = .error cause) :
    s.record p r = .error (.recording (.script cause)) := by
  rw [record, h]
  simp only [Except.mapError, bind, Except.bind, Recorder.record_of_script_error hmade]

/-- A post to a session that is not open changes nothing. -/
lemma post_of_none (h : s.registry.find? p.session = none) :
    s.post p = (s, .error (.noSession p.session)) := by
  rw [post, finish]
  simp only [step, checkSession, session_of_none h, bind, Except.bind]
  rw [finish]

/-- A post to an open session is admitted. -/
lemma finish_of_some (h : s.registry.find? p.session = some session) :
    s.post p = s.finish p .admitted := by
  rw [post, finish]
  simp only [step, checkSession, session_of_some h, bind, Except.bind, pure, Except.pure]

/-- A post that cannot be unpacked changes nothing. -/
lemma post_of_refused {cause : RecordError} (h : s.registry.find? p.session = some session)
    (hbody : CallRecord.unpack p.body = .error cause) : s.post p = (s, .error (.record cause)) := by
  rw [finish_of_some h, finish]
  simp only [step, decodeRecord, hbody, Except.mapError]
  rw [finish]

/-- A post that can be unpacked takes an index, whatever comes of it then. -/
lemma post_of_unpacked (h : s.registry.find? p.session = some session)
    (hbody : CallRecord.unpack p.body = .ok r) :
    s.post p =
      match Server.record { s with registry := s.registry.advance p.session } p (place session r)
        with
      | .ok (kept, a) => (kept.note p a, .ok ⟨p.session, session.nextIndex, a⟩)
      | .error e => ({ s with registry := s.registry.advance p.session }, .error e) := by
  rw [finish_of_some h, finish]
  simp only [step, decodeRecord, hbody, Except.mapError]
  rw [finish]
  simp only [step, number_of_some h]
  rw [finish]
  simp only [step]
  cases Server.record { s with registry := s.registry.advance p.session } p (place session r) with
  | error e => exact finish.eq_def ..
  | ok recorded =>
    dsimp only
    rw [finish]
    simp only [step]
    rw [finish]
    rfl

/-- A post whose record is refused after it was numbered only uses up an index; any other is
kept and noted. -/
lemma post_cases (h : s.registry.find? p.session = some session)
    (hbody : CallRecord.unpack p.body = .ok r) :
    (∃ e, s.post p = ({ s with registry := s.registry.advance p.session }, .error e)) ∨
      ∃ annotated a db, (place session r).annotateIf p.stem = .ok annotated ∧
        Recorder.artifacts s.options annotated = .ok a ∧ s.database.deliver a annotated = .ok db ∧
        s.post p = (⟨s.options, (s.registry.advance p.session).note p.session a.sampler.id, db⟩,
          .ok ⟨p.session, session.nextIndex, a⟩) := by
  rw [post_of_unpacked h hbody]
  cases hrecord :
    Server.record { s with registry := s.registry.advance p.session } p (place session r) with
  | error e => exact .inl ⟨e, rfl⟩
  | ok recorded =>
    obtain ⟨annotated, db, hannotated, hmade, hdeliver, hkept⟩ := record_eq_ok_iff.mp hrecord
    refine .inr ⟨annotated, recorded.2, db, hannotated, hmade, hdeliver, ?_⟩
    dsimp only
    rw [hkept, note]

/-- A post leaves the options of the server as they are. -/
lemma options_post (s : Server) (p : Post) : (s.post p).1.options = s.options := by
  cases h : s.registry.find? p.session with
  | none => rw [post_of_none h]
  | some session =>
    cases hbody : CallRecord.unpack p.body with
    | error cause => rw [post_of_refused h hbody]
    | ok r =>
      rcases post_cases h hbody with ⟨e, hpost⟩ | ⟨_, a, db, _, _, _, hpost⟩ <;> rw [hpost]

/-- A post leaves the other sessions as they are. -/
lemma find?_post_of_ne {id : SessionId} (h : id ≠ p.session) :
    (s.post p).1.registry.find? id = s.registry.find? id := by
  cases hfind : s.registry.find? p.session with
  | none => rw [post_of_none hfind]
  | some session =>
    cases hbody : CallRecord.unpack p.body with
    | error cause => rw [post_of_refused hfind hbody]
    | ok r =>
      rcases post_cases hfind hbody with ⟨e, hpost⟩ | ⟨_, a, db, _, _, _, hpost⟩
      · simp [hpost, h]
      · simp [hpost, h]

/-- What a post keeps is made together. -/
lemma made_post (made : s.database.Made) : (s.post p).1.database.Made := by
  cases hfind : s.registry.find? p.session with
  | none => rwa [post_of_none hfind]
  | some session =>
    cases hbody : CallRecord.unpack p.body with
    | error cause => rwa [post_of_refused hfind hbody]
    | ok r =>
      rcases post_cases hfind hbody with ⟨e, hpost⟩ | ⟨annotated, a, db, _, hmade, hdeliver, hpost⟩
      · rwa [hpost]
      · obtain ⟨bytes, _, _, rfl⟩ := Database.deliver_eq_ok_iff.mp hdeliver
        rw [hpost]
        exact made.replace fun q hq => artifacts_postProcessor (c := ⟨s.options, annotated⟩) hmade
          hq

/-- What is made of a record that was unpacked is kept, if different ids are derived
from different samplers. -/
lemma deliver_of_unpack {db : Database} {annotated : CallRecord} {bytes : List UInt8}
    {options : RecorderOptions} {stem : Option String} (made : db.Made)
    (apart : db.DerivesApart (.ofRecord placed)) (hbody : CallRecord.unpack bytes = .ok r)
    (hplaced : placed = place session r) (hannotated : placed.annotateIf stem = .ok annotated)
    (hmade : Recorder.artifacts options annotated = .ok a) :
    ∃ packed, db.deliver a annotated =
    .ok (db.replace (Database.rowOf a annotated packed) a.postProcessor) := by
  obtain ⟨found, paths, rfl⟩ := CallRecord.annotateIf_eq hannotated
  have hid : a.sampler.id = .ofRecord placed := by
    rw [Recorder.sampler_id_of_artifacts hmade]
    rfl
  rw [← hid] at apart
  obtain ⟨packed, hpacked⟩ := CallRecord.pack_of_unpack hbody
  have hpack : ((placed.setRemoteReturned found).setRemotePaths paths).pack = .ok packed := by
    rw [← hpacked, hplaced]
    exact CallRecord.pack_congr rfl rfl rfl
  have admitted : ∀ q, a.postProcessor = some q → db.Admits a.sampler.id q := by
    intro q hq
    obtain ⟨hqid, hafter⟩ := artifacts_postProcessor (c := ⟨options, _⟩) hmade hq
    exact made.admits apart hqid hafter
  exact ⟨_, Database.deliver_eq_ok_iff.mpr
    ⟨_, Database.packed_eq_ok_iff.mpr (.inr ⟨packed, hpack, rfl⟩), admitted, rfl⟩⟩

/-- Only the limits on nesting keep a record that was unpacked from being recorded in
an open session. -/
theorem post_of_some (made : s.database.Made) (h : s.registry.find? p.session = some session)
    (hbody : CallRecord.unpack p.body = .ok r)
    (apart : s.database.DerivesApart (.ofRecord (place session r))) :
    ((place session r).TooDeep s.options p.stem ∧ ∃ limit, s.post p =
      ({ s with registry := s.registry.advance p.session },
      .error (.recording (.script (.nestingTooDeep limit))))) ∨
    (¬(place session r).TooDeep s.options p.stem ∧ ∃ annotated a packed,
      (place session r).annotateIf p.stem = .ok annotated ∧
      Recorder.artifacts s.options annotated = .ok a ∧
      s.post p = (⟨s.options, (s.registry.advance p.session).note p.session a.sampler.id,
          s.database.replace (Database.rowOf a annotated packed) a.postProcessor⟩,
        .ok ⟨p.session, session.nextIndex, a⟩)) := by
  have limits := CallRecord.artifacts_of_unpack hbody session.nextIndex session.target
    session.id.text s.options p.stem
  rw [← place] at limits
  rw [post_of_unpacked h hbody]
  rcases limits with
    ⟨deep, limit, hannotated | ⟨annotated, hannotated, hmade⟩⟩
    | ⟨shallow, annotated, a, hannotated, hmade⟩
  · refine .inl ⟨deep, limit, ?_⟩
    rw [record_of_annotate_error hannotated]
  · refine .inl ⟨deep, limit, ?_⟩
    have refused : Server.record { s with registry := s.registry.advance p.session } p
        (place session r) = .error _ :=
      record_of_script_error hannotated hmade
    rw [refused]
  · obtain ⟨packed, hdeliver⟩ := deliver_of_unpack made apart hbody rfl hannotated hmade
    have kept : Server.record { s with registry := s.registry.advance p.session } p
        (place session r) = .ok (_, a) :=
      record_eq_ok_iff.mpr ⟨annotated, _, hannotated, hmade, hdeliver, rfl⟩
    refine .inr ⟨shallow, annotated, a, packed, hannotated, hmade, ?_⟩
    rw [kept]
    rfl

end Server

end CallReplay
