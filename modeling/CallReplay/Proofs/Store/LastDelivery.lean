import CallReplay.Proofs.Sorting
import CallReplay.Proofs.Store.Log
import CallReplay.Proofs.Store.Rows

/-!
# A database is the latest state of a log

Calls are recorded, and what is made of each is delivered to a log and to a database. The log keeps
everything; the database keeps what the log delivered last for each sampler, in the order of the log
(`Reflects`). Each delivery keeps that so (`Reflects.deliver`), and all that can be asked of the
database is read off it.
-/

namespace CallReplay

/-- A call that is recorded, with how its artifacts are made. -/
structure RecordedCall where
  options : RecorderOptions
  record : CallRecord

namespace RecordedCall

/-- What is made for a call with its options. -/
def artifacts (c : RecordedCall) : Except Script.ScriptError Artifacts :=
  Recorder.artifacts c.options c.record

/-- The record can be packed if its call has ended. -/
def Packs (c : RecordedCall) : Prop := c.record.isCompleted → ∃ bytes, c.record.pack = .ok bytes

end RecordedCall

/-- The log after a call has been recorded. A call without artifacts leaves it as it was. -/
def DeliveryLog.afterCall (log : DeliveryLog) (c : RecordedCall) : DeliveryLog :=
  match Recorder.log c.options c.record log with
  | .ok (_, changed) => changed
  | .error _ => log

/-- The deliveries after some calls. -/
def DeliveryLog.afterCalls (log : DeliveryLog) (calls : List RecordedCall) : DeliveryLog :=
  calls.foldl afterCall log

/-- The database after a call has been recorded. A call that cannot be recorded leaves it
as it was. -/
def Database.afterCall (db : Database) (c : RecordedCall) : Database :=
  match Recorder.record c.options c.record db with
  | .ok (_, changed) => changed
  | .error _ => db

/-- The database after some calls have been recorded in it. -/
def Database.afterCalls (db : Database) (calls : List RecordedCall) : Database :=
  calls.foldl afterCall db

/-- The row that a delivery leaves. -/
def Delivery.row (d : Delivery) : SamplerRow :=
  Database.rowOf d.artifacts d.record d.record.pack.toOption

/-- The id of a post-processor beside a sampler. -/
def ArtifactId.postProcessor (id : ArtifactId) : ArtifactId := id.derived Recorder.postProcessorRole

/-- From the ids of different samplers different ids are derived. -/
def DeliveryLog.DerivesApart (log : DeliveryLog) : Prop :=
  Set.InjOn ArtifactId.postProcessor {id | id ∈ log.ids}

/-- A delivery as it is listed. -/
def Delivery.summary (d : Delivery) : ArtifactSummary where
  id := d.id
  name := d.artifacts.sampler.name
  callIndex := d.record.index
  target := d.artifacts.sampler.target
  method := d.artifacts.sampler.method
  hasPostProcessor := d.artifacts.postProcessor.isSome

/-- What is shown of a delivery. -/
def Delivery.stored (d : Delivery) : StoredArtifact :=
  ⟨d.record.index, d.record.signature.full, d.artifacts.sampler, d.artifacts.postProcessor⟩

section

variable {log : DeliveryLog} {db : Database} {c : RecordedCall} {d : Delivery} {i : Nat}
  {id : ArtifactId} {a : Artifacts} {p : PostProcessor}

/-- A post-processor is made to run after its sampler, and its id is derived from that
of the sampler. -/
lemma artifacts_postProcessor (h : c.artifacts = .ok a) (hp : a.postProcessor = some p) :
    p.id = a.sampler.id.postProcessor ∧ p.runsAfter = a.sampler.id := by
  obtain ⟨script, _, hmade⟩ := bind_eq_ok_iff.mp h
  cases hmade
  obtain ⟨text, _, rfl⟩ := Option.map_eq_some_iff.mp hp
  exact ⟨rfl, rfl⟩

/-- A call for which artifacts are made is a delivery. -/
lemma afterCall_log_of_ok (h : c.artifacts = .ok a) : log.afterCall c = log.deliver a c.record := by
  rw [RecordedCall.artifacts] at h
  rw [DeliveryLog.afterCall, Recorder.log, h]
  rfl

/-- A call for which no artifacts are made is no delivery. -/
lemma afterCall_log_of_error {e : Script.ScriptError} (h : c.artifacts = .error e) :
    log.afterCall c = log := by
  rw [RecordedCall.artifacts] at h
  rw [DeliveryLog.afterCall, Recorder.log, h]
  rfl

/-- A call for which no artifacts are made leaves the database as it was. -/
lemma afterCall_of_error {e : Script.ScriptError} (h : c.artifacts = .error e) :
    db.afterCall c = db := by
  rw [RecordedCall.artifacts] at h
  rw [Database.afterCall, Recorder.record, h]

/-- A call is recorded if its artifacts are made and delivered. -/
lemma record_of_ok {db' : Database} (h : c.artifacts = .ok a)
    (hdeliver : db.deliver a c.record = .ok db') :
    Recorder.record c.options c.record db = .ok (a, db') := by
  rw [RecordedCall.artifacts] at h
  rw [Recorder.record, h]
  simp only [hdeliver]

/-- A call that packs if it has ended is stored with its bytes, and otherwise without any. -/
lemma packed_of_packs (h : c.Packs) : Database.packed c.record = .ok c.record.pack.toOption := by
  rw [Database.packed_eq_ok_iff]
  cases hpack : c.record.pack with
  | ok bytes => exact .inr ⟨bytes, rfl, rfl⟩
  | error e =>
    refine .inl ⟨?_, rfl⟩
    by_contra completed
    obtain ⟨bytes, hbytes⟩ := h (by simpa using completed)
    rw [hpack] at hbytes
    cases hbytes

/-- A database has a row for each last delivery of a log, and the post-processors of these, in the
order of the log. -/
structure Reflects (log : DeliveryLog) (db : Database) : Prop where
  /-- What is delivered is made for a call. -/
  made : ∀ d ∈ log.deliveries, ∃ c : RecordedCall, c.Packs ∧ c.artifacts = .ok d.artifacts ∧
      c.record = d.record
  samplers : db.samplers = log.latest.map fun x => x.1.row
  postProcessors : db.postProcessors = log.latest.filterMap fun x => x.1.artifacts.postProcessor

/-- The database without rows reflects no deliveries. -/
lemma Reflects.empty : Reflects .empty .empty := ⟨List.forall_mem_nil _, rfl, rfl⟩

/-- The last delivery of an id is a delivery. -/
lemma isLast_mem (h : log.IsLast d i) : d ∈ log.deliveries := List.mem_of_getElem? h.1

section

variable (h : Reflects log db)

include h

/-- A delivered post-processor has the id that is derived from its sampler, and runs after it. -/
lemma Reflects.postProcessor_of_mem (hd : d ∈ log.deliveries)
    (hp : d.artifacts.postProcessor = some p) :
    p.id = d.id.postProcessor ∧ p.runsAfter = d.id := by
  obtain ⟨c, _, hmade, _⟩ := h.made d hd
  exact artifacts_postProcessor hmade hp

/-- What is kept for a sampler comes from deliveries of it. -/
lemma Reflects.filter_samplers (keeps : ArtifactId → Bool) :
    (db.samplers.filter fun row => keeps row.sampler.id) =
      (log.latest.filter fun x => keeps x.1.id).map fun x => x.1.row := by
  rw [h.samplers, List.filter_map]
  rfl

/-- The post-processors of some samplers are those of their last deliveries. -/
lemma Reflects.filter_postProcessors (keeps : ArtifactId → Bool) :
    (db.postProcessors.filter fun p => keeps p.runsAfter) =
      (log.latest.filter fun x => keeps x.1.id).filterMap fun x => x.1.artifacts.postProcessor := by
  rw [h.postProcessors, List.filter_filterMap, List.filterMap_filter]
  refine List.filterMap_congr fun x hx => ?_
  have hmem : x.1 ∈ log.deliveries := isLast_mem (DeliveryLog.mem_latest_iff.mp hx)
  cases hpost : x.1.artifacts.postProcessor with
  | none => simp
  | some p => simp [(h.postProcessor_of_mem hmem hpost).2, Option.filter]

/-- The row of the last delivery of a sampler is found under its id. -/
lemma Reflects.find?_of_isLast (hlast : log.IsLast d i) : db.find? d.id = some d.row := by
  have rows := h.filter_samplers (· == d.id)
  rw [DeliveryLog.filter_latest hlast] at rows
  rw [Database.find?, ← List.head?_filter, rows]
  rfl

/-- The post-processor of a sampler is that of its last delivery. -/
lemma Reflects.attached_of_isLast (hlast : log.IsLast d i) :
    db.attached d.id = d.artifacts.postProcessor.toList := by
  have attached := h.filter_postProcessors (· == d.id)
  rw [DeliveryLog.filter_latest hlast] at attached
  rw [Database.attached, attached]
  cases hpost : d.artifacts.postProcessor <;> simp [hpost]

/-- An id that was never delivered has no row. -/
lemma Reflects.find?_of_notMem (hid : id ∉ log.ids) : db.find? id = none := by
  rw [Database.find?_eq_none_iff, h.samplers, List.forall_mem_map]
  rintro ⟨d, i⟩ hx rfl
  exact hid (DeliveryLog.mem_ids_of_isLast (DeliveryLog.mem_latest_iff.mp hx))

/-- What is made for a call may be delivered if its derived id belongs to no other sampler. -/
lemma Reflects.admits (hmade : c.artifacts = .ok a)
    (apart : (log.deliver a c.record).DerivesApart)
    (hp : a.postProcessor = some p) : db.Admits a.sampler.id p where
  free := by
    intro q hq hid
    rw [h.postProcessors, List.mem_filterMap] at hq
    obtain ⟨⟨d, i⟩, hx, hd⟩ := hq
    have hlast := DeliveryLog.mem_latest_iff.mp hx
    obtain ⟨hqid, hqafter⟩ := h.postProcessor_of_mem (isLast_mem hlast) hd
    -- Both ids are derived from those of samplers, so the samplers are the same.
    rw [hqid, (artifacts_postProcessor hmade hp).1] at hid
    have old : d.id ∈ (log.deliver a c.record).ids :=
      DeliveryLog.mem_ids_deliver_iff.mpr (.inl (DeliveryLog.mem_ids_of_isLast hlast))
    have new : a.sampler.id ∈ (log.deliver a c.record).ids :=
      DeliveryLog.mem_ids_deliver_iff.mpr (.inr rfl)
    rw [hqafter]
    exact apart old new hid
  placed := .inl (artifacts_postProcessor hmade hp).2

/-- A delivery is carried out and leaves the database the latest state of the log. -/
theorem Reflects.deliver (hmade : c.artifacts = .ok a) (packs : c.Packs)
    (apart : (log.deliver a c.record).DerivesApart) :
    ∃ db', db.deliver a c.record = .ok db' ∧ Reflects (log.deliver a c.record) db' := by
  have admitted : ∀ p, a.postProcessor = some p → db.Admits a.sampler.id p :=
    fun p => h.admits hmade apart
  refine ⟨_, Database.deliver_eq_ok_iff.mpr ⟨_, packed_of_packs packs, admitted, rfl⟩, ?_, ?_, ?_⟩
  · intro d hd
    rcases List.mem_append.mp hd with hd | hd
    · exact h.made d hd
    · obtain rfl := List.mem_singleton.mp hd
      exact ⟨c, packs, hmade, rfl⟩
  · have rest := h.filter_samplers (· != a.sampler.id)
    rw [DeliveryLog.latest_deliver, List.map_append, ← rest]
    rfl
  · have rest := h.filter_postProcessors (· != a.sampler.id)
    rw [DeliveryLog.latest_deliver, List.filterMap_append, ← rest]
    cases hpost :
      a.postProcessor <;> simp [Database.replace, Database.remove, Database.rowOf, hpost]

/-- A database that reflects the deliveries reflects them after one more call. -/
theorem Reflects.afterCall (packs : c.Packs) (apart : (log.afterCall c).DerivesApart) :
    Reflects (log.afterCall c) (db.afterCall c) := by
  cases hmade : c.artifacts with
  | error e =>
    rw [afterCall_log_of_error hmade, afterCall_of_error hmade]
    exact h
  | ok a =>
    rw [afterCall_log_of_ok hmade] at apart ⊢
    obtain ⟨db', hdeliver, reflects⟩ := h.deliver hmade packs apart
    rw [Database.afterCall, record_of_ok hmade hdeliver]
    exact reflects

/-- The last delivery of an id is shown. -/
lemma Reflects.get_of_isLast (hlast : log.IsLast d i) : db.get d.id = .ok d.stored := by
  have attached := h.attached_of_isLast hlast
  rw [Database.get, Database.find, h.find?_of_isLast hlast, attached]
  cases hpost :
    d.artifacts.postProcessor
    <;> simp [bind, Except.bind, pure, Except.pure, Delivery.stored, hpost,
    Delivery.row, Database.rowOf]

/-- The bytes of the last delivery are loaded, if its call had ended. -/
lemma Reflects.load_of_isLast (hlast : log.IsLast d i) :
    db.load d.id = .ok d.record.pack.toOption := by
  rw [Database.load, Database.find, h.find?_of_isLast hlast]
  rfl

/-- What is loaded is nothing for a call that had not ended, and the packed record otherwise. -/
lemma Reflects.load_cases (hlast : log.IsLast d i) :
    (d.record.isCompleted = false ∧ db.load d.id = .ok none) ∨
    ∃ bytes, d.record.pack = .ok bytes ∧ db.load d.id = .ok (some bytes) := by
  obtain ⟨c, packs, _, hrecord⟩ := h.made d (isLast_mem hlast)
  have kept := Database.packed_eq_ok_iff.mp (packed_of_packs packs)
  rw [hrecord] at kept
  rw [h.load_of_isLast hlast]
  rcases kept with ⟨pending, hnone⟩ | ⟨bytes, hbytes, hsome⟩
  · exact .inl ⟨pending, congrArg Except.ok hnone⟩
  · exact .inr ⟨bytes, hbytes, congrArg Except.ok hsome⟩

/-- The last delivery of an id is summed up in the listing. -/
lemma Reflects.summary_of_isLast (hlast : log.IsLast d i) : db.summary d.row = d.summary := by
  have attached : db.attached d.row.sampler.id = d.artifacts.postProcessor.toList :=
    h.attached_of_isLast hlast
  rw [Database.summary, attached]
  cases hpost :
    d.artifacts.postProcessor
    <;> simp [Delivery.summary, hpost, Delivery.row, Database.rowOf, Delivery.id]

/-- The last deliveries are listed by their indexes, and those of one index in their order. -/
lemma Reflects.list_eq : db.list =
    (log.latest.mergeSort fun x y => x.1.record.index ≤ y.1.record.index).map fun x =>
    x.1.summary := by
  have sorted : db.samplers.mergeSort (fun a b => a.callIndex ≤ b.callIndex) =
      (log.latest.mergeSort fun x y => x.1.record.index ≤ y.1.record.index).map fun x =>
      x.1.row := by
    rw [h.samplers, List.map_mergeSort]
    exact fun x _ y _ => rfl
  rw [Database.list, sorted, List.map_map]
  refine List.map_congr_left ?_
  rintro ⟨d, i⟩ hx
  exact h.summary_of_isLast (DeliveryLog.mem_latest_iff.mp (List.mem_mergeSort.mp hx))

end

/-- A log only grows. -/
lemma mem_ids_afterCall (c : RecordedCall) (hid : id ∈ log.ids) : id ∈ (log.afterCall c).ids := by
  cases hmade : c.artifacts with
  | error e => rwa [afterCall_log_of_error hmade]
  | ok a =>
    rw [afterCall_log_of_ok hmade]
    exact DeliveryLog.mem_ids_deliver_iff.mpr (.inl hid)

/-- An id that was delivered has been delivered ever since. -/
lemma mem_ids_afterCalls (calls : List RecordedCall) (hid : id ∈ log.ids) :
    id ∈ (log.afterCalls calls).ids := by
  induction calls generalizing log with
  | nil => exact hid
  | cons c rest ih => exact ih (mem_ids_afterCall c hid)

/-- If all deliveries derive their ids apart, the earlier ones do. -/
lemma DeliveryLog.DerivesApart.before {calls : List RecordedCall}
    (apart : (log.afterCalls calls).DerivesApart) :
    log.DerivesApart :=
  apart.mono fun _ hid => mem_ids_afterCalls calls hid

/-- A database that reflects the deliveries reflects them after any further calls. -/
theorem Reflects.afterCalls {calls : List RecordedCall} (h : Reflects log db)
    (packs : ∀ c ∈ calls, c.Packs) (apart : (log.afterCalls calls).DerivesApart) :
    Reflects (log.afterCalls calls) (db.afterCalls calls) := by
  induction calls generalizing log db with
  | nil => exact h
  | cons c rest ih =>
    obtain ⟨packsFirst, packsRest⟩ := List.forall_mem_cons.mp packs
    have apartRest : ((log.afterCall c).afterCalls rest).DerivesApart := apart
    exact ih (h.afterCall packsFirst apartRest.before) packsRest apartRest

end

/-- What a database shows is what a log has delivered last. -/
structure ShowsLast (log : DeliveryLog) (db : Database) : Prop where
  found : ∀ id ∈ log.ids, ∃ d i, log.IsLast d i ∧ d.id = id ∧ db.get id = .ok d.stored ∧
    ((d.record.isCompleted = false ∧ db.load id = .ok none) ∨
      ∃ bytes, d.record.pack = .ok bytes ∧ db.load id = .ok (some bytes))
  missing : ∀ id ∉ log.ids, db.get id = .error (.notFound id) ∧ db.load id = .error (.notFound id)
  /-- Each sampler is listed once, by its last delivery, in the order of the calls and then in that
  of the log. -/
  listed : ∃ lasts : List (Delivery × Nat), (∀ d i, (d, i) ∈ lasts ↔ log.IsLast d i) ∧
    (lasts.Pairwise fun x y => x.1.record.index < y.1.record.index ∨
      x.1.record.index = y.1.record.index ∧ x.2 < y.2) ∧
    db.list = lasts.map fun x => x.1.summary
  listedOnce : (db.list.map ArtifactSummary.id).Nodup ∧ ∀ id, id ∈ db.list.map ArtifactSummary.id ↔
      id ∈ log.ids

/-- A database that reflects the deliveries shows the last ones. -/
lemma Reflects.showsLast {log : DeliveryLog} {db : Database} (h : Reflects log db) :
    ShowsLast log db where
  found := by
    intro id hid
    obtain ⟨d, i, hlast, rfl⟩ := DeliveryLog.exists_isLast hid
    exact ⟨d, i, hlast, rfl, h.get_of_isLast hlast, h.load_cases hlast⟩
  missing := by
    intro id hid
    rw [Database.get, Database.load, Database.find, h.find?_of_notMem hid]
    exact ⟨rfl, rfl⟩
  listed := by
    refine ⟨_, fun d i => ?_, pairwise_mergeSort log.pairwise_latest, h.list_eq⟩
    exact List.mem_mergeSort.trans DeliveryLog.mem_latest_iff
  listedOnce := by
    have ids : (db.list.map ArtifactSummary.id).Perm (log.latest.map fun x => x.1.id) := by
      rw [h.list_eq, List.map_map]
      exact (List.mergeSort_perm log.latest _).map fun x => x.1.id
    exact ⟨ids.nodup_iff.mpr log.nodup_ids_latest, fun id => ids.mem_iff.trans
      DeliveryLog.mem_ids_latest_iff⟩

/-- Every delivery to the database is carried out, and in the end it shows what
was delivered last. -/
theorem showsLast_afterCalls (calls : List RecordedCall) (packs : ∀ c ∈ calls, c.Packs)
    (apart : (DeliveryLog.empty.afterCalls calls).DerivesApart) :
    (∀ before c rest, calls = before ++ c :: rest → ∀ a, c.artifacts = .ok a →
      ∃ db, Recorder.record c.options c.record (Database.empty.afterCalls before) = .ok (a, db)) ∧
      ShowsLast (DeliveryLog.empty.afterCalls calls) (Database.empty.afterCalls calls) := by
  constructor
  · rintro before c rest rfl a hmade
    obtain ⟨packsBefore, packsAfter⟩ := List.forall_mem_append.mp packs
    have split : DeliveryLog.empty.afterCalls (before ++ c :: rest) =
        ((DeliveryLog.empty.afterCalls before).afterCall c).afterCalls rest := List.foldl_append
    rw [split, afterCall_log_of_ok hmade] at apart
    have apartNow := apart.before
    have apartBefore : (DeliveryLog.empty.afterCalls before).DerivesApart :=
      apartNow.mono fun _ hid => DeliveryLog.mem_ids_deliver_iff.mpr (.inl hid)
    have reflects := Reflects.empty.afterCalls packsBefore apartBefore
    obtain ⟨db, hdeliver, _⟩ :=
      reflects.deliver hmade (List.forall_mem_cons.mp packsAfter).1 apartNow
    exact ⟨db, record_of_ok hmade hdeliver⟩
  · exact (Reflects.empty.afterCalls packs apart).showsLast

/-- A call that has returned a remote object. -/
def openCall : CallRecord :=
  { CallRecord.new 3 "t" "open" none ⟨.empty, []⟩ with
    outcome := some (.returned ⟨.empty, .null⟩)
    remoteReturned := true }

/-- A call that has not ended. -/
def closeCall : CallRecord := .new 1 "t" "close" none ⟨.empty, []⟩

/-- The first call is recorded once more, by a recorder of its own, without what it has returned. -/
def repeatedCalls : List RecordedCall :=
  [⟨{}, openCall⟩, ⟨{}, closeCall⟩, ⟨{ nameFormat := "again" }, openCall.setRemoteReturned false⟩]

/-- The repeated call takes the place of the first one, and the database shows the call that has
not ended too. -/
theorem showsLast_repeatedCalls : (∀ c ∈ repeatedCalls, c.Packs) ∧
    (DeliveryLog.empty.afterCalls repeatedCalls).DerivesApart ∧
    (∃ a db, Recorder.record { nameFormat := "again" } (openCall.setRemoteReturned false)
      (Database.empty.afterCalls [⟨{}, openCall⟩, ⟨{}, closeCall⟩]) = .ok (a, db)) ∧
    ShowsLast (DeliveryLog.empty.afterCalls repeatedCalls)
      (Database.empty.afterCalls repeatedCalls) := by
  have opened : ∃ bytes, openCall.pack = .ok bytes := by
    refine ⟨_, CallRecord.pack_eq_ok_iff.mpr ⟨_, rfl, ⟨?_, ?_, ?_⟩, rfl⟩⟩
    · cbv
    · cbv
    · cbv
  have packs : ∀ c ∈ repeatedCalls, c.Packs := by
    intro c hc completed
    simp only [repeatedCalls, List.mem_cons, List.not_mem_nil, or_false] at hc
    rcases hc with rfl | rfl | rfl
    · exact opened
    · cases completed
    · exact opened
  have ids : (DeliveryLog.empty.afterCalls repeatedCalls).ids =
      [.ofRecord openCall, .ofRecord closeCall, .ofRecord openCall] := rfl
  have differ : (ArtifactId.ofRecord openCall).postProcessor ≠
      (ArtifactId.ofRecord closeCall).postProcessor := by
    decide +kernel
  have pair : Set.InjOn ArtifactId.postProcessor {.ofRecord openCall, .ofRecord closeCall} :=
    Set.injOn_pair.mpr fun same => absurd same differ
  have apart : (DeliveryLog.empty.afterCalls repeatedCalls).DerivesApart := by
    rw [DeliveryLog.DerivesApart, ids]
    refine pair.mono fun id hid => ?_
    rcases List.mem_cons.mp hid with hfirst | hid
    · exact .inl hfirst
    · rcases List.mem_cons.mp hid with hsecond | hid
      · exact .inr hsecond
      · exact .inl (List.mem_singleton.mp hid)
  obtain ⟨recorded, shows⟩ := showsLast_afterCalls repeatedCalls packs apart
  obtain ⟨db, hdb⟩ := recorded [⟨{}, openCall⟩, ⟨{}, closeCall⟩] _ [] rfl _ rfl
  exact ⟨packs, apart, ⟨_, db, hdb⟩, shows⟩

end CallReplay
