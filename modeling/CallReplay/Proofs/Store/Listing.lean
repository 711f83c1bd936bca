import CallReplay.Proofs.Lists
import CallReplay.Proofs.Sorting
import CallReplay.Proofs.Store.Integrity

/-!
# The list and what is fetched

Requests have been made of a new database, and some have been carried out (`CarriedOut`). One that
is carried out drops the entries that belong to its sampler from both tables, and puts in at most
one entry at the end of each (`Table`). So each entry of a table was put in by a request after which
none was carried out for the sampler that it belongs to (`Table.Since`), and the entries stand in
the order of these requests (`Table.dated_after`). The list shows the rows of the one table by call
and then in this order, what is fetched is a row with the first that is attached to it, and so they
tell the same.
-/

namespace CallReplay

namespace Request

/-- The sampler that is put in or deleted. -/
def subject : Request → ArtifactId
  | deliver a _ => a.sampler.id
  | delete id => id

/-- All statements of the request are carried out. -/
def Succeeds (q : Request) (db : Database) : Prop := ∃ left, q.statements.run db = .ok () left

/-- The request at a position has been carried out. -/
def CarriedOut (requests : List Request) (i : Nat) (q : Request) : Prop :=
  requests[i]? = some q ∧ q.Succeeds (Database.empty.after (requests.take i))

end Request

open Request (CarriedOut)

/-- What is fetched, as a line of the list. -/
def StoredArtifact.summary (stored : StoredArtifact) : ArtifactSummary where
  id := stored.sampler.id
  name := stored.sampler.name
  callIndex := stored.callIndex
  target := stored.sampler.target
  method := stored.sampler.method
  hasPostProcessor := stored.postProcessor.isSome

namespace Database

/-- Entries that belong to samplers. A request that is carried out drops those of its sampler and
may put in one. -/
structure Table (α : Type) where
  entries : Database → List α
  owner : α → ArtifactId
  put : Request → Option α
  entries_empty : entries .empty = []
  entries_perform : ∀ q db db', q.perform db = .ok db' →
    entries db' = ((entries db).filter fun x => owner x != q.subject) ++ (put q).toList

/-- The row of the sampler that is delivered. -/
def putSampler : Request → Option SamplerRow
  | .deliver a r => (packed r).toOption.map (rowOf a r)
  | .delete _ => none

/-- What is delivered with a sampler. -/
def putPostProcessor : Request → Option PostProcessor
  | .deliver a _ => a.postProcessor
  | .delete _ => none

/-- The table of samplers, each of which owns itself. -/
def samplerTable : Table SamplerRow where
  entries := samplers
  owner := fun row => row.sampler.id
  put := putSampler
  entries_empty := rfl
  entries_perform := by
    intro q db db' h
    cases q with
    | deliver a r =>
      obtain ⟨bytes, hpacked, _, rfl⟩ := deliver_eq_ok_iff.mp h
      rw [putSampler, hpacked]
      rfl
    | delete id =>
      obtain ⟨_, rfl⟩ := delete_eq_ok_iff.mp h
      exact (List.append_nil _).symm

/-- The table of post-processors, which belong to samplers. -/
def postProcessorTable : Table PostProcessor where
  entries := postProcessors
  owner := PostProcessor.runsAfter
  put := putPostProcessor
  entries_empty := rfl
  entries_perform := by
    intro q db db' h
    cases q with
    | deliver a r =>
      obtain ⟨bytes, _, _, rfl⟩ := deliver_eq_ok_iff.mp h
      rfl
    | delete id =>
      obtain ⟨_, rfl⟩ := delete_eq_ok_iff.mp h
      exact (List.append_nil _).symm

/-- An entry was put in by the request at a position, and no request for its sampler has been
carried out since. -/
def Table.Since {α : Type} (t : Table α) (requests : List Request) (x : α) (i : Nat) : Prop :=
  (∃ q, CarriedOut requests i q ∧ t.put q = some x) ∧ ∀ j q, i < j → CarriedOut requests j q →
  q.subject ≠ t.owner x

section

variable {db : Database} {requests : List Request} {q q' : Request} {i : Nat}

/-- A request succeeds on an intact database if it can be performed there. -/
lemma Intact.succeeds_iff (h : db.Intact) : q.Succeeds db ↔ q.perform db = .ok (q.after db) := by
  rw [Request.Succeeds, Request.after]
  cases hq : q.perform db with
  | ok db' =>
    rw [h.carriedOut hq]
    simp
  | error e =>
    rw [h.refused hq]
    simp

/-- A request that fails changes nothing. -/
lemma Intact.after_of_not_succeeds (h : db.Intact) (failed : ¬ q.Succeeds db) :
    q.after db = db := by
  cases hq : q.perform db with
  | ok db' => exact absurd ⟨db', h.carriedOut hq⟩ failed
  | error e => rw [Request.after, h.refused hq]

/-- The last request comes after all others. -/
lemma after_concat (db : Database) (requests : List Request) (q : Request) :
    db.after (requests ++ [q]) = q.after (db.after requests) :=
  List.foldl_concat ..

/-- A request that was carried out is one of the requests. -/
lemma lt_length_of_carriedOut (h : CarriedOut requests i q) : i < requests.length :=
  (List.getElem?_eq_some_iff.mp h.1).1

/-- One request more is carried out or not after all others. -/
lemma carriedOut_concat : CarriedOut (requests ++ [q]) i q' ↔
    CarriedOut requests i q' ∨ i = requests.length ∧ q' = q ∧
    q.Succeeds (empty.after requests) := by
  rw [CarriedOut, CarriedOut]
  rcases Nat.lt_trichotomy i requests.length with before | rfl | behind
  · rw [List.getElem?_append_left before, List.take_append_of_le_length before.le]
    simp [before.ne]
  · rw [List.getElem?_concat_length, List.take_left, List.getElem?_eq_none_iff.mpr (Nat.le_refl _)]
    simp only [Option.some_inj, reduceCtorEq, false_and, true_and, false_or]
    constructor
    · rintro ⟨rfl, done⟩
      exact ⟨rfl, done⟩
    · rintro ⟨rfl, done⟩
      exact ⟨rfl, done⟩
  · have none : (requests ++ [q])[i]? = none :=
      List.getElem?_eq_none_iff.mpr (by simpa using behind)
    rw [none, List.getElem?_eq_none_iff.mpr behind.le]
    simp [behind.ne']

namespace Table

variable {α : Type} {t : Table α} {x : α}

/-- What has stood since a request stands after one that fails. -/
lemma since_concat_of_failed (failed : ¬ q.Succeeds (empty.after requests)) :
    t.Since (requests ++ [q]) x i ↔ t.Since requests x i := by
  simp [Since, carriedOut_concat, failed]

/-- After a request that succeeds, what it does not touch has stood since the request that put it,
and what it puts stands since now. -/
lemma since_concat_of_succeeds (done : q.Succeeds (empty.after requests)) :
    t.Since (requests ++ [q]) x i ↔
      t.Since requests x i ∧ t.owner x ≠ q.subject ∨ i = requests.length ∧ t.put q = some x := by
  have last : CarriedOut (requests ++ [q]) requests.length q :=
    carriedOut_concat.mpr (.inr ⟨rfl, rfl, done⟩)
  constructor
  · rintro ⟨⟨q', hq', hput⟩, later⟩
    rcases carriedOut_concat.mp hq' with old | ⟨rfl, rfl, -⟩
    · have since : t.Since requests x i :=
        ⟨⟨q', old, hput⟩, fun j p hlt hp => later j p hlt (carriedOut_concat.mpr (.inl hp))⟩
      exact .inl ⟨since, (later _ q (lt_length_of_carriedOut old) last).symm⟩
    · exact .inr ⟨rfl, hput⟩
  · rintro (⟨⟨⟨q', old, hput⟩, later⟩, other⟩ | ⟨rfl, hput⟩)
    · refine ⟨⟨q', carriedOut_concat.mpr (.inl old), hput⟩, fun j p hlt hp => ?_⟩
      rcases carriedOut_concat.mp hp with hp | ⟨rfl, rfl, -⟩
      · exact later j p hlt hp
      · exact other.symm
    · refine ⟨⟨q, last, hput⟩, fun j p hlt hp => ?_⟩
      rcases carriedOut_concat.mp hp with hp | ⟨rfl, -, -⟩
      · exact absurd (lt_length_of_carriedOut hp) hlt.asymm
      · exact absurd hlt (Nat.lt_irrefl _)

/-- Entries with the positions of the requests that have put them in, in the order of these. -/
structure Dates (t : Table α) (requests : List Request) (dated : List (α × Nat)) : Prop where
  entries : dated.map Prod.fst = t.entries (empty.after requests)
  ordered : dated.Pairwise fun x y => x.2 < y.2
  since : ∀ x i, (x, i) ∈ dated ↔ t.Since requests x i

/-- A request that succeeds takes away what belongs to its subject and adds what it puts,
with its date. -/
lemma Dates.concat {dated : List (α × Nat)} (h : t.Dates requests dated)
    (intact : (empty.after requests).Intact) (done : q.Succeeds (empty.after requests)) :
    t.Dates (requests ++ [q])
      ((dated.filter fun x => t.owner x.1 != q.subject) ++ (t.put q).toList.map fun x =>
      (x, requests.length)) where
  entries := by
    rw [after_concat, t.entries_perform q _ _ (intact.succeeds_iff.mp done), ← h.entries,
      List.filter_map, List.map_append, List.map_map]
    simp [Function.comp_def]
  ordered := by
    rw [List.pairwise_append]
    refine ⟨h.ordered.sublist List.filter_sublist, ?_, ?_⟩
    · cases t.put q <;> simp
    · rintro ⟨x, i⟩ hx ⟨y, j⟩ hy
      obtain ⟨⟨_, before, _⟩, _⟩ := (h.since x i).mp (List.mem_of_mem_filter hx)
      obtain ⟨_, _, hlast⟩ := List.mem_map.mp hy
      cases hlast
      exact lt_length_of_carriedOut before
  since := by
    intro x i
    rw [since_concat_of_succeeds done, ← h.since, List.mem_append, List.mem_filter, bne_iff_ne,
      List.mem_map]
    refine or_congr_right ⟨?_, ?_⟩
    · rintro ⟨_, hput, same⟩
      cases same
      exact ⟨rfl, Option.mem_toList.mp hput⟩
    · rintro ⟨rfl, hput⟩
      exact ⟨x, Option.mem_toList.mpr hput, rfl⟩

/-- The entries that requests leave stand in the order in which they were put in. -/
theorem dated_after (t : Table α) (requests : List Request) : ∃ dated, t.Dates requests dated := by
  -- From the end of the requests, since what the last one does depends on all before it.
  induction requests using List.reverseRecOn with
  | nil =>
    refine ⟨[], t.entries_empty.symm, .nil, ?_⟩
    simp [Since, CarriedOut]
  | append_singleton requests q ih =>
    obtain ⟨dated, h⟩ := ih
    have intact := Intact.empty.after requests
    by_cases done : q.Succeeds (empty.after requests)
    · exact ⟨_, h.concat intact done⟩
    · refine ⟨dated, ?_, h.ordered, fun x i => (h.since x i).trans
        (since_concat_of_failed done).symm⟩
      rw [h.entries, after_concat, intact.after_of_not_succeeds done]

end Table

end

/-- The request at a position has put in a sampler, and no later one has put it in again
or deleted it. -/
def Inserted (requests : List Request) (id : ArtifactId) (i : Nat) : Prop :=
  ∃ row, samplerTable.Since requests row i ∧ row.sampler.id = id

/-- The request at a position has put in what is attached to a sampler, and no later one
has dropped it. -/
def Attached (requests : List Request) (p : PostProcessor) (i : Nat) : Prop :=
  postProcessorTable.Since requests p i

/-- How the list of a database and what is fetched by an id belong together after requests. -/
structure ListsAsFetched (requests : List Request) (db : Database) : Prop where
  listedOnce : (db.list.map ArtifactSummary.id).Nodup
  listed : ∀ id, id ∈ db.list.map ArtifactSummary.id ↔ ∃ stored, db.get id = .ok stored
  loaded : ∀ id, id ∈ db.list.map ArtifactSummary.id ↔ ∃ record, db.load id = .ok record
  /-- What is listed has been put in and not been deleted since. -/
  inserted : ∀ id, id ∈ db.list.map ArtifactSummary.id ↔ ∃ i, Inserted requests id i
  /-- A line of the list is that of what is fetched under its id. -/
  alike : ∀ s ∈ db.list, ∃ stored, db.get s.id = .ok stored ∧ stored.summary = s
  /-- What is fetched with a sampler is what was attached to it first of all that
  is still attached. -/
  earliest : ∀ id stored, db.get id = .ok stored → ∀ p, stored.postProcessor = some p ↔
    p.runsAfter = id ∧ ∃ i, Attached requests p i ∧ ∀ q j, Attached requests q j →
    q.runsAfter = id → i ≤ j
  /-- Calls are listed by their indexes, and those of one index in the order in which they were
  put in last. -/
  sorted : db.list.Pairwise fun s t => s.callIndex < t.callIndex ∨
    s.callIndex = t.callIndex ∧ ∃ i j, Inserted requests s.id i ∧ Inserted requests t.id j ∧ i < j

section

variable {db : Database} {id : ArtifactId} {row : SamplerRow} {stored : StoredArtifact}

/-- What is shown of an id is its row with the post-processor that is attached. -/
lemma get_eq_ok_iff : db.get id = .ok stored ↔ ∃ row, db.find? id = some row ∧
    stored = ⟨row.callIndex, row.signature, row.sampler, (db.attached id).head?⟩ := by
  rw [get, bind_eq_ok_iff, find]
  cases db.find? id <;> simp [pure, Except.pure, eq_comm]

/-- What is loaded for an id is the record in its row. -/
lemma load_eq_ok_iff {record : Option (List UInt8)} :
    db.load id = .ok record ↔ ∃ row, db.find? id = some row ∧ record = row.record := by
  rw [load, bind_eq_ok_iff, find]
  cases db.find? id <;> simp [pure, Except.pure, eq_comm]

/-- Every row of an intact database is found by its id. -/
lemma Intact.find?_of_mem (h : db.Intact) (hrow : row ∈ db.samplers) :
    db.find? row.sampler.id = some row := by
  obtain ⟨found, hfound⟩ := Option.isSome_iff_exists.mp (isSome_find?_iff.mpr ⟨row, hrow, rfl⟩)
  obtain ⟨hmem, hid⟩ := mem_of_find? hfound
  rw [hfound, List.inj_on_of_nodup_map h.samplerIds hmem hrow hid]

/-- What is listed are the summaries of the rows. -/
lemma mem_list_iff {s : ArtifactSummary} :
    s ∈ db.list ↔ ∃ row ∈ db.samplers, db.summary row = s := by
  simp [list]

/-- The listing has the ids of the rows, in another order. -/
lemma ids_list (db : Database) :
    (db.list.map ArtifactSummary.id).Perm (db.samplers.map fun row => row.sampler.id) := by
  rw [list, List.map_map]
  exact (List.mergeSort_perm _ _).map _

/-- The ids in the listing are those that have a row. -/
lemma mem_ids_list_iff : id ∈ db.list.map ArtifactSummary.id ↔ ∃ row, db.find? id = some row := by
  rw [(ids_list db).mem_iff, List.mem_map, ← isSome_find?_iff, Option.isSome_iff_exists]

/-- What is fetched under the id of a row has the line of the row. -/
lemma summary_fetched (db : Database) (row : SamplerRow) : StoredArtifact.summary
    ⟨row.callIndex, row.signature, row.sampler, (db.attached row.sampler.id).head?⟩ =
    db.summary row := by
  rw [StoredArtifact.summary, summary]
  cases db.attached row.sampler.id <;> rfl

variable {requests : List Request}

/-- The rows after some requests are those that have stood since one of them. -/
lemma mem_samplers_after_iff : row ∈ (empty.after requests).samplers ↔
    ∃ i, samplerTable.Since requests row i := by
  obtain ⟨dated, h⟩ := samplerTable.dated_after requests
  change row ∈ samplerTable.entries _ ↔ _
  rw [← h.entries, List.mem_map]
  constructor
  · rintro ⟨⟨_, i⟩, hx, rfl⟩
    exact ⟨i, (h.since _ i).mp hx⟩
  · rintro ⟨i, since⟩
    exact ⟨(row, i), (h.since row i).mpr since, rfl⟩

/-- The rows stand in the order of the requests that have put them. -/
lemma pairwise_samplers_after (requests : List Request) :
    (empty.after requests).samplers.Pairwise fun a b =>
    ∃ i j, samplerTable.Since requests a i ∧ samplerTable.Since requests b j ∧ i < j := by
  obtain ⟨dated, h⟩ := samplerTable.dated_after requests
  change (samplerTable.entries _).Pairwise _
  rw [← h.entries, List.pairwise_map]
  exact h.ordered.imp_of_mem fun hx hy hlt => ⟨_, _, (h.since _ _).mp hx, (h.since _ _).mp hy, hlt⟩

/-- The first of what is attached to a sampler was attached first. -/
lemma head?_attached_eq_some_iff {p : PostProcessor} :
    ((empty.after requests).attached id).head? = some p ↔
    p.runsAfter = id ∧ ∃ i, Attached requests p i ∧ ∀ q j, Attached requests q j →
    q.runsAfter = id → i ≤ j := by
  obtain ⟨dated, h⟩ := postProcessorTable.dated_after requests
  have attached : (empty.after requests).attached id =
      (dated.filter fun x => x.1.runsAfter == id).map Prod.fst := by
    change (postProcessorTable.entries _).filter _ = _
    rw [← h.entries, List.filter_map]
    rfl
  rw [attached, List.head?_map, Option.map_eq_some_iff]
  simp only [head?_eq_some_iff_of_ordered (h.ordered.sublist List.filter_sublist), List.mem_filter,
    beq_iff_eq]
  constructor
  · rintro ⟨⟨_, i⟩, ⟨⟨hx, hid⟩, least⟩, rfl⟩
    exact ⟨hid, i, (h.since _ i).mp hx, fun q j hq hafter => least (q, j)
      ⟨(h.since q j).mpr hq, hafter⟩⟩
  · rintro ⟨hid, i, since, least⟩
    exact ⟨(p, i),
      ⟨⟨(h.since p i).mpr since, hid⟩, fun y hy => least y.1 y.2 ((h.since _ _).mp hy.1) hy.2⟩, rfl⟩

end

/-- After any requests the list of a database and what is fetched from it belong together. -/
theorem listsAsFetched_after (requests : List Request) :
    ListsAsFetched requests (empty.after requests) where
  listedOnce := (ids_list _).nodup_iff.mpr (Intact.empty.after requests).samplerIds
  listed := by
    intro id
    simp [mem_ids_list_iff, get_eq_ok_iff]
  loaded := by
    intro id
    simp [mem_ids_list_iff, load_eq_ok_iff]
  inserted := by
    intro id
    rw [(ids_list _).mem_iff, List.mem_map]
    simp only [mem_samplers_after_iff, Inserted]
    tauto
  alike := by
    intro s hs
    obtain ⟨row, hrow, rfl⟩ := mem_list_iff.mp hs
    have found := (Intact.empty.after requests).find?_of_mem hrow
    exact ⟨_, get_eq_ok_iff.mpr ⟨row, found, rfl⟩, summary_fetched _ row⟩
  earliest := by
    intro id stored hget p
    obtain ⟨row, _, rfl⟩ := get_eq_ok_iff.mp hget
    exact head?_attached_eq_some_iff
  sorted := by
    rw [list, List.pairwise_map]
    refine (pairwise_mergeSort (pairwise_samplers_after requests)).imp fun order => order.imp_right
      ?_
    rintro ⟨same, i, j, first, second, hlt⟩
    exact ⟨same, i, j, ⟨_, first, rfl⟩, ⟨_, second, rfl⟩, hlt⟩

end Database

end CallReplay
