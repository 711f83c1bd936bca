import CallReplay.Proofs.Store.Transaction

/-!
# Integrity of a database

Deliveries and deletions are made in any order, of whatever artifacts, on a new database, and some
of them fail. Each leaves the database intact (`Intact.after_request`), so it is intact after all of
them (`Intact.after`). On an intact database the statements of a request do what the request does at
once, or change nothing.
-/

namespace CallReplay

/-- What is asked of a database. -/
inductive Request where
  | deliver (a : Artifacts) (r : CallRecord)
  | delete (id : ArtifactId)

namespace Request

/-- What a request does at once. -/
def perform : Request → Database → Except StoreError Database
  | deliver a r, db => db.deliver a r
  | delete id, db => db.delete id

/-- The statements of a request. -/
def statements : Request → Statements Unit
  | deliver a r => .deliver a r
  | delete id => .delete id

/-- The database that the statements of a request leave, whether they are refused or not. -/
def after (q : Request) (db : Database) : Database :=
  match q.statements.run db with
  | .ok _ left => left
  | .error _ left => left

end Request

namespace Database

/-- The database after requests, made one after another. -/
def after (db : Database) (requests : List Request) : Database :=
  requests.foldl (fun db q => q.after db) db

/-- A sampler is replaced with what is attached to it, or dropped; all other samplers stay,
in their order. -/
structure Replaced (db : Database) (id : ArtifactId) (row : Option SamplerRow)
    (added : Option PostProcessor) (db' : Database) : Prop where
  named : db'.find? id = row
  others : (db'.samplers.filter fun row => row.sampler.id != id) =
      db.samplers.filter fun row => row.sampler.id != id
  postProcessors :
      db'.postProcessors = (db.postProcessors.filter fun p => p.runsAfter != id) ++ added.toList

/-- How a database answers requests. -/
structure Sound (db : Database) : Prop where
  intact : db.Intact
  carriedOut : ∀ (q : Request) db', q.perform db = .ok db' → q.statements.run db = .ok () db'
  /-- A request that fails leaves all as it was. -/
  refused : ∀ (q : Request) e, q.perform db = .error e → q.statements.run db = .error (.store e) db
  deliver_fails : ∀ a r, (∃ e, db.deliver a r = .error e) ↔
    (r.isCompleted ∧ ∃ e, r.pack = .error e) ∨
      ∃ p, a.postProcessor = some p ∧
        ((∃ q ∈ db.postProcessors, q.id = p.id ∧ q.runsAfter ≠ a.sampler.id) ∨
          (db.find? p.runsAfter = none ∧ p.runsAfter ≠ a.sampler.id))
  delivered : ∀ a r db', db.deliver a r = .ok db' → ∃ bytes, packed r = .ok bytes ∧
    db.Replaced a.sampler.id (some (rowOf a r bytes)) a.postProcessor db'
  delete_fails : ∀ id, (∃ e, db.delete id = .error e) ↔ db.find? id = none
  deleted : ∀ id db', db.delete id = .ok db' → db.Replaced id none none db'

section

variable {db db' : Database} {id : ArtifactId} {q : Request}

/-- Removing replaces what belongs to an id by nothing. -/
lemma replaced_remove (db : Database) (id : ArtifactId) :
    db.Replaced id none none (db.remove id) where
  named := by simp
  others := by simp [remove]
  postProcessors := by simp [remove]

/-- Replacing puts a row and its post-processor in the place of what belongs to its id. -/
lemma replaced_replace (db : Database) (row : SamplerRow) (added : Option PostProcessor) :
    db.Replaced row.sampler.id (some row) added (db.replace row added) where
  named := by simp
  others := by simp [replace, remove]
  postProcessors := rfl

/-- A post-processor is not admitted if its id is taken by another sampler's, or its
sampler is missing. -/
lemma not_admits_iff {p : PostProcessor} : ¬ db.Admits id p ↔
    (∃ q ∈ db.postProcessors, q.id = p.id ∧ q.runsAfter ≠ id) ∨
      (db.find? p.runsAfter = none ∧ p.runsAfter ≠ id) := by
  constructor
  · intro hnot
    by_contra hboth
    simp only [not_or, not_exists, not_and, not_not] at hboth
    obtain ⟨free, placed⟩ := hboth
    refine hnot ⟨free, ?_⟩
    cases hfind : db.find? p.runsAfter with
    | none => exact .inl (placed hfind)
    | some row => exact .inr ⟨row, rfl⟩
  · rintro (⟨q, hq, hid, hother⟩ | ⟨hfind, hother⟩) ⟨free, placed⟩
    · exact hother (free q hq hid)
    · obtain ⟨row, hrow⟩ := placed.resolve_left hother
      rw [hfind] at hrow
      cases hrow

/-- A request that is performed keeps a database intact. -/
lemma Intact.perform (h : db.Intact) (hq : q.perform db = .ok db') : db'.Intact := by
  cases q with
  | deliver a r =>
    obtain ⟨bytes, _, hadmits, rfl⟩ := deliver_eq_ok_iff.mp hq
    exact h.replace hadmits
  | delete id =>
    obtain ⟨_, rfl⟩ := delete_eq_ok_iff.mp hq
    exact h.remove id

/-- The statements of a request do what the request does at once. -/
lemma Intact.run_statements (h : db.Intact) (q : Request) :
    q.statements.run db = (Statements.attempt q.perform).run db := by
  cases q with
  | deliver a r => exact Statements.run_deliver h a r
  | delete id => exact Statements.run_delete h id

/-- The statements of a request that is performed do what it does at once. -/
lemma Intact.carriedOut (h : db.Intact) (hq : q.perform db = .ok db') :
    q.statements.run db = .ok () db' :=
  (h.run_statements q).trans (Statements.run_attempt_of_ok hq)

/-- The statements of a request that is refused change nothing. -/
lemma Intact.refused {e : StoreError} (h : db.Intact) (hq : q.perform db = .error e) :
    q.statements.run db = .error (.store e) db :=
  (h.run_statements q).trans (Statements.run_attempt_of_error hq)

/-- Whatever comes of a request, the database is intact after it. -/
theorem Intact.after_request (h : db.Intact) (q : Request) : (q.after db).Intact := by
  rw [Request.after]
  cases hq : q.perform db with
  | ok db' =>
    rw [h.carriedOut hq]
    exact h.perform hq
  | error e =>
    rw [h.refused hq]
    exact h

/-- Whatever comes of any requests, the database is intact after them. -/
theorem Intact.after (h : db.Intact) (requests : List Request) : (db.after requests).Intact := by
  induction requests generalizing db with
  | nil => exact h
  | cons q rest ih => exact ih (h.after_request q)

end

/-- After any requests a database is sound. -/
theorem sound_after (requests : List Request) : (empty.after requests).Sound := by
  have intact := Intact.empty.after requests
  generalize empty.after requests = db at intact
  refine
    { intact := intact
      carriedOut := fun q db' => intact.carriedOut
      refused := fun q e => intact.refused
      deliver_fails := ?_
      delivered := ?_
      delete_fails := ?_
      deleted := ?_ }
  · intro a r
    simp only [deliver_fails_iff, packed_fails_iff, not_admits_iff]
  · intro a r db' h
    obtain ⟨bytes, hpacked, _, rfl⟩ := deliver_eq_ok_iff.mp h
    exact ⟨bytes, hpacked, replaced_replace db (rowOf a r bytes) a.postProcessor⟩
  · intro id
    constructor
    · rintro ⟨e, h⟩
      cases hfind : db.find? id with
      | none => rfl
      | some row =>
        rw [delete_eq_ok_iff.mpr ⟨⟨row, hfind⟩, rfl⟩] at h
        cases h
    · exact fun h => ⟨_, delete_of_none h⟩
  · intro id db' h
    obtain ⟨_, rfl⟩ := delete_eq_ok_iff.mp h
    exact replaced_remove db id

end Database

end CallReplay
