import CallReplay.Proofs.Store.Rows

/-!
# Requests as statements

A request reaches the tables as statements, which change them one after another. A statement may be
refused when others have been carried out already. Those of a delivery are a transaction: if one is
refused, what the others have done is undone. Deleting a sampler is one statement. On an intact
database the statements of a request do what the request is said to do at once (`run_deliver`,
`run_delete`), so it is carried out as a whole or not at all.
-/

namespace CallReplay

/-- Why a statement is refused. -/
inductive Refusal where
  | store (cause : StoreError)
  /-- Another sampler has the same id. -/
  | samplerTaken

/-- Statements change a database in place. What they have changed when one is refused is changed. -/
abbrev Statements := EStateM Refusal Database

namespace Statements

/-- Uses what may not be there. -/
def lift {α : Type} : Except StoreError α → Statements α
  | .ok x => pure x
  | .error e => throw (.store e)

/-- Changes a database at once, or not at all. -/
def attempt (change : Database → Except StoreError Database) : Statements Unit := do
  let db ← get
  let changed ← lift (change db)
  set changed

/-- Undoes what has been changed if a statement is refused. -/
def transaction {α : Type} (body : Statements α) : Statements α := fun db =>
  match body.run db with
  | .ok x changed => .ok x changed
  | .error e _ => .error e db

/-- Deletes the row of a sampler, and with the row the post-processors that are attached to it.
Tells how many rows of samplers have been deleted. -/
def deleteSampler (id : ArtifactId) : Statements Nat :=
  modifyGet fun db =>
    let deleted := db.samplers.filter fun row => row.sampler.id == id
    let kept := db.samplers.filter fun row => row.sampler.id != id
    (deleted.length,
    ⟨kept, db.postProcessors.filter fun p => deleted.all fun row => row.sampler.id != p.runsAfter⟩)

/-- Inserts a row, whose id must be new. -/
def insertSampler (row : SamplerRow) : Statements Unit := do
  let db ← get
  if (db.find? row.sampler.id).isSome then throw .samplerTaken
  set { db with samplers := db.samplers ++ [row] }

/-- Inserts a row in the place of the one with its id. -/
def putSampler (row : SamplerRow) : Statements Unit := do
  let _ ← deleteSampler row.sampler.id
  insertSampler row

/-- Inserts a post-processor, whose id must be new and whose sampler must be there. -/
def insertPostProcessor (p : PostProcessor) : Statements Unit := attempt (·.attach p)

/-- The statements of a delivery. The record is packed before the first one. -/
def deliver (a : Artifacts) (r : CallRecord) : Statements Unit := do
  let bytes ← lift (Database.packed r)
  transaction do
    putSampler (Database.rowOf a r bytes)
    match a.postProcessor with
    | some p => insertPostProcessor p
    | none => pure ()

/-- The statement that deletes a sampler. -/
def delete (id : ArtifactId) : Statements Unit := do
  let deleted ← deleteSampler id
  if deleted = 0 then throw (.store (.notFound id))

section

variable {db db' : Database} {α β : Type} {x : Statements α} {f : α → Statements β}
  {change : Database → Except StoreError Database} {e : StoreError}

/-- A computation goes on from the database that its first part leaves. -/
lemma run_bind_of_ok {a : α} (h : x.run db = .ok a db') : (x >>= f).run db = (f a).run db' := by
  rw [EStateM.run_bind, h]

/-- A computation ends where its first part is refused. -/
lemma run_bind_of_error {refusal : Refusal} (h : x.run db = .error refusal db') :
    (x >>= f).run db = .error refusal db' := by
  rw [EStateM.run_bind, h]

/-- A statement that is carried out changes the database as it says. -/
lemma run_attempt_of_ok (h : change db = .ok db') : (attempt change).run db = .ok () db' := by
  simp [attempt, lift, h]

/-- A statement that is refused changes nothing. -/
lemma run_attempt_of_error (h : change db = .error e) :
    (attempt change).run db = .error (.store e) db := by
  simp only [attempt, EStateM.run_bind, EStateM.run_get, h]
  rfl

/-- Statements that do the same to a database are the same there. -/
lemma run_attempt_congr {change' : Database → Except StoreError Database}
    (h : change db = change' db) :
    (attempt change).run db = (attempt change').run db := by
  simp only [attempt, EStateM.run_bind, EStateM.run_get, h]

/-- A transaction that is carried out does what its statements do. -/
lemma run_transaction_of_ok {a : α} (h : x.run db = .ok a db') :
    (transaction x).run db = .ok a db' := by
  simp only [EStateM.run, transaction] at h ⊢
  rw [h]

/-- What has been changed when a statement is refused is undone. -/
lemma run_transaction_of_error {refusal : Refusal} (h : x.run db = .error refusal db') :
    (transaction x).run db = .error refusal db := by
  simp only [EStateM.run, transaction] at h ⊢
  rw [h]

/-- The last change of a transaction decides whether anything is changed. -/
lemma run_transaction_attempt {a : α} (h : x.run db = .ok a db') :
    (transaction (x >>= fun _ => attempt change)).run db =
    (attempt fun _ => change db').run db := by
  have body := run_bind_of_ok (f := fun _ => attempt change) h
  cases hchange : change db' with
  | ok changed =>
    rw [run_attempt_of_ok hchange] at body
    exact (run_transaction_of_ok body).trans (run_attempt_of_ok rfl).symm
  | error e =>
    rw [run_attempt_of_error hchange] at body
    exact (run_transaction_of_error body).trans (run_attempt_of_error rfl).symm

/-- Nothing is attached to a sampler that is not kept, so deleting its row drops all that is
attached to it. -/
lemma run_deleteSampler (h : db.Intact) (id : ArtifactId) : (deleteSampler id).run db =
    .ok (db.samplers.filter fun row => row.sampler.id == id).length (db.remove id) := by
  have dropped : ∀ p ∈ db.postProcessors,
      ((db.samplers.filter fun row => row.sampler.id == id).all fun row =>
        row.sampler.id != p.runsAfter) = (p.runsAfter != id) := by
    intro p hp
    -- The row that a post-processor belongs to is deleted if and only if it has the id.
    obtain ⟨row, hrow, hid⟩ := h.belongs p hp
    rw [Bool.eq_iff_iff]
    simp only [List.all_eq_true, List.mem_filter, beq_iff_eq, bne_iff_ne]
    constructor
    · rintro hall rfl
      exact hall row ⟨hrow, hid⟩ hid
    · rintro hne other ⟨_, rfl⟩
      exact Ne.symm hne
  have kept := List.filter_congr dropped
  simp only [deleteSampler, EStateM.run_modifyGet, Database.remove, kept]

/-- A row that has been deleted can be inserted anew. -/
lemma run_putSampler (h : db.Intact) (row : SamplerRow) :
    (putSampler row).run db = .ok () (db.replace row none) := by
  rw [putSampler, run_bind_of_ok (run_deleteSampler h row.sampler.id)]
  simp [insertSampler, Database.replace]

/-- The statements of a delivery do what is said to be done at once. -/
theorem run_deliver (h : db.Intact) (a : Artifacts) (r : CallRecord) :
    (deliver a r).run db = (attempt (·.deliver a r)).run db := by
  cases hpacked : Database.packed r with
  | error cause =>
    have refused : db.deliver a r = .error cause := by
      rw [Database.deliver_eq, hpacked]
      rfl
    have stopped : (lift (Database.packed r)).run db = .error (.store cause) db := by
      rw [hpacked]
      rfl
    rw [deliver, run_bind_of_error stopped, run_attempt_of_error refused]
  | ok bytes =>
    have lifted : (lift (Database.packed r)).run db = .ok bytes db := by
      rw [hpacked]
      rfl
    have put := run_putSampler h (Database.rowOf a r bytes)
    rw [deliver, run_bind_of_ok lifted]
    cases hpost : a.postProcessor with
    | some p =>
      have atOnce : db.deliver a r = (db.replace (Database.rowOf a r bytes) none).attach p := by
        rw [Database.deliver_eq, hpacked, hpost]
        rfl
      exact (run_transaction_attempt put).trans (run_attempt_congr atOnce.symm)
    | none =>
      have atOnce : db.deliver a r = .ok (db.replace (Database.rowOf a r bytes) none) := by
        rw [Database.deliver_eq, hpacked, hpost]
        rfl
      have body := (run_bind_of_ok (f := fun _ => pure ()) put)
      exact (run_transaction_of_ok body).trans (run_attempt_of_ok atOnce).symm

/-- The statement that deletes a sampler does what is said to be done at once. -/
theorem run_delete (h : db.Intact) (id : ArtifactId) :
    (delete id).run db = (attempt (·.delete id)).run db := by
  rw [delete, run_bind_of_ok (run_deleteSampler h id)]
  cases hfind : db.find? id with
  | some row =>
    obtain ⟨hrow, hid⟩ := Database.mem_of_find? hfind
    have deleted : db.delete id = .ok (db.remove id) :=
      Database.delete_eq_ok_iff.mpr ⟨⟨row, hfind⟩, rfl⟩
    have some : (db.samplers.filter fun row => row.sampler.id == id).length ≠ 0 := by
      rw [Ne, List.length_eq_zero_iff, List.filter_eq_nil_iff]
      exact fun none => none row hrow (beq_iff_eq.mpr hid)
    rw [run_attempt_of_ok deleted, if_neg some]
    rfl
  | none =>
    have absent := Database.find?_eq_none_iff.mp hfind
    have none : (db.samplers.filter fun row => row.sampler.id == id).length = 0 := by
      rw [List.length_eq_zero_iff, List.filter_eq_nil_iff]
      exact fun row hrow hid => absent row hrow (eq_of_beq hid)
    rw [run_attempt_of_error (Database.delete_of_none hfind), if_pos none]
    rw [h.remove_of_none hfind]
    rfl

end

end Statements

end CallReplay
