import CallReplay.Proofs.Except
import CallReplay.Proofs.Frame
import CallReplay.Store

/-!
# Rows of a database

A request changes a database in one of two ways: a row of a sampler is dropped with what is attached
to it (`remove`), or a row takes the place of the one with its id, at the end (`replace`). When a
delivery is a replacement is told by `deliver_eq_ok_iff`. Both ways keep a database intact: ids are
unique, and what is attached is attached to a sampler that is kept.
-/

namespace CallReplay.Database

variable {db db' : Database} {id other : ArtifactId} {row : SamplerRow}
  {added : Option PostProcessor} {p : PostProcessor} {a : Artifacts} {r : CallRecord}

/-- An id has no row if all rows have others. -/
lemma find?_eq_none_iff : db.find? id = none ↔ ∀ row ∈ db.samplers, row.sampler.id ≠ id := by
  simp [find?]

/-- A row that is found is in the table and has the id that was looked for. -/
lemma mem_of_find? (h : db.find? id = some row) : row ∈ db.samplers ∧ row.sampler.id = id := by
  have hid := List.find?_some h
  exact ⟨List.mem_of_find?_eq_some h, eq_of_beq hid⟩

/-- An id has a row if one of the table has it. -/
lemma isSome_find?_iff : (db.find? id).isSome ↔ ∃ row ∈ db.samplers, row.sampler.id = id := by
  simp [find?]

/-- Removing an id takes its row away and no other. -/
@[simp]
lemma find?_remove (db : Database) (id other : ArtifactId) :
    (db.remove id).find? other = if other = id then none else db.find? other := by
  rw [find?, remove, List.find?_filter]
  split
  next h =>
    subst h
    simp
  next h =>
    rw [find?]
    congr 1
    funext row
    grind

/-- The database with a row in the place of the one with the same id, and a post-processor in the
place of those attached to it. -/
def replace (db : Database) (row : SamplerRow) (added : Option PostProcessor) : Database where
  samplers := (db.remove row.sampler.id).samplers ++ [row]
  postProcessors := (db.remove row.sampler.id).postProcessors ++ added.toList

/-- Replacing puts a row under its id and changes no other. -/
@[simp]
lemma find?_replace (db : Database) (row : SamplerRow) (added : Option PostProcessor)
    (other : ArtifactId) :
    (db.replace row added).find? other = if other = row.sampler.id then some row
    else db.find? other := by
  have rest := find?_remove db row.sampler.id other
  rw [find?] at rest ⊢
  rw [replace, List.find?_append, rest]
  split
  next h => simp [h]
  next h =>
    have hrow : (row.sampler.id == other) = false := beq_false_of_ne (Ne.symm h)
    simp [hrow]

/-- A post-processor may be delivered with a sampler: nothing that stays has its id, and the sampler
that it runs after is delivered with it or kept already. -/
structure Admits (db : Database) (id : ArtifactId) (p : PostProcessor) : Prop where
  free : ∀ q ∈ db.postProcessors, q.id = p.id → q.runsAfter = id
  placed : p.runsAfter = id ∨ ∃ row, db.find? p.runsAfter = some row

/-- A post-processor is attached if its id is free and its sampler has a row. -/
lemma attach_eq_ok_iff : db.attach p = .ok db' ↔
    (∀ q ∈ db.postProcessors, q.id ≠ p.id) ∧ (∃ row, db.find? p.runsAfter = some row) ∧
      db' = { db with postProcessors := db.postProcessors ++ [p] } := by
  rw [attach]
  split
  next taken =>
    obtain ⟨q, hq, hid⟩ := List.any_eq_true.mp taken
    have : ¬ ∀ q ∈ db.postProcessors, q.id ≠ p.id := fun free => free q hq (eq_of_beq hid)
    simp [this]
  next free =>
    have hfree : ∀ q ∈ db.postProcessors, q.id ≠ p.id := by simpa using free
    cases db.find? p.runsAfter with
    | none => simp
    | some row => simpa [eq_comm] using fun _ q hq => (hfree q hq).symm

/-- What is delivered with a sampler can be attached after the sampler has been put in if it
may be delivered. -/
lemma attach_replace_eq_ok_iff : (db.replace row none).attach p = .ok db' ↔
    db.Admits row.sampler.id p ∧ db' = db.replace row (some p) := by
  have free : (∀ q ∈ (db.replace row none).postProcessors, q.id ≠ p.id) ↔
      ∀ q ∈ db.postProcessors, q.id = p.id → q.runsAfter = row.sampler.id := by
    simp only [replace, remove, Option.toList_none, List.append_nil, List.mem_filter, bne_iff_ne]
    grind
  have placed : (∃ found, (db.replace row none).find? p.runsAfter = some found) ↔
      p.runsAfter = row.sampler.id ∨ ∃ found, db.find? p.runsAfter = some found := by
    rw [find?_replace]
    split
    next h => simp [h]
    next h => simp [h]
  rw [attach_eq_ok_iff, free, placed]
  constructor
  · rintro ⟨hfree, hplaced, rfl⟩
    exact ⟨⟨hfree, hplaced⟩, by simp [replace]⟩
  · rintro ⟨⟨hfree, hplaced⟩, rfl⟩
    exact ⟨hfree, hplaced, by simp [replace]⟩

/-- What is kept of a record: its bytes, if the call has ended. -/
lemma packed_eq_ok_iff {bytes : Option (List UInt8)} : packed r = .ok bytes ↔
    (r.isCompleted = false ∧ bytes = none) ∨ ∃ b, r.pack = .ok b ∧ bytes = some b := by
  have completed : ∀ b, r.pack = .ok b → r.isCompleted = true := by
    intro b hb
    obtain ⟨outcome, houtcome, _⟩ := CallRecord.pack_eq_ok_iff.mp hb
    rw [CallRecord.isCompleted, houtcome, Option.isSome_some]
  rw [packed]
  split
  next h =>
    cases hpack : r.pack with
    | ok b => simp [h, eq_comm]
    | error e => simp [h]
  next h =>
    have pending : ∀ b, r.pack ≠ .ok b := fun b hb => h (completed b hb)
    simp [h, pending, eq_comm]

/-- A record cannot be stored if its call has ended and it cannot be packed. -/
lemma packed_fails_iff : (∃ e, packed r = .error e) ↔ r.isCompleted ∧ ∃ e, r.pack = .error e := by
  rw [packed]
  split
  next h => cases hpack : r.pack <;> simp [h]
  next h => simp [h]

/-- The row of a sampler for a call. -/
def rowOf (a : Artifacts) (r : CallRecord) (bytes : Option (List UInt8)) : SamplerRow :=
  ⟨a.sampler, r.index, r.signature.full, bytes⟩

/-- The sampler is put in first, and then what is delivered with it is attached. -/
lemma deliver_eq (db : Database) (a : Artifacts) (r : CallRecord) :
    db.deliver a r = packed r >>= fun bytes =>
      match a.postProcessor with
      | some p => (db.replace (rowOf a r bytes) none).attach p
      | none => .ok (db.replace (rowOf a r bytes) none) := by
  have put : ∀ row : SamplerRow,
      ⟨(db.remove row.sampler.id).samplers ++ [row], (db.remove row.sampler.id).postProcessors⟩ =
        db.replace row none := by
    intro row
    rw [replace, Option.toList_none, List.append_nil]
  rw [deliver]
  refine bind_congr fun bytes => ?_
  cases a.postProcessor with
  | none => exact congrArg Except.ok (put (rowOf a r bytes))
  | some p => exact congrArg (attach · p) (put (rowOf a r bytes))

/-- A delivery puts in the sampler and what is delivered with it, if that is admitted. -/
lemma deliver_eq_ok_iff : db.deliver a r = .ok db' ↔
    ∃ bytes, packed r = .ok bytes ∧ (∀ p, a.postProcessor = some p → db.Admits a.sampler.id p) ∧
      db' = db.replace (rowOf a r bytes) a.postProcessor := by
  rw [deliver_eq, bind_eq_ok_iff]
  refine exists_congr fun bytes => and_congr_right fun _ => ?_
  cases a.postProcessor with
  | none => simp [eq_comm]
  | some p => simp [attach_replace_eq_ok_iff, rowOf]

/-- What is loaded from a database is what was kept of the record that was delivered. -/
lemma load_of_deliver {a : Artifacts} {r : CallRecord} {kept : Option (List UInt8)}
    (hkept : packed r = .ok kept) (h : db.deliver a r = .ok db') :
    db'.load a.sampler.id = .ok kept := by
  obtain ⟨bytes, hbytes, _, rfl⟩ := deliver_eq_ok_iff.mp h
  cases hkept.symm.trans hbytes
  have found : (db.replace (rowOf a r kept) a.postProcessor).find? a.sampler.id =
      some (rowOf a r kept) := by
    rw [find?_replace]
    exact if_pos rfl
  rw [load, find, found]
  rfl

/-- A delivery fails if the record cannot be packed or a post-processor is not admitted. -/
lemma deliver_fails_iff : (∃ e, db.deliver a r = .error e) ↔
    (∃ e, packed r = .error e) ∨ ∃ p, a.postProcessor = some p ∧ ¬ db.Admits a.sampler.id p := by
  constructor
  · rintro ⟨e, h⟩
    by_contra hnot
    simp only [not_or, not_exists, not_and, not_not] at hnot
    obtain ⟨hpacks, hadmits⟩ := hnot
    cases hpacked : packed r with
    | error e => exact hpacks e hpacked
    | ok bytes =>
      have delivered := deliver_eq_ok_iff.mpr ⟨bytes, hpacked, hadmits, rfl⟩
      rw [delivered] at h
      cases h
  · intro h
    cases hdeliver : db.deliver a r with
    | error e => exact ⟨e, rfl⟩
    | ok db' =>
      obtain ⟨bytes, hpacked, hadmits, _⟩ := deliver_eq_ok_iff.mp hdeliver
      rcases h with ⟨e, he⟩ | ⟨p, hp, hnot⟩
      · rw [hpacked] at he
        cases he
      · exact absurd (hadmits p hp) hnot

/-- A sampler is deleted with what belongs to it if it has a row. -/
lemma delete_eq_ok_iff : db.delete id = .ok db' ↔ (∃ row, db.find? id = some row) ∧
    db' = db.remove id := by
  rw [delete, bind_eq_ok_iff, find]
  cases db.find? id with
  | none => simp
  | some row => simp [pure, Except.pure, eq_comm]

/-- A sampler without a row cannot be deleted. -/
lemma delete_of_none (h : db.find? id = none) : db.delete id = .error (.notFound id) := by
  rw [delete, find, h]
  rfl

/-- A database as requests leave it. -/
structure Intact (db : Database) : Prop where
  samplerIds : (db.samplers.map fun row => row.sampler.id).Nodup
  postProcessorIds : (db.postProcessors.map PostProcessor.id).Nodup
  belongs : ∀ p ∈ db.postProcessors, ∃ row ∈ db.samplers, row.sampler.id = p.runsAfter

/-- The database without rows is intact. -/
lemma Intact.empty : Intact empty :=
  ⟨List.nodup_nil, List.nodup_nil, List.forall_mem_nil _⟩

/-- Removing an id keeps a database intact. -/
lemma Intact.remove (h : db.Intact) (id : ArtifactId) : (db.remove id).Intact where
  samplerIds := h.samplerIds.sublist (List.filter_sublist.map _)
  postProcessorIds := h.postProcessorIds.sublist (List.filter_sublist.map _)
  belongs := by
    intro p hp
    obtain ⟨hp, hother⟩ := List.mem_filter.mp hp
    obtain ⟨row, hrow, hid⟩ := h.belongs p hp
    refine ⟨row, List.mem_filter.mpr ⟨hrow, ?_⟩, hid⟩
    rw [hid]
    exact hother

/-- Nothing is attached to a sampler that is not kept. -/
lemma Intact.remove_of_none (h : db.Intact) (absent : db.find? id = none) : db.remove id = db := by
  have hrows := find?_eq_none_iff.mp absent
  have samplers : db.samplers.filter (fun row => row.sampler.id != id) = db.samplers :=
    List.filter_eq_self.mpr fun row hrow => bne_iff_ne.mpr (hrows row hrow)
  have postProcessors : db.postProcessors.filter (fun p => p.runsAfter != id) =
      db.postProcessors := by
    refine List.filter_eq_self.mpr fun p hp => ?_
    obtain ⟨row, hrow, hid⟩ := h.belongs p hp
    rw [← hid]
    exact bne_iff_ne.mpr (hrows row hrow)
  rw [Database.remove, samplers, postProcessors]

/-- A replacement keeps a database intact if what it puts in is admitted. -/
lemma Intact.replace (h : db.Intact) (admitted : ∀ p, added = some p → db.Admits row.sampler.id p) :
    (db.replace row added).Intact where
  samplerIds := by
    have rest := (h.remove row.sampler.id).samplerIds
    have dropped :
        ∀ other ∈ (db.remove row.sampler.id).samplers, other.sampler.id ≠ row.sampler.id :=
      find?_eq_none_iff.mp (by simp)
    rw [Database.replace, List.map_append, List.nodup_append]
    exact ⟨rest, List.nodup_singleton _, by simpa using dropped⟩
  postProcessorIds := by
    have rest := (h.remove row.sampler.id).postProcessorIds
    rw [Database.replace, List.map_append, List.nodup_append]
    cases hadded : added with
    | none => simpa using rest
    | some p =>
      refine ⟨rest, List.nodup_singleton _, ?_⟩
      simp only [Option.toList_some, List.map_cons, List.map_nil, List.mem_singleton, List.mem_map]
      rintro _ ⟨q, hq, rfl⟩ _ rfl hid
      obtain ⟨hq, hother⟩ := List.mem_filter.mp hq
      have same := (admitted p hadded).free q hq hid
      simp [same] at hother
  belongs := by
    have kept : ∀ other, other = row.sampler.id ∨ (∃ found, db.find? other = some found) →
        ∃ found ∈ (db.replace row added).samplers, found.sampler.id = other := by
      intro other hother
      rw [← isSome_find?_iff, find?_replace]
      split
      next => rfl
      next h =>
        obtain ⟨found, hfound⟩ := hother.resolve_left h
        rw [hfound, Option.isSome_some]
    intro p hp
    refine kept p.runsAfter ?_
    rcases List.mem_append.mp hp with hp | hp
    · obtain ⟨found, hfound, hid⟩ := h.belongs p (List.mem_filter.mp hp).1
      exact .inr (Option.isSome_iff_exists.mp (isSome_find?_iff.mpr ⟨found, hfound, hid⟩))
    · exact (admitted p (Option.mem_toList.mp hp)).placed

end CallReplay.Database
