import CallReplay.Database.Opening
import CallReplay.Proofs.Database.Format
import CallReplay.Proofs.Files

/-!
# Open databases and their files

What is kept in an open database is loaded from its file afterwards (`outcome_deliver`),
if the format of the file is lawful and the file can be changed. A database is empty
when it is opened under a name that leads to no file yet (`content_ofName_of_missing`),
or in memory (`content_ofName_of_transient`).
-/

namespace CallReplay

/-- The file of a database holds some content. -/
def Place.Holds (place : Place) (format : DatabaseFormat) (f : Folder) (content : Database) :
    Prop :=
  ∃ bytes, f.read place.path.toBytes = .ok bytes ∧
    format.load bytes = .ok (some ⟨place.journal, some content⟩)

namespace OpenDatabase

variable {db : OpenDatabase} {f f' : Folder} {format : DatabaseFormat} {content : Database}

/-- Whether a change can be secured and written. -/
def Writable (db : OpenDatabase) (f : Folder) : Prop :=
  ∃ secured, f.outcome (db.secure Folder.access) = (.ok (), secured) ∧
    ∀ place, db.place = some place → (secured.changeable? place.path.toBytes).isSome = true

/-- What is written to a file that can be changed is what the format saves there. -/
lemma outcome_write {place : Place} (content : Option Database)
    (changeable : (f.changeable? place.path.toBytes).isSome = true) :
    ∃ before f', f.outcome (place.write Folder.access format content) = (.ok (), f') ∧
      f'.read place.path.toBytes = .ok (format.save before ⟨place.journal, content⟩) := by
  obtain ⟨path, hpath⟩ := Option.isSome_iff_exists.mp changeable
  let before := (f.read place.path.toBytes).toOption.getD []
  obtain ⟨changed, hwrite⟩ : ∃ changed, f.write place.path.toBytes
      (format.save before ⟨place.journal, content⟩) = some changed := by
    rw [Folder.write, hpath]
    exact ⟨_, rfl⟩
  refine ⟨before, changed, ?_, Folder.read_write hwrite⟩
  have found : (Folder.access.read place.path.toBytes).run f = (f.read place.path.toBytes, f) := rfl
  have written : (Folder.access.write place.path.toBytes
      (format.save before ⟨place.journal, content⟩)).run f = (true, changed) := by
    simp only [Folder.access, Folder.attempt, StateT.run, hwrite]
  rw [Place.write, Folder.outcome_bind, Folder.outcome_lift, found]
  dsimp only
  rw [Folder.outcome_bind, Folder.outcome_lift, written]
  rfl

/-- What a database holds is replaced in its place, if it has one that can be changed. -/
lemma outcome_replace (lawful : format.IsLawful) (intact : content.Intact)
    (writable : ∀ place, db.place = some place →
      (f.changeable? place.path.toBytes).isSome = true) :
    ∃ f', f.outcome (db.replace Folder.access format content) =
        (.ok { db with content := content }, f') ∧
      ∀ place, db.place = some place → place.Holds format f' content := by
  cases hplace : db.place with
  | none =>
    refine ⟨f, ?_, fun place h => by cases h⟩
    rw [replace, hplace]
    rfl
  | some place =>
    obtain ⟨before, changed, writes, saved⟩ := outcome_write (some content) (writable place hplace)
    refine ⟨changed, ?_, ?_⟩
    · rw [replace, hplace]
      exact Folder.outcome_bind_ok writes _
    · rintro _ ⟨⟩
      refine ⟨_, saved, lawful.load_save before ?_⟩
      rintro _ ⟨⟩
      exact intact

/-- What can be kept is kept in the file of the database. -/
lemma outcome_deliver {a : Artifacts} {r : CallRecord} {packed : Option (List UInt8)}
    (lawful : format.IsLawful) (intact : content.Intact) (writable : db.Writable f)
    (packs : Database.packed r = .ok packed) (delivers : db.content.deliver a r = .ok content) :
    ∃ f', f.outcome (db.deliver Folder.access format a r) = (.ok (), f') ∧
      ∀ place, db.place = some place → place.Holds format f' content := by
  obtain ⟨secured, secures, writes⟩ := writable
  obtain ⟨f', replaced, kept⟩ := outcome_replace lawful intact writes
  refine ⟨f', ?_, kept⟩
  have secures' : f.outcome ((db.secure Folder.access).adapt StoreError.refused) =
      (.ok (), secured) := by
    rw [Folder.outcome_adapt, secures]
    rfl
  have replaced' : secured.outcome
      ((db.replace Folder.access format content).adapt StoreError.refused) =
        (.ok { db with content := content }, f') := by
    rw [Folder.outcome_adapt, replaced]
    rfl
  rw [deliver, packs, delivers, Folder.outcome_bind_ok (Folder.outcome_mk_pure ..),
    Folder.outcome_bind_ok secures', Folder.outcome_bind_ok (Folder.outcome_mk_pure ..),
    Folder.outcome_bind_ok replaced']
  rfl

/-- An open database whose content was replaced has the new one. -/
lemma content_replace {db' : OpenDatabase}
    (h : f.outcome (db.replace Folder.access format content) = (.ok db', f')) :
    db'.content = content := by
  rw [replace] at h
  cases hplace : db.place with
  | none =>
    rw [hplace] at h
    cases h
    rfl
  | some place =>
    rw [hplace] at h
    obtain ⟨_, _, _, h⟩ := Folder.outcome_bind_eq_ok_iff.mp h
    cases h
    rfl

/-- A database that has not been set up is empty when it is. -/
lemma content_setUp_none {isReadOnly : Bool} {place : Option Place}
    (h : f.outcome (setUp Folder.access format isReadOnly place none) = (.ok db, f')) :
    db.content = .empty := by
  rw [setUp] at h
  obtain ⟨_, between, _, h⟩ := Folder.outcome_bind_eq_ok_iff.mp h
  exact content_replace (Folder.outcome_adapt_eq_ok_iff.mp h)

/-- A database in memory is empty when it is opened. -/
lemma content_ofName_of_transient {text : String} {n : DatabaseName}
    (parsed : DatabaseName.parse text = .ok n) (transient : n.isTransient = true)
    (h : f.outcome (ofName Folder.access format text) = (.ok db, f')) : db.content = .empty := by
  rw [ofName] at h
  obtain ⟨_, _, named, h⟩ := Folder.outcome_bind_eq_ok_iff.mp h
  rw [parsed] at named
  cases named
  dsimp only at h
  rw [if_pos transient] at h
  split at h
  · obtain ⟨_, _, refused, _⟩ := Folder.outcome_bind_eq_ok_iff.mp h
    cases refused
  · exact content_setUp_none h

/-- Looking for the rights of a new file changes nothing. -/
lemma eq_of_outcome_checkRights {n : DatabaseName} {r : Except StoreError Unit}
    (h : f.outcome (n.checkRights Folder.access) = (r, f')) : f' = f := by
  rw [DatabaseName.checkRights] at h
  cases hrights : n.rightsFrom with
  | none =>
    rw [hrights] at h
    cases h
    rfl
  | some written =>
    have found : (Folder.access.read written).run f = (f.read written, f) := rfl
    rw [hrights] at h
    dsimp only at h
    rw [Folder.outcome_bind, Folder.outcome_lift, found] at h
    dsimp only at h
    split at h <;> cases h <;> rfl

/-- A file that is made for a database is empty. -/
lemma eq_nil_of_outcome_bytesAt {n : DatabaseName} {error : StoreError} {path : FilePath}
    {bytes : List UInt8} (missing : f.read path.toBytes = .error .missing)
    (h : f.outcome (n.bytesAt Folder.access error path) = (.ok bytes, f')) : bytes = [] := by
  have found : (Folder.access.read path.toBytes).run f = (.error .missing, f) := by
    rw [← missing]
    rfl
  rw [DatabaseName.bytesAt, Folder.outcome_bind, Folder.outcome_lift, found] at h
  dsimp only at h
  split at h
  · rw [Folder.outcome_bind, Folder.outcome_lift] at h
    dsimp only at h
    split at h
    · cases h
      rfl
    · cases h
  · cases h

/-- A database is empty when it is opened under a name that leads to no file. -/
lemma content_ofName_of_missing {text : String} {n : DatabaseName} {path : FilePath}
    (lawful : format.IsLawful) (parsed : DatabaseName.parse text = .ok n)
    (placed : n.isTransient = false)
    (located : f.outcome (n.locate Folder.access (.cannotOpen text)) = (.ok path, f))
    (missing : f.read path.toBytes = .error .missing)
    (h : f.outcome (ofName Folder.access format text) = (.ok db, f')) : db.content = .empty := by
  rw [ofName] at h
  obtain ⟨_, _, named, h⟩ := Folder.outcome_bind_eq_ok_iff.mp h
  rw [parsed] at named
  cases named
  dsimp only at h
  rw [if_neg (by simp [placed]), Folder.outcome_bind_ok located] at h
  obtain ⟨_, checked, rights, opened⟩ := Folder.outcome_bind_eq_ok_iff.mp h
  rw [eq_of_outcome_checkRights rights] at opened
  obtain ⟨_, _, made, h⟩ := Folder.outcome_bind_eq_ok_iff.mp opened
  obtain rfl := eq_nil_of_outcome_bytesAt missing made
  -- However the side files are settled, nothing is loaded from the empty file.
  split at h
  all_goals
    obtain ⟨_, _, _, h⟩ := Folder.outcome_bind_eq_ok_iff.mp h
    obtain ⟨_, _, loaded, h⟩ := Folder.outcome_bind_eq_ok_iff.mp h
    rw [lawful.load_nil] at loaded
    cases loaded
    obtain ⟨_, _, _, h⟩ := Folder.outcome_bind_eq_ok_iff.mp h
    exact content_setUp_none h

end OpenDatabase

end CallReplay
