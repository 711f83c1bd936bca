import CallReplay.CommandLine.Run
import CallReplay.Proofs.Database.Opening
import CallReplay.Proofs.Server.Posting
import CallReplay.Proofs.Store.Integrity

/-!
# Artifacts from the command line

`generate` reads its options and the record, searches the returned value, opens the database and
makes the artifacts, in this order. Each lemma says how the run ends if it gets so far. Artifacts
that could be made are kept in the database and printed, if the database can be changed.
-/

namespace CallReplay

namespace CommandLine

variable {f f' : Folder} {format : DatabaseFormat} {g : Generation} {options : RecorderOptions}
  {bytes : List UInt8} {r : CallRecord}

/-- What `generate` does with a record that was searched. -/
def keep (format : DatabaseFormat) (g : Generation) (options : RecorderOptions)
    (r : CallRecord) : ExceptT Report (StateM Folder) Report := do
  let db ← g.database.mapM (database Folder.access format)
  let a ← ExceptT.mk (pure ((Recorder.artifacts options r).mapError scriptFailure))
  if let some db := db then
    (db.deliver Folder.access format a r).adapt storeFailure
  pure (.result (Json.ofArtifacts a))

/-- Which options are named: those of a file, or else the usual ones. -/
def Configures (f : Folder) (config : Option String) (options : RecorderOptions) : Prop :=
  match config with
  | none => options = {}
  | some path => ∃ bytes, f.read (Text.Utf8.encode path) = .ok bytes ∧
      optionsOf path bytes = .ok options

/-- Whether the database that is named, if one is, can be opened and changed. -/
def Opens (f : Folder) (format : DatabaseFormat) (name : Option String)
    (kept : Option OpenDatabase) : Prop :=
  ∃ opened, f.outcome (name.mapM (database Folder.access format)) = (.ok kept, opened) ∧
    ∀ db, kept = some db → db.Writable opened

/-- A file that can be read is read. -/
lemma outcome_readFile {what path : String} (h : f.read (Text.Utf8.encode path) = .ok bytes) :
    f.outcome (readFile Folder.access what path) = (.ok bytes, f) := by
  have found : (Folder.access.read (Text.Utf8.encode path)).run f = (.ok bytes, f) := by
    rw [← h]
    rfl
  rw [readFile, Folder.outcome_bind, Folder.outcome_lift, found]
  rfl

/-- The options are those of the configuration, if there is one. -/
lemma outcome_readOptions (h : Configures f g.config options) :
    f.outcome (readOptions Folder.access g.config) = (.ok options, f) := by
  generalize g.config = config at h ⊢
  cases config with
  | none =>
    rw [show options = {} from h]
    rfl
  | some path =>
    obtain ⟨bytes, found, read⟩ := h
    rw [readOptions, Folder.outcome_bind_ok (outcome_readFile found), read]
    rfl

/-- The record is that of its file, or is refused for what is wrong with it. -/
lemma outcome_readRecord (h : f.read (Text.Utf8.encode g.file) = .ok bytes) :
    f.outcome (readRecord Folder.access g.file) = (recordOf bytes, f) := by
  rw [readRecord, Folder.outcome_bind_ok (outcome_readFile h)]
  rfl

/-- A record that cannot be unpacked is reported. -/
lemma outcome_generate_refused {e : RecordError} (configured : Configures f g.config options)
    (found : f.read (Text.Utf8.encode g.file) = .ok bytes)
    (hbody : CallRecord.unpack bytes = .error e) :
    f.outcome (generate Folder.access format g) = (.error (.failure 1 (recordMessage e)), f) := by
  have read : f.outcome (readRecord Folder.access g.file) =
      (.error (.failure 1 (recordMessage e)), f) := by
    rw [outcome_readRecord found, recordOf, hbody]
    rfl
  rw [generate, Folder.outcome_bind_ok (outcome_readOptions configured),
    Folder.outcome_bind_error read]

/-- A record that can be read is searched in its place. -/
lemma outcome_generate (configured : Configures f g.config options)
    (found : f.read (Text.Utf8.encode g.file) = .ok bytes)
    (hbody : CallRecord.unpack bytes = .ok r) :
    f.outcome (generate Folder.access format g) =
      f.outcome (ExceptT.mk (pure (annotated g.stem (r.placed g.index g.target g.scope))) >>=
        keep format g options) := by
  have read : f.outcome (readRecord Folder.access g.file) = (.ok r, f) := by
    rw [outcome_readRecord found, recordOf, hbody]
    rfl
  rw [generate, Folder.outcome_bind_ok (outcome_readOptions configured),
    Folder.outcome_bind_ok read]
  rfl

/-- A record that cannot be searched is reported. -/
lemma outcome_generate_unsearched {e : Script.ScriptError}
    (configured : Configures f g.config options)
    (found : f.read (Text.Utf8.encode g.file) = .ok bytes) (hbody : CallRecord.unpack bytes = .ok r)
    (failed : (r.placed g.index g.target g.scope).annotateIf g.stem = .error e) :
    ∃ message, f.outcome (generate Folder.access format g) = (.error (.failure 1 message), f) := by
  have searched :
    f.outcome (ExceptT.mk (pure (annotated g.stem (r.placed g.index g.target g.scope)))) =
      (.error (.failure 1 ("Error: failed to scan return value: " ++ e.message)), f) := by
    rw [Folder.outcome_mk_pure, annotated, failed]
    rfl
  rw [outcome_generate configured found hbody, Folder.outcome_bind_error searched]
  exact ⟨_, rfl⟩

/-- A record that can be searched goes on to be kept. -/
lemma outcome_generate_searched {r' : CallRecord} (configured : Configures f g.config options)
    (found : f.read (Text.Utf8.encode g.file) = .ok bytes) (hbody : CallRecord.unpack bytes = .ok r)
    (hannotated : (r.placed g.index g.target g.scope).annotateIf g.stem = .ok r') :
    f.outcome (generate Folder.access format g) = f.outcome (keep format g options r') := by
  have searched :
    f.outcome (ExceptT.mk (pure (annotated g.stem (r.placed g.index g.target g.scope)))) =
      (.ok r', f) := by
    rw [Folder.outcome_mk_pure, annotated, hannotated]
    rfl
  rw [outcome_generate configured found hbody, Folder.outcome_bind_ok searched]

/-- A record for which no artifacts can be made is reported, though its database has been opened. -/
lemma outcome_keep_failed {kept : Option OpenDatabase} {e : Script.ScriptError}
    (opens : Opens f format g.database kept) (failed : Recorder.artifacts options r = .error e) :
    ∃ f', f.outcome (keep format g options r) = (.error (scriptFailure e), f') := by
  obtain ⟨opened, opens, _⟩ := opens
  refine ⟨opened, ?_⟩
  rw [keep, Folder.outcome_bind_ok opens, failed]
  rfl

/-- Artifacts that can be delivered to a new database are kept in it and printed. -/
lemma outcome_keep {kept : Option OpenDatabase} {a : Artifacts} {packed : Option (List UInt8)}
    {content : Database} (lawful : format.IsLawful) (opens : Opens f format g.database kept)
    (fresh : ∀ db, kept = some db → db.content = .empty)
    (made : Recorder.artifacts options r = .ok a) (packs : Database.packed r = .ok packed)
    (delivers : Database.empty.deliver a r = .ok content) :
    ∃ f', f.outcome (keep format g options r) = (.ok (.result (Json.ofArtifacts a)), f') ∧
      ∀ db place, kept = some db → db.place = some place → place.Holds format f' content := by
  have intact : content.Intact := Database.Intact.empty.perform (q := .deliver a r) delivers
  obtain ⟨opened, opens, writable⟩ := opens
  rw [keep, Folder.outcome_bind_ok opens, made]
  cases kept with
  | none => exact ⟨opened, rfl, fun db place h => by cases h⟩
  | some db =>
    rw [← fresh db rfl] at delivers
    obtain ⟨f', delivered, holds⟩ :=
      OpenDatabase.outcome_deliver lawful intact (writable db rfl) packs delivers
    have passed : opened.outcome (ExceptT.mk (pure ((Except.ok a).mapError scriptFailure))) =
        (.ok a, opened) := rfl
    have delivered' : opened.outcome
        ((db.deliver Folder.access format a r).adapt storeFailure) = (.ok (), f') := by
      rw [Folder.outcome_adapt, delivered]
      rfl
    refine ⟨f', ?_, ?_⟩
    · rw [Folder.outcome_bind_ok passed]
      exact Folder.outcome_bind_ok delivered' _
    · rintro _ place ⟨⟩ hplace
      exact holds place hplace

/-- A command ends with what comes of it, be it a result or a failure. -/
lemma run_of_parse {arguments : List String} {command : Command}
    (h : Command.parse arguments = .ok command) :
    (runWith Folder.access format arguments).run f =
      match f.outcome (perform Folder.access format command) with
      | (.ok report, f') | (.error report, f') => (report, f') := by
  rw [runWith, h]
  dsimp only
  rw [StateT.run_bind, Folder.outcome]
  rcases (perform Folder.access format command).run.run f with ⟨report | report, f'⟩ <;> rfl

end CommandLine

end CallReplay
