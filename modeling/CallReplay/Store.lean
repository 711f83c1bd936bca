import CallReplay.Database.Name
import CallReplay.Database.Setup
import CallReplay.Recorder

/-!
# Keeping artifacts

Artifacts are delivered together with the record that they were made from. A `DeliveryLog` keeps
every delivery as it came. A `Database` keeps one sampler for each id, in the order in which they
were delivered last: delivering a sampler again drops the earlier one and the post-processors
attached to it. A post-processor is attached to the sampler that it runs after, which must be kept,
and its id is its own. A delivery that fails changes nothing.
-/

namespace CallReplay

open Script (ScriptError)

/-- What was delivered for one call. -/
structure Delivery where
  artifacts : Artifacts
  record : CallRecord
  deriving DecidableEq

/-- Every delivery, in the order of arrival. -/
structure DeliveryLog where
  deliveries : List Delivery
  deriving DecidableEq

namespace DeliveryLog

/-- The log before the first delivery. -/
def empty : DeliveryLog := ⟨[]⟩

/-- Adds a delivery to those before. -/
def deliver (log : DeliveryLog) (a : Artifacts) (r : CallRecord) : DeliveryLog :=
  ⟨log.deliveries ++ [⟨a, r⟩]⟩

/-- The first delivery of a sampler. -/
def find? (log : DeliveryLog) (id : ArtifactId) : Option Delivery :=
  log.deliveries.find? fun d => d.artifacts.sampler.id == id

/-- The latest delivery. -/
def last? (log : DeliveryLog) : Option Delivery := log.deliveries.getLast?

end DeliveryLog

/-- A kept sampler, with what is kept of its record. -/
structure SamplerRow where
  sampler : Sampler
  callIndex : UInt32
  signature : String
  /-- The packed record, if the call had ended when the sampler was delivered. -/
  record : Option (List UInt8)
  deriving DecidableEq

/-- The kept samplers and post-processors, each from the oldest to the newest. -/
structure Database where
  samplers : List SamplerRow
  postProcessors : List PostProcessor
  deriving DecidableEq

/-- Why a database refuses a request. -/
inductive StoreError where
  /-- The record cannot be packed. -/
  | record (cause : RecordError)
  /-- No sampler has this id. -/
  | notFound (id : ArtifactId)
  /-- Another post-processor has the same id. -/
  | postProcessorTaken
  /-- A post-processor runs after a sampler that is not kept. -/
  | noSuchSampler
  /-- The name is that of no database. -/
  | badName (cause : NameError)
  /-- There is no file that can be opened under a name. -/
  | cannotOpen (name : String)
  /-- A file that is open cannot be read or written. -/
  | inputOutput
  /-- The file holds something else than a database. -/
  | notADatabase
  /-- The database cannot be used or changed. -/
  | refused (cause : AccessError)
  /-- A database cannot be set up. -/
  | setup (step : SetupStep) (cause : AccessError)
  deriving DecidableEq

/-- What is reported about a request that a database refuses. -/
def StoreError.message : StoreError → String
  | record cause => cause.message
  | notFound id => "artifact not found: " ++ id.text
  | postProcessorTaken => "database error: UNIQUE constraint failed: post_processors.id"
  | noSuchSampler => "database error: FOREIGN KEY constraint failed"
  | badName cause => "database error: " ++ cause.message
  | cannotOpen name => "database error: unable to open database file: " ++ name
  | inputOutput => "database error: disk I/O error"
  | notADatabase => "database error: file is not a database"
  | refused cause => "database error: " ++ cause.message
  | setup step cause => step.failureMessage cause

namespace Database

/-- The database before the first delivery. -/
def empty : Database := ⟨[], []⟩

instance : Inhabited Database := ⟨empty⟩

/-- The row of a sampler. -/
def find? (db : Database) (id : ArtifactId) : Option SamplerRow :=
  db.samplers.find? fun row => row.sampler.id == id

/-- The row of a sampler, or the report that there is none. -/
def find (db : Database) (id : ArtifactId) : Except StoreError SamplerRow :=
  match db.find? id with
  | some row => .ok row
  | none => .error (.notFound id)

/-- The post-processors attached to a sampler, the oldest first. -/
def attached (db : Database) (id : ArtifactId) : List PostProcessor :=
  db.postProcessors.filter fun p => p.runsAfter == id

/-- Drops a sampler and the post-processors attached to it. -/
def remove (db : Database) (id : ArtifactId) : Database where
  samplers := db.samplers.filter fun row => row.sampler.id != id
  postProcessors := db.postProcessors.filter fun p => p.runsAfter != id

/-- Adds a post-processor. -/
def attach (db : Database) (p : PostProcessor) : Except StoreError Database :=
  if db.postProcessors.any fun q => q.id == p.id then
    .error .postProcessorTaken
  else if (db.find? p.runsAfter).isNone then
    .error .noSuchSampler
  else
    .ok { db with postProcessors := db.postProcessors ++ [p] }

/-- What is kept of a record. -/
def packed (r : CallRecord) : Except StoreError (Option (List UInt8)) :=
  if r.isCompleted then
    match r.pack with
    | .ok bytes => .ok (some bytes)
    | .error cause => .error (.record cause)
  else .ok none

/-- Keeps the artifacts of a call, in the place of what was kept for the same sampler. -/
def deliver (db : Database) (a : Artifacts) (r : CallRecord) : Except StoreError Database := do
  let bytes ← packed r
  let rest := db.remove a.sampler.id
  let row : SamplerRow := ⟨a.sampler, r.index, r.signature.full, bytes⟩
  let kept : Database := { rest with samplers := rest.samplers ++ [row] }
  match a.postProcessor with
  | some p => kept.attach p
  | none => pure kept

/-- What a listing shows of a row. -/
def summary (db : Database) (row : SamplerRow) : ArtifactSummary where
  id := row.sampler.id
  name := row.sampler.name
  callIndex := row.callIndex
  target := row.sampler.target
  method := row.sampler.method
  hasPostProcessor := !(db.attached row.sampler.id).isEmpty

/-- The kept samplers in the order of their calls; samplers of equal calls from the oldest on. -/
def list (db : Database) : List ArtifactSummary :=
  (db.samplers.mergeSort fun a b => a.callIndex ≤ b.callIndex).map db.summary

/-- A sampler with the oldest post-processor attached to it. -/
def get (db : Database) (id : ArtifactId) : Except StoreError StoredArtifact := do
  let row ← db.find id
  pure ⟨row.callIndex, row.signature, row.sampler, (db.attached id).head?⟩

/-- The packed record of a sampler. -/
def load (db : Database) (id : ArtifactId) : Except StoreError (Option (List UInt8)) := do
  let row ← db.find id
  pure row.record

/-- Deletes a sampler and the post-processors attached to it. -/
def delete (db : Database) (id : ArtifactId) : Except StoreError Database := do
  let _ ← db.find id
  pure (db.remove id)

end Database

/-- Why a call cannot be recorded. -/
inductive RecordingError where
  | script (cause : ScriptError)
  | store (cause : StoreError)
  deriving DecidableEq

/-- What is reported about artifacts that could not be made or kept. -/
def RecordingError.message : RecordingError → String
  | script cause => cause.message
  | store cause => "storage error: " ++ cause.message

namespace Recorder

/-- Makes the artifacts of a call and keeps them in a database. -/
def record (options : RecorderOptions) (r : CallRecord) (db : Database) :
    Except RecordingError (Artifacts × Database) :=
  match artifacts options r with
  | .error cause => .error (.script cause)
  | .ok a =>
    match db.deliver a r with
    | .error cause => .error (.store cause)
    | .ok db => .ok (a, db)

/-- Makes the artifacts of a call and keeps them in a log. -/
def log (options : RecorderOptions) (r : CallRecord) (deliveries : DeliveryLog) :
    Except ScriptError (Artifacts × DeliveryLog) := do
  let a ← artifacts options r
  pure (a, deliveries.deliver a r)

end Recorder

end CallReplay
