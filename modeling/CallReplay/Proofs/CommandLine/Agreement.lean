import CallReplay.Proofs.CommandLine.Generate
import CallReplay.Proofs.Http.PostedRecords

/-!
# The command line agrees with the server

The record of a call leads to the same artifacts whether it is posted to a session or given to
`generate` in the place that the session would give it. Both refuse what cannot be unpacked or is
nested too deep, and neither fails at anything else. What differs is that the server does not look
at a body beyond its limit.
-/

namespace CallReplay

open Http
open CommandLine (Generation Command Report)

/-- A run of `generate` is given the options of a server, the place that a session gives to its next
call, and so many bytes in the file of the record. -/
structure CommandLine.Generation.Matches (g : Generation) (f : Folder) (options : RecorderOptions)
    (session : Session) (stem : Option String) (bytes : List UInt8) : Prop where
  options : CommandLine.Configures f g.config options
  record : f.read (Text.Utf8.encode g.file) = .ok bytes
  target : g.target = session.target
  index : g.index = session.nextIndex
  scope : g.scope = session.id.text
  stem : g.stem = stem

/-- How a run and the folder after it go together with the server and the answer after a post. -/
structure Session.Agree (session : Session) (format : DatabaseFormat) (kept : Option OpenDatabase)
    (ended : Report × Folder) (answer : Server × Response) : Prop where
  exits : ended.1.exit = 0 ∨ ended.1.exit = 1
  accepted : ended.1.exit = 0 ↔ answer.2.status = .ok
  refused : ended.1.exit = 1 ↔ answer.2.status = .badRequest
  /-- The same artifacts are printed, answered and kept, with the same packed record. -/
  artifacts : ended.1.exit = 0 → ∃ a shown packed, ended.1 = .result (Json.ofArtifacts a) ∧
    answer.2 = .json (Json.ofRecorded ⟨session.id, session.nextIndex, a⟩) ∧
    shown.sampler = a.sampler ∧ shown.postProcessor = a.postProcessor ∧
    answer.1.database.get a.sampler.id = .ok shown ∧
    answer.1.database.load a.sampler.id = .ok packed ∧
    ∀ db place, kept = some db → db.place = some place →
    ∃ stored, place.Holds format ended.2 stored ∧
      stored.get a.sampler.id = .ok shown ∧ stored.load a.sampler.id = .ok packed

namespace Session

variable {session : Session} {format : DatabaseFormat} {kept : Option OpenDatabase}
  {ended : Report × Folder} {answer : Server × Response}

/-- Both agree if both refuse the record. -/
lemma Agree.of_refused (failed : ended.1.exit = 1) (told : answer.2.status = .badRequest) :
    session.Agree format kept ended answer where
  exits := .inr failed
  accepted := by simp [failed, told]
  refused := by simp [failed, told]
  artifacts := by simp [failed]

/-- Both agree if both make the same artifacts and keep them. -/
lemma Agree.of_recorded {a : Artifacts} {shown : StoredArtifact} {packed : Option (List UInt8)}
    (printed : ended.1 = .result (Json.ofArtifacts a))
    (told : answer.2 = .json (Json.ofRecorded ⟨session.id, session.nextIndex, a⟩))
    (sampler : shown.sampler = a.sampler) (postProcessor : shown.postProcessor = a.postProcessor)
    (gets : answer.1.database.get a.sampler.id = .ok shown)
    (loads : answer.1.database.load a.sampler.id = .ok packed)
    (keeps : ∀ db place, kept = some db → db.place = some place → ∃ stored,
      place.Holds format ended.2 stored ∧ stored.get a.sampler.id = .ok shown ∧
      stored.load a.sampler.id = .ok packed) :
    session.Agree format kept ended answer := by
  have exit : ended.1.exit = 0 := by
    rw [printed]
    rfl
  have status : answer.2.status = .ok := by
    rw [told]
    rfl
  exact ⟨.inl exit, by simp [exit, status], by simp [exit, status],
    fun _ => ⟨a, shown, packed, printed, told, sampler, postProcessor, gets, loads, keeps⟩⟩

end Session

section

variable {s : Server} {p : Post} {session : Session} {r annotated : CallRecord} {a : Artifacts}

/-- What is made of a record that was unpacked is kept alike in all databases that derive
no id twice. -/
lemma delivers_alike {options : RecorderOptions} {bytes : List UInt8} {stem : Option String}
    (hbody : CallRecord.unpack bytes = .ok r)
    (hannotated : (Server.place session r).annotateIf stem = .ok annotated)
    (hmade : Recorder.artifacts options annotated = .ok a) :
    ∃ packed, Database.packed annotated = .ok packed ∧
      ∀ db : Database, db.Made → db.DerivesApart (.ofRecord (Server.place session r)) →
        ∃ db', db.deliver a annotated = .ok db' ∧
          db'.get a.sampler.id =
            .ok ⟨session.nextIndex, r.signature.full, a.sampler, a.postProcessor⟩ ∧
          db'.load a.sampler.id = .ok packed := by
  obtain ⟨_, first⟩ :=
    Server.deliver_of_unpack Database.made_empty (List.forall_mem_nil _) hbody rfl hannotated hmade
  obtain ⟨packed, packs, _⟩ := Database.deliver_eq_ok_iff.mp first
  refine ⟨packed, packs, fun db made apart => ?_⟩
  obtain ⟨_, delivers⟩ := Server.deliver_of_unpack made apart hbody rfl hannotated hmade
  exact ⟨_, delivers, get_recorded (s := ⟨options, .empty, db⟩) (p := ⟨session.id, stem, bytes⟩) db
    hannotated hmade,
    Database.load_of_deliver packs delivers⟩

section

variable {f : Folder} {g : Generation} {options : RecorderOptions} {bytes : List UInt8}
  {stem : Option String} {format : DatabaseFormat} {kept : Option OpenDatabase}

/-- The command line gives a record the place that the session would give it. -/
lemma CommandLine.Generation.Matches.place (same : g.Matches f options session stem bytes)
    (r : CallRecord) :
    r.placed g.index g.target g.scope = Server.place session r := by
  rw [same.index, same.target, same.scope]
  rfl

/-- The run fails on a call that is nested too deep for its search or for its script. -/
lemma outcome_generate_tooDeep (same : g.Matches f options session stem bytes)
    (opens : CommandLine.Opens f format g.database kept) (hbody : CallRecord.unpack bytes = .ok r)
    (deep : (Server.place session r).TooDeep options stem) :
    ∃ message f', f.outcome (CommandLine.generate Folder.access format g) =
    (.error (.failure 1 message), f') := by
  have limits := CallRecord.artifacts_of_unpack hbody session.nextIndex session.target
    session.id.text options stem
  rw [← Server.place, ← same.place, ← same.stem] at limits
  rw [← same.place, ← same.stem] at deep
  rcases limits with ⟨_, limit, hannotated | ⟨annotated, hannotated, hmade⟩⟩ | ⟨shallow, _⟩
  · obtain ⟨message, failed⟩ :=
      CommandLine.outcome_generate_unsearched same.options same.record hbody hannotated
    exact ⟨message, f, failed⟩
  · obtain ⟨f', failed⟩ := CommandLine.outcome_keep_failed opens hmade
    rw [CommandLine.outcome_generate_searched same.options same.record hbody hannotated]
    exact ⟨_, f', failed⟩
  · exact absurd deep shallow

end

variable {f : Folder} {format : DatabaseFormat} {g : Generation} {arguments : List String}
  {kept : Option OpenDatabase}

/-- A run of `generate` goes together with the post of the same bytes, however many these are. -/
lemma agree_of_post (lawful : format.IsLawful) (made : s.database.Made)
    (h : s.registry.find? p.session = some session)
    (parsed : Command.parse arguments = .ok (.generate g))
    (same : g.Matches f s.options session p.stem p.body)
    (opens : CommandLine.Opens f format g.database kept)
    (fresh : ∀ db, kept = some db → db.content = .empty)
    (apart : ∀ r, CallRecord.unpack p.body = .ok r →
      s.database.DerivesApart (.ofRecord (Server.place session r))) :
    session.Agree format kept ((CommandLine.runWith Folder.access format arguments).run f)
      ((s.post p).1, .ofResult Json.ofRecorded (s.post p).2) := by
  rw [CommandLine.run_of_parse parsed, CommandLine.perform]
  cases hbody : CallRecord.unpack p.body with
  | error e =>
    obtain ⟨hpost, tells, _⟩ := answers_refused h hbody
    rw [CommandLine.outcome_generate_refused same.options same.record hbody, hpost]
    exact .of_refused rfl tells.1
  | ok r =>
    have apart := apart r hbody
    rcases Server.post_of_some made h hbody apart with
      ⟨deep, limit, hpost⟩ | ⟨_, annotated, a, _, hannotated, hmade, _⟩
    · obtain ⟨message, f', failed⟩ := outcome_generate_tooDeep same opens hbody deep
      rw [failed, hpost]
      exact .of_refused rfl rfl
    · obtain ⟨packed, packs, delivers⟩ := delivers_alike hbody hannotated hmade
      obtain ⟨db, hdeliver, shown, loaded⟩ := delivers s.database made apart
      have recorded : Server.record { s with registry := s.registry.advance p.session } p
          (Server.place session r) = .ok (_, a) :=
        Server.record_eq_ok_iff.mpr ⟨annotated, db, hannotated, hmade, hdeliver, rfl⟩
      obtain ⟨stored, first, shown', loaded'⟩ :=
        delivers .empty Database.made_empty (List.forall_mem_nil _)
      obtain ⟨f', ended, holds⟩ := CommandLine.outcome_keep lawful opens fresh hmade packs first
      have searched := hannotated
      rw [← same.place, ← same.stem] at searched
      rw [Server.post_of_unpacked h hbody, recorded,
        CommandLine.outcome_generate_searched same.options same.record hbody searched, ended]
      exact .of_recorded rfl (SessionRegistry.id_of_find? h ▸ rfl) rfl rfl shown loaded
        fun d place hd hplace => ⟨stored, holds d place hd hplace, shown', loaded'⟩

end

/-- After any requests, a run of `generate` with no database or a fresh one and the post of the
same bytes go together, unless the server does not look at that many bytes; the run ends as it
would without that limit. No id may be derived from two samplers. Databases may be kept in files of
any lawful format. -/
theorem generate_agrees (options : RecorderOptions) {db : Database} (made : db.Made)
    (history : List Exchange) {id : SessionId} {session : Session}
    (h : ((Server.mk options .empty db).after history).registry.find? id = some session)
    {x : Exchange} {stem : Option String} (posts : x.request.PostsTo id stem) {f : Folder}
    {arguments : List String} {g : Generation}
    (parsed : Command.parse arguments = .ok (.generate g))
    (same : g.Matches f options session stem x.request.body) {format : DatabaseFormat}
    (lawful : format.IsLawful) {kept : Option OpenDatabase}
    (opens : CommandLine.Opens f format g.database kept)
    (fresh : ∀ db, kept = some db → db.content = .empty)
    (apart : ∀ r, CallRecord.unpack x.request.body = .ok r →
      ((Server.mk options .empty db).after history).database.DerivesApart
        (.ofRecord (Server.place session r))) :
    (x.request.body.length ≤ bodyLimit →
      session.Agree format kept ((CommandLine.runWith Folder.access format arguments).run f)
        (respond ((Server.mk options .empty db).after history) x.fresh x.request)) ∧
    (bodyLimit < x.request.body.length →
      (respond ((Server.mk options .empty db).after history) x.fresh x.request).2.status =
      .contentTooLarge ∧
        (((CommandLine.runWith Folder.access format arguments).run f).1.exit = 0 ∨
          ((CommandLine.runWith Folder.access format arguments).run f).1.exit = 1)) := by
  have agree := agree_of_post (p := ⟨id, stem, x.request.body⟩) lawful
    (made_after (s := ⟨options, .empty, db⟩) made history) h parsed
    ((options_after ⟨options, .empty, db⟩ history).symm ▸ same) opens fresh apart
  refine ⟨fun small => ?_, fun large => ⟨?_, agree.exits⟩⟩
  · rw [respond_of_posts (posts.change small)]
    exact agree
  · rw [posts.respond_tooLarge large]
    rfl

/-- The options that allow no list in a list. -/
def shallowConfig : List UInt8 := Text.Utf8.encode "\x7b\"generator\":\x7b\"max_depth\":1\x7d\x7d"

/-- A folder with the record of a call of `count` and with options. -/
def countedFolder : Folder := .ofFiles [("call.bin", countedFrame), ("options.json", shallowConfig)]

/-- A command that makes its artifacts at the index 1 and keeps them in a fresh database. -/
def countedArguments : List String :=
  ["generate", "--target", "t", "--index=1", "-s00000000-0000-0000-0000-000000000000",
    "-d", "calls.db", "--config", "options.json", "call.bin"]

/-- The settings of this command. -/
def countedGeneration : Generation :=
  ⟨"call.bin", "t", 1, (⟨0⟩ : SessionId).text, none, some "calls.db", some "options.json"⟩

/-- The database that is made for the call. -/
def countedDatabase : OpenDatabase :=
  ⟨.empty, false, some ⟨.ofText "/tmp/callrecords/calls.db", .log, .writable⟩⟩

/-- The database of the command is opened and empty. -/
lemma opens_countedDatabase :
    CommandLine.Opens countedFolder .plain countedGeneration.database (some countedDatabase) := by
  have result : (countedFolder.outcome (CommandLine.database Folder.access .plain "calls.db")).1 =
      .ok countedDatabase := by
    decide +kernel
  have changeable :
    ((countedFolder.outcome (CommandLine.database Folder.access .plain "calls.db")).2.changeable?
      (FilePath.ofText "/tmp/callrecords/calls.db").toBytes).isSome = true := by
    decide +kernel
  have opened : countedFolder.outcome (CommandLine.database Folder.access .plain "calls.db") =
      (.ok countedDatabase, _) :=
    Prod.ext result rfl
  refine ⟨_, Folder.outcome_bind_ok opened _, ?_⟩
  rintro _ ⟨⟩
  refine ⟨_, rfl, ?_⟩
  rintro _ ⟨⟩
  exact changeable

/-- The call that is recorded second in its session is recorded alike by both, and kept. -/
theorem generate_agrees_counted :
    Command.parse countedArguments = .ok (.generate countedGeneration) ∧
    ((CommandLine.run Folder.access countedArguments).run countedFolder).1.exit = 0 ∧
    (respond (shallowServer.after [opening, nestedPost]) ⟨2⟩ countedPost.request).2.status = .ok ∧
    ∃ a stored, ((CommandLine.run Folder.access countedArguments).run countedFolder).1 =
        .result (Json.ofArtifacts a) ∧
      (⟨.ofText "/tmp/callrecords/calls.db", .log, .writable⟩ : Place).Holds .plain
        ((CommandLine.run Folder.access countedArguments).run countedFolder).2 stored ∧
      stored.get a.sampler.id =
        (respond (shallowServer.after [opening, nestedPost]) ⟨2⟩ countedPost.request).1.database.get
          a.sampler.id := by
  have parsed : Command.parse countedArguments = .ok (.generate countedGeneration) := by
    decide +kernel
  have exit : ((CommandLine.run Folder.access countedArguments).run countedFolder).1.exit = 0 := by
    decide +kernel
  have same : countedGeneration.Matches countedFolder shallowServer.options ⟨⟨0⟩, "t", 1, []⟩ none
      countedFrame :=
    ⟨⟨shallowConfig, by decide +kernel, by decide +kernel⟩, by decide +kernel, rfl, rfl, rfl, rfl⟩
  have fresh : ∀ db, some countedDatabase = some db → db.content = .empty := by
    rintro _ ⟨⟩
    rfl
  have apart : ∀ r, CallRecord.unpack countedFrame = .ok r →
      (shallowServer.after [opening, nestedPost]).database.DerivesApart
        (.ofRecord (Server.place ⟨⟨0⟩, "t", 1, []⟩ r)) := by
    intro r _
    rw [after_nestedPost]
    exact List.forall_mem_nil _
  have small : countedPost.request.body.length ≤ bodyLimit := by decide +kernel
  have agree :=
    (generate_agrees shallowServer.options Database.made_empty [opening, nestedPost]
      find?_nestedPost (x := countedPost) (postsTo_record ⟨0⟩ countedFrame) parsed same
      DatabaseFormat.plain_isLawful opens_countedDatabase fresh apart).1 small
  obtain ⟨a, shown, _, printed, _, _, _, kept, _, written⟩ := agree.artifacts exit
  obtain ⟨stored, holds, shown', _⟩ := written _ _ rfl rfl
  exact ⟨parsed, exit, agree.accepted.mp exit, a, stored, printed, holds, shown'.trans kept.symm⟩

/-- A text that is no record, and is too large for a body. -/
def oversized : List UInt8 := 0 :: 0 :: List.replicate 2097151 0x61

/-- A command that makes artifacts and keeps them nowhere. -/
def plainArguments : List String :=
  ["generate", "call.bin", "--target=t", "--scope=00000000-0000-0000-0000-000000000000"]

/-- The settings of this command. -/
def plainGeneration : Generation := ⟨"call.bin", "t", 0, (⟨0⟩ : SessionId).text, none, none, none⟩

/-- The command is read as its settings. -/
lemma parse_plainArguments : Command.parse plainArguments = .ok (.generate plainGeneration) := by
  decide +kernel

/-- The record is read from the folder. -/
lemma read_callFile (record : List UInt8) :
    (Folder.ofFiles [("call.bin", record)]).read (Text.Utf8.encode "call.bin") = .ok record := by
  have place : (Folder.ofFiles []).changeable? (Text.Utf8.encode "call.bin") =
      some (.ofBytes Folder.scratch (Text.Utf8.encode "call.bin")) := by decide +kernel
  have written : (Folder.ofFiles []).write (Text.Utf8.encode "call.bin") record =
      some (.ofFiles [("call.bin", record)]) := by
    rw [Folder.write, place]
    rfl
  exact Folder.read_write written

/-- The command has the place that a first post has, whatever the record is. -/
lemma matches_plainGeneration (record : List UInt8) :
    plainGeneration.Matches (.ofFiles [("call.bin", record)]) {} ⟨⟨0⟩, "t", 0, []⟩ none record :=
  ⟨rfl, read_callFile record, rfl, rfl, rfl, rfl⟩

/-- A file that begins with an empty tag is refused. -/
lemma exit_of_untagged (rest : List UInt8) :
    ((CommandLine.run Folder.access plainArguments).run
      (.ofFiles [("call.bin", 0 :: 0 :: rest)])).1.exit = 1 := by
  have same := matches_plainGeneration (0 :: 0 :: rest)
  obtain ⟨e, refused⟩ : ∃ e, CallRecord.unpack (0 :: 0 :: rest) = .error e := ⟨_, rfl⟩
  rw [CommandLine.run, CommandLine.run_of_parse parse_plainArguments, CommandLine.perform,
    CommandLine.outcome_generate_refused same.options same.record refused]
  rfl

/-- The record is longer than what the server looks at. -/
lemma length_oversized : bodyLimit < oversized.length := by
  rw [oversized, List.length_cons, List.length_cons, List.length_replicate]
  decide

/-- The session that was opened has given out no index. -/
lemma find?_opening (options : RecorderOptions) :
    ((Server.start options).after [opening]).registry.find? ⟨0⟩ = some ⟨⟨0⟩, "t", 0, []⟩ := by
  have concat := after_concat (Server.start options) [] opening
  rw [respond_fst, change_opening] at concat
  rw [List.nil_append] at concat
  rw [concat, Server.apply, SessionRegistry.find?_start]
  exact if_pos rfl

/-- The command line refuses what the server does not look at: neither is it recorded, nor is it
told to be no record. -/
theorem generate_refuses_unread : Command.parse plainArguments = .ok (.generate plainGeneration) ∧
    plainGeneration.Matches (.ofFiles [("call.bin", oversized)]) {} ⟨⟨0⟩, "t", 0, []⟩
      none oversized ∧
    ((Server.start {}).after [opening]).registry.find? ⟨0⟩ = some ⟨⟨0⟩, "t", 0, []⟩ ∧
    (Request.record ⟨0⟩ oversized).PostsTo ⟨0⟩ none ∧
    ((CommandLine.run Folder.access plainArguments).run
      (.ofFiles [("call.bin", oversized)])).1.exit = 1 ∧
    (respond ((Server.start {}).after [opening]) ⟨1⟩ (.record ⟨0⟩ oversized)).2.status =
    .contentTooLarge := by
  have posts := postsTo_record ⟨0⟩ oversized
  refine ⟨parse_plainArguments, matches_plainGeneration _, find?_opening _, posts,
    exit_of_untagged _, ?_⟩
  rw [posts.respond_tooLarge length_oversized]
  rfl

end CallReplay
