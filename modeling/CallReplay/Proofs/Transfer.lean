import CallReplay.Proofs.Pipeline
import CallReplay.Proofs.RemoteSearch
import CallReplay.Proofs.RoundTrip

/-!
# Artifacts made on either side of a frame

A frame does not carry the declared types of parameters. They are part of the method's key, and
otherwise they are only hints for null; an argument that is null is not compiled at all, and
within an argument the compiler takes its hints from the graph. So a record that was packed and
unpacked, with the place of its call restored, makes the artifacts of the record that was packed,
up to the key.
-/

namespace CallReplay

open Wire (Countable Shallow)
open Script (ScriptError)

/-- A hint does not matter for a value that is not null. -/
lemma Script.compile_hint {heap : Heap} {options : Script.Options} {value : Value}
    (h : value.isNull = false) (name : String) (hint : Option TypeDesc) :
    compile heap options value name hint = compile heap options value name none := by
  cases value with
  | null => cases h
  | scalar | classOf | ref => rfl

/-- Behind the line of its tag a script is the same whatever the tag is. -/
lemma ArgumentsScript.exists_body (separator : String) (parts : List Script.Scriptlet)
    (names : List (Option String)) :
    ∃ body, ∀ tag, (build tag parts names).render separator = tagLine tag ++ body := by
  simp only [render, String.append_assoc]
  exact ⟨_, fun _ => rfl⟩

namespace Recorder

/-- Declared types do not matter for the arguments. -/
lemma compileArguments_types (heap : Heap) (options : Script.Options) (types : List TypeDesc)
    (index : Nat) (arguments : List Value) :
    compileArguments heap options types index arguments =
      compileArguments heap options [] index arguments := by
  induction arguments generalizing index with
  | nil => rfl
  | cons argument rest ih =>
    rw [compileArguments, compileArguments, ih]
    split
    · rfl
    · rename_i hnull
      rw [Bool.not_eq_true] at hnull
      refine bind_congr fun base => ?_
      dsimp only
      rw [Script.compile_hint hnull, List.getElem?_nil]

/-- The script for arguments is the line of the tag, and then what the arguments alone determine; so
is the failure to write one. -/
theorem argumentsText_eq (options : RecorderOptions) {a : Arguments} (h : a.values ≠ []) :
    (∃ e, ∀ r : CallRecord, r.arguments = a → argumentsText options r = .error e) ∨
      ∃ body, ∀ r : CallRecord, r.arguments = a →
        argumentsText options r = .ok (ArgumentsScript.tagLine (methodKey r) ++ body) := by
  cases hcompiled : (Script.outcome (compileArguments a.heap options.script [] 0 a.values) .empty).1
    with
  | error e =>
    refine .inl ⟨e, fun r hr => ?_⟩
    rw [argumentsText, argumentsScript_of_ne_nil (hr ▸ h), compileArguments_types, hr, hcompiled]
    rfl
  | ok compiled =>
    obtain ⟨body, hbody⟩ :=
      ArgumentsScript.exists_body options.script.separator compiled.1 compiled.2
    refine .inr ⟨body, fun r hr => ?_⟩
    rw [argumentsText, argumentsScript_of_ne_nil (hr ▸ h), compileArguments_types, hr, hcompiled]
    exact congrArg Except.ok (hbody _)

/-- Two texts, or the failures to write them, that differ at most in the tag of their first line. -/
inductive SameUpToTag (tag tag' : String) :
    Except ScriptError String → Except ScriptError String → Prop where
  | failed {e} : SameUpToTag tag tag' (.error e) (.error e)
  | equal {text} : SameUpToTag tag tag' (.ok text) (.ok text)
  | tagged {body} :
    SameUpToTag tag tag' (.ok (ArgumentsScript.tagLine tag ++ body))
      (.ok (ArgumentsScript.tagLine tag' ++ body))

/-- What is the same up to the key is the same if the keys are. -/
lemma SameUpToTag.eq {tag : String} {text text' : Except ScriptError String}
    (h : SameUpToTag tag tag text text') : text = text' := by
  cases h <;> rfl

end Recorder

namespace CallRecord

open Recorder

/-- The record with other parameter types, and the key with them. -/
def typed (r : CallRecord) (types : Option (List TypeDesc)) : CallRecord :=
  { r with argumentTypes := types, signature := .mangle r.method types }

section

variable (options : RecorderOptions) (r : CallRecord) (types : Option (List TypeDesc))

/-- Parameter types matter for the script only in its tag. -/
lemma argumentsText_typed :
    SameUpToTag (methodKey r) (methodKey (r.typed types)) (argumentsText options r)
      (argumentsText options (r.typed types)) := by
  by_cases hnil : r.arguments.values = []
  · have hnil' : (r.typed types).arguments.values = [] := hnil
    rw [argumentsText, argumentsText, argumentsScript_of_nil hnil, argumentsScript_of_nil hnil']
    exact .equal
  · rcases argumentsText_eq options hnil with ⟨e, failed⟩ | ⟨body, made⟩
    · rw [failed r rfl, failed (r.typed types) rfl]
      exact .failed
    · rw [made r rfl, made (r.typed types) rfl]
      exact .tagged

/-- Looking for remote objects pays no attention to parameter types. -/
lemma annotate_typed (stem : String) :
    (r.typed types).annotate stem =
      (r.annotate stem).map fun (count, annotated) => (count, annotated.typed types) := by
  by_cases hreturned : ∃ p, r.outcome = some (.returned p)
  · obtain ⟨p, hp⟩ := hreturned
    have hp' : (r.typed types).outcome = some (.returned p) := hp
    rw [annotate_of_returned hp, annotate_of_returned hp']
    cases RemotePath.table p stem with
    | error e => rfl
    | ok paths =>
      simp only [Except.map]
      split <;> rfl
  · have hother := not_exists.mp hreturned
    have hother' : ∀ p, (r.typed types).outcome ≠ some (.returned p) := hother
    rw [annotate_of_not_returned hother, annotate_of_not_returned hother']
    rfl

variable {r}

/-- Unknown types count as none. -/
lemma signature_typed_none (keyed : r.Keyed) (h : r.argumentTypes.getD [] = []) :
    (r.typed none).signature = r.signature := by
  rw [keyed]
  simp [typed, Signature.mangle, h]

/-- Without parameter types the artifacts are the same. -/
lemma artifacts_typed_none (keyed : r.Keyed) (h : r.argumentTypes.getD [] = []) :
    artifacts options (r.typed none) = artifacts options r := by
  have hkey : methodKey (r.typed none) = methodKey r := by
    rw [methodKey, signature_typed_none keyed h]; rfl
  have hid : ArtifactId.ofRecord (r.typed none) = ArtifactId.ofRecord r := by
    rw [ArtifactId.ofRecord, signature_typed_none keyed h]
    rfl
  have htext : argumentsText options (r.typed none) = argumentsText options r := by
    have same := argumentsText_typed options r none
    rw [hkey] at same
    exact same.eq.symm
  rw [artifacts_eq, artifacts_eq, htext, hid]
  rfl

end

/-- A record that the operations on records make: for a call or from the bytes of a frame. -/
inductive Arises : CallRecord → Prop where
  | new {index target method argumentTypes arguments} :
    Arises (.new index target method argumentTypes arguments)
  | unpack {bytes r} :
    unpack bytes = .ok r →
    Arises r
  | withOrigin {r} (index target) :
    Arises r →
    Arises (r.withOrigin index target)
  | withScope {r} (scope) :
    Arises r →
    Arises (r.withScope scope)
  | finish {r r' outcome} :
    Arises r →
    r.finish outcome = .ok r' →
    Arises r'
  | recreateArguments {r r'} :
    Arises r →
    r.recreateArguments = .ok r' →
    Arises r'
  | setRemoteReturned {r} (found) :
    Arises r →
    Arises (r.setRemoteReturned found)
  | setRemotePaths {r} (paths) :
    Arises r →
    Arises (r.setRemotePaths paths)

section

variable {r : CallRecord} {bytes : List UInt8}

/-- No operation changes what the key of a record was made of, or the key. -/
lemma Arises.keyed (h : r.Arises) : r.Keyed := by
  induction h with
  | new => exact keyed_new
  | unpack h => exact keyed_of_unpack h
  | withOrigin _ _ _ ih => exact ih
  | withScope _ _ ih => exact ih
  | @finish r r' outcome _ hfinish ih =>
    unfold CallRecord.finish at hfinish
    split at hfinish <;> cases hfinish
    exact ih
  | recreateArguments _ h ih =>
    obtain ⟨_, _, h⟩ := bind_eq_ok_iff.mp h
    cases h
    exact ih
  | setRemoteReturned _ _ ih => exact ih
  | setRemotePaths _ _ ih => exact ih

/-- The bytes kept in a record were made of its arguments, or its arguments were read from them. -/
lemma Arises.packedArguments (h : r.Arises) :
    r.packedArguments = r.arguments.pack ∨ Arguments.unpack r.packedArguments =
    .ok r.arguments := by
  induction h with
  | new => exact .inl rfl
  | unpack h => exact .inr (valid_of_unpack h).1
  | withOrigin _ _ _ ih => exact ih
  | withScope _ _ ih => exact ih
  | @finish r r' outcome _ hfinish ih =>
    unfold CallRecord.finish at hfinish
    split at hfinish <;> cases hfinish
    exact ih
  | recreateArguments _ h =>
    obtain ⟨arguments, harguments, h⟩ := bind_eq_ok_iff.mp h
    cases h
    exact .inr harguments
  | setRemoteReturned _ _ ih => exact ih
  | setRemotePaths _ _ ih => exact ih

/-- Readable arguments can be read from the bytes that are kept of them. -/
lemma Arises.unpack_packedArguments (h : r.Arises) {outcome : Outcome}
    (hframable : r.Framable outcome) (hreadable : r.arguments.Readable) :
    Arguments.unpack r.packedArguments = .ok r.arguments := by
  rcases h.packedArguments with hpacked | hread
  · rw [hpacked]
    exact (Arguments.unpack_pack (hframable.fits_arguments hpacked) hreadable.1.countable).1
      hreadable
  · exact hread

/-- A record with readable graphs that was packed is unpacked as a frame carries it. -/
lemma Arises.unpack_pack (h : r.Arises) (harguments : r.arguments.Readable)
    (houtcome : ∀ outcome, r.outcome = some outcome → outcome.payload.Readable)
    (hpack : r.pack = .ok bytes) :
    CallRecord.unpack bytes = .ok r.carried := by
  obtain ⟨outcome, hended, hframable, rfl⟩ := pack_eq_ok_iff.mp hpack
  have hreadable := houtcome outcome hended
  have hpayload := (Payload.unpack_write hframable.fits_payload hreadable.1.countable).1 hreadable
  rw [unpack_assemble hframable, hpayload, h.unpack_packedArguments hframable harguments]
  simp only [bind, Except.bind, pure, Except.pure, outcome_eta, carried, hended]

end

/-- The artifacts that a record and another one make with some options and a stem for handles. -/
structure SameArtifacts (options : RecorderOptions) (stem : String) (r r' : CallRecord) : Prop where
  /-- The scripts for the arguments are the same up to the key of the call, or fail for
  the same reason. -/
  script :
      SameUpToTag (methodKey r) (methodKey r') (argumentsText options r) (argumentsText options r')
  samplerName : samplerName options r' = samplerName options r
  target : r'.target = r.target
  method : r'.method = r.method
  /-- Looking for remote objects fails for the same reason. -/
  refused : ∀ e, r.annotate stem = .error e ↔ r'.annotate stem = .error e
  /-- It finds the same objects, which are registered by the same script. Having looked for them
  makes no difference to the bytes that a record is packed to. -/
  found : ∀ count annotated, r.annotate stem = .ok (count, annotated) →
    ∃ annotated', r'.annotate stem = .ok (count, annotated') ∧
      annotated'.remotePaths = annotated.remotePaths ∧
      resultScript options annotated' = resultScript options annotated ∧ annotated.pack = r.pack
  /-- Without parameter types all artifacts are the same, before remote objects are looked
  for and after. -/
  untyped : r.argumentTypes.getD [] = [] →
    artifacts options r' = artifacts options r ∧
      ∀ count count' annotated annotated', r.annotate stem = .ok (count, annotated) →
        r'.annotate stem = .ok (count', annotated') →
        artifacts options annotated' = artifacts options annotated

/-- A record makes the artifacts of one without parameter types. -/
lemma sameArtifacts_typed (options : RecorderOptions) (stem : String) {r : CallRecord}
    (keyed : r.Keyed) :
    SameArtifacts options stem r (r.typed none) where
  script := argumentsText_typed options r none
  samplerName := rfl
  target := rfl
  method := rfl
  refused := by
    intro e
    rw [annotate_typed, map_eq_error_iff]
  found := by
    intro count annotated h
    refine ⟨annotated.typed none, ?_, rfl, rfl, ?_⟩
    · rw [annotate_typed, h]
      rfl
    · obtain ⟨found, paths, rfl⟩ := annotate_eq h
      rfl
  untyped := by
    intro htypes
    refine ⟨artifacts_typed_none options keyed htypes, fun count count' annotated annotated' h h' =>
      ?_⟩
    rw [annotate_typed, h] at h'
    cases h'
    obtain ⟨found, paths, rfl⟩ := annotate_eq h
    exact artifacts_typed_none options (r := (r.setRemoteReturned found).setRemotePaths paths) keyed
      htypes

/-- A record whose graphs can be read back and that was not searched for remote objects yet makes
the same artifacts once it has been packed and unpacked, the place of its call restored. -/
theorem unpack_sameArtifacts {r : CallRecord} {bytes : List UInt8} (harises : r.Arises)
    (hmark : r.remoteReturned = false) (hpaths : r.remotePaths = .empty)
    (harguments : r.arguments.Readable)
    (houtcome : ∀ outcome, r.outcome = some outcome → outcome.payload.Readable)
    (hpack : r.pack = .ok bytes) :
    ∃ r', unpack bytes = .ok r' ∧
      ∀ options stem, SameArtifacts options stem r (r'.placed r.index r.target r.scope) := by
  refine ⟨r.carried, harises.unpack_pack harguments houtcome hpack, fun options stem => ?_⟩
  have restored : r.carried.placed r.index r.target r.scope = r.typed none := by
    rw [typed, hmark, hpaths]
    rfl
  rw [restored]
  exact sameArtifacts_typed options stem harises.keyed

/-- A call with two parameter types, whose first argument is null, that has returned
a remote object. -/
def typedCall : CallRecord :=
  { new 3 "p.Broker" "open" (some [.named "p.Item", .primitive .int])
    ⟨.empty, [.null, .scalar (.int 7)]⟩ with
    outcome := some (.returned ⟨⟨#[.struct ⟨"p.Stub", true, true, []⟩]⟩, .ref ⟨0⟩⟩) }

/-- The types of the call remain only in its key, and the remote object is found on both sides. -/
theorem unpack_sameArtifacts_typed : ∃ bytes r', typedCall.pack = .ok bytes ∧
    unpack bytes = .ok r' ∧
    SameUpToTag "open:p.Item,int#3" "open:#3" (argumentsText {} typedCall)
      (argumentsText {} (r'.placed 3 "p.Broker" "")) ∧
    ∃ annotated', (r'.placed 3 "p.Broker" "").annotate "s" = .ok (1, annotated') ∧
      annotated'.remotePaths.entries = [("s0", "")] := by
  have arises : typedCall.Arises := .finish .new rfl
  have arguments : typedCall.arguments.Readable := by
    refine ⟨fun t ht => ?_, rfl⟩
    simp [typedCall, new, Arguments.types, Heap.types, Heap.empty, Value.types] at ht
  have payload : ∀ outcome, typedCall.outcome = some outcome → outcome.payload.Readable := by
    rintro outcome ⟨⟩
    refine ⟨fun t ht => ?_, rfl⟩
    simp [Outcome.payload, Payload.types, Heap.types, Object.types, Value.types] at ht
  have packed : ∃ bytes, typedCall.pack = .ok bytes :=
    ⟨_, pack_eq_ok_iff.mpr ⟨_, rfl, ⟨by cbv, by cbv, by cbv⟩, rfl⟩⟩
  obtain ⟨bytes, hbytes⟩ := packed
  obtain ⟨r', hr', same⟩ := unpack_sameArtifacts arises rfl rfl arguments payload hbytes
  have key : methodKey typedCall = "open:p.Item,int#3" := by cbv
  have key' : methodKey (r'.placed 3 "p.Broker" "") = "open:#3" := by
    cases (arises.unpack_pack arguments payload hbytes).symm.trans hr'
    cbv
  have script := (same {} "s").script
  have annotated : typedCall.annotate "s" =
      .ok (1, (typedCall.setRemoteReturned true).setRemotePaths (.ofList [("s0", "")])) := by
    cbv
  obtain ⟨annotated', hannotated', hpaths, _⟩ := (same {} "s").found 1 _ annotated
  rw [← key, ← key']
  exact ⟨bytes, r', hbytes, hr', script, annotated', hannotated', by rw [hpaths]; rfl⟩

end CallRecord

end CallReplay
