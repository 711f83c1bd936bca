import CallReplay.Proofs.Frame
import CallReplay.Proofs.RemotePath
import CallReplay.Proofs.Script.Depth

/-!
# Records that were unpacked go through the pipeline

Unpacking checks both graphs of a record. That is all that the later stages rely on: looking for
remote objects and generating artifacts can then fail only because objects are nested too deep,
which takes a chain of distinct objects that is longer than the limit, and generation gives the same
with a higher limit.
-/

namespace CallReplay

open Script (ScriptError outcome)

/-- The options with another limit on nesting. -/
def RecorderOptions.withMaxDepth (options : RecorderOptions) (limit : Nat) : RecorderOptions :=
  { options with script := { options.script with maxDepth := limit } }

namespace Recorder

variable {options : RecorderOptions} {r : CallRecord}

/-- The script for valid arguments is written unless they are nested too deep. -/
lemma argumentsText_error {e : ScriptError} (valid : r.arguments.validate = .ok ())
    (h : argumentsText options r = .error e) :
    e = .nestingTooDeep options.script.maxDepth ∧
      r.arguments.heap.Nests r.arguments.values (options.script.maxDepth + 1) := by
  obtain ⟨sound, closed⟩ := Heap.validate_eq_ok_iff.mp valid
  rw [argumentsText, map_eq_error_iff] at h
  by_cases hnil : r.arguments.values = []
  · cases (argumentsScript_of_nil hnil).symm.trans h
  · rw [argumentsScript_of_ne_nil hnil, map_eq_error_iff] at h
    exact compileArguments_error closed sound (Prod.ext h rfl)

/-- A higher limit does not change a script. -/
lemma argumentsText_withMaxDepth {limit : Nat} {text : String}
    (hlimit : options.script.maxDepth ≤ limit) (h : argumentsText options r = .ok text) :
    argumentsText (options.withMaxDepth limit) r = .ok text := by
  rw [argumentsText] at h ⊢
  by_cases hnil : r.arguments.values = []
  · rw [argumentsScript_of_nil hnil] at h ⊢
    exact h
  · rw [argumentsScript_of_ne_nil hnil] at h ⊢
    obtain ⟨script, hscript, hrender⟩ := map_eq_ok_iff.mp h
    obtain ⟨parts, hcompiled, hbuild⟩ := map_eq_ok_iff.mp hscript
    have wider :=
      extendedBy_compileArguments hlimit 0 r.arguments.values _ _ _ (Prod.ext hcompiled rfl)
    rw [RecorderOptions.withMaxDepth, wider, ← hrender, ← hbuild]
    rfl

/-- Artifacts are made if the script is written, and are otherwise refused with its fault. -/
lemma artifacts_eq : artifacts options r = (argumentsText options r).map fun script =>
    ⟨⟨.ofRecord r, samplerName options r, r.target, r.method, script⟩,
      (resultScript options r).map fun text =>
        ⟨(ArtifactId.ofRecord r).derived postProcessorRole, postProcessorName, text, true,
          .ofRecord r⟩⟩ := by
  rw [artifacts]
  cases argumentsText options r <;> rfl

end Recorder

namespace CallRecord

/-- What generation makes of a record. -/
structure Generates (r : CallRecord) (options : RecorderOptions) : Prop where
  /-- It fails only if a chain of objects that starts at an argument is longer than the limit. -/
  tooDeep : ∀ e, Recorder.artifacts options r = .error e →
    e = .nestingTooDeep options.script.maxDepth ∧
      r.arguments.heap.Nests r.arguments.values (options.script.maxDepth + 1)
  /-- It succeeds if the arguments lead to no more objects than the limit. -/
  shallow :
      ∀ ids : List ObjectId, (∀ id, r.arguments.heap.Reaches r.arguments.values id → id ∈ ids) →
    ids.length ≤ options.script.maxDepth → ∃ artifacts, Recorder.artifacts options r = .ok artifacts
  /-- With a higher limit it gives the same. -/
  deeper : ∀ limit artifacts, options.script.maxDepth ≤ limit →
    Recorder.artifacts options r = .ok artifacts →
    Recorder.artifacts (options.withMaxDepth limit) r = .ok artifacts

/-- Generation works on valid arguments that are not nested too deep. -/
lemma generates_of_valid {r : CallRecord} {options : RecorderOptions}
    (valid : r.arguments.validate = .ok ()) : r.Generates options := by
  have tooDeep : ∀ e, Recorder.artifacts options r = .error e →
      e = .nestingTooDeep options.script.maxDepth ∧
        r.arguments.heap.Nests r.arguments.values (options.script.maxDepth + 1) := by
    intro e h
    rw [Recorder.artifacts_eq, map_eq_error_iff] at h
    exact Recorder.argumentsText_error valid h
  refine ⟨tooDeep, fun ids hall hlength => ?_, fun limit artifacts hlimit h => ?_⟩
  -- A failure would need a chain of more objects than there are.
  · cases hartifacts : Recorder.artifacts options r with
    | ok artifacts => exact ⟨artifacts, rfl⟩
    | error e =>
      have longer := (tooDeep e hartifacts).2.length_le hall
      exact absurd (Nat.le_trans longer hlength) (Nat.not_succ_le_self _)
  · rw [Recorder.artifacts_eq] at h ⊢
    obtain ⟨text, htext, rfl⟩ := map_eq_ok_iff.mp h
    rw [Recorder.argumentsText_withMaxDepth hlimit htext]
    rfl

end CallRecord

/-- Arguments that were unpacked have a valid graph. -/
lemma Arguments.validate_of_unpack {bytes : List UInt8} {a : Arguments} (h : unpack bytes = .ok a) :
    a.validate = .ok () := by
  unfold Arguments.unpack at h
  split at h
  · cases h
  · split at h
    · split at h
      · cases h
      · split at h
        · cases h
        · rename_i valid
          cases h
          exact valid
    · cases h

/-- A payload that was unpacked has a valid graph. -/
lemma Payload.validate_of_unpack {bytes : List UInt8} {p : Payload} (h : unpack bytes = .ok p) :
    p.validate = .ok () := by
  unfold Payload.unpack at h
  split at h
  · cases h
  · split at h
    · cases h
    · rename_i valid
      cases h
      exact valid

namespace Frame

open Wire (run_bind_eq_ok_iff)

/-- A payload that was read from a frame has a valid graph. -/
lemma validate_of_readPayload {bytes rest : List UInt8} {p : Payload}
    (h : readPayload.run bytes = .ok (p, rest)) : p.validate = .ok () := by
  rw [readPayload_eq] at h
  obtain ⟨block, _, hblock⟩ := run_thenDecode_eq_ok_iff.mp h
  exact Payload.validate_of_unpack hblock

/-- The outcome of a frame that was read is valid. -/
lemma validate_of_readContent {bytes rest : List UInt8} {content : Content}
    (h : readContent.run bytes = .ok (content, rest)) :
    content.outcome.payload.validate = .ok () := by
  simp only [readContent, run_bind_eq_ok_iff] at h
  obtain ⟨_, _, _, method, _, _, packed, _, _, _, _, _, isThrown, _, _, payload, _, hpayload, _, _,
    _, _, _, _, hcontent⟩ := h
  cases hcontent
  cases isThrown <;> exact validate_of_readPayload hpayload

end Frame

namespace CallRecord

/-- The record with the place of its call and the recording that the call belongs to. -/
def placed (r : CallRecord) (index : UInt32) (target scope : String) : CallRecord :=
  (r.withOrigin index target).withScope scope

/-- A record that was unpacked has valid arguments, which its packed bytes stand for, and a valid
outcome. -/
lemma valid_of_unpack {bytes : List UInt8} {r : CallRecord} (h : unpack bytes = .ok r) :
    Arguments.unpack r.packedArguments = .ok r.arguments ∧ r.arguments.validate = .ok () ∧
      ∃ outcome, r.outcome = some outcome ∧ outcome.payload.validate = .ok () := by
  obtain ⟨⟨content, rest⟩, hcontent, h⟩ := bind_eq_ok_iff.mp h
  obtain ⟨arguments, harguments, h⟩ := bind_eq_ok_iff.mp h
  cases h
  exact ⟨harguments, Arguments.validate_of_unpack harguments, content.outcome, rfl,
    Frame.validate_of_readContent hcontent⟩

/-- Looking for remote objects fails as walking the returned value does. -/
lemma annotate_error {r : CallRecord} {stem : String} {e : ScriptError}
    (h : r.annotate stem = .error e) :
    ∃ p, r.outcome = some (.returned p) ∧ RemotePath.table p stem = .error e := by
  unfold annotate at h
  split at h
  · rename_i p houtcome
    rcases bind_eq_error_iff.mp h with htable | ⟨paths, _, hpaths⟩
    · exact ⟨p, houtcome, htable⟩
    · split at hpaths <;> cases hpaths
  · cases h

/-- Looking for remote objects changes at most what is noted of them. -/
lemma annotate_eq {r annotated : CallRecord} {stem : String} {count : Nat}
    (h : r.annotate stem = .ok (count, annotated)) :
    ∃ found paths, annotated = (r.setRemoteReturned found).setRemotePaths paths := by
  unfold annotate at h
  split at h
  · obtain ⟨paths, _, hpaths⟩ := bind_eq_ok_iff.mp h
    split at hpaths <;> cases hpaths
    · exact ⟨r.remoteReturned, r.remotePaths, rfl⟩
    · exact ⟨true, paths, rfl⟩
  · cases h
    exact ⟨r.remoteReturned, r.remotePaths, rfl⟩

/-- Looking for remote objects does not change the arguments. -/
lemma arguments_of_annotate {r annotated : CallRecord} {stem : String} {count : Nat}
    (h : r.annotate stem = .ok (count, annotated)) : annotated.arguments = r.arguments := by
  obtain ⟨found, paths, rfl⟩ := annotate_eq h
  rfl

/-- A record that was unpacked never breaks the pipeline, wherever its call was made. Its arguments
can be read again. Looking for remote objects fails only if a chain of objects that starts at the
returned value is too long, and generation does what it can do, whether remote objects were looked
for or not. -/
theorem unpack_pipeline {bytes : List UInt8} {r : CallRecord} (h : unpack bytes = .ok r)
    (index : UInt32) (target scope stem : String) (options : RecorderOptions) :
    r.recreateArguments = .ok r ∧
      (∀ e, (r.placed index target scope).annotate stem = .error e →
        e = .nestingTooDeep RemotePath.maxDepth ∧ ∃ p, r.outcome = some (.returned p) ∧
          p.heap.Nests [p.value] (RemotePath.maxDepth + 1)) ∧
      (r.placed index target scope).Generates options ∧
      ∀ count annotated, (r.placed index target scope).annotate stem = .ok (count, annotated) →
        annotated.Generates options := by
  obtain ⟨harguments, valid, outcome, houtcome, hpayload⟩ := valid_of_unpack h
  refine ⟨?_, fun e he => ?_, generates_of_valid valid, fun count annotated hannotated => ?_⟩
  · rw [recreateArguments, harguments]
    rfl
  · obtain ⟨p, hreturned, htable⟩ := annotate_error he
    change r.outcome = some (.returned p) at hreturned
    cases houtcome.symm.trans hreturned
    obtain ⟨rfl, nests⟩ := RemotePath.table_error hpayload htable
    exact ⟨rfl, p, hreturned, nests⟩
  · apply generates_of_valid
    rw [arguments_of_annotate hannotated]
    exact valid

/-- A call with a list in a list that refers back to itself, which has returned a remote object. -/
def nestedCall : CallRecord :=
  { new 0 "" "keep" none ⟨⟨#[.collection "p.List" [.ref ⟨1⟩, .ref ⟨0⟩],
      .collection "p.List" [.null]]⟩, [.ref ⟨0⟩]⟩ with
    outcome := some (.returned ⟨⟨#[.struct ⟨"p.Stub", true, true, []⟩]⟩, .ref ⟨0⟩⟩) }

/-- The arguments of the call lead to two objects. -/
lemma mem_of_reaches_nestedCall {id : ObjectId}
    (h : nestedCall.arguments.heap.Reaches nestedCall.arguments.values id) :
    id ∈ ([⟨0⟩, ⟨1⟩] : List ObjectId) := by
  induction h with
  | root hroot =>
    cases List.mem_singleton.mp hroot
    exact List.mem_cons_self
  | step _ refers ih =>
    obtain ⟨object, found, hmem⟩ := refers
    simp only [List.mem_cons, List.not_mem_nil, or_false] at ih
    rcases ih with rfl | rfl
    · cases found
      rcases List.mem_cons.mp hmem with h | h
      · cases h
        exact List.mem_cons_of_mem _ List.mem_cons_self
      · cases List.mem_singleton.mp h
        exact List.mem_cons_self
    · cases found
      cases List.mem_singleton.mp hmem

set_option maxRecDepth 10000 in
/-- Room for one object is too little for two, and any more room gives the same artifacts. -/
theorem unpack_pipeline_nested : ∃ bytes, unpack bytes = .ok nestedCall ∧
    Recorder.artifacts (RecorderOptions.withMaxDepth {} 1) (nestedCall.placed 7 "p.Remote" "s") =
      .error (.nestingTooDeep 1) ∧
    nestedCall.arguments.heap.Nests nestedCall.arguments.values 2 ∧
    ∃ artifacts, ∀ limit, 2 ≤ limit → Recorder.artifacts (RecorderOptions.withMaxDepth {} limit)
      (nestedCall.placed 7 "p.Remote" "s") = .ok artifacts := by
  have unpacked : unpack (Frame.assemble nestedCall.method nestedCall.packedArguments
      (.returned ⟨⟨#[.struct ⟨"p.Stub", true, true, []⟩]⟩, .ref ⟨0⟩⟩)) = .ok nestedCall := by cbv
  have text : Recorder.argumentsText (RecorderOptions.withMaxDepth {} 1)
      (nestedCall.placed 7 "p.Remote" "s") = .error (.nestingTooDeep 1) := by cbv
  have refused : Recorder.artifacts (RecorderOptions.withMaxDepth {} 1)
      (nestedCall.placed 7 "p.Remote" "s") = .error (.nestingTooDeep 1) := by
    rw [Recorder.artifacts_eq, text]
    rfl
  have generates (limit : Nat) := (unpack_pipeline unpacked 7 "p.Remote" "s" "remote"
    (RecorderOptions.withMaxDepth {} limit)).2.2.1
  obtain ⟨_, nests⟩ := (generates 1).tooDeep _ refused
  obtain ⟨artifacts, made⟩ := (generates 2).shallow [⟨0⟩, ⟨1⟩] (fun _ => mem_of_reaches_nestedCall)
    (Nat.le_refl 2)
  exact ⟨_, unpacked, refused, nests, artifacts, fun limit hlimit => (generates 2).deeper _ _ hlimit
    made⟩

end CallRecord

end CallReplay
