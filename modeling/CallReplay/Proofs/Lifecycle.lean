import CallReplay.Proofs.Pipeline
import CallReplay.Proofs.RemoteSearch
import CallReplay.Proofs.RoundTrip

/-!
# The life of a call record

A record is made for a call or read from the bytes of a frame, and then operations are made on it in
any order. The name of the method, the parameter types and the packed bytes stay what they were, and
the arguments stay what the bytes stand for. The first completion sets the outcome, and every later
one is refused (`continues_after`). So a record that can be packed is packed to the same bytes from
then on (`pack_after`).
-/

namespace CallReplay.CallRecord

open Wire (Fits Shallow)

/-- An operation on a record that has been made. -/
inductive Operation where
  | complete (value : Payload)
  | completeWithFailure (failure : Payload)
  | recreateArguments
  | withOrigin (index : UInt32) (target : String)
  | withScope (scope : String)
  | setRemoteReturned (found : Bool)
  | setRemotePaths (paths : TextMap)
  | annotate (stem : String)

/-- How the call has ended according to an operation, if the operation says so. -/
def Operation.completion? : Operation → Option Outcome
  | complete value => some (.returned value)
  | completeWithFailure failure => some (.thrown failure)
  | _ => none

/-- The record that an operation leaves, whether or not it is refused. -/
def step (r : CallRecord) : Operation → CallRecord
  | .complete value => (setOutcome (.returned value)).left r
  | .completeWithFailure failure => (setOutcome (.thrown failure)).left r
  | .recreateArguments => rehydrate.left r
  | .withOrigin index target => r.withOrigin index target
  | .withScope scope => r.withScope scope
  | .setRemoteReturned found => r.setRemoteReturned found
  | .setRemotePaths paths => r.setRemotePaths paths
  | .annotate stem => (search stem).left r

/-- The record after operations, made one after another. -/
def after (r : CallRecord) (operations : List Operation) : CallRecord := operations.foldl step r

/-- A record as it is made: for a call, whose arguments can be read back from a block of
bytes, or from the bytes of a frame. Every block that a program can hold fits, since its
length has 64 bits. -/
inductive Begins : CallRecord → Prop where
  | new {index target method argumentTypes arguments} :
    arguments.Readable →
    Fits arguments.pack →
    Begins (.new index target method argumentTypes arguments)
  | unpack {bytes r} :
    unpack bytes = .ok r →
    Begins r

/-- The first completion: the outcome that the record has already, or that of the first
operation with one. -/
def firstCompletion (r : CallRecord) (operations : List Operation) : Option Outcome :=
  r.outcome.or (operations.findSome? Operation.completion?)

/-- The packed bytes stand for the arguments. -/
def Rehydrates (r : CallRecord) : Prop := Arguments.unpack r.packedArguments = .ok r.arguments

section

variable {r r' : CallRecord}

/-- The arguments of a record are what its bytes stand for when it is made or read. -/
lemma Begins.rehydrates (h : r.Begins) : r.Rehydrates := by
  cases h with
  | new readable fits =>
    have hfits : Fits (Wire.writeArguments _) := Nat.lt_of_succ_lt fits
    exact (Arguments.unpack_pack hfits readable.1.countable).1 readable
  | unpack h => exact (valid_of_unpack h).1

/-- A record has the key of its method when it is made or read. -/
lemma Begins.keyed (h : r.Begins) : r.Keyed := by
  cases h with
  | new => exact keyed_new
  | unpack h => exact keyed_of_unpack h

/-- Reading the arguments again from the bytes gives those that are there. -/
lemma Rehydrates.recreateArguments (h : r.Rehydrates) : r.recreateArguments = .ok r := by
  rw [CallRecord.recreateArguments, h]
  rfl

/-- The outcome of a call that has ended cannot be set. -/
lemma finish_of_ended {ended : Outcome} (h : r.outcome = some ended) (outcome : Outcome) :
    r.finish outcome = .error (.alreadyCompleted r.method) := by
  rw [finish, h]

/-- The outcome of a call that has not ended is set. -/
lemma finish_of_pending (h : r.outcome = none) (outcome : Outcome) :
    r.finish outcome = .ok { r with outcome := some outcome } := by
  rw [finish, h]

/-- What a record has in common with the one that it came from, and the outcome it has. -/
structure Continues (r : CallRecord) (completion : Option Outcome) (r' : CallRecord) : Prop where
  method : r'.method = r.method
  argumentTypes : r'.argumentTypes = r.argumentTypes
  signature : r'.signature = r.signature
  packedArguments : r'.packedArguments = r.packedArguments
  arguments : r'.arguments = r.arguments
  outcome : r'.outcome = r.outcome.or completion

/-- A record continues another if nothing but the remote paths differs. -/
lemma Continues.of_outcome (method : r'.method = r.method)
    (argumentTypes : r'.argumentTypes = r.argumentTypes) (signature : r'.signature = r.signature)
    (packedArguments : r'.packedArguments = r.packedArguments)
    (arguments : r'.arguments = r.arguments) (outcome : r'.outcome = r.outcome) :
    r.Continues none r' :=
  ⟨method, argumentTypes, signature, packedArguments, arguments, by rw [outcome, Option.or_none]⟩

/-- A record continues itself. -/
lemma Continues.refl (r : CallRecord) : r.Continues none r := .of_outcome rfl rfl rfl rfl rfl rfl

/-- The first of two completions is the one that counts. -/
lemma Continues.trans {r'' : CallRecord} {a b : Option Outcome} (first : r.Continues a r')
    (next : r'.Continues b r'') : r.Continues (a.or b) r'' where
  method := next.method.trans first.method
  argumentTypes := next.argumentTypes.trans first.argumentTypes
  signature := next.signature.trans first.signature
  packedArguments := next.packedArguments.trans first.packedArguments
  arguments := next.arguments.trans first.arguments
  outcome := by rw [next.outcome, first.outcome, Option.or_assoc]

/-- The arguments stay what the bytes stand for. -/
lemma Continues.rehydrates {completion : Option Outcome} (h : r.Continues completion r')
    (hr : r.Rehydrates) :
    r'.Rehydrates := by
  rw [Rehydrates, h.packedArguments, h.arguments]
  exact hr

/-- A completion sets the outcome if there is none. -/
lemma left_setOutcome_of_pending (h : r.outcome = none) (outcome : Outcome) :
    (setOutcome outcome).left r = { r with outcome := some outcome } := by
  rw [InPlace.left, run_setOutcome, finish_of_pending h]

/-- A completion of a record that has ended leaves it as it was. -/
lemma left_setOutcome_of_ended {ended : Outcome} (h : r.outcome = some ended) (outcome : Outcome) :
    (setOutcome outcome).left r = r := by
  rw [InPlace.left, run_setOutcome, finish_of_ended h]

/-- Setting the outcome changes nothing else. -/
lemma continues_setOutcome (r : CallRecord) (outcome : Outcome) :
    r.Continues (some outcome) ((setOutcome outcome).left r) := by
  cases h : r.outcome with
  | none =>
    rw [left_setOutcome_of_pending h]
    exact ⟨rfl, rfl, rfl, rfl, rfl, by rw [h]; rfl⟩
  | some ended =>
    rw [left_setOutcome_of_ended h]
    exact ⟨rfl, rfl, rfl, rfl, rfl, by rw [h]; rfl⟩

/-- Looking for remote objects changes at most what is noted of them. -/
lemma continues_search (r : CallRecord) (stem : String) :
    r.Continues none ((search stem).left r) := by
  rw [InPlace.left, run_search]
  cases h : r.annotate stem with
  | error e => exact .refl r
  | ok answered =>
    obtain ⟨count, annotated⟩ := answered
    obtain ⟨found, paths, rfl⟩ := annotate_eq h
    exact .of_outcome rfl rfl rfl rfl rfl rfl

/-- An operation keeps what a record was made of, and sets the outcome if it is
the first completion. -/
theorem continues_step (hr : r.Rehydrates) (operation : Operation) :
    r.Continues operation.completion? (r.step operation) := by
  cases operation with
  | complete value => exact continues_setOutcome r (.returned value)
  | completeWithFailure failure => exact continues_setOutcome r (.thrown failure)
  | recreateArguments =>
    rw [step, InPlace.left, run_rehydrate, hr.recreateArguments]
    exact .refl r
  | withOrigin index target => exact .of_outcome rfl rfl rfl rfl rfl rfl
  | withScope scope => exact .of_outcome rfl rfl rfl rfl rfl rfl
  | setRemoteReturned found => exact .of_outcome rfl rfl rfl rfl rfl rfl
  | setRemotePaths paths => exact .of_outcome rfl rfl rfl rfl rfl rfl
  | annotate stem => exact continues_search r stem

/-- A run of operations keeps what a record was made of, and its first completion
sets the outcome. -/
theorem continues_after (hr : r.Rehydrates) (operations : List Operation) :
    r.Continues (operations.findSome? Operation.completion?) (r.after operations) := by
  induction operations generalizing r with
  | nil => exact .refl r
  | cons operation rest ih =>
    -- The arguments still come from the packed bytes, so the rest continues from there.
    have first := continues_step hr operation
    have both := first.trans (ih (first.rehydrates hr))
    rw [List.findSome?_cons]
    cases h : operation.completion? with
    | none => rwa [h, Option.none_or] at both
    | some outcome => rwa [h, Option.some_or] at both

/-- What a record is packed to is up to its name, its bytes and its outcome. -/
lemma pack_congr (method : r'.method = r.method) (packed : r'.packedArguments = r.packedArguments)
    (outcome : r'.outcome = r.outcome) : r'.pack = r.pack := by
  simp only [pack, method, packed, outcome]

/-- A record that could be packed stays packed to the same bytes. -/
lemma pack_after (hr : r.Rehydrates) {bytes : List UInt8} (h : r.pack = .ok bytes)
    (operations : List Operation) :
    (r.after operations).pack = .ok bytes := by
  have continues := continues_after hr operations
  obtain ⟨ended, houtcome, _⟩ := pack_eq_ok_iff.mp h
  have same : (r.after operations).outcome = r.outcome := by
    rw [continues.outcome, houtcome, Option.some_or]
  rw [pack_congr continues.method continues.packedArguments same, h]

/-- What was thrown can be had if something was. -/
lemma thrown_eq_ok_iff {failure : Payload} :
    r.thrown = .ok failure ↔ r.outcome = some (.thrown failure) := by
  unfold thrown
  split <;> simp_all

end

/-- What operations leave of a record. -/
structure Lifecycle (r : CallRecord) (operations : List Operation) (r' : CallRecord) : Prop where
  method : r'.method = r.method
  argumentTypes : r'.argumentTypes = r.argumentTypes
  packedArguments : r'.packedArguments = r.packedArguments
  signature : r'.signature = .mangle r.method r.argumentTypes
  /-- The arguments are what the packed bytes stand for. -/
  arguments : Arguments.unpack r'.packedArguments = .ok r'.arguments
  /-- Reading them again succeeds and changes nothing. -/
  recreated : r'.recreateArguments = .ok r'
  /-- The outcome is that of the first completion. -/
  outcome : r'.outcome = r.firstCompletion operations
  /-- Once there is one, completions of both kinds are refused and leave the record as it was. -/
  completedOnce : ∀ ended, r'.outcome = some ended → ∀ payload,
    r'.complete payload = .error (.alreadyCompleted r.method) ∧ r'.step (.complete payload) = r' ∧
      r'.completeWithFailure payload = .error (.alreadyCompleted r.method) ∧
      r'.step (.completeWithFailure payload) = r'
  /-- Once the record can be packed it is packed to the same bytes, whatever follows. -/
  packed : ∀ bytes, r'.pack = .ok bytes → ∀ more, (r'.after more).pack = .ok bytes
  /-- There is a failure if the first completion was one, and only then. -/
  thrown : ∀ failure, r'.thrown = .ok failure ↔
      r.firstCompletion operations = some (.thrown failure)

/-- Operations leave of a record what it was made of, with the outcome of the first completion. -/
theorem after_lifecycle {r : CallRecord} (h : r.Begins) (operations : List Operation) :
    r.Lifecycle operations (r.after operations) := by
  have continues := continues_after h.rehydrates operations
  have rehydrates := continues.rehydrates h.rehydrates
  refine
    { method := continues.method
      argumentTypes := continues.argumentTypes
      packedArguments := continues.packedArguments
      signature := ?_
      arguments := rehydrates
      recreated := rehydrates.recreateArguments
      outcome := continues.outcome
      completedOnce := ?_
      packed := fun bytes hpack more => pack_after rehydrates hpack more
      thrown := ?_ }
  · rw [continues.signature, h.keyed]
  · intro ended hended payload
    have refused := finish_of_ended hended
    rw [continues.method] at refused
    exact ⟨refused _, left_setOutcome_of_ended hended _, refused _,
      left_setOutcome_of_ended hended _⟩
  · intro failure
    rw [thrown_eq_ok_iff, continues.outcome]
    rfl

/-- A call with an item that refers to itself. -/
def openedCall : CallRecord :=
  .new 3 "p.Broker" "open" (some [.named "p.Item"])
    ⟨⟨#[.struct ⟨"p.Item", true, false, [⟨"self", .named "p.Item", {}, true, .value (.ref ⟨0⟩)⟩]⟩]⟩,
    [.ref ⟨0⟩]⟩

/-- The call is looked at before it has ended, ends with a failure, and is said to
have ended again. -/
def openedCallOperations : List Operation :=
  [.annotate "s", .withScope "run", .completeWithFailure ⟨.empty, .text "denied"⟩,
  .recreateArguments,
    .complete ⟨.empty, .null⟩, .setRemoteReturned true, .completeWithFailure ⟨.empty, .null⟩]

/-- The call has failed with its first failure, and it is packed as it was right after that. -/
theorem after_lifecycle_failed : openedCall.Begins ∧
    (openedCall.after openedCallOperations).thrown = .ok ⟨.empty, .text "denied"⟩ ∧
    (openedCall.after openedCallOperations).recreateArguments =
      .ok (openedCall.after openedCallOperations) ∧
    ∃ bytes, (openedCall.after (openedCallOperations.take 3)).pack = .ok bytes ∧
      (openedCall.after openedCallOperations).pack = .ok bytes := by
  have shallow : Shallow openedCall.arguments.types := by
    simp [openedCall, new, Arguments.types, Heap.types, Object.types, Field.types, Slot.types,
      Value.types, TypeDesc.dimensions, maxDimensions]
  have readable : openedCall.arguments.Readable := ⟨shallow, rfl⟩
  have fits : openedCall.arguments.pack.length < 2 ^ 64 := by cbv
  have begins : openedCall.Begins := .new readable fits
  have whole := after_lifecycle begins openedCallOperations
  have start := after_lifecycle begins (openedCallOperations.take 3)
  have packs : ∃ bytes, (openedCall.after (openedCallOperations.take 3)).pack = .ok bytes := by
    refine ⟨_, pack_eq_ok_iff.mpr ⟨_, rfl, ⟨?_, ?_, ?_⟩, rfl⟩⟩
    · cbv
    · cbv
    · cbv
  obtain ⟨bytes, hbytes⟩ := packs
  refine ⟨begins, (whole.thrown _).mpr rfl, whole.recreated, bytes, hbytes, ?_⟩
  exact start.packed bytes hbytes (openedCallOperations.drop 3)

end CallReplay.CallRecord
