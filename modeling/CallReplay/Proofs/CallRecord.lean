import CallReplay.Frame
import CallReplay.Proofs.Except

/-!
# Operations on call records in place

A record is changed in place: it is completed, its arguments are read again, or what is found in the
returned value is noted. An operation may be refused on the way, and what it has changed by then is
changed. No operation has changed anything when it is refused, so in place it does what it is said
to do at once (`run_setOutcome`, `run_rehydrate`, `run_search`). The key of the method is made with
the record and kept in it (`Keyed`).
-/

namespace CallReplay.CallRecord

open Script (ScriptError)

/-- The key of a record is that of its method with its parameter types. -/
def Keyed (r : CallRecord) : Prop := r.signature = .mangle r.method r.argumentTypes

/-- A record that is made for a call has the key of its method. -/
lemma keyed_new {index : UInt32} {target method : String} {argumentTypes : Option (List TypeDesc)}
    {arguments : Arguments} : (new index target method argumentTypes arguments).Keyed := rfl

/-- A record that was unpacked has the key of its method. -/
lemma keyed_of_unpack {bytes : List UInt8} {r : CallRecord} (h : unpack bytes = .ok r) :
    r.Keyed := by
  obtain ⟨_, _, h⟩ := bind_eq_ok_iff.mp h
  obtain ⟨_, _, h⟩ := bind_eq_ok_iff.mp h
  cases h
  rfl

/-- A record that was unpacked has no parameter types. -/
lemma untyped_of_unpack {bytes : List UInt8} {r : CallRecord} (h : unpack bytes = .ok r) :
    r.argumentTypes = none := by
  obtain ⟨_, _, h⟩ := bind_eq_ok_iff.mp h
  obtain ⟨_, _, h⟩ := bind_eq_ok_iff.mp h
  cases h
  rfl

/-- Operations change a record in place. What they have changed when one is refused is changed. -/
abbrev InPlace (ε : Type) := EStateM ε CallRecord

/-- The record that an operation leaves, whether or not it is refused. -/
def InPlace.left {ε α : Type} (x : InPlace ε α) (r : CallRecord) : CallRecord :=
  match x.run r with
  | .ok _ left => left
  | .error _ left => left

/-- Completes the record, if its call has not ended. -/
def setOutcome (outcome : Outcome) : InPlace RecordError Unit := do
  let r ← getThe CallRecord
  if r.outcome.isSome then
    throw (.alreadyCompleted r.method)
  modify fun r => { r with outcome := some outcome }

/-- Reads the arguments again from the packed bytes. -/
def rehydrate : InPlace RecordError Unit := do
  let r ← getThe CallRecord
  let arguments ← MonadExcept.ofExcept (Arguments.unpack r.packedArguments)
  modify fun r => { r with arguments := arguments }

/-- Looks for remote objects in the returned value and notes them if there are any. -/
def search (stem : String) : InPlace ScriptError Nat := do
  let r ← getThe CallRecord
  match r.outcome with
  | some (.returned p) =>
    let paths ← MonadExcept.ofExcept (RemotePath.table p stem)
    if paths.size ≠ 0 then
      modify (·.setRemoteReturned true)
      modify (·.setRemotePaths paths)
    pure paths.size
  | _ => pure 0

/-- Looking at the record leaves it as it is. -/
lemma run_getThe {ε : Type} (r : CallRecord) :
    (getThe CallRecord : InPlace ε CallRecord).run r = .ok r r :=
  rfl

/-- What is computed from a record changes nothing. -/
lemma run_ofExcept {ε α : Type} (x : Except ε α) (r : CallRecord) :
    (MonadExcept.ofExcept x : InPlace ε α).run r =
      match x with
      | .ok a => .ok a r
      | .error e => .error e r := by
  cases x <;> rfl

/-- A completion in place is the completion at once, and a refusal leaves the record as it was. -/
lemma run_setOutcome (r : CallRecord) (outcome : Outcome) : (setOutcome outcome).run r =
    match r.finish outcome with
    | .ok changed => .ok () changed
    | .error e => .error e r := by
  cases h : r.outcome with
  | none => simp [setOutcome, finish, h, EStateM.run_bind]
  | some ended => simp [setOutcome, finish, h, EStateM.run_bind]

/-- The arguments are read again in place as they are at once. If they cannot be read the record
stays as it was. -/
lemma run_rehydrate (r : CallRecord) : rehydrate.run r =
    match r.recreateArguments with
    | .ok changed => .ok () changed
    | .error e => .error e r := by
  rw [rehydrate, EStateM.run_bind, run_getThe]
  simp only [EStateM.run_bind, run_ofExcept, recreateArguments]
  cases Arguments.unpack r.packedArguments <;> rfl

section

variable {r : CallRecord} {stem : String}

/-- A returned value is searched, and what is found is noted if there is any. -/
lemma annotate_of_returned {p : Payload} (hreturned : r.outcome = some (.returned p)) :
    r.annotate stem = (RemotePath.table p stem).map fun paths =>
      if paths.size = 0 then (0, r)
      else (paths.size, (r.setRemoteReturned true).setRemotePaths paths) := by
  simp only [annotate, hreturned]
  cases RemotePath.table p stem with
  | error e => rfl
  | ok paths =>
    simp only [bind, Except.bind, Except.map]
    split <;> rfl

/-- Nothing is noted for a call that has not returned a value. -/
lemma annotate_of_not_returned (hother : ∀ p, r.outcome ≠ some (.returned p)) :
    r.annotate stem = .ok (0, r) := by
  unfold annotate
  split
  · rename_i p hreturned
    exact absurd hreturned (hother p)
  · rfl

end

/-- The returned value is searched in place as it is at once. If the walk fails the record stays
as it was. -/
lemma run_search (r : CallRecord) (stem : String) : (search stem).run r =
    match r.annotate stem with
    | .ok (count, changed) => .ok count changed
    | .error e => .error e r := by
  rw [search, EStateM.run_bind, run_getThe]
  dsimp only
  by_cases hreturned : ∃ p, r.outcome = some (.returned p)
  · obtain ⟨p, hp⟩ := hreturned
    rw [annotate_of_returned hp, hp]
    dsimp only
    rw [EStateM.run_bind, run_ofExcept]
    cases RemotePath.table p stem with
    | error e => rfl
    | ok paths =>
      dsimp only [Except.map]
      by_cases none : paths.size = 0
      · rw [if_neg (not_not.mpr none), if_pos none, none]
        rfl
      · rw [if_pos none, if_neg none]
        rfl
  · have hother := not_exists.mp hreturned
    rw [annotate_of_not_returned hother]
    split
    · next p hp => exact absurd hp (hother p)
    · rfl

end CallReplay.CallRecord
