import CallReplay.Proofs.Frame

/-!
# Records that are packed and unpacked

A record whose call has ended is packed unless a part of it is too long. What was packed is unpacked
if and only if both graphs are valid and their types shallow; the record is then the one that was
packed, apart from where the call was made, which a frame does not carry. If it is not unpacked, the
fault is found in a block and reported as corruption.
-/

namespace CallReplay

open Wire (Countable Shallow Fits)

/-- Arguments that can be read back: all types in them are shallow and their graph is valid. -/
def Arguments.Readable (a : Arguments) : Prop := Shallow a.types ∧ a.validate = .ok ()

/-- A payload that can be read back: all types in it are shallow and its graph is valid. -/
def Payload.Readable (p : Payload) : Prop := Shallow p.types ∧ p.validate = .ok ()

/-- What a block stands for once it has been decoded and its graph has been checked. -/
def ofBlock {α : Type} (validate : α → Except GraphError Unit) (report : BlockError → RecordError) :
    Except Wire.DecodeError α → Except RecordError α
  | .error cause => .error (report (.encoding cause))
  | .ok a =>
    match validate a with
    | .error cause => .error (report (.graph cause))
    | .ok () => .ok a

/-- A block is taken if its bytes are read and its graph is valid, and otherwise reported. -/
lemma ofBlock_decode {α : Type} {validate : α → Except GraphError Unit}
    {report : BlockError → RecordError} {read : Wire.Decoder α} {bytes : List UInt8} {a : α}
    {good : Prop} (h : Wire.Decides read bytes a good) :
    (good ∧ validate a = .ok () → ofBlock validate report (Wire.decode read bytes) = .ok a) ∧
      (¬(good ∧ validate a = .ok ()) →
        ∃ cause, ofBlock validate report (Wire.decode read bytes) = .error (report cause)) := by
  by_cases hgood : good
  · rw [(h.reads hgood).decode, ofBlock]
    cases hvalid : validate a with
    | ok => exact ⟨fun _ => rfl, fun hn => absurd ⟨hgood, rfl⟩ hn⟩
    | error cause =>
      refine ⟨fun ⟨_, hok⟩ => ?_, fun _ => ⟨_, rfl⟩⟩
      cases hok
  · obtain ⟨e, he⟩ := h.refuses hgood
    rw [he.decode, ofBlock]
    exact ⟨fun ⟨hok, _⟩ => absurd hok hgood, fun _ => ⟨_, rfl⟩⟩

/-- Arguments are unpacked if they can be read back, and otherwise reported as corrupt. -/
lemma Arguments.unpack_pack {a : Arguments} (hfits : Fits (Wire.writeArguments a))
    (hcount : Countable a.types) :
    (a.Readable → Arguments.unpack a.pack = .ok a) ∧
      (¬a.Readable → ∃ cause, Arguments.unpack a.pack = .error (.arguments cause)) := by
  have block : Arguments.unpack a.pack = ofBlock Arguments.validate .arguments
      (Wire.decode Wire.readArguments (Wire.writeArguments a)) := by
    simp only [pack, unpack, if_true]
    cases Wire.decode Wire.readArguments (Wire.writeArguments a) <;> rfl
  rw [block]
  exact ofBlock_decode (Wire.decides_arguments hfits hcount)

/-- A payload is unpacked if it can be read back, and otherwise reported as corrupt. -/
lemma Payload.unpack_write {p : Payload} (hfits : Fits (Wire.writePayload p))
    (hcount : Countable p.types) :
    (p.Readable → Payload.unpack (Wire.writePayload p) = .ok p) ∧
      (¬p.Readable → ∃ cause, Payload.unpack (Wire.writePayload p) = .error (.payload cause)) := by
  have block : Payload.unpack (Wire.writePayload p) = ofBlock Payload.validate .payload
      (Wire.decode Wire.readPayload (Wire.writePayload p)) := by
    unfold Payload.unpack
    cases Wire.decode Wire.readPayload (Wire.writePayload p) <;> rfl
  rw [block]
  exact ofBlock_decode (Wire.decides_payload hfits hcount)

namespace CallRecord

/-- A record that was made for a call, whether or not the call has ended since. -/
inductive IsMade : CallRecord → Prop where
  | new {index target method argumentTypes arguments} :
    IsMade (.new index target method argumentTypes arguments)
  | finish {r r' outcome} :
    IsMade r →
    r.finish outcome = .ok r' →
    IsMade r'

/-- The bytes kept in a record that was made for a call are those of its arguments. -/
lemma IsMade.packedArguments {r : CallRecord} (h : r.IsMade) :
    r.packedArguments = r.arguments.pack := by
  induction h with
  | new => rfl
  | @finish r r' outcome _ hfinish ih =>
    unfold CallRecord.finish at hfinish
    split at hfinish
    · cases hfinish
    · cases hfinish
      exact ih

/-- The record as a frame carries it, without the place of the call. -/
def carried (r : CallRecord) : CallRecord where
  index := 0
  target := ""
  scope := ""
  method := r.method
  argumentTypes := none
  signature := .mangle r.method none
  packedArguments := r.packedArguments
  arguments := r.arguments
  outcome := r.outcome
  remoteReturned := false
  remotePaths := .empty

/-- What unpacking makes of the bytes of a packed record. -/
structure RoundTrips (r : CallRecord) (outcome : Outcome) (bytes : List UInt8) : Prop where
  /-- It succeeds if and only if both graphs are valid and their types shallow. -/
  readable : (∃ r', unpack bytes = .ok r') ↔ r.arguments.Readable ∧ outcome.payload.Readable
  /-- It gives the record as a frame carries it. -/
  restored : ∀ r', unpack bytes = .ok r' → r' = r.carried ∧ r'.signature = .mangle r.method none
  /-- It fails with the report of corruption, never of a fault of the frame. -/
  corrupt : ∀ e, unpack bytes = .error e → e.isCorruption = true ∧ e.isFraming = false

/-- An outcome is its payload, returned or thrown. -/
lemma outcome_eta (outcome : Outcome) :
    (if outcome.isThrown then .thrown outcome.payload else .returned outcome.payload) =
    outcome := by
  cases outcome <;> rfl

/-- A record makes the round trip if it is unpacked from readable graphs. -/
lemma RoundTrips.of_ok {r : CallRecord} {outcome : Outcome} {bytes : List UInt8}
    (h : unpack bytes = .ok r.carried)
    (hreadable : r.arguments.Readable ∧ outcome.payload.Readable) :
    r.RoundTrips outcome bytes where
  readable := ⟨fun _ => hreadable, fun _ => ⟨_, h⟩⟩
  restored := by
    intro r' hr'
    cases h.symm.trans hr'
    exact ⟨rfl, rfl⟩
  corrupt := by
    intro e he
    cases h.symm.trans he

/-- A record makes the round trip if graphs that are not readable are reported as corrupt. -/
lemma RoundTrips.of_error {r : CallRecord} {outcome : Outcome} {bytes : List UInt8}
    {e : RecordError} (h : unpack bytes = .error e)
    (hcorrupt : e.isCorruption = true ∧ e.isFraming = false)
    (hunreadable : ¬(r.arguments.Readable ∧ outcome.payload.Readable)) :
    r.RoundTrips outcome bytes where
  readable := by
    refine ⟨fun ⟨r', hr'⟩ => ?_, fun hreadable => absurd hreadable hunreadable⟩
    cases h.symm.trans hr'
  restored := by
    intro r' hr'
    cases h.symm.trans hr'
  corrupt := by
    intro e' he'
    cases h.symm.trans he'
    exact hcorrupt

/-- Lengths inside a block have 64 bits, more than the 32 bits that the block itself fits in. -/
lemma Framable.fits_payload {r : CallRecord} {outcome : Outcome} (h : r.Framable outcome) :
    Fits (Wire.writePayload outcome.payload) :=
  Nat.lt_of_lt_of_le h.payload (by decide)

/-- Arguments whose bytes fit a frame have texts and lists that fit their lengths. -/
lemma Framable.fits_arguments {r : CallRecord} {outcome : Outcome} (h : r.Framable outcome)
    (hpacked : r.packedArguments = r.arguments.pack) : Fits (Wire.writeArguments r.arguments) := by
  have hlength := h.arguments
  rw [hpacked, Arguments.pack, List.length_cons] at hlength
  exact Nat.lt_of_lt_of_le (Nat.lt_of_succ_lt hlength) (by decide)

/-- The bytes of a record that was packed are unpacked as its two graphs allow. -/
lemma roundTrips_assemble {r : CallRecord} {outcome : Outcome} (houtcome : r.outcome = some outcome)
    (hpacked : r.packedArguments = r.arguments.pack) (hframable : r.Framable outcome)
    (harguments : Countable r.arguments.types) (hpayload : Countable outcome.payload.types) :
    r.RoundTrips outcome (Frame.assemble r.method r.packedArguments outcome) := by
  obtain ⟨argumentsRead, argumentsCorrupt⟩ :=
    Arguments.unpack_pack (hframable.fits_arguments hpacked) harguments
  obtain ⟨payloadRead, payloadCorrupt⟩ := Payload.unpack_write hframable.fits_payload hpayload
  rw [← hpacked] at argumentsRead argumentsCorrupt
  have hunpack := unpack_assemble hframable
  -- The outcome is read before the arguments are, so it decides first.
  by_cases hp : outcome.payload.Readable
  · rw [payloadRead hp] at hunpack
    by_cases ha : r.arguments.Readable
    · rw [argumentsRead ha] at hunpack
      refine .of_ok (hunpack.trans ?_) ⟨ha, hp⟩
      simp only [bind, Except.bind, pure, Except.pure, outcome_eta, carried, houtcome]
    · obtain ⟨cause, hcause⟩ := argumentsCorrupt ha
      rw [hcause] at hunpack
      exact .of_error hunpack ⟨rfl, rfl⟩ fun h => ha h.1
  · obtain ⟨cause, hcause⟩ := payloadCorrupt hp
    rw [hcause] at hunpack
    exact .of_error hunpack ⟨rfl, rfl⟩ fun h => hp h.2

/-- A record is not packed if its call has not ended or if a part of it is too long,
and only then. -/
lemma pack_fails_iff {r : CallRecord} (hpacked : r.packedArguments = r.arguments.pack) :
    (∃ e, r.pack = .error e) ↔ r.outcome = none ∨ 65535 < (Text.Utf8.encode r.method).length ∨
      4294967295 < r.arguments.pack.length ∨ ∃ outcome, r.outcome = some outcome ∧
        4294967295 < (Wire.writePayload outcome.payload).length := by
  constructor
  · rintro ⟨e, he⟩
    by_contra hfits
    simp only [not_or, not_exists, not_and, Nat.not_lt] at hfits
    obtain ⟨hended, hmethod, hblock, hpayload⟩ := hfits
    obtain ⟨outcome, houtcome⟩ := Option.ne_none_iff_exists'.mp hended
    have hframable : r.Framable outcome := by
      refine ⟨Nat.lt_succ_of_le hmethod, ?_, Nat.lt_succ_of_le (hpayload outcome houtcome)⟩
      rw [hpacked]
      exact Nat.lt_succ_of_le hblock
    cases he.symm.trans (pack_eq_ok_iff.mpr ⟨outcome, houtcome, hframable, rfl⟩)
  · intro hlong
    cases hpack : r.pack with
    | error e => exact ⟨e, rfl⟩
    | ok bytes =>
      obtain ⟨outcome, houtcome, hframable, _⟩ := pack_eq_ok_iff.mp hpack
      rcases hlong with hnone | hmethod | hblock | ⟨other, hother, hlong⟩
      · cases hnone.symm.trans houtcome
      · exact absurd hframable.method (Nat.not_lt.mpr hmethod)
      · rw [← hpacked] at hblock
        exact absurd hframable.arguments (Nat.not_lt.mpr hblock)
      · cases houtcome.symm.trans hother
        exact absurd hframable.payload (Nat.not_lt.mpr hlong)

/-- A record that was made for a call is packed unless the call has not ended or a part is too long,
and what was packed makes the round trip. -/
theorem pack_unpack {r : CallRecord} (hmade : r.IsMade) (harguments : Countable r.arguments.types)
    (hpayload : ∀ outcome, r.outcome = some outcome → Countable outcome.payload.types) :
    ((∃ e, r.pack = .error e) ↔ r.outcome = none ∨ 65535 < (Text.Utf8.encode r.method).length ∨
      4294967295 < r.arguments.pack.length ∨ ∃ outcome, r.outcome = some outcome ∧
        4294967295 < (Wire.writePayload outcome.payload).length) ∧
      ∀ bytes, r.pack = .ok bytes →
        ∃ outcome, r.outcome = some outcome ∧ r.RoundTrips outcome bytes := by
  have hpacked := hmade.packedArguments
  refine ⟨pack_fails_iff hpacked, fun bytes h => ?_⟩
  obtain ⟨outcome, houtcome, hframable, rfl⟩ := pack_eq_ok_iff.mp h
  exact ⟨outcome, houtcome,
    roundTrips_assemble houtcome hpacked hframable harguments (hpayload outcome houtcome)⟩

/-- A call with a property bag and an array type that has thrown a number that is none. -/
def thrownCall : CallRecord :=
  { new 7 "p.Remote" "sum" none
      ⟨⟨#[.properties (.ofList [("b", "1"), ("a", "2")])]⟩,
        [.ref ⟨0⟩, .classOf (.array (.array (.named "p.Item"))), .scalar (.char 'é')]⟩ with
    outcome := some (.thrown ⟨.empty, .scalar (.float 0x7FC00001)⟩) }

/-- Properties, types and the bits of a number make the round trip. -/
theorem pack_unpack_thrown : thrownCall.IsMade ∧
    ∃ bytes, thrownCall.pack = .ok bytes ∧ unpack bytes = .ok thrownCall.carried := by
  have hmade : thrownCall.IsMade := .finish .new rfl
  have hshallow : Shallow thrownCall.arguments.types := by
    simp [thrownCall, new, Arguments.types, Heap.types, Object.types, Value.types,
      TypeDesc.dimensions, maxDimensions]
  have harguments : Countable thrownCall.arguments.types :=
    fun t ht => Nat.lt_of_le_of_lt (hshallow t ht) (by decide)
  have hpayload : ∀ outcome, thrownCall.outcome = some outcome →
      Countable outcome.payload.types := by
    rintro outcome ⟨⟩ t ht
    cases ht
  obtain ⟨hfails, htrip⟩ := pack_unpack hmade harguments hpayload
  have hpacks : ∃ bytes, thrownCall.pack = .ok bytes := by
    cases hpack : thrownCall.pack with
    | ok bytes => exact ⟨bytes, rfl⟩
    | error e =>
      have hmethod : (Text.Utf8.encode thrownCall.method).length = 3 := by cbv
      have hblock : thrownCall.arguments.pack.length ≤ 4294967295 := by cbv
      rcases hfails.mp ⟨e, hpack⟩ with hnone | hlong | hlong | ⟨outcome, houtcome, hlong⟩
      · cases hnone
      · omega
      · omega
      · cases houtcome
        exact absurd hlong (by cbv)
  obtain ⟨bytes, hbytes⟩ := hpacks
  obtain ⟨outcome, houtcome, trip⟩ := htrip bytes hbytes
  cases houtcome
  have hplain : Shallow (Payload.types ⟨.empty, .scalar (.float 0x7FC00001)⟩) := by
    intro t ht
    cases ht
  obtain ⟨r', hr'⟩ := trip.readable.mpr ⟨⟨hshallow, rfl⟩, hplain, rfl⟩
  obtain ⟨rfl, _⟩ := trip.restored r' hr'
  exact ⟨hmade, bytes, hbytes, hr'⟩

end CallRecord

end CallReplay
