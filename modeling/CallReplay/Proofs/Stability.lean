import CallReplay.Proofs.Server.Posting
import CallReplay.Proofs.Transfer
import CallReplay.Proofs.Wire.Decoded

/-!
# Packing again what was unpacked

Many bytes may stand for one record: a block may go on behind its value, and a key of a property bag
may come twice. Packing the record chooses one of these forms, which is not longer than any other
and is unpacked to the record that was packed (`unpack_repacks`). So what is kept of a record in a
database stands for the record.
-/

namespace CallReplay

/-- Arguments that were unpacked can be read back from what is written of them. -/
lemma Arguments.readable_of_unpack {bytes : List UInt8} {a : Arguments} (h : unpack bytes = .ok a) :
    a.Readable := by
  refine ⟨?_, Arguments.validate_of_unpack h⟩
  cases bytes with
  | nil => cases h
  | cons version body =>
    rw [unpack] at h
    split at h
    · split at h
      · cases h
      next found hdecode =>
        split at h
        · cases h
        · cases h
          obtain ⟨⟨found, rest⟩, hread, rfl⟩ := map_eq_ok_iff.mp hdecode
          exact Wire.gives_arguments _ _ _ hread
    · cases h

/-- A payload that was unpacked can be read back from what is written of it. -/
lemma Payload.readable_of_unpack {bytes : List UInt8} {p : Payload} (h : unpack bytes = .ok p) :
    p.Readable := by
  refine ⟨?_, Payload.validate_of_unpack h⟩
  unfold Payload.unpack at h
  split at h
  · cases h
  next hdecode =>
    split at h
    · cases h
    · cases h
      obtain ⟨⟨found, rest⟩, hread, rfl⟩ := map_eq_ok_iff.mp hdecode
      exact Wire.gives_payload _ _ _ hread

namespace Frame

/-- Bytes after their length have the width of the length in front of them. -/
lemma length_sized (width : Nat) (bytes : List UInt8) :
    (sized width bytes).length = width + bytes.length := by
  rw [sized, List.length_append, length_bigEndian]

/-- A frame whose parts are no longer than those of another is no longer itself. -/
lemma Parts.length_bytes_le {p q : Parts} (method : p.method.length ≤ q.method.length)
    (packedArguments : p.packedArguments.length ≤ q.packedArguments.length)
    (payload : p.payload.length ≤ q.payload.length) : p.bytes.length ≤ q.bytes.length := by
  simp only [bytes, toPayload, toDiscriminant, toMethod, List.length_append, length_sized,
    List.length_singleton]
  omega

end Frame

namespace CallRecord

open CallReplay.Frame (Parts content)

/-- Bytes that were packed again from a record that some bytes stand for. -/
structure Repacked (r : CallRecord) (bytes packed : List UInt8) : Prop where
  packs : r.pack = .ok packed
  shorter : packed.length ≤ bytes.length
  restored : unpack packed = .ok r
  /-- Packing once more changes nothing. -/
  settled : ∀ r', unpack packed = .ok r' → r'.pack = .ok packed
  /-- Wherever the call was made and whatever is noted of its returned value, the same bytes are
  kept of it. -/
  kept : ∀ index target scope stem annotated,
    (r.placed index target scope).annotateIf stem = .ok annotated →
    Database.packed annotated = .ok (some packed)
  /-- They are loaded from the database that it was delivered to. -/
  loaded : ∀ index target scope stem annotated,
    (r.placed index target scope).annotateIf stem = .ok annotated →
    ∀ db db' a, Database.deliver db a annotated = .ok db' →
    db'.load a.sampler.id = .ok (some packed)

section

variable {bytes packed : List UInt8} {r : CallRecord}

/-- A frame carries all of a record that was unpacked. -/
lemma carried_of_unpack (h : unpack bytes = .ok r) : r.carried = r := by
  obtain ⟨found, hparts⟩ := readParts_of_unpack h
  rw [unpack_of_readParts hparts] at h
  obtain ⟨arguments, _, rfl⟩ := map_eq_ok_iff.mp h
  rfl

/-- The parts of the frame that a record was unpacked from. -/
lemma parts_of_unpack (h : unpack bytes = .ok r) :
    ∃ (p : Parts) (name : String) (isThrown : Bool) (payload : Payload) (arguments : Arguments),
    bytes = p.bytes ∧
      Frame.decodeName p.method = .ok name ∧ Payload.unpack p.payload = .ok payload ∧
      Arguments.unpack p.packedArguments = .ok arguments ∧
      r = ofContent (content name p.packedArguments isThrown payload) arguments := by
  obtain ⟨found, hparts⟩ := readParts_of_unpack h
  obtain ⟨p, name, isThrown, payload, _, hbytes, hname, _, hpayload, rfl⟩ :=
    Frame.parts_of_run_readParts hparts
  rw [unpack_of_readParts hparts] at h
  obtain ⟨arguments, harguments, rfl⟩ := map_eq_ok_iff.mp h
  rw [List.append_nil] at hbytes
  exact ⟨p, name, isThrown, payload, arguments, hbytes, hname, hpayload, harguments, rfl⟩

/-- What is packed again is no longer than what was unpacked. -/
lemma length_pack_le (h : unpack bytes = .ok r) (hpacked : r.pack = .ok packed) :
    packed.length ≤ bytes.length := by
  obtain ⟨p, name, isThrown, payload, arguments, rfl, hname, hpayload, _, rfl⟩ := parts_of_unpack h
  obtain ⟨outcome, houtcome, _, rfl⟩ := pack_eq_ok_iff.mp hpacked
  cases houtcome
  rw [Frame.assemble_eq]
  refine Parts.length_bytes_le (Frame.length_encode_le_of_decodeName hname) (Nat.le_refl _) ?_
  change (Wire.writePayload _).length ≤ _
  rw [Frame.outcome_content]
  exact Payload.length_le_of_unpack hpayload

/-- What is packed again stands for the same record. -/
lemma unpack_of_repack (h : unpack bytes = .ok r) (hpacked : r.pack = .ok packed) :
    unpack packed = .ok r := by
  obtain ⟨p, name, isThrown, payload, arguments, _, _, hpayload, harguments, hr⟩ :=
    parts_of_unpack h
  have readable : ∀ outcome, r.outcome = some outcome → outcome.payload.Readable := by
    rintro outcome houtcome
    rw [hr] at houtcome
    cases houtcome
    rw [Frame.outcome_content]
    exact Payload.readable_of_unpack hpayload
  have read : r.arguments.Readable := by
    rw [hr]
    exact Arguments.readable_of_unpack harguments
  have restored := (Arises.unpack h).unpack_pack read readable hpacked
  rwa [carried_of_unpack h] at restored

/-- What is kept of a record does not tell where its call was made, nor what was noted of
its returned value. -/
lemma packed_of_annotateIf {index : UInt32} {target scope : String} {stem : Option String}
    {annotated : CallRecord} (hpacked : r.pack = .ok packed)
    (h : (r.placed index target scope).annotateIf stem = .ok annotated) :
    Database.packed annotated = .ok (some packed) := by
  obtain ⟨found, paths, rfl⟩ := annotateIf_eq h
  have same : (((r.placed index target scope).setRemoteReturned found).setRemotePaths paths).pack =
      r.pack :=
    pack_congr rfl rfl rfl
  exact Database.packed_eq_ok_iff.mpr (.inr ⟨packed, same.trans hpacked, rfl⟩)

end

/-- Whatever bytes a record was unpacked from, it is packed again, in no more bytes, and these stand
for it from then on, also in a database. -/
theorem unpack_repacks {bytes : List UInt8} {r : CallRecord} (h : unpack bytes = .ok r) :
    ∃ packed, r.Repacked bytes packed := by
  obtain ⟨packed, hpacked⟩ := pack_of_unpack h
  have restored := unpack_of_repack h hpacked
  refine ⟨packed, hpacked, length_pack_le h hpacked, restored, fun r' hr' => ?_, ?_, ?_⟩
  · cases restored.symm.trans hr'
    exact hpacked
  · intro index target scope stem annotated hannotated
    exact packed_of_annotateIf hpacked hannotated
  · intro index target scope stem annotated hannotated db db' a hdeliver
    exact Database.load_of_deliver (packed_of_annotateIf hpacked hannotated) hdeliver

/-- The arguments of a call without any, with a byte behind them. -/
def looseArguments : List UInt8 := Arguments.pack ⟨.empty, []⟩ ++ [0xFF]

/-- A property bag whose only key comes twice, with a byte behind it. -/
def loosePayload : List UInt8 :=
  Wire.writeLength 1 ++ Wire.writeVariant 2 ++
    Wire.writeList (Wire.writePair Wire.writeText Wire.writeText) [("a", "1"), ("a", "2")] ++
    Wire.writeValue (.ref ⟨0⟩) ++ [7]

/-- A frame of these blocks. -/
def looseFrame : List UInt8 :=
  Parts.bytes ⟨Text.Utf8.encode "keep", looseArguments, 0, loosePayload⟩

/-- The record that the frame stands for: the bag has the last value of its key. -/
def looseCall : CallRecord :=
  { new 0 "" "keep" none ⟨.empty, []⟩ with
    packedArguments := looseArguments
    outcome := some (.returned ⟨⟨#[.properties (.ofList [("a", "2")])]⟩, .ref ⟨0⟩⟩) }

/-- The bytes that nothing writes are packed again in fewer bytes. -/
theorem unpack_repacks_loose : unpack looseFrame = .ok looseCall ∧
    ∃ packed, looseCall.Repacked looseFrame packed ∧ packed.length + 19 = looseFrame.length := by
  have unpacked : unpack looseFrame = .ok looseCall := by cbv
  obtain ⟨packed, repacked⟩ := unpack_repacks unpacked
  have length : looseCall.pack.map (fun bytes => bytes.length + 19) = .ok looseFrame.length := by
    cbv
  rw [repacked.packs] at length
  exact ⟨unpacked, packed, repacked, Except.ok.inj length⟩

end CallRecord

end CallReplay
