import CallReplay.Proofs.Frame

/-!
# Bytes that are framed

What the reader of a frame makes of some bytes stands when more bytes follow, unless they were too
few (`Steady`). So a frame ends where its own lengths say: a piece of it is too short, and whatever
follows it is too much.

The reader decodes a part as soon as it has taken it; only the arguments wait for the end of the
frame. So a part that cannot be decoded is reported even where the frame breaks off behind it
(`Spoilt`). Bytes that are not framed are reported as such unless this happens, and bytes that are
framed never are.
-/

namespace CallReplay

namespace RecordError

/-- A report that bytes end before a part is complete. -/
def IsTruncation (e : RecordError) : Prop :=
  ∃ part needed remaining, remaining < needed ∧ e = .truncated part needed remaining

variable {e : RecordError}

/-- Too few bytes are a fault of the frame. -/
lemma IsTruncation.isFraming (h : e.IsTruncation) : e.isFraming = true := by
  obtain ⟨part, needed, remaining, _, rfl⟩ := h
  rfl

/-- A fault of the frame is none of a part in it. -/
lemma isCorruption_of_isFraming (h : e.isFraming = true) : e.isCorruption = false := by
  cases e with
  | wrongTag | truncated | trailingBytes => rfl
  | _ => cases h

/-- A fault of a part is none of the frame around it. -/
lemma isFraming_of_isCorruption (h : e.isCorruption = true) : e.isFraming = false := by
  cases e with
  | methodName | discriminant | payload | arguments | noArguments | packVersion => rfl
  | _ => cases h

end RecordError

namespace Frame

open RecordError (IsTruncation)
open Wire (run_bind_eq_ok_iff run_bind_eq_error_iff)

/-- Bytes are taken if there are enough of them. -/
lemma run_take_eq_ok_iff {part : FramePart} {count : Nat} {bytes taken rest : List UInt8} :
    (take part count).run bytes = .ok (taken, rest) ↔ taken.length = count ∧
    bytes = taken ++ rest := by
  change take part count bytes = _ ↔ _
  rw [take, Wire.splitBytes?_eq]
  constructor
  · intro h
    split at h
    · rename_i hsplit
      split at hsplit
      · rename_i hcount
        cases hsplit
        cases h
        exact ⟨List.length_take_of_le hcount, (List.take_append_drop count bytes).symm⟩
      · cases hsplit
    · cases h
  · rintro ⟨rfl, rfl⟩
    rw [if_pos (by simp), List.take_left, List.drop_left]

/-- Bytes cannot be taken where there are too few, and then it is told how many there are. -/
lemma run_take_eq_error_iff {part : FramePart} {count : Nat} {bytes : List UInt8}
    {e : RecordError} :
    (take part count).run bytes = .error e ↔
      bytes.length < count ∧ e = .truncated part count bytes.length := by
  change take part count bytes = _ ↔ _
  rw [take, Wire.splitBytes?_eq]
  by_cases h : count ≤ bytes.length
  · simp [h]
  · simp [h, Nat.lt_of_not_le h, eq_comm]

/-- What a reader makes of bytes stands when more bytes follow, unless the bytes were too few. -/
structure Steady {α : Type} (x : Reader α) : Prop where
  ok : ∀ {bytes a rest} more, x.run bytes = .ok (a, rest) →
      x.run (bytes ++ more) = .ok (a, rest ++ more)
  error : ∀ {bytes e} more, x.run bytes = .error e → IsTruncation e ∨
      x.run (bytes ++ more) = .error e

section

variable {α β : Type} {x : Reader α} {f : α → Reader β}

/-- A value does not depend on the bytes. -/
lemma steady_pure (a : α) : Steady (pure a : Reader α) where
  ok := by
    intro bytes a' rest more h
    cases h
    rfl
  error := by
    intro bytes e more h
    cases h

/-- A failure does not depend on the bytes. -/
lemma steady_throw (e : RecordError) : Steady (throw e : Reader α) where
  ok := by
    intro bytes a rest more h
    cases h
  error := by
    intro bytes e' more h
    cases h
    exact .inr rfl

/-- Steady readers one after another are steady. -/
lemma Steady.bind (hx : Steady x) (hf : ∀ a, Steady (f a)) : Steady (x >>= f) where
  ok := by
    intro bytes b rest more h
    obtain ⟨a, left, hfirst, hnext⟩ := run_bind_eq_ok_iff.mp h
    exact run_bind_eq_ok_iff.mpr ⟨a, left ++ more, hx.ok more hfirst, (hf a).ok more hnext⟩
  error := by
    intro bytes e more h
    rcases run_bind_eq_error_iff.mp h with hfirst | ⟨a, left, hfirst, hnext⟩
    · exact (hx.error more hfirst).imp_right fun h => run_bind_eq_error_iff.mpr (.inl h)
    · exact ((hf a).error more hnext).imp_right fun h =>
        run_bind_eq_error_iff.mpr (.inr ⟨a, left ++ more, hx.ok more hfirst, h⟩)

/-- Decoding what a steady reader has taken is steady. -/
lemma Steady.thenDecode {x : Reader (List UInt8)} (hx : Steady x)
    (decode : List UInt8 → Except RecordError α) : Steady (thenDecode x decode) := by
  refine hx.bind fun block => ?_
  split
  · exact steady_pure _
  · exact steady_throw _

/-- Taking bytes is steady. -/
lemma steady_take (part : FramePart) (count : Nat) : Steady (take part count) where
  ok := by
    intro bytes taken rest more h
    obtain ⟨hlength, rfl⟩ := run_take_eq_ok_iff.mp h
    exact run_take_eq_ok_iff.mpr ⟨hlength, List.append_assoc taken rest more⟩
  error := by
    intro bytes e more h
    obtain ⟨hlength, rfl⟩ := run_take_eq_error_iff.mp h
    exact .inl ⟨part, count, bytes.length, hlength, rfl⟩

/-- Taking bytes after their length is steady. -/
lemma steady_readSized (part : FramePart) (width : Nat) : Steady (readSized part width) :=
  (steady_take part width).bind fun length => steady_take part (ofBigEndian length)

/-- Reading a tag is steady. -/
lemma steady_expectTag (t : Tag) : Steady (expectTag t) := by
  refine (steady_readSized (.tag t) 2).bind fun found => ?_
  split
  · exact steady_pure ()
  · exact steady_throw _

/-- The parts of a frame are read steadily. -/
theorem steady_readParts : Steady readParts := by
  rw [readParts, readName_eq, readDiscriminant_eq, readPayload_eq]
  exact (steady_expectTag .header).bind fun _ =>
    ((steady_readSized .methodName 2).thenDecode decodeName).bind fun _ =>
      (steady_readSized .packedArguments 4).bind fun _ =>
        (steady_expectTag .separator).bind fun _ =>
        ((steady_take .discriminant 1).thenDecode decodeDiscriminant).bind fun _ =>
          ((steady_readSized .payload 4).thenDecode Payload.unpack).bind fun _ =>
            (steady_expectTag .trailer).bind fun _ => steady_pure _

end

/-- Bytes are those of the number that they stand for, the highest first. -/
lemma bigEndian_ofBigEndian (bytes : List UInt8) :
    bigEndian bytes.length (ofBigEndian bytes) = bytes := by
  have hback := Wire.littleEndian_ofLittleEndian bytes.reverse
  rw [List.length_reverse] at hback
  rw [bigEndian, ofBigEndian, hback, List.reverse_reverse]

/-- The number of some bytes is below the bound for that many. -/
lemma ofBigEndian_lt (bytes : List UInt8) : ofBigEndian bytes < 256 ^ bytes.length := by
  have hlt := Wire.ofLittleEndian_lt bytes.reverse
  rwa [List.length_reverse] at hlt

section

variable {part : FramePart} {width : Nat} {t : Tag} {bytes rest block : List UInt8}
  {e : RecordError}

/-- What is read after its length stands there after its length. -/
lemma sized_of_run_readSized (h : (readSized part width).run bytes = .ok (block, rest)) :
    block.length < 256 ^ width ∧ bytes = sized width block ++ rest := by
  obtain ⟨length, left, hlength, hblock⟩ := run_bind_eq_ok_iff.mp h
  obtain ⟨rfl, rfl⟩ := run_take_eq_ok_iff.mp hlength
  obtain ⟨hcount, rfl⟩ := run_take_eq_ok_iff.mp hblock
  rw [hcount, sized, hcount, bigEndian_ofBigEndian, List.append_assoc]
  exact ⟨ofBigEndian_lt length, rfl⟩

/-- Bytes that cannot be taken are a fault of the frame. -/
lemma isFraming_of_run_take {count : Nat} (h : (take part count).run bytes = .error e) :
    e.isFraming = true := by
  rw [(run_take_eq_error_iff.mp h).2]
  rfl

/-- Bytes that cannot be taken after their length are a fault of the frame. -/
lemma isFraming_of_run_readSized (h : (readSized part width).run bytes = .error e) :
    e.isFraming = true := by
  rcases run_bind_eq_error_iff.mp h with hlength | ⟨_, _, _, hblock⟩
  · exact isFraming_of_run_take hlength
  · exact isFraming_of_run_take hblock

/-- Where a tag is read, its bytes stand. -/
lemma tag_of_run_expectTag (h : (expectTag t).run bytes = .ok ((), rest)) :
    bytes = writeTag t ++ rest := by
  obtain ⟨found, left, hfound, hcheck⟩ := run_bind_eq_ok_iff.mp h
  obtain ⟨_, rfl⟩ := sized_of_run_readSized hfound
  split at hcheck
  · rename_i heq
    cases hcheck
    rw [heq]
    rfl
  · cases hcheck

/-- A missing tag is a fault of the frame. -/
lemma isFraming_of_run_expectTag (h : (expectTag t).run bytes = .error e) : e.isFraming = true := by
  rcases run_bind_eq_error_iff.mp h with hfound | ⟨found, left, _, hcheck⟩
  · exact isFraming_of_run_readSized hfound
  · split at hcheck
    · cases hcheck
    · cases hcheck
      rfl

end

/-- Bytes that are a frame, whatever stands in its parts. -/
def WellFramed (bytes : List UInt8) : Prop := ∃ p : Parts, p.Fit ∧ bytes = p.bytes

/-- Bytes that begin like a frame and have a part that cannot be decoded, with the report on
the first such part. The frame need not go on behind that part, except that the arguments
are decoded last. -/
inductive Spoilt : List UInt8 → RecordError → Prop where
  | method {p : Parts} {bytes e} :
    p.Fit →
    p.toMethod <+: bytes →
    decodeName p.method = .error e →
    Spoilt bytes e
  | discriminant {p : Parts} {name bytes e} :
    p.Fit →
    p.toDiscriminant <+: bytes →
    decodeName p.method = .ok name →
    decodeDiscriminant [p.discriminant] = .error e →
    Spoilt bytes e
  | payload {p : Parts} {name isThrown bytes e} :
    p.Fit →
    p.toPayload <+: bytes →
    decodeName p.method = .ok name →
    decodeDiscriminant [p.discriminant] = .ok isThrown →
    Payload.unpack p.payload = .error e →
    Spoilt bytes e
  | arguments {p : Parts} {name isThrown payload e} :
    p.Fit →
    decodeName p.method = .ok name →
    decodeDiscriminant [p.discriminant] = .ok isThrown →
    Payload.unpack p.payload = .ok payload →
    Arguments.unpack p.packedArguments = .error e →
    Spoilt p.bytes e

/-- The report on a part that cannot be decoded is one of corruption. -/
lemma isCorruption_of_decodeName {bytes : List UInt8} {e : RecordError}
    (h : decodeName bytes = .error e) :
    e.isCorruption = true := by
  unfold decodeName at h
  split at h <;> cases h
  rfl

/-- A discriminant that cannot be decoded is a corruption. -/
lemma isCorruption_of_decodeDiscriminant {bytes : List UInt8} {e : RecordError}
    (h : decodeDiscriminant bytes = .error e) : e.isCorruption = true := by
  unfold decodeDiscriminant at h
  split at h <;> cases h
  rfl

section

variable {α : Type} {part : FramePart} {width : Nat} {decode : List UInt8 → Except RecordError α}
  {bytes rest : List UInt8} {a : α} {isThrown : Bool} {e : RecordError}

/-- What is decoded after its length stands there after its length. -/
lemma sized_of_run_thenDecode
    (h : (thenDecode (readSized part width) decode).run bytes = .ok (a, rest)) :
    ∃ block, block.length < 256 ^ width ∧ bytes = sized width block ++ rest ∧
    decode block = .ok a := by
  obtain ⟨block, hblock, hdecode⟩ := run_thenDecode_eq_ok_iff.mp h
  obtain ⟨fits, hbytes⟩ := sized_of_run_readSized hblock
  exact ⟨block, fits, hbytes, hdecode⟩

/-- A part is not read for a fault of the frame, or because its block cannot be decoded. -/
lemma fault_of_run_thenDecode
    (h : (thenDecode (readSized part width) decode).run bytes = .error e) :
    e.isFraming = true ∨ ∃ block rest, block.length < 256 ^ width ∧
    bytes = sized width block ++ rest ∧
      decode block = .error e := by
  rcases run_thenDecode_eq_error_iff.mp h with fault | ⟨block, rest, hblock, hdecode⟩
  · exact .inl (isFraming_of_run_readSized fault)
  · obtain ⟨fits, hbytes⟩ := sized_of_run_readSized hblock
    exact .inr ⟨block, rest, fits, hbytes, hdecode⟩

/-- The byte that tells how the call ended stands where it is read. -/
lemma byte_of_run_discriminant
    (h : (thenDecode (take .discriminant 1) decodeDiscriminant).run bytes = .ok (isThrown, rest)) :
    ∃ b, bytes = [b] ++ rest ∧ decodeDiscriminant [b] = .ok isThrown := by
  obtain ⟨taken, htaken, hdecode⟩ := run_thenDecode_eq_ok_iff.mp h
  obtain ⟨hone, hbytes⟩ := run_take_eq_ok_iff.mp htaken
  obtain ⟨b, rfl⟩ := List.length_eq_one_iff.mp hone
  exact ⟨b, hbytes, hdecode⟩

/-- The discriminant is not read for a fault of the frame, or because its byte cannot be decoded. -/
lemma fault_of_run_discriminant
    (h : (thenDecode (take .discriminant 1) decodeDiscriminant).run bytes = .error e) :
    e.isFraming = true ∨ ∃ b rest, bytes = [b] ++ rest ∧ decodeDiscriminant [b] = .error e := by
  rcases run_thenDecode_eq_error_iff.mp h with fault | ⟨taken, rest, htaken, hdecode⟩
  · exact .inl (isFraming_of_run_take fault)
  · obtain ⟨hone, hbytes⟩ := run_take_eq_ok_iff.mp htaken
    obtain ⟨b, rfl⟩ := List.length_eq_one_iff.mp hone
    exact .inr ⟨b, rest, hbytes, hdecode⟩

end

section

variable {bytes rest : List UInt8} {found : Content} {e : RecordError}

/-- Where the parts of a frame are read, there stands a frame whose parts can be decoded. -/
lemma parts_of_run_readParts (h : readParts.run bytes = .ok (found, rest)) :
    ∃ (p : Parts) (name : String) (isThrown : Bool) (payload : Payload), p.Fit ∧
    bytes = p.bytes ++ rest ∧
      decodeName p.method = .ok name ∧ decodeDiscriminant [p.discriminant] = .ok isThrown ∧
      Payload.unpack p.payload = .ok payload ∧
      found = content name p.packedArguments isThrown payload := by
  rw [readParts, readName_eq, readDiscriminant_eq, readPayload_eq] at h
  obtain ⟨_, _, header, afterHeader⟩ := run_bind_eq_ok_iff.mp h
  obtain ⟨name, _, named, afterName⟩ := run_bind_eq_ok_iff.mp afterHeader
  obtain ⟨packed, _, arguments, afterArguments⟩ := run_bind_eq_ok_iff.mp afterName
  obtain ⟨_, _, separator, afterSeparator⟩ := run_bind_eq_ok_iff.mp afterArguments
  obtain ⟨isThrown, _, ended, afterDiscriminant⟩ := run_bind_eq_ok_iff.mp afterSeparator
  obtain ⟨payload, _, outcome, afterPayload⟩ := run_bind_eq_ok_iff.mp afterDiscriminant
  obtain ⟨_, _, trailer, last⟩ := run_bind_eq_ok_iff.mp afterPayload
  cases last
  obtain ⟨method, methodFits, hmethod, hname⟩ := sized_of_run_thenDecode named
  obtain ⟨argumentsFit, harguments⟩ := sized_of_run_readSized arguments
  obtain ⟨discriminant, hone, hdiscriminant⟩ := byte_of_run_discriminant ended
  obtain ⟨block, payloadFits, hblock, hpayload⟩ := sized_of_run_thenDecode outcome
  refine ⟨⟨method, packed, discriminant, block⟩, name, isThrown, payload,
    ⟨methodFits, argumentsFit, payloadFits⟩, ?_, hname, hdiscriminant, hpayload, rfl⟩
  rw [tag_of_run_expectTag header, hmethod, harguments, tag_of_run_expectTag separator, hone,
    hblock, tag_of_run_expectTag trailer]
  simp only [Parts.bytes, Parts.toPayload, Parts.toDiscriminant, Parts.toMethod, List.append_assoc]

/-- The parts of a frame are not read if there is no frame or if a part of it cannot be decoded. -/
lemma fault_of_run_readParts (h : readParts.run bytes = .error e) :
    e.isFraming = true ∨ Spoilt bytes e := by
  -- The parts behind the one that cannot be decoded are not known; here they are taken to be empty.
  have emptyFits : ([] : List UInt8).length < 256 ^ 4 := by decide
  rw [readParts, readName_eq, readDiscriminant_eq, readPayload_eq] at h
  rcases run_bind_eq_error_iff.mp h with fault | ⟨_, _, header, afterHeader⟩
  · exact .inl (isFraming_of_run_expectTag fault)
  rw [tag_of_run_expectTag header]
  rcases run_bind_eq_error_iff.mp afterHeader with fault | ⟨name, _, named, afterName⟩
  · refine (fault_of_run_thenDecode fault).imp_right ?_
    rintro ⟨method, rest, methodFits, rfl, undecodable⟩
    rw [← List.append_assoc]
    exact .method (p := ⟨method, [], 0, []⟩) ⟨methodFits, emptyFits, emptyFits⟩
      (List.prefix_append _ _)
        undecodable
  obtain ⟨method, methodFits, rfl, hname⟩ := sized_of_run_thenDecode named
  rcases run_bind_eq_error_iff.mp afterName with fault | ⟨packed, _, arguments, afterArguments⟩
  · exact .inl (isFraming_of_run_readSized fault)
  obtain ⟨argumentsFit, rfl⟩ := sized_of_run_readSized arguments
  rcases run_bind_eq_error_iff.mp afterArguments with fault | ⟨_, _, separator, afterSeparator⟩
  · exact .inl (isFraming_of_run_expectTag fault)
  rw [tag_of_run_expectTag separator]
  rcases run_bind_eq_error_iff.mp afterSeparator
    with fault | ⟨isThrown, _, ended, afterDiscriminant⟩
  · refine (fault_of_run_discriminant fault).imp_right ?_
    rintro ⟨discriminant, rest, rfl, undecodable⟩
    simp only [← List.append_assoc]
    exact .discriminant (p := ⟨method, packed, discriminant, []⟩)
      ⟨methodFits, argumentsFit, emptyFits⟩
        (List.prefix_append _ _) hname undecodable
  obtain ⟨discriminant, rfl, hdiscriminant⟩ := byte_of_run_discriminant ended
  rcases run_bind_eq_error_iff.mp afterDiscriminant with fault | ⟨payload, _, _, afterPayload⟩
  · refine (fault_of_run_thenDecode fault).imp_right ?_
    rintro ⟨block, rest, payloadFits, rfl, undecodable⟩
    simp only [← List.append_assoc]
    exact .payload (p := ⟨method, packed, discriminant, block⟩)
      ⟨methodFits, argumentsFit, payloadFits⟩
        (List.prefix_append _ _) hname hdiscriminant undecodable
  rcases run_bind_eq_error_iff.mp afterPayload with fault | ⟨_, _, _, last⟩
  · exact .inl (isFraming_of_run_expectTag fault)
  · cases last

end

end Frame

namespace Arguments

/-- The report on arguments that cannot be unpacked is one of corruption. -/
lemma isCorruption_of_unpack {bytes : List UInt8} {e : RecordError} (h : unpack bytes = .error e) :
    e.isCorruption = true := by
  unfold unpack at h
  split at h
  · cases h
    rfl
  · split at h
    · split at h
      · cases h
        rfl
      · split at h <;> cases h
        rfl
    · cases h
      rfl

end Arguments

/-- The report on a payload that cannot be unpacked is one of corruption. -/
lemma Payload.isCorruption_of_unpack {bytes : List UInt8} {e : RecordError}
    (h : unpack bytes = .error e) :
    e.isCorruption = true := by
  unfold unpack at h
  split at h
  · cases h
    rfl
  · split at h <;> cases h
    rfl

namespace CallRecord

open RecordError (isCorruption_of_isFraming isFraming_of_isCorruption)
open CallReplay.Frame
  (Content Parts Spoilt WellFramed content decodeName decodeDiscriminant readParts
  steady_readParts reads_bytes refuses_toMethod refuses_toDiscriminant refuses_toPayload
  parts_of_run_readParts fault_of_run_readParts run_readContent_of_ok run_readContent_of_error)

variable {bytes rest : List UInt8} {found : Content} {r : CallRecord} {e : RecordError}

/-- The record that is made of the content of a frame and of its arguments. -/
def ofContent (found : Content) (arguments : Arguments) : CallRecord where
  index := 0
  target := ""
  scope := ""
  method := found.method
  argumentTypes := none
  signature := .mangle found.method none
  packedArguments := found.packedArguments
  arguments := arguments
  outcome := some found.outcome
  remoteReturned := false
  remotePaths := .empty

/-- Bytes that are the parts of a frame are unpacked as the arguments in it are. -/
lemma unpack_of_readParts (h : readParts.run bytes = .ok (found, [])) :
    unpack bytes = (Arguments.unpack found.packedArguments).map (ofContent found) := by
  rw [unpack, run_readContent_of_ok h]
  cases harguments : Arguments.unpack found.packedArguments <;>
    simp [bind, Except.bind, harguments, Except.map, ofContent, pure, Except.pure]

/-- Bytes behind a frame are counted and refused. -/
lemma unpack_of_trailing (h : readParts.run bytes = .ok (found, rest)) (hrest : rest ≠ []) :
    unpack bytes = .error (.trailingBytes rest.length) := by
  rw [unpack, run_readContent_of_ok h, if_neg hrest]
  rfl

/-- Bytes are refused for the first fault in their parts. -/
lemma unpack_of_fault (h : readParts.run bytes = .error e) : unpack bytes = .error e := by
  rw [unpack, run_readContent_of_error h]
  rfl

/-- Bytes that are unpacked are the parts of a frame. -/
lemma readParts_of_unpack (h : unpack bytes = .ok r) :
    ∃ found, readParts.run bytes = .ok (found, []) := by
  cases hparts : readParts.run bytes with
  | error e => cases (unpack_of_fault hparts).symm.trans h
  | ok read =>
    obtain ⟨found, rest⟩ := read
    by_cases hrest : rest = []
    · exact ⟨found, by rw [hrest]⟩
    · cases (unpack_of_trailing hparts hrest).symm.trans h

/-- A piece of the bytes of a record is too short to be one. -/
lemma unpack_cut (h : unpack bytes = .ok r) {cut : List UInt8} (hcut : cut <+: bytes)
    (hne : cut ≠ bytes) :
    ∃ e, unpack cut = .error e ∧ e.IsTruncation := by
  obtain ⟨found, hparts⟩ := readParts_of_unpack h
  obtain ⟨more, rfl⟩ := hcut
  cases hread : readParts.run cut with
  -- A frame that is whole in the piece would leave the rest of the bytes over.
  | ok read =>
    obtain ⟨found', rest⟩ := read
    have whole := hparts.symm.trans (steady_readParts.ok more hread)
    have left : [] = rest ++ more := (Prod.mk.inj (Except.ok.inj whole)).2
    rw [(List.append_eq_nil_iff.mp left.symm).2, List.append_nil] at hne
    exact absurd rfl hne
  | error e =>
    rcases steady_readParts.error more hread with short | failed
    · exact ⟨e, unpack_of_fault hread, short⟩
    · cases hparts.symm.trans failed

/-- Whatever follows the bytes of a record is too much. -/
lemma unpack_append (h : unpack bytes = .ok r) {more : List UInt8} (hmore : more ≠ []) :
    unpack (bytes ++ more) = .error (.trailingBytes more.length) := by
  obtain ⟨found, hparts⟩ := readParts_of_unpack h
  exact unpack_of_trailing (steady_readParts.ok more hparts) hmore

/-- The bytes of a record tell where they end: a piece of them is too short, whatever follows them
is too much, and so no other record begins with them. -/
theorem unpack_delimits (h : unpack bytes = .ok r) :
    (∀ cut, cut <+: bytes → cut ≠ bytes → ∃ e, unpack cut = .error e ∧ e.IsTruncation ∧
      e.isFraming = true ∧ e.isCorruption = false) ∧
    (∀ more, more ≠ [] → unpack (bytes ++ more) = .error (.trailingBytes more.length)) ∧
    ∀ other r', unpack other = .ok r' → bytes <+: other → bytes = other := by
  refine ⟨fun cut hcut hne => ?_, fun more => unpack_append h, fun other r' hother hbytes => ?_⟩
  · obtain ⟨e, he, short⟩ := unpack_cut h hcut hne
    exact ⟨e, he, short, short.isFraming, isCorruption_of_isFraming short.isFraming⟩
  · by_contra hne
    obtain ⟨e, he, _⟩ := unpack_cut hother hbytes hne
    cases h.symm.trans he

/-- A call without arguments that has returned a number. -/
def countedCall : CallRecord :=
  { new 0 "" "count" none ⟨.empty, []⟩ with outcome := some (.returned ⟨.empty, .scalar (.int 7)⟩) }

/-- Cut in the middle of its outcome the frame of a call is too short, and two more bytes
are too many. -/
theorem unpack_delimits_counted : ∃ bytes, unpack bytes = .ok countedCall ∧
    (∃ e, unpack (bytes.take 50) = .error e ∧ e.IsTruncation) ∧
    unpack (bytes ++ [0, 3]) = .error (.trailingBytes 2) := by
  have unpacked : unpack (Frame.assemble countedCall.method countedCall.packedArguments
      (.returned ⟨.empty, .scalar (.int 7)⟩)) = .ok countedCall := by cbv
  have longer : 50 < (Frame.assemble countedCall.method countedCall.packedArguments
      (.returned ⟨.empty, .scalar (.int 7)⟩)).length := by cbv
  obtain ⟨cut, append, _⟩ := unpack_delimits unpacked
  obtain ⟨e, he, short, _⟩ := cut _ (List.take_prefix 50 _)
    fun whole => absurd longer (Nat.not_lt.mpr ((List.take_eq_self_iff _).mp whole))
  exact ⟨_, unpacked, ⟨e, he, short⟩, append [0, 3] (by simp)⟩

/-- A part that cannot be decoded is reported as such. -/
lemma unpack_of_spoilt (h : Spoilt bytes e) : unpack bytes = .error e ∧ e.isCorruption = true := by
  cases h with
  | method fit begun undecodable =>
    obtain ⟨rest, rfl⟩ := begun
    exact ⟨unpack_of_fault (refuses_toMethod fit undecodable rest),
      Frame.isCorruption_of_decodeName undecodable⟩
  | discriminant fit begun hname undecodable =>
    obtain ⟨rest, rfl⟩ := begun
    exact ⟨unpack_of_fault (refuses_toDiscriminant fit hname undecodable rest),
      Frame.isCorruption_of_decodeDiscriminant undecodable⟩
  | payload fit begun hname hdiscriminant undecodable =>
    obtain ⟨rest, rfl⟩ := begun
    exact ⟨unpack_of_fault (refuses_toPayload fit hname hdiscriminant undecodable rest),
      Payload.isCorruption_of_unpack undecodable⟩
  | arguments fit hname hdiscriminant hpayload undecodable =>
    refine ⟨?_, Arguments.isCorruption_of_unpack undecodable⟩
    rw [unpack_of_readParts (reads_bytes fit hname hdiscriminant hpayload).run_eq]
    exact congrArg (Except.map _) undecodable

/-- Bytes that are not unpacked are not framed or have a part that cannot be decoded. -/
lemma spoilt_of_unpack (h : unpack bytes = .error e) : e.isFraming = true ∨ Spoilt bytes e := by
  cases hparts : readParts.run bytes with
  | error e' =>
    cases (unpack_of_fault hparts).symm.trans h
    exact fault_of_run_readParts hparts
  | ok read =>
    obtain ⟨found, rest⟩ := read
    by_cases hrest : rest = []
    · obtain ⟨p, name, isThrown, payload, fit, hbytes, hname, hdiscriminant, hpayload, rfl⟩ :=
        parts_of_run_readParts hparts
      rw [hrest, List.append_nil] at hbytes
      rw [hrest] at hparts
      rw [unpack_of_readParts hparts, map_eq_error_iff] at h
      rw [hbytes]
      exact .inr (.arguments fit hname hdiscriminant hpayload h)
    · cases (unpack_of_trailing hparts hrest).symm.trans h
      exact .inl rfl

/-- A frame is unpacked unless a part of it cannot be decoded. -/
lemma unpack_of_wellFramed (h : WellFramed bytes) :
    (∃ r, unpack bytes = .ok r) ∨ ∃ e, Spoilt bytes e := by
  obtain ⟨p, fit, rfl⟩ := h
  cases hname : decodeName p.method with
  | error e => exact .inr ⟨e, .method fit p.toMethod_isPrefix hname⟩
  | ok name =>
    cases hdiscriminant : decodeDiscriminant [p.discriminant] with
    | error e => exact .inr ⟨e, .discriminant fit p.toDiscriminant_isPrefix hname hdiscriminant⟩
    | ok isThrown =>
      cases hpayload : Payload.unpack p.payload with
      | error e => exact .inr ⟨e, .payload fit p.toPayload_isPrefix hname hdiscriminant hpayload⟩
      | ok payload =>
        cases harguments : Arguments.unpack p.packedArguments with
        | error e => exact .inr ⟨e, .arguments fit hname hdiscriminant hpayload harguments⟩
        | ok arguments =>
          refine .inl ⟨ofContent (content name p.packedArguments isThrown payload) arguments, ?_⟩
          rw [unpack_of_readParts (reads_bytes fit hname hdiscriminant hpayload).run_eq]
          exact congrArg (Except.map _) harguments

/-- Whether bytes are refused, and with which kind of report, is told by what stands in them. A
report that they are not framed is true, but it is only made where no part before the break is
spoilt; a report of corruption tells that a part is spoilt and, unless it is the arguments, nothing
of what stands behind it. -/
theorem unpack_faults (bytes : List UInt8) :
    ((∃ e, unpack bytes = .error e ∧ e.isFraming = true) ↔ ¬WellFramed bytes ∧
    ∀ e, ¬Spoilt bytes e) ∧
      (∀ e, unpack bytes = .error e ∧ e.isCorruption = true ↔ Spoilt bytes e) ∧
      ∀ e, unpack bytes = .error e → (e.isFraming = true ↔ e.isCorruption = false) := by
  refine ⟨⟨?_, ?_⟩, fun e => ⟨?_, unpack_of_spoilt⟩, fun e he => ?_⟩
  · rintro ⟨e, he, framing⟩
    have unspoilt : ∀ e', ¬Spoilt bytes e' := by
      intro e' spoilt
      obtain ⟨he', corruption⟩ := unpack_of_spoilt spoilt
      cases he.symm.trans he'
      cases (isFraming_of_isCorruption corruption).symm.trans framing
    refine ⟨fun framed => ?_, unspoilt⟩
    rcases unpack_of_wellFramed framed with ⟨r, hr⟩ | ⟨e', spoilt⟩
    · cases he.symm.trans hr
    · exact unspoilt e' spoilt
  · rintro ⟨unframed, unspoilt⟩
    cases hunpack : unpack bytes with
    | ok r =>
      obtain ⟨found, hparts⟩ := readParts_of_unpack hunpack
      obtain ⟨p, _, _, _, fit, hbytes, _⟩ := parts_of_run_readParts hparts
      rw [List.append_nil] at hbytes
      exact absurd ⟨p, fit, hbytes⟩ unframed
    | error e => exact ⟨e, rfl, (spoilt_of_unpack hunpack).resolve_right (unspoilt e)⟩
  · rintro ⟨he, corruption⟩
    refine (spoilt_of_unpack he).resolve_left fun framing => ?_
    cases (isFraming_of_isCorruption corruption).symm.trans framing
  · rcases spoilt_of_unpack he with framing | spoilt
    · exact ⟨isCorruption_of_isFraming, fun _ => framing⟩
    · obtain ⟨_, corruption⟩ := unpack_of_spoilt spoilt
      simp [corruption, isFraming_of_isCorruption corruption]

/-- Bytes that break off behind a method name which is no text. -/
def brokenOff : List UInt8 := Frame.writeTag .header ++ Frame.sized 2 [0xFF]

/-- They are no frame, and yet they are reported as corrupt. -/
theorem unpack_brokenOff : ¬WellFramed brokenOff ∧
    ∃ e, unpack brokenOff = .error e ∧ e.isFraming = false ∧ e.isCorruption = true := by
  have unpacked : unpack brokenOff = .error (.methodName (.invalid 1 0)) := by cbv
  refine ⟨?_, _, unpacked, rfl, rfl⟩
  rintro ⟨p, _, hbytes⟩
  have short : brokenOff.length = 9 := by cbv
  rw [hbytes] at short
  have header : (Frame.writeTag .header).length = 6 := by cbv
  have separator : (Frame.writeTag .separator).length = 8 := by cbv
  simp only [Parts.bytes, Parts.toPayload, Parts.toDiscriminant, Parts.toMethod, List.length_append]
    at short
  omega

end CallRecord

end CallReplay
