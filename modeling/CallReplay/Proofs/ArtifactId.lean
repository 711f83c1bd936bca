import CallReplay.Artifact
import CallReplay.Proofs.Text.Hex
import CallReplay.Proofs.Wire.Decoder

/-!
# What an id stands for

The id of an artifact is cut from the hash of the bytes of what it stands for: a call, or a role
beside another artifact (`Identity`). The texts of a call are written after their lengths, so a
reader tells them apart (`reads_call`). A role is written behind sixteen hexadecimal digits, none of
which is zero as a byte, and the length of a text has a zero there unless the text is longer than
any that there is. So two identities have the same bytes only if they are the same (`bytes_inj`),
and only a collision of the hash gives two of them one id.
-/

namespace CallReplay

open Text (idChars)

namespace ArtifactId

/-- The id is written as every id that is made. -/
structure IsHex (id : ArtifactId) : Prop where
  length : id.text.toList.length = 16
  digits : ∀ c ∈ id.text.toList, ∃ d < 16, Text.hexDigit d = c

/-- A hash has as many bytes as the eight words that it is made of. -/
lemma length_hash (bytes : List UInt8) : (Blake3.hash bytes).length = 32 := by
  have words (chain : Blake3.Chain) : (chain.toList.flatMap Blake3.wordBytes).length = 32 := by
    simp [List.length_flatMap, Blake3.wordBytes]
  exact words _

/-- An id that is cut from a hash of enough bytes is hexadecimal. -/
lemma isHex_ofHash {hash : List UInt8} (h : 8 ≤ hash.length) : (ofHash hash).IsHex where
  length := by
    rw [ofHash, Text.length_hexOfBytes, List.length_take, Nat.min_eq_left h]
  digits := fun _ => Text.hexDigit_of_mem_hexOfBytes

/-- An id that is made of bytes is hexadecimal. -/
lemma isHex_ofHash_hash (bytes : List UInt8) : (ofHash (Blake3.hash bytes)).IsHex :=
  isHex_ofHash (by rw [length_hash]; decide)

/-- An id that is cut from a hash has only characters that ids are written with. -/
lemma mem_idChars_of_ofHash {hash : List UInt8} {c : Char} (h : c ∈ (ofHash hash).text.toList) :
    c ∈ idChars := by
  obtain ⟨d, hd, rfl⟩ := Text.hexDigit_of_mem_hexOfBytes h
  exact Text.hexDigit_mem_idChars hd

/-- The id for a call is not empty. -/
lemma text_ofRecord_ne_nil (r : CallRecord) : (ofRecord r).text.toList ≠ [] := by
  rw [← List.length_pos_iff, ofRecord, ofCall, (isHex_ofHash_hash _).length]
  decide

/-- A digit is written as one byte, which is not zero. -/
lemma encodeChar_hexDigit {d : Nat} (h : d < 16) :
    String.utf8EncodeChar (Text.hexDigit d) = [UInt8.ofNat (Text.hexDigit d).toNat] ∧
      UInt8.ofNat (Text.hexDigit d).toNat ≠ 0 := by
  revert d
  decide

section

variable {parent parent' : ArtifactId} {role role' : String}

/-- A hexadecimal id is written in one byte for each character. -/
lemma IsHex.encode_eq (h : parent.IsHex) :
    Text.Utf8.encode parent.text = parent.text.toList.map fun c => UInt8.ofNat c.toNat := by
  have single : ∀ c ∈ parent.text.toList, String.utf8EncodeChar c = [UInt8.ofNat c.toNat] := by
    intro c hc
    obtain ⟨d, hd, rfl⟩ := h.digits c hc
    exact (encodeChar_hexDigit hd).1
  rw [Text.Utf8.encode, List.flatMap_congr single, List.map_eq_flatMap]

/-- What a derived id is made of is the text of the parent, a slash and the role. -/
lemma derivedBytes_eq (parent : ArtifactId) (role : String) :
    derivedBytes parent role = Text.Utf8.encode (parent.text ++ "/" ++ role) := by
  rw [derivedBytes, Text.Utf8.encode_append, Text.Utf8.encode_append]

/-- The digits of two parents are equally many, so the roles stand at the same place. -/
theorem derivedBytes_inj (h : parent.IsHex) (h' : parent'.IsHex) :
    derivedBytes parent role = derivedBytes parent' role' ↔ parent = parent' ∧ role = role' := by
  constructor
  · intro same
    -- Different texts are encoded differently, so the texts are compared.
    rw [derivedBytes_eq, derivedBytes_eq] at same
    have texts := congrArg String.toList (Text.Utf8.encode_injective same)
    simp only [String.toList_append, List.append_assoc] at texts
    obtain ⟨first, rest⟩ := List.append_inj texts (h.length.trans h'.length.symm)
    have last := List.append_cancel_left rest
    exact ⟨congrArg ArtifactId.mk (String.toList_inj.mp first), String.toList_inj.mp last⟩
  · rintro ⟨rfl, rfl⟩
    rfl

/-- No byte of the digits is zero. -/
lemma zero_notMem_derivedBytes (h : parent.IsHex) (role : String) :
    0 ∉ (derivedBytes parent role).take 8 := by
  have digits : (Text.Utf8.encode parent.text).length = 16 := by
    rw [h.encode_eq, List.length_map, h.length]
  rw [derivedBytes, List.append_assoc, List.take_append_of_le_length (by rw [digits]; decide),
    h.encode_eq]
  intro zero
  obtain ⟨c, hc, byte⟩ := List.mem_map.mp (List.mem_of_mem_take zero)
  obtain ⟨d, hd, rfl⟩ := h.digits c hc
  exact (encodeChar_hexDigit hd).2 byte

end

/-- What the id for a call is made of is three texts after their lengths, and the index. -/
lemma callBytes_eq (scope target signature : String) (index : UInt32) :
    callBytes scope target signature index =
      Wire.writeText scope ++
      (Wire.writeText target ++ (Wire.writeText signature ++ Wire.writeUInt32 index)) := by
  rw [callBytes, List.append_assoc, List.append_assoc]
  rfl

section

variable {parent : ArtifactId} {scope : String}

/-- The highest byte of the length of the first text is zero. -/
lemma zero_mem_callBytes (h : (Text.Utf8.encode scope).length < 2 ^ 56) (target signature : String)
    (index : UInt32) :
    0 ∈ (callBytes scope target signature index).take 8 := by
  have length := Wire.length_littleEndian 8 (Text.Utf8.encode scope).length
  have top : (Text.Utf8.encode scope).length / 256 / 256 / 256 / 256 / 256 / 256 / 256 = 0 := by
    omega
  rw [callBytes_eq, Wire.writeText, Wire.writeLength, List.append_assoc,
    List.take_append_of_le_length length.ge, List.take_of_length_le length.le]
  simp [Wire.littleEndian, top]

/-- The bytes of a call are not those of a role beside another artifact. -/
lemma derivedBytes_ne_callBytes (hparent : parent.IsHex)
    (hscope : (Text.Utf8.encode scope).length < 2 ^ 56) (role target signature : String)
    (index : UInt32) :
    derivedBytes parent role ≠ callBytes scope target signature index := by
  intro same
  have zero := zero_mem_callBytes hscope target signature index
  rw [← same] at zero
  exact zero_notMem_derivedBytes hparent role zero

end

end ArtifactId

/-- What the id of an artifact stands for. -/
inductive Identity where
  | call (scope target signature : String) (index : UInt32)
  | derived (parent : ArtifactId) (role : String)

/-- Different bytes are hashed, and the ids that are cut from the hashes are the same. -/
def Collide (hash : List UInt8 → List UInt8) (a b : List UInt8) : Prop :=
  a ≠ b ∧ ArtifactId.ofHash (hash a) = ArtifactId.ofHash (hash b)

namespace Identity

/-- The bytes that are hashed. -/
def bytes : Identity → List UInt8
  | call scope target signature index => ArtifactId.callBytes scope target signature index
  | derived parent role => ArtifactId.derivedBytes parent role

/-- The id that is made. -/
def made : Identity → ArtifactId
  | call scope target signature index => .ofCall scope target signature index
  | derived parent role => parent.derived role

/-- The texts of a call have fewer than 2^56 bytes, and the parent of an artifact has an id as
they are made. -/
def IsRegular : Identity → Prop
  | call scope target signature _ =>
      ∀ s ∈ [scope, target, signature], (Text.Utf8.encode s).length < 2 ^ 56
  | derived parent _ => parent.IsHex

/-- Every id is cut from the hash of the bytes of what it stands for. -/
lemma made_eq (i : Identity) : i.made = .ofHash (Blake3.hash i.bytes) := by
  cases i <;> rfl

/-- Reads what the id for a call is made of. -/
def readCall : Wire.Decoder Identity := do
  let scope ← Wire.readText
  let target ← Wire.readText
  let signature ← Wire.readText
  let index ← Wire.readUInt32
  pure (.call scope target signature index)

section

variable {a b : Identity} {scope target signature : String} {index : UInt32}

/-- A call is read back from its bytes. -/
theorem reads_call (h : (call scope target signature index).IsRegular) :
    Wire.Reads readCall (call scope target signature index).bytes
      (.call scope target signature index) := by
  have text : ∀ s ∈ [scope, target, signature], Wire.Reads Wire.readText (Wire.writeText s) s := by
    intro s hs
    have short := h s hs
    refine Wire.reads_text ?_
    rw [Wire.Fits, Wire.writeText, List.length_append, Wire.writeLength, Wire.length_littleEndian]
    omega
  have number := (Wire.reads_uInt32 index).map (Identity.call scope target signature)
  rw [bytes, ArtifactId.callBytes_eq]
  exact (text scope (by simp)).bind
    ((text target (by simp)).bind ((text signature (by simp)).bind number))

/-- Only one identity has the bytes that are hashed for it. -/
theorem bytes_inj (ha : a.IsRegular) (hb : b.IsRegular) : a.bytes = b.bytes ↔ a = b := by
  refine ⟨fun same => ?_, congrArg bytes⟩
  cases a with
  | call scope target signature index =>
    cases b with
    | call scope' target' signature' index' =>
      have read := reads_call ha
      rw [same] at read
      exact read.unique (reads_call hb)
    | derived parent role =>
      have short := ha scope (by simp)
      exact absurd same.symm
        (ArtifactId.derivedBytes_ne_callBytes hb short role target signature index)
  | derived parent role =>
    cases b with
    | call scope target signature index =>
      have short := hb scope (by simp)
      exact absurd same (ArtifactId.derivedBytes_ne_callBytes ha short role target signature index)
    | derived parent' role' =>
      obtain ⟨rfl, rfl⟩ := (ArtifactId.derivedBytes_inj ha hb).mp same
      rfl

/-- Only what is the same has the same bytes, so with whatever hash only what is the same
has the same id, unless the hash collides. The ids are made in this way, and each can be
that of a parent. -/
theorem bytes_identify (ha : a.IsRegular) (hb : b.IsRegular) :
    (a.bytes = b.bytes ↔ a = b) ∧
      (∀ hash, ArtifactId.ofHash (hash a.bytes) = ArtifactId.ofHash (hash b.bytes) →
        a = b ∨ Collide hash a.bytes b.bytes) ∧
      ∀ i : Identity, i.made = .ofHash (Blake3.hash i.bytes) ∧ i.made.IsHex := by
  refine ⟨bytes_inj ha hb, fun hash same => ?_, fun i => ⟨made_eq i, ?_⟩⟩
  · by_cases equal : a = b
    · exact .inl equal
    · exact .inr ⟨fun bytes => equal ((bytes_inj ha hb).mp bytes), same⟩
  · rw [made_eq]
    exact ArtifactId.isHex_ofHash_hash i.bytes

/-- Moving a character from one text of a call to the next one changes the bytes, and the bytes of
what is derived from a call are not those of a call. -/
theorem bytes_identify_shifted :
    (call "" "ab" "c:" 0).IsRegular ∧ (call "" "a" "bc:" 0).IsRegular ∧
      (derived (.ofCall "" "ab" "c:" 0) "post-processor").IsRegular ∧
      (call "" "ab" "c:" 0).bytes ≠ (call "" "a" "bc:" 0).bytes ∧
      (derived (.ofCall "" "ab" "c:" 0) "post-processor").bytes ≠ (call "" "ab" "c:" 0).bytes := by
  have first : (call "" "ab" "c:" 0).IsRegular := by
    rw [IsRegular]
    decide
  have second : (call "" "a" "bc:" 0).IsRegular := by
    rw [IsRegular]
    decide
  obtain ⟨shifted, -, made⟩ := bytes_identify first second
  have beside : (derived (.ofCall "" "ab" "c:" 0) "post-processor").IsRegular :=
    (made (call "" "ab" "c:" 0)).2
  refine ⟨first, second, beside, ?_, ?_⟩
  · rw [Ne, shifted]
    simp
  · rw [Ne, (bytes_identify beside first).1]
    simp

end

end Identity

end CallReplay
