import CallReplay.Wire.Decoder
import CallReplay.Proofs.Except
import CallReplay.Proofs.Text.Utf8

/-!
# Reading what was written

A reader reads the bytes of a value if it gives the value back and hands on whatever follows, and it
refuses bytes if it fails on them whatever follows. Some values can be written but not read back, so
`Decides` says of bytes that they are read exactly if the value has a property. These facts are put
together along the readers: that of a sequence of readers comes from those of its parts.
-/

namespace CallReplay.Wire

/-- Reading gives the value and hands on what follows. -/
def Reads {ε α : Type} (read : StateT (List UInt8) (Except ε) α) (bytes : List UInt8) (a : α) :
    Prop :=
  ∀ rest, read.run (bytes ++ rest) = .ok (a, rest)

/-- Reading fails with an error, whatever follows. -/
def Refuses {ε α : Type} (read : StateT (List UInt8) (Except ε) α) (bytes : List UInt8) (e : ε) :
    Prop :=
  ∀ rest, read.run (bytes ++ rest) = .error e

/-- Reading gives the value if it is good, and fails otherwise. -/
structure Decides {ε α : Type} (read : StateT (List UInt8) (Except ε) α) (bytes : List UInt8)
    (a : α) (good : Prop) : Prop where
  reads : good → Reads read bytes a
  refuses : ¬good → ∃ e, Refuses read bytes e

section

variable {ε α β : Type} {x : StateT (List UInt8) (Except ε) α}
  {f : α → StateT (List UInt8) (Except ε) β} {bytes more : List UInt8} {a : α} {b : β} {e : ε}
  {p q : Prop}

/-- Two readers, one after the other, succeed if the second succeeds on what the first hands on. -/
lemma run_bind_eq_ok_iff {rest : List UInt8} :
    (x >>= f).run bytes = .ok (b, rest) ↔
      ∃ a left, x.run bytes = .ok (a, left) ∧ (f a).run left = .ok (b, rest) := by
  rw [StateT.run_bind, bind_eq_ok_iff, Prod.exists]

/-- Two readers, one after the other, fail if the first does or the second does on what the
first hands on. -/
lemma run_bind_eq_error_iff :
    (x >>= f).run bytes = .error e ↔
      x.run bytes = .error e ∨ ∃ a left, x.run bytes = .ok (a, left) ∧
      (f a).run left = .error e := by
  rw [StateT.run_bind, bind_eq_error_iff, Prod.exists]

/-- What is not written is read back. -/
lemma reads_pure (a : α) : Reads (pure a : StateT (List UInt8) (Except ε) α) [] a := fun _ => rfl

/-- Two readers, one after the other, read the bytes of both. -/
lemma Reads.bind (hx : Reads x bytes a) (hf : Reads (f a) more b) :
    Reads (x >>= f) (bytes ++ more) b := by
  intro rest
  rw [List.append_assoc, StateT.run_bind, hx]
  exact hf rest

/-- Two readers refuse what the first refuses. -/
lemma Refuses.bind (hx : Refuses x bytes e) : Refuses (x >>= f) (bytes ++ more) e := by
  intro rest
  rw [List.append_assoc, StateT.run_bind, hx]
  rfl

/-- Two readers refuse what the first refuses, also where nothing is left for the second. -/
lemma Refuses.first (hx : Refuses x bytes e) : Refuses (x >>= f) bytes e := by
  rw [← List.append_nil bytes]
  exact hx.bind

/-- Two readers refuse what the second refuses after the first has read its part. -/
lemma Reads.refuses_bind (hx : Reads x bytes a) (hf : Refuses (f a) more e) :
    Refuses (x >>= f) (bytes ++ more) e := by
  intro rest
  rw [List.append_assoc, StateT.run_bind, hx]
  exact hf rest

/-- A value that is good anyway is read back. -/
lemma Reads.decides (h : Reads x bytes a) (hp : p) : Decides x bytes a p :=
  ⟨fun _ => h, fun hn => absurd hp hn⟩

/-- After a part that is read, the next one decides. -/
lemma Reads.then (hx : Reads x bytes a) (hf : Decides (f a) more b q) :
    Decides (x >>= f) (bytes ++ more) b q :=
  ⟨fun hq => hx.bind (hf.reads hq), fun hq => (hf.refuses hq).imp fun _ => hx.refuses_bind⟩

/-- Two parts are read exactly if both are good. -/
lemma Decides.bind (hx : Decides x bytes a p) (hf : Decides (f a) more b q) :
    Decides (x >>= f) (bytes ++ more) b (p ∧ q) := by
  refine ⟨fun ⟨hp, hq⟩ => (hx.reads hp).bind (hf.reads hq), fun hn => ?_⟩
  by_cases hp : p
  · exact (hf.refuses fun hq => hn ⟨hp, hq⟩).imp fun _ => (hx.reads hp).refuses_bind
  · exact (hx.refuses hp).imp fun _ => Refuses.bind

/-- What is made of a value is read exactly if the value is. -/
lemma Decides.map (hx : Decides x bytes a p) (g : α → β) :
    Decides (x >>= fun a => pure (g a)) bytes (g a) p := by
  rw [← List.append_nil bytes]
  exact ⟨fun hp => (hx.reads hp).bind (reads_pure _), fun hp => (hx.refuses hp).imp fun _ =>
    Refuses.bind⟩

/-- What is made of a value is read from the bytes of the value. -/
lemma Reads.map (hx : Reads x bytes a) (g : α → β) :
    Reads (x >>= fun a => pure (g a)) bytes (g a) := by
  rw [← List.append_nil bytes]
  exact hx.bind (reads_pure _)

/-- What decides whether a value is read back may be put in another way. -/
lemma Decides.congr (h : Decides x bytes a p) (hpq : p ↔ q) : Decides x bytes a q :=
  ⟨fun hq => h.reads (hpq.mpr hq), fun hq => h.refuses fun hp => hq (hpq.mp hp)⟩

/-- Bytes that are read are used up. -/
lemma Reads.run_eq (h : Reads x bytes a) : x.run bytes = .ok (a, []) := by
  have hrun := h []
  rwa [List.append_nil] at hrun

/-- Bytes are read as one value. -/
lemma Reads.unique {a' : α} (h : Reads x bytes a) (h' : Reads x bytes a') : a = a' := by
  have same := h.run_eq.symm.trans h'.run_eq
  cases same
  rfl

/-- Bytes that are refused are refused when nothing comes behind them. -/
lemma Refuses.run_eq (h : Refuses x bytes e) : x.run bytes = .error e := by
  have hrun := h []
  rwa [List.append_nil] at hrun

/-- Decoding leaves out what follows a value. -/
lemma Reads.decode {x : Decoder α} (h : Reads x bytes a) : decode x bytes = .ok a := by
  simp [Wire.decode, h.run_eq, Except.map]

/-- Bytes that are refused cannot be decoded. -/
lemma Refuses.decode {x : Decoder α} {e : DecodeError} (h : Refuses x bytes e) :
    decode x bytes = .error e := by
  simp [Wire.decode, h.run_eq, Except.map]

end

/-- Bytes whose number can be written as a length. -/
def Fits (bytes : List UInt8) : Prop := bytes.length < 2 ^ 64

section

variable {α : Type} {write : α → List UInt8} {read : Decoder α}

/-- The parts of bytes that fit fit. -/
lemma Fits.of_append {a b : List UInt8} (h : Fits (a ++ b)) : Fits a ∧ Fits b := by
  simp only [Fits, List.length_append] at h ⊢
  omega

/-- A number is written in as many bytes as its width says. -/
lemma length_littleEndian (width n : Nat) : (littleEndian width n).length = width := by
  induction width generalizing n with
  | zero => rfl
  | succ width ih => rw [littleEndian, List.length_cons, ih]

/-- A number that its width can hold is read back from its bytes. -/
lemma ofLittleEndian_littleEndian {width n : Nat} (h : n < 256 ^ width) :
    ofLittleEndian (littleEndian width n) = n := by
  induction width generalizing n with
  | zero =>
    rw [Nat.pow_zero, Nat.lt_one_iff] at h
    rw [h]
    rfl
  | succ width ih =>
    rw [Nat.pow_succ] at h
    rw [littleEndian, ofLittleEndian, ih (Nat.div_lt_of_lt_mul (by omega)), UInt8.toNat_ofNat']
    omega

/-- The number of some bytes is below the bound for that many. -/
lemma ofLittleEndian_lt (bytes : List UInt8) : ofLittleEndian bytes < 256 ^ bytes.length := by
  induction bytes with
  | nil => exact Nat.one_pos
  | cons b bytes ih =>
    have hb : b.toNat < 256 := b.toNat_lt
    rw [ofLittleEndian, List.length_cons, Nat.pow_succ]
    omega

/-- Bytes are those of the number that they stand for. -/
lemma littleEndian_ofLittleEndian (bytes : List UInt8) :
    littleEndian bytes.length (ofLittleEndian bytes) = bytes := by
  induction bytes with
  | nil => rfl
  | cons b bytes ih =>
    have hb : b.toNat < 256 := b.toNat_lt
    have low : (b.toNat + 256 * ofLittleEndian bytes) % 256 = b.toNat := by omega
    have high : (b.toNat + 256 * ofLittleEndian bytes) / 256 = ofLittleEndian bytes := by omega
    rw [ofLittleEndian, List.length_cons, littleEndian, low, high, ih, UInt8.ofNat_toNat]

/-- Bytes are cut where they end. -/
lemma splitBytes?_append (bytes rest : List UInt8) :
    splitBytes? bytes.length (bytes ++ rest) = some (bytes, rest) := by
  rw [splitBytes?_eq, if_pos (by simp)]
  simp

/-- Bytes are taken as they are. -/
lemma reads_takeBytes (error : DecodeError) (bytes : List UInt8) :
    Reads (takeBytes error bytes.length) bytes bytes := by
  intro rest
  change takeBytes error bytes.length (bytes ++ rest) = _
  rw [takeBytes, splitBytes?_append]

/-- A number that fits its width is read back. -/
lemma reads_nat {width n : Nat} (h : n < 256 ^ width) :
    Reads (readNat width) (littleEndian width n) n := by
  have taken := (reads_takeBytes .endOfInput (littleEndian width n)).map ofLittleEndian
  rwa [length_littleEndian, ofLittleEndian_littleEndian h] at taken

/-- A byte is read back. -/
lemma reads_byte (b : UInt8) : Reads readByte [b] b := by
  have hbytes : littleEndian 1 b.toNat = [b] := by
    rw [littleEndian, littleEndian, Nat.mod_eq_of_lt b.toNat_lt, UInt8.ofNat_toNat]
  have number : Reads (readNat 1) (littleEndian 1 b.toNat) b.toNat := reads_nat b.toNat_lt
  have read := number.map UInt8.ofNat
  rwa [hbytes, UInt8.ofNat_toNat] at read

/-- A number of 32 bits is read back. -/
lemma reads_uInt32 (n : UInt32) : Reads readUInt32 (writeUInt32 n) n := by
  have number : Reads (readNat 4) (writeUInt32 n) n.toNat := reads_nat n.toNat_lt
  have read := number.map UInt32.ofNat
  rwa [UInt32.ofNat_toNat] at read

/-- A number of 64 bits is read back. -/
lemma reads_uInt64 (n : UInt64) : Reads readUInt64 (writeUInt64 n) n := by
  have number : Reads (readNat 8) (writeUInt64 n) n.toNat := reads_nat n.toNat_lt
  have read := number.map UInt64.ofNat
  rwa [UInt64.ofNat_toNat] at read

/-- A truth value is read back. -/
lemma reads_bool (b : Bool) : Reads readBool (writeBool b) b := by
  cases b with
  | false => exact (reads_byte 0).bind (reads_pure false)
  | true => exact (reads_byte 1).bind (reads_pure true)

/-- What is left of reading a text once its bytes have been taken. -/
def finishText (bytes : List UInt8) : Decoder String :=
  match Text.Utf8.decode bytes with
  | .ok s => pure s
  | .error cause => throw (.text cause)

/-- A text that fits its length is read back. -/
lemma reads_text {s : String} (h : Fits (writeText s)) : Reads readText (writeText s) s := by
  have hlength : (Text.Utf8.encode s).length < 256 ^ 8 := h.of_append.2
  have finished : Reads (finishText (Text.Utf8.encode s)) [] s := by
    simp only [finishText, Text.Utf8.decode_encode]
    exact reads_pure s
  have taken := (reads_takeBytes .textTooLong (Text.Utf8.encode s)).bind finished
  rw [List.append_nil] at taken
  exact (reads_nat hlength).bind taken

/-- A character is read back. -/
lemma reads_char (c : Char) : Reads readChar (writeChar c) c := by
  intro rest
  obtain ⟨lead, tail, hbytes, hhead⟩ := Text.Utf8.head_encodeChar c
  rw [writeChar, hbytes]
  change readChar (lead :: (tail ++ rest)) = _
  rw [readChar, hhead]
  simp

/-- The number of a case is read back. -/
lemma reads_variant {number : Nat} (h : number < 2 ^ 32) :
    Reads readUInt32 (writeVariant number) (UInt32.ofNat number) :=
  (reads_nat h).map UInt32.ofNat

/-- Values are read one after another if each of them is. -/
lemma decides_readMany {good : α → Prop} {values : List α}
    (h : ∀ a ∈ values, Decides read (write a) a (good a)) :
    Decides (readMany read values.length) (writeAll write values) values
      (∀ a ∈ values, good a) := by
  induction values with
  | nil => exact (reads_pure []).decides nofun
  | cons a values ih =>
    have rest := ih fun b hb => h b (List.mem_cons_of_mem _ hb)
    have both : Decides (readMany read (values.length + 1)) (write a ++ writeAll write values)
        (a :: values) (good a ∧ ∀ b ∈ values, good b) :=
      (h a List.mem_cons_self).bind (rest.map (a :: ·))
    exact both.congr (by simp)

/-- A value takes no more bytes than a list that it is in. -/
lemma length_le_writeAll {values : List α} {a : α} (ha : a ∈ values) :
    (write a).length ≤ (writeAll write values).length := by
  obtain ⟨before, after, rfl⟩ := List.append_of_mem ha
  simp only [writeAll, List.flatMap_append, List.flatMap_cons, List.length_append]
  omega

/-- The values of a list that fits fit. -/
lemma Fits.of_mem {values : List α} (h : Fits (writeList write values)) {a : α} (ha : a ∈ values) :
    Fits (write a) :=
  Nat.lt_of_le_of_lt (length_le_writeAll ha) h.of_append.2

/-- A list of values that all take bytes is no longer than its bytes. -/
lemma length_le_length_writeAll (hwrite : ∀ a, write a ≠ []) (values : List α) :
    values.length ≤ (writeAll write values).length := by
  induction values with
  | nil => exact Nat.le_refl _
  | cons a values ih =>
    have ha : 0 < (write a).length := List.length_pos_iff.mpr (hwrite a)
    rw [writeAll, List.flatMap_cons, List.length_append, List.length_cons]
    rw [writeAll] at ih
    omega

/-- A list is read if each of its values is. -/
lemma decides_readList {good : α → Prop} {values : List α} (hwrite : ∀ a, write a ≠ [])
    (hfits : Fits (writeList write values))
    (h : ∀ a ∈ values, Fits (write a) → Decides read (write a) a (good a)) :
    Decides (readList read) (writeList write values) values (∀ a ∈ values, good a) := by
  -- The length is written in 64 bits. It fits there because each value takes at least one byte.
  have hlength : values.length < 256 ^ 8 :=
    Nat.lt_of_le_of_lt (length_le_length_writeAll hwrite values) hfits.of_append.2
  exact (reads_nat hlength).then (decides_readMany fun a ha => h a ha (hfits.of_mem ha))

end

end CallReplay.Wire
