import CallReplay.Text.Utf8
import CallReplay.Proofs.Except

/-!
# Reading UTF-8 that was written

`head` finds the character of which the bytes at hand are the encoding, whatever follows them, and
so `decode` gives every text back from its bytes. A text that was read from any bytes is written in
no more of them.
-/

namespace CallReplay.Text.Utf8

/-- A continuation byte carries six bits. -/
lemma payload_ofNat (n : Nat) : payload (UInt8.ofNat (n % 64 + 128)) = n % 64 := by
  simp only [payload, UInt8.toNat_ofNat']
  omega

/-- A continuation byte is written for six bits. -/
lemma isContinuation_ofNat (n : Nat) : isContinuation (UInt8.ofNat (n % 64 + 128)) = true := by
  simp only [isContinuation, Bool.and_eq_true, decide_eq_true_eq, UInt8.le_iff_toNat_le,
    UInt8.toNat_ofNat']
  constructor
  · change 128 ≤ _
    omega
  · change _ ≤ 191
    omega

/-- The length of the sequence that a byte begins, by the number of the byte. -/
lemma sequenceLength_ofNat {n : Nat} (h : n < 256) :
    sequenceLength (UInt8.ofNat n) =
      if n < 128 then 1
      else if 194 ≤ n ∧ n ≤ 223 then 2
      else if 224 ≤ n ∧ n ≤ 239 then 3
      else if 240 ≤ n ∧ n ≤ 244 then 4
      else 0 := by
  simp only [sequenceLength, Bool.and_eq_true, decide_eq_true_eq, UInt8.le_iff_toNat_le,
    UInt8.lt_iff_toNat_lt, UInt8.toNat_ofNat', Nat.mod_eq_of_lt h]
  rfl

/-- Six bits can stand second after a byte that leaves no overlong sequence, surrogate or code point
beyond the last. -/
lemma isSecond_ofNat {lead n : Nat} (h : lead < 256) (h1 : lead = 224 → 32 ≤ n % 64)
    (h2 : lead = 237 → n % 64 < 32) (h3 : lead = 240 → 16 ≤ n % 64)
    (h4 : lead = 244 → n % 64 < 16) :
    isSecond (UInt8.ofNat lead) (UInt8.ofNat (n % 64 + 128)) = true := by
  have hlead (k : UInt8) : (UInt8.ofNat lead == k) = decide (lead = k.toNat) := by
    rw [Bool.eq_iff_iff, beq_iff_eq, decide_eq_true_eq, ← UInt8.toNat_inj, UInt8.toNat_ofNat',
      Nat.mod_eq_of_lt h]
  have hsecond : (UInt8.ofNat (n % 64 + 128)).toNat = n % 64 + 128 := by
    rw [UInt8.toNat_ofNat']
    omega
  simp only [isSecond, isContinuation_ofNat, hlead, UInt8.lt_iff_toNat_lt, hsecond, gt_iff_lt,
    Bool.true_and, Bool.and_eq_true, Bool.not_eq_true', Bool.and_eq_false_iff,
    decide_eq_false_iff_not,
    UInt8.reduceToNat]
  omega

/-- A character of seven bits is decoded from its byte. -/
lemma head_one {v : Nat} (h : v ≤ 0x7F) (rest : List UInt8) :
    head (UInt8.ofNat v) rest = .char (Char.ofNat v) 1 := by
  have hlength : sequenceLength (UInt8.ofNat v) = 1 := by
    rw [sequenceLength_ofNat (by omega), if_pos (by omega)]
  have hvalue : (UInt8.ofNat v).toNat = v := by
    rw [UInt8.toNat_ofNat']
    omega
  simp only [head, hlength, hvalue]

/-- A character of up to eleven bits is decoded from its two bytes. -/
lemma head_two {v : Nat} (h1 : 0x7F < v) (h2 : v ≤ 0x7FF) (rest : List UInt8) :
    head (UInt8.ofNat (v / 64 % 32 + 192)) (UInt8.ofNat (v % 64 + 128) :: rest) =
      .char (Char.ofNat v) 2 := by
  have hlength : sequenceLength (UInt8.ofNat (v / 64 % 32 + 192)) = 2 := by
    rw [sequenceLength_ofNat (by omega), if_neg (by omega), if_pos (by omega)]
  have hsecond : isSecond (UInt8.ofNat (v / 64 % 32 + 192)) (UInt8.ofNat (v % 64 + 128)) = true :=
    isSecond_ofNat (by omega) (by omega) (by omega) (by omega) (by omega)
  have hvalue : (UInt8.ofNat (v / 64 % 32 + 192)).toNat % 32 * 64 + v % 64 = v := by
    rw [UInt8.toNat_ofNat']
    omega
  simp only [head, hlength, hsecond, Bool.not_true, Bool.false_eq_true, if_false, payload_ofNat,
    hvalue]

/-- Three bytes are read as their character, which is no surrogate. -/
lemma head_three {v : Nat} (h1 : 0x7FF < v) (h2 : v ≤ 0xFFFF) (h3 : v < 0xD800 ∨ 0xDFFF < v)
    (rest : List UInt8) :
    head (UInt8.ofNat (v / 4096 % 16 + 224))
      (UInt8.ofNat (v / 64 % 64 + 128) :: UInt8.ofNat (v % 64 + 128) :: rest) =
      .char (Char.ofNat v) 3 := by
  have hlength : sequenceLength (UInt8.ofNat (v / 4096 % 16 + 224)) = 3 := by
    rw [sequenceLength_ofNat (by omega), if_neg (by omega), if_neg (by omega), if_pos (by omega)]
  -- The second byte rules out overlong sequences and surrogates.
  have hsecond : isSecond (UInt8.ofNat (v / 4096 % 16 + 224)) (UInt8.ofNat (v / 64 % 64 + 128)) =
      true :=
    isSecond_ofNat (by omega) (by omega) (by omega) (by omega) (by omega)
  have hvalue : ((UInt8.ofNat (v / 4096 % 16 + 224)).toNat % 16 * 64 + v / 64 % 64) * 64 + v % 64 =
      v := by
    rw [UInt8.toNat_ofNat']
    omega
  simp only [head, hlength, hsecond, isContinuation_ofNat, Bool.not_true, Bool.false_eq_true,
    if_false, payload_ofNat, hvalue]

/-- Four bytes are read as their character. -/
lemma head_four {v : Nat} (h1 : 0xFFFF < v) (h2 : v < 0x110000) (rest : List UInt8) :
    head (UInt8.ofNat (v / 262144 % 8 + 240)) (UInt8.ofNat (v / 4096 % 64 + 128) ::
      UInt8.ofNat (v / 64 % 64 + 128) :: UInt8.ofNat (v % 64 + 128) :: rest) =
      .char (Char.ofNat v) 4 := by
  have hlength : sequenceLength (UInt8.ofNat (v / 262144 % 8 + 240)) = 4 := by
    rw [sequenceLength_ofNat (by omega), if_neg (by omega), if_neg (by omega), if_neg (by omega),
      if_pos (by omega)]
  have hsecond : isSecond (UInt8.ofNat (v / 262144 % 8 + 240)) (UInt8.ofNat (v / 4096 % 64 + 128)) =
      true :=
    isSecond_ofNat (by omega) (by omega) (by omega) (by omega) (by omega)
  have hvalue : (((UInt8.ofNat (v / 262144 % 8 + 240)).toNat % 8 * 64 + v / 4096 % 64) * 64 +
      v / 64 % 64) * 64 + v % 64 = v := by
    rw [UInt8.toNat_ofNat']
    omega
  simp only [head, hlength, hsecond, isContinuation_ofNat, Bool.not_true, Bool.false_eq_true,
    if_false, payload_ofNat, hvalue]

/-- The bytes of a character are read as the character, whatever follows them. -/
theorem head_encodeChar (c : Char) : ∃ lead tail, String.utf8EncodeChar c = lead :: tail ∧
    ∀ rest, head lead (tail ++ rest) = .char c (tail.length + 1) := by
  obtain ⟨v, hv, hchar, hvalid⟩ : ∃ v, c.val.toNat = v ∧ Char.ofNat v = c ∧
      (v < 0xD800 ∨ 0xDFFF < v ∧ v < 0x110000) := ⟨_, rfl, Char.ofNat_toNat c, c.valid⟩
  simp only [String.utf8EncodeChar, hv]
  rw [← hchar]
  split
  · rename_i h1
    exact ⟨_, [], rfl, head_one h1⟩
  · split
    · rename_i h1 h2
      exact ⟨_, [_], rfl, head_two (by omega) h2⟩
    · split
      · rename_i h1 h2 h3
        exact ⟨_, [_, _], rfl, head_three (by omega) h3 (by omega)⟩
      · exact ⟨_, [_, _, _], rfl, head_four (by omega) (by omega)⟩

/-- Characters are read back from their bytes. -/
lemma decodeFrom_encode (index : Nat) (chars : List Char) :
    decodeFrom index (chars.flatMap String.utf8EncodeChar) = .ok chars := by
  induction chars generalizing index with
  | nil => simp [decodeFrom]
  | cons c rest ih =>
    obtain ⟨lead, tail, hbytes, hhead⟩ := head_encodeChar c
    rw [List.flatMap_cons, hbytes, List.cons_append, decodeFrom, hhead]
    simp [ih]

/-- A text is read back from its bytes. -/
theorem decode_encode (s : String) : decode (encode s) = .ok s := by
  simp [decode, encode, decodeFrom_encode, Except.map]

/-- Different texts have different bytes. -/
lemma encode_injective : Function.Injective encode := by
  intro s t same
  have read := decode_encode s
  rw [same, decode_encode t] at read
  exact (Except.ok.inj read).symm

/-- Texts one behind the other have their bytes one behind the other. -/
lemma encode_append (s t : String) : encode (s ++ t) = encode s ++ encode t := by
  rw [encode, String.toList_append, List.flatMap_append, encode, encode]

/-- A number that is no character stands for a smaller one. -/
lemma toNat_ofNat_le (n : Nat) : (Char.ofNat n).val.toNat ≤ n := by
  unfold Char.ofNat
  split
  · exact Nat.le_refl n
  · exact Nat.zero_le n

/-- A character takes more bytes the larger its number is. -/
lemma length_encodeChar (c : Char) : (String.utf8EncodeChar c).length =
    if c.val.toNat ≤ 0x7F then 1 else if c.val.toNat ≤ 0x7FF then 2
      else if c.val.toNat ≤ 0xFFFF then 3 else 4 := by
  unfold String.utf8EncodeChar
  dsimp only
  split_ifs <;> rfl

/-- A character is written in no more bytes than its number needs. -/
lemma length_encodeChar_ofNat_le {n : Nat} :
    (n < 0x80 → (String.utf8EncodeChar (Char.ofNat n)).length ≤ 1) ∧
      (n < 0x800 → (String.utf8EncodeChar (Char.ofNat n)).length ≤ 2) ∧
      (n < 0x10000 → (String.utf8EncodeChar (Char.ofNat n)).length ≤ 3) ∧
      (String.utf8EncodeChar (Char.ofNat n)).length ≤ 4 := by
  have small := toNat_ofNat_le n
  rw [length_encodeChar]
  refine ⟨?_, ?_, ?_, ?_⟩ <;> split_ifs <;> omega

/-- A continuation byte carries six bits. -/
lemma payload_lt (b : UInt8) : payload b < 64 := Nat.mod_lt _ (by decide)

/-- A character that stands at the start of bytes takes no fewer of them than it is written in. -/
lemma length_encodeChar_le_of_head {lead : UInt8} {rest : List UInt8} {c : Char} {length : Nat}
    (h : head lead rest = .char c length) :
    (String.utf8EncodeChar c).length ≤ length ∧ 1 ≤ length ∧ length ≤ rest.length + 1 := by
  unfold head at h
  split at h
  next one =>
    have hlead : lead.toNat < 0x80 := by
      unfold sequenceLength at one
      split at one
      next small => exact UInt8.lt_iff_toNat_lt.mp small
      · split_ifs at one <;> cases one
    cases h
    exact ⟨length_encodeChar_ofNat_le.1 hlead, Nat.le_refl 1, Nat.le_add_left 1 _⟩
  next two =>
    split at h
    · cases h
    next b tail =>
      split at h
      · cases h
      · cases h
        have hb := payload_lt b
        refine ⟨length_encodeChar_ofNat_le.2.1 (by omega), by omega, by simp⟩
  next three =>
    split at h
    · cases h
    next b tail =>
      split at h
      · cases h
      · split at h
        · cases h
        next c tail =>
          split at h
          · cases h
          · cases h
            have hb := payload_lt b
            have hc := payload_lt c
            refine ⟨length_encodeChar_ofNat_le.2.2.1 (by omega), by omega, by simp⟩
  next four =>
    split at h
    · cases h
    next b tail =>
      split at h
      · cases h
      · split at h
        · cases h
        next c tail =>
          split at h
          · cases h
          · split at h
            · cases h
            next d tail =>
              split at h
              · cases h
              · cases h
                refine ⟨length_encodeChar_ofNat_le.2.2.2, by omega, by simp⟩
  · cases h

/-- A character that stands at the start of bytes stands there whatever follows them. -/
lemma head_append {lead : UInt8} {rest : List UInt8} {c : Char} {length : Nat}
    (h : head lead rest = .char c length) (more : List UInt8) :
    head lead (rest ++ more) = .char c length := by
  unfold head at h ⊢
  split at h
  next one =>
    exact h
  next two =>
    cases rest with
    | nil => cases h
    | cons b tail => exact h
  next three =>
    match rest with
    | [] => cases h
    | [b] =>
      dsimp only at h
      split_ifs at h
    | b :: c :: tail => exact h
  next four =>
    match rest with
    | [] => cases h
    | [b] =>
      dsimp only at h
      split_ifs at h
    | [b, c] =>
      dsimp only at h
      split_ifs at h
    | b :: c :: d :: tail => exact h
  · cases h

/-- What was decoded is written in no more bytes. -/
lemma length_encode_le_of_decodeFrom {index : Nat} {bytes : List UInt8} {chars : List Char}
    (h : decodeFrom index bytes = .ok chars) :
    (chars.flatMap String.utf8EncodeChar).length ≤ bytes.length := by
  fun_induction decodeFrom index bytes generalizing chars with
  | case1 index =>
    cases h
    exact Nat.le_refl 0
  | case2 index lead rest c length hhead ih =>
    obtain ⟨cs, hcs, hchars⟩ := bind_eq_ok_iff.mp h
    cases hchars
    obtain ⟨hc, hone, hrest⟩ := length_encodeChar_le_of_head hhead
    have htail := ih hcs
    rw [List.length_drop] at htail
    rw [List.flatMap_cons, List.length_append, List.length_cons]
    omega
  | case3 => cases h
  | case4 => cases h

/-- A text that was read is written in no more bytes. -/
theorem length_encode_le_of_decode {bytes : List UInt8} {s : String} (h : decode bytes = .ok s) :
    (encode s).length ≤ bytes.length := by
  obtain ⟨chars, hchars, rfl⟩ := map_eq_ok_iff.mp h
  rw [encode, String.toList_ofList]
  exact length_encode_le_of_decodeFrom hchars

end CallReplay.Text.Utf8
