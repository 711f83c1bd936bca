import CallReplay.Text.Hex
import Mathlib

/-!
# Hexadecimal digits read back

A number that is written in hexadecimal digits is read back up to the width it was written in.
-/

namespace CallReplay.Text

/-- The characters that ids are written with. -/
def idChars : List Char :=
  ['0', '1', '2', '3', '4', '5', '6', '7', '8', '9', 'a', 'b', 'c', 'd', 'e', 'f', '-']

variable {width n : Nat} {c : Char}

/-- A hexadecimal digit is read back. -/
lemma hexValue?_hexDigit (h : n < 16) : hexValue? (hexDigit n) = some n := by
  revert n
  decide

/-- A hexadecimal digit in upper case is read back. -/
lemma hexValue?_hexDigitUpper (h : n < 16) : hexValue? (hexDigitUpper n) = some n := by
  revert n
  decide

/-- No hexadecimal digit is the `u` of a Unicode escape. -/
lemma hexDigitUpper_ne_u (h : n < 16) : hexDigitUpper n ≠ 'u' := by
  revert n
  decide

/-- Ids may be written with hexadecimal digits. -/
lemma hexDigit_mem_idChars (h : n < 16) : hexDigit n ∈ idChars := by
  revert n
  decide

/-- No hexadecimal digit is a hyphen. -/
lemma hexDigit_ne_hyphen (h : n < 16) : hexDigit n ≠ '-' := by
  revert n
  decide

/-- Bytes are written with hexadecimal digits. -/
lemma hexDigit_of_mem_hexOfBytes {bytes : List UInt8} (h : c ∈ (hexOfBytes bytes).toList) :
    ∃ d < 16, hexDigit d = c := by
  rw [hexOfBytes, String.toList_ofList, List.mem_flatMap] at h
  obtain ⟨b, _, hc⟩ := h
  simp only [hexOfByte, List.mem_cons, List.not_mem_nil, or_false] at hc
  rcases hc with rfl | rfl
  · exact ⟨_, Nat.div_lt_of_lt_mul b.toNat_lt, rfl⟩
  · exact ⟨_, Nat.mod_lt _ (by decide), rfl⟩

/-- A byte is written with two digits. -/
@[simp]
lemma length_hexOfBytes (bytes : List UInt8) :
    (hexOfBytes bytes).toList.length = 2 * bytes.length := by
  simp [hexOfBytes, hexOfByte, List.length_flatMap, Nat.mul_comm]

/-- The digits that are there already stay behind those that are added. -/
lemma hexOfNat_go (width n : Nat) (digits : List Char) :
    hexOfNat.go width n digits = hexOfNat.go width n [] ++ digits := by
  induction width generalizing n digits with
  | zero => rfl
  | succ width ih =>
    rw [hexOfNat.go, hexOfNat.go, ih, ih _ [_], List.append_assoc]
    rfl

/-- The last digit of a number is that of its remainder by sixteen. -/
lemma toList_hexOfNat_succ (width n : Nat) :
    (hexOfNat (width + 1) n).toList = (hexOfNat width (n / 16)).toList ++ [hexDigit (n % 16)] := by
  simp only [hexOfNat, String.toList_ofList]
  rw [hexOfNat.go, hexOfNat_go]

/-- A number is written with as many digits as are asked for. -/
@[simp]
lemma length_hexOfNat (width n : Nat) : (hexOfNat width n).toList.length = width := by
  induction width generalizing n with
  | zero => rfl
  | succ width ih => rw [toList_hexOfNat_succ, List.length_append, ih, List.length_singleton]

/-- A number is written with hexadecimal digits. -/
lemma hexDigit_of_mem_hexOfNat (h : c ∈ (hexOfNat width n).toList) : ∃ d < 16, hexDigit d = c := by
  induction width generalizing n with
  | zero => cases h
  | succ width ih =>
    rw [toList_hexOfNat_succ, List.mem_append, List.mem_singleton] at h
    rcases h with h | rfl
    · exact ih h
    · exact ⟨_, Nat.mod_lt _ (by decide), rfl⟩

/-- The digits of a number stand for the number, as far as there are digits for it. -/
theorem natOfHex?_hexOfNat (width n : Nat) :
    natOfHex? (hexOfNat width n).toList = some (n % 16 ^ width) := by
  induction width generalizing n with
  | zero => simp [natOfHex?, hexOfNat, hexOfNat.go, Nat.mod_one]
  | succ width ih =>
    have low : n % 16 < 16 := Nat.mod_lt _ (by decide)
    have last : natOfHex? (hexOfNat (width + 1) n).toList =
        some (16 * (n / 16 % 16 ^ width) + n % 16) := by
      rw [toList_hexOfNat_succ, natOfHex?, List.foldl_append, ← natOfHex?, ih]
      simp [hexValue?_hexDigit low]
    have split : n % (16 * 16 ^ width) = n % 16 + 16 * (n / 16 % 16 ^ width) := Nat.mod_mul
    rw [last, pow_succ', split, Nat.add_comm]

end CallReplay.Text
