/-!
# UTF-8

Texts are written as UTF-8 and read back strictly: the first byte that cannot continue a well-formed
sequence ends the reading with a report of where the sequence began and how many of its bytes could
have begun one. `lossy` reads any bytes, with a replacement character for each such part.
-/

namespace CallReplay.Text.Utf8

/-- The bytes of a text. -/
def encode (s : String) : List UInt8 :=
  s.toList.flatMap String.utf8EncodeChar

/-- How reading a text fails: at `index` a sequence begins that is wrong after `length` bytes, or
that the end of the bytes cuts short. -/
inductive Error where
  | invalid (length index : Nat)
  | incomplete (index : Nat)
  deriving DecidableEq

/-- What is reported about bytes that are not UTF-8. -/
def Error.message : Error → String
  | invalid length index => s!"invalid utf-8 sequence of {length} bytes from index {index}"
  | incomplete index => s!"incomplete utf-8 byte sequence from index {index}"

/-- What stands at the start of some bytes: a character of some length, or a sequence that is wrong
after so many bytes, or one that is cut short. -/
inductive Head where
  | char (c : Char) (length : Nat)
  | invalid (length : Nat)
  | incomplete
  deriving DecidableEq

/-- Whether a byte continues a sequence. -/
def isContinuation (b : UInt8) : Bool := 0x80 ≤ b && b ≤ 0xBF

/-- The length of the sequence that a byte can begin; zero if it begins none. -/
def sequenceLength (lead : UInt8) : Nat :=
  if lead < 0x80 then 1
  else if 0xC2 ≤ lead && lead ≤ 0xDF then 2
  else if 0xE0 ≤ lead && lead ≤ 0xEF then 3
  else if 0xF0 ≤ lead && lead ≤ 0xF4 then 4
  else 0

/-- Whether a byte can stand second after a lead byte: it continues the sequence, and the sequence
is neither overlong nor a surrogate nor beyond the last code point. -/
def isSecond (lead b : UInt8) : Bool :=
  isContinuation b &&
    !(lead == 0xE0 && b < 0xA0) && !(lead == 0xED && b > 0x9F) &&
    !(lead == 0xF0 && b < 0x90) && !(lead == 0xF4 && b > 0x8F)

/-- The low six bits of a continuation byte. -/
def payload (b : UInt8) : Nat := b.toNat % 64

/-- The character that bytes start with, given the first of them, or why there is none. -/
def head (lead : UInt8) (rest : List UInt8) : Head :=
  match sequenceLength lead with
  | 1 => .char (Char.ofNat lead.toNat) 1
  | 2 =>
    match rest with
    | [] => .incomplete
    | b :: _ =>
      if !isSecond lead b then .invalid 1
      else .char (Char.ofNat (lead.toNat % 32 * 64 + payload b)) 2
  | 3 =>
    match rest with
    | [] => .incomplete
    | b :: rest =>
      if !isSecond lead b then .invalid 1
      else
        match rest with
        | [] => .incomplete
        | c :: _ =>
          if !isContinuation c then .invalid 2
          else .char (Char.ofNat ((lead.toNat % 16 * 64 + payload b) * 64 + payload c)) 3
  | 4 =>
    match rest with
    | [] => .incomplete
    | b :: rest =>
      if !isSecond lead b then .invalid 1
      else
        match rest with
        | [] => .incomplete
        | c :: rest =>
          if !isContinuation c then .invalid 2
          else
            match rest with
            | [] => .incomplete
            | d :: _ =>
              if !isContinuation d then .invalid 3
              else
                .char (Char.ofNat
                  (((lead.toNat % 8 * 64 + payload b) * 64 + payload c) * 64 + payload d)) 4
  | _ => .invalid 1

/-- Reads the characters of bytes that begin at `index` of the whole text. -/
def decodeFrom (index : Nat) : List UInt8 → Except Error (List Char)
  | [] => .ok []
  | lead :: rest =>
    match head lead rest with
    | .char c length => do
      let cs ← decodeFrom (index + length) (rest.drop (length - 1))
      pure (c :: cs)
    | .invalid length => .error (.invalid length index)
    | .incomplete => .error (.incomplete index)
  termination_by bytes => bytes.length
  decreasing_by simp only [List.length_drop, List.length_cons]; omega

/-- The text that some bytes stand for. -/
def decode (bytes : List UInt8) : Except Error String :=
  (decodeFrom 0 bytes).map String.ofList

/-- The characters of any bytes, with a replacement character for each part that is no sequence. -/
def lossyChars : List UInt8 → List Char
  | [] => []
  | lead :: rest =>
    match head lead rest with
    | .char c length => c :: lossyChars (rest.drop (length - 1))
    | .invalid length => Char.ofNat 0xFFFD :: lossyChars (rest.drop (length - 1))
    | .incomplete => [Char.ofNat 0xFFFD]
  termination_by bytes => bytes.length
  decreasing_by all_goals simp only [List.length_drop, List.length_cons]; omega

/-- The text of any bytes, with a replacement character for each part that is no sequence. -/
def lossy (bytes : List UInt8) : String := String.ofList (lossyChars bytes)

end CallReplay.Text.Utf8
