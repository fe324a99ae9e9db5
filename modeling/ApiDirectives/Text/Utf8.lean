import ApiDirectives.Text.Quoted

/-!
# Reading UTF-8

Bytes become text one character at a time. A fault names the byte range that could not be read and
why: a byte that starts no character, a character cut short by a byte that does not continue it, or
one cut short by the end of the data. Overlong forms, surrogates and values beyond the last code
point are cut short at their second byte.
-/

namespace ApiDirectives.Text

/-- Why bytes are no text: the encoding's name, the range of bytes at fault, and the reason. -/
structure DecodeFault where
  codec : String
  byte : UInt8
  first : Nat
  count : Nat
  reason : String
  deriving Repr, DecidableEq

/-- The text of a decoding fault: one byte is shown with its value, several with their range. -/
def DecodeFault.message (f : DecodeFault) : String :=
  let range :=
    if f.count ≤ 1 then
      "byte 0x" ++ String.ofList (hexPadded 2 f.byte.toNat) ++ " in position " ++ toString f.first
    else "bytes in position " ++ toString f.first ++ "-" ++ toString (f.first + f.count - 1)
  "'" ++ f.codec ++ "' codec can't decode " ++ range ++ ": " ++ f.reason

/-- What the front of some bytes is: a character, its size and the
bytes after it, or a fault of some length. -/
inductive Utf8Step where
  | char (c : Char) (size : Nat) (rest : List UInt8)
  | fault (count : Nat) (reason : String)

/-- Continuation bytes carry six bits. -/
def isContinuation (b : UInt8) : Bool :=
  0x80 ≤ b.toNat && b.toNat < 0xC0

/-- Whether `b` may follow the first byte `a` of a character of three or four bytes. -/
def isSecondByte (a b : UInt8) : Bool :=
  isContinuation b
    && !(a == 0xE0 && b.toNat < 0xA0) && !(a == 0xED && 0xA0 ≤ b.toNat)
    && !(a == 0xF0 && b.toNat < 0x90) && !(a == 0xF4 && 0x90 ≤ b.toNat)

/-- The character or the fault at the front of non-empty bytes. -/
def utf8Step (a : UInt8) (rest : List UInt8) : Utf8Step :=
  let cut := "invalid continuation byte"
  let short := "unexpected end of data"
  let six (b : UInt8) : Nat := b.toNat % 64
  let n := a.toNat
  if n < 0x80 then .char (Char.ofNat n) 1 rest
  else if n < 0xC2 || 0xF5 ≤ n then .fault 1 "invalid start byte"
  else if n < 0xE0 then
    match rest with
    | [] => .fault 1 short
    | b :: r =>
      if isContinuation b then .char (Char.ofNat ((n % 32) * 64 + six b)) 2 r else .fault 1 cut
  else if n < 0xF0 then
    match rest with
    | [] => .fault 1 short
    | [b] => if isSecondByte a b then .fault 2 short else .fault 1 cut
    | b :: c :: r =>
      if !isSecondByte a b then .fault 1 cut
      else if !isContinuation c then .fault 2 cut
      else .char (Char.ofNat (((n % 16) * 64 + six b) * 64 + six c)) 3 r
  else
    match rest with
    | [] => .fault 1 short
    | [b] => if isSecondByte a b then .fault 2 short else .fault 1 cut
    | [b, c] =>
      if !isSecondByte a b then .fault 1 cut
      else if !isContinuation c then .fault 2 cut else .fault 3 short
    | b :: c :: d :: r =>
      if !isSecondByte a b then .fault 1 cut
      else if !isContinuation c then .fault 2 cut
      else if !isContinuation d then .fault 3 cut
      else .char (Char.ofNat ((((n % 8) * 64 + six b) * 64 + six c) * 64 + six d)) 4 r

/-- A step that reads a character leaves no more bytes than it was given after the first. -/
theorem utf8Step_char_length {a : UInt8} {rest r : List UInt8} {c : Char}
    {size : Nat} (h : utf8Step a rest = .char c size r) : r.length ≤ rest.length := by
  unfold utf8Step at h
  grind

/-- Reads bytes as UTF-8, with the position of the first byte given. -/
def decodeUtf8From (position : Nat) (bytes : List UInt8) (text : List Char) :
    Except DecodeFault (List Char) :=
  match bytes with
  | [] => .ok text.reverse
  | a :: rest =>
    match _h : utf8Step a rest with
    | .char c size r => decodeUtf8From (position + size) r (c :: text)
    | .fault count reason => .error ⟨"utf-8", a, position, count, reason⟩
termination_by bytes.length
decreasing_by
  have := utf8Step_char_length _h
  simp only [List.length_cons]
  omega

/-- Reads bytes as UTF-8. -/
def decodeUtf8 (bytes : List UInt8) : Except DecodeFault (List Char) :=
  decodeUtf8From 0 bytes []

/-- The UTF-8 bytes of a text. -/
def encodeUtf8 (s : String) : List UInt8 :=
  s.toUTF8.toList

/-- The byte order mark in front of a text. -/
def dropByteOrderMark : List UInt8 → Option (List UInt8)
  | 0xEF :: 0xBB :: 0xBF :: r => some r
  | _ => none

end ApiDirectives.Text
