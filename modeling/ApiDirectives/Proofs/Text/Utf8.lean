import ApiDirectives.Text.Utf8
import Mathlib.Tactic.SplitIfs

/-!
# Reading UTF-8 is exact

A text is written by the bytes of its characters one after another, and reading takes them off one
character at a time. `IsCoded` says which bytes are those of a character: overlong forms, surrogates and
values beyond the last code point begin with two bytes that no character begins with. It is what one
step of the reader accepts and what the character is written as, so bytes are read exactly if they are
those of a text, and that text is what is read.
-/

namespace ApiDirectives.Text

/-! ## Bytes -/

theorem isContinuation_iff {b : UInt8} :
    isContinuation b = true ↔ 0x80 ≤ b.toNat ∧ b.toNat < 0xC0 := by
  simp [isContinuation]

/-- Two bytes that a character of three or four bytes may begin with, by their numbers. -/
theorem isSecondByte_iff {a b : UInt8} :
    isSecondByte a b = true ↔ 0x80 ≤ b.toNat ∧ b.toNat < 0xC0 ∧
      (a.toNat = 0xE0 → 0xA0 ≤ b.toNat) ∧ (a.toNat = 0xED → b.toNat < 0xA0) ∧
      (a.toNat = 0xF0 → 0x90 ≤ b.toNat) ∧ (a.toNat = 0xF4 → b.toNat < 0x90) := by
  simp only [isSecondByte, isContinuation, Bool.and_eq_true, Bool.not_eq_true', Bool.and_eq_false_iff,
    beq_eq_false_iff_ne, decide_eq_true_eq, decide_eq_false_iff_not, ← UInt8.toNat_inj, ne_eq,
    UInt8.reduceToNat]
  omega

/-- The byte with a number. -/
theorem exists_byte (n : Nat) (h : n < 0x100) : ∃ b : UInt8, UInt8.ofNat n = b ∧ b.toNat = n :=
  ⟨UInt8.ofNat n, rfl, by rw [UInt8.toNat_ofNat', Nat.mod_eq_of_lt h]⟩

theorem byte_eq_ofNat {n : Nat} {b : UInt8} (h : b.toNat = n) : b = UInt8.ofNat n := by
  rw [← h, UInt8.ofNat_toNat]

/-- The character with a number that is no surrogate and not beyond the last code point. -/
theorem toNat_ofNat {n : Nat} (h : n < 0xD800 ∨ 0xDFFF < n ∧ n < 0x110000) :
    (Char.ofNat n).toNat = n := by
  rw [Char.ofNat, dif_pos h]
  rfl

/-! ## Characters -/

/-- The bytes of a character. -/
inductive IsCoded (c : Char) : List UInt8 → Prop
  | one {a : UInt8} : a.toNat < 0x80 → c.toNat = a.toNat → IsCoded c [a]
  | two {a b : UInt8} : 0xC2 ≤ a.toNat → a.toNat < 0xE0 → isContinuation b = true →
      c.toNat = a.toNat % 32 * 64 + b.toNat % 64 → IsCoded c [a, b]
  | three {a b d : UInt8} : 0xE0 ≤ a.toNat → a.toNat < 0xF0 → isSecondByte a b = true →
      isContinuation d = true →
      c.toNat = (a.toNat % 16 * 64 + b.toNat % 64) * 64 + d.toNat % 64 → IsCoded c [a, b, d]
  | four {a b d e : UInt8} : 0xF0 ≤ a.toNat → a.toNat < 0xF5 → isSecondByte a b = true →
      isContinuation d = true → isContinuation e = true →
      c.toNat = ((a.toNat % 8 * 64 + b.toNat % 64) * 64 + d.toNat % 64) * 64 + e.toNat % 64 →
      IsCoded c [a, b, d, e]

/-- A character is written as its bytes. -/
theorem isCoded_encode (c : Char) : IsCoded c (String.utf8EncodeChar c) := by
  have hbounds : c.toNat < 0xD800 ∨ 0xDFFF < c.toNat ∧ c.toNat < 0x110000 := c.valid
  unfold String.utf8EncodeChar
  rw [Char.toNat_val]
  dsimp only
  split_ifs with hone htwo hthree
  · obtain ⟨a, ha, hnumber⟩ := exists_byte c.toNat (by omega)
    rw [ha]
    exact .one (by omega) hnumber.symm
  · obtain ⟨a, ha, hfirst⟩ := exists_byte (c.toNat / 64 % 0x20 + 0xc0) (by omega)
    obtain ⟨b, hb, hlast⟩ := exists_byte (c.toNat % 0x40 + 0x80) (by omega)
    rw [ha, hb]
    exact .two (by omega) (by omega) (isContinuation_iff.mpr (by omega)) (by omega)
  · obtain ⟨a, ha, hfirst⟩ := exists_byte (c.toNat / 4096 % 0x10 + 0xe0) (by omega)
    obtain ⟨b, hb, hsecond⟩ := exists_byte (c.toNat / 64 % 0x40 + 0x80) (by omega)
    obtain ⟨d, hd, hlast⟩ := exists_byte (c.toNat % 0x40 + 0x80) (by omega)
    rw [ha, hb, hd]
    exact .three (by omega) (by omega) (isSecondByte_iff.mpr (by omega))
      (isContinuation_iff.mpr (by omega)) (by omega)
  · obtain ⟨a, ha, hfirst⟩ := exists_byte (c.toNat / 262144 % 0x08 + 0xf0) (by omega)
    obtain ⟨b, hb, hsecond⟩ := exists_byte (c.toNat / 4096 % 0x40 + 0x80) (by omega)
    obtain ⟨d, hd, hthird⟩ := exists_byte (c.toNat / 64 % 0x40 + 0x80) (by omega)
    obtain ⟨e, he, hlast⟩ := exists_byte (c.toNat % 0x40 + 0x80) (by omega)
    rw [ha, hb, hd, he]
    exact .four (by omega) (by omega) (isSecondByte_iff.mpr (by omega))
      (isContinuation_iff.mpr (by omega)) (isContinuation_iff.mpr (by omega)) (by omega)

/-- No other bytes are those of a character. -/
theorem IsCoded.eq_encode {c : Char} {bytes : List UInt8} (h : IsCoded c bytes) :
    bytes = String.utf8EncodeChar c := by
  unfold String.utf8EncodeChar
  rw [Char.toNat_val]
  dsimp only
  cases h with
  | one ha hc => rw [if_pos (by omega), hc, UInt8.ofNat_toNat]
  | two hlow hhigh hb hc =>
    rw [isContinuation_iff] at hb
    rw [if_neg (by omega), if_pos (by omega)]
    simp only [List.cons.injEq, and_true]
    exact ⟨byte_eq_ofNat (by omega), byte_eq_ofNat (by omega)⟩
  | three hlow hhigh hb hd hc =>
    rw [isSecondByte_iff] at hb
    rw [isContinuation_iff] at hd
    rw [if_neg (by omega), if_neg (by omega), if_pos (by omega)]
    simp only [List.cons.injEq, and_true]
    exact ⟨byte_eq_ofNat (by omega), byte_eq_ofNat (by omega), byte_eq_ofNat (by omega)⟩
  | four hlow hhigh hb hd he hc =>
    rw [isSecondByte_iff] at hb
    rw [isContinuation_iff] at hd he
    rw [if_neg (by omega), if_neg (by omega), if_neg (by omega)]
    simp only [List.cons.injEq, and_true]
    exact ⟨byte_eq_ofNat (by omega), byte_eq_ofNat (by omega), byte_eq_ofNat (by omega),
      byte_eq_ofNat (by omega)⟩

/-! ## One step of the reader -/

/-- A step reads the bytes of a character. -/
theorem IsCoded.utf8Step {c : Char} {a : UInt8} {bytes : List UInt8} (h : IsCoded c (a :: bytes))
    (r : List UInt8) : ∃ size, Text.utf8Step a (bytes ++ r) = .char c size r := by
  have hchar : ∀ {n : Nat}, c.toNat = n → Char.ofNat n = c := by
    rintro n rfl
    exact Char.ofNat_toNat c
  unfold Text.utf8Step
  dsimp only
  cases h with
  | one ha hc =>
    rw [if_pos ha, hchar hc]
    exact ⟨1, rfl⟩
  | two hlow hhigh hb hc =>
    rw [if_neg (by omega), if_neg (by simp; omega), if_pos hhigh]
    simp only [List.cons_append, List.nil_append, if_pos hb, hchar hc]
    exact ⟨2, rfl⟩
  | three hlow hhigh hb hd hc =>
    rw [if_neg (by omega), if_neg (by simp; omega), if_neg (by omega), if_pos hhigh]
    simp only [List.cons_append, List.nil_append, hb, hd, Bool.not_true, Bool.false_eq_true, if_false,
      hchar hc]
    exact ⟨3, rfl⟩
  | four hlow hhigh hb hd he hc =>
    rw [if_neg (by omega), if_neg (by simp; omega), if_neg (by omega), if_neg (by omega)]
    simp only [List.cons_append, List.nil_append, hb, hd, he, Bool.not_true, Bool.false_eq_true, if_false,
      hchar hc]
    exact ⟨4, rfl⟩

/-- A step reads nothing else. -/
theorem isCoded_of_utf8Step {a : UInt8} {rest r : List UInt8} {c : Char} {size : Nat}
    (h : utf8Step a rest = .char c size r) :
    ∃ bytes, IsCoded c (a :: bytes) ∧ rest = bytes ++ r := by
  unfold utf8Step at h
  dsimp only at h
  -- The first byte tells how many there are.
  split_ifs at h with hone hstart htwo hthree
  · cases h
    exact ⟨[], .one hone (toNat_ofNat (by omega)), rfl⟩
  · simp only [Bool.or_eq_true, decide_eq_true_eq, not_or, Nat.not_lt, Nat.not_le] at hstart
    split at h
    · cases h
    · rename_i b r'
      split_ifs at h with hb
      cases h
      refine ⟨[b], .two hstart.1 htwo hb (toNat_ofNat ?_), rfl⟩
      rw [isContinuation_iff] at hb
      omega
  · split at h
    · cases h
    · split_ifs at h
    · rename_i b d r'
      split_ifs at h with hb hd
      cases h
      simp only [Bool.not_eq_true', Bool.not_eq_false] at hb hd
      refine ⟨[b, d], .three (by omega) hthree hb hd (toNat_ofNat ?_), rfl⟩
      rw [isSecondByte_iff] at hb
      rw [isContinuation_iff] at hd
      omega
  · simp only [Bool.or_eq_true, decide_eq_true_eq, not_or, Nat.not_lt, Nat.not_le] at hstart
    split at h
    · cases h
    · split_ifs at h
    · split_ifs at h
    · rename_i b d e r'
      split_ifs at h with hb hd he
      cases h
      simp only [Bool.not_eq_true', Bool.not_eq_false] at hb hd he
      refine ⟨[b, d, e], .four (by omega) hstart.2 hb hd he (toNat_ofNat ?_), rfl⟩
      rw [isSecondByte_iff] at hb
      rw [isContinuation_iff] at hd he
      omega

/-! ## Texts -/

theorem IsCoded.ne_nil {c : Char} {bytes : List UInt8} (h : IsCoded c bytes) : bytes ≠ [] := by
  cases h <;> exact List.cons_ne_nil _ _

/-- What a text is written as is read by a step that reads its first character. -/
theorem step_of_flatMap {a : UInt8} {rest : List UInt8} {cs : List Char}
    (h : a :: rest = cs.flatMap String.utf8EncodeChar) :
    ∃ c more, cs = c :: more ∧ ∃ size,
      utf8Step a rest = .char c size (more.flatMap String.utf8EncodeChar) := by
  cases cs with
  | nil => cases h
  | cons c more =>
    refine ⟨c, more, rfl, ?_⟩
    have hcoded := isCoded_encode c
    rw [List.flatMap_cons] at h
    cases hbytes : String.utf8EncodeChar c with
    | nil => exact absurd hbytes hcoded.ne_nil
    | cons b bytes =>
      rw [hbytes] at h hcoded
      obtain ⟨rfl, rfl⟩ := List.cons_eq_cons.mp h
      exact hcoded.utf8Step _

/-- Reading goes on with what was read before: the bytes are those of the characters that are added. -/
theorem decodeUtf8From_eq_ok_iff {position : Nat} {bytes : List UInt8} {read cs : List Char} :
    decodeUtf8From position bytes read = .ok cs ↔
      ∃ more, cs = read.reverse ++ more ∧ bytes = more.flatMap String.utf8EncodeChar := by
  fun_induction decodeUtf8From position bytes read with
  | case1 position read =>
    constructor
    · intro h
      cases h
      exact ⟨[], (List.append_nil _).symm, rfl⟩
    · rintro ⟨more, rfl, hbytes⟩
      cases more with
      | nil => rw [List.append_nil]
      | cons d more =>
        rw [List.flatMap_cons] at hbytes
        exact absurd (List.append_eq_nil_iff.mp hbytes.symm).1 ((isCoded_encode d).ne_nil)
  | case2 position read a rest c size r hstep ih =>
    rw [ih]
    constructor
    · rintro ⟨more, rfl, rfl⟩
      obtain ⟨bytes, hcoded, rfl⟩ := isCoded_of_utf8Step hstep
      refine ⟨c :: more, by simp, ?_⟩
      rw [List.flatMap_cons, ← hcoded.eq_encode, List.cons_append]
    · rintro ⟨more, rfl, hbytes⟩
      obtain ⟨d, more, rfl, size, hd⟩ := step_of_flatMap hbytes
      rw [hstep] at hd
      cases hd
      exact ⟨more, by simp, rfl⟩
  | case3 position read a rest count reason hstep =>
    refine iff_of_false (by simp) ?_
    rintro ⟨more, rfl, hbytes⟩
    obtain ⟨d, more, rfl, size, hd⟩ := step_of_flatMap hbytes
    rw [hstep] at hd
    cases hd

/-! ## The bytes of a text -/

/-- A list of bytes is the same list again after it was put into an array. -/
theorem toList_loop_toByteArray (before after : List UInt8) :
    ByteArray.toList.loop (before ++ after).toByteArray before.length before.reverse =
      before ++ after := by
  induction after generalizing before with
  | nil => rw [ByteArray.toList.loop, if_neg (by simp), List.reverse_reverse, List.append_nil]
  | cons b after ih =>
    have hbyte : (before ++ b :: after).toByteArray.get! before.length = b := by
      simp [ByteArray.get!, List.data_toByteArray]
    have hmoved := ih (before ++ [b])
    rw [ByteArray.toList.loop, if_pos (by simp), hbyte]
    simpa using hmoved

/-- A text is written character by character. -/
theorem encodeUtf8_ofList (cs : List Char) :
    encodeUtf8 (String.ofList cs) = cs.flatMap String.utf8EncodeChar := by
  rw [encodeUtf8, String.toUTF8_eq_toByteArray, String.toByteArray_ofList]
  exact toList_loop_toByteArray [] _

/-- Bytes are read as a text exactly if they are what it is written as. -/
theorem decodeUtf8_eq_ok_iff {bytes : List UInt8} {cs : List Char} :
    decodeUtf8 bytes = .ok cs ↔ bytes = encodeUtf8 (String.ofList cs) := by
  rw [decodeUtf8, decodeUtf8From_eq_ok_iff, encodeUtf8_ofList]
  constructor
  · rintro ⟨more, rfl, hbytes⟩
    exact hbytes
  · intro hbytes
    exact ⟨cs, rfl, hbytes⟩

/-- What is written is read again. -/
theorem decodeUtf8_encodeUtf8 (s : String) : decodeUtf8 (encodeUtf8 s) = .ok s.toList := by
  rw [decodeUtf8_eq_ok_iff, String.ofList_toList]

end ApiDirectives.Text
