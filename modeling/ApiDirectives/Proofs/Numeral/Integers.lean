import ApiDirectives.Proofs.Numeral.Binary64
import ApiDirectives.Proofs.Resolve.Version
import ApiDirectives.Resolve.Coercion
import Mathlib.Data.List.TakeWhile
import Mathlib.Data.Nat.Digits.Defs
import Mathlib.Tactic.Ring

/-!
# Integers that are read as doubles

A double has 53 bits, so an integer is one if it has at most 53 bits before its final zeros, `IsDouble`.
An integer that is read as a number is rounded to the nearest double and written as an integer again.
So it comes back unchanged exactly if it is a double, and otherwise as another integer, one that is not
farther away than any double.
-/

namespace ApiDirectives

/-- An integer that is a double, its size apart: at most 53 bits, and zeros behind them. -/
def IsDouble (n : Int) : Prop :=
  ∃ m k : Nat, m < 2 ^ 53 ∧ n.natAbs = m * 2 ^ k

/-- An integer that is a double, and no farther from another integer than any double. -/
structure IsNearestDouble (m n : Int) : Prop where
  isDouble : IsDouble m
  nearest : ∀ k, IsDouble k → (m - n).natAbs ≤ (k - n).natAbs

/-- The nearest double is the integer itself exactly if the integer is a double. -/
theorem IsNearestDouble.eq_iff {m n : Int} (h : IsNearestDouble m n) : m = n ↔ IsDouble n := by
  constructor
  · rintro rfl
    exact h.isDouble
  · intro hn
    have hzero := h.nearest n hn
    omega

theorem isDouble_mul {a : Nat} (ha : a < 2 ^ 53) (k : Nat) : IsDouble ((a * 2 ^ k : Nat) : Int) :=
  ⟨a, k, ha, Int.natAbs_natCast _⟩

/-- A natural number with a sign. -/
def signed (negative : Bool) (k : Nat) : Int :=
  if negative then -(k : Int) else k

theorem natAbs_signed (negative : Bool) (k : Nat) : (signed negative k).natAbs = k := by
  cases negative <;> simp [signed]

/-- Nearness does not depend on the sign: a double of the other sign is farther away. -/
theorem isNearestDouble_signed {m n : Nat} (hm : IsDouble m)
    (h : ∀ a k : Nat, a < 2 ^ 53 → ((m : Int) - n).natAbs ≤ (((a * 2 ^ k : Nat) : Int) - n).natAbs)
    (negative : Bool) : IsNearestDouble (signed negative m) (signed negative n) where
  isDouble := by
    obtain ⟨a, k, ha, hmk⟩ := hm
    exact ⟨a, k, ha, by rw [natAbs_signed]; simpa using hmk⟩
  nearest := by
    rintro j ⟨a, k, ha, hj⟩
    have hnear := h a k ha
    rw [← hj] at hnear
    cases negative with
    | false =>
      simp only [signed, Bool.false_eq_true, if_false]
      omega
    | true =>
      simp only [signed, if_true]
      omega

namespace Binary64

/-! ## Rounding -/

/-- A natural number rounded in units of a power of two, its quotient having 53 bits. -/
def IsRounded (k m : Nat) : Prop :=
  ∃ e, 2 ^ 52 ≤ k / 2 ^ e ∧ k / 2 ^ e < 2 ^ 53 ∧
    m = roundedEven (k / 2 ^ e) (k % 2 ^ e) (2 ^ e) * 2 ^ e

/-- Rounding to even leaves at most half a unit. -/
theorem roundedEven_cases (q r d : Nat) :
    roundedEven q r d = q ∧ 2 * r ≤ d ∨ roundedEven q r d = q + 1 ∧ d ≤ 2 * r := by
  unfold roundedEven
  split
  · rename_i h
    simp only [Bool.or_eq_true, decide_eq_true_eq, Bool.and_eq_true, beq_iff_eq] at h
    omega
  · rename_i h
    simp only [Bool.or_eq_true, decide_eq_true_eq, Bool.and_eq_true, beq_iff_eq] at h
    omega

/-- What is rounded in units of a power of two is a double. -/
theorem IsRounded.isDouble {k m : Nat} (h : IsRounded k m) : IsDouble m := by
  obtain ⟨e, _, hfits, rfl⟩ := h
  rcases roundedEven_cases (k / 2 ^ e) (k % 2 ^ e) (2 ^ e) with ⟨hdown, _⟩ | ⟨hup, _⟩
  · rw [hdown]
    exact isDouble_mul hfits e
  · rw [hup]
    by_cases hcarry : k / 2 ^ e + 1 < 2 ^ 53
    · exact isDouble_mul hcarry e
    · -- Rounding up to 54 bits leaves one bit and zeros.
      have htop : k / 2 ^ e + 1 = 1 * 2 ^ 53 := by omega
      rw [htop, Nat.mul_assoc, ← pow_add]
      exact isDouble_mul (by norm_num) (53 + e)

/-- What is rounded in units of a power of two is rounded to the nearest double. -/
theorem IsRounded.nearest {k m : Nat} (h : IsRounded k m) (a j : Nat) (ha : a < 2 ^ 53) :
    ((m : Int) - k).natAbs ≤ (((a * 2 ^ j : Nat) : Int) - k).natAbs := by
  obtain ⟨e, hfull, _, rfl⟩ := h
  have hsplit : k / 2 ^ e * 2 ^ e + k % 2 ^ e = k := Nat.div_add_mod' k (2 ^ e)
  have hrest : k % 2 ^ e < 2 ^ e := Nat.mod_lt _ (Nat.two_pow_pos e)
  have hcases := roundedEven_cases (k / 2 ^ e) (k % 2 ^ e) (2 ^ e)
  -- A double lies at or below the quotient's multiple of the unit, or at or above the next one.
  have hapart : a * 2 ^ j ≤ k / 2 ^ e * 2 ^ e ∨ k / 2 ^ e * 2 ^ e + 2 ^ e ≤ a * 2 ^ j := by
    rcases Nat.lt_or_ge j e with hfine | hcoarse
    · left
      calc a * 2 ^ j
        _ ≤ 2 ^ 53 * 2 ^ j := Nat.mul_le_mul_right _ ha.le
        _ = 2 ^ 52 * 2 ^ (j + 1) := by rw [pow_succ 2 j]; ring
        _ ≤ 2 ^ 52 * 2 ^ e := Nat.mul_le_mul_left _ (Nat.pow_le_pow_right (by norm_num) hfine)
        _ ≤ k / 2 ^ e * 2 ^ e := Nat.mul_le_mul_right _ hfull
    · obtain ⟨i, rfl⟩ := Nat.exists_eq_add_of_le hcoarse
      have hunits : a * 2 ^ (e + i) = a * 2 ^ i * 2 ^ e := by rw [pow_add]; ring
      rw [hunits]
      rcases Nat.lt_or_ge (k / 2 ^ e) (a * 2 ^ i) with habove | hbelow
      · right
        calc k / 2 ^ e * 2 ^ e + 2 ^ e
          _ = (k / 2 ^ e + 1) * 2 ^ e := (Nat.succ_mul _ _).symm
          _ ≤ a * 2 ^ i * 2 ^ e := Nat.mul_le_mul_right _ habove
      · exact .inl (Nat.mul_le_mul_right _ hbelow)
  generalize k / 2 ^ e = q at *
  generalize k % 2 ^ e = r at *
  generalize hd : 2 ^ e = d at *
  rcases hcases with ⟨hdown, hhalf⟩ | ⟨hup, hhalf⟩
  · rw [hdown]
    omega
  · rw [hup, Nat.succ_mul]
    omega

/-- Where the exponent is not negative, the quotient and the remainder are those of the integer. -/
theorem scaled_of_nonneg (k e : Nat) : scaled k 1 e = (k / 2 ^ e, k % 2 ^ e, 2 ^ e) := by
  simp [scaled]

/-- Where the exponent is negative, nothing is left to round. -/
theorem scaled_of_neg (k e : Nat) : scaled k 1 (-e) = (k * 2 ^ e, 0, 1) := by
  simp [scaled, Nat.mod_one]

/-- A positive integer has 53 bits at its exponent. -/
theorem full_scaled {k : Nat} (hk : k ≠ 0) : 2 ^ 52 ≤ (scaled k 1 (exponentFor k 1)).1 := by
  rcases (scaled_exponentFor Nat.one_pos hk).2 with hfull | hleast
  · exact hfull
  · have hsmall : (2 : ℚ) ^ (((52 : Nat) : Int) + leastExponent) ≤ 1 :=
      zpow_le_one_of_nonpos₀ (by norm_num) (by decide)
    have hone : (1 : ℚ) ≤ k := by exact_mod_cast Nat.one_le_iff_ne_zero.mpr hk
    rw [hleast, le_scaled_iff Nat.one_pos, zpow_two_mul, Nat.cast_one, div_one]
    exact hsmall.trans hone

theorem toInt?_of_nonneg (negative : Bool) (m e : Nat) :
    toInt? (.finite negative m e) = some (signed negative (m * 2 ^ e)) := by
  simp [toInt?, signed, Nat.mod_one]

theorem toInt?_of_neg (negative : Bool) (k e : Nat) :
    toInt? (.finite negative (k * 2 ^ e) (-e)) = some (signed negative k) := by
  simp [toInt?, signed]

/-- An integer below 10^300 is rounded far below the greatest exponent. -/
theorem exponent_lt {k e : Nat} (hk : k < 10 ^ 300) (hfull : 2 ^ 52 ≤ k / 2 ^ e) :
    (e : Int) + 1 ≤ greatestExponent := by
  have hlow : 2 ^ (52 + e) ≤ k := by
    rw [pow_add]
    exact (Nat.le_div_iff_mul_le (Nat.two_pow_pos e)).mp hfull
  obtain ⟨bits, hbits, hhigh⟩ : ∃ bits ≤ 1000, k < 2 ^ bits := by
    refine ⟨10 * 100, le_refl _, lt_of_lt_of_le hk ?_⟩
    rw [show 300 = 3 * 100 from rfl, pow_mul, pow_mul]
    exact Nat.pow_le_pow_left (by norm_num) 100
  have hexponent : 52 + e < bits :=
    (Nat.pow_lt_pow_iff_right (by norm_num)).mp (hlow.trans_lt hhigh)
  have hgreatest : greatestExponent = 971 := rfl
  omega

/-- An integer that is not too large is rounded to a finite value, which is an integer. -/
theorem ofRatio_integer (negative : Bool) {k : Nat} (hk : k < 10 ^ 300) :
    ∃ m e n, ofRatio negative k 1 = .finite negative m e ∧
      toInt? (.finite negative m e) = some (signed negative n) ∧
      (n = k ∧ k < 2 ^ 53 ∨ IsRounded k n) := by
  by_cases hzero : k = 0
  · subst hzero
    refine ⟨0, leastExponent, 0, rfl, ?_, .inl ⟨rfl, by norm_num⟩⟩
    simp [toInt?, signed]
  · have hfull := full_scaled hzero
    have hfits := (scaled_exponentFor Nat.one_pos hzero).1
    unfold ofRatio
    rw [if_neg hzero]
    dsimp only
    obtain ⟨e, he | he⟩ := (exponentFor k 1).eq_nat_or_neg
    · rw [he, scaled_of_nonneg] at hfull hfits ⊢
      dsimp only at hfull hfits ⊢
      have hexponent := exponent_lt hk hfull
      -- A carry moves one power of two from the significand to the exponent.
      by_cases hcarry : roundedEven (k / 2 ^ e) (k % 2 ^ e) (2 ^ e) = Nat.pow 2 53
      · rw [if_pos hcarry]
        dsimp only
        rw [if_neg (by omega)]
        refine ⟨Nat.pow 2 52, e + 1, 2 ^ 52 * 2 ^ (e + 1), rfl, ?_, .inr ⟨e, hfull, hfits, ?_⟩⟩
        · exact toInt?_of_nonneg negative (2 ^ 52) (e + 1)
        · rw [hcarry, pow_succ]
          show 2 ^ 52 * (2 ^ e * 2) = 2 ^ 53 * 2 ^ e
          ring
      · rw [if_neg hcarry]
        dsimp only
        rw [if_neg (by omega)]
        exact ⟨_, e, _, rfl, toInt?_of_nonneg negative _ e, .inr ⟨e, hfull, hfits, rfl⟩⟩
    · rw [he, scaled_of_neg] at hfull hfits ⊢
      dsimp only at hfull hfits ⊢
      have hexact : roundedEven (k * 2 ^ e) 0 1 = k * 2 ^ e := by
        simp [roundedEven]
      have hcarry : k * 2 ^ e ≠ Nat.pow 2 53 := hfits.ne
      have hgreatest : ¬ greatestExponent < -(e : Int) := by
        have hvalue : greatestExponent = 971 := rfl
        omega
      rw [hexact, if_neg hcarry]
      dsimp only
      rw [if_neg hgreatest]
      refine ⟨k * 2 ^ e, -e, k, rfl, toInt?_of_neg negative k e, .inl ⟨rfl, ?_⟩⟩
      exact (Nat.le_mul_of_pos_right k (Nat.two_pow_pos e)).trans_lt hfits

/-- An integer that is not too large is rounded to the nearest double. -/
theorem ofRatio_nearest (negative : Bool) {k : Nat} (hk : k < 10 ^ 300) :
    ∃ n, (ofRatio negative k 1).isFinite = true ∧ (ofRatio negative k 1).toInt? = some n ∧
      IsNearestDouble n (signed negative k) := by
  obtain ⟨m, e, n, hround, hvalue, hcases⟩ := ofRatio_integer negative hk
  rw [hround]
  refine ⟨signed negative n, rfl, hvalue, ?_⟩
  rcases hcases with ⟨rfl, hsmall⟩ | hrounded
  · apply isNearestDouble_signed
    · simpa using isDouble_mul hsmall 0
    · intro a j _
      omega
  · exact isNearestDouble_signed hrounded.isDouble hrounded.nearest negative

end Binary64

/-! ## Integers in digits -/

/-- An integer as it is written: a minus sign if it is negative, then digits, perhaps zeros first. -/
structure DecimalText where
  negative : Bool
  digits : List (Fin 10)
  nonempty : digits ≠ []

namespace DecimalText

/-- The digits as characters. -/
def chars (w : DecimalText) : List Char :=
  w.digits.map fun d => Nat.digitChar d.val

/-- The sign, if there is one. -/
def mark (w : DecimalText) : List Char :=
  if w.negative then ['-'] else []

/-- The text. -/
def text (w : DecimalText) : String :=
  String.ofList (w.mark ++ w.chars)

/-- The number that the digits stand for. -/
def magnitude (w : DecimalText) : Nat :=
  Nat.ofDigits 10 (w.digits.reverse.map Fin.val)

/-- The integer that the text stands for. -/
def value (w : DecimalText) : Int :=
  signed w.negative w.magnitude

variable (w : DecimalText)

theorem chars_ne_nil : w.chars ≠ [] := by
  simpa [chars] using w.nonempty

theorem isDigit_of_mem_chars {c : Char} (h : c ∈ w.chars) : c.isDigit = true := by
  have hdigits : ∀ d : Fin 10, (Nat.digitChar d.val).isDigit = true := by decide
  obtain ⟨d, _, rfl⟩ := List.mem_map.mp h
  exact hdigits d

/-- What holds of the minus sign and of every digit holds of every character of the text. -/
theorem forall_mem_text {p : Char → Prop} (hsign : p '-')
    (hdigits : ∀ d : Fin 10, p (Nat.digitChar d.val)) : ∀ c ∈ w.mark ++ w.chars, p c := by
  intro c hc
  rcases List.mem_append.mp hc with hmark | hchar
  · unfold mark at hmark
    split at hmark
    · rw [List.mem_singleton.mp hmark]
      exact hsign
    · cases hmark
  · obtain ⟨d, _, rfl⟩ := List.mem_map.mp hchar
    exact hdigits d

theorem plain_text : Numeral.plain w.text = some (w.mark ++ w.chars) := by
  have hmargin : ∀ c ∈ w.mark ++ w.chars, Numeral.isMargin c = false :=
    w.forall_mem_text (by decide) (by decide)
  have hplain : ∀ c ∈ w.mark ++ w.chars, Numeral.plainDigit c = c :=
    w.forall_mem_text (by decide) (by decide)
  have hunderscore : ∀ c ∈ w.mark ++ w.chars, c ≠ '_' :=
    w.forall_mem_text (by decide) (by decide)
  have hmap : (w.mark ++ w.chars).map Numeral.plainDigit = w.mark ++ w.chars :=
    (List.map_congr_left hplain).trans (List.map_id _)
  unfold Numeral.plain
  rw [text, String.toList_ofList, trimOf_eq_self hmargin, hmap]
  exact dropUnderscores_eq_self (by decide) fun hmem => hunderscore _ hmem rfl

theorem sign_text : Numeral.sign (w.mark ++ w.chars) = (w.negative, w.chars) := by
  cases hnegative : w.negative with
  | true =>
    simp [mark, hnegative, Numeral.sign]
  | false =>
    have hmarks : ¬ Char.isDigit '-' = true ∧ ¬ Char.isDigit '+' = true := by decide
    simp only [mark, hnegative, Bool.false_eq_true, if_false, List.nil_append]
    apply sign_eq_self
    · exact fun hmem => hmarks.1 (w.isDigit_of_mem_chars hmem)
    · exact fun hmem => hmarks.2 (w.isDigit_of_mem_chars hmem)

/-- Reading the digits from the left gives their value. -/
theorem digitsValue_chars : Numeral.digitsValue w.chars = w.magnitude := by
  have hdigits : ∀ d : Fin 10, (Nat.digitChar d.val).toNat - 48 = d.val := by decide
  rw [magnitude, Nat.ofDigits_eq_foldr, List.map_reverse, List.foldr_reverse, List.foldl_map,
    Numeral.digitsValue, chars, List.foldl_map]
  congr 1
  funext n d
  rw [hdigits d, Nat.cast_id]
  ring

/-- Read as an integer, a text gives its value, unless it has too many digits. -/
theorem readInteger_text :
    Numeral.readInteger w.text =
      if Numeral.digitLimit < w.digits.length then .error (.tooLong w.digits.length)
      else .ok w.value := by
  have hempty : w.chars.isEmpty = false := by simpa using w.chars_ne_nil
  have hall : w.chars.all Char.isDigit = true :=
    List.all_eq_true.mpr fun c hc => w.isDigit_of_mem_chars hc
  have hlength : w.chars.length = w.digits.length := List.length_map _
  unfold Numeral.readInteger
  rw [w.plain_text]
  dsimp only
  rw [w.sign_text]
  dsimp only
  rw [hempty, hall, w.digitsValue_chars, hlength]
  rfl

/-- The digits are none of the words for values that are no numbers. -/
theorem ofList_chars_ne {word : String} (hletter : word.toList.all Char.isDigit = false) :
    String.ofList (w.chars.map Char.toLower) ≠ word := by
  have hlower : ∀ d : Fin 10, (Nat.digitChar d.val).toLower = Nat.digitChar d.val := by decide
  have hmap : w.chars.map Char.toLower = w.chars := by
    simp [chars, hlower]
  rintro rfl
  rw [String.toList_ofList, hmap, List.all_eq_true.mpr fun c hc => w.isDigit_of_mem_chars hc]
    at hletter
  cases hletter

/-- Digits alone are read as a ratio with the denominator one. -/
theorem readDecimal_chars (h : w.magnitude < 10 ^ 300) :
    Numeral.readDecimal w.negative w.chars =
      some (Binary64.ofRatio w.negative w.magnitude 1) := by
  have htake : w.chars.takeWhile Char.isDigit = w.chars :=
    List.takeWhile_eq_self_iff.mpr fun c hc => w.isDigit_of_mem_chars hc
  have hdrop : w.chars.dropWhile Char.isDigit = [] :=
    List.dropWhile_eq_nil_iff.mpr fun c hc => w.isDigit_of_mem_chars hc
  have hempty : w.chars.isEmpty = false := by simpa using w.chars_ne_nil
  unfold Numeral.readDecimal
  rw [htake, hdrop]
  dsimp only
  rw [hempty]
  simp only [List.isEmpty_nil, Bool.false_and, Bool.false_eq_true, if_false, List.append_nil,
    Numeral.readExponent, Option.map_some, List.length_nil, w.digitsValue_chars]
  unfold Binary64.ofDecimal
  split
  · rename_i hzero
    rw [hzero]
    rfl
  · -- The number of digits is not near the limits where a value is infinite or zero.
    have hdigits : ∀ k, 0 < k → w.magnitude < 10 ^ k → (Nat.toDigits 10 w.magnitude).length ≤ k :=
      fun k hk => (Nat.length_toDigits_le_iff (by decide) hk).mpr
    have hlength := hdigits 300 (by decide) h
    dsimp only
    rw [if_neg (by omega), if_neg (by omega)]
    simp

/-- Read as a number, a text gives its digits rounded, with its sign. -/
theorem readNumber_text (h : w.magnitude < 10 ^ 300) :
    Numeral.readNumber w.text = some (Binary64.ofRatio w.negative w.magnitude 1) := by
  unfold Numeral.readNumber
  rw [w.plain_text]
  dsimp only
  rw [w.sign_text]
  dsimp only
  rw [w.readDecimal_chars h, if_neg, if_neg]
  · exact w.ofList_chars_ne (by decide)
  · simp only [Bool.or_eq_true, decide_eq_true_eq, not_or]
    exact ⟨w.ofList_chars_ne (by decide), w.ofList_chars_ne (by decide)⟩

/-- Read as a finite number, a text gives the integer nearest to its value that is a double. -/
theorem readFinite_text (h : w.value.natAbs < 10 ^ 300) :
    ∃ n, readFinite w.text = some (.int n) ∧ IsNearestDouble n w.value := by
  rw [value, natAbs_signed] at h
  obtain ⟨n, hfinite, hinteger, hnearest⟩ := Binary64.ofRatio_nearest w.negative h
  have htext : w.text.toList = w.mark ++ w.chars := String.toList_ofList
  have hpoint : ∀ c ∈ w.text.toList, c ≠ '.' := by
    rw [htext]
    exact w.forall_mem_text (by decide) (by decide)
  have hmark : ∀ c ∈ w.text.toList, c.toLower ≠ 'e' := by
    rw [htext]
    exact w.forall_mem_text (by decide) (by decide)
  have hinside : (!w.text.toList.contains '.' &&
      !(w.text.toList.map Char.toLower).contains 'e') = true := by
    simp only [Bool.and_eq_true, Bool.not_eq_true', List.contains_eq_mem, decide_eq_false_iff_not,
      List.mem_map, not_exists, not_and]
    exact ⟨fun hmem => hpoint _ hmem rfl, hmark⟩
  refine ⟨n, ?_, hnearest⟩
  unfold readFinite
  rw [w.readNumber_text h]
  dsimp only
  rw [hfinite, hinteger]
  dsimp only
  rw [if_pos hinside]

end DecimalText

end ApiDirectives
