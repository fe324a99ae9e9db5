import ApiDirectives.Checked
import Mathlib.Algebra.Order.Field.Power
import Mathlib.Data.Rat.Cast.Order
import Mathlib.Tactic.FieldSimp
import Mathlib.Tactic.Linarith
import Mathlib.Tactic.Positivity

/-!
# Doubles in normal form

A finite value of double precision can be written as a significand and a power of two in many ways; it
is kept in one, `Binary64.Normal`, so that equal numbers are equal data, the two zeros apart. Every
number that is read, from an integer or from text, is in this form, whatever it is rounded to. An
integral value in this form is not changed by writing it as an integer and reading it again, except
that a negative zero loses its sign.
-/

namespace ApiDirectives

namespace Binary64

/-- The form in which finite values are kept: 53 bits of significand with the first one set, or the
least exponent. -/
def Normal : Binary64 → Prop
  | .finite _ m e =>
    m < 2 ^ 53 ∧ leastExponent ≤ e ∧ e ≤ greatestExponent ∧ (2 ^ 52 ≤ m ∨ e = leastExponent)
  | .infinite _ | .undefined => True

theorem zero_normal (negative : Bool) : (zero negative).Normal := by
  refine ⟨by norm_num, le_refl _, by decide, .inr rfl⟩

/-! ## Rounding -/

theorem two_zpow_eq (e : Int) : (2 : ℚ) ^ e = 2 ^ e.toNat / 2 ^ (-e).toNat := by
  obtain ⟨n, rfl | rfl⟩ := e.eq_nat_or_neg
  · simp
  · simp

theorem zpow_two_mul (k : Nat) (e : Int) : ((2 ^ k : Nat) : ℚ) * 2 ^ e = 2 ^ ((k : Int) + e) := by
  rw [zpow_add₀ (by norm_num)]
  norm_cast

section Scaled

variable {num den : Nat} (hden : 0 < den)

include hden

/-- The scaled quotient is the ratio in units of a power of two, rounded down. -/
theorem le_scaled_iff (k : Nat) (e : Int) :
    k ≤ (scaled num den e).1 ↔ (k : ℚ) * 2 ^ e ≤ num / den := by
  have hdivisor : 0 < den * 2 ^ e.toNat := by positivity
  have hscaled : (scaled num den e).1 = num * 2 ^ (-e).toNat / (den * 2 ^ e.toNat) := rfl
  rw [hscaled, Nat.le_div_iff_mul_le hdivisor, two_zpow_eq, ← Nat.cast_le (α := ℚ)]
  push_cast
  have hpos : (0 : ℚ) < den := by exact_mod_cast hden
  rw [le_div_iff₀ hpos, mul_div_assoc', div_mul_eq_mul_div, div_le_iff₀ (by positivity)]
  constructor <;> intro h <;> linarith

theorem scaled_lt_iff (k : Nat) (e : Int) :
    (scaled num den e).1 < k ↔ (num : ℚ) / den < k * 2 ^ e := by
  rw [← not_le, le_scaled_iff hden, not_le]

variable (hnum : num ≠ 0)

include hnum

/-- The logarithms of a ratio's parts tell its size to a factor of four. -/
theorem ratio_bounds :
    (2 : ℚ) ^ ((num.log2 : Int) - den.log2 - 1) < num / den ∧
      (num : ℚ) / den < 2 ^ ((num.log2 : Int) - den.log2 + 1) := by
  have hpos : (0 : ℚ) < den := by exact_mod_cast hden
  have hnumlow : (2 : ℚ) ^ num.log2 ≤ num := by exact_mod_cast Nat.log2_self_le hnum
  have hnumhigh : (num : ℚ) < 2 ^ (num.log2 + 1) := by exact_mod_cast Nat.lt_log2_self
  have hdenlow : (2 : ℚ) ^ den.log2 ≤ den := by exact_mod_cast Nat.log2_self_le hden.ne'
  have hdenhigh : (den : ℚ) < 2 ^ (den.log2 + 1) := by exact_mod_cast Nat.lt_log2_self
  constructor
  · have hexp : (2 : ℚ) ^ ((num.log2 : Int) - den.log2 - 1) = 2 ^ num.log2 / 2 ^ (den.log2 + 1) := by
      rw [sub_sub, zpow_sub₀ (by norm_num)]
      norm_cast
    rw [hexp, div_lt_div_iff₀ (by positivity) hpos]
    calc (2 : ℚ) ^ num.log2 * den
        < 2 ^ num.log2 * 2 ^ (den.log2 + 1) := by
          apply mul_lt_mul_of_pos_left hdenhigh
          positivity
      _ ≤ num * 2 ^ (den.log2 + 1) := by
          apply mul_le_mul_of_nonneg_right hnumlow
          positivity
  · have hexp : (2 : ℚ) ^ ((num.log2 : Int) - den.log2 + 1) = 2 ^ (num.log2 + 1) / 2 ^ den.log2 := by
      rw [sub_add_eq_add_sub, zpow_sub₀ (by norm_num)]
      norm_cast
    rw [hexp, div_lt_div_iff₀ hpos (by positivity)]
    calc (num : ℚ) * 2 ^ den.log2
        < 2 ^ (num.log2 + 1) * 2 ^ den.log2 := by
          apply mul_lt_mul_of_pos_right hnumhigh
          positivity
      _ ≤ 2 ^ (num.log2 + 1) * den := by
          apply mul_le_mul_of_nonneg_left hdenlow
          positivity

/-- At the exponent that is chosen the quotient has 53 bits, or fewer at the least exponent. -/
theorem scaled_exponentFor :
    (scaled num den (exponentFor num den)).1 < 2 ^ 53 ∧
      (2 ^ 52 ≤ (scaled num den (exponentFor num den)).1 ∨
        exponentFor num den = leastExponent) := by
  obtain ⟨hlow, hhigh⟩ := ratio_bounds hden hnum
  -- Before the least exponent cuts it off, the exponent gives the quotient exactly 53 bits.
  obtain ⟨e, he, hfull, hfits⟩ : ∃ e : Int, exponentFor num den = max e leastExponent ∧
      2 ^ 52 ≤ (scaled num den e).1 ∧ (scaled num den e).1 < 2 ^ 53 := by
    set guess : Int := (num.log2 : Int) - den.log2 - 52 with hguess
    by_cases hquotient : 2 ^ 52 ≤ (scaled num den guess).1
    · refine ⟨guess, ?_, hquotient, ?_⟩
      · exact congrArg (max · leastExponent) (if_pos hquotient)
      · have hexp : ((53 : Nat) : Int) + guess = num.log2 - den.log2 + 1 := by omega
        rw [scaled_lt_iff hden, zpow_two_mul, hexp]
        exact hhigh
    · refine ⟨guess - 1, ?_, ?_, ?_⟩
      · exact congrArg (max · leastExponent) (if_neg hquotient)
      · have hexp : ((52 : Nat) : Int) + (guess - 1) = num.log2 - den.log2 - 1 := by omega
        rw [le_scaled_iff hden, zpow_two_mul, hexp]
        exact hlow.le
      · have hexp : ((53 : Nat) : Int) + (guess - 1) = ((52 : Nat) : Int) + guess := by omega
        rw [not_le, scaled_lt_iff hden, zpow_two_mul] at hquotient
        rw [scaled_lt_iff hden, zpow_two_mul, hexp]
        exact hquotient
  rw [he]
  rcases le_total leastExponent e with hle | hle
  · rw [max_eq_left hle]
    exact ⟨hfits, .inl hfull⟩
  · rw [max_eq_right hle]
    refine ⟨?_, .inr rfl⟩
    rw [scaled_lt_iff hden] at hfits ⊢
    refine lt_of_lt_of_le hfits ?_
    apply mul_le_mul_of_nonneg_left (zpow_le_zpow_right₀ (by norm_num) hle)
    positivity

end Scaled

theorem roundedEven_le (q r d : Nat) : q ≤ roundedEven q r d ∧ roundedEven q r d ≤ q + 1 := by
  unfold roundedEven
  split <;> omega

theorem leastExponent_le_exponentFor (num den : Nat) : leastExponent ≤ exponentFor num den :=
  le_max_right ..

/-- Whatever a ratio is rounded to is in normal form. -/
theorem ofRatio_normal (negative : Bool) (num : Nat) {den : Nat} (hden : 0 < den) :
    (ofRatio negative num den).Normal := by
  unfold ofRatio
  split
  · exact zero_normal negative
  · rename_i hnum
    obtain ⟨hfits, hfull⟩ := scaled_exponentFor hden hnum
    have hleast := leastExponent_le_exponentFor num den
    dsimp only
    obtain ⟨hdown, hup⟩ := roundedEven_le (scaled num den (exponentFor num den)).1
      (scaled num den (exponentFor num den)).2.1 (scaled num den (exponentFor num den)).2.2
    generalize roundedEven _ _ _ = m at hdown hup ⊢
    generalize exponentFor num den = e at *
    -- Rounding up may make the significand a power of two, and the exponent greater by one.
    by_cases hcarry : m = Nat.pow 2 53
    · rw [if_pos hcarry]
      dsimp only
      split
      · trivial
      · rename_i hfinite
        exact ⟨by norm_num, by omega, by omega, .inl (by norm_num)⟩
    · rw [if_neg hcarry]
      have hne : m ≠ 2 ^ 53 := hcarry
      dsimp only
      split
      · trivial
      · rename_i hfinite
        refine ⟨by omega, hleast, by omega, ?_⟩
        exact hfull.imp_left fun h => h.trans hdown

theorem ofInt_normal (n : Int) : (ofInt n).Normal :=
  ofRatio_normal _ _ Nat.one_pos

theorem ofDecimal_normal (negative : Bool) (digits : Nat) (exponent : Int) :
    (ofDecimal negative digits exponent).Normal := by
  unfold ofDecimal
  dsimp only
  split
  · exact zero_normal negative
  · split
    · trivial
    · split
      · exact zero_normal negative
      · exact ofRatio_normal _ _ (Nat.pow_pos (by norm_num))

/-! ## Integral values -/

/-- The value with a zero that has no sign. -/
def unsigned : Binary64 → Binary64
  | .finite negative m e => .finite (negative && m != 0) m e
  | x => x

/-- As a number it is the same. -/
theorem unsigned_sameNumber {x : Binary64} (h : x.isFinite = true) :
    x.unsigned.sameNumber x = true := by
  cases x with
  | finite negative m e =>
    by_cases hm : m = 0 <;> simp [unsigned, sameNumber, hm]
  | infinite negative => cases h
  | undefined => cases h

/-- The absolute value of an integral value with 53 bits, in units of its last one. -/
theorem scaled_of_toInt {m k : Nat} {e : Int} (h : m % 2 ^ (-e).toNat = 0)
    (hk : k = m / 2 ^ (-e).toNat * 2 ^ e.toNat) : scaled k 1 e = (m, 0, 2 ^ e.toNat) := by
  have hdivisor : 1 * Nat.pow 2 e.toNat = 2 ^ e.toNat := Nat.one_mul _
  have hdividend : k * 2 ^ (-e).toNat = m * 2 ^ e.toNat := by
    rw [hk, Nat.mul_right_comm, Nat.div_mul_cancel (Nat.dvd_of_mod_eq_zero h)]
  have hpos : 0 < 2 ^ e.toNat := Nat.two_pow_pos _
  unfold scaled
  dsimp only
  rw [hdivisor]
  refine Prod.ext ?_ (Prod.ext ?_ rfl)
  · exact (congrArg (· / 2 ^ e.toNat) hdividend).trans (Nat.mul_div_cancel m hpos)
  · exact (congrArg (· % 2 ^ e.toNat) hdividend).trans (Nat.mul_mod_left m _)

/-- An integer whose quotient at an exponent has 53 bits is rounded at this exponent. -/
theorem exponentFor_eq {k : Nat} {e : Int} (hleast : leastExponent ≤ e)
    (hfull : 2 ^ 52 ≤ (scaled k 1 e).1) (hfits : (scaled k 1 e).1 < 2 ^ 53) :
    exponentFor k 1 = e := by
  have hk : k ≠ 0 := by
    rintro rfl
    simp [scaled] at hfull
  have hlow : (2 : ℚ) ^ (k.log2 : Int) ≤ k := by exact_mod_cast Nat.log2_self_le hk
  have hhigh : (k : ℚ) < 2 ^ ((k.log2 : Int) + 1) := by exact_mod_cast Nat.lt_log2_self
  have hbelow := (le_scaled_iff Nat.one_pos _ e).mp hfull
  have habove := (scaled_lt_iff Nat.one_pos _ e).mp hfits
  rw [zpow_two_mul, Nat.cast_one, div_one] at hbelow habove
  have hleft := (zpow_lt_zpow_iff_right₀ (by norm_num)).mp (hbelow.trans_lt hhigh)
  have hright := (zpow_lt_zpow_iff_right₀ (by norm_num)).mp (hlow.trans_lt habove)
  have hlog : (k.log2 : Int) - (Nat.log2 1 : Int) - 52 = e := by
    have hone : Nat.log2 1 = 0 := rfl
    push_cast at hleft hright
    omega
  have hguess : Nat.pow 2 52 ≤ (scaled k 1 e).1 := hfull
  unfold exponentFor
  rw [hlog]
  dsimp only
  rw [if_pos hguess, max_eq_left hleast]

theorem ofRatio_of_scaled {k m d : Nat} {e : Int} (negative : Bool) (hleast : leastExponent ≤ e)
    (hgreatest : e ≤ greatestExponent) (hfull : 2 ^ 52 ≤ m) (hfits : m < 2 ^ 53)
    (h : scaled k 1 e = (m, 0, d)) (hd : 0 < d) : ofRatio negative k 1 = .finite negative m e := by
  have hexponent : exponentFor k 1 = e := exponentFor_eq hleast (by rw [h]; exact hfull)
    (by rw [h]; exact hfits)
  have hk : k ≠ 0 := by
    rintro rfl
    have hzero := congrArg Prod.fst h
    simp only [scaled, Nat.zero_mul, Nat.zero_div] at hzero
    omega
  have hrounded : roundedEven m 0 d = m := by
    unfold roundedEven
    rw [if_neg (by simp; omega)]
  have hcarry : m ≠ Nat.pow 2 53 := hfits.ne
  unfold ofRatio
  rw [if_neg hk, hexponent]
  dsimp only
  rw [h]
  dsimp only
  rw [hrounded, if_neg hcarry]
  exact if_neg (by omega)

/-- An integral value that is written as an integer is read as the same number. -/
theorem ofInt_of_toInt? {x : Binary64} (hx : x.Normal) {n : Int} (h : x.toInt? = some n) :
    ofInt n = x.unsigned := by
  cases x with
  | infinite negative => cases h
  | undefined => cases h
  | finite negative m e =>
    obtain ⟨hfits, hleast, hgreatest, hfull⟩ := hx
    simp only [toInt?] at h
    split at h
    · rename_i hdvd
      cases h
      by_cases hm : m = 0
      · subst hm
        have he : e = leastExponent := hfull.resolve_left (by norm_num)
        rw [Nat.zero_div, Nat.zero_mul]
        cases negative <;> simp [ofInt, ofRatio, unsigned, zero, he]
      · -- A value with the least exponent is too small to be an integer, unless it is zero.
        have hbits : 2 ^ 52 ≤ m := by
          refine hfull.resolve_right ?_
          rintro rfl
          have hfar : 53 ≤ (-leastExponent).toNat := by decide
          generalize (-leastExponent).toNat = j at hdvd hfar
          have hsmall : m < 2 ^ j := hfits.trans_le (Nat.pow_le_pow_right (by norm_num) hfar)
          exact hm ((Nat.mod_eq_of_lt hsmall).symm.trans hdvd)
        set k : Nat := m / Nat.pow 2 (-e).toNat * Nat.pow 2 e.toNat with hk
        have hscaled : scaled k 1 e = (m, 0, 2 ^ e.toNat) := scaled_of_toInt hdvd hk
        have hpos : 0 < k := by
          rw [Nat.pos_iff_ne_zero]
          intro hzero
          rw [hzero] at hscaled
          have hquotient := congrArg Prod.fst hscaled
          simp only [scaled, Nat.zero_mul, Nat.zero_div] at hquotient
          exact hm hquotient.symm
        have hsign : decide ((if negative then -(k : Int) else k) < 0) = negative := by
          cases negative with
          | false => simp
          | true => simpa using hpos
        have habs : (if negative then -(k : Int) else k).natAbs = k := by
          cases negative <;> simp
        unfold ofInt
        rw [hsign, habs,
          ofRatio_of_scaled negative hleast hgreatest hbits hfits hscaled (Nat.two_pow_pos _)]
        simp [unsigned, hm]
    · cases h

/-- What is no integer is no zero either. -/
theorem unsigned_of_toInt?_eq_none {x : Binary64} (h : x.toInt? = none) : x.unsigned = x := by
  cases x with
  | infinite negative => rfl
  | undefined => rfl
  | finite negative m e =>
    have hm : m ≠ 0 := by
      rintro rfl
      simp [toInt?] at h
    simp [unsigned, hm]

end Binary64

/-! ## Reading -/

theorem Numeral.readDecimal_normal {negative : Bool} {cs : List Char} {x : Binary64}
    (h : readDecimal negative cs = some x) : x.Normal := by
  have hread : ∀ (digits : Nat) (places : Int) (exponent : Option Int),
      exponent.map (fun e => Binary64.ofDecimal negative digits (e - places)) = some x →
        x.Normal := by
    intro digits places exponent hx
    obtain ⟨e, _, rfl⟩ := Option.map_eq_some_iff.mp hx
    exact Binary64.ofDecimal_normal _ _ _
  unfold readDecimal at h
  dsimp only at h
  split at h
  · split at h
    · cases h
    · exact hread _ _ _ h
  · split at h
    · cases h
    · exact hread _ _ _ h

theorem Numeral.readNumber_normal {s : String} {x : Binary64} (h : readNumber s = some x) :
    x.Normal := by
  unfold readNumber at h
  split at h
  · cases h
  · dsimp only at h
    split at h
    · cases h
      trivial
    · split at h
      · cases h
        trivial
      · exact readDecimal_normal h

theorem numberText_normal {s : String} {x : Binary64} (h : numberText s = some x) : x.Normal := by
  unfold numberText at h
  dsimp only at h
  split at h
  · exact Numeral.readNumber_normal h
  · cases h

end ApiDirectives
