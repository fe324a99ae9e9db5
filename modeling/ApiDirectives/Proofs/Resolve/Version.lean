import ApiDirectives.Proofs.Text.Blank
import ApiDirectives.Resolve.Dialect
import Mathlib.Data.List.Basic

/-!
# Versions and their dialects

The dialect of a version is told by its leading numbers, at most two of them, as they compare with 3
and 1. A part of a version counts as a number if it looks like digits, and looking like digits is the
wider class: it covers superscripts and circled digits, which have no value in base ten, and says
nothing about length. `dialect_readable_iff` says which versions have a dialect: those whose leading
parts, as far as they look like digits, are decimal and not too long.
-/

namespace ApiDirectives

open Text

/-! ## Before 3.1 and from 3.1 on -/

/-- The numbers that a version begins with, at most two. -/
def leadingNumbers (version : String) : Except VersionFault (List Int) :=
  versionNumbers ((pieces '.' version).take 2)

/-- A version before 3.1, in the order of its leading numbers. -/
def IsBefore31 (version : String) : Prop :=
  ∃ ns, leadingNumbers version = .ok ns ∧ ns < [3, 1]

/-- The version 3.1 or a later one, in the order of its leading numbers. -/
def IsFrom31 (version : String) : Prop :=
  ∃ ns, leadingNumbers version = .ok ns ∧ ¬ ns < [3, 1]

theorem isTypeSetVersion_iff (ns : List Int) : isTypeSetVersion ns = true ↔ ¬ ns < [3, 1] := by
  match ns with
  | [] => simp [isTypeSetVersion]
  | [major] =>
    simp only [isTypeSetVersion, decide_eq_true_eq, List.cons_lt_cons_iff, List.nil_lt_cons,
      and_true]
    omega
  | major :: minor :: rest =>
    simp only [isTypeSetVersion, Bool.or_eq_true, Bool.and_eq_true, decide_eq_true_eq, beq_iff_eq,
      List.cons_lt_cons_iff, List.not_lt_nil, and_false, or_false]
    omega

theorem dialect_eq_ok_iff {version : String} {b : Bool} :
    Dialect.of version = .ok b ↔
      ∃ ns, leadingNumbers version = .ok ns ∧ isTypeSetVersion ns = b := by
  unfold Dialect.of leadingNumbers
  cases versionNumbers ((pieces '.' version).take 2) with
  | error e => simp [Except.map]
  | ok ns => simp [Except.map]

theorem isFrom31_iff {version : String} : IsFrom31 version ↔ Dialect.of version = .ok true := by
  simp only [IsFrom31, dialect_eq_ok_iff, isTypeSetVersion_iff]

theorem isBefore31_iff {version : String} : IsBefore31 version ↔ Dialect.of version = .ok false := by
  simp only [IsBefore31, dialect_eq_ok_iff, ← Bool.not_eq_true, isTypeSetVersion_iff, not_not]

/-- The default version is one before 3.1, and the first one from 3.1 on is not. -/
theorem dialects_told : Dialect.of "3.0.3" = .ok false ∧ Dialect.of "3.1.0" = .ok true := by
  decide +kernel

/-! ## Digits -/

/-- The code points of the margins of a number. -/
def marginCodes : List Nat :=
  [9, 10, 11, 12, 13, 32, 0x85, 0xA0, 0x1680, 0x2000, 0x2001, 0x2002, 0x2003, 0x2004, 0x2005,
    0x2006, 0x2007, 0x2008, 0x2009, 0x200A, 0x2028, 0x2029, 0x202F, 0x205F, 0x3000]

theorem toNat_mem_marginCodes {c : Char} (h : Numeral.isMargin c = true) :
    c.toNat ∈ marginCodes := by
  simp only [Numeral.isMargin, isBlank, Bool.or_eq_true, Bool.and_eq_true, decide_eq_true_eq,
    beq_iff_eq] at h
  simp only [marginCodes, List.mem_cons, List.not_mem_nil, or_false]
  rcases h with (hcontrol | rfl) | hblank
  · omega
  · decide
  · omega

/-- Margins, underscores and signs stand in no run of digits. -/
theorem not_isDigit_of_code {c : Char} (h : c.toNat ∈ marginCodes ++ ['_', '-', '+'].map Char.toNat) :
    isDigit c = false := by
  have hclear : (digitRanges.toList.all fun r => (marginCodes ++ ['_', '-', '+'].map Char.toNat).all
      fun n => Nat.blt n r.1 || Nat.blt r.2 n) = true := by
    decide
  rw [isDigit, Ranges.has, ← Array.any_toList, List.any_eq_false]
  intro r hr
  have hgap := List.all_eq_true.mp (List.all_eq_true.mp hclear r hr) _ h
  simp only [Bool.or_eq_true, Nat.blt_eq, Bool.and_eq_true, decide_eq_true_eq] at hgap ⊢
  omega

/-- What looks like a digit is no margin. -/
theorem isMargin_of_isDigit {c : Char} (h : isDigit c = true) : Numeral.isMargin c = false := by
  by_contra hmargin
  rw [Bool.not_eq_false] at hmargin
  rw [not_isDigit_of_code (List.mem_append_left _ (toNat_mem_marginCodes hmargin))] at h
  cases h

theorem lt_of_decimalValue? {c : Char} {v : Nat} (h : decimalValue? c = some v) : v < 10 := by
  unfold decimalValue? at h
  split at h
  · split at h
    · rename_i hdigit
      cases h
      simp only [Char.isDigit, Bool.and_eq_true, decide_eq_true_eq] at hdigit
      have hhigh : c.toNat ≤ 57 := hdigit.2
      have hzero : '0'.toNat = 48 := rfl
      omega
    · cases h
  · obtain ⟨r, _, rfl⟩ := Option.map_eq_some_iff.mp h
    exact Nat.mod_lt _ (by decide)

/-- The ASCII form of a character is an ASCII digit exactly if the character is decimal. -/
theorem isDigit_plainDigit (c : Char) : (Numeral.plainDigit c).isDigit = isDecimal c := by
  have hascii : ∀ v < 10, (Char.ofNat (48 + v)).isDigit = true := by decide
  unfold Numeral.plainDigit isDecimal
  cases h : decimalValue? c with
  | some v => exact hascii v (lt_of_decimalValue? h)
  | none =>
    -- An ASCII digit has a value, so a character without one is none.
    simp only [Option.isSome_none]
    by_contra hdigit
    rw [Bool.not_eq_false] at hdigit
    have hsmall : c.val < 128 := by
      simp only [Char.isDigit, Bool.and_eq_true, decide_eq_true_eq] at hdigit
      exact UInt32.lt_of_le_of_lt hdigit.2 (by decide)
    simp [decimalValue?, hsmall, hdigit] at h

/-- What looks like a digit is neither an underscore nor a sign, in its ASCII form too. -/
theorem plainDigit_of_isDigit {c : Char} (h : isDigit c = true) :
    Numeral.plainDigit c ∉ ['_', '-', '+'] := by
  have hmarks : ['_', '-', '+'].all (fun m => !m.isDigit) = true := by decide
  intro hmem
  have hwide := not_isDigit_of_code (List.mem_append_right _ (List.mem_map_of_mem hmem))
  have hascii := List.all_eq_true.mp hmarks _ hmem
  rw [Bool.not_eq_true'] at hascii
  rw [isDigit_plainDigit] at hascii
  have hsame : Numeral.plainDigit c = c := by
    unfold Numeral.plainDigit
    rw [Option.isSome_eq_false_iff.mp hascii |> Option.isNone_iff_eq_none.mp]
  rw [hsame, h] at hwide
  cases hwide

/-! ## Reading digits -/

theorem dropUnderscores_eq_self {previous : Char} {cs : List Char} (hprevious : previous ≠ '_')
    (h : '_' ∉ cs) : Numeral.dropUnderscores previous cs = some cs := by
  induction cs generalizing previous with
  | nil => simp [Numeral.dropUnderscores, hprevious]
  | cons c r ih =>
    have hc : c ≠ '_' := fun heq => h (heq ▸ List.mem_cons_self)
    have hr := ih hc fun hmem => h (List.mem_cons_of_mem _ hmem)
    simp [Numeral.dropUnderscores, hc, hprevious, hr]

theorem sign_eq_self {cs : List Char} (hminus : '-' ∉ cs) (hplus : '+' ∉ cs) :
    Numeral.sign cs = (false, cs) := by
  unfold Numeral.sign
  split
  · exact absurd List.mem_cons_self hminus
  · exact absurd List.mem_cons_self hplus
  · rfl

/-- A part of a version that looks like a number. -/
def looksNumeric (part : String) : Bool :=
  part ≠ "" && part.toList.all isDigit

/-- A part of a version that is one: decimal digits, and not too many of them. -/
def IsDecimalPart (part : String) : Prop :=
  part.toList.all isDecimal = true ∧ part.toList.length ≤ Numeral.digitLimit

/-- A text that looks like a number reads as an integer exactly if it is decimal and not too long. -/
theorem readInteger_ok_iff {part : String} (h : looksNumeric part = true) :
    (∃ n, Numeral.readInteger part = .ok n) ↔ IsDecimalPart part := by
  simp only [looksNumeric, Bool.and_eq_true, decide_eq_true_eq, List.all_eq_true] at h
  obtain ⟨hsome, hdigits⟩ := h
  have htrim : trimOf Numeral.isMargin part.toList = part.toList :=
    trimOf_eq_self fun c hc => isMargin_of_isDigit (hdigits c hc)
  -- Margins, underscores and signs are no digits, so that all of the part is read as digits.
  have hmarks : ∀ m ∈ ['_', '-', '+'], m ∉ part.toList.map Numeral.plainDigit := by
    intro m hm hmem
    obtain ⟨c, hc, rfl⟩ := List.mem_map.mp hmem
    exact plainDigit_of_isDigit (hdigits c hc) hm
  have hplain : Numeral.plain part = some (part.toList.map Numeral.plainDigit) := by
    unfold Numeral.plain
    rw [htrim]
    exact dropUnderscores_eq_self (by decide) (hmarks '_' (by decide))
  have hsign := sign_eq_self (hmarks '-' (by decide)) (hmarks '+' (by decide))
  have hall : (part.toList.map Numeral.plainDigit).all Char.isDigit = part.toList.all isDecimal := by
    rw [List.all_map]
    congr 1
    funext c
    exact isDigit_plainDigit c
  have hempty : (part.toList.map Numeral.plainDigit).isEmpty = false := by
    simpa using hsome
  unfold Numeral.readInteger IsDecimalPart
  simp only [hplain, hsign, hall, hempty, List.length_map, Bool.false_or]
  by_cases hdecimal : part.toList.all isDecimal = true
  · by_cases hlong : Numeral.digitLimit < part.toList.length
    · simp [hdecimal, hlong]
    · simp [hdecimal, hlong, Nat.le_of_not_lt hlong]
  · simp [hdecimal]

/-! ## Versions with a dialect -/

/-- The parts that tell the dialect of a version: of the first two, those up to one that does not look
like a number. -/
def dialectParts (version : String) : List String :=
  ((pieces '.' version).take 2).takeWhile looksNumeric

theorem versionNumber_ok_iff {part : String} :
    (∃ n, versionNumber part = .ok n) ↔ ∃ n, Numeral.readInteger part = .ok n := by
  unfold versionNumber
  split
  · rename_i n hn
    simp [hn]
  · rename_i hn
    simp [hn]
  · rename_i digits hn
    simp [hn]

theorem versionNumbers_ok_iff (parts : List String) :
    (∃ ns, versionNumbers parts = .ok ns) ↔
      ∀ part ∈ parts.takeWhile looksNumeric, IsDecimalPart part := by
  induction parts with
  | nil => simp [versionNumbers]
  | cons part parts ih =>
    by_cases hlooks : looksNumeric part = true
    · have hgo : (decide (part = "") || !part.toList.all isDigit) = false := by
        simpa [looksNumeric] using hlooks
      rw [List.takeWhile_cons_of_pos hlooks, List.forall_mem_cons, ← ih,
        ← readInteger_ok_iff hlooks, ← versionNumber_ok_iff]
      simp only [versionNumbers, hgo]
      cases hpart : versionNumber part with
      | error e => simp
      | ok n => cases versionNumbers parts <;> simp [Except.map]
    · have hstop : (decide (part = "") || !part.toList.all isDigit) = true := by
        simpa [looksNumeric, imp_iff_not_or, or_comm] using hlooks
      rw [List.takeWhile_cons_of_neg hlooks]
      simp [versionNumbers, hstop]

/-- A version has a dialect exactly if the parts that tell it are decimal and not too long. -/
theorem dialect_readable_iff {version : String} :
    (∃ b, Dialect.of version = .ok b) ↔ ∀ part ∈ dialectParts version, IsDecimalPart part := by
  unfold dialectParts
  rw [← versionNumbers_ok_iff]
  simp only [dialect_eq_ok_iff, leadingNumbers]
  constructor
  · rintro ⟨b, ns, hns, _⟩
    exact ⟨ns, hns⟩
  · rintro ⟨ns, hns⟩
    exact ⟨isTypeSetVersion ns, ns, hns, rfl⟩

end ApiDirectives
