import ApiDirectives.Proofs.Format.Json.Reading

/-!
# Number literals

Integers and finite doubles are written as number literals of the JSON grammar. The digits of a double
come from a search, and what is needed of it is little: it finds no digits at all, or some whose first is
not a zero. A search that found nothing would leave a lone zero with an exponent, which is a literal too.
-/

namespace ApiDirectives.Json

/-! ## Digits -/

section Digits

variable {ds es : List Char} {c : Char} {n : Nat}

theorem areDigits_iff : areDigits ds = true ↔ ds ≠ [] ∧ ∀ c ∈ ds, c.isDigit = true := by
  simp [areDigits]

theorem areDigits_append (hds : areDigits ds = true) (hes : ∀ c ∈ es, c.isDigit = true) :
    areDigits (ds ++ es) = true := by
  obtain ⟨hne, hall⟩ := areDigits_iff.mp hds
  exact areDigits_iff.mpr
    ⟨List.append_ne_nil_of_left_ne_nil hne es, List.forall_mem_append.mpr ⟨hall, hes⟩⟩

theorem isDigit_replicate (count : Nat) : ∀ c ∈ List.replicate count '0', c.isDigit = true := by
  intro c hc
  rw [List.eq_of_mem_replicate hc]
  rfl

theorem areDigits_toDigits (n : Nat) : areDigits (Nat.toDigits 10 n) = true :=
  areDigits_iff.mpr
    ⟨Nat.toDigits_ne_nil, fun _ hc => Nat.isDigit_of_mem_toDigits (by decide) (by decide) hc⟩

/-- The digits of a positive number do not begin with a zero. -/
theorem head?_toDigits_ne (h : 0 < n) : (Nat.toDigits 10 n).head? ≠ some '0' := by
  have hdigit : ∀ k < 10, 0 < k → [Nat.digitChar k].head? ≠ some '0' := by decide
  induction n using Nat.strongRecOn with
  | ind n ih =>
    rw [Nat.toDigits_eq_if (by decide)]
    split_ifs with hsmall
    · exact hdigit n hsmall h
    · rw [List.head?_append_of_ne_nil _ Nat.toDigits_ne_nil]
      exact ih (n / 10) (by omega) (by omega)

end Digits

/-! ## Parts of a literal -/

section Parts

variable {whole ds cs rest : List Char}

theorem isFraction_of_isExponent (h : isExponent rest = true) : isFraction rest = true := by
  cases rest with
  | nil => rfl
  | cons c r =>
    have hmark : c = 'e' ∨ c = 'E' := by
      rw [isExponent, Bool.and_eq_true] at h
      simpa using h.1
    rcases hmark with rfl | rfl
    · exact h
    · exact h

/-- Digits end where a fraction or an exponent begins. -/
theorem not_isDigit_of_isFraction (h : isFraction rest = true) : ∀ c ∈ rest.head?, c.isDigit = false := by
  intro c hc
  cases rest with
  | nil => cases hc
  | cons d r =>
    obtain rfl : d = c := Option.some.inj hc
    by_cases hpoint : d = '.'
    · rw [hpoint]
      rfl
    · rw [isFraction.eq_2 _ fun r heq => hpoint (List.cons.inj heq).1, isExponent, Bool.and_eq_true] at h
      have hmark : d = 'e' ∨ d = 'E' := by simpa using h.1
      rcases hmark with rfl | rfl <;> rfl

theorem isFraction_point (hds : areDigits ds = true) (hrest : isExponent rest = true) :
    isFraction ('.' :: (ds ++ rest)) = true := by
  have hall := (areDigits_iff.mp hds).2
  have hend := not_isDigit_of_isFraction (isFraction_of_isExponent hrest)
  rw [isFraction, takeWhile_run hall hend, dropWhile_run hall hend, hds, hrest]
  rfl

theorem isFraction_digits (hds : areDigits ds = true) : isFraction ('.' :: ds) = true := by
  rw [← List.append_nil ds]
  exact isFraction_point hds rfl

/-- A whole part with what may follow it is a number. -/
theorem isUnsigned_append (hwhole : areDigits whole = true)
    (hzero : whole = ['0'] ∨ whole.head? ≠ some '0') (hrest : isFraction rest = true) :
    isUnsigned (whole ++ rest) = true := by
  have hall := (areDigits_iff.mp hwhole).2
  have hend := not_isDigit_of_isFraction hrest
  have hhead : (whole = ['0'] || whole.head? != some '0') = true := by simpa using hzero
  rw [isUnsigned, takeWhile_run hall hend, dropWhile_run hall hend, hwhole, hrest, hhead]
  rfl

theorem isNumber_of_isUnsigned (h : isUnsigned cs = true) : isNumber cs = true := by
  unfold isNumber
  split
  · cases h
  · exact h

theorem ne_nil_of_isNumber (h : isNumber cs = true) : cs ≠ [] := by
  rintro rfl
  cases h

end Parts

/-! ## One token -/

section Tokens

variable {cs : List Char}

theorem isTokenChar_of_isDigit {c : Char} (h : c.isDigit = true) : isTokenChar c = true := by
  simp [isTokenChar, Char.isAlphanum, h]

theorem isTokenChar_of_areDigits (h : areDigits cs = true) : ∀ c ∈ cs, isTokenChar c = true :=
  fun c hc => isTokenChar_of_isDigit ((areDigits_iff.mp h).2 c hc)

theorem isTokenChar_of_isExponent (h : isExponent cs = true) : ∀ c ∈ cs, isTokenChar c = true := by
  cases cs with
  | nil => exact List.forall_mem_nil _
  | cons mark r =>
    rw [isExponent, Bool.and_eq_true] at h
    obtain ⟨hmark, hdigits⟩ := h
    have hrest : ∀ c ∈ r, isTokenChar c = true := by
      unfold dropSign at hdigits
      split at hdigits
      · exact List.forall_mem_cons.mpr ⟨rfl, isTokenChar_of_areDigits hdigits⟩
      · exact List.forall_mem_cons.mpr ⟨rfl, isTokenChar_of_areDigits hdigits⟩
      · exact isTokenChar_of_areDigits hdigits
    refine List.forall_mem_cons.mpr ⟨?_, hrest⟩
    have hletter : mark = 'e' ∨ mark = 'E' := by simpa using hmark
    rcases hletter with rfl | rfl <;> rfl

/-- A text is of a class if the run of digits at its front is, and the rest. -/
theorem isTokenChar_of_cut (h : ∀ c ∈ cs.dropWhile Char.isDigit, isTokenChar c = true) :
    ∀ c ∈ cs, isTokenChar c = true := by
  have hcut : cs.takeWhile Char.isDigit ++ cs.dropWhile Char.isDigit = cs :=
    List.takeWhile_append_dropWhile
  rw [← hcut]
  exact List.forall_mem_append.mpr ⟨fun c hc => isTokenChar_of_isDigit (List.mem_takeWhile_imp hc), h⟩

theorem isTokenChar_of_isFraction (h : isFraction cs = true) : ∀ c ∈ cs, isTokenChar c = true := by
  unfold isFraction at h
  split at h
  · rw [Bool.and_eq_true] at h
    exact List.forall_mem_cons.mpr ⟨rfl, isTokenChar_of_cut (isTokenChar_of_isExponent h.2)⟩
  · exact isTokenChar_of_isExponent h

theorem isTokenChar_of_isUnsigned (h : isUnsigned cs = true) : ∀ c ∈ cs, isTokenChar c = true := by
  unfold isUnsigned at h
  rw [Bool.and_eq_true] at h
  exact isTokenChar_of_cut (isTokenChar_of_isFraction h.2)

/-- A number has no character that could end it early. -/
theorem isTokenChar_of_isNumber (h : isNumber cs = true) : ∀ c ∈ cs, isTokenChar c = true := by
  unfold isNumber at h
  split at h
  · exact List.forall_mem_cons.mpr ⟨rfl, isTokenChar_of_isUnsigned h⟩
  · exact isTokenChar_of_isUnsigned h

/-- No number is one of the words. -/
theorem scalar?_of_isNumber (h : isNumber cs = true) :
    scalar? cs = some (.number (String.ofList cs)) := by
  have hword : ∀ {word : List Char}, isNumber word = false → cs ≠ word := by
    rintro word hno rfl
    rw [h] at hno
    cases hno
  rw [scalar?, if_neg (hword (by decide)), if_neg (hword (by decide)), if_neg (hword (by decide)),
    if_pos h]

end Tokens

/-! ## Integers -/

theorem isUnsigned_toDigits (n : Nat) : isUnsigned (Nat.toDigits 10 n) = true := by
  have hzero : Nat.toDigits 10 n = ['0'] ∨ (Nat.toDigits 10 n).head? ≠ some '0' := by
    rcases Nat.eq_zero_or_pos n with rfl | hpos
    · exact .inl rfl
    · exact .inr (head?_toDigits_ne hpos)
  rw [← List.append_nil (Nat.toDigits 10 n)]
  exact isUnsigned_append (areDigits_toDigits n) hzero rfl

theorem isNumber_toString (n : Int) : isNumber (toString n).toList = true := by
  have hdigits : ∀ k : Nat, (toString k).toList = Nat.toDigits 10 k := by
    intro k
    rw [Nat.toString_eq_ofList_toDigits, String.toList_ofList]
  cases n with
  | ofNat n =>
    have htext : (toString (Int.ofNat n)).toList = Nat.toDigits 10 n := hdigits n
    rw [htext]
    exact isNumber_of_isUnsigned (isUnsigned_toDigits n)
  | negSucc n =>
    have htext : (toString (Int.negSucc n)).toList = '-' :: Nat.toDigits 10 (n + 1) := by
      rw [← hdigits]
      exact String.toList_append
    rw [htext]
    exact isUnsigned_toDigits (n + 1)

/-! ## Doubles -/

section Doubles

open Binary64

variable {n : Nat} {x : Int}

/-- The digits of a double are fit to be laid out: there are some, or they are beyond all layouts but
that with an exponent. -/
def Presentable (n : Nat) (x : Int) : Prop :=
  0 < n ∨ numbers.positionalBelow ≤ x

theorem candidate_pos {v : Ratio} {near : Neighbourhood} {leading : Int} {count : Nat}
    (h : candidate v near leading count = some (n, x)) : 0 < n := by
  unfold candidate at h
  dsimp only at h
  -- The grid point below the value is taken only if it is not zero.
  split at h
  · cases h
  · rename_i hbelow _
    rw [Bool.and_eq_true, decide_eq_true_eq] at hbelow
    obtain ⟨rfl, -⟩ := Prod.mk.inj (Option.some.inj h)
    exact hbelow.2
  · obtain ⟨rfl, -⟩ := Prod.mk.inj (Option.some.inj h)
    exact Nat.succ_pos _
  · rename_i hbelow _
    rw [Bool.and_eq_true, decide_eq_true_eq] at hbelow
    have hlow := hbelow.2
    split_ifs at h
    all_goals obtain ⟨rfl, -⟩ := Prod.mk.inj (Option.some.inj h)
    · exact hlow
    · exact Nat.succ_pos _
    · exact hlow
    · exact Nat.succ_pos _

/-- The search ends with a hit, or with nothing. -/
theorem searchShortest_cases (v : Ratio) (near : Neighbourhood) (leading : Int) (fuel : Nat) :
    0 < (searchShortest v near leading fuel).1 ∨ searchShortest v near leading fuel = (0, 0) := by
  induction fuel with
  | zero => exact .inr rfl
  | succ fuel ih =>
    rw [searchShortest]
    split
    · rename_i hit hcandidate
      exact .inl (candidate_pos hcandidate)
    · exact ih

theorem dropZeros_pos (fuel : Nat) (h : 0 < n) : 0 < (dropZeros fuel n x).1 := by
  induction fuel generalizing n x with
  | zero => exact h
  | succ fuel ih =>
    rw [dropZeros]
    split_ifs with hzero
    · exact ih (by omega)
    · exact h

theorem presentable_shortestDigits (m : Nat) (e : Int) :
    Presentable (shortestDigits m e).1 (shortestDigits m e).2 := by
  unfold shortestDigits
  dsimp only
  rcases searchShortest_cases (Ratio.binary m e) (neighbourhood m e)
    (leadingExponent (Ratio.binary m e)) 17 with hhit | hnone
  · exact .inl (dropZeros_pos 20 hhit)
  · rw [hnone]
    exact .inr (by decide)

theorem isExponent_exponentText (x : Int) : isExponent ('e' :: (exponentText x).toList) = true := by
  unfold exponentText
  dsimp only
  generalize hpadded : (if (toString x.natAbs).length < 2 then "0" ++ toString x.natAbs
    else toString x.natAbs) = padded
  have hdigits : areDigits padded.toList = true := by
    have hall : areDigits (toString x.natAbs).toList = true := by
      rw [Nat.toString_eq_ofList_toDigits, String.toList_ofList]
      exact areDigits_toDigits _
    rw [← hpadded]
    split_ifs
    · rw [String.toList_append]
      exact areDigits_append (by decide) (areDigits_iff.mp hall).2
    · exact hall
  split_ifs
  · rw [String.toList_append]
    exact hdigits
  · rw [String.toList_append]
    exact hdigits

/-! Each layout puts the point somewhere else. -/

section Layouts

variable {ds : List Char}

theorem isUnsigned_whole (hds : areDigits ds = true) (hzero : ds.head? ≠ some '0') (count : Nat) :
    isUnsigned (ds ++ List.replicate count '0' ++ ['.', '0']) = true := by
  refine isUnsigned_append (areDigits_append hds (isDigit_replicate count)) (.inr ?_) (by decide)
  rwa [List.head?_append_of_ne_nil _ (areDigits_iff.mp hds).1]

theorem isUnsigned_split (hds : areDigits ds = true) (hzero : ds.head? ≠ some '0') {count : Nat}
    (hfirst : 0 < count) (hlast : count < ds.length) :
    isUnsigned (ds.take count ++ '.' :: ds.drop count) = true := by
  obtain ⟨hne, hall⟩ := areDigits_iff.mp hds
  have hfront : areDigits (ds.take count) = true := by
    refine areDigits_iff.mpr ⟨fun hnil => ?_, fun c hc => hall c (List.mem_of_mem_take hc)⟩
    rcases List.take_eq_nil_iff.mp hnil with hnone | hnone
    · omega
    · exact hne hnone
  have hback : areDigits (ds.drop count) = true := by
    refine areDigits_iff.mpr ⟨fun hnil => ?_, fun c hc => hall c (List.mem_of_mem_drop hc)⟩
    have := List.drop_eq_nil_iff.mp hnil
    omega
  refine isUnsigned_append hfront (.inr ?_) (isFraction_digits hback)
  rwa [List.head?_take, if_neg (by omega)]

theorem isUnsigned_small (hds : areDigits ds = true) (count : Nat) :
    isUnsigned ('0' :: '.' :: (List.replicate count '0' ++ ds)) = true := by
  obtain ⟨hne, hall⟩ := areDigits_iff.mp hds
  have hzero : areDigits ['0'] = true := by decide
  have hback : areDigits (List.replicate count '0' ++ ds) = true :=
    areDigits_iff.mpr ⟨List.append_ne_nil_of_right_ne_nil _ hne,
      List.forall_mem_append.mpr ⟨isDigit_replicate count, hall⟩⟩
  exact isUnsigned_append hzero (.inl rfl) (isFraction_digits hback)

/-- In front of an exponent there is one digit, which may be a zero, with or without others behind a
point. -/
theorem isUnsigned_scientific {d : Char} (hds : areDigits (d :: ds) = true) (x : Int) :
    isUnsigned (d :: ((if ds = [] then [] else '.' :: ds) ++ 'e' :: (exponentText x).toList)) = true := by
  obtain ⟨hfirst, hmore⟩ := List.forall_mem_cons.mp (areDigits_iff.mp hds).2
  have hdigit : areDigits [d] = true :=
    areDigits_iff.mpr ⟨List.cons_ne_nil _ _, List.forall_mem_singleton.mpr hfirst⟩
  have hzero : [d] = ['0'] ∨ [d].head? ≠ some '0' := by
    by_cases hd : d = '0'
    · exact .inl (by rw [hd])
    · exact .inr fun heq => hd (Option.some.inj heq)
  refine isUnsigned_append hdigit hzero ?_
  split_ifs with hnil
  · exact isFraction_of_isExponent (isExponent_exponentText x)
  · exact isFraction_point (areDigits_iff.mpr ⟨hnil, hmore⟩) (isExponent_exponentText x)

end Layouts

/-- Digits with their marks are a number, in each of the layouts. -/
theorem isUnsigned_digitsText (h : Presentable n x) :
    isUnsigned (numbers.digitsText n x).toList = true := by
  have hdigits := areDigits_toDigits n
  have hlength := List.length_pos_iff.mpr (areDigits_iff.mp hdigits).1
  have hzero : x < numbers.positionalBelow → (Nat.toDigits 10 n).head? ≠ some '0' :=
    fun hbelow => head?_toDigits_ne (h.resolve_right (Int.not_le.mpr hbelow))
  unfold Layout.digitsText
  dsimp only
  -- Only where the digits begin a whole part of more than one does the first have to be no zero.
  split_ifs with hpositional hwhole hpoint
  · rw [Bool.and_eq_true, decide_eq_true_eq, decide_eq_true_eq] at hpositional
    rw [String.toList_append, String.toList_ofList, String.toList_ofList]
    exact isUnsigned_whole hdigits (hzero (by omega)) _
  · rw [Bool.and_eq_true, decide_eq_true_eq, decide_eq_true_eq] at hpositional
    rw [String.toList_ofList]
    exact isUnsigned_split hdigits (hzero (by omega)) (by omega) (by omega)
  · rw [String.toList_append, String.toList_ofList, String.toList_ofList]
    exact isUnsigned_small hdigits _
  · generalize x + (Nat.toDigits 10 n).length - 1 = leading
    split
    · rename_i hnil
      rw [hnil] at hlength
      cases hlength
    · rename_i d hd
      rw [hd] at hdigits
      simpa [numbers] using isUnsigned_scientific hdigits leading
    · rename_i d more hmore hd
      rw [hd] at hdigits
      have hnil : more ≠ [] := hmore
      simpa [hnil] using isUnsigned_scientific hdigits leading

/-- A finite double is written as a number. -/
theorem isNumber_render {d : Binary64} (h : d.isFinite = true) :
    isNumber (numbers.render d).toList = true := by
  cases d with
  | finite negative m e =>
    have hsigned : ∀ {cs : String}, isUnsigned cs.toList = true →
        isNumber ((if negative then "-" else "") ++ cs).toList = true := by
      intro cs hcs
      rw [String.toList_append]
      cases negative with
      | true => exact hcs
      | false => exact isNumber_of_isUnsigned hcs
    unfold Layout.render
    dsimp only
    by_cases hzero : m = 0
    · have hdigits : isUnsigned "0.0".toList = true := by decide
      rw [if_pos hzero]
      exact hsigned hdigits
    · rw [if_neg hzero]
      exact hsigned (isUnsigned_digitsText (presentable_shortestDigits m e))
  | infinite negative => cases h
  | undefined => cases h

end Doubles

end ApiDirectives.Json
