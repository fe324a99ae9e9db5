import ApiDirectives.Proofs.Source.Closing
import ApiDirectives.Source.Comment

/-!
# Runs of plain characters

Names, numbers and the marks before strings are plain to both readers of a source, however far each of
them makes such a run reach.
-/

namespace ApiDirectives.Source

open ApiDirectives.Text

/-! ## Plain characters -/

/-- The characters that are not plain. -/
def specials : List Char := ['#', '\\', '\n', '\'', '"', '(', '[', '\x7b', ')', ']', '\x7d']

theorem isPlain_iff {c : Char} : isPlain c = true ↔ c ∉ specials := by
  simp [isPlain, specials, isQuote, isOpening, isClosing, and_assoc]

/-- A class of characters is plain if none of the special ones is in it. -/
theorem isPlain_of_class {p : Char → Bool} (hp : specials.any p = false) (c : Char)
    (h : p c = true) : isPlain c = true := by
  rw [isPlain_iff]
  intro hc
  exact List.any_eq_false.mp hp c hc h

theorem isPlain_of_isSpacing (c : Char) (h : isSpacing c = true) : isPlain c = true :=
  isPlain_of_class (by decide) c h

theorem isPlain_of_continuesName (c : Char) (h : continuesName c = true) : isPlain c = true :=
  isPlain_of_class (by decide) c h

theorem isPlain_of_isDigit (c : Char) (h : c.isDigit = true) : isPlain c = true :=
  isPlain_of_class (by decide) c h

theorem isPlain_of_isWord (c : Char) (h : isWord c = true) : isPlain c = true :=
  isPlain_of_class (by decide) c h

/-- One of two plain characters is plain. -/
theorem isPlain_of_or {a b c : Char} (hc : (decide (c = a) || decide (c = b)) = true)
    (ha : isPlain a = true) (hb : isPlain b = true) : isPlain c = true := by
  rcases (by simpa using hc : c = a ∨ c = b) with rfl | rfl
  · exact ha
  · exact hb

/-! ## Numbers of the cut -/

section Numbers

variable {digit : Char → Bool} {cs rest : List Char}

theorem passes_digitsRest (hdigit : ∀ c, digit c = true → isPlain c = true)
    (h : digitsRest digit cs = some rest) : Passes cs rest := by
  have hunderscore : isPlain '_' = true := by decide
  fun_induction digitsRest digit cs with
  | case1 c r hc ih => exact .cons hunderscore (.cons (hdigit c hc) (ih h))
  | case2 => cases h
  | case3 => cases h
  | case4 =>
    cases h
    exact .refl []
  | case5 c r _ _ hc ih => exact .cons (hdigit c hc) (ih h)
  | case6 c r _ _ hc =>
    cases h
    exact .refl _

theorem passes_numberEnd (h : numberEnd cs = some rest) : Passes cs rest := by
  unfold numberEnd at h
  split at h
  · cases h
    exact .refl cs
  · cases h

theorem passes_imaginaryRest (h : imaginaryRest cs = some rest) : Passes cs rest := by
  cases cs with
  | nil =>
    cases h
    exact .refl []
  | cons c r =>
    unfold imaginaryRest at h
    dsimp only at h
    split at h
    · rename_i hc
      have hplain : isPlain c = true := isPlain_of_or hc rfl rfl
      exact .cons hplain (passes_numberEnd h)
    · exact passes_numberEnd h

theorem passes_bind_digits {f : List Char → Option (List Char)}
    (hf : ∀ {cs rest}, f cs = some rest → Passes cs rest)
    (h : (digitsRest Char.isDigit cs).bind f = some rest) : Passes cs rest := by
  obtain ⟨middle, hdigits, hrest⟩ := Option.bind_eq_some_iff.mp h
  exact (passes_digitsRest isPlain_of_isDigit hdigits).trans (hf hrest)

theorem passes_exponentRest (h : exponentRest cs = some rest) : Passes cs rest := by
  cases cs with
  | nil =>
    cases h
    exact .refl []
  | cons c r =>
    unfold exponentRest at h
    dsimp only at h
    split at h
    · rename_i hc
      have hplain : isPlain c = true := isPlain_of_or hc rfl rfl
      cases r with
      | nil => cases h
      | cons d s =>
        dsimp only at h
        split at h
        · rename_i hd
          have hsign : isPlain d = true := isPlain_of_or hd rfl rfl
          split at h
          · exact .cons hplain (.cons hsign (passes_bind_digits passes_imaginaryRest h))
          · cases h
        · split at h
          · exact .cons hplain (passes_bind_digits passes_imaginaryRest h)
          · exact passes_numberEnd h
    · exact passes_imaginaryRest h

theorem passes_fractionRest (h : fractionRest cs = some rest) : Passes cs rest := by
  unfold fractionRest at h
  split at h
  · exact passes_bind_digits passes_exponentRest h
  · exact passes_exponentRest h

theorem passes_basedRest (hdigit : specials.any digit = false)
    (h : basedRest digit cs = some rest) : Passes cs rest := by
  obtain ⟨body, hbody, hrest⟩ : ∃ body, Passes cs body ∧
      (if body.head?.any digit then (digitsRest digit body).bind fun rest =>
        if rest.head?.any Char.isDigit then none else numberEnd rest
      else none) = some rest := by
    unfold basedRest at h
    dsimp only at h
    split at h
    · exact ⟨_, .cons (by decide) (.refl _), h⟩
    · exact ⟨cs, .refl cs, h⟩
  refine hbody.trans ?_
  split at hrest
  · obtain ⟨middle, hdigits, hend⟩ := Option.bind_eq_some_iff.mp hrest
    split at hend
    · cases hend
    · exact (passes_digitsRest (isPlain_of_class hdigit) hdigits).trans (passes_numberEnd hend)
  · cases hrest

theorem passes_decimalRest (h : decimalRest cs = some rest) : Passes cs rest := by
  obtain ⟨middle, hdigits, hrest⟩ := Option.bind_eq_some_iff.mp h
  refine (passes_digitsRest isPlain_of_isDigit hdigits).trans ?_
  split at hrest
  · exact .cons (by decide) (passes_fractionRest hrest)
  · split at hrest
    · exact passes_exponentRest hrest
    · split at hrest
      · cases hrest
      · exact passes_numberEnd hrest
  · cases hrest
    exact .refl []

/-- A number is made of plain characters. -/
theorem passes_numberRest (h : numberRest cs = some rest) : Passes cs rest := by
  unfold numberRest at h
  split at h
  · exact .cons (by decide) (passes_fractionRest h)
  · rename_i c r
    have hzero : isPlain '0' = true := by decide
    split at h
    · rename_i hc
      have hplain : isPlain c = true := isPlain_of_or hc rfl rfl
      exact .cons hzero (.cons hplain (passes_basedRest (by decide) h))
    · split at h
      · rename_i hc
        have hplain : isPlain c = true := isPlain_of_or hc rfl rfl
        exact .cons hzero (.cons hplain (passes_basedRest (by decide) h))
      · split at h
        · rename_i hc
          have hplain : isPlain c = true := isPlain_of_or hc rfl rfl
          exact .cons hzero (.cons hplain (passes_basedRest (by decide) h))
        · exact passes_decimalRest h
  · exact passes_decimalRest h

end Numbers

/-! ## Numbers of the scan -/

/-- At least one plain character stands between two places, and only such. -/
def Advances (cs rest : List Char) : Prop := ∃ c r, cs = c :: r ∧ isPlain c = true ∧ Passes r rest

section LooseNumbers

variable {cs rest more : List Char} {digit : Char → Bool}

theorem Advances.trans (h : Advances cs rest) (hmore : Passes rest more) : Advances cs more := by
  obtain ⟨c, r, rfl, hc, hr⟩ := h
  exact ⟨c, r, rfl, hc, hr.trans hmore⟩

theorem Advances.passes (h : Advances cs rest) : Passes cs rest := by
  obtain ⟨c, r, rfl, hc, hr⟩ := h
  exact .cons hc hr

theorem Advances.length_lt (h : Advances cs rest) : rest.length < cs.length := by
  obtain ⟨c, r, rfl, -, run, -, rfl⟩ := h
  simp only [List.length_cons, List.length_append]
  omega

theorem passes_looseDigits (hdigit : ∀ c, digit c = true → isPlain c = true) (cs : List Char) :
    Passes cs (looseDigits digit cs) := by
  fun_induction looseDigits digit cs with
  | case1 c r hc ih => exact .cons (by decide) (.cons (hdigit c hc) ih)
  | case2 => exact .refl _
  | case3 c r _ hc ih => exact .cons (hdigit c hc) ih
  | case4 => exact .refl _
  | case5 => exact .refl _

theorem advances_digitPart? (h : digitPart? cs = some rest) : Advances cs rest := by
  cases cs with
  | nil => cases h
  | cons c r =>
    unfold digitPart? at h
    dsimp only at h
    split at h
    · rename_i hc
      cases h
      exact ⟨c, r, rfl, isPlain_of_isDigit c hc, passes_looseDigits isPlain_of_isDigit r⟩
    · cases h

theorem advances_exponent? (h : exponent? cs = some rest) : Advances cs rest := by
  cases cs with
  | nil => cases h
  | cons c r =>
    unfold exponent? at h
    dsimp only at h
    split at h
    · rename_i hc
      have hplain : isPlain c = true := isPlain_of_or hc rfl rfl
      refine ⟨c, r, rfl, hplain, ?_⟩
      split at h
      · exact .cons (by decide) (advances_digitPart? h).passes
      · exact .cons (by decide) (advances_digitPart? h).passes
      · exact (advances_digitPart? h).passes
    · cases h

theorem passes_getD {f : List Char → Option (List Char)}
    (hf : ∀ {cs rest}, f cs = some rest → Advances cs rest) (cs : List Char) :
    Passes cs ((f cs).getD cs) := by
  cases h : f cs with
  | none => exact .refl cs
  | some rest => exact (hf h).passes

theorem advances_pointNumber? (h : pointNumber? cs = some rest) : Advances cs rest := by
  obtain ⟨middle, hmantissa, rfl⟩ := Option.map_eq_some_iff.mp h
  refine Advances.trans ?_ (passes_getD advances_exponent? middle)
  split at hmantissa
  · rename_i r
    exact ⟨'.', r, rfl, by decide, (advances_digitPart? hmantissa).passes⟩
  · split at hmantissa
    · rename_i r hdigits
      cases hmantissa
      exact (advances_digitPart? hdigits).trans
        (.cons (by decide) (passes_getD advances_digitPart? r))
    · cases hmantissa

theorem advances_exponentNumber? (h : exponentNumber? cs = some rest) : Advances cs rest := by
  obtain ⟨middle, hdigits, hexponent⟩ := Option.bind_eq_some_iff.mp h
  exact (advances_digitPart? hdigits).trans (advances_exponent? hexponent).passes

theorem passes_imaginaryMark? (h : imaginaryMark? cs = some rest) : Passes cs rest := by
  cases cs with
  | nil => cases h
  | cons c r =>
    unfold imaginaryMark? at h
    dsimp only at h
    split at h
    · rename_i hc
      cases h
      have hplain : isPlain c = true := isPlain_of_or hc rfl rfl
      exact .cons hplain (.refl _)
    · cases h

theorem passes_basedDigits? (hdigit : specials.any digit = false)
    (h : basedDigits? digit cs = some rest) : Passes cs rest := by
  have hplain := isPlain_of_class hdigit
  unfold basedDigits? at h
  dsimp only at h
  split at h
  · rename_i c r hbody
    have hunderscore : Passes cs (c :: r) := by
      rw [← hbody]
      split
      · exact .cons (by decide) (.refl _)
      · exact .refl cs
    split at h
    · rename_i hc
      cases h
      exact hunderscore.trans (.cons (hplain c hc) (passes_looseDigits hplain r))
    · cases h
  · cases h

theorem advances_integer? (h : integer? cs = some rest) : Advances cs rest := by
  unfold integer? at h
  dsimp only at h
  split at h
  · rename_i r
    refine ⟨'0', r, rfl, by decide, ?_⟩
    have hzeros : Passes r (looseDigits (· == '0') r) :=
      passes_looseDigits (isPlain_of_class (by decide)) r
    split at h
    · rename_i c s
      simp only [Option.orElse_eq_orElse, Option.orElse_eq_or, Option.or_eq_some_iff] at h
      obtain hfound | ⟨-, hdigits⟩ := h
      · split at hfound
        · rename_i hc
          have hplain : isPlain c = true := isPlain_of_or hc rfl rfl
          exact .cons hplain (passes_basedDigits? (by decide) hfound)
        · split at hfound
          · rename_i hc
            have hplain : isPlain c = true := isPlain_of_or hc rfl rfl
            exact .cons hplain (passes_basedDigits? (by decide) hfound)
          · split at hfound
            · rename_i hc
              have hplain : isPlain c = true := isPlain_of_or hc rfl rfl
              exact .cons hplain (passes_basedDigits? (by decide) hfound)
            · cases hfound
      · cases hdigits
        exact hzeros
    · cases h
      exact hzeros
  · exact advances_digitPart? h

/-- A number is made of plain characters, at least one. -/
theorem advances_looseNumber? (h : looseNumber? cs = some rest) : Advances cs rest := by
  have himaginary : ∀ {f : List Char → Option (List Char)},
      (∀ {rest}, f cs = some rest → Advances cs rest) →
      (f cs).bind imaginaryMark? = some rest → Advances cs rest := by
    intro f hf hbind
    obtain ⟨middle, hnumber, hmark⟩ := Option.bind_eq_some_iff.mp hbind
    exact (hf hnumber).trans (passes_imaginaryMark? hmark)
  simp only [looseNumber?, Option.orElse_eq_orElse, Option.orElse_eq_or, Option.or_eq_some_iff] at h
  obtain h | ⟨-, h | ⟨-, h | ⟨-, h | ⟨-, h | ⟨-, h⟩⟩⟩⟩⟩ := h
  · exact himaginary advances_digitPart? h
  · exact himaginary advances_pointNumber? h
  · exact himaginary advances_exponentNumber? h
  · exact advances_pointNumber? h
  · exact advances_exponentNumber? h
  · exact advances_integer? h

end LooseNumbers

/-! ## Starts of strings -/

section Starts

variable {cs body : List Char} {q : Char} {n : Nat}

/-- The letters that mark a string are plain, whatever their case. -/
theorem isPlain_of_mark {mark : List Char}
    (h : stringMarks.contains (lowerAscii (String.ofList mark)) = true) :
    ∀ c ∈ mark, isPlain c = true := by
  have hmarks : stringMarks.all (fun m => m.toList.all isPlain) = true := by decide
  have hlower : specials.all (fun c => c.toLower == c) = true := by decide
  intro c hc
  by_contra hspecial
  have hsame : c.toLower = c := by
    rw [isPlain_iff, not_not] at hspecial
    simpa using List.all_eq_true.mp hlower c hspecial
  have hmem : c ∈ (lowerAscii (String.ofList mark)).toList := by
    simp only [lowerAscii, String.toList_ofList, List.mem_map]
    exact ⟨c, hc, hsame⟩
  have hmark := List.all_eq_true.mp hmarks _ (List.contains_iff_mem.mp h)
  exact hspecial (List.all_eq_true.mp hmark c hmem)

theorem passes_markLength? (h : markLength? cs = some n) :
    Passes cs (cs.drop n) ∧ (cs.drop n).head?.any isQuote = true := by
  have hfound := List.mem_filter.mp (List.mem_of_mem_head? h)
  obtain ⟨-, hfound⟩ := hfound
  simp only [Bool.and_eq_true, Bool.or_eq_true, decide_eq_true_eq] at hfound
  refine ⟨?_, hfound.2⟩
  rcases hfound.1 with rfl | hmark
  · exact .refl cs
  · exact ⟨cs.take n, isPlain_of_mark hmark, (List.take_append_drop n cs).symm⟩

theorem not_isQuote_of_markLength? {c : Char} {r : List Char} (h : markLength? (c :: r) = none) :
    isQuote c = false := by
  by_contra hc
  have hmem : 0 ∈ [0, 1, 2].filter fun n =>
      (n = 0 || stringMarks.contains (lowerAscii (String.ofList ((c :: r).take n))))
        && ((c :: r).drop n).head?.any isQuote := by
    simpa using hc
  rw [List.head?_eq_none_iff.mp h] at hmem
  cases hmem

/-- A string at the front stands after plain characters, and no quotation mark is passed over. -/
inductive StringStart.Opens (cs : List Char) : StringStart → Prop
  | none : (∀ c ∈ cs.head?, isQuote c = false) → Opens cs .none
  | long {q : Char} {body : List Char} :
      isQuote q = true → Passes cs (q :: q :: q :: body) → Opens cs (.long q body)
  | short {q : Char} {body : List Char} :
      isQuote q = true → Passes cs (q :: body) → body.take 2 ≠ [q, q] → Opens cs (.short q body)

theorem opens_stringStart (cs : List Char) : (stringStart cs).Opens cs := by
  unfold stringStart
  cases hmark : markLength? cs with
  | none =>
    refine .none fun c hc => ?_
    cases cs with
    | nil => cases hc
    | cons d r =>
      cases hc
      exact not_isQuote_of_markLength? hmark
  | some n =>
    obtain ⟨hpasses, hquote⟩ := passes_markLength? hmark
    dsimp only
    -- Less than three characters cannot be three marks.
    match cs.drop n, hpasses, hquote with
    | [], _, hquote => cases hquote
    | [a], hpasses, hquote => exact .short hquote hpasses (by simp)
    | [a, b], hpasses, hquote => exact .short hquote hpasses (by simp)
    | a :: b :: c :: r, hpasses, hquote =>
      dsimp only
      split
      · rename_i hsame
        simp only [Bool.and_eq_true, decide_eq_true_eq] at hsame
        obtain ⟨rfl, rfl⟩ := hsame
        exact .long hquote hpasses
      · rename_i hdiffer
        refine .short hquote hpasses ?_
        intro hmarks
        simp only [List.take_succ_cons, List.take_zero, List.cons.injEq] at hmarks
        obtain ⟨rfl, rfl, -⟩ := hmarks
        simp at hdiffer

end Starts

end ApiDirectives.Source
