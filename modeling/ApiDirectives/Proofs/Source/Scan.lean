import ApiDirectives.Proofs.Source.Plain

/-!
# A text that closes is scanned to its end

The scan for comments works line by line and keeps what is open at the start of each: a string, brackets,
a continued line. It goes along the way through the text, but for one thing: a carriage return means an
end of line to it in some places and nothing in others. In a text without carriage returns, a scan at the
start of a line is on the way from the start of the text to its end (`Scan.Settled`), so that nothing is
open at the end, and a scan can only be refused for the margin of a line.
-/

namespace ApiDirectives.Source

open ApiDirectives.Text

/-! ## Parts of a line -/

/-- A part of a line up to its end: a line feed stands at its end only, and is missing only if nothing
comes after. -/
def InLine (after : List Char) : List Char → Prop
  | [] => True
  | c :: r => c ≠ '\r' ∧ (c = '\n' → r = []) ∧ (r = [] → c = '\n' ∨ after = []) ∧ InLine after r

section Parts

variable {whole after run cs r : List Char} {c q : Char} {n : Nat}

theorem InLine.ne_return (h : InLine after (c :: r)) : c ≠ '\r' := h.1

theorem InLine.ends (h : InLine after (c :: r)) (hc : c = '\n') : r = [] := h.2.1 hc

theorem InLine.eq_nil (h : InLine after (c :: r)) (hc : c ≠ '\n') (hr : r = []) : after = [] :=
  (h.2.2.1 hr).resolve_left hc

theorem InLine.tail (h : InLine after (c :: r)) : InLine after r := h.2.2.2

theorem InLine.of_append (h : InLine after (run ++ cs)) : InLine after cs := by
  induction run with
  | nil => exact h
  | cons c run ih => exact ih h.tail

theorem InLine.of_suffix (h : InLine after cs) (hr : r <:+ cs) : InLine after r := by
  obtain ⟨run, rfl⟩ := hr
  exact h.of_append

/-- Three quotation marks never reach over the end of a line. -/
theorem InLine.take_append (h : InLine after (q :: r)) (hq : isQuote q = true) :
    (r ++ after).take 2 = [q, q] ↔ r.take 2 = [q, q] := by
  have hnewline : q ≠ '\n' := by
    rintro rfl
    cases hq
  match r, h with
  | [], h => rw [h.eq_nil hnewline rfl, List.append_nil]
  | [d], h =>
    by_cases hd : d = '\n'
    · simp [hd, hnewline.symm]
    · rw [h.tail.eq_nil hd rfl, List.append_nil]
  | d :: e :: r, _ => simp

theorem ne_of_not_escape (hescape : ∀ d s, c = '\\' → r = d :: s → False)
    (hlast : c = '\\' → r = [] → False) : c ≠ '\\' := by
  intro hc
  cases r with
  | nil => exact hlast hc rfl
  | cons d s => exact hescape d s hc rfl

/-- A string between triple marks ends on the line or goes on after it. -/
theorem onWay_longEnd? (hq : isQuote q = true) (hcs : InLine after cs)
    (h : OnWay whole ⟨.long q, n, cs ++ after⟩) :
    (∃ r, longEnd? q cs = some r ∧ r <:+ cs ∧ OnWay whole ⟨.code, n, r ++ after⟩) ∨
      (longEnd? q cs = none ∧ OnWay whole ⟨.long q, n, after⟩) := by
  fun_induction longEnd? q cs with
  | case1 => exact .inr ⟨rfl, h⟩
  | case2 r =>
    -- An escaped line feed: the line is over, and the string is not.
    obtain rfl : r = [] := hcs.tail.ends rfl
    exact .inr ⟨rfl, h.move leads_long_escape⟩
  | case3 c r hc ih =>
    obtain ⟨rest, hend, hsuffix, hrest⟩ | hgoesOn := ih hcs.tail.tail (h.move leads_long_escape)
    · exact .inl ⟨rest, hend, hsuffix.trans (List.suffix_append [_, _] r), hrest⟩
    · exact .inr hgoesOn
  | case4 =>
    rw [hcs.eq_nil (by decide) rfl] at h
    exact absurd h.closes not_closes_long_backslash
  | case5 c r hescape hlast hmarks =>
    simp only [Bool.and_eq_true, decide_eq_true_eq, beq_iff_eq] at hmarks
    obtain ⟨rfl, hmarks⟩ := hmarks
    have hslash := ne_of_not_escape hescape hlast
    match r, hmarks with
    | a :: b :: r, hmarks =>
      have hmarks : a = c ∧ b = c := by simpa using hmarks
      obtain ⟨rfl, rfl⟩ := hmarks
      exact .inl ⟨r, rfl, List.suffix_append [_, _, _] r, h.move (leads_long_end hslash)⟩
  | case6 c r hescape hlast hmarks ih =>
    have hslash := ne_of_not_escape hescape hlast
    have hrest : OnWay whole ⟨.long q, n, r ++ after⟩ := by
      refine h.move (leads_long_cons hslash ?_)
      rintro ⟨rfl, htake⟩
      simp [(hcs.take_append hq).mp htake] at hmarks
    obtain ⟨rest, hend, hsuffix, hrest⟩ | hgoesOn := ih hcs.tail hrest
    · exact .inl ⟨rest, hend, hsuffix.trans (List.suffix_cons c r), hrest⟩
    · exact .inr hgoesOn

/-- A string between single marks ends on its line or goes on after it. -/
theorem onWay_shortEnd (hq : isQuote q = true) (hcs : InLine after cs) (hnil : cs = [] → after = [])
    (h : OnWay whole ⟨.short q, n, cs ++ after⟩) :
    (∃ r, shortEnd q cs = .closed r ∧ r <:+ cs ∧ OnWay whole ⟨.code, n, r ++ after⟩) ∨
      (shortEnd q cs = .goesOn ∧ OnWay whole ⟨.short q, n, after⟩) := by
  fun_induction shortEnd q cs with
  -- Where the string is found to be broken, the text does not close.
  | case1 =>
    rw [hnil rfl] at h
    exact absurd h.closes not_closes_short_nil
  | case2 r => exact absurd h.closes not_closes_short_newline
  | case3 r =>
    obtain rfl : r = [] := hcs.tail.ends rfl
    exact .inr ⟨rfl, h.move leads_short_escape⟩
  | case4 => exact absurd rfl hcs.tail.ne_return
  | case5 c r hnewline hreturn ih =>
    obtain ⟨rest, hend, hsuffix, hrest⟩ | hgoesOn :=
      ih hcs.tail.tail (hcs.tail.eq_nil hnewline) (h.move leads_short_escape)
    · exact .inl ⟨rest, hend, hsuffix.trans (List.suffix_append [_, _] r), hrest⟩
    · exact .inr hgoesOn
  | case6 =>
    rw [hcs.eq_nil (by decide) rfl] at h
    exact absurd h.closes not_closes_short_backslash
  | case7 r h1 h2 h3 h4 h5 => exact .inl ⟨r, rfl, List.suffix_cons q r, h.move (leads_short_end hq)⟩
  | case8 c r hnewline _ _ hescape hlast hc ih =>
    have hslash := ne_of_not_escape hescape hlast
    obtain ⟨rest, hend, hsuffix, hrest⟩ | hgoesOn :=
      ih hcs.tail (hcs.eq_nil hnewline) (h.move (leads_short_cons hslash hnewline hc))
    · exact .inl ⟨rest, hend, hsuffix.trans (List.suffix_cons c r), hrest⟩
    · exact .inr hgoesOn

theorem endsContinued_cons (h : endsContinued cs = true) : endsContinued (c :: cs) = true := by
  unfold endsContinued at h ⊢
  rw [List.reverse_cons]
  split at h <;> rename_i heq
  · simp [heq]
  · simp [heq]
  · cases h

/-- A string between single marks that started on a line before. -/
theorem onWay_shortEnd? (hq : isQuote q = true) (hcs : InLine after cs) (hnil : cs = [] → after = [])
    (h : OnWay whole ⟨.short q, n, cs ++ after⟩) :
    (∃ r, shortEnd? q cs = some r ∧ r <:+ cs ∧ OnWay whole ⟨.code, n, r ++ after⟩) ∨
      (shortEnd? q cs = none ∧ endsContinued cs = true ∧ OnWay whole ⟨.short q, n, after⟩) := by
  fun_induction shortEnd? q cs with
  | case1 =>
    rw [hnil rfl] at h
    exact absurd h.closes not_closes_short_nil
  | case2 r =>
    obtain rfl : r = [] := hcs.tail.ends rfl
    exact .inr ⟨rfl, rfl, h.move leads_short_escape⟩
  | case3 c r hc ih =>
    obtain ⟨rest, hend, hsuffix, hrest⟩ | ⟨hend, hcontinued, hgoesOn⟩ :=
      ih hcs.tail.tail (hcs.tail.eq_nil hc) (h.move leads_short_escape)
    · exact .inl ⟨rest, hend, hsuffix.trans (List.suffix_append [_, _] r), hrest⟩
    · exact .inr ⟨hend, endsContinued_cons (endsContinued_cons hcontinued), hgoesOn⟩
  | case4 =>
    rw [hcs.eq_nil (by decide) rfl] at h
    exact absurd h.closes not_closes_short_backslash
  | case5 r hescape hlast => exact .inl ⟨r, rfl, List.suffix_cons q r, h.move (leads_short_end hq)⟩
  | case6 c r hescape hlast hc ih =>
    have hslash := ne_of_not_escape hescape hlast
    have hnewline : c ≠ '\n' := by
      rintro rfl
      exact not_closes_short_newline h.closes
    obtain ⟨rest, hend, hsuffix, hrest⟩ | ⟨hend, hcontinued, hgoesOn⟩ :=
      ih hcs.tail (hcs.eq_nil hnewline) (h.move (leads_short_cons hslash hnewline hc))
    · exact .inl ⟨rest, hend, hsuffix.trans (List.suffix_cons c r), hrest⟩
    · exact .inr ⟨hend, endsContinued_cons hcontinued, hgoesOn⟩

end Parts

/-! ## The state of the scan -/

/-- What a string that goes on is for a text. -/
def OpenString.inside (o : OpenString) : Inside :=
  if o.isLong then .long o.quote else .short o.quote

/-- What a scan is in at the start of a line. -/
def Scan.inside (s : Scan) : Inside := (s.string.map OpenString.inside).getD .code

/-- The point of a text that a scan is at. -/
def Scan.point (s : Scan) (cs : List Char) : Point := ⟨s.inside, s.nesting.toNat, cs⟩

/-- A scan stands at the start of a line, on the way from the start of a text to its end. -/
structure Scan.Settled (whole : List Char) (s : Scan) (after : List Char) : Prop where
  nesting : 0 ≤ s.nesting
  quote : ∀ o ∈ s.string, isQuote o.quote = true
  strict : s.strict = s.string.any fun o => !o.isLong
  continued : s.continued = true → s.string = none ∧ after ≠ []
  onWay : OnWay whole (s.point after)

/-- A scan stands in the code of a line, on the way from the start of a text to its end. -/
structure Scan.InCode (whole : List Char) (s : Scan) (text : List Char) : Prop where
  string : s.string = none
  strict : s.strict = false
  continued : s.continued = false
  nesting : 0 ≤ s.nesting
  onWay : OnWay whole ⟨.code, s.nesting.toNat, text⟩

namespace Scan

variable {s : Scan} {number column fuel n : Nat} {whole line cs after rest text : List Char} {c q : Char}

theorem point_of_code (h : s.string = none) (cs : List Char) : s.point cs = ⟨.code, s.nesting.toNat, cs⟩ := by
  rw [point, inside, h]
  rfl

theorem point_of_string {o : OpenString} (h : s.string = some o) (cs : List Char) :
    s.point cs = ⟨o.inside, s.nesting.toNat, cs⟩ := by
  rw [point, inside, h]
  rfl

theorem InCode.settled (h : s.InCode whole text) : s.Settled whole text where
  nesting := h.nesting
  quote := by simp [h.string]
  strict := by simp [h.string, h.strict]
  continued := by simp [h.continued]
  onWay := by
    rw [point_of_code h.string]
    exact h.onWay

theorem InCode.move (h : s.InCode whole text)
    (hrest : Leads ⟨.code, s.nesting.toNat, text⟩ ⟨.code, s.nesting.toNat, rest⟩) : s.InCode whole rest :=
  { h with onWay := h.onWay.move hrest }

theorem InCode.comment (h : s.InCode whole text) (number : Nat) (before shown : List Char) :
    (s.comment number before shown).InCode whole text := by
  unfold Scan.comment
  split
  · exact { h with }
  · exact h

theorem InCode.opening (h : s.InCode whole (c :: text)) (hc : isOpening c = true) :
    { s with nesting := s.nesting + 1 }.InCode whole text where
  string := h.string
  strict := h.strict
  continued := h.continued
  nesting := by
    have := h.nesting
    dsimp only
    omega
  onWay := by
    rw [Int.toNat_add h.nesting (by decide)]
    exact h.onWay.move (leads_opening hc)

theorem InCode.closing (h : s.InCode whole (c :: text)) (hc : isClosing c = true) :
    { s with nesting := s.nesting - 1 }.InCode whole text := by
  obtain ⟨m, hopen⟩ := h.onWay.closes.closing hc
  have hway := h.onWay
  have hnesting : (s.nesting - 1).toNat = m := by omega
  rw [hopen] at hway
  refine ⟨h.string, h.strict, h.continued, ?_, ?_⟩
  · show 0 ≤ s.nesting - 1
    omega
  · rw [hnesting]
    exact hway.move (leads_closing hc)

/-- A string that starts in the line and goes on after it. -/
theorem InCode.goesOn {o : OpenString} {strict : Bool} (h : s.InCode whole text)
    (hq : isQuote o.quote = true) (hstrict : strict = !o.isLong)
    (hafter : OnWay whole ⟨o.inside, s.nesting.toNat, after⟩) :
    { s with string := some o, strict }.Settled whole after where
  nesting := h.nesting
  quote := by simpa using hq
  strict := by simpa using hstrict
  continued := by simp [h.continued]
  onWay := hafter

/-! ## One line -/

/-- What one step of the scan of a line can do: the line ends, or less of it is left. -/
inductive Scans (whole : List Char) (number : Nat) (line : List Char) (fuel : Nat) (cs after : List Char) :
    Scan → Prop
  | ended {s : Scan} : s.Settled whole after → Scans whole number line fuel cs after s
  | moved {s : Scan} {rest : List Char} : rest <:+ cs → rest.length < cs.length →
      s.InCode whole (rest ++ after) →
      Scans whole number line fuel cs after (scanRest number line fuel s rest)

theorem Scans.of_suffix {tokens : List Char} (hsuffix : tokens <:+ cs)
    (h : Scans whole number line fuel tokens after s) : Scans whole number line fuel cs after s := by
  cases h with
  | ended hs => exact .ended hs
  | moved hrest hlength hs =>
    exact .moved (hrest.trans hsuffix) (hlength.trans_le hsuffix.length_le) hs

/-- Plain characters are passed over. -/
theorem Scans.of_advances (hrest : Advances cs rest) (hs : s.InCode whole (cs ++ after)) :
    Scans whole number line fuel cs after (scanRest number line fuel s rest) :=
  .moved hrest.passes.suffix hrest.length_lt (hs.move ((hrest.passes.append after).leads _))

theorem drop_length_takeWhile (p : Char → Bool) (cs : List Char) :
    cs.drop (cs.takeWhile p).length = cs.dropWhile p := by
  induction cs with
  | nil => rfl
  | cons c r ih =>
    by_cases hc : p c = true
    · simpa [hc] using ih
    · simp [hc]

/-- A comment ends before the end of its line. -/
theorem leads_comment_part (hcs : InLine after cs) (hnil : cs = [] → after = []) :
    Leads ⟨.comment, n, cs ++ after⟩
      ⟨.code, n, (cs.dropWhile fun c => c != '\r' && c != '\n') ++ after⟩ := by
  induction cs with
  | nil =>
    rw [hnil rfl]
    exact .single rfl
  | cons c r ih =>
    by_cases hc : c = '\n'
    · rw [List.dropWhile_cons_of_neg (by simp [hc])]
      exact .single (by simp [Point.next_comment_cons, hc])
    · rw [List.dropWhile_cons_of_pos (by simp [hc, hcs.ne_return])]
      exact .head (by simp [Point.next_comment_cons, hc]) (ih hcs.tail (hcs.eq_nil hc))

/-- Behind a comment nothing is left of a line but its end. -/
theorem leads_lineEnd (hcs : InLine after cs) :
    Leads ⟨.code, n, (cs.dropWhile fun c => c != '\r' && c != '\n') ++ after⟩ ⟨.code, n, after⟩ := by
  induction cs with
  | nil => exact .refl
  | cons c r ih =>
    by_cases hc : c = '\n'
    · rw [hcs.ends hc, hc, List.dropWhile_cons_of_neg (by simp)]
      exact leads_newline
    · rw [List.dropWhile_cons_of_pos (by simp [hc, hcs.ne_return])]
      exact ih hcs.tail

theorem scans_comment (hcs : InLine after ('#' :: rest)) (hs : s.InCode whole ('#' :: rest ++ after))
    (before : List Char) :
    let text := ('#' :: rest).takeWhile fun c => c != '\r' && c != '\n'
    Scans whole number line fuel ('#' :: rest) after
      (scanRest number line fuel (s.comment number before text)
        (('#' :: rest).drop text.length)) := by
  intro text
  have hdrop : ('#' :: rest).drop text.length =
      rest.dropWhile fun c => c != '\r' && c != '\n' := by
    rw [drop_length_takeWhile, List.dropWhile_cons_of_pos (by decide)]
  have hsuffix := List.dropWhile_suffix (fun c => c != '\r' && c != '\n') (l := rest)
  rw [hdrop]
  refine .moved (hsuffix.trans (List.suffix_cons '#' rest)) (Nat.lt_succ_of_le hsuffix.length_le) ?_
  refine InCode.comment (hs.move (leads_hash.trans ?_)) number before text
  exact leads_comment_part hcs.tail (hcs.eq_nil (by decide))

/-- A line that is continued leaves the scan where the next one starts. -/
theorem scans_continued (hcs : InLine after ('\\' :: '\n' :: rest))
    (hs : s.InCode whole ('\\' :: '\n' :: rest ++ after)) :
    Scans whole number line fuel ('\\' :: '\n' :: rest) after
      (scanRest number line fuel { s with continued := true } rest) := by
  obtain rfl : rest = [] := hcs.tail.ends rfl
  have hended : scanRest number line fuel { s with continued := true } [] =
      { s with continued := true } := by
    cases fuel <;> rfl
  obtain ⟨_, hafter, hne⟩ := hs.onWay.closes.backslash
  cases hafter
  rw [hended]
  refine .ended { hs.settled with continued := fun _ => ⟨hs.string, hne⟩, onWay := ?_ }
  rw [point_of_code (s := { s with continued := true }) hs.string]
  exact hs.onWay.move (leads_continued hne)

/-- After a string that ends on its line the scan goes on in the line. -/
theorem Scans.after_string {body : List Char} (hopens : Passes cs (q :: body)) (hrest : rest <:+ body)
    (hs : s.InCode whole text) (hway : OnWay whole ⟨.code, s.nesting.toNat, rest ++ after⟩) :
    Scans whole number line fuel cs after (scanRest number line fuel s rest) := by
  have hsuffix : rest <:+ cs := hrest.trans ((List.suffix_cons q body).trans hopens.suffix)
  refine .moved hsuffix ?_ { hs with onWay := hway }
  have hopened := hopens.suffix.length_le
  have hlength := hrest.length_le
  rw [List.length_cons] at hopened
  omega

theorem scans_long (hq : isQuote q = true) (hcs : InLine after cs) (hs : s.InCode whole (cs ++ after))
    (hopens : Passes cs (q :: q :: q :: rest)) :
    Scans whole number line fuel cs after
      (match longEnd? q rest with
        | some rest => scanRest number line fuel s rest
        | none => { s with string := some ⟨q, true, number, column⟩ }) := by
  have hbody : rest <:+ cs := (List.suffix_append [q, q, q] rest).trans hopens.suffix
  have hstring := hs.onWay.move (((hopens.append after).leads _).trans (leads_long hq))
  obtain ⟨r, hend, hsuffix, hway⟩ | ⟨hend, hway⟩ := onWay_longEnd? hq (hcs.of_suffix hbody) hstring
  · rw [hend]
    exact .after_string hopens (hsuffix.trans (List.suffix_append [q, q] rest)) hs hway
  · rw [hend]
    exact .ended (hs.goesOn hq hs.strict hway)

theorem scans_short (hq : isQuote q = true) (hcs : InLine after cs) (hs : s.InCode whole (cs ++ after))
    (hopens : Passes cs (q :: rest)) (hmarks : rest.take 2 ≠ [q, q]) (single : Scan × List Char) :
    Scans whole number line fuel cs after
      (match shortEnd q rest with
        | .closed rest => scanRest number line fuel s rest
        | .goesOn => { s with string := some ⟨q, false, number, column⟩, strict := true }
        | .broken => scanRest number line fuel single.1 single.2) := by
  have hline := hcs.of_suffix hopens.suffix
  have hbody : rest <:+ cs := (List.suffix_cons q rest).trans hopens.suffix
  have hnewline : q ≠ '\n' := by
    rintro rfl
    cases hq
  have hstring := hs.onWay.move (((hopens.append after).leads _).trans
    (leads_short hq (mt (hline.take_append hq).mp hmarks)))
  obtain ⟨r, hend, hsuffix, hway⟩ | ⟨hend, hway⟩ :=
    onWay_shortEnd hq (hcs.of_suffix hbody) (hline.eq_nil hnewline) hstring
  · rw [hend]
    exact .after_string hopens hsuffix hs hway
  · rw [hend]
    exact .ended (hs.goesOn hq rfl hway)

/-- A backslash before anything but a line end does not stand in a text that closes. -/
theorem InCode.ne_backslash (hs : s.InCode whole (c :: rest ++ after)) (hcs : InLine after (c :: rest))
    (hcontinued : ∀ r, c = '\\' → rest = '\n' :: r → False) : c ≠ '\\' := by
  rintro rfl
  obtain ⟨r, hrest, -⟩ := hs.onWay.closes.backslash
  cases rest with
  | nil =>
    rw [hcs.eq_nil (by decide) rfl] at hrest
    cases hrest
  | cons d r =>
    cases hrest
    exact hcontinued r rfl rfl

/-- A word, a bracket or a sign. -/
theorem scans_single (hs : s.InCode whole (c :: rest ++ after)) (hhash : c ≠ '#') (hslash : c ≠ '\\')
    (hquote : isQuote c = false) :
    let word := (c :: rest).takeWhile isWord
    let single : Scan × List Char :=
      if !word.isEmpty then (s, (c :: rest).drop word.length)
      else if c = '(' || c = '[' || c = '\x7b' then ({ s with nesting := s.nesting + 1 }, rest)
      else if c = ')' || c = ']' || c = '\x7d' then ({ s with nesting := s.nesting - 1 }, rest)
      else (s, rest)
    Scans whole number line fuel (c :: rest) after (scanRest number line fuel single.1 single.2) := by
  intro word single
  have hsuffix := List.suffix_cons c rest
  have hlength : rest.length < (c :: rest).length := Nat.lt_succ_self _
  unfold single
  split
  · rename_i hword
    have hc : isWord c = true := by
      by_contra hc
      simp [word, hc] at hword
    have hadvances : Advances (c :: rest) ((c :: rest).drop word.length) := by
      refine ⟨c, rest, rfl, isPlain_of_isWord c hc, ?_⟩
      rw [drop_length_takeWhile, List.dropWhile_cons_of_pos hc]
      exact .dropWhile isPlain_of_isWord rest
    exact .of_advances hadvances hs
  · split
    · rename_i hopening
      exact .moved hsuffix hlength (hs.opening (by simpa [isOpening] using hopening))
    · rename_i hopening
      split
      · rename_i hclosing
        exact .moved hsuffix hlength (hs.closing (by simpa [isClosing] using hclosing))
      · rename_i hclosing
        refine .moved hsuffix hlength (hs.move ?_)
        by_cases hnewline : c = '\n'
        · rw [hnewline]
          exact leads_newline
        · refine leads_plain ?_
          simp only [isPlain, isOpening, isClosing, Bool.not_eq_true', Bool.or_eq_false_iff]
          simp_all

/-- A step inside a line. -/
theorem scans_step (number : Nat) (line : List Char) (fuel : Nat) (hcs : InLine after cs)
    (hs : s.InCode whole (cs ++ after)) :
    Scans whole number line fuel cs after (scanRest number line (fuel + 1) s cs) := by
  cases cs with
  | nil => exact .ended hs.settled
  | cons c r =>
    unfold scanRest
    have hspacing := Passes.dropWhile isPlain_of_isSpacing (c :: r)
    dsimp only
    generalize (c :: r).dropWhile isSpacing = tokens at hspacing
    have htokens := hs.move ((hspacing.append after).leads _)
    have hline := hcs.of_suffix hspacing.suffix
    refine Scans.of_suffix hspacing.suffix ?_
    split
    · exact .ended htokens.settled
    · exact scans_comment hline htokens _
    · exact scans_continued hline htokens
    · exact absurd rfl hline.tail.ne_return
    · -- A string, a number or a single sign; the scan looks for a string first.
      rename_i t rest hhash hcontinued _
      have hstart := opens_stringStart (t :: rest)
      generalize stringStart (t :: rest) = start at hstart
      cases hstart with
      | none hquote =>
        dsimp only
        cases hnumber : looseNumber? (t :: rest) with
        | some r =>
          exact .of_advances (advances_looseNumber? hnumber) htokens
        | none =>
          exact scans_single htokens hhash (htokens.ne_backslash hline hcontinued)
            (hquote t rfl)
      | long hq hopens => exact scans_long hq hline htokens hopens
      | short hq hopens hmarks => exact scans_short hq hline htokens hopens hmarks _

/-- The scan of what is left of a line ends where the next line starts. -/
theorem settled_scanRest (hfuel : cs.length < fuel) (hcs : InLine after cs)
    (hs : s.InCode whole (cs ++ after)) : (scanRest number line fuel s cs).Settled whole after := by
  induction fuel generalizing s cs with
  | zero => cases hfuel
  | succ fuel ih =>
    have hstep := scans_step number line fuel hcs hs
    generalize scanRest number line (fuel + 1) s cs = result at hstep
    cases hstep with
    | ended hsettled => exact hsettled
    | moved hsuffix hlength hmoved => exact ih (by omega) (hcs.of_suffix hsuffix) hmoved

theorem Settled.not_continued {o : OpenString} (hs : s.Settled whole text) (ho : s.string = some o) :
    s.continued = false := by
  cases hc : s.continued with
  | false => rfl
  | true =>
    rw [(hs.continued hc).1] at ho
    cases ho

/-- A string that ends leaves the scan in code. -/
theorem Settled.ended {o : OpenString} (hs : s.Settled whole text) (ho : s.string = some o)
    (hrest : OnWay whole ⟨.code, s.nesting.toNat, rest⟩) :
    { s with string := none, strict := false }.InCode whole rest where
  string := rfl
  strict := rfl
  continued := hs.not_continued ho
  nesting := hs.nesting
  onWay := hrest

/-- A string that goes on leaves the scan in it. -/
theorem Settled.goesOn {o : OpenString} (hs : s.Settled whole text) (ho : s.string = some o)
    (hafter : OnWay whole ⟨o.inside, s.nesting.toNat, after⟩) : s.Settled whole after where
  nesting := hs.nesting
  quote := hs.quote
  strict := hs.strict
  continued := by simp [hs.not_continued ho]
  onWay := by
    rw [point_of_string ho]
    exact hafter

/-- The scan of a line that starts inside a string. -/
theorem settled_scanString {o : OpenString} (hline : InLine after line) (hnil : line ≠ [])
    (ho : s.string = some o) (hs : s.Settled whole (line ++ after)) :
    (scanString s o number line).Settled whole after := by
  have hq : isQuote o.quote = true := hs.quote o ho
  have hway := hs.onWay
  have hstrict := hs.strict
  rw [point_of_string ho] at hway
  rw [ho, Option.any_some] at hstrict
  -- Where the string ends on the line, the rest of the line is scanned as code.
  have hends : ∀ r, r <:+ line → OnWay whole ⟨.code, s.nesting.toNat, r ++ after⟩ →
      (scanRest number line (line.length + 1) { s with string := none, strict := false } r).Settled
        whole after := fun r hsuffix hr =>
    settled_scanRest (Nat.lt_succ_of_le hsuffix.length_le) (hline.of_suffix hsuffix) (hs.ended ho hr)
  unfold scanString
  cases hlong : o.isLong with
  | true =>
    rw [OpenString.inside, if_pos hlong] at hway
    obtain ⟨r, hend, hsuffix, hr⟩ | ⟨hend, hafter⟩ := onWay_longEnd? hq hline hway
    · simp only [if_true, hend]
      exact hends r hsuffix hr
    · simp only [if_true, hend, hstrict, hlong]
      exact hs.goesOn ho (by rwa [OpenString.inside, if_pos hlong])
  | false =>
    rw [OpenString.inside, if_neg (by simp [hlong])] at hway
    obtain ⟨r, hend, hsuffix, hr⟩ | ⟨hend, hcontinued, hafter⟩ :=
      onWay_shortEnd? hq hline (fun h => absurd h hnil) hway
    · simp only [Bool.false_eq_true, if_false, hend]
      exact hends r hsuffix hr
    · simp only [Bool.false_eq_true, if_false, hend, hcontinued, Bool.not_true, Bool.and_false]
      exact hs.goesOn ho (by rwa [OpenString.inside, if_neg (by simp [hlong])])

theorem passes_lineMargin (width : Nat) (cs : List Char) : Passes cs (lineMargin width cs).2 := by
  fun_induction lineMargin width cs with
  | case1 width r ih => exact .cons (by decide) ih
  | case2 width r ih => exact .cons (by decide) ih
  | case3 width r ih => exact .cons (by decide) ih
  | case4 => exact .refl _

/-- A scan that is in no string goes on in code. -/
theorem Settled.inCode (hs : s.Settled whole text) (hstring : s.string = none) :
    { s with continued := false }.InCode whole text where
  string := hstring
  strict := by simpa [hstring] using hs.strict
  continued := rfl
  nesting := hs.nesting
  onWay := by
    rw [← point_of_code hstring]
    exact hs.onWay

/-- The scan of a line leaves the scan at the start of the next, or its margin is at fault. -/
theorem settled_scanLine (number : Nat) (hline : InLine after line) (hnil : line ≠ [])
    (hs : s.Settled whole (line ++ after)) :
    (∃ s', scanLine s number line = .ok s' ∧ s'.Settled whole after) ∨
      scanLine s number line = .error (.invalid number) := by
  unfold scanLine
  split
  · rename_i o ho
    exact .inl ⟨_, rfl, settled_scanString hline hnil ho hs⟩
  · rename_i hstring
    have hcode := hs.inCode hstring
    split
    · exact .inl ⟨_, rfl, settled_scanRest (Nat.lt_succ_self _) hline hcode⟩
    · rename_i hstart
      have hcontinued : s.continued = false := by
        simp only [Bool.or_eq_true, not_or, Bool.not_eq_true] at hstart
        exact hstart.2
      have hcode : s.InCode whole (line ++ after) := { hcode with continued := hcontinued }
      -- The margin is blank, so that the way through it stays in code.
      have hmargin := passes_lineMargin 0 line
      have hrest := hcode.move ((hmargin.append after).leads _)
      have hinLine := hline.of_suffix hmargin.suffix
      generalize lineMargin 0 line = margin at hmargin hrest hinLine
      obtain ⟨width, rest⟩ := margin
      cases rest with
      | nil => exact .inl ⟨s, rfl, hrest.settled⟩
      | cons c r =>
        dsimp only
        split
        · rename_i hc
          subst hc
          have hafter := hrest.move (leads_hash.trans ((leads_comment_part hinLine.tail
            (hinLine.eq_nil (by decide))).trans (leads_lineEnd hinLine.tail)))
          exact .inl ⟨_, rfl, (hafter.comment _ _ _).settled⟩
        · split
          · rename_i hc
            have hc : c = '\n' := by simpa [hinLine.ne_return] using hc
            obtain rfl : r = [] := hinLine.ends hc
            subst hc
            exact .inl ⟨s, rfl, (hrest.move leads_newline).settled⟩
          · split
            · exact .inr rfl
            · refine .inl ⟨_, rfl, settled_scanRest ?_ hinLine { hrest with }⟩
              exact Nat.lt_succ_of_le hmargin.suffix.length_le

end Scan

/-! ## All lines -/

section Lines

variable {s : Scan} {whole body acc after cs text : List Char}

theorem feedLinesFrom_append (hbody : '\n' ∉ body) :
    feedLinesFrom acc (body ++ '\n' :: after) = (acc.reverse ++ body ++ ['\n']) :: feedLines after := by
  induction body generalizing acc with
  | nil =>
    rw [List.nil_append, feedLinesFrom]
    simp [feedLines]
  | cons c r ih =>
    rw [List.cons_append, feedLinesFrom, ih (List.not_mem_of_not_mem_cons hbody)]
    · simp
    · exact (List.ne_of_not_mem_cons hbody).symm

theorem feedLinesFrom_of_not_mem (hbody : '\n' ∉ body) (hnil : acc ++ body ≠ []) :
    feedLinesFrom acc body = [acc.reverse ++ body] := by
  induction body generalizing acc with
  | nil =>
    have hacc : acc ≠ [] := by simpa using hnil
    simp [feedLinesFrom, hacc]
  | cons c r ih =>
    rw [feedLinesFrom, ih (List.not_mem_of_not_mem_cons hbody) (by simp)]
    · simp
    · exact (List.ne_of_not_mem_cons hbody).symm

theorem inLine_append {ending : List Char} (hreturn : '\r' ∉ body) (hnewline : '\n' ∉ body)
    (hending : InLine after ending) (hlast : ending = [] → after = []) :
    InLine after (body ++ ending) := by
  induction body with
  | nil => exact hending
  | cons c r ih =>
    refine ⟨(List.ne_of_not_mem_cons hreturn).symm, fun h => ?_, fun h => ?_, ?_⟩
    · exact absurd h (List.ne_of_not_mem_cons hnewline).symm
    · exact .inr (hlast (List.append_eq_nil_iff.mp h).2)
    · exact ih (List.not_mem_of_not_mem_cons hreturn) (List.not_mem_of_not_mem_cons hnewline)

/-- The first line of a text, and the text after it. -/
theorem feedLines_eq_cons (htext : text ≠ []) (hreturn : '\r' ∉ text) :
    ∃ line after, text = line ++ after ∧ line ≠ [] ∧ InLine after line ∧
      feedLines text = line :: feedLines after := by
  by_cases hnewline : '\n' ∈ text
  · obtain ⟨body, after, rfl, hbody⟩ := List.eq_append_cons_of_mem hnewline
    have hreturn : '\r' ∉ body := fun h => hreturn (List.mem_append_left _ h)
    refine ⟨body ++ ['\n'], after, by simp, by simp, ?_, feedLinesFrom_append hbody⟩
    exact inLine_append hreturn hbody (by simp [InLine]) (by simp)
  · refine ⟨text, [], by simp, htext, ?_, ?_⟩
    · have hending : InLine [] [] := trivial
      simpa using inLine_append hreturn hnewline hending fun _ => rfl
    · exact feedLinesFrom_of_not_mem hnewline (by simpa using htext)

/-- Where nothing is left of a text that closes, nothing is open. -/
theorem Scan.Settled.at_end (hs : s.Settled whole []) :
    s.string = none ∧ s.nesting = 0 ∧ s.continued = false := by
  have hcloses := hs.onWay.closes
  have hstring : s.string = none := by
    rw [Option.eq_none_iff_forall_ne_some]
    intro o ho
    rw [Scan.point_of_string ho, OpenString.inside] at hcloses
    split at hcloses
    · exact not_closes_long_nil hcloses
    · exact not_closes_short_nil hcloses
  refine ⟨hstring, ?_, ?_⟩
  · rw [Scan.point_of_code hstring] at hcloses
    rcases hcloses.goesOn with hend | ⟨_, hnext⟩
    · have hdepth : s.nesting.toNat = 0 := congrArg Point.depth hend
      have hnesting := hs.nesting
      omega
    · cases hnext
  · cases hcontinued : s.continued with
    | false => rfl
    | true => exact absurd rfl (hs.continued hcontinued).2

/-- A scan that stands where its text closes reads the text to its end, or finds a line whose margin is
at fault. -/
theorem scanLines_of_settled (number : Nat) (hreturn : '\r' ∉ text) (hs : s.Settled whole text) :
    (∃ s', scanLines s number (feedLines text) = .ok s') ∨
      ∃ line, scanLines s number (feedLines text) = .error (.invalid line) := by
  -- By the number of characters left: a line is never empty.
  induction hlength : text.length using Nat.strongRecOn generalizing s number text with
  | ind length ih =>
    by_cases htext : text = []
    · subst htext
      obtain ⟨hstring, hnesting, hcontinued⟩ := hs.at_end
      refine .inl ⟨s, ?_⟩
      have hnone : feedLines [] = [] := rfl
      rw [hnone, scanLines]
      simp [hstring, hnesting, hcontinued]
    · obtain ⟨line, after, rfl, hline, hinLine, hfeed⟩ := feedLines_eq_cons htext hreturn
      rw [hfeed, scanLines]
      obtain ⟨s', hscan, hsettled⟩ | hscan := Scan.settled_scanLine number hinLine hline hs
      · rw [hscan]
        refine ih after.length ?_ (number + 1) (fun h => hreturn (List.mem_append_right _ h)) hsettled rfl
        have := List.length_pos_iff.mpr hline
        simp only [List.length_append] at hlength
        omega
      · rw [hscan]
        exact .inr ⟨number, rfl⟩

/-- A scan starts at the start of the way. -/
theorem Scan.settled_start (h : Point.Closes ⟨.code, 0, text⟩) : ({} : Scan).Settled text text :=
  InCode.settled ⟨rfl, rfl, rfl, by decide, .refl, h⟩

end Lines

/-- The scan for comments refuses a text that closes only for the margin of a line. -/
theorem comments_of_closes {source : String} (hreturn : '\r' ∉ source.toList)
    (h : Point.Closes ⟨.code, 0, source.toList⟩) :
    (∃ found, comments source = .ok found) ∨ ∃ line, comments source = .error (.invalid line) := by
  unfold comments
  obtain ⟨s', hscan⟩ | ⟨line, hscan⟩ := scanLines_of_settled 1 hreturn (Scan.settled_start h)
  · rw [hscan]
    exact .inl ⟨_, rfl⟩
  · rw [hscan]
    exact .inr ⟨line, rfl⟩

end ApiDirectives.Source
