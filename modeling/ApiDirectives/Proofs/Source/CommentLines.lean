import ApiDirectives.Proofs.Source.Comments
import ApiDirectives.Proofs.Source.TokenLines

/-!
# The lines of comments

A comment that has its line for itself and a token that is no layout stand on the same way through the
text. The way goes along the comment's line from its start: through blanks, over the sign, and then to the
end of the line. So no such token is on the line of a comment.
-/

namespace ApiDirectives.Source

open ApiDirectives.Text

/-! ## Along the line of a comment -/

section Lines

variable {n m : Nat} {before cs rest text : List Char}

/-- A blank is passed over. -/
theorem next_blank {c : Char} (h : isBlank c = true) :
    Point.next ⟨.code, n, c :: rest⟩ = some ⟨.code, n, rest⟩ := by
  refine next_code ?_
  by_cases hc : c = '\n'
  · exact .inr hc
  · refine .inl (isPlain_iff.mpr fun hspecial => ?_)
    have hspecials : specials.all (fun c => !isBlank c || c == '\n') = true := by decide
    simpa [h, hc] using List.all_eq_true.mp hspecials c hspecial

/-- No token starts in a comment, or where the comment ends. -/
theorem count_lt_of_comment (hstarts : Starts cs) (h : Leads ⟨.comment, n, rest⟩ ⟨.code, m, cs⟩) :
    cs.count '\n' < rest.count '\n' := by
  obtain ⟨d, s, rfl, hblank, -⟩ := hstarts
  induction rest with
  | nil =>
    rcases Relation.ReflTransGen.cases_head h with heq | ⟨p, hnext, h⟩
    · cases heq
    · cases hnext
      have hsuffix := Leads.suffix h
      rw [List.suffix_nil] at hsuffix
      cases hsuffix
  | cons c r ih =>
    rcases Relation.ReflTransGen.cases_head h with heq | ⟨p, hnext, h⟩
    · cases heq
    · simp only [Point.next_comment_cons] at hnext
      split at hnext
      · rename_i hc
        subst hc
        cases hnext
        -- Behind the comment stands the end of its line, where no token starts.
        rcases Relation.ReflTransGen.cases_head h with heq | ⟨p, hnext, h⟩
        · cases heq
          cases hblank
        · cases hnext
          have hcount := (Leads.suffix h).sublist.count_le '\n'
          rw [List.count_cons_self]
          exact Nat.lt_succ_of_le hcount
      · rename_i hc
        cases hnext
        rw [List.count_cons_of_ne hc]
        exact ih h

/-- No token starts on a line whose first character that is no blank is the sign of a comment. -/
theorem count_lt_of_sign (hstarts : Starts cs) (hbefore : ∀ b ∈ before, isBlank b = true)
    (h : Leads ⟨.code, n, before ++ '#' :: rest⟩ ⟨.code, m, cs⟩) :
    cs.count '\n' < (before ++ '#' :: rest).count '\n' := by
  induction before with
  | nil =>
    rcases Relation.ReflTransGen.cases_head h with heq | ⟨p, hnext, h⟩
    · cases heq
      obtain ⟨_, _, hcs, -, hsign⟩ := hstarts
      cases hcs
      exact absurd rfl hsign
    · cases hnext
      have hcount := count_lt_of_comment hstarts h
      rwa [List.nil_append, List.count_cons_of_ne (by decide)]
  | cons b before ih =>
    obtain ⟨hb, hbefore⟩ := List.forall_mem_cons.mp hbefore
    rw [List.cons_append] at h ⊢
    rcases Relation.ReflTransGen.cases_head h with heq | ⟨p, hnext, h⟩
    · cases heq
      obtain ⟨_, _, hcs, hblank, -⟩ := hstarts
      cases hcs
      rw [hb] at hblank
      cases hblank
    · rw [next_blank hb] at hnext
      cases hnext
      exact (ih hbefore h).trans_le ((List.sublist_cons_self _ _).count_le '\n')

end Lines

/-! ## Where comments begin -/

/-- A part of a text that is its end, from the start of a line on. -/
def StartsLine (whole cs : List Char) : Prop :=
  ∃ before, whole = before ++ cs ∧ (before = [] ∨ ∃ b, before = b ++ ['\n'])

/-- The line of a comment, with all that follows it: the way through the text comes to its start, which
is in code, and nothing but blanks stands before the sign. -/
structure Begins (whole : List Char) (c : Comment) (cs : List Char) : Prop where
  reached : ∃ n, Leads ⟨.code, 0, whole⟩ ⟨.code, n, cs⟩
  sign : ∃ before rest, cs = before ++ '#' :: rest ∧ ∀ b ∈ before, isBlank b = true
  number : c.line + cs.count '\n' = 1 + whole.count '\n'
  start : StartsLine whole cs

section Begin

variable {whole cs text : List Char} {c : Comment} {t : Token}

/-- What is longer than the rest of a text from the start of a line on has one more line end. -/
theorem StartsLine.count_lt {more : List Char} (h : StartsLine whole cs) (hmore : more <:+ whole)
    (hcs : cs <:+ more) (hne : more ≠ cs) : cs.count '\n' < more.count '\n' := by
  obtain ⟨before, rfl, hstart⟩ := h
  obtain ⟨run, rfl⟩ := hcs
  obtain ⟨first, hfirst⟩ := hmore
  rw [← List.append_assoc] at hfirst
  have hbefore := List.append_cancel_right hfirst
  have hrun : run ≠ [] := by
    rintro rfl
    exact hne rfl
  obtain ⟨b, hb⟩ := hstart.resolve_left (by rw [← hbefore]; simp [hrun])
  -- The run ends as what stands before the line does.
  rw [hb, ← List.dropLast_append_getLast hrun, ← List.append_assoc] at hbefore
  have hlast := (List.append_inj_right' hbefore rfl)
  have hmem : '\n' ∈ run := by
    rw [← List.dropLast_append_getLast hrun, hlast]
    simp
  have := List.count_pos_iff.mpr hmem
  rw [List.count_append]
  omega

/-- No token with a text is on the line of a comment. -/
theorem Begins.line_ne (h : Begins whole c cs) (ht : Placed ⟨.code, 0, whole⟩ 1 t) : c.line ≠ t.line := by
  intro heq
  obtain ⟨n, hreached⟩ := h.reached
  obtain ⟨before, rest, rfl, hblank⟩ := h.sign
  obtain ⟨m, ds, hplaced, hstarts, hline⟩ := ht
  have hcount : ds.count '\n' = (before ++ '#' :: rest).count '\n' := by
    have hnumber := h.number
    dsimp only at hline
    omega
  -- The token comes behind the start of the line, or before it.
  rcases Leads.total hreached hplaced with hbehind | hahead
  · exact absurd hcount (count_lt_of_sign hstarts hblank hbehind).ne
  · have hsuffix : before ++ '#' :: rest <:+ ds := Leads.suffix hahead
    have hwhole : ds <:+ whole := Leads.suffix hplaced
    by_cases hsame : ds = before ++ '#' :: rest
    · obtain ⟨d, r, rfl, hdark, hsign⟩ := hstarts
      cases before with
      | nil =>
        cases hsame
        exact hsign rfl
      | cons b before =>
        cases hsame
        rw [hblank d List.mem_cons_self] at hdark
        cases hdark
    · exact absurd hcount (h.start.count_lt hwhole hsuffix hsame).ne'

/-- One line feed more at the end of a text is behind its comments. -/
theorem Begins.fed (hlast : ¬ ['\n'] <:+ whole) (h : Begins whole c cs) :
    Begins (whole ++ ['\n']) c (cs ++ ['\n']) where
  reached := by
    obtain ⟨n, hn⟩ := h.reached
    exact ⟨n, Leads.fed hlast hn⟩
  sign := by
    obtain ⟨before, rest, rfl, hblank⟩ := h.sign
    exact ⟨before, rest ++ ['\n'], by simp, hblank⟩
  number := by
    have hnumber := h.number
    simp only [List.count_append]
    omega
  start := by
    obtain ⟨before, rfl, hstart⟩ := h.start
    exact ⟨before, by simp, hstart⟩

/-- A line ends in its only line feed, if anything comes after. -/
theorem InLine.ending {after line : List Char} (h : InLine after line) (hline : line ≠ []) :
    after = [] ∨ ∃ body, '\n' ∉ body ∧ line = body ++ ['\n'] := by
  induction line with
  | nil => exact absurd rfl hline
  | cons c r ih =>
    by_cases hr : r = []
    · subst hr
      by_cases hc : c = '\n'
      · exact .inr ⟨[], by simp, by rw [hc]; rfl⟩
      · exact .inl (h.eq_nil hc rfl)
    · refine (ih h.tail hr).imp_right ?_
      rintro ⟨body, hbody, rfl⟩
      refine ⟨c :: body, ?_, rfl⟩
      rw [List.mem_cons, not_or]
      exact ⟨fun hc => hr (h.ends hc.symm), hbody⟩

/-- The comments that a scan of lines adds begin on the way through the text. -/
theorem begins_of_scanLines {s s' : Scan} {number : Nat} (hreturn : '\r' ∉ text) (hs : s.Settled whole text)
    (hat : text = [] ∨ number + text.count '\n' = 1 + whole.count '\n' ∧ StartsLine whole text)
    (h : scanLines s number (feedLines text) = .ok s') :
    ∀ c ∈ s'.comments, c ∈ s.comments ∨ ∃ cs, Begins whole c cs := by
  -- On the length of what is left: a step takes a whole line off it, and the scan is settled in between.
  induction hlength : text.length using Nat.strongRecOn generalizing s number text with
  | ind length ih =>
    by_cases htext : text = []
    · subst htext
      have hsame : s'.comments = s.comments := by
        rw [show feedLines [] = [] from rfl, scanLines] at h
        split at h
        · cases h
        · split at h <;> cases h
          rfl
      intro c hc
      exact .inl (hsame ▸ hc)
    · obtain ⟨line, after, rfl, hline, hinLine, hfeed⟩ := feedLines_eq_cons htext hreturn
      obtain ⟨hnumber, hstart⟩ := hat.resolve_left htext
      have hfeeds : EndsAtFeed line := endsAtFeed_of_mem_feedLinesFrom List.not_mem_nil
        (show line ∈ feedLines (line ++ after) by rw [hfeed]; exact List.mem_cons_self)
      rw [hfeed, scanLines] at h
      obtain ⟨s₁, hscan, hsettled⟩ | hscan := Scan.settled_scanLine number hinLine hline hs
      · rw [hscan] at h
        have hnext : after = [] ∨
            number + 1 + after.count '\n' = 1 + whole.count '\n' ∧ StartsLine whole after := by
          refine (hinLine.ending hline).imp_right ?_
          rintro ⟨body, hbody, rfl⟩
          obtain ⟨before, hbefore, -⟩ := hstart
          refine ⟨?_, before ++ (body ++ ['\n']), ?_, .inr ⟨before ++ body, (List.append_assoc _ _ _).symm⟩⟩
          · rw [List.count_append, List.count_append, List.count_eq_zero_of_not_mem hbody] at hnumber
            simp at hnumber
            omega
          · rw [hbefore, List.append_assoc before]
        have hlength : after.length < length := by
          have := List.length_pos_iff.mpr hline
          rw [List.length_append] at hlength
          omega
        have hadded := ih after.length hlength (fun h => hreturn (List.mem_append_right _ h)) hsettled hnext h rfl
        intro c hc
        refine (hadded c hc).elim (fun hc => ?_) .inr
        rcases Scan.comments_scanLine hfeeds hscan with hsame | ⟨hstring, text, hon, hone⟩
        · exact .inl (hsame ▸ hc)
        · rw [hone] at hc
          rcases List.mem_cons.mp hc with rfl | hc
          · refine .inr ⟨line ++ after, ?_, ?_, hnumber, hstart⟩
            · have hway := hs.onWay.reached
              rw [Scan.point_of_code (hstring hs.quote)] at hway
              exact ⟨_, hway⟩
            · obtain ⟨before, shown, rest, rfl, hblank, -⟩ := hon
              exact ⟨before, shown ++ rest ++ after, by simp, List.all_eq_true.mp hblank⟩
          · exact .inl hc
      · rw [hscan] at h
        cases h

/-- In a module, no token with a text is on the line of a comment. -/
theorem comment_line_ne {source : String} {found : List Comment} {tree : Tree} (hreturn : '\r' ∉ source.toList)
    (htree : parseModule source.toList = .ok tree) (hcomments : comments source = .ok found)
    (hc : c ∈ found) (ht : t ∈ tree.tokens) (hsolid : t.isLayout = false) : c.line ≠ t.line := by
  have hplaced := (placed_of_parseModule htree t ht).resolve_left (by rw [hsolid]; decide)
  obtain ⟨cs, hbegins⟩ : ∃ cs, Begins source.toList c cs := by
    unfold comments at hcomments
    cases hs : scanLines {} 1 (feedLines source.toList) with
    | error e =>
      rw [hs] at hcomments
      cases hcomments
    | ok s =>
      rw [hs] at hcomments
      cases hcomments
      have hsettled := Scan.settled_start (closes_of_parseModule hreturn htree)
      have hbegins := begins_of_scanLines hreturn hsettled (.inr ⟨rfl, [], rfl, .inl rfl⟩) hs
      exact (hbegins c (List.mem_reverse.mp hc)).resolve_left List.not_mem_nil
  rcases endedLines_eq hreturn with heq | ⟨heq, hlast⟩
  · rw [heq] at hplaced
    exact hbegins.line_ne hplaced
  · rw [heq] at hplaced
    exact (hbegins.fed hlast).line_ne hplaced

end Begin

end ApiDirectives.Source
