import ApiDirectives.Proofs.Source.Scan
import ApiDirectives.Proofs.Text.Lines

/-!
# Where comments stand

Whatever text is scanned, a comment that is found stands on the line it is said to stand on: nothing but
blanks comes before its sign, it reaches to the end of the line, and its text is what follows the sign.
A line has at most one such comment, since its sign is no blank for anything after it. So the comments of
a source come with growing line numbers.
-/

namespace ApiDirectives.Source

open ApiDirectives.Text

/-! ## Parts of a line -/

section Suffixes

variable {q : Char} {cs r : List Char}

/-- A string between triple marks ends behind such a mark. -/
theorem append_of_longEnd? (h : longEnd? q cs = some r) : ∃ taken, cs = taken ++ r ∧ q ∈ taken := by
  fun_induction longEnd? q cs with
  | case1 => cases h
  | case2 => cases h
  | case3 c s _ ih =>
    obtain ⟨taken, rfl, hq⟩ := ih h
    exact ⟨'\\' :: c :: taken, rfl, List.mem_cons_of_mem _ (List.mem_cons_of_mem _ hq)⟩
  | case4 => cases h
  | case5 c s _ _ hmarks =>
    simp only [Bool.and_eq_true, decide_eq_true_eq] at hmarks
    cases h
    refine ⟨c :: s.take 2, ?_, by rw [hmarks.1]; exact List.mem_cons_self⟩
    rw [List.cons_append, List.take_append_drop]
  | case6 c s _ _ _ ih =>
    obtain ⟨taken, rfl, hq⟩ := ih h
    exact ⟨c :: taken, rfl, List.mem_cons_of_mem _ hq⟩

/-- A string between single marks ends behind such a mark. -/
theorem append_of_shortEnd? (h : shortEnd? q cs = some r) : ∃ taken, cs = taken ++ r ∧ q ∈ taken := by
  fun_induction shortEnd? q cs with
  | case1 => cases h
  | case2 => cases h
  | case3 c s _ ih =>
    obtain ⟨taken, rfl, hq⟩ := ih h
    exact ⟨'\\' :: c :: taken, rfl, List.mem_cons_of_mem _ (List.mem_cons_of_mem _ hq)⟩
  | case4 => cases h
  | case5 s =>
    cases h
    exact ⟨[q], rfl, List.mem_cons_self⟩
  | case6 c s _ _ _ ih =>
    obtain ⟨taken, rfl, hq⟩ := ih h
    exact ⟨c :: taken, rfl, List.mem_cons_of_mem _ hq⟩

theorem suffix_of_shortEnd (h : shortEnd q cs = .closed r) : r <:+ cs := by
  fun_induction shortEnd q cs with
  | case1 => cases h
  | case2 => cases h
  | case3 => cases h
  | case4 => cases h
  | case5 c s _ _ ih => exact (ih h).trans (List.suffix_append ['\\', c] s)
  | case6 => cases h
  | case7 s =>
    cases h
    exact List.suffix_cons q _
  | case8 c s _ _ _ _ _ _ ih => exact (ih h).trans (List.suffix_cons c s)

/-- What stands before a part that reaches to the end of a text. -/
def lead (line cs : List Char) : List Char := line.take (line.length - cs.length)

theorem lead_of_append (before cs : List Char) : lead (before ++ cs) cs = before := by
  simp [lead]

theorem lead_append {line : List Char} (h : cs <:+ line) : lead line cs ++ cs = line := by
  obtain ⟨before, rfl⟩ := h
  rw [lead_of_append]

/-- The shorter a part at the end is, the more stands before it. -/
theorem prefix_lead {line : List Char} (h : r <:+ cs) : lead line cs <+: lead line r := by
  have hlength := h.length_le
  exact List.take_prefix_take_left (by omega)

end Suffixes

/-! ## One line -/

/-- The text of a comment that has a line for itself: blanks, the sign and what follows it up to the end
of the line. -/
def StandsOn (text : String) (line : List Char) : Prop :=
  ∃ before shown rest, line = before ++ '#' :: shown ++ rest ∧ before.all isBlank = true ∧
    text = commentText ('#' :: shown) ∧ '\n' ∉ shown ∧ ∀ c ∈ rest.head?, c = '\r' ∨ c = '\n'

/-- A line feed stands at the end of a line only. -/
def EndsAtFeed (line : List Char) : Prop := ∀ before rest, line = before ++ '\n' :: rest → rest = []

/-- A comment has no character that its line lacks. -/
theorem mem_of_standsOn {text : String} {line : List Char} {c : Char} (h : StandsOn text line)
    (hc : c ∈ text.toList) : c ∈ line := by
  obtain ⟨before, shown, rest, rfl, -, rfl, -⟩ := h
  have hshown : c ∈ shown := by
    unfold commentText at hc
    rw [List.drop_one, List.tail_cons] at hc
    split at hc
    · rw [String.toList_ofList] at hc
      exact List.mem_cons_of_mem _ hc
    · rwa [String.toList_ofList] at hc
  simp [hshown]

namespace Scan

variable {s : Scan} {number fuel : Nat} {line cs after : List Char}

/-- What one step of the scan of a line does to the comments: nothing, or it may add the one at the front
of what is left. -/
inductive Walks (number : Nat) (line : List Char) (fuel : Nat) (s : Scan) (cs : List Char) : Scan → Prop
  | ended {s' : Scan} : s'.comments = s.comments → Walks number line fuel s cs s'
  | moved {s' : Scan} {rest : List Char} : rest <:+ cs → s'.comments = s.comments →
      Walks number line fuel s cs (scanRest number line fuel s' rest)
  | commented {r : List Char} : '#' :: r <:+ cs →
      Walks number line fuel s cs
        (scanRest number line fuel
          (s.comment number (lead line ('#' :: r)) ('#' :: r.takeWhile fun c => c != '\r' && c != '\n'))
          (r.dropWhile fun c => c != '\r' && c != '\n'))

theorem Walks.of_suffix {tokens : List Char} {s' : Scan} (hsuffix : tokens <:+ cs)
    (h : Walks number line fuel s tokens s') : Walks number line fuel s cs s' := by
  cases h with
  | ended hs => exact .ended hs
  | moved hrest hs => exact .moved (hrest.trans hsuffix) hs
  | commented hr => exact .commented (hr.trans hsuffix)

theorem walks_step (number : Nat) (line : List Char) (fuel : Nat) (s : Scan) (cs : List Char) :
    Walks number line fuel s cs (scanRest number line (fuel + 1) s cs) := by
  cases cs with
  | nil => exact .ended rfl
  | cons c r =>
    unfold scanRest
    dsimp only
    refine Walks.of_suffix (List.dropWhile_suffix isSpacing) ?_
    generalize (c :: r).dropWhile isSpacing = tokens
    split
    · exact .ended rfl
    · rename_i rest
      rw [drop_length_takeWhile, List.takeWhile_cons_of_pos (by decide),
        List.dropWhile_cons_of_pos (by decide)]
      exact .commented List.suffix_rfl
    · rename_i rest
      exact .moved (List.suffix_append ['\\', '\n'] rest) rfl
    · rename_i rest
      exact .moved (List.suffix_append ['\\', '\r', '\n'] rest) rfl
    · rename_i t rest _ _ _
      -- What is no string is a number, a word, a bracket or any other sign.
      have hrest := List.suffix_cons t rest
      have hsingle : ∀ single : Scan × List Char,
          single = (if !((t :: rest).takeWhile isWord).isEmpty then
              (s, (t :: rest).drop ((t :: rest).takeWhile isWord).length)
            else if t = '(' || t = '[' || t = '\x7b' then ({ s with nesting := s.nesting + 1 }, rest)
            else if t = ')' || t = ']' || t = '\x7d' then ({ s with nesting := s.nesting - 1 }, rest)
            else (s, rest)) →
          single.2 <:+ t :: rest ∧ single.1.comments = s.comments := by
        rintro single rfl
        split
        · exact ⟨List.drop_suffix _ _, rfl⟩
        · split
          · exact ⟨hrest, rfl⟩
          · split
            · exact ⟨hrest, rfl⟩
            · exact ⟨hrest, rfl⟩
      have hstart := opens_stringStart (t :: rest)
      generalize stringStart (t :: rest) = start at hstart
      cases hstart with
      | none _ =>
        dsimp only
        cases hnumber : looseNumber? (t :: rest) with
        | some r => exact .moved (advances_looseNumber? hnumber).passes.suffix rfl
        | none => exact .moved (hsingle _ rfl).1 (hsingle _ rfl).2
      | @long q body _ hopens =>
        have hbody : body <:+ t :: rest := (List.suffix_append [q, q, q] body).trans hopens.suffix
        dsimp only
        split
        · rename_i r hend
          obtain ⟨taken, hr, -⟩ := append_of_longEnd? hend
          exact .moved (List.IsSuffix.trans ⟨taken, hr.symm⟩ hbody) rfl
        · exact .ended rfl
      | @short q body _ hopens _ =>
        have hbody : body <:+ t :: rest := (List.suffix_cons q body).trans hopens.suffix
        dsimp only
        split
        · rename_i r hend
          exact .moved ((suffix_of_shortEnd hend).trans hbody) rfl
        · exact .ended rfl
        · exact .moved (hsingle _ rfl).1 (hsingle _ rfl).2

/-- A comment is added if nothing but blanks stands before it. -/
theorem comments_comment (s : Scan) (number : Nat) (before shown : List Char) :
    (s.comment number before shown).comments =
      if before.all isBlank then ⟨number, commentText shown⟩ :: s.comments else s.comments := by
  unfold Scan.comment
  split
  · rfl
  · rfl

/-- The comments that the scan of the rest of a line leaves: those there were, or one more, which stands
on the line; then nothing but blanks comes before the rest. -/
theorem comments_scanRest (number fuel : Nat) (s : Scan) (hcs : cs <:+ line) :
    (scanRest number line fuel s cs).comments = s.comments ∨
      (lead line cs).all isBlank = true ∧ ∃ text, StandsOn text line ∧
        (scanRest number line fuel s cs).comments = ⟨number, text⟩ :: s.comments := by
  induction fuel generalizing s cs with
  | zero => exact .inl rfl
  | succ fuel ih =>
    have hfewer : ∀ {r}, r <:+ cs → (lead line r).all isBlank = true →
        (lead line cs).all isBlank = true := fun hr hblank => List.all_eq_true.mpr fun c hc =>
      List.all_eq_true.mp hblank c ((prefix_lead hr).mem hc)
    have hstep := walks_step number line fuel s cs
    generalize scanRest number line (fuel + 1) s cs = result at hstep
    cases hstep with
    | ended hs => exact .inl hs
    | @moved s' rest hrest hs =>
      rw [← hs]
      exact (ih s' (hrest.trans hcs)).imp_right fun h => ⟨hfewer hrest h.1, h.2⟩
    | @commented r hr =>
      -- Behind the sign no comment has the line for itself.
      generalize hp : (fun c : Char => c != '\r' && c != '\n') = p
      have hline := lead_append (hr.trans hcs)
      have hrest : r.dropWhile p <:+ line :=
        (List.dropWhile_suffix p).trans ((List.suffix_cons '#' r).trans (hr.trans hcs))
      have hsign : ¬ (lead line (r.dropWhile p)).all isBlank = true := by
        intro hblank
        have hlead : lead line (r.dropWhile p) = lead line ('#' :: r) ++ '#' :: r.takeWhile p := by
          refine List.append_cancel_right ((lead_append hrest).trans ?_)
          rw [ List.append_assoc, List.cons_append, List.takeWhile_append_dropWhile,
            hline]
        rw [hlead, List.all_append, List.all_cons] at hblank
        simp [isBlank] at hblank
      have hscan := (ih (s.comment number (lead line ('#' :: r)) ('#' :: r.takeWhile p)) hrest).resolve_right
        fun h => hsign h.1
      rw [hscan, comments_comment]
      split
      · rename_i hblank
        refine .inr ⟨hfewer hr hblank, _, ⟨lead line ('#' :: r), r.takeWhile p, r.dropWhile p, ?_, hblank, rfl,
          ?_, ?_⟩, rfl⟩
        · rw [List.append_assoc, List.cons_append, List.takeWhile_append_dropWhile, hline]
        · intro hnewline
          have := List.mem_takeWhile_imp hnewline
          simp [← hp] at this
        · intro c hc
          have := List.head?_dropWhile_not p r
          rw [hc] at this
          simpa [← hp, imp_iff_not_or] using this
      · exact .inl rfl

/-- A margin is made of blanks. -/
theorem lineMargin_eq (width : Nat) (cs : List Char) :
    ∃ before, cs = before ++ (lineMargin width cs).2 ∧ before.all isBlank = true := by
  fun_induction lineMargin width cs with
  | case1 width r ih | case2 width r ih | case3 width r ih =>
    obtain ⟨before, hr, hblank⟩ := ih
    refine ⟨_ :: before, by rw [List.cons_append, ← hr], ?_⟩
    rw [List.all_cons, hblank]
    decide
  | case4 => exact ⟨[], rfl, rfl⟩

/-- A comment at the start of its line reaches to the line's end. -/
theorem standsOn_of_margin {before r : List Char} (hline : EndsAtFeed (before ++ '#' :: r))
    (hblank : before.all isBlank = true) :
    StandsOn (commentText (dropEnd (fun c => c = '\r' || c = '\n') ('#' :: r))) (before ++ '#' :: r) := by
  generalize hp : (fun c : Char => decide (c = '\r') || decide (c = '\n')) = p
  have hsign : dropEnd p ('#' :: r) = '#' :: dropEnd p r :=
    dropEnd_append (by rw [← hp]; decide) [] r
  obtain ⟨rest, hr, hrest⟩ := eq_dropEnd_append p r
  refine ⟨before, dropEnd p r, rest, ?_, hblank, by rw [hsign], ?_, ?_⟩
  · rw [List.append_assoc, List.cons_append, ← hr]
  · intro hmem
    obtain ⟨a, b, hshown⟩ := List.append_of_mem hmem
    -- A line feed would be the last character of the line, and so be dropped.
    have hlast : b ++ rest = [] := by
      refine hline (before ++ '#' :: a) _ ?_
      rw [hr, hshown]
      simp
    have hb : b = [] := (List.append_eq_nil_iff.mp hlast).1
    have hfeed : p '\n' = false := by
      have hmem : '\n' ∈ (dropEnd p r).getLast? := by rw [hshown, hb]; simp
      exact getLast?_dropEnd hmem
    simp [← hp] at hfeed
  · intro c hc
    have := hrest c (List.mem_of_mem_head? hc)
    simpa [← hp] using this

/-- The comments that the scan of a line leaves: those there were, or one more, which stands on the line
and is in no string that started before. -/
theorem comments_scanLine {s' : Scan} (hline : EndsAtFeed line) (h : scanLine s number line = .ok s') :
    s'.comments = s.comments ∨
      ((∀ o ∈ s.string, isQuote o.quote = true) → s.string = none) ∧
        ∃ text, StandsOn text line ∧ s'.comments = ⟨number, text⟩ :: s.comments := by
  unfold scanLine at h
  split at h
  · rename_i o hstring
    cases h
    unfold scanString
    split
    · rename_i rest hend
      obtain ⟨taken, htaken, hquote⟩ : ∃ taken, line = taken ++ rest ∧ o.quote ∈ taken := by
        split at hend
        · exact append_of_longEnd? hend
        · exact append_of_shortEnd? hend
      refine (comments_scanRest number _ { s with string := none, strict := false }
        ⟨taken, htaken.symm⟩).imp_right fun h => ⟨fun hquotes => ?_, h.2⟩
      -- Behind the end of a string its quotation mark is no blank.
      obtain ⟨hblank, -⟩ := h
      rw [htaken, lead_of_append] at hblank
      have := List.all_eq_true.mp hblank _ hquote
      rcases isQuote_iff.mp (hquotes o hstring) with hq | hq <;> simp [hq, isBlank] at this
    · split <;> exact .inl rfl
  · rename_i hstring
    split at h
    · cases h
      exact (comments_scanRest number _ { s with continued := false } List.suffix_rfl).imp_right
        fun h => ⟨fun _ => hstring, h.2⟩
    · obtain ⟨before, hbefore, hblank⟩ := lineMargin_eq 0 line
      generalize lineMargin 0 line = margin at h hbefore
      obtain ⟨width, rest⟩ := margin
      dsimp only at hbefore
      cases rest with
      | nil =>
        cases h
        exact .inl rfl
      | cons c r =>
        dsimp only at h
        split at h
        · rename_i hc
          subst hc hbefore
          cases h
          refine .inr ⟨fun _ => hstring, _, standsOn_of_margin hline hblank, ?_⟩
          rw [comments_comment]
          rfl
        · split at h
          · cases h
            exact .inl rfl
          · split at h
            · cases h
            · rename_i margins _
              cases h
              exact (comments_scanRest number _ { s with margins } ⟨before, hbefore.symm⟩).imp_right
                fun h => ⟨fun _ => hstring, h.2⟩

end Scan

/-! ## All lines -/

/-- The comments that a scan of lines adds, the last one first: each stands on its line, and their lines
grow. -/
theorem comments_scanLines {s s' : Scan} {number : Nat} {lines : List (List Char)}
    (hlines : ∀ line ∈ lines, EndsAtFeed line) (h : scanLines s number lines = .ok s') :
    ∃ added, s'.comments = added ++ s.comments ∧ added.Pairwise (fun c d => d.line < c.line) ∧
      ∀ c ∈ added, number ≤ c.line ∧ ∃ line, lines[c.line - number]? = some line ∧ StandsOn c.text line := by
  induction lines generalizing s number with
  | nil =>
    refine ⟨[], ?_, .nil, by simp⟩
    unfold scanLines at h
    split at h
    · cases h
    · split at h
      · cases h
      · cases h
        rfl
  | cons line lines ih =>
    obtain ⟨hline, hrest⟩ := List.forall_mem_cons.mp hlines
    rw [scanLines] at h
    cases hscan : scanLine s number line with
    | error e =>
      rw [hscan] at h
      cases h
    | ok s₁ =>
      rw [hscan] at h
      obtain ⟨added, hadded, hgrow, hstand⟩ := ih hrest h
      -- The lines behind are counted from one more than this line.
      have hlater : ∀ c ∈ added, number ≤ c.line ∧
          ∃ l, (line :: lines)[c.line - number]? = some l ∧ StandsOn c.text l := by
        intro c hc
        obtain ⟨hnumber, l, hl, hon⟩ := hstand c hc
        refine ⟨by omega, l, ?_, hon⟩
        rwa [show c.line - number = c.line - (number + 1) + 1 by omega, List.getElem?_cons_succ]
      rcases Scan.comments_scanLine hline hscan with hsame | ⟨-, text, hon, hone⟩
      · exact ⟨added, by rw [hadded, hsame], hgrow, hlater⟩
      · refine ⟨added ++ [⟨number, text⟩], by rw [hadded, hone, List.append_assoc]; rfl, ?_, ?_⟩
        · refine List.pairwise_append.mpr ⟨hgrow, List.pairwise_singleton _ _, fun c hc d hd => ?_⟩
          rw [List.mem_singleton.mp hd]
          exact (hstand c hc).1
        · intro c hc
          rcases List.mem_append.mp hc with hc | hc
          · exact hlater c hc
          · rw [List.mem_singleton.mp hc]
            exact ⟨Nat.le_refl number, line, by rw [Nat.sub_self]; rfl, hon⟩

theorem endsAtFeed_of_mem_feedLinesFrom {acc cs line : List Char} (hacc : '\n' ∉ acc)
    (h : line ∈ feedLinesFrom acc cs) : EndsAtFeed line := by
  have hfree : ∀ {l : List Char}, '\n' ∉ l → EndsAtFeed l := by
    rintro l hl before rest rfl
    exact absurd (by simp) hl
  fun_induction feedLinesFrom acc cs with
  | case1 => cases h
  | case2 acc =>
    rw [List.mem_singleton.mp h]
    exact hfree (by simpa using hacc)
  | case3 acc r ih =>
    rcases List.mem_cons.mp h with rfl | h
    · intro before rest hline
      rw [List.reverse_cons] at hline
      rcases List.eq_nil_or_concat rest with rfl | ⟨front, c, rfl⟩
      · rfl
      · -- A line feed before the last character would be among those read before.
        rw [List.concat_eq_append, ← List.cons_append, ← List.append_assoc] at hline
        have hread := (List.append_inj_left' hline rfl).symm
        exact absurd (List.mem_reverse.mp (by rw [← hread]; simp)) hacc
    · exact ih (by simp) h
  | case4 acc c r hc ih => exact ih (by simp [hacc, Ne.symm hc]) h

theorem mem_of_mem_feedLinesFrom {acc cs line : List Char} {c : Char} (h : line ∈ feedLinesFrom acc cs)
    (hc : c ∈ line) : c ∈ acc ∨ c ∈ cs := by
  fun_induction feedLinesFrom acc cs with
  | case1 => cases h
  | case2 acc =>
    rw [List.mem_singleton.mp h] at hc
    exact .inl (List.mem_reverse.mp hc)
  | case3 acc r ih =>
    rcases List.mem_cons.mp h with rfl | h
    · rcases List.mem_cons.mp (List.mem_reverse.mp hc) with rfl | hc
      · exact .inr List.mem_cons_self
      · exact .inl hc
    · exact .inr (List.mem_cons_of_mem _ ((ih h).resolve_left List.not_mem_nil))
  | case4 acc d r _ ih =>
    have := ih h
    simp only [List.mem_cons] at this ⊢
    tauto

/-- Comments come in the order of their lines, and each stands on its line. -/
theorem comments_stand {source : String} {found : List Comment} (h : comments source = .ok found) :
    found.Pairwise (fun c d => c.line < d.line) ∧
      ∀ c ∈ found, 1 ≤ c.line ∧
        ∃ line, (feedLines source.toList)[c.line - 1]? = some line ∧ StandsOn c.text line := by
  unfold comments at h
  cases hs : scanLines {} 1 (feedLines source.toList) with
  | error e =>
    rw [hs] at h
    cases h
  | ok s =>
  rw [hs] at h
  cases h
  obtain ⟨added, hadded, hgrow, hstand⟩ :=
    comments_scanLines (fun line => endsAtFeed_of_mem_feedLinesFrom (by simp)) hs
  have hall : s.comments = added := by rw [hadded]; exact List.append_nil added
  dsimp only
  rw [hall]
  exact ⟨List.pairwise_reverse.mpr hgrow, fun c hc => hstand c (List.mem_reverse.mp hc)⟩

/-- A comment has no character that the source lacks. -/
theorem mem_of_mem_comments {source : String} {found : List Comment} {c : Comment} {x : Char}
    (h : comments source = .ok found) (hc : c ∈ found) (hx : x ∈ c.text.toList) : x ∈ source.toList := by
  obtain ⟨-, line, hline, hon⟩ := (comments_stand h).2 c hc
  exact (mem_of_mem_feedLinesFrom (List.mem_of_getElem? hline) (mem_of_standsOn hon hx)).resolve_left
    List.not_mem_nil

end ApiDirectives.Source
