import ApiDirectives.Proofs.Source.Derivation

/-!
# The lines of tokens

The cut never goes back to a line before, so the lines of the tokens grow from left to right, and so do
those of the leaves of a tree. A leaf that is no layout stands on the line it says, in code and behind
nothing that would make a comment of the line.
-/

namespace ApiDirectives.Source

/-- The lines of tokens grow. -/
def InLineOrder (tokens : List Token) : Prop := tokens.Pairwise fun t u => t.line ≤ u.line

namespace Lexing

variable {s s' : Lexing} {p q : Point} {line at' : Nat} {new : List Token} {t : Token} {b : Bool}
  {cs : List Char}

/-! ## Order -/

/-- The tokens so far are in order, and none is behind the line that the cut is at. -/
structure Ordered (s : Lexing) : Prop where
  order : InLineOrder s.done.reverse
  upTo : ∀ t ∈ s.done, t.line ≤ s.line

/-- Tokens of one line at the end keep the order. -/
theorem Ordered.append (h : s.Ordered) (hafter : s.line ≤ at') (hnew : ∀ t ∈ new, t.line = at') :
    InLineOrder (new ++ s.done).reverse := by
  unfold InLineOrder
  rw [List.reverse_append, List.pairwise_append]
  refine ⟨h.order, ?_, fun t ht u hu => ?_⟩
  · refine List.pairwise_of_forall_mem_list fun t ht u hu => ?_
    rw [hnew t (List.mem_reverse.mp ht), hnew u (List.mem_reverse.mp hu)]
  · rw [hnew u (List.mem_reverse.mp hu)]
    exact (h.upTo t (List.mem_reverse.mp ht)).trans hafter

theorem Ordered.adds (h : s.Ordered) (hadds : s.Adds s' p line new at') : s'.Ordered where
  order := by
    rw [hadds.done]
    exact h.append hadds.after fun t ht => (hadds.each t ht).1
  upTo t ht := by
    rw [hadds.done] at ht
    rcases List.mem_append.mp ht with hnew | hold
    · rw [(hadds.each t hnew).1]
      exact hadds.before
    · exact (h.upTo t hold).trans (hadds.after.trans hadds.before)

/-- Whatever is cut off comes in the order of its lines. -/
theorem ordered_cutFrom (fuel : Nat) (h : s.Ordered) : InLineOrder (cutFrom fuel b s cs).items.toList := by
  refine cutFrom_induction (P := fun _ s _ => s.Ordered) (Q := fun g => InLineOrder g.items.toList)
    ?_ ?_ ?_ fuel h
  · intro b s cs g h hdone
    rw [hdone]
    exact h.order
  · intro b s cs g h _ hdone
    rw [hdone]
    have hend : ∀ t ∈ [Token.mk .endMarker "" s.line s.brackets.length none], t.line = s.line := by simp
    exact h.append (Nat.le_refl _) hend
  · intro b s cs b' s' rest h hmoves
    obtain ⟨new, line, hadds⟩ := hmoves.tokens
    exact h.adds hadds

/-! ## Places -/

/-- What stands on the way from a point stands on the way to it. -/
theorem placed_of_leads {next : Nat} (hleads : Leads p q)
    (hlines : q.text = [] ∨ next + q.text.count '\n' = line + p.text.count '\n') (h : Placed q next t) :
    Placed p line t := by
  obtain ⟨n, cs, hcs, hstarts, hline⟩ := h
  refine ⟨n, cs, hleads.trans hcs, hstarts, hline.trans (hlines.resolve_left fun hend => ?_)⟩
  -- Nothing starts at the end of the text.
  obtain ⟨c, r, rfl, -, -⟩ := hstarts
  have hsuffix := Leads.suffix hcs
  rw [hend, List.suffix_nil] at hsuffix
  cases hsuffix

/-- Whatever is cut off is layout or has its place in the text. -/
theorem placed_cutFrom (fuel : Nat) (hdone : s.done = []) :
    ∀ t ∈ (cutFrom fuel true s cs).items.toList, t.isLayout = true ∨ Placed (s.point cs) (s.line + 1) t := by
  -- Kept by every step: the tokens so far have their places, the way leads to what is left, and the
  -- number of its line is known unless nothing is left.
  refine cutFrom_induction
    (P := fun b s' rest => (∀ t ∈ s'.done, t.isLayout = true ∨ Placed (s.point cs) (s.line + 1) t) ∧
      Leads (s.point cs) (s'.point rest) ∧
      (rest = [] ∨ s'.lineAt b + rest.count '\n' = s.line + 1 + cs.count '\n'))
    (Q := fun g => ∀ t ∈ g.items.toList, t.isLayout = true ∨ Placed (s.point cs) (s.line + 1) t)
    ?_ ?_ ?_ fuel ⟨by simp [hdone], .refl, .inr rfl⟩
  · intro b s' rest g h hdone t ht
    rw [hdone, List.mem_reverse] at ht
    exact h.1 t ht
  · intro b s' rest g h _ hdone t ht
    rw [hdone, List.mem_reverse] at ht
    rcases List.mem_cons.mp ht with rfl | hold
    · exact .inl rfl
    · exact h.1 t hold
  · rintro b s₁ rest₁ b' s₂ rest₂ ⟨htokens, hleads, hlines⟩ hmoves
    obtain ⟨new, line, hadds⟩ := hmoves.tokens
    refine ⟨fun t ht => ?_, hleads.trans hmoves.leads, ?_⟩
    · rw [hadds.done] at ht
      rcases List.mem_append.mp ht with hnew | hold
      · exact (hadds.each t hnew).2.2.imp_right (placed_of_leads hleads hlines)
      · exact htokens t hold
    · rcases hmoves.lines with hend | hline
      · exact .inl hend
      · rcases hlines with hend | hlines
        · have hsuffix : rest₂ <:+ rest₁ := Leads.suffix hmoves.leads
          rw [hend, List.suffix_nil] at hsuffix
          exact .inl hsuffix
        · exact .inr (hline.trans hlines)

end Lexing

/-! ## Leaves -/

section Leaves

variable {cs : List Char} {tree : Tree}

/-- The leaves of a module come in the order of their lines. -/
theorem inLineOrder_of_parseModule (h : parseModule cs = .ok tree) : InLineOrder tree.tokens := by
  obtain ⟨-, check, hspan⟩ := derives_of_parseModule h
  have horder : InLineOrder (Tokens.ofText 1 cs).items.toList :=
    Lexing.ordered_cutFrom _ ⟨.nil, by simp⟩
  refine List.Pairwise.sublist hspan.sublist ?_
  rw [← List.pairwise_map, map_withFlaws fun _ _ => rfl]
  exact List.pairwise_map.mpr horder

/-- The leaves of a module are layout or have their places in the text. -/
theorem placed_of_parseModule (h : parseModule cs = .ok tree) :
    ∀ t ∈ tree.tokens, t.isLayout = true ∨ Placed ⟨.code, 0, endedLines cs⟩ 1 t := by
  intro t ht
  obtain ⟨-, check, hspan⟩ := derives_of_parseModule h
  have hmem := List.mem_map_of_mem (f := fun t => (t.kind, t.text, t.line)) (hspan.subset ht)
  rw [map_withFlaws fun _ _ => rfl] at hmem
  obtain ⟨u, hu, heq⟩ := List.mem_map.mp hmem
  obtain ⟨hkind, htext, hline⟩ : u.kind = t.kind ∧ u.text = t.text ∧ u.line = t.line := by simpa using heq
  have hcut := Lexing.placed_cutFrom (s := { line := 0 }) _ rfl u hu
  unfold Token.isLayout Placed at hcut ⊢
  rwa [hkind, htext, hline] at hcut

end Leaves

end ApiDirectives.Source
