import ApiDirectives.Proofs.Format.Json.Numerals

/-!
# Blanks outside of quotes

A value is laid out on one line or over many, and what changes are blanks between tokens. `dense` drops
the blanks that stand outside of the quotes of a text. Two layouts of a value are shown to be the same
without them piece by piece: pieces are alike if the same is kept of them, and both end outside of quotes
where they begin there, so that what follows is read from the same position.
-/

namespace ApiDirectives.Json

/-! ## Pieces of a layout -/

theorem gap_edge (l : Layout) (level : Nat) : Gap (l.edge level).toList := by
  cases l with
  | line => exact List.forall_mem_nil _
  | indented width =>
    intro c hc
    rw [Layout.edge, String.toList_append, String.toList_ofList, String.toList_ofList] at hc
    rcases List.mem_append.mp hc with hc | hc
    · rw [List.mem_singleton.mp hc]
      rfl
    · rw [List.eq_of_mem_replicate hc]
      rfl

theorem exists_gap_between (l : Layout) (level : Nat) :
    ∃ gap, Gap gap ∧ (l.between level).toList = ',' :: gap := by
  cases l with
  | line => exact ⟨[' '], List.forall_mem_singleton.mpr rfl, String.toList_ofList⟩
  | indented width =>
    refine ⟨((Layout.indented width).edge level).toList, gap_edge _ level, ?_⟩
    rw [Layout.between, String.toList_append]
    rfl

theorem toList_quoted (s : String) : (quoted s).toList = '"' :: (s.toList.flatMap escaped ++ ['"']) := by
  rw [quoted, String.toList_ofList]
  rfl

/-- A string is written with a character or more for each of its own, and its quotes. -/
theorem length_add_two_le_quoted (s : String) : s.toList.length + 2 ≤ (quoted s).length := by
  have hgrow : ∀ cs : List Char, cs.length ≤ (cs.flatMap escaped).length := by
    intro cs
    induction cs with
    | nil => exact Nat.le_refl _
    | cons c cs ih =>
      have hsome : escaped c ≠ [] := by
        obtain ⟨mark, -, hform⟩ | ⟨-, hform⟩ | ⟨-, -, -, hform⟩ := escaped_cases c
        all_goals
          rw [hform]
          exact List.cons_ne_nil _ _
      have hone := List.length_pos_iff.mpr hsome
      rw [List.flatMap_cons, List.length_append, List.length_cons]
      omega
  rw [← String.length_toList, toList_quoted, List.length_cons, List.length_append]
  have := hgrow s.toList
  simp only [List.length_cons, List.length_nil]
  omega

/-! ## Dense texts -/

/-- What is left of a text without the blanks outside of its quotes, from a position on. -/
def denseFrom : Position → List Char → List Char
  | _, [] => []
  | .outside, c :: r =>
    if isBlank c then denseFrom .outside r
    else c :: denseFrom (if c = '"' then .inside else .outside) r
  | .inside, c :: r =>
    c :: denseFrom (if c = '"' then .outside else if c = '\\' then .escape else .inside) r
  | .escape, c :: r => c :: denseFrom .inside r

/-- What is left of a text without the blanks outside of its quotes. -/
def dense (s : String) : List Char :=
  denseFrom .outside s.toList

-- Blanks in quotes are kept, also behind an escaped quote.
example : dense "\x7b \"a \\\" b\":\n [ ] \x7d\n" = "\x7b\"a \\\" b\":[]\x7d".toList := by decide

/-- The same is kept of two pieces of texts, which both end outside of quotes if they begin there. -/
def Alike (s t : String) : Prop :=
  ∃ kept, ∀ rest, denseFrom .outside (s.toList ++ rest) = kept ++ denseFrom .outside rest ∧
    denseFrom .outside (t.toList ++ rest) = kept ++ denseFrom .outside rest

section Blanks

variable {s t s' t' : String} {cs : List Char}

theorem Alike.append (h : Alike s t) (h' : Alike s' t') : Alike (s ++ s') (t ++ t') := by
  obtain ⟨kept, hkept⟩ := h
  obtain ⟨kept', hkept'⟩ := h'
  refine ⟨kept ++ kept', fun rest => ⟨?_, ?_⟩⟩
  · rw [String.toList_append, List.append_assoc, (hkept _).1, (hkept' _).1, List.append_assoc]
  · rw [String.toList_append, List.append_assoc, (hkept _).2, (hkept' _).2, List.append_assoc]

theorem Alike.dense_eq (h : Alike s t) : dense s = dense t := by
  obtain ⟨kept, hkept⟩ := h
  have hnil := hkept []
  rw [List.append_nil, List.append_nil] at hnil
  exact hnil.1.trans hnil.2.symm

/-- Of a piece without quotes all but the blanks is kept. -/
theorem denseFrom_unquoted (h : '"' ∉ cs) (rest : List Char) :
    denseFrom .outside (cs ++ rest) = cs.filter (fun c => !isBlank c) ++ denseFrom .outside rest := by
  induction cs with
  | nil => rfl
  | cons c cs ih =>
    obtain ⟨hc, hcs⟩ := not_or.mp (mt List.mem_cons.mpr h)
    rw [List.cons_append, denseFrom, if_neg (Ne.symm hc), ih hcs]
    split_ifs with hblank
    · rw [List.filter_cons_of_neg (by rw [hblank]; decide)]
    · rw [List.filter_cons_of_pos (by simpa using hblank), List.cons_append]

theorem alike_of_filter (hs : '"' ∉ s.toList) (ht : '"' ∉ t.toList)
    (h : s.toList.filter (fun c => !isBlank c) = t.toList.filter (fun c => !isBlank c)) : Alike s t := by
  refine ⟨s.toList.filter fun c => !isBlank c, fun rest => ⟨denseFrom_unquoted hs rest, ?_⟩⟩
  rw [h]
  exact denseFrom_unquoted ht rest

theorem alike_unquoted (h : '"' ∉ s.toList) : Alike s s :=
  alike_of_filter h h rfl

theorem denseFrom_hexPadded (width n : Nat) (rest : List Char) :
    denseFrom .inside (Text.hexPadded width n ++ rest) =
      Text.hexPadded width n ++ denseFrom .inside rest := by
  induction width generalizing n rest with
  | zero => rfl
  | succ width ih =>
    obtain ⟨hquote, hslash⟩ := hexDigit_ne (Nat.mod_lt n (by decide : 0 < 16))
    rw [Text.hexPadded, List.append_assoc, ih, List.singleton_append, denseFrom, if_neg hquote,
      if_neg hslash, List.append_assoc, List.singleton_append]

/-- The form of a character inside quotes is kept, and does not end them. -/
theorem denseFrom_escaped (c : Char) (rest : List Char) :
    denseFrom .inside (escaped c ++ rest) = escaped c ++ denseFrom .inside rest := by
  obtain ⟨mark, -, hform⟩ | ⟨-, hform⟩ | ⟨hquote, hslash, -, hform⟩ := escaped_cases c
  · rw [hform]
    rfl
  · have hpair : denseFrom .inside ('\\' :: 'u' :: (Text.hexPadded 4 c.toNat ++ rest)) =
        '\\' :: 'u' :: denseFrom .inside (Text.hexPadded 4 c.toNat ++ rest) := rfl
    rw [hform, List.cons_append, List.cons_append, hpair, denseFrom_hexPadded]
    rfl
  · rw [hform, List.singleton_append, denseFrom, if_neg hquote, if_neg hslash]
    rfl

theorem alike_quoted (k : String) : Alike (quoted k) (quoted k) := by
  have hinside : ∀ (cs rest : List Char), denseFrom .inside (cs.flatMap escaped ++ '"' :: rest) =
      cs.flatMap escaped ++ '"' :: denseFrom .outside rest := by
    intro cs rest
    induction cs with
    | nil => rfl
    | cons c cs ih => rw [List.flatMap_cons, List.append_assoc, denseFrom_escaped, ih, List.append_assoc]
  have hkept : ∀ rest, denseFrom .outside ((quoted k).toList ++ rest) =
      (quoted k).toList ++ denseFrom .outside rest := by
    intro rest
    rw [toList_quoted, List.cons_append, List.append_assoc, List.singleton_append]
    show '"' :: denseFrom .inside (k.toList.flatMap escaped ++ '"' :: rest) = _
    rw [hinside, List.cons_append, List.append_assoc, List.singleton_append]
  exact ⟨(quoted k).toList, fun rest => ⟨hkept rest, hkept rest⟩⟩

theorem Gap.quote_not_mem {gap : List Char} (h : Gap gap) : '"' ∉ gap := by
  intro hmem
  cases h _ hmem

theorem Gap.filter_eq_nil {gap : List Char} (h : Gap gap) : gap.filter (fun c => !isBlank c) = [] := by
  refine List.filter_eq_nil_iff.mpr fun c hc => ?_
  rw [h c hc]
  decide

theorem alike_edge (l l' : Layout) (level : Nat) : Alike (l.edge level) (l'.edge level) := by
  have hgap := gap_edge l level
  have hgap' := gap_edge l' level
  exact alike_of_filter hgap.quote_not_mem hgap'.quote_not_mem
    (hgap.filter_eq_nil.trans hgap'.filter_eq_nil.symm)

theorem alike_between (l l' : Layout) (level : Nat) : Alike (l.between level) (l'.between level) := by
  obtain ⟨gap, hgap, htext⟩ := exists_gap_between l level
  obtain ⟨gap', hgap', htext'⟩ := exists_gap_between l' level
  have hcomma : ∀ {cs : List Char}, '"' ∉ cs → '"' ∉ ',' :: cs :=
    fun hcs => List.not_mem_cons_of_ne_of_not_mem (by decide) hcs
  have hkept : isBlank ',' = false := rfl
  refine alike_of_filter (htext ▸ hcomma hgap.quote_not_mem) (htext' ▸ hcomma hgap'.quote_not_mem) ?_
  rw [htext, htext', List.filter_cons_of_pos (by rw [hkept]; decide),
    List.filter_cons_of_pos (by rw [hkept]; decide), hgap.filter_eq_nil, hgap'.filter_eq_nil]

theorem alike_number (h : isNumber s.toList = true) : Alike s s := by
  refine alike_unquoted fun hmem => ?_
  cases isTokenChar_of_isNumber h _ hmem

end Blanks

mutual

/-- Two layouts of a value differ in blanks outside of quotes only. -/
theorem alike_render (l l' : Layout) (level : Nat) :
    (v : Value) → v.Finite → Alike (render l level v) (render l' level v)
  | .null, _ => by
    rw [render, render]
    exact alike_unquoted (by decide)
  | .bool true, _ => by
    rw [render, render]
    exact alike_unquoted (by decide)
  | .bool false, _ => by
    rw [render, render]
    exact alike_unquoted (by decide)
  | .int n, _ => by
    rw [render, render]
    exact alike_number (isNumber_toString n)
  | .float x, h => by
    rw [render, render]
    exact alike_number (isNumber_render ((Value.finite_float x).mp h))
  | .str s, _ => by
    rw [render, render]
    exact alike_quoted s
  | .list [], _ => by
    rw [render, render]
    exact alike_unquoted (by decide)
  | .list (v :: r), h => by
    obtain ⟨hfirst, hmore⟩ := List.forall_mem_cons.mp ((Value.finite_list _).mp h)
    have hv := alike_render l l' (level + 1) v hfirst
    have hr := alike_renderMore l l' (level + 1) r hmore
    rw [render, render]
    refine Alike.append (.append (.append (.append (.append ?_ ?_) hv) hr) ?_) ?_
    · exact alike_unquoted (by decide)
    · exact alike_edge l l' (level + 1)
    · exact alike_edge l l' level
    · exact alike_unquoted (by decide)
  | .object [], _ => by
    rw [render, render]
    exact alike_unquoted (by decide)
  | .object ((k, v) :: r), h => by
    obtain ⟨hfirst, hmore⟩ := List.forall_mem_cons.mp ((Value.finite_object _).mp h)
    have hv := alike_render l l' (level + 1) v hfirst
    have hr := alike_renderMembers l l' (level + 1) r hmore
    rw [render, render]
    refine Alike.append (.append (.append (.append (.append (.append (.append ?_ ?_)
      (alike_quoted k)) ?_) hv) hr) ?_) ?_
    · exact alike_unquoted (by decide)
    · exact alike_edge l l' (level + 1)
    · exact alike_unquoted (by decide)
    · exact alike_edge l l' level
    · exact alike_unquoted (by decide)

theorem alike_renderMore (l l' : Layout) (level : Nat) :
    (vs : List Value) → (∀ v ∈ vs, v.Finite) → Alike (renderMore l level vs) (renderMore l' level vs)
  | [], _ => by
    rw [renderMore, renderMore]
    exact alike_unquoted (by decide)
  | v :: r, h => by
    obtain ⟨hfirst, hmore⟩ := List.forall_mem_cons.mp h
    rw [renderMore, renderMore]
    exact ((alike_between l l' level).append (alike_render l l' level v hfirst)).append
      (alike_renderMore l l' level r hmore)

theorem alike_renderMembers (l l' : Layout) (level : Nat) :
    (ms : List (String × Value)) → FiniteMembers ms →
      Alike (renderMembers l level ms) (renderMembers l' level ms)
  | [], _ => by
    rw [renderMembers, renderMembers]
    exact alike_unquoted (by decide)
  | (k, v) :: r, h => by
    obtain ⟨hfirst, hmore⟩ := List.forall_mem_cons.mp h
    rw [renderMembers, renderMembers]
    refine Alike.append (.append (.append (.append ?_ (alike_quoted k)) ?_) ?_) ?_
    · exact alike_between l l' level
    · exact alike_unquoted (by decide)
    · exact alike_render l l' level v hfirst
    · exact alike_renderMembers l l' level r hmore

end

theorem dense_text {v : Value} (h : v.Finite) (width other : Int) :
    dense (text width v) = dense (text other v) := by
  have hvalue := alike_render (.ofWidth width) (.ofWidth other) 0 v h
  have hend : Alike "\n" "\n" := alike_unquoted (by decide)
  exact (hvalue.append hend).dense_eq

end ApiDirectives.Json
