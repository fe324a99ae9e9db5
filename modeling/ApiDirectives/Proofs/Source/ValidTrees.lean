import ApiDirectives.Proofs.Source.Derivation
import ApiDirectives.Source.Declaration

/-!
# Valid trees

Every node of a parsed tree has children that its rule gives, whatever node it is. Most rules do not speak
of the layout of lines: no expression, no target and no assignment has an end of a line in it, which is
checked over their productions at once. So the leaves of such trees all have a text, and a declaration, too,
starts at a leaf with a text: a keyword, the expression of a decorator, or the target of a field.
-/

namespace ApiDirectives.Source

variable {r : Rule} {s : String} {p : Pattern} {ps : List Pattern} {part : Part} {ts us : List Tree} {t : Tree}

/-! ## What is derived from one pattern -/

/-- In a valid source nothing is derived while mistakes are looked for. -/
theorem Derives.not_diagnosing : ¬ Derives (.pattern .diagnosing) ts := by
  intro h
  cases h with
  | token hadmits => cases hadmits
  | idle hidle => cases hidle

theorem Derives.of_items_cons (h : Derives (.items (p :: ps)) ts) :
    ∃ us vs, ts = us ++ vs ∧ Derives (.pattern p) us ∧ Derives (.items ps) vs := by
  cases h with
  | cons hp hps => exact ⟨_, _, rfl, hp, hps⟩

theorem Derives.of_items_nil (h : Derives (.items []) ts) : ts = [] := by
  cases h
  rfl

theorem Derives.of_run (h : Derives (.pattern (.run ps)) ts) : Derives (.items ps) ts := by
  cases h with
  | token hadmits => cases hadmits
  | idle hidle => cases hidle
  | choice hitems h => exact List.mem_singleton.mp hitems ▸ h

theorem Derives.of_text (h : Derives (.pattern (.text s)) ts) : ∃ k, ts = [.leaf k] ∧ k.text = s := by
  cases h with
  | token hadmits => exact ⟨_, rfl, by simpa [Pattern.admits] using hadmits⟩
  | idle hidle => cases hidle

theorem Derives.of_newline (h : Derives (.pattern .newline) ts) : ∃ k, ts = [.leaf k] ∧ k.kind = .newline := by
  cases h with
  | token hadmits => exact ⟨_, rfl, by simpa [Pattern.newline, Pattern.admits] using hadmits⟩
  | idle hidle => cases hidle

theorem Derives.of_rule (h : Derives (.pattern (.rule r)) ts) : Derives (.rule r) ts := by
  cases h with
  | token hadmits => cases hadmits
  | idle hidle => cases hidle
  | ruled h => exact h

theorem Derives.of_many1 (h : Derives (.pattern (.many1 p)) ts) : Derives (.many p) ts := by
  cases h with
  | token hadmits => cases hadmits
  | idle hidle => cases hidle
  | many1 h => exact h

/-- What holds of all that one round of a repetition gives holds of all rounds. -/
theorem Derives.forall_of_many {P : Tree → Prop} (h : Derives (.many p) ts)
    (hround : ∀ us, Derives (.pattern p) us → ∀ t ∈ us, P t) : ∀ t ∈ ts, P t := by
  generalize hpart : Part.many p = part at h
  induction h with
  | enough => simp
  | more hp _ _ ih =>
    cases hpart
    exact List.forall_mem_append.mpr ⟨hround _ hp, ih rfl⟩
  | _ => cases hpart

/-! ## Inside a line -/

/-- Rules that do not speak of the layout of lines. -/
def Rule.isInline : Rule → Bool
  | .expression _ | .statement .assignment | .statement .assignedValue | .statement .augmentedSign
  | .statement .defaultClause => true
  | _ => false

namespace Pattern

mutual

/-- Whether a pattern takes no layout. -/
def isInline : Pattern → Bool
  | .kind k => !([TokenKind.newline, .indent, .dedent, .endMarker].contains k)
  | .text s | .soft s | .forced s => s != ""
  | .softWord | .literals | .ahead _ | .notAhead _ | .cut | .slip _ | .diagnosing => true
  | .rule r => r.isInline
  | .choice alternatives => isInlineChoice alternatives
  | .opt p | .many p | .many1 p | .spot p => p.isInline
  | .separated s p => s != "" && p.isInline

/-- Whether a sequence takes no layout. One that looks for mistakes takes nothing in a valid source. -/
def isInlineRun : List Pattern → Bool
  | [] => true
  | .diagnosing :: _ => true
  | p :: ps => p.isInline && isInlineRun ps

/-- Whether no sequence takes layout. -/
def isInlineChoice : List (List Pattern) → Bool
  | [] => true
  | ps :: others => isInlineRun ps && isInlineChoice others

end

theorem isInlineRun_cons (h : isInlineRun (p :: ps) = true) :
    p = .diagnosing ∨ p.isInline = true ∧ isInlineRun ps = true := by
  by_cases hp : p = .diagnosing
  · exact .inl hp
  · rw [isInlineRun] at h
    · exact .inr (Bool.and_eq_true_iff.mp h)
    · exact hp

theorem isInlineRun_of_isInline (hp : p.isInline = true) (hps : isInlineRun ps = true) :
    isInlineRun (p :: ps) = true := by
  by_cases hdiagnosing : p = .diagnosing
  · rw [hdiagnosing, isInlineRun]
  · rw [isInlineRun]
    · exact Bool.and_eq_true_iff.mpr ⟨hp, hps⟩
    · exact hdiagnosing

theorem isInlineRun_of_mem {alternatives : List (List Pattern)} (h : isInlineChoice alternatives = true)
    (hps : ps ∈ alternatives) : isInlineRun ps = true := by
  induction alternatives with
  | nil => cases hps
  | cons qs others ih =>
    rw [isInlineChoice, Bool.and_eq_true] at h
    rcases List.mem_cons.mp hps with rfl | hps
    · exact h.1
    · exact ih h.2 hps

/-- A token with a text is no layout, and neither is one of any other kind. -/
theorem isLayout_of_admits {k : Token} (hp : p.isInline = true) (h : p.admits k = true) :
    k.isLayout = false := by
  unfold Token.isLayout
  cases p with
  | kind kind =>
    rw [show k.kind = kind by simpa [admits] using h]
    simp_all [isInline]
  | text s | soft s | forced s =>
    have htext : k.text = s := by simp_all [admits]
    simp_all [isInline]
  | softWord =>
    have hkind : k.kind = .name := by simp_all [admits]
    rw [hkind, show [TokenKind.newline, .indent, .dedent, .endMarker].contains .name = false by decide,
      Bool.and_false]
  | _ => cases h

end Pattern

/-- The productions of these rules take no layout. -/
theorem Rule.isInline_production (h : r.isInline = true) :
    Pattern.isInlineChoice r.production.openings = true ∧ Pattern.isInlineChoice r.production.steps = true := by
  cases r with
  | expression r => cases r <;> decide
  | statement r =>
    cases r with
    | assignment | assignedValue | augmentedSign | defaultClause => decide
    | _ => cases h
  | _ => cases h

/-- Whether what is derived takes no layout. -/
def Part.isInline : Part → Bool
  | .pattern p | .many p => p.isInline
  | .items ps => Pattern.isInlineRun ps
  | .rule r => r.isInline

/-- A tree whose leaves all have their own places in the text. -/
def Tree.IsInline (t : Tree) : Prop := ∀ k ∈ t.tokens, k.isLayout = false

theorem Derives.isInline_tokensOf (h : Derives part ts) (hpart : part.isInline = true) :
    ∀ k ∈ tokensOf ts, k.isLayout = false := by
  induction h with
  | token hadmits =>
    rw [tokensOf_cons, tokensOf_nil, Tree.tokens_leaf, List.append_nil]
    exact fun k hk => List.mem_singleton.mp hk ▸ Pattern.isLayout_of_admits hpart hadmits
  | idle | nil | enough => simp
  | @literals ks hstrings =>
    have htokens : tokensOf (ks.map .leaf) = ks := by
      induction ks with
      | nil => rfl
      | cons k ks ih => simp [ih (List.forall_mem_cons.mp hstrings).2]
    intro k hk
    have hkind := hstrings k (htokens ▸ hk)
    simp [Token.isLayout, hkind]
  | ruled _ ih | opt _ ih | spot _ ih | many _ ih | many1 _ ih =>
    rw [Part.isInline, Pattern.isInline] at hpart
    exact ih hpart
  | choice hitems _ ih =>
    rw [Part.isInline, Pattern.isInline] at hpart
    exact ih (Pattern.isInlineRun_of_mem hpart hitems)
  | separated _ _ ih ihmany =>
    rw [Part.isInline, Pattern.isInline, Bool.and_eq_true] at hpart
    rw [tokensOf_append]
    have hround : Pattern.isInlineRun [.text _, _] = true :=
      Pattern.isInlineRun_of_isInline (by rw [Pattern.isInline]; exact hpart.1)
        (Pattern.isInlineRun_of_isInline hpart.2 (by rw [Pattern.isInlineRun]))
    refine List.forall_mem_append.mpr ⟨ih hpart.2, ihmany ?_⟩
    rw [Part.isInline, Pattern.isInline, Pattern.isInlineChoice, Pattern.isInlineChoice, hround, Bool.and_self]
  | cons hp _ ih ihrest =>
    rw [tokensOf_append]
    rcases Pattern.isInlineRun_cons hpart with rfl | ⟨hp, hps⟩
    -- A run may be anything behind `diagnosing`, but nothing is derived from that.
    · exact absurd hp Derives.not_diagnosing
    · exact List.forall_mem_append.mpr ⟨ih hp, ihrest hps⟩
  | more _ _ ih ihrest =>
    rw [tokensOf_append]
    exact List.forall_mem_append.mpr ⟨ih hpart, ihrest hpart⟩
  | opening hitems _ ih =>
    rw [tokensOf_cons, tokensOf_nil, Tree.tokens_ofRule, List.append_nil]
    exact ih (Pattern.isInlineRun_of_mem (Rule.isInline_production hpart).1 hitems)
  | step hitems _ _ ih ihstep =>
    rw [tokensOf_cons, tokensOf_nil, Tree.tokens_node, List.append_nil, tokensOf_cons]
    have hfirst := ih hpart
    rw [tokensOf_cons, tokensOf_nil, List.append_nil] at hfirst
    exact List.forall_mem_append.mpr
      ⟨hfirst, ihstep (Pattern.isInlineRun_of_mem (Rule.isInline_production hpart).2 hitems)⟩

/-! ## Valid trees -/

/-- The children that a node of a rule can have. -/
def Rule.Yields (r : Rule) (ts : List Tree) : Prop :=
  (∃ items ∈ r.production.openings, Derives (.items items) ts) ∨
    ∃ items ∈ r.production.steps, ∃ t us, ts = t :: us ∧ Derives (.rule r) [t] ∧ Derives (.items items) us

/-- A tree is valid if each of its nodes has children that its rule gives. -/
inductive Tree.Valid : Tree → Prop
  | leaf (k : Token) : Valid (.leaf k)
  | node {r : Rule} {ts : List Tree} : r.Yields ts → (∀ t ∈ ts, Valid t) → Valid (.node r ts)

namespace Tree

theorem Valid.yields (h : Valid (.node r ts)) : r.Yields ts := by
  cases h with
  | node hyields _ => exact hyields

theorem Valid.of_mem (h : Valid (.node r ts)) (ht : t ∈ ts) : t.Valid := by
  cases h with
  | node _ hchildren => exact hchildren t ht

/-- A valid node of a rule that takes no layout has none among its leaves. -/
theorem Valid.isInline (h : Valid (.node r ts)) (hr : r.isInline = true) : IsInline (.node r ts) := by
  unfold IsInline
  rw [tokens_node]
  obtain ⟨hopenings, hsteps⟩ := Rule.isInline_production hr
  rcases h.yields with ⟨items, hitems, hderives⟩ | ⟨items, hitems, t, us, rfl, hfirst, hderives⟩
  · exact hderives.isInline_tokensOf (Pattern.isInlineRun_of_mem hopenings hitems)
  · have hone := hfirst.isInline_tokensOf hr
    rw [tokensOf_cons, tokensOf_nil, List.append_nil] at hone
    rw [tokensOf_cons]
    exact List.forall_mem_append.mpr
      ⟨hone, hderives.isInline_tokensOf (Pattern.isInlineRun_of_mem hsteps hitems)⟩

end Tree

/-- Whatever is derived is valid. -/
theorem Derives.valid (h : Derives part ts) : ∀ t ∈ ts, t.Valid := by
  induction h with
  | token => exact fun t ht => List.mem_singleton.mp ht ▸ .leaf _
  | idle | nil | enough => simp
  | literals =>
    intro t ht
    obtain ⟨k, -, rfl⟩ := List.mem_map.mp ht
    exact .leaf k
  | ruled _ ih | choice _ _ ih | opt _ ih | spot _ ih | many _ ih | many1 _ ih => exact ih
  | separated _ _ ih ihrest | cons _ _ ih ihrest | more _ _ ih ihrest =>
    exact List.forall_mem_append.mpr ⟨ih, ihrest⟩
  | opening hitems hderives ih =>
    intro t ht
    rw [List.mem_singleton.mp ht]
    unfold Tree.ofRule
    split
    · exact ih _ List.mem_cons_self
    · exact .node (.inl ⟨_, hitems, hderives⟩) ih
  | step hitems hfirst hderives ih ihstep =>
    intro t ht
    rw [List.mem_singleton.mp ht]
    exact .node (.inr ⟨_, hitems, _, _, rfl, hfirst, hderives⟩)
      (List.forall_mem_cons.mpr ⟨ih _ List.mem_cons_self, ihstep⟩)

/-- The tree of a module is valid. -/
theorem valid_of_parseModule {cs : List Char} {tree : Tree} (h : parseModule cs = .ok tree) : tree.Valid :=
  (derives_of_parseModule h).1.valid _ List.mem_cons_self

/-! ## Statements and decorators -/

namespace Tree

/-- The statements of a line are valid. -/
theorem Valid.lineStatements (h : t.Valid) : ∀ u ∈ lineStatements t, u.Valid := by
  unfold Source.lineStatements
  split
  · exact fun u hu => h.of_mem (List.mem_filter.mp hu).1
  · exact fun u hu => List.mem_singleton.mp hu ▸ h

theorem Valid.runStatements (h : t.Valid) : ∀ u ∈ runStatements t, u.Valid := by
  unfold Source.runStatements
  split
  · intro u hu
    obtain ⟨line, hline, hu⟩ := List.mem_flatMap.mp hu
    exact (h.of_mem hline).lineStatements u hu
  · exact h.lineStatements

/-- The statements of a module or of a block are valid. -/
theorem Valid.bodyStatements (h : t.Valid) : ∀ u ∈ bodyStatements t, u.Valid := by
  unfold Source.bodyStatements
  split
  · exact (h.of_mem List.mem_cons_self).runStatements
  · exact (h.of_mem (by simp)).runStatements
  · simp
  · exact h.runStatements

/-- Whether a sequence starts with a keyword or looks for mistakes. -/
def opensWithText : List Pattern → Bool
  | .diagnosing :: _ => true
  | .text s :: _ => s != ""
  | _ => false

/-- A definition starts with its keyword. -/
theorem Valid.keyword (h : Valid (.node r ts))
    (hr : (r.production.openings.all opensWithText && r.production.steps.isEmpty) = true) :
    ∃ k us, ts = .leaf k :: us ∧ k.isLayout = false := by
  rw [Bool.and_eq_true, List.all_eq_true, List.isEmpty_iff] at hr
  rcases h.yields with ⟨items, hitems, hderives⟩ | ⟨items, hitems, -⟩
  · have hopens := hr.1 items hitems
    unfold opensWithText at hopens
    split at hopens
    · obtain ⟨us, vs, -, hdiagnosing, -⟩ := hderives.of_items_cons
      exact absurd hdiagnosing Derives.not_diagnosing
    · obtain ⟨us, vs, rfl, htext, -⟩ := hderives.of_items_cons
      obtain ⟨k, rfl, rfl⟩ := htext.of_text
      exact ⟨k, vs, rfl, by simp_all [Token.isLayout]⟩
    · cases hopens
  · rw [hr.2] at hitems
    cases hitems

/-- Decorators are their signs, expressions and ends of lines. -/
theorem Valid.decorators (h : Valid (.node (.statement .decorators) ts)) :
    ∀ t ∈ ts, isText "@" t = true ∨ endsStatement t = true ∨ t.IsInline := by
  rcases h.yields with ⟨items, hitems, hderives⟩ | ⟨items, hitems, -⟩
  · obtain rfl := List.mem_singleton.mp hitems
    obtain ⟨us, vs, rfl, hrounds, hnothing⟩ := hderives.of_items_cons
    rw [hnothing.of_items_nil, List.append_nil]
    refine hrounds.of_many1.forall_of_many fun us hround => ?_
    obtain ⟨signs, rest, rfl, hsign, hround⟩ := hround.of_run.of_items_cons
    obtain ⟨expressions, ends, rfl, hexpression, hround⟩ := hround.of_items_cons
    obtain ⟨newlines, nothing, rfl, hnewline, hnothing⟩ := hround.of_items_cons
    obtain ⟨k, rfl, hk⟩ := hsign.of_text
    obtain ⟨l, rfl, hl⟩ := hnewline.of_newline
    obtain rfl := hnothing.of_items_nil
    intro t ht
    rw [List.mem_append, List.mem_append, List.mem_append, List.mem_singleton, List.mem_singleton] at ht
    rcases ht with rfl | ht | rfl | ht
    · exact .inl (by simp [isText, hk])
    · have hinline := hexpression.isInline_tokensOf (by rfl)
      exact .inr (.inr fun k hk => hinline k ((tokens_sublist_of_mem ht).mem hk))
    · exact .inr (.inl (by simp [endsStatement, hl]))
    · cases ht
  · cases hitems

end Tree

end ApiDirectives.Source
