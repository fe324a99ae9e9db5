import ApiDirectives.Format.Basic
import ApiDirectives.Proofs.Format.Json.Spacing

/-!
# JSON texts say what was written

A document in JSON is read back as what was written of it, with all keys in their order, all strings as
they are and all numbers by their literals, at every indentation width. The proof follows the writer: a
piece of a text is read as the value it was written for, whatever stands behind it, as long as that does
not go on a token, and with as much fuel as the piece has characters.
-/

namespace ApiDirectives

namespace Json

/-! ## Reading -/

/-- A text is read as a value. -/
def ReadsAs (text : String) (v : Value) : Prop :=
  ∀ fuel rest, text.length < fuel → Ends rest → value fuel (text.toList ++ rest) = some (tree v, rest)

/-- A text is read as the elements of a list behind one of them. -/
def ReadsItems (text : String) (vs : List Value) : Prop :=
  ∀ gap rest, Gap gap → Ends (text.toList ++ (gap ++ ']' :: rest)) ∧
    ∀ fuel, text.length < fuel →
      items fuel (text.toList ++ (gap ++ ']' :: rest)) = some (trees vs, rest)

/-- A text is read as the members of an object behind one of them. -/
def ReadsMembers (text : String) (ms : List (String × Value)) : Prop :=
  ∀ gap rest, Gap gap → Ends (text.toList ++ (gap ++ '\x7d' :: rest)) ∧
    ∀ fuel, text.length < fuel →
      members fuel (text.toList ++ (gap ++ '\x7d' :: rest)) = some (memberTrees ms, rest)

section Reading

variable {s t more before after between k : String} {v : Value} {vs : List Value}
  {ms : List (String × Value)} {gap rest : List Char} {fuel : Nat}

theorem readsAs_token (hne : t.toList ≠ []) (htoken : t.toList.all isTokenChar = true)
    (ht : scalar? t.toList = some (tree v)) : ReadsAs t v := by
  intro fuel rest hfuel hrest
  cases fuel with
  | zero => cases hfuel
  | succ fuel => exact value_token hne (List.all_eq_true.mp htoken) hrest ht

/-- A number is read as its literal. -/
theorem readsAs_number (hnumber : isNumber t.toList = true) (hv : tree v = .number t) : ReadsAs t v := by
  refine readsAs_token (ne_nil_of_isNumber hnumber)
    (List.all_eq_true.mpr (isTokenChar_of_isNumber hnumber)) ?_
  rw [scalar?_of_isNumber hnumber, String.ofList_toList, hv]

theorem readsAs_quoted (s : String) : ReadsAs (quoted s) (.str s) := by
  intro fuel rest hfuel _
  have hlength := length_add_two_le_quoted s
  cases fuel with
  | zero => cases hfuel
  | succ fuel =>
    rw [toList_quoted, List.cons_append, List.append_assoc, value]
    show (stringRest fuel (s.toList.flatMap escaped ++ '"' :: rest)).map _ = _
    rw [stringRest_flatMap (by omega), tree, Option.map_some]
    dsimp only
    rw [String.ofList_toList]

/-- A member is read if its value is. -/
theorem member_quoted (hv : ReadsAs t v) (hgap : Gap gap) (hrest : Ends rest)
    (hfuel : (quoted k).length + t.length < fuel) :
    member fuel (gap ++ ((quoted k).toList ++ ':' :: ' ' :: (t.toList ++ rest))) =
      some ((k, tree v), rest) := by
  have hlength := length_add_two_le_quoted k
  cases fuel with
  | zero => cases hfuel
  | succ fuel =>
    have hkey : mark? '"' (gap ++ ((quoted k).toList ++ ':' :: ' ' :: (t.toList ++ rest))) =
        some (k.toList.flatMap escaped ++ '"' :: ':' :: ' ' :: (t.toList ++ rest)) := by
      rw [toList_quoted, List.cons_append, List.append_assoc]
      exact mark?_gap hgap rfl
    have hname : stringRest fuel (k.toList.flatMap escaped ++ '"' :: ':' :: ' ' :: (t.toList ++ rest)) =
        some (k.toList, ':' :: ' ' :: (t.toList ++ rest)) :=
      stringRest_flatMap (by omega)
    have hcolon : mark? ':' (':' :: ' ' :: (t.toList ++ rest)) = some (' ' :: (t.toList ++ rest)) :=
      mark?_cons rfl
    have hvalue : value fuel (' ' :: (t.toList ++ rest)) = some (tree v, rest) := by
      have hblank : Gap [' '] := List.forall_mem_singleton.mpr rfl
      rw [← List.singleton_append, value_gap hblank]
      exact hv fuel rest (by omega) hrest
    rw [member]
    simp only [hkey, hname, hcolon, hvalue, Option.bind_eq_bind, Option.bind_some, String.ofList_toList]

theorem readsAs_empty_list : ReadsAs "[]" (.list []) := by
  intro fuel rest hfuel _
  cases fuel with
  | zero => cases hfuel
  | succ fuel => rfl

theorem readsAs_empty_object : ReadsAs "\x7b\x7d" (.object []) := by
  intro fuel rest hfuel _
  cases fuel with
  | zero => cases hfuel
  | succ fuel => rfl

theorem readsItems_nil : ReadsItems "" [] := by
  intro gap rest hgap
  refine ⟨ends_gap hgap rfl, fun fuel hfuel => ?_⟩
  cases fuel with
  | zero => cases hfuel
  | succ fuel =>
    show items (fuel + 1) (gap ++ ']' :: rest) = _
    rw [items, mark?_other hgap rfl (by decide), mark?_gap hgap rfl]
    rfl

theorem ReadsItems.cons (hbetween : ∃ gap, Gap gap ∧ between.toList = ',' :: gap) (hv : ReadsAs t v)
    (hmore : ReadsItems more vs) : ReadsItems (between ++ t ++ more) (v :: vs) := by
  obtain ⟨space, hspace, hcomma⟩ := hbetween
  intro gap rest hgap
  obtain ⟨hends, hitems⟩ := hmore gap rest hgap
  have htext : (between ++ t ++ more).toList ++ (gap ++ ']' :: rest) =
      ',' :: (space ++ (t.toList ++ (more.toList ++ (gap ++ ']' :: rest)))) := by
    simp only [String.toList_append, List.append_assoc, hcomma, List.cons_append]
  rw [htext]
  refine ⟨ends_cons rfl, fun fuel hfuel => ?_⟩
  have hmark : 0 < between.length := by
    rw [← String.length_toList, hcomma]
    exact Nat.succ_pos _
  rw [String.length_append, String.length_append] at hfuel
  cases fuel with
  | zero => cases hfuel
  | succ fuel =>
    have hvalue := hv fuel _ (by omega) hends
    rw [← value_gap hspace] at hvalue
    rw [items, mark?_cons rfl]
    simp only [hvalue, hitems fuel (by omega), Option.bind_eq_bind, Option.bind_some, trees]

theorem readsAs_list (hbefore : Gap before.toList) (hafter : Gap after.toList) (hv : ReadsAs t v)
    (hmore : ReadsItems more vs) :
    ReadsAs ("[" ++ before ++ t ++ more ++ after ++ "]") (.list (v :: vs)) := by
  intro fuel rest hfuel _
  obtain ⟨hends, hitems⟩ := hmore after.toList rest hafter
  have htext : ("[" ++ before ++ t ++ more ++ after ++ "]").toList ++ rest =
      '[' :: (before.toList ++ (t.toList ++ (more.toList ++ (after.toList ++ ']' :: rest)))) := by
    simp [String.toList_append]
  have hmark : "[".length = 1 := rfl
  simp only [String.length_append] at hfuel
  cases fuel with
  | zero => cases hfuel
  | succ fuel =>
    -- What follows the first element is a comma or the end, so it does not go on its token.
    have hvalue := hv fuel _ (by omega) hends
    rw [← value_gap hbefore] at hvalue
    rw [htext, tree, trees]
    exact value_list hvalue (hitems fuel (by omega))

theorem readsMembers_nil : ReadsMembers "" [] := by
  intro gap rest hgap
  refine ⟨ends_gap hgap rfl, fun fuel hfuel => ?_⟩
  cases fuel with
  | zero => cases hfuel
  | succ fuel =>
    show members (fuel + 1) (gap ++ '\x7d' :: rest) = _
    rw [members, mark?_other hgap rfl (by decide), mark?_gap hgap rfl]
    rfl

theorem ReadsMembers.cons (hbetween : ∃ gap, Gap gap ∧ between.toList = ',' :: gap) (hv : ReadsAs t v)
    (hmore : ReadsMembers more ms) :
    ReadsMembers (between ++ quoted k ++ ": " ++ t ++ more) ((k, v) :: ms) := by
  obtain ⟨space, hspace, hcomma⟩ := hbetween
  intro gap rest hgap
  obtain ⟨hends, hmembers⟩ := hmore gap rest hgap
  have htext : (between ++ quoted k ++ ": " ++ t ++ more).toList ++ (gap ++ '\x7d' :: rest) =
      ',' :: (space ++ ((quoted k).toList ++
        ':' :: ' ' :: (t.toList ++ (more.toList ++ (gap ++ '\x7d' :: rest))))) := by
    simp [String.toList_append, hcomma]
  rw [htext]
  refine ⟨ends_cons rfl, fun fuel hfuel => ?_⟩
  have hmark : 0 < between.length := by
    rw [← String.length_toList, hcomma]
    exact Nat.succ_pos _
  simp only [String.length_append] at hfuel
  cases fuel with
  | zero => cases hfuel
  | succ fuel =>
    have hmember := member_quoted (k := k) hv hspace hends (show _ < fuel by omega)
    rw [members, mark?_cons rfl]
    simp only [hmember, hmembers fuel (by omega), Option.bind_eq_bind, Option.bind_some, memberTrees]

theorem readsAs_object (hbefore : Gap before.toList) (hafter : Gap after.toList) (hv : ReadsAs t v)
    (hmore : ReadsMembers more ms) :
    ReadsAs ("\x7b" ++ before ++ quoted k ++ ": " ++ t ++ more ++ after ++ "\x7d")
      (.object ((k, v) :: ms)) := by
  intro fuel rest hfuel _
  obtain ⟨hends, hmembers⟩ := hmore after.toList rest hafter
  have htext : ("\x7b" ++ before ++ quoted k ++ ": " ++ t ++ more ++ after ++ "\x7d").toList ++ rest =
      '\x7b' :: (before.toList ++ ((quoted k).toList ++
        ':' :: ' ' :: (t.toList ++ (more.toList ++ (after.toList ++ '\x7d' :: rest))))) := by
    simp [String.toList_append]
  have hmark : "\x7b".length = 1 := rfl
  simp only [String.length_append] at hfuel
  cases fuel with
  | zero => cases hfuel
  | succ fuel =>
    have hmember := member_quoted (k := k) hv hbefore hends (show _ < fuel by omega)
    rw [htext, tree, memberTrees]
    exact value_object hmember (hmembers fuel (by omega))

end Reading

mutual

/-- A value whose numbers are finite is read as it was written, at any level of a layout. -/
theorem readsAs_render (l : Layout) (level : Nat) :
    (v : Value) → v.Finite → ReadsAs (render l level v) v
  | .null, _ => by
    rw [render]
    exact readsAs_token (by decide) (by decide) rfl
  | .bool true, _ => by
    rw [render]
    exact readsAs_token (by decide) (by decide) rfl
  | .bool false, _ => by
    rw [render]
    exact readsAs_token (by decide) (by decide) rfl
  | .int n, _ => by
    rw [render]
    exact readsAs_number (isNumber_toString n) rfl
  | .float x, h => by
    rw [render]
    exact readsAs_number (isNumber_render ((Value.finite_float x).mp h)) rfl
  | .str s, _ => by
    rw [render]
    exact readsAs_quoted s
  | .list [], _ => by
    rw [render]
    exact readsAs_empty_list
  | .list (v :: r), h => by
    obtain ⟨hfirst, hmore⟩ := List.forall_mem_cons.mp ((Value.finite_list _).mp h)
    have hv := readsAs_render l (level + 1) v hfirst
    have hr := readsItems_renderMore l (level + 1) r hmore
    rw [render]
    exact readsAs_list (gap_edge l (level + 1)) (gap_edge l level) hv hr
  | .object [], _ => by
    rw [render]
    exact readsAs_empty_object
  | .object ((k, v) :: r), h => by
    obtain ⟨hfirst, hmore⟩ := List.forall_mem_cons.mp ((Value.finite_object _).mp h)
    have hv := readsAs_render l (level + 1) v hfirst
    have hr := readsMembers_renderMembers l (level + 1) r hmore
    rw [render]
    exact readsAs_object (gap_edge l (level + 1)) (gap_edge l level) hv hr

theorem readsItems_renderMore (l : Layout) (level : Nat) :
    (vs : List Value) → (∀ v ∈ vs, v.Finite) → ReadsItems (renderMore l level vs) vs
  | [], _ => by
    rw [renderMore]
    exact readsItems_nil
  | v :: r, h => by
    obtain ⟨hfirst, hmore⟩ := List.forall_mem_cons.mp h
    rw [renderMore]
    exact (readsItems_renderMore l level r hmore).cons (exists_gap_between l level)
      (readsAs_render l level v hfirst)

theorem readsMembers_renderMembers (l : Layout) (level : Nat) :
    (ms : List (String × Value)) → FiniteMembers ms → ReadsMembers (renderMembers l level ms) ms
  | [], _ => by
    rw [renderMembers]
    exact readsMembers_nil
  | (k, v) :: r, h => by
    obtain ⟨hfirst, hmore⟩ := List.forall_mem_cons.mp h
    rw [renderMembers]
    exact (readsMembers_renderMembers l level r hmore).cons (exists_gap_between l level)
      (readsAs_render l level v hfirst)

end

/-- The text of a value is read as the value. -/
theorem read?_text {v : Value} (h : v.Finite) (width : Int) :
    read? (text width v).toList = some (tree v) := by
  have htext : (text width v).toList = (render (.ofWidth width) 0 v).toList ++ ['\n'] := by
    rw [text, String.toList_append]
    rfl
  have hlength : (render (.ofWidth width) 0 v).length < (text width v).toList.length + 1 := by
    rw [htext, List.length_append, String.length_toList]
    omega
  -- The fuel is the length of the whole text, of which the value leaves the line end.
  have hvalue := readsAs_render (.ofWidth width) 0 v h _ ['\n'] hlength (ends_cons rfl)
  rw [← htext] at hvalue
  rw [read?, hvalue]
  rfl

/-- The text of an object ends with its closing mark, and one line end. -/
theorem exists_text_object (width : Int) (ms : List (String × Value)) :
    ∃ body, text width (.object ms) = body ++ "\x7d\n" := by
  have hclosed : ∃ body, render (.ofWidth width) 0 (.object ms) = body ++ "\x7d" := by
    rcases ms with _ | ⟨⟨k, v⟩, r⟩
    · exact ⟨"\x7b", by rw [render]; rfl⟩
    · exact ⟨_, by rw [render]⟩
  obtain ⟨body, hbody⟩ := hclosed
  refine ⟨body, ?_⟩
  rw [text, hbody, String.append_assoc]
  rfl

end Json

/-! ## Documents -/

/-- A document without numbers that are not finite: none is in its schemas, and none in the examples of
its bodies. -/
structure Document.Finite (d : Document) : Prop where
  nodes : ∀ s ∈ d.nodes, s.Finite
  contents : ∀ m ∈ d.contents, m.exampleValue.Finite

end ApiDirectives
