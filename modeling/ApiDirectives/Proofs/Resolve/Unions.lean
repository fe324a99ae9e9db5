import ApiDirectives.Proofs.Directive.TypeNames
import ApiDirectives.Proofs.Resolve.Types
import Mathlib.Logic.Function.Iterate

/-!
# Array suffixes of unions

In the type grammar an array suffix stands behind a name, and bars join names. A type is read from its
end: suffixes at the end of the text are taken off first, from all that stands before them, and only
then is the text cut at the bars. So the suffixes of the last member apply to the whole union, and those
of every other member to the member alone. A union is what its members give one by one exactly if the
last of them has no suffix.
-/

namespace ApiDirectives

open Text Resolution

/-- The union of types that are written one by one. -/
def resolveUnion (d : Dialect) (tokens : List String) (location : Option Location) :
    Resolution Schema := do
  let members ← each (fun token => resolveType d token location) tokens
  unionSchema d members

namespace TypeExpr

/-! ## Reading from the end -/

theorem withoutSuffix?_concat (cs : List Char) : withoutSuffix? (cs ++ ['[', ']']) = some cs := by
  simp [withoutSuffix?]

theorem withoutSuffix?_of_ne {c : Char} (hc : c ≠ ']') (cs : List Char) :
    withoutSuffix? (cs ++ [c]) = none := by
  simp [withoutSuffix?, hc]

theorem read_eq_array {cs r : List Char} (h : withoutSuffix? (trimList cs) = some r) :
    read cs = .array (read r) := by
  rw [read]
  split <;> simp_all

theorem read_eq_union {cs : List Char} (h : withoutSuffix? (trimList cs) = none)
    (hbar : '|' ∈ trimList cs) :
    read cs = .union (((piecesOf '|' (trimList cs)).filter (!·.isEmpty)).map readMember) := by
  rw [read]
  split <;> simp_all

/-- Suffixes at the end are arrays of what stands before them. -/
theorem read_suffixes {cs : List Char} (h : ∀ c ∈ cs, isBlank c = false) (n : Nat) :
    read (cs ++ suffixes n) = array^[n] (read cs) := by
  induction n with
  | zero => simp [suffixes]
  | succ n ih =>
    have hblank : ∀ c ∈ cs ++ suffixes (n + 1), isBlank c = false := by
      intro c hc
      rcases List.mem_append.mp hc with hbefore | hsuffix
      · exact h c hbefore
      · rcases mem_suffixes hsuffix with rfl | rfl
        · decide
        · decide
    have hcut : withoutSuffix? (trimList (cs ++ suffixes (n + 1))) = some (cs ++ suffixes n) := by
      rw [trimList, trimOf_eq_self hblank, suffixes_concat, ← List.append_assoc]
      exact withoutSuffix?_concat _
    rw [read_eq_array hcut, ih, Function.iterate_succ_apply']

/-- Where there is no bar, a member is read as a type. -/
theorem readMember_eq_read {cs : List Char} (h : '|' ∉ cs) : readMember cs = read cs := by
  have htrim : ∀ cs : List Char, '|' ∉ cs → '|' ∉ trimList cs := by
    intro cs hcs hmem
    refine hcs ((List.dropWhile_sublist isBlank).mem ?_)
    apply List.mem_reverse.mp
    apply (List.dropWhile_sublist isBlank).mem
    exact List.mem_reverse.mp hmem
  fun_induction readMember cs with
  | case1 cs r hsuffix ih =>
    have hr : '|' ∉ r := by
      intro hmem
      apply htrim cs h
      unfold withoutSuffix? at hsuffix
      split at hsuffix
      · rename_i t ht
        cases hsuffix
        apply List.mem_reverse.mp
        rw [ht]
        simpa using hmem
      · cases hsuffix
    rw [read_eq_array hsuffix, ih hr]
  | case2 cs hname =>
    rw [read]
    split
    · simp_all
    · rw [if_neg (by simpa using htrim cs h)]

/-! ## Unions -/

/-- A text that can be a member of a union: not empty, of type characters, and without a bar. -/
def IsMemberText (token : String) : Prop :=
  token.toList ≠ [] ∧ ∀ c ∈ token.toList, Line.isTypeChar c = true ∧ c ≠ '|'

theorem isMemberText_of_isTypeName {name : String} (h : Line.isTypeName name.toList = true) :
    IsMemberText name := by
  refine ⟨?_, Line.isTypeChar_of_isTypeName h⟩
  intro hnil
  rw [hnil] at h
  cases h

theorem isMemberText_elementName {name : String} (h : Line.isTypeName name.toList = true) :
    IsMemberText (elementName name) := by
  refine ⟨Line.elementName_ne_nil h, fun c hc => Line.isTypeChar_of_isTypeName h c ?_⟩
  rw [Line.toList_of_isTypeName h]
  exact List.mem_append_left _ hc

section Joined

variable {tokens : List String} (hne : tokens ≠ []) (htokens : ∀ token ∈ tokens, IsMemberText token)

include hne htokens

theorem piecesOf_joined_members :
    piecesOf '|' (joined "|" tokens).toList = tokens.map String.toList :=
  piecesOf_joined hne fun token htoken hbar => ((htokens token htoken).2 _ hbar).2 rfl

theorem not_isBlank_of_mem_joined {c : Char} (hc : c ∈ (joined "|" tokens).toList) :
    isBlank c = false := by
  by_cases hbar : c = '|'
  · subst hbar
    decide
  · obtain ⟨part, hpart, hin⟩ := mem_piecesOf hbar hc
    rw [piecesOf_joined_members hne htokens] at hpart
    obtain ⟨token, htoken, rfl⟩ := List.mem_map.mp hpart
    exact Line.isBlank_of_isTypeChar ((htokens token htoken).2 c hin).1

end Joined

/-- Members joined by bars are a union, unless a suffix stands at the end. -/
theorem read_joined {tokens : List String} {last : String} {c : Char} {r : List Char}
    (hne : tokens ≠ []) (htokens : ∀ token ∈ tokens ++ [last], IsMemberText token)
    (hlast : last.toList = r ++ [c]) (hc : c ≠ ']') :
    read (joined "|" (tokens ++ [last])).toList = .union ((tokens ++ [last]).map ofString) := by
  have hall : tokens ++ [last] ≠ [] := by simp
  have htext : (joined "|" (tokens ++ [last])).toList =
      (joined "|" tokens).toList ++ '|' :: (r ++ [c]) := by
    rw [joined, String.intercalate_append_of_ne_nil hne (List.cons_ne_nil _ _),
      String.intercalate_singleton]
    simp [joined, hlast]
  have htrim : trimList (joined "|" (tokens ++ [last])).toList =
      (joined "|" (tokens ++ [last])).toList :=
    trimOf_eq_self fun c hc => not_isBlank_of_mem_joined hall htokens hc
  have hnone : withoutSuffix? (trimList (joined "|" (tokens ++ [last])).toList) = none := by
    rw [htrim, htext, ← List.cons_append, ← List.append_assoc]
    exact withoutSuffix?_of_ne hc _
  have hbar : '|' ∈ trimList (joined "|" (tokens ++ [last])).toList := by
    rw [htrim, htext]
    simp
  -- No piece is empty, and a piece has no bar, so it is read as a type of its own.
  have hfilter : ((tokens ++ [last]).map String.toList).filter (!·.isEmpty) =
      (tokens ++ [last]).map String.toList := by
    refine List.filter_eq_self.mpr ?_
    intro cs hcs
    obtain ⟨token, htoken, rfl⟩ := List.mem_map.mp hcs
    simpa using (htokens token htoken).1
  rw [read_eq_union hnone hbar, htrim, piecesOf_joined_members hall htokens, hfilter, List.map_map]
  congr 1
  refine List.map_congr_left fun token htoken => ?_
  exact readMember_eq_read fun hmem => ((htokens token htoken).2 _ hmem).2 rfl

/-- The suffixes of the last member apply to the union. -/
theorem ofString_joined {members : List String} {last : String} (hmembers : members ≠ [])
    (hnames : ∀ m ∈ members ++ [last], Line.isTypeName m.toList = true) :
    ofString (joined "|" (members ++ [last])) =
      array^[arrayDepth last] (.union ((members ++ [elementName last]).map ofString)) := by
  have hlast : Line.isTypeName last.toList = true := hnames last (by simp)
  have htext : (joined "|" (members ++ [last])).toList =
      (joined "|" (members ++ [elementName last])).toList ++ suffixes (arrayDepth last) := by
    rw [joined, joined, String.intercalate_append_of_ne_nil hmembers (List.cons_ne_nil _ _),
      String.intercalate_append_of_ne_nil hmembers (List.cons_ne_nil _ _),
      String.intercalate_singleton, String.intercalate_singleton]
    simp [Line.toList_of_isTypeName hlast]
  have htokens : ∀ token ∈ members ++ [elementName last], IsMemberText token := by
    intro token htoken
    rcases List.mem_append.mp htoken with hmember | hword
    · exact isMemberText_of_isTypeName (hnames token (List.mem_append_left _ hmember))
    · rw [List.mem_singleton.mp hword]
      exact isMemberText_elementName hlast
  obtain ⟨r, c, hword⟩ : ∃ r c, (elementName last).toList = r ++ [c] :=
    ⟨_, _, (List.dropLast_append_getLast (Line.elementName_ne_nil hlast)).symm⟩
  have hc : c ≠ ']' := by
    have hname : isNameChar c = true := by
      apply Line.isNameChar_of_mem_elementName
      rw [hword]
      simp
    rintro rfl
    exact absurd hname (by decide)
  rw [ofString, htext, read_suffixes, read_joined hmembers htokens hword hc]
  exact fun c hc => not_isBlank_of_mem_joined (by simp) htokens hc

/-! ## Schemas -/

variable (d : Dialect) (location : Option Location)

theorem schemas_map_ofString (tokens : List String) :
    TypeExpr.schemas d location (tokens.map ofString) =
      each (fun token => resolveType d token location) tokens := by
  induction tokens with
  | nil => rfl
  | cons token tokens ih =>
    rw [List.map_cons, TypeExpr.schemas, ih, each_cons]
    rfl

theorem schema_arrays (n : Nat) (t : TypeExpr) :
    (array^[n] t).schema d location = Schema.arrayOf^[n] <$> t.schema d location := by
  induction n with
  | zero => simp
  | succ n ih =>
    rw [Function.iterate_succ_apply', TypeExpr.schema, ih, Function.iterate_succ']
    simp [Function.comp_def]

theorem isMember_ofString {token : String} (h : IsMemberText token) : (ofString token).IsMember := by
  rw [ofString, ← readMember_eq_read fun hmem => (h.2 _ hmem).2 rfl]
  exact isMember_readMember _

/-- A name with a suffix is an array. -/
theorem ofString_eq_array {name : String} (h : Line.isTypeName name.toList = true)
    (hdepth : arrayDepth name ≠ 0) : ∃ t, ofString name = .array t := by
  obtain ⟨n, hn⟩ := Nat.exists_eq_succ_of_ne_zero hdepth
  refine ⟨array^[n] (read (elementName name).toList), ?_⟩
  rw [ofString, Line.toList_of_isTypeName h, hn, read_suffixes, Function.iterate_succ_apply']
  exact fun c hc => not_isBlank_of_isNameChar (Line.isNameChar_of_mem_elementName hc)

end TypeExpr

/-- A union with an array among its members is kept as alternatives, in every dialect. -/
theorem resolveUnion_of_array (d : Dialect) (location : Option Location) {tokens : List String}
    (htokens : ∀ token ∈ tokens, (TypeExpr.ofString token).IsMember) {token : String}
    (htoken : token ∈ tokens) {t : TypeExpr} (harray : TypeExpr.ofString token = .array t) :
    ∃ ss ns, resolveUnion d tokens location = .ok ({ oneOf := ss }, ns) := by
  have hmembers : ∀ t ∈ tokens.map TypeExpr.ofString, t.IsMember := by
    intro t ht
    obtain ⟨token, hmem, rfl⟩ := List.mem_map.mp ht
    exact htokens token hmem
  obtain ⟨ss, ns, hss, hplain, _⟩ := TypeExpr.schemas_members d location hmembers
  have hmixed : ¬ ss.all Schema.isPlainPrimitive = true := by
    rw [all_isPlainPrimitive_eq hplain]
    intro hall
    have hprimitive := List.all_eq_true.mp hall _ (List.mem_map.mpr ⟨token, htoken, rfl⟩)
    rw [harray] at hprimitive
    cases hprimitive
  refine ⟨ss, ns ++ [], ?_⟩
  rw [TypeExpr.schemas_map_ofString] at hss
  refine bind_eq_ok_iff.mpr ⟨ss, ns, [], hss, ?_, rfl⟩
  rw [unionSchema, if_neg hmixed]
  rfl

/-- Suffixes of the last member of a union make arrays of the whole union; those of other members
belong to their members. So a union is what its members give one by one exactly if the last member has
no suffix. -/
theorem union_suffix_binding (d : Dialect) (location : Option Location) {members : List String}
    {last : String} (hmembers : members ≠ [])
    (hnames : ∀ m ∈ members ++ [last], Line.isTypeName m.toList = true) :
    resolveType d (joined "|" (members ++ [last])) location =
        Schema.arrayOf^[arrayDepth last] <$>
          resolveUnion d (members ++ [elementName last]) location ∧
      (resolveType d (joined "|" (members ++ [last])) location =
          resolveUnion d (members ++ [last]) location ↔ arrayDepth last = 0) := by
  have hlast : Line.isTypeName last.toList = true := hnames last (by simp)
  have hreads : resolveType d (joined "|" (members ++ [last])) location =
      Schema.arrayOf^[arrayDepth last] <$>
        resolveUnion d (members ++ [elementName last]) location := by
    rw [resolveType, TypeExpr.ofString_joined hmembers hnames, TypeExpr.schema_arrays,
      TypeExpr.schema, TypeExpr.schemas_map_ofString]
    rfl
  refine ⟨hreads, ?_⟩
  constructor
  · -- With a suffix one side is an array, or stops, and the other has no type.
    intro hsame
    by_contra hdepth
    obtain ⟨t, harray⟩ := TypeExpr.ofString_eq_array hlast hdepth
    obtain ⟨ss, ns, hunion⟩ := resolveUnion_of_array d location
      (fun token htoken => TypeExpr.isMember_ofString
        (TypeExpr.isMemberText_of_isTypeName (hnames token htoken)))
      (List.mem_append_right members (List.mem_singleton_self last)) harray
    obtain ⟨n, hn⟩ := Nat.exists_eq_succ_of_ne_zero hdepth
    rw [hunion, hreads, hn, Function.iterate_succ', map_eq_pure_bind] at hsame
    obtain ⟨s, before, later, _, hs, _⟩ := bind_eq_ok_iff.mp hsame
    have htypes : (Schema.arrayOf (Schema.arrayOf^[n] s)).type = [] :=
      congrArg (fun found => found.1.type) (Except.ok.inj hs)
    cases htypes
  · intro hdepth
    have hword : elementName last = last := by
      apply String.toList_injective
      rw [Line.toList_of_isTypeName hlast, hdepth]
      simp [suffixes]
    rw [hreads, hdepth, hword]
    simp

/-- An array that is not the last member stays a member. -/
theorem union_suffix_binding_at_array_first :
    (∀ m ∈ ["int64[]", "null"], Line.isTypeName m.toList = true) ∧
      resolveType (.of "3.1.0") "int64[]|null" none =
        resolveUnion (.of "3.1.0") ["int64[]", "null"] none := by
  have hnames : ∀ m ∈ ["int64[]"] ++ ["null"], Line.isTypeName m.toList = true := by decide
  have hdepth : arrayDepth "null" = 0 := by decide
  refine ⟨hnames, ?_⟩
  exact (union_suffix_binding (.of "3.1.0") none (List.cons_ne_nil _ _) hnames).2.mpr hdepth

/-- An array that is the last member takes the others into the array. -/
theorem array_of_union_at_last_suffix :
    (∀ m ∈ ["string", "int64[]"], Line.isTypeName m.toList = true) ∧
      resolveType (.of "3.0.3") (joined "|" ["string", "int64[]"]) none ≠
        resolveUnion (.of "3.0.3") ["string", "int64[]"] none := by
  refine ⟨by decide, ?_⟩
  intro hsame
  have htypes := congrArg (fun found => found.toOption.map fun r => r.1.type) hsame
  exact absurd htypes (by decide +kernel)

end ApiDirectives
