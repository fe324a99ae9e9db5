import ApiDirectives.Proofs.Resolve.Constraints

/-!
# Every value is accounted for

A text is read for a schema along the arrays of the schema: an array takes the text apart at its commas,
and what is not blank between them is read for the type inside. `Accounts` says what such a reading comes
to, leaf by leaf, and lists the leaves that kept their text although their type asks for a conversion.
Coercion always gives a value that accounts for its text, with one warning for each leaf on the list.
-/

namespace ApiDirectives

open Text Resolution

/-! ## Accounts -/

/-- The types that a text is converted to. -/
def isConverted (type : String) : Bool := type == "integer" || type == "number" || type == "boolean"

/-- Whether a value is one of a type that texts are converted to. A number is an integer or a finite
double. -/
def Value.isOf (type : String) : Value → Bool
  | .int _ => type == "integer" || type == "number"
  | .float x => type == "number" && x.isFinite
  | .bool _ => type == "boolean"
  | _ => false

/-- The elements of an array's text: what is not blank between its commas, without the blanks at its
ends. -/
def elementTexts (text : String) : List String :=
  ((pieces ',' text).filter fun piece => !piece.toList.all isBlank).map trim

mutual

/-- A value accounts for a text that is read for a schema. The list has the type and the text of each
leaf that should have been converted and was not. -/
inductive Accounts : Schema → String → Value → List (String × String) → Prop
  | converted {s : Schema} {text : String} {v : Value} :
      isConverted s.primaryType = true → readPrimitive s.primaryType text = some v →
      v.isOf s.primaryType = true → Accounts s text v []
  | kept {s : Schema} {text : String} :
      isConverted s.primaryType = true → readPrimitive s.primaryType text = none →
      Accounts s text (.str text) [(s.primaryType, text)]
  | untouched {s : Schema} {text : String} :
      isConverted s.primaryType = false → (s.primaryType = "array" → s.items = none) →
      Accounts s text (.str text) []
  | elements {s inner : Schema} {text : String} {vs : List Value} {left : List (String × String)} :
      s.primaryType = "array" → s.items = some inner →
      AccountsEach inner (elementTexts text) vs left → Accounts s text (.list vs) left

/-- Values account for texts one by one. -/
inductive AccountsEach : Schema → List String → List Value → List (String × String) → Prop
  | nil {s : Schema} : AccountsEach s [] [] []
  | cons {s : Schema} {text : String} {v : Value} {texts : List String} {vs : List Value}
      {left rest : List (String × String)} :
      Accounts s text v left → AccountsEach s texts vs rest →
      AccountsEach s (text :: texts) (v :: vs) (left ++ rest)

end

/-! ## Leaves -/

/-- A finite double is read as a number, and nothing else is. -/
theorem isOf_of_readFinite {text : String} {x : Number} (h : readFinite text = some x) :
    x.value.isOf "number" = true := by
  unfold readFinite at h
  split at h
  · split at h
    · cases h
    · rename_i hfinite hint
      dsimp only at h
      split at h
      · cases h
        rfl
      · cases h
        simpa [Number.value, Value.isOf] using hfinite
    · rename_i hfinite hint
      cases h
      simpa [Number.value, Value.isOf] using hfinite
  · cases h

theorem isOf_of_readPrimitive {type text : String} {v : Value} (htype : isConverted type = true)
    (h : readPrimitive type text = some v) : v.isOf type = true := by
  have htype : type = "integer" ∨ type = "number" ∨ type = "boolean" := by
    simpa [isConverted, or_assoc] using htype
  rcases htype with rfl | rfl | rfl
  · obtain ⟨n, -, rfl⟩ := Option.map_eq_some_iff.mp h
    rfl
  · obtain ⟨x, hread, rfl⟩ := Option.map_eq_some_iff.mp h
    exact isOf_of_readFinite hread
  · obtain ⟨b, -, rfl⟩ := Option.map_eq_some_iff.mp h
    rfl

theorem readPrimitive_of_not_converted {type : String} (h : isConverted type = false) (text : String) :
    readPrimitive type text = some (.str text) := by
  have htype : (type ≠ "integer" ∧ type ≠ "number") ∧ type ≠ "boolean" := by
    simpa [isConverted] using h
  obtain ⟨⟨hinteger, hnumber⟩, hboolean⟩ := htype
  rw [readPrimitive, if_neg hinteger, if_neg hnumber, if_neg hboolean]

/-! ## Shapes -/

/-- The shape of a schema is an array exactly where its first type is one and its elements have a
schema. -/
theorem Schema.shape_cases (s : Schema) :
    (∃ inner, s.primaryType = "array" ∧ s.items = some inner ∧ s.shape = .array inner.shape) ∨
      (s.primaryType = "array" → s.items = none) ∧ s.shape = .leaf s.primaryType := by
  by_cases harray : s.primaryType = "array"
  · cases s
    rename_i items _ _ _ _ _ _ _ _ _ _ _
    unfold Schema.primaryType at harray
    dsimp only at harray
    cases items with
    | none =>
      refine .inr ⟨fun _ => rfl, ?_⟩
      rw [Schema.shape, Schema.primaryType]
      rintro inner - ⟨⟩
    | some inner =>
      refine .inl ⟨inner, harray, rfl, ?_⟩
      rw [Schema.shape]
      exact harray
  · exact .inr ⟨fun h => absurd h harray, shape_of_primaryType rfl harray⟩

theorem trimList_eq_nil_iff (cs : List Char) : trimList cs = [] ↔ cs.all isBlank = true := by
  rw [trimList, trimOf, dropEnd, List.reverse_eq_nil_iff, List.dropWhile_eq_nil_iff, List.all_eq_true]
  constructor
  · intro h c hc
    by_contra hblank
    -- What is left of the text from its first solid character on has that character in it.
    have hleft : cs.dropWhile isBlank ≠ [] := fun hnil => hblank (List.dropWhile_eq_nil_iff.mp hnil c hc)
    have hhead := List.head_dropWhile_not isBlank hleft
    rw [h _ (List.mem_reverse.mpr (List.head_mem hleft))] at hhead
    cases hhead
  · intro h c hc
    exact h c ((List.dropWhile_suffix isBlank).mem (List.mem_reverse.mp hc))

theorem filter_commaPieces (text : String) :
    (commaPieces text).filter (· != "") = elementTexts text := by
  unfold commaPieces elementTexts pieces
  rw [List.filter_map, List.filter_map, List.map_map]
  congr 1
  · funext p
    simp [trim]
  · congr 1
    funext p
    have hempty : String.ofList (trimList p) = "" ↔ p.all isBlank = true := by
      rw [← trimList_eq_nil_iff, ← String.ofList_nil, String.ofList_inj]
    rw [Bool.eq_iff_iff]
    simpa [bne_iff_ne] using not_congr hempty

/-! ## Coercion -/

section Coercion

variable (what : String) (location : Option Location)

/-- The warning for a leaf that keeps its text. -/
def leftWarning (left : String × String) : Diagnostic := ⟨.unreadableValue what left.2 left.1, location⟩

/-- What is noticed of the leaves that keep their text. -/
def leftNotices (left : List (String × String)) : List Notice :=
  left.map fun l => .finding (leftWarning what location l)

/-- A text that is no array's is converted, or kept with a warning if it should have been. -/
theorem coercePrimitive_accounts {s : Schema} (hitems : s.primaryType = "array" → s.items = none)
    (text : String) :
    ∃ v left, coercePrimitive s.primaryType text what location =
      .ok (v, leftNotices what location left) ∧ Accounts s text v left := by
  cases htype : isConverted s.primaryType with
  | false =>
    refine ⟨.str text, [], ?_, .untouched htype hitems⟩
    rw [coercePrimitive, readPrimitive_of_not_converted htype]
    rfl
  | true =>
    cases hread : readPrimitive s.primaryType text with
    | some v =>
      refine ⟨v, [], ?_, .converted htype hread (isOf_of_readPrimitive htype hread)⟩
      rw [coercePrimitive, hread]
      rfl
    | none =>
      refine ⟨.str text, _, ?_, .kept htype hread⟩
      rw [coercePrimitive, hread]
      rfl

/-- Where each text is accounted for, so are all, with the warnings in order. -/
theorem each_accounts {s : Schema} {f : String → Resolution Value}
    (hf : ∀ text, ∃ v left, f text = .ok (v, leftNotices what location left) ∧ Accounts s text v left)
    (texts : List String) :
    ∃ vs left, each f texts = .ok (vs, leftNotices what location left) ∧
      AccountsEach s texts vs left := by
  induction texts with
  | nil => exact ⟨[], [], rfl, .nil⟩
  | cons text texts ih =>
    obtain ⟨v, left, hv, haccounts⟩ := hf text
    obtain ⟨vs, rest, hvs, hrest⟩ := ih
    refine ⟨v :: vs, left ++ rest, ?_, .cons haccounts hrest⟩
    rw [each_cons, bind_eq_ok_iff]
    refine ⟨v, _, leftNotices what location rest, hv, ?_, ?_⟩
    · rw [bind_eq_ok_iff]
      exact ⟨vs, _, [], hvs, rfl, (List.append_nil _).symm⟩
    · rw [leftNotices, List.map_append]
      rfl

/-- Coercion gives a value that accounts for the text, and notices the leaves that keep theirs. -/
theorem coerce_accounts (s : Schema) (text : String) :
    ∃ v left, s.coerce text what location = .ok (v, leftNotices what location left) ∧
      Accounts s text v left := by
  unfold Schema.coerce
  -- By the array levels of the schema: the schema inside an array has one level less.
  generalize hshape : s.shape = shape
  induction shape generalizing s text with
  | leaf type =>
    obtain ⟨inner, -, -, harray⟩ | ⟨hitems, hleaf⟩ := s.shape_cases
    · rw [hshape] at harray
      cases harray
    · rw [hshape] at hleaf
      cases hleaf
      exact coercePrimitive_accounts what location hitems text
  | array items ih =>
    obtain ⟨inner, htype, hinner, harray⟩ | ⟨-, hleaf⟩ := s.shape_cases
    · rw [hshape] at harray
      cases harray
      obtain ⟨vs, left, hvs, heach⟩ :=
        each_accounts what location (fun t => ih inner t rfl) (elementTexts text)
      refine ⟨.list vs, left, ?_, .elements htype hinner heach⟩
      rw [ValueShape.coerce, filter_commaPieces, bind_eq_ok_iff]
      exact ⟨vs, _, [], hvs, rfl, (List.append_nil _).symm⟩
    · rw [hshape] at hleaf
      cases hleaf

/-- What is noticed of leaves is reported as it is, whatever was reported before. -/
theorem settle_leftNotices (declared reported : List String) (left : List (String × String)) :
    settle declared reported (leftNotices what location left) =
      (left.map (leftWarning what location), reported) := by
  induction left with
  | nil => rfl
  | cons l left ih =>
    rw [leftNotices, List.map_cons, settle, ← leftNotices, ih]
    rfl

end Coercion

/-- Coercion accounts for every value: for every schema, text and label it gives a value that accounts
for the text, and the diagnostics it adds are warnings, one for each leaf that should have been converted
and kept its text. -/
theorem coercion_accounts_for_values (s : Schema) (text what : String) (location : Option Location)
    (declared reported : List String) :
    ∃ v ns left, s.coerce text what location = .ok (v, ns) ∧ Accounts s text v left ∧
      settle declared reported ns = (left.map (leftWarning what location), reported) ∧
      (settle declared reported ns).1.length = left.length ∧
      ∀ d ∈ (settle declared reported ns).1, d.severity = .warning := by
  obtain ⟨v, left, hv, haccounts⟩ := coerce_accounts what location s text
  have hsettle := settle_leftNotices what location declared reported left
  refine ⟨v, _, left, hv, haccounts, hsettle, ?_, ?_⟩
  · rw [hsettle, List.length_map]
  · intro d hd
    rw [hsettle] at hd
    obtain ⟨l, -, rfl⟩ := List.mem_map.mp hd
    rfl

end ApiDirectives
