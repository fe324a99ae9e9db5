import ApiDirectives.Proofs.Directive.Members

/-!
# Names in the type grammar

A type is names joined by bars, and each name is a word with any number of array suffixes behind it:
`IsGrammarType` and `IsGrammarName` say so without a reader, and the reader of types accepts exactly
these. A name falls into two parts, its `elementName` and `arrayDepth` many suffixes, and neither has a
bar or a blank in it.
-/

namespace ApiDirectives

open Text

/-- Array suffixes, one behind another. -/
def suffixes (n : Nat) : List Char :=
  (List.replicate n ['[', ']']).flatten

theorem suffixes_succ (n : Nat) : suffixes (n + 1) = '[' :: ']' :: suffixes n := by
  simp [suffixes, List.replicate_succ]

theorem suffixes_concat (n : Nat) : suffixes (n + 1) = suffixes n ++ ['[', ']'] := by
  simp [suffixes, List.replicate_succ']

theorem length_suffixes (n : Nat) : (suffixes n).length = 2 * n := by
  simp [suffixes, Nat.mul_comm]

theorem mem_suffixes {n : Nat} {c : Char} (h : c ∈ suffixes n) : c = '[' ∨ c = ']' := by
  simp only [suffixes, List.mem_flatten, List.mem_replicate] at h
  obtain ⟨mark, ⟨_, rfl⟩, hc⟩ := h
  exact List.mem_pair.mp hc

/-- A name of the type grammar: a word character, word characters and hyphens behind it, and then array
suffixes. -/
def IsGrammarName (name : String) : Prop :=
  ∃ first word n, isWord first = true ∧ (∀ c ∈ word, isWord c = true ∨ c = '-') ∧
    name.toList = first :: word ++ suffixes n

/-- A type of the grammar: one name or more, joined by bars. -/
def IsGrammarType (type : String) : Prop :=
  ∃ names, names ≠ [] ∧ (∀ name ∈ names, IsGrammarName name) ∧ type = joined "|" names

/-- The word that a name of the type grammar begins with. -/
def elementName (name : String) : String :=
  String.ofList (name.toList.takeWhile isNameChar)

/-- How many array suffixes a name of the type grammar has. -/
def arrayDepth (name : String) : Nat :=
  (name.toList.dropWhile isNameChar).length / 2

namespace Line

theorem exists_of_areSuffixes {cs : List Char} (h : areSuffixes cs = true) : ∃ n, cs = suffixes n := by
  fun_induction areSuffixes cs with
  | case1 => exact ⟨0, rfl⟩
  | case2 r ih =>
    obtain ⟨n, rfl⟩ := ih h
    exact ⟨n + 1, (suffixes_succ n).symm⟩
  | case3 => cases h

theorem areSuffixes_suffixes (n : Nat) : areSuffixes (suffixes n) = true := by
  induction n with
  | zero => rfl
  | succ n ih =>
    rw [suffixes_succ]
    exact ih

/-- A name is its word and its suffixes. -/
theorem toList_of_isTypeName {name : String} (h : isTypeName name.toList = true) :
    name.toList = (elementName name).toList ++ suffixes (arrayDepth name) := by
  cases hname : name.toList with
  | nil =>
    rw [hname] at h
    cases h
  | cons c r =>
    rw [hname] at h
    obtain ⟨hword, hsuffixes⟩ := Bool.and_eq_true_iff.mp h
    have hnameChar : isNameChar c = true := by simp [isNameChar, hword]
    obtain ⟨n, hn⟩ := exists_of_areSuffixes hsuffixes
    have hdrop : (c :: r).dropWhile isNameChar = suffixes n := by
      rw [List.dropWhile_cons_of_pos hnameChar, hn]
    have hdepth : arrayDepth name = n := by
      rw [arrayDepth, hname, hdrop, length_suffixes]
      omega
    rw [hdepth, ← hdrop, elementName, hname, String.toList_ofList, List.takeWhile_append_dropWhile]

theorem elementName_ne_nil {name : String} (h : isTypeName name.toList = true) :
    (elementName name).toList ≠ [] := by
  rw [elementName, String.toList_ofList]
  cases hname : name.toList with
  | nil =>
    rw [hname] at h
    cases h
  | cons c r =>
    rw [hname] at h
    have hword : isWord c = true := (Bool.and_eq_true_iff.mp h).1
    rw [List.takeWhile_cons_of_pos (by simp [isNameChar, hword])]
    exact List.cons_ne_nil _ _

theorem isNameChar_of_mem_elementName {name : String} {c : Char}
    (h : c ∈ (elementName name).toList) : isNameChar c = true := by
  rw [elementName, String.toList_ofList] at h
  exact List.mem_takeWhile_imp h

/-! ## Characters of types -/

theorem isBlank_of_isTypeChar {c : Char} (h : isTypeChar c = true) : isBlank c = false := by
  simp only [isTypeChar, Bool.or_eq_true, beq_iff_eq] at h
  rcases h with ((hname | rfl) | rfl) | rfl
  · exact not_isBlank_of_isNameChar hname
  · decide
  · decide
  · decide

theorem isTypeChar_of_isNameChar {c : Char} (h : isNameChar c = true) : isTypeChar c = true := by
  simp [isTypeChar, h]

/-- The characters of a name are type characters, and no bars. -/
theorem isTypeChar_of_isTypeName {cs : List Char} (h : isTypeName cs = true) :
    ∀ c ∈ cs, isTypeChar c = true ∧ c ≠ '|' := by
  have hbar : isNameChar '|' = false := by decide
  have hcs : isTypeName (String.ofList cs).toList = true := by rwa [String.toList_ofList]
  have hparts := toList_of_isTypeName hcs
  rw [String.toList_ofList] at hparts
  intro c hc
  rw [hparts] at hc
  rcases List.mem_append.mp hc with hword | hsuffix
  · have hname := isNameChar_of_mem_elementName hword
    refine ⟨isTypeChar_of_isNameChar hname, ?_⟩
    rintro rfl
    rw [hbar] at hname
    cases hname
  · rcases mem_suffixes hsuffix with rfl | rfl
    · decide
    · decide

/-- All characters of a type are type characters. -/
theorem isTypeChar_of_isType {cs : List Char} (h : isType cs = true) :
    ∀ c ∈ cs, isTypeChar c = true := by
  intro c hc
  by_cases hbar : c = '|'
  · subst hbar
    decide
  · obtain ⟨part, hpart, hmem⟩ := mem_piecesOf hbar hc
    exact (isTypeChar_of_isTypeName (List.all_eq_true.mp h part hpart) c hmem).1

/-! ## The grammar -/

theorem isGrammarName_of_isTypeName {name : String} (h : isTypeName name.toList = true) :
    IsGrammarName name := by
  have hparts := toList_of_isTypeName h
  obtain ⟨first, word, hword⟩ := List.exists_cons_of_ne_nil (elementName_ne_nil h)
  rw [hword] at hparts
  rw [hparts] at h
  refine ⟨first, word, arrayDepth name, (Bool.and_eq_true_iff.mp h).1, fun c hc => ?_, hparts⟩
  have hmem : c ∈ (elementName name).toList := by
    rw [hword]
    exact List.mem_cons_of_mem _ hc
  exact isNameChar_iff.mp (isNameChar_of_mem_elementName hmem)

theorem isTypeName_of_isGrammarName {name : String} (h : IsGrammarName name) :
    isTypeName name.toList = true := by
  obtain ⟨first, word, n, hfirst, hword, hname⟩ := h
  have hsuffixes : (suffixes n).dropWhile isNameChar = suffixes n := by
    cases n with
    | zero => rfl
    | succ n => rw [suffixes_succ, List.dropWhile_cons_of_neg (by decide)]
  rw [hname, List.cons_append, isTypeName, hfirst, Bool.true_and,
    List.dropWhile_append_of_pos fun c hc => isNameChar_iff.mpr (hword c hc), hsuffixes]
  exact areSuffixes_suffixes n

/-- The types that are read are those of the grammar. -/
theorem isType_iff {type : String} : isType type.toList = true ↔ IsGrammarType type := by
  constructor
  · intro h
    refine ⟨pieces '|' type, ?_, ?_, (joined_pieces '|' type).symm⟩
    · exact fun hnil => piecesFrom_ne_nil '|' [] type.toList (List.map_eq_nil_iff.mp hnil)
    · intro name hname
      obtain ⟨part, hpart, rfl⟩ := List.mem_map.mp hname
      apply isGrammarName_of_isTypeName
      rw [String.toList_ofList]
      exact List.all_eq_true.mp h part hpart
  · rintro ⟨names, hne, hnames, rfl⟩
    have hbars : ∀ name ∈ names, '|' ∉ name.toList := by
      intro name hname hbar
      exact (isTypeChar_of_isTypeName (isTypeName_of_isGrammarName (hnames name hname)) _ hbar).2 rfl
    rw [isType, show "|" = String.singleton '|' from rfl, piecesOf_joined hne hbars,
      List.all_eq_true]
    intro cs hcs
    obtain ⟨name, hname, rfl⟩ := List.mem_map.mp hcs
    exact isTypeName_of_isGrammarName (hnames name hname)

end Line

end ApiDirectives
