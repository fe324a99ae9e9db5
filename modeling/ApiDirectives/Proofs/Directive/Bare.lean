import ApiDirectives.Proofs.Directive.Search

/-!
# Bare constraints

A constraint may be given without quotes, as a value that has neither blanks nor quotes in it. Each
constraint is looked for on its own, behind a blank; among bare entries the blanks are those before the
entries, so a search meets no mention of its key in a value and none in the key of another entry, which
goes on where its own key ends (`Line.dropLiteral?_key`). The description is not searched at all. So the
constraints that are read are those that were written, in their fixed order.
-/

namespace ApiDirectives

open Text

/-! ## Written lines -/

/-- A constraint with its value, behind a space. -/
def bareEntry (entry : Constraint × String) : List Char :=
  ' ' :: entry.1.key.toList ++ '=' :: entry.2.toList

/-- A parameter or a field with bare constraints. -/
structure BareLine where
  /-- Where the parameter is; a field has no place. -/
  place : Option Place
  name : String
  type : String
  nullable : Bool
  description : Option String
  entries : List (Constraint × String)
  name_ne : name ≠ ""
  isNameChar_name : ∀ c ∈ name.toList, Text.isWord c = true ∨ c = '-'
  isGrammarType_type : IsGrammarType type
  unquoted_description : ∀ text ∈ description, '"' ∉ text.toList
  nodup_entries : (entries.map Prod.fst).Nodup
  value_ne : ∀ entry ∈ entries, entry.2 ≠ ""
  bare_entries : ∀ entry ∈ entries, ∀ c ∈ entry.2.toList, isBlank c = false ∧ Line.isQuote c = false

namespace BareLine

/-- What follows the type. -/
def remainder (l : BareLine) : List Char :=
  (if l.nullable then ['?'] else []) ++ (Line.noteText l.description ++ l.entries.flatMap bareEntry)

/-- The line. -/
def text (l : BareLine) : String :=
  String.ofList ('!' :: (slotKeyword l.place).toList ++ ' ' :: l.name.toList ++ ':' :: l.type.toList ++
    l.remainder)

end BareLine

namespace Line

/-! ## Searching among entries -/

theorem head?_bareEntries (entries : List (Constraint × String)) :
    ∀ c ∈ (entries.flatMap bareEntry).head?, c = ' ' := by
  cases entries with
  | nil => rintro c ⟨⟩
  | cons entry entries =>
    rintro c ⟨⟩
    rfl

/-- A bare value goes up to the blank before the next entry. -/
theorem value?_bare {v : String} (hne : v ≠ "") (hv : ∀ c ∈ v.toList, isBlank c = false ∧ isQuote c = false)
    {rest : List Char} (hrest : ∀ c ∈ rest.head?, isBlank c = true) :
    value? (v.toList ++ rest) = some v.toList := by
  have hsolid : ∀ c ∈ v.toList, isSolid c = true := by
    intro c hc
    rw [isSolid, (hv c hc).1]
    rfl
  have hend : ∀ c ∈ rest.head?, isSolid c = false := by
    intro c hc
    rw [isSolid, hrest c hc]
    rfl
  obtain ⟨d, more, hcons⟩ := List.exists_cons_of_ne_nil (l := v.toList) (by simpa using hne)
  have hd := hv d (by simp [hcons])
  have hquote : d ≠ '"' := by
    rintro rfl
    exact absurd hd.2 (by decide)
  have htaken := takeWhile_append_of_head? hsolid hend
  rw [hcons] at htaken ⊢
  rw [List.cons_append, value?_solid hd.1 hquote, ← List.cons_append, htaken]

/-- The search at an entry: its own constraint is found there, another one behind it. -/
theorem valueAfterBlank?_bareEntry (c : Constraint) {entry : Constraint × String} (hne : entry.2 ≠ "")
    (hv : ∀ d ∈ entry.2.toList, isBlank d = false ∧ isQuote d = false) {rest : List Char}
    (hrest : ∀ d ∈ rest.head?, isBlank d = true) :
    valueAfterBlank? c.key.toList (bareEntry entry ++ rest) =
      if entry.1 = c then some entry.2.toList else valueAfterBlank? c.key.toList rest := by
  obtain ⟨c', v⟩ := entry
  have hentry : bareEntry (c', v) ++ rest = ' ' :: (c'.key.toList ++ '=' :: (v.toList ++ rest)) := by
    simp [bareEntry]
  rw [hentry, valueAfterBlank?_step, if_pos (by decide), valueAt?, dropLiteral?_key]
  by_cases hc : c' = c
  · rw [if_pos hc, if_pos hc, Option.bind_eq_bind, Option.bind_some, value?_bare hne hv hrest]
    rfl
  · -- No blank is left in the entry.
    rw [if_neg hc, if_neg hc, valueAfterBlank?_append fun d hd => (key_chars c' d hd).1,
      valueAfterBlank?_cons (by decide), valueAfterBlank?_append fun d hd => (hv d hd).1]
    rfl

theorem valueAfterBlank?_bareEntries (c : Constraint) {entries : List (Constraint × String)}
    (hne : ∀ entry ∈ entries, entry.2 ≠ "")
    (h : ∀ entry ∈ entries, ∀ d ∈ entry.2.toList, isBlank d = false ∧ isQuote d = false) :
    valueAfterBlank? c.key.toList (entries.flatMap bareEntry) =
      (entries.lookup c).map String.toList := by
  induction entries with
  | nil => rfl
  | cons entry rest ih =>
    obtain ⟨hentry_ne, hne⟩ := List.forall_mem_cons.mp hne
    obtain ⟨hentry, h⟩ := List.forall_mem_cons.mp h
    have hrest : ∀ d ∈ (rest.flatMap bareEntry).head?, isBlank d = true := by
      intro d hd
      rw [head?_bareEntries rest d hd]
      decide
    rw [List.flatMap_cons, valueAfterBlank?_bareEntry c hentry_ne hentry hrest, ih hne h]
    obtain ⟨c', v⟩ := entry
    by_cases hc : c' = c
    · rw [if_pos hc, hc, List.lookup_cons_self, Option.map_some]
    · rw [if_neg hc, List.lookup_cons, beq_eq_false_iff_ne.mpr (Ne.symm hc)]

/-- The constraints that are found among bare entries are the entries. -/
theorem constraints_bareEntries {entries : List (Constraint × String)}
    (hne : ∀ entry ∈ entries, entry.2 ≠ "")
    (h : ∀ entry ∈ entries, ∀ d ∈ entry.2.toList, isBlank d = false ∧ isQuote d = false) :
    constraints (entries.flatMap bareEntry) = chosen fun c => entries.lookup c := by
  rw [constraints_eq_chosen]
  congr 1
  funext c
  have hfront : valueAt? c.key.toList (entries.flatMap bareEntry) = none := by
    cases entries with
    | nil => cases c <;> rfl
    | cons entry rest => cases c <;> rfl
  rw [scanKey, hfront]
  dsimp only
  rw [valueAfterBlank?_bareEntries c hne h]
  cases hlookup : entries.lookup c with
  | none => rfl
  | some v =>
    obtain ⟨before, later, hentries, -⟩ := List.lookup_eq_some_iff.mp hlookup
    have hv := h (c, v) (by simp [hentries])
    rw [Option.map_some, Option.map_some, Option.map_some, trimOf_eq_self fun d hd => (hv d hd).2,
      String.ofList_toList]

/-- Entries open no description. -/
theorem note_bareEntries (entries : List (Constraint × String)) :
    note (entries.flatMap bareEntry) = ([], entries.flatMap bareEntry) := by
  cases entries with
  | nil => rfl
  | cons entry rest =>
    have hne : entry.1.key.toList ≠ [] := by cases entry.1 <;> decide
    obtain ⟨d, more, hkey⟩ := List.exists_cons_of_ne_nil hne
    obtain ⟨hblank, hquote⟩ := key_chars entry.1 d (by simp [hkey])
    rw [List.flatMap_cons, bareEntry, hkey]
    refine note_unquoted hblank ?_ _
    rintro rfl
    exact absurd hquote (by decide)

end Line

/-! ## Reading the line -/

namespace BareLine

variable (l : BareLine)

/-- The line up to its colon. -/
def head : SlotHead :=
  .ofName l.place l.name l.name_ne fun c hc => Line.isNameChar_iff.mpr (l.isNameChar_name c hc)

theorem toList_text : l.text.toList = l.head.text (l.type.toList ++ l.remainder) := by
  simp [text, head, SlotHead.ofName, SlotHead.text, SlotHead.tail]

/-- The members that are read: those that were written, the constraints in their fixed order. -/
def slot : Slot :=
  ⟨l.name, l.type, l.description.getD "", Line.isRequired (l.head.tail (l.type.toList ++ l.remainder)),
    l.nullable, chosen fun c => l.entries.lookup c⟩

theorem isTypeChar_type : ∀ c ∈ l.type.toList, Line.isTypeChar c = true :=
  Line.isTypeChar_of_isType (Line.isType_iff.mpr l.isGrammarType_type)

/-- A space follows the question mark, or the type if there is none. -/
theorem head?_afterMark :
    ∀ c ∈ (Line.noteText l.description ++ l.entries.flatMap bareEntry).head?, isBlank c = true := by
  refine Line.head?_noteText l.description fun c hc => ?_
  rw [Line.head?_bareEntries l.entries c hc]
  decide

theorem questionMark_remainder : Line.questionMark l.remainder =
    (l.nullable, Line.noteText l.description ++ l.entries.flatMap bareEntry) := by
  rw [remainder]
  cases l.nullable with
  | true => rfl
  | false =>
    refine Line.questionMark_of_ne fun hmark => ?_
    exact absurd (l.head?_afterMark '?' hmark) (by decide)

/-- A question mark or a blank follows the type, if anything does. -/
theorem head?_remainder : ∀ c ∈ l.remainder.head?, c = '?' ∨ isBlank c = true := by
  rw [remainder]
  cases l.nullable with
  | true =>
    rintro c ⟨⟩
    exact .inl rfl
  | false => exact fun c hc => .inr (l.head?_afterMark c hc)

theorem slot_head : l.head.slot (l.type.toList ++ l.remainder) = l.slot := by
  rw [SlotHead.slot, Line.takeWhile_type l.isTypeChar_type l.head?_remainder,
    Line.dropWhile_type l.isTypeChar_type l.head?_remainder, l.questionMark_remainder]
  dsimp only
  rw [Line.note_noteText l.unquoted_description (Line.note_bareEntries l.entries),
    Line.constraints_bareEntries l.value_ne l.bare_entries]
  simp [slot, head, SlotHead.ofName]

/-- The line ends in a value, in the quote behind the description, in a question mark, or in the type. -/
theorem endsInWord_text : EndsInWord l.text.toList := by
  have htext : l.text.toList = '!' :: (slotKeyword l.place).toList ++ ' ' :: l.name.toList ++ [':'] ++
      (l.type.toList ++ if l.nullable then ['?'] else []) ++ Line.noteText l.description ++
        l.entries.flatMap bareEntry := by
    simp [text, remainder]
  have htype_ne : l.type.toList ≠ [] := by
    intro hnil
    have htype := Line.isType_iff.mpr l.isGrammarType_type
    rw [hnil] at htype
    exact absurd htype (by decide)
  rw [htext]
  refine (Line.endsInWord_noteText (.of_word _ ?_ ?_) l.description).append_flatMap ?_
  · simp [htype_ne]
  · intro c hc
    rcases List.mem_append.mp hc with htype | hmark
    · exact Line.isBlank_of_isTypeChar (l.isTypeChar_type c htype)
    · cases hnullable : l.nullable with
      | true =>
        obtain rfl : c = '?' := by simpa [hnullable] using hmark
        decide
      | false => simp [hnullable] at hmark
  · intro entry hentry
    have hne : entry.2.toList ≠ [] := by simpa using l.value_ne entry hentry
    rw [bareEntry, List.append_cons]
    exact .of_word _ hne fun c hc => (l.bare_entries entry hentry c hc).1

theorem trimList_text : trimList l.text.toList = l.text.toList := by
  refine l.endsInWord_text.trimList_eq ?_
  rw [l.toList_text]
  rintro c ⟨⟩
  decide

/-- The line is accepted. -/
theorem ofLine?_text : Remark.ofLine? l.text = some ⟨l.text, .ofSlot l.place l.slot⟩ := by
  have htype : (l.type.toList ++ l.remainder).takeWhile Line.isTypeChar = l.type.toList :=
    Line.takeWhile_type l.isTypeChar_type l.head?_remainder
  rw [Remark.ofLine?, l.trimList_text, l.toList_text, l.head.remark?_text, htype,
    if_pos (Line.isType_iff.mpr l.isGrammarType_type), ← l.toList_text, l.slot_head]
  simp [head, SlotHead.ofName]

theorem constraints_slot_perm : l.slot.constraints.Perm l.entries :=
  chosen_lookup_perm l.nodup_entries

end BareLine

end ApiDirectives
