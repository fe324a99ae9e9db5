import ApiDirectives.Directive.Line
import ApiDirectives.Proofs.Text.Blank

/-!
# Members of a line

The readers of members go from left to right, so what they do on a text that is known in parts is told by
the first part and the character behind it: a run ends at a character outside its class, a quoted text at
the first quote, and a keyword at a character that no name has. A line that ends in none of the blanks is
left whole by trimming.
-/

namespace ApiDirectives

open Text

namespace Line

/-! ## Runs -/

section Runs

variable {p : Char → Bool} {gap cs rest : List Char}

theorem blanks?_append (hne : gap ≠ []) (hgap : ∀ c ∈ gap, isBlank c = true)
    (hcs : ∀ c ∈ cs.head?, isBlank c = false) : blanks? (gap ++ cs) = some cs := by
  obtain ⟨g, gap, rfl⟩ := List.exists_cons_of_ne_nil hne
  obtain ⟨hg, hgap⟩ := List.forall_mem_cons.mp hgap
  rw [List.cons_append, blanks?, if_pos hg, dropWhile_append_of_head? hgap hcs]

theorem run?_append (hne : cs ≠ []) (hcs : ∀ c ∈ cs, p c = true)
    (hrest : ∀ c ∈ rest.head?, p c = false) : run? p (cs ++ rest) = some (cs, rest) := by
  rw [run?, takeWhile_append_of_head? hcs hrest, dropWhile_append_of_head? hcs hrest]
  simpa using hne

/-- A solid text behind a space goes up to a blank or the end. -/
theorem solid?_append (hne : cs ≠ []) (hcs : ∀ c ∈ cs, isBlank c = false)
    (hrest : ∀ c ∈ rest.head?, isBlank c = true) :
    solid? (' ' :: cs ++ rest) = some (cs, rest) := by
  have hhead : ∀ c ∈ (cs ++ rest).head?, isBlank c = false := by
    obtain ⟨c, more, rfl⟩ := List.exists_cons_of_ne_nil hne
    rintro d ⟨⟩
    exact hcs c List.mem_cons_self
  have hblanks : blanks? (' ' :: cs ++ rest) = some (cs ++ rest) :=
    blanks?_append (List.cons_ne_nil ' ' []) (List.forall_mem_singleton.mpr (by decide)) hhead
  rw [solid?, hblanks, Option.bind_eq_bind, Option.bind_some]
  apply run?_append hne
  · intro c hc
    rw [isSolid, hcs c hc]
    rfl
  · intro c hc
    rw [isSolid, hrest c hc]
    rfl

end Runs

/-! ## Notes -/

/-- A note behind a space, between quotes, or nothing. -/
def noteText : Option String → List Char
  | some text => ' ' :: '"' :: text.toList ++ ['"']
  | none => []

theorem upTo?_append {close : Char} {cs : List Char} (h : close ∉ cs) (rest : List Char) :
    upTo? close (cs ++ close :: rest) = some (cs, rest) := by
  have hinside : ∀ c ∈ cs, (c != close) = true := by
    intro c hc
    rw [bne_iff_ne]
    rintro rfl
    exact h hc
  rw [upTo?, takeWhile_append_cons hinside (by simp), dropWhile_append_cons hinside (by simp)]

theorem note_quoted {cs : List Char} (h : '"' ∉ cs) (rest : List Char) :
    note (' ' :: '"' :: cs ++ '"' :: rest) = (cs, rest) := by
  have hblanks : blanks? (' ' :: '"' :: cs ++ '"' :: rest) = some ('"' :: (cs ++ '"' :: rest)) := rfl
  have hquoted : quoted? ('"' :: (cs ++ '"' :: rest)) = some (cs, rest) := upTo?_append h rest
  rw [note, optional, hblanks, Option.bind_eq_bind, Option.bind_some, hquoted]
  rfl

/-- Where no quote follows a space there is no note. -/
theorem note_unquoted {c : Char} (hblank : isBlank c = false) (hquote : c ≠ '"') (cs : List Char) :
    note (' ' :: c :: cs) = ([], ' ' :: c :: cs) := by
  have hblanks : blanks? (' ' :: c :: cs) = some (c :: cs) := by
    have hgap : ∀ d ∈ [' '], isBlank d = true := List.forall_mem_singleton.mpr (by decide)
    apply blanks?_append (List.cons_ne_nil _ _) hgap
    rintro d ⟨⟩
    exact hblank
  have hquoted : quoted? (c :: cs) = none := by
    rw [quoted?, between?, if_neg hquote]
  rw [note, optional, hblanks, Option.bind_eq_bind, Option.bind_some, hquoted]
  rfl

/-- A note ends at its closing quote; where there is none, what follows is none. -/
theorem note_noteText {text : Option String} (h : ∀ t ∈ text, '"' ∉ t.toList) {rest : List Char}
    (hrest : note rest = ([], rest)) :
    note (noteText text ++ rest) = ((text.getD "").toList, rest) := by
  cases text with
  | none => exact hrest
  | some t =>
    have hclosed := note_quoted (h t rfl) rest
    simpa [noteText] using hclosed

theorem head?_noteText (text : Option String) {rest : List Char}
    (hrest : ∀ c ∈ rest.head?, isBlank c = true) :
    ∀ c ∈ (noteText text ++ rest).head?, isBlank c = true := by
  cases text with
  | none => exact hrest
  | some t =>
    rintro c ⟨⟩
    decide

theorem endsInWord_noteText {cs : List Char} (h : EndsInWord cs) (text : Option String) :
    EndsInWord (cs ++ noteText text) := by
  cases text with
  | none => rwa [noteText, List.append_nil]
  | some t =>
    have hquote : EndsInWord (noteText (some t)) :=
      .of_word (' ' :: '"' :: t.toList) (List.cons_ne_nil '"' []) (List.forall_mem_singleton.mpr (by decide))
    exact hquote.append_left cs

/-! ## Names and keywords -/

theorem isNameChar_iff {c : Char} : isNameChar c = true ↔ isWord c = true ∨ c = '-' := by
  simp [isNameChar]

/-- A keyword is a letter and name characters. -/
def IsKeyword (word : String) : Prop :=
  ∃ first more, word.toList = first :: more ∧ first.isAlpha = true ∧ more.all isNameChar = true

theorem keyword?_append {word : String} (h : IsKeyword word) {tail : List Char}
    (htail : ∀ c ∈ tail.head?, isNameChar c = false) :
    keyword? ('!' :: word.toList ++ tail) = some (word, tail) := by
  obtain ⟨first, more, hword, hfirst, hmore⟩ := h
  rw [List.all_eq_true] at hmore
  rw [← String.ofList_toList (s := word), String.toList_ofList, hword, List.cons_append,
    List.cons_append, keyword?, if_pos hfirst, takeWhile_append_of_head? hmore htail,
    dropWhile_append_of_head? hmore htail]

end Line

end ApiDirectives
