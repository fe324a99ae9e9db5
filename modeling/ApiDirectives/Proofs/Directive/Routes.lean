import ApiDirectives.Proofs.Directive.Members
import Mathlib.Data.Bool.AllAny

/-!
# Lines of routes

A route is a method, a path, an arrow and an identifier, with a summary between quotes and tags behind
number signs, both optional. Path and identifier are solid texts and the summary is quoted, so each member
ends where it is written to end, whatever signs it has in it: an arrow is looked for behind the path only,
and tags are looked for behind the summary only. So a route that is written from its members is read back
with these members (`RouteLine.text`).
-/

namespace ApiDirectives

open Text

/-! ## Written routes -/

/-- The members of a route that can be written on a line. -/
structure RouteLine where
  method : Method
  path : String
  operationId : String
  summary : Option String
  tags : List String
  path_ne : path ≠ ""
  unbroken_path : ∀ c ∈ path.toList, isBlank c = false
  operationId_ne : operationId ≠ ""
  unbroken_operationId : ∀ c ∈ operationId.toList, isBlank c = false
  unquoted_summary : ∀ text ∈ summary, '"' ∉ text.toList
  tags_ne : ∀ tag ∈ tags, tag ≠ ""
  isNameChar_tags : ∀ tag ∈ tags, ∀ c ∈ tag.toList, Text.isWord c = true ∨ c = '-'

/-- Tags, each behind a space and a number sign. -/
def tagsText (tags : List String) : List Char :=
  tags.flatMap fun tag => ' ' :: '#' :: tag.toList

namespace RouteLine

/-- What follows the identifier. -/
def remainder (l : RouteLine) : List Char :=
  Line.noteText l.summary ++ tagsText l.tags

/-- What follows the method. -/
def tail (l : RouteLine) : List Char :=
  ' ' :: l.path.toList ++ ' ' :: '-' :: '>' :: (' ' :: l.operationId.toList ++ l.remainder)

/-- The line. -/
def text (l : RouteLine) : String :=
  String.ofList ('!' :: l.method.upper.toList ++ l.tail)

/-- The route that the members are of; a summary that is not written is empty. -/
def directive (l : RouteLine) : Directive :=
  .route l.method l.path l.operationId (l.summary.getD "") l.tags

end RouteLine

namespace Line

/-! ## Methods -/

theorem isKeyword_upper (method : Method) : IsKeyword method.upper := by
  cases method <;> exact ⟨_, _, rfl, by decide, by decide⟩

theorem directive?_upper (method : Method) (tail : List Char) :
    directive? method.upper tail = route? method tail := by
  cases method <;> rfl

/-! ## Tags -/

theorem head?_tagsText (tags : List String) : ∀ c ∈ (tagsText tags).head?, c = ' ' := by
  cases tags with
  | nil => rintro c ⟨⟩
  | cons tag tags =>
    rintro c ⟨⟩
    rfl

theorem hashtags_cons (c : Char) (cs : List Char) :
    hashtags (c :: cs) =
      if c = '#' && !(cs.takeWhile isNameChar).isEmpty then
        String.ofList (cs.takeWhile isNameChar) :: hashtags cs
      else hashtags cs := rfl

/-- No tag begins where there is no number sign. -/
theorem hashtags_append {cs : List Char} (h : ∀ c ∈ cs, c ≠ '#') (rest : List Char) :
    hashtags (cs ++ rest) = hashtags rest := by
  induction cs with
  | nil => rfl
  | cons c cs ih =>
    obtain ⟨hc, hcs⟩ := List.forall_mem_cons.mp h
    rw [List.cons_append, hashtags_cons, if_neg (by simp [hc])]
    exact ih hcs

/-- A tag goes up to the next character that no name has. -/
theorem hashtags_tag {tag : String} (hne : tag ≠ "") (htag : ∀ c ∈ tag.toList, isNameChar c = true)
    {rest : List Char} (hrest : ∀ c ∈ rest.head?, isNameChar c = false) :
    hashtags (' ' :: '#' :: tag.toList ++ rest) = tag :: hashtags rest := by
  have htaken : (tag.toList ++ rest).takeWhile isNameChar = tag.toList :=
    takeWhile_append_of_head? htag hrest
  have hhash : ∀ c ∈ tag.toList, c ≠ '#' := by
    rintro c hc rfl
    exact absurd (htag _ hc) (by decide)
  have hplain : ∀ c ∈ [' '], c ≠ '#' := List.forall_mem_singleton.mpr (by decide)
  have hspace := hashtags_append hplain ('#' :: tag.toList ++ rest)
  have hsign : ('#' = '#' && !tag.toList.isEmpty) = true := by simpa using hne
  rw [List.cons_append, ← List.singleton_append, hspace, List.cons_append, hashtags_cons, htaken,
    if_pos hsign, String.ofList_toList, hashtags_append hhash]

theorem hashtags_tagsText {tags : List String} (hne : ∀ tag ∈ tags, tag ≠ "")
    (h : ∀ tag ∈ tags, ∀ c ∈ tag.toList, isNameChar c = true) : hashtags (tagsText tags) = tags := by
  induction tags with
  | nil => rfl
  | cons tag tags ih =>
    obtain ⟨htag_ne, hne⟩ := List.forall_mem_cons.mp hne
    obtain ⟨htag, h⟩ := List.forall_mem_cons.mp h
    have hrest : ∀ c ∈ (tagsText tags).head?, isNameChar c = false := by
      intro c hc
      rw [head?_tagsText tags c hc]
      decide
    rw [tagsText, List.flatMap_cons, ← tagsText, hashtags_tag htag_ne htag hrest, ih hne h]

/-- The number sign of a tag opens no summary. -/
theorem note_tagsText (tags : List String) : note (tagsText tags) = ([], tagsText tags) := by
  cases tags with
  | nil => rfl
  | cons tag tags => exact note_unquoted (by decide) (by decide) _

end Line

/-! ## Reading a route -/

namespace RouteLine

variable (l : RouteLine)

/-- A space follows the identifier, if anything does. -/
theorem head?_remainder : ∀ c ∈ l.remainder.head?, isBlank c = true := by
  refine Line.head?_noteText l.summary fun c hc => ?_
  rw [Line.head?_tagsText l.tags c hc]
  decide

/-- The line ends in a tag, in the quote behind the summary, or in the identifier. -/
theorem endsInWord_text : EndsInWord l.text.toList := by
  have htext : l.text.toList = '!' :: (l.method.upper.toList ++ ' ' :: l.path.toList ++
      [' ', '-', '>', ' ']) ++ l.operationId.toList ++ Line.noteText l.summary ++ tagsText l.tags := by
    simp [text, tail, remainder]
  rw [htext]
  refine (Line.endsInWord_noteText (.of_word _ ?_ l.unbroken_operationId) l.summary).append_flatMap ?_
  · simpa using l.operationId_ne
  · intro tag htag
    have hne : tag.toList ≠ [] := by simpa using l.tags_ne tag htag
    refine .of_word [' ', '#'] hne fun c hc => ?_
    exact not_isBlank_of_isNameChar (Line.isNameChar_iff.mpr (l.isNameChar_tags tag htag c hc))

theorem trimList_text : trimList l.text.toList = l.text.toList := by
  refine l.endsInWord_text.trimList_eq ?_
  rw [text, String.toList_ofList]
  rintro c ⟨⟩
  decide

theorem route?_tail : Line.route? l.method l.tail = some l.directive := by
  have hpath_ne : l.path.toList ≠ [] := by simpa using l.path_ne
  have hid_ne : l.operationId.toList ≠ [] := by simpa using l.operationId_ne
  have harrow : ∀ cs, ∀ c ∈ (' ' :: cs).head?, isBlank c = true := by
    rintro cs c ⟨⟩
    decide
  have hpath := Line.solid?_append hpath_ne l.unbroken_path
    (harrow ('-' :: '>' :: (' ' :: l.operationId.toList ++ l.remainder)))
  have hid := Line.solid?_append hid_ne l.unbroken_operationId l.head?_remainder
  have hblanks : ∀ cs, (Line.blanks? (' ' :: '-' :: '>' :: cs) >>= dropLiteral? ['-', '>']) = some cs :=
    fun cs => Text.dropLiteral?_append ['-', '>'] cs
  have hnames : ∀ tag ∈ l.tags, ∀ c ∈ tag.toList, isNameChar c = true := fun tag htag c hc =>
    Line.isNameChar_iff.mpr (l.isNameChar_tags tag htag c hc)
  rw [Line.route?, tail, hpath, Option.bind_eq_bind, Option.bind_some]
  dsimp only
  rw [hblanks, Option.bind_eq_bind, Option.bind_some, hid, Option.bind_some,
    remainder, Line.note_noteText l.unquoted_summary (Line.note_tagsText l.tags), Line.hashtags_tagsText l.tags_ne hnames]
  simp [directive]

theorem remark?_text : Line.remark? l.text.toList = some ⟨l.text, l.directive⟩ := by
  have hkeyword : Line.keyword? l.text.toList = some (l.method.upper, l.tail) := by
    rw [text, String.toList_ofList]
    apply Line.keyword?_append (Line.isKeyword_upper l.method)
    rintro c ⟨⟩
    decide
  rw [Line.remark?, hkeyword, Option.bind_eq_bind, Option.bind_some]
  dsimp only
  rw [Line.directive?_upper, l.route?_tail]
  simp

end RouteLine

/-- A route that is written from its members is read back with these members, the tags in their order and
with those that repeat. -/
theorem route_reread (l : RouteLine) : Remark.ofLine? l.text = some ⟨l.text, l.directive⟩ := by
  rw [Remark.ofLine?, l.trimList_text, l.remark?_text]

/-- A route whose members look like the signs between them. -/
def arrowRoute : RouteLine where
  method := .get
  path := "->"
  operationId := "->#a"
  summary := some "!GET #b -> c"
  tags := ["d", "d", "-e"]
  path_ne := by decide
  unbroken_path := List.all_iff_forall_prop.mp (by decide)
  operationId_ne := by decide
  unbroken_operationId := List.all_iff_forall_prop.mp (by decide)
  unquoted_summary := by decide
  tags_ne := by decide
  isNameChar_tags := by
    have hall : ["d", "d", "-e"].all (fun tag =>
        tag.toList.all fun c => Text.isWord c = true ∨ c = '-') = true := by decide
    exact fun tag htag => List.all_iff_forall_prop.mp (List.all_eq_true.mp hall tag htag)

/-- Arrows and number signs inside the members end none of them. -/
theorem route_reread_at_arrows :
    arrowRoute.text = "!GET -> -> ->#a \"!GET #b -> c\" #d #d #-e" ∧
      Remark.ofLine? arrowRoute.text = some ⟨arrowRoute.text,
        .route .get "->" "->#a" "!GET #b -> c" ["d", "d", "-e"]⟩ :=
  ⟨by decide, route_reread arrowRoute⟩

end ApiDirectives
