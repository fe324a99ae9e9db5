import ApiDirectives.Proofs.Directive.Keys
import ApiDirectives.Proofs.Directive.TypeNames

/-!
# Lines of parameters and fields

Up to the colon a parameter or a field is a keyword, blanks and a name: `SlotHead`. Behind the colon the
longest run of type characters is taken for the type, and the line is read exactly if the run is in the
type grammar, whatever follows it. So for types that a blank, a question mark or the end of the line
follows, the grammar is what decides.

Nothing asks for one of these behind the type. A type that is written with a character of no type, such
as a dot, is recorded up to that character, and the rest of it is passed over: `written_type_kept_iff`.
-/

namespace ApiDirectives

open Text

/-- The keyword of a parameter at a place, or of a field, which has none. -/
def slotKeyword : Option Place → String
  | some place => place.name
  | none => "field"

/-- A parameter at a place, or a field. -/
def Directive.ofSlot : Option Place → Slot → Directive
  | some place => .parameter place
  | none => .field

namespace Directive

theorem ofSlot_injective {place place' : Option Place} {slot slot' : Slot}
    (h : ofSlot place slot = ofSlot place' slot') : place = place' ∧ slot = slot' := by
  cases place <;> cases place' <;> cases h <;> exact ⟨rfl, rfl⟩

theorem lookup_type_ofSlot (place : Option Place) (slot : Slot) :
    (ofSlot place slot).args.lookup "type" = some slot.type := by
  cases place <;> rfl

theorem lookup_nullable_ofSlot (place : Option Place) (slot : Slot) :
    (ofSlot place slot).args.lookup "nullable" = some (flagText slot.nullable) := by
  cases place <;> rfl

end Directive

namespace Line

theorem directive?_slotKeyword (place : Option Place) (tail : List Char) :
    directive? (slotKeyword place) tail = (slot? tail).map (.ofSlot place) := by
  cases place with
  | none => rfl
  | some place => cases place <;> rfl

/-- A parameter or a field is read behind its keyword. -/
theorem directive?_eq_ofSlot {keyword : String} {tail : List Char} {place : Option Place}
    {slot : Slot} (h : directive? keyword tail = some (.ofSlot place slot)) :
    keyword = slotKeyword place ∧ slot? tail = some slot := by
  have hread := directive?_gives keyword tail _ h
  cases place with
  | none => exact hread
  | some place => exact hread

theorem isKeyword_slotKeyword (place : Option Place) : IsKeyword (slotKeyword place) := by
  cases place with
  | none => exact ⟨_, _, rfl, by decide, by decide⟩
  | some place => cases place <;> exact ⟨_, _, rfl, by decide, by decide⟩

theorem eq_append_of_blanks? {cs rest : List Char} (h : blanks? cs = some rest) :
    ∃ gap, gap ≠ [] ∧ (∀ c ∈ gap, isBlank c = true) ∧ cs = gap ++ rest := by
  cases cs with
  | nil => cases h
  | cons c cs =>
    obtain ⟨hc, hrest⟩ := Option.ite_none_right_eq_some.mp h
    cases hrest
    refine ⟨c :: cs.takeWhile isBlank, List.cons_ne_nil _ _, ?_, ?_⟩
    · exact List.forall_mem_cons.mpr ⟨hc, fun d hd => List.mem_takeWhile_imp hd⟩
    · rw [List.cons_append, List.takeWhile_append_dropWhile]

theorem eq_append_of_run? {p : Char → Bool} {cs taken rest : List Char}
    (h : run? p cs = some (taken, rest)) :
    taken ≠ [] ∧ (∀ c ∈ taken, p c = true) ∧ cs = taken ++ rest := by
  obtain ⟨hne, hread⟩ := Option.ite_none_left_eq_some.mp h
  cases hread
  refine ⟨by simpa using hne, fun c hc => List.mem_takeWhile_imp hc, ?_⟩
  rw [List.takeWhile_append_dropWhile]

theorem eq_append_of_keyword? {cs tail : List Char} {keyword : String}
    (h : keyword? cs = some (keyword, tail)) : cs = '!' :: keyword.toList ++ tail := by
  unfold keyword? at h
  split at h
  · rename_i c r
    obtain ⟨_, hread⟩ := Option.ite_none_right_eq_some.mp h
    cases hread
    rw [String.toList_ofList, List.cons_append, List.cons_append, List.takeWhile_append_dropWhile]
  · cases h

end Line

/-! ## Up to the colon -/

/-- A parameter or a field up to its colon: the keyword, blanks and a name. -/
structure SlotHead where
  place : Option Place
  gap : List Char
  name : List Char
  gap_ne : gap ≠ []
  isBlank_gap : ∀ c ∈ gap, isBlank c = true
  name_ne : name ≠ []
  isNameChar_name : ∀ c ∈ name, isNameChar c = true

namespace SlotHead

variable (head : SlotHead) (after : List Char)

/-- What follows the keyword, with something behind the colon. -/
def tail : List Char :=
  head.gap ++ (head.name ++ ':' :: after)

/-- The line, with something behind the colon. -/
def text : List Char :=
  '!' :: (slotKeyword head.place).toList ++ head.tail after

/-- The members that are read, with something behind the colon. -/
def slot : Slot :=
  let (nullable, rest) := Line.questionMark (after.dropWhile Line.isTypeChar)
  let (description, rest) := Line.note rest
  ⟨Line.str head.name, Line.str (after.takeWhile Line.isTypeChar), Line.str description,
    Line.isRequired (head.tail after), nullable, Line.constraints rest⟩

theorem blanks?_tail : Line.blanks? (head.tail after) = some (head.name ++ ':' :: after) := by
  refine Line.blanks?_append head.gap_ne head.isBlank_gap fun c hc => ?_
  obtain ⟨n, name, hname⟩ := List.exists_cons_of_ne_nil head.name_ne
  rw [hname] at hc
  cases hc
  exact not_isBlank_of_isNameChar (head.isNameChar_name c (by simp [hname]))

theorem run?_name :
    Line.run? isNameChar (head.name ++ ':' :: after) = some (head.name, ':' :: after) := by
  refine Line.run?_append head.name_ne head.isNameChar_name ?_
  rintro c ⟨⟩
  decide

/-- The members are read exactly if the run of type characters behind the colon is a type. -/
theorem slot?_tail :
    Line.slot? (head.tail after) =
      if Line.isType (after.takeWhile Line.isTypeChar) then some (head.slot after) else none := by
  have hname : (Line.blanks? (head.tail after) >>= Line.run? isNameChar) =
      some (head.name, ':' :: after) := by
    rw [head.blanks?_tail]
    exact head.run?_name after
  have hcolon : dropLiteral? [':'] (':' :: after) = some after :=
    Text.dropLiteral?_append [':'] after
  unfold Line.slot?
  rw [hname]
  simp only [Option.bind_eq_bind, Option.bind_some, hcolon, Line.type?]
  split
  · rfl
  · rfl

theorem remark?_text :
    Line.remark? (head.text after) =
      if Line.isType (after.takeWhile Line.isTypeChar) then
        some ⟨Line.str (head.text after), .ofSlot head.place (head.slot after)⟩
      else none := by
  have hkeyword : Line.keyword? (head.text after) =
      some (slotKeyword head.place, head.tail after) := by
    refine Line.keyword?_append (Line.isKeyword_slotKeyword head.place) fun c hc => ?_
    obtain ⟨g, gap, hgap⟩ := List.exists_cons_of_ne_nil head.gap_ne
    rw [tail, hgap, List.cons_append, List.head?_cons, Option.mem_some_iff] at hc
    have hblank : isBlank c = true := head.isBlank_gap c (by simp [hgap, hc])
    by_contra hname
    rw [not_isBlank_of_isNameChar (Bool.not_eq_false _ ▸ hname)] at hblank
    cases hblank
  rw [Line.remark?, hkeyword, Option.bind_eq_bind, Option.bind_some]
  dsimp only
  rw [Line.directive?_slotKeyword, head.slot?_tail]
  split
  · rfl
  · rfl

theorem isSome_remark?_text :
    (Line.remark? (head.text after)).isSome = true ↔
      IsGrammarType (Line.str (after.takeWhile Line.isTypeChar)) := by
  rw [head.remark?_text, ← Line.isType_iff, String.toList_ofList]
  split
  · rename_i htype
    exact iff_of_true rfl htype
  · rename_i htype
    exact iff_of_false Bool.false_ne_true htype

theorem directive_of_remark? {remark : Remark}
    (h : Line.remark? (head.text after) = some remark) :
    remark.directive = .ofSlot head.place (head.slot after) := by
  rw [head.remark?_text] at h
  obtain ⟨_, hremark⟩ := Option.ite_none_right_eq_some.mp h
  cases hremark
  rfl

end SlotHead

namespace Line

/-- Whatever is read as the members of a slot begins with blanks, a name and a colon. -/
theorem exists_head_of_slot? {tail : List Char} {slot : Slot} (h : slot? tail = some slot)
    (place : Option Place) :
    ∃ head : SlotHead, head.place = place ∧ ∃ after, tail = head.tail after := by
  unfold slot? at h
  obtain ⟨⟨name, r⟩, hname, h⟩ := Option.bind_eq_some_iff.mp h
  obtain ⟨after, hcolon, _⟩ := Option.bind_eq_some_iff.mp h
  obtain ⟨r', hblanks, hrun⟩ := Option.bind_eq_some_iff.mp hname
  obtain ⟨gap, hgap, hblank, rfl⟩ := eq_append_of_blanks? hblanks
  obtain ⟨hne, hchars, rfl⟩ := eq_append_of_run? hrun
  refine ⟨⟨place, gap, name, hgap, hblank, hne, hchars⟩, rfl, after, ?_⟩
  rw [append_of_dropLiteral? hcolon]
  rfl

end Line

/-- A line that is read as a parameter or a field is a head with a type of the grammar behind it. -/
theorem Remark.exists_head_of_ofLine? {line : String} {remark : Remark} {place : Option Place}
    {slot : Slot} (h : Remark.ofLine? line = some remark)
    (hslot : remark.directive = .ofSlot place slot) :
    ∃ head : SlotHead, head.place = place ∧ ∃ after,
      trimList line.toList = head.text after ∧ slot = head.slot after ∧
        IsGrammarType slot.type := by
  unfold Remark.ofLine? at h
  have hread := h
  obtain ⟨⟨keyword, tail⟩, hkeyword, h⟩ := Option.bind_eq_some_iff.mp h
  obtain ⟨d, hd, hremark⟩ := Option.bind_eq_some_iff.mp h
  cases hremark
  change d = .ofSlot place slot at hslot
  subst hslot
  obtain ⟨rfl, htail⟩ := Line.directive?_eq_ofSlot hd
  obtain ⟨head, rfl, after, rfl⟩ := Line.exists_head_of_slot? htail place
  have htext : trimList line.toList = head.text after := Line.eq_append_of_keyword? hkeyword
  rw [htext] at hread
  obtain ⟨_, rfl⟩ := Directive.ofSlot_injective (head.directive_of_remark? after hread)
  refine ⟨head, rfl, after, htext, rfl, (head.isSome_remark?_text after).mp ?_⟩
  rw [hread]
  rfl

/-! ## Types in the grammar -/

namespace Line

theorem isTypeChar_iff {c : Char} :
    isTypeChar c = true ↔ isWord c = true ∨ c ∈ ['-', '[', ']', '|'] := by
  simp [isTypeChar, isNameChar, or_assoc]

/-- A question mark and a blank end a type. -/
theorem isTypeChar_of_ends {c : Char} (h : c = '?' ∨ isBlank c = true) : isTypeChar c = false := by
  rcases h with rfl | hblank
  · decide
  · by_contra htype
    rw [isBlank_of_isTypeChar (Bool.not_eq_false _ ▸ htype)] at hblank
    cases hblank

theorem questionMark_of_ne {cs : List Char} (h : cs.head? ≠ some '?') :
    questionMark cs = (false, cs) := by
  unfold questionMark
  split
  · exact absurd rfl h
  · rfl

theorem questionMark_fst (cs : List Char) : (questionMark cs).1 = true ↔ cs.head? = some '?' := by
  constructor
  · intro hmark
    by_contra hhead
    rw [questionMark_of_ne hhead] at hmark
    cases hmark
  · intro hhead
    obtain ⟨r, rfl⟩ := List.head?_eq_some_iff.mp hhead
    rfl

section Ends

variable {type tail : List Char} (htype : ∀ c ∈ type, isTypeChar c = true)
  (htail : ∀ c ∈ tail.head?, c = '?' ∨ isBlank c = true)

include htype htail

theorem takeWhile_type : (type ++ tail).takeWhile isTypeChar = type :=
  takeWhile_append_of_head? htype fun c hc => isTypeChar_of_ends (htail c hc)

theorem dropWhile_type : (type ++ tail).dropWhile isTypeChar = tail :=
  dropWhile_append_of_head? htype fun c hc => isTypeChar_of_ends (htail c hc)

end Ends

end Line

namespace SlotHead

theorem nullable_slot (head : SlotHead) (after : List Char) :
    (head.slot after).nullable = true ↔ (after.dropWhile Line.isTypeChar).head? = some '?' :=
  Line.questionMark_fst _

/-- The head of a line that has one space before the name. -/
def ofName (place : Option Place) (name : String) (hne : name ≠ "")
    (hchars : ∀ c ∈ name.toList, isNameChar c = true) : SlotHead where
  place := place
  gap := [' ']
  name := name.toList
  gap_ne := List.cons_ne_nil _ _
  isBlank_gap := List.forall_mem_singleton.mpr (by decide)
  name_ne := by simpa using hne
  isNameChar_name := hchars

/-- Blanks are dropped at the end of a line, but none before the end of its type. -/
theorem trimList_text (head : SlotHead) {type : List Char} (htype : ∀ c ∈ type, isBlank c = false)
    (tail : List Char) :
    trimList (head.text (type ++ tail)) = head.text (type ++ dropEnd isBlank tail) := by
  have htext : ∀ after, head.text after =
      '!' :: ((slotKeyword head.place).toList ++ head.gap ++ head.name ++ ':' :: after) := by
    simp [text, SlotHead.tail]
  rw [htext, htext, trimList_cons (by decide), dropEnd_append (by decide),
    dropEnd_append_of_forall htype]

end SlotHead

/-- Behind the name of a parameter or a field, what has the characters of a type is read exactly if it
is in the type grammar, and then all of it is the type. -/
theorem type_read_iff_grammar (place : Option Place) {name type tail : String} (hname : name ≠ "")
    (hnameChars : ∀ c ∈ name.toList, isWord c = true ∨ c = '-')
    (htypeChars : ∀ c ∈ type.toList, isWord c = true ∨ c ∈ ['-', '[', ']', '|'])
    (htail : ∀ c ∈ tail.toList.head?, c = '?' ∨ isBlank c = true) :
    let line := "!" ++ slotKeyword place ++ " " ++ name ++ ":" ++ type ++ tail
    ((Remark.ofLine? line).isSome = true ↔ IsGrammarType type) ∧
      ∀ remark, Remark.ofLine? line = some remark →
        (∃ slot, remark.directive = .ofSlot place slot) ∧
        remark.directive.args.lookup "type" = some type ∧
        (remark.directive.args.lookup "nullable" = some "true" ↔
          tail.toList.head? = some '?') := by
  intro line
  have htypeChar : ∀ c ∈ type.toList, Line.isTypeChar c = true := fun c hc =>
    Line.isTypeChar_iff.mpr (htypeChars c hc)
  let head := SlotHead.ofName place name hname fun c hc => Line.isNameChar_iff.mpr (hnameChars c hc)
  have hline : line.toList = head.text (type.toList ++ tail.toList) := by
    simp [line, head, SlotHead.ofName, SlotHead.text, SlotHead.tail]
  -- The type is left whole by trimming, and what follows it still ends it.
  have htext := head.trimList_text (fun c hc => Line.isBlank_of_isTypeChar (htypeChar c hc))
    tail.toList
  have hend : ∀ c ∈ (dropEnd isBlank tail.toList).head?, c = '?' ∨ isBlank c = true := fun c hc =>
    htail c (head?_dropEnd hc)
  have hmark : (dropEnd isBlank tail.toList).head? = some '?' ↔ tail.toList.head? = some '?' := by
    refine ⟨head?_dropEnd, fun hhead => ?_⟩
    obtain ⟨r, hr⟩ := List.head?_eq_some_iff.mp hhead
    rw [hr, ← List.nil_append ('?' :: r), dropEnd_append (by decide)]
    rfl
  have htypeText : Line.str type.toList = type := String.ofList_toList
  have hrun := Line.takeWhile_type htypeChar hend
  rw [Remark.ofLine?, hline, htext]
  refine ⟨?_, fun remark hremark => ?_⟩
  · rw [head.isSome_remark?_text, hrun, htypeText]
  · have hdirective := head.directive_of_remark? _ hremark
    refine ⟨⟨_, hdirective⟩, ?_, ?_⟩
    · rw [hdirective, Directive.lookup_type_ofSlot, SlotHead.slot]
      dsimp only
      rw [hrun, htypeText]
    · have hnullable := head.nullable_slot (type.toList ++ dropEnd isBlank tail.toList)
      rw [Line.dropWhile_type htypeChar hend, hmark] at hnullable
      rw [hdirective, Directive.lookup_nullable_ofSlot, ← hnullable]
      simp [Directive.flagText]

/-- A union with an array in it, and a question mark behind it. -/
theorem type_read_iff_grammar_at_nullable_union :
    IsGrammarType "int64[]|null" ∧
      ∃ remark, Remark.ofLine? "!field ids:int64[]|null? \"d\"" = some remark ∧
        remark.directive.args.lookup "type" = some "int64[]|null" ∧
        remark.directive.args.lookup "nullable" = some "true" := by
  have hgrammar : IsGrammarType "int64[]|null" := Line.isType_iff.mp (by decide)
  have hname : ∀ c ∈ "ids".toList, isWord c = true ∨ c = '-' := fun c hc =>
    Line.isNameChar_iff.mp (List.all_eq_true.mp (by decide) c hc)
  have htype : ∀ c ∈ "int64[]|null".toList, isWord c = true ∨ c ∈ ['-', '[', ']', '|'] := fun c hc =>
    Line.isTypeChar_iff.mp (List.all_eq_true.mp (by decide) c hc)
  have htail : ∀ c ∈ "? \"d\"".toList.head?, c = '?' ∨ isBlank c = true := by
    rintro c ⟨⟩
    exact .inl rfl
  obtain ⟨haccepted, hmembers⟩ := type_read_iff_grammar none (by decide) hname htype htail
  obtain ⟨remark, hremark⟩ := Option.isSome_iff_exists.mp (haccepted.mpr hgrammar)
  obtain ⟨_, htypeArg, hnullable⟩ := hmembers remark hremark
  exact ⟨hgrammar, remark, hremark, htypeArg, hnullable.mpr (by decide)⟩

/-! ## Types that are cut short -/

/-- Type characters, with a question mark behind them or nothing. -/
def IsPlainType (written : List Char) : Prop :=
  ∃ type, (∀ c ∈ type, Line.isTypeChar c = true) ∧ (written = type ∨ written = type ++ ['?'])

namespace Line

theorem questionMark_eq (cs : List Char) :
    cs = (if (questionMark cs).1 then ['?'] else []) ++ (questionMark cs).2 := by
  unfold questionMark
  split
  · rfl
  · rfl

theorem isSolid_of_isTypeChar {c : Char} (h : isTypeChar c = true) : isSolid c = true := by
  rw [isSolid, isBlank_of_isTypeChar h]
  rfl

theorem isBlank_of_head?_dropWhile (after : List Char) :
    ∀ c ∈ (after.dropWhile isSolid).head?, isBlank c = true := by
  intro c hc
  have hstop := List.head?_dropWhile_not isSolid after
  rw [Option.mem_def.mp hc] at hstop
  simpa [isSolid] using hstop

/-- Behind type characters and a question mark, nothing is left before the blank. -/
theorem questionMark_of_isPlainType {after : List Char} (h : IsPlainType (after.takeWhile isSolid)) :
    (questionMark (after.dropWhile isTypeChar)).2 = after.dropWhile isSolid := by
  obtain ⟨type, htype, hwritten⟩ := h
  have hblank := isBlank_of_head?_dropWhile after
  have hsplit := List.takeWhile_append_dropWhile (p := isSolid) (l := after)
  rcases hwritten with hwritten | hwritten
  · have hmark : (after.dropWhile isSolid).head? ≠ some '?' := by
      intro hhead
      exact absurd (hblank '?' hhead) (by decide)
    have hrest : after.dropWhile isTypeChar = after.dropWhile isSolid := by
      rw [← dropWhile_type htype fun c hc => .inr (hblank c hc), ← hwritten, hsplit]
    rw [hrest, questionMark_of_ne hmark]
  · have hend : ∀ c ∈ ('?' :: after.dropWhile isSolid).head?, c = '?' ∨ isBlank c = true := by
      rintro c ⟨⟩
      exact .inl rfl
    have hrest : after.dropWhile isTypeChar = '?' :: after.dropWhile isSolid := by
      rw [← dropWhile_type htype hend, ← List.singleton_append, ← List.append_assoc, ← hwritten,
        hsplit]
    rw [hrest]
    rfl

/-- If a blank follows the type and its question mark, these two are all that is written. -/
theorem isPlainType_of_questionMark {after : List Char}
    (h : ∀ c ∈ (questionMark (after.dropWhile isTypeChar)).2.head?, isBlank c = true) :
    IsPlainType (after.takeWhile isSolid) := by
  have htype : ∀ c ∈ after.takeWhile isTypeChar, isTypeChar c = true := fun c hc =>
    List.mem_takeWhile_imp hc
  have hmark := questionMark_eq (after.dropWhile isTypeChar)
  generalize (questionMark (after.dropWhile isTypeChar)).1 = marked at hmark
  generalize (questionMark (after.dropWhile isTypeChar)).2 = rest at hmark h
  have hsolid : ∀ c ∈ after.takeWhile isTypeChar ++ (if marked then ['?'] else []),
      isSolid c = true := by
    intro c hc
    rcases List.mem_append.mp hc with hin | hin
    · exact isSolid_of_isTypeChar (htype c hin)
    · cases marked with
      | false => cases hin
      | true =>
        rw [List.mem_singleton.mp hin]
        decide
  have hafter : after.takeWhile isTypeChar ++ (if marked then ['?'] else []) ++ rest = after := by
    rw [List.append_assoc, ← hmark, List.takeWhile_append_dropWhile]
  have hwritten := takeWhile_append_of_head? hsolid fun c hc => show isSolid c = false by
    rw [isSolid, h c hc]
    rfl
  rw [hafter] at hwritten
  refine ⟨_, htype, ?_⟩
  rw [hwritten]
  cases marked with
  | false => exact .inl (List.append_nil _)
  | true => exact .inr rfl

theorem isPlainType_iff (after : List Char) :
    IsPlainType (after.takeWhile isSolid) ↔
      ∀ c ∈ (questionMark (after.dropWhile isTypeChar)).2.head?, isBlank c = true := by
  refine ⟨fun h => ?_, isPlainType_of_questionMark⟩
  rw [questionMark_of_isPlainType h]
  exact isBlank_of_head?_dropWhile after

end Line

/-- A line that is read as a parameter or a field has a head. With a head, a line is read exactly if the
type characters behind the colon are a type of the grammar, and they are recorded as the type. A blank
or the end of the line follows the type and its question mark exactly if, up to a blank, nothing else is
written; otherwise the rest of what is written is passed over. -/
theorem written_type_kept_iff (line : String) :
    (∀ remark place slot, Remark.ofLine? line = some remark →
      remark.directive = .ofSlot place slot →
      ∃ (head : SlotHead) (after : List Char),
        head.place = place ∧ trimList line.toList = head.text after) ∧
    ∀ (head : SlotHead) (after : List Char), trimList line.toList = head.text after →
      ((Remark.ofLine? line).isSome = true ↔
        IsGrammarType (Line.str (after.takeWhile Line.isTypeChar))) ∧
      ∀ remark, Remark.ofLine? line = some remark →
        ∃ slot rest, remark.directive = .ofSlot head.place slot ∧
          slot.type = Line.str (after.takeWhile Line.isTypeChar) ∧
          after = slot.type.toList ++ (if slot.nullable then ['?'] else []) ++ rest ∧
          ((∀ c ∈ rest.head?, isBlank c = true) ↔ IsPlainType (after.takeWhile Line.isSolid)) := by
  constructor
  · intro remark place slot hread hslot
    obtain ⟨head, hplace, after, htext, _⟩ := Remark.exists_head_of_ofLine? hread hslot
    exact ⟨head, after, hplace, htext⟩
  · intro head after htext
    rw [Remark.ofLine?, htext]
    refine ⟨head.isSome_remark?_text after, fun remark hread => ?_⟩
    refine ⟨_, (Line.questionMark (after.dropWhile Line.isTypeChar)).2,
      head.directive_of_remark? after hread, rfl, ?_, (Line.isPlainType_iff after).symm⟩
    rw [SlotHead.slot, String.toList_ofList, List.append_assoc]
    dsimp only
    rw [← Line.questionMark_eq, List.takeWhile_append_dropWhile]

/-- An array with a question mark is kept whole, and a blank follows. -/
theorem written_type_kept_at_array :
    ∃ remark slot rest, Remark.ofLine? "!query q:int64[]? \"d\"" = some remark ∧
      remark.directive = .ofSlot (some .query) slot ∧ slot.type = "int64[]" ∧
      "int64[]? \"d\"".toList = slot.type.toList ++ (if slot.nullable then ['?'] else []) ++ rest ∧
      ∀ c ∈ rest.head?, isBlank c = true := by
  let head := SlotHead.ofName (some .query) "q" (by decide) (List.all_eq_true.mp (by decide))
  have htext : trimList "!query q:int64[]? \"d\"".toList = head.text "int64[]? \"d\"".toList := by
    decide
  have hplain : IsPlainType ("int64[]? \"d\"".toList.takeWhile Line.isSolid) :=
    ⟨"int64[]".toList, List.all_eq_true.mp (by decide), .inr (by decide)⟩
  obtain ⟨haccepted, hkept⟩ := (written_type_kept_iff _).2 head _ htext
  obtain ⟨remark, hread⟩ := Option.isSome_iff_exists.mp
    (haccepted.mpr (Line.isType_iff.mp (by decide)))
  obtain ⟨slot, rest, hslot, htype, hrest, hiff⟩ := hkept remark hread
  exact ⟨remark, slot, rest, hread, hslot, htype, hrest, hiff.mpr hplain⟩

/-- A type that is written with a dot is recorded up to the dot. -/
theorem dotted_type_cut_short :
    ∃ slot, Remark.ofLine? "!query q:Pet.Name" =
        some ⟨"!query q:Pet.Name", .parameter .query slot⟩ ∧
      slot.type = "Pet" ∧ slot.nullable = false ∧
      "!query q:Pet.Name".toList = "!query q:".toList ++ slot.type.toList ++ '.' :: "Name".toList ∧
      ¬ isBlank '.' = true := by
  refine ⟨⟨"q", "Pet", "", false, false, []⟩, ?_, rfl, rfl, ?_, ?_⟩
  · decide
  · decide
  · decide

end ApiDirectives
