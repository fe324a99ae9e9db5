import ApiDirectives.Proofs.Directive.Search

/-!
# Constraints between quotes

A parameter or a field may give each constraint between quotes. The value of a constraint is looked for
behind the first blank that its key and an equals sign follow, and quotes do not hide anything from this
search: a value that mentions another constraint is heard in its place if it comes first. `overheard?`
is what is heard then. So a quoted value is opaque exactly as long as nothing is overheard, or what is
overheard happens to be what is given.
-/

namespace ApiDirectives

open Text

/-! ## Lines with quoted constraints -/

/-- A constraint with its value between quotes, behind a space. -/
def quotedEntry (entry : Constraint × String) : List Char :=
  ' ' :: entry.1.key.toList ++ '=' :: '"' :: entry.2.toList ++ ['"']

/-- A parameter or a field with a description and quoted constraints. -/
structure SlotLine where
  /-- Where the parameter is; a field has no place. -/
  place : Option Place
  name : String
  type : String
  description : String
  entries : List (Constraint × String)
  name_ne : name.toList ≠ []
  isNameChar_name : ∀ c ∈ name.toList, isNameChar c = true
  isType_type : Line.isType type.toList = true
  unquoted_description : '"' ∉ description.toList
  nodup_entries : (entries.map Prod.fst).Nodup
  unquoted_entries : ∀ entry ∈ entries, ∀ c ∈ entry.2.toList, Line.isQuote c = false

namespace SlotLine

/-- The keyword of the line. -/
def keyword (l : SlotLine) : String :=
  match l.place with
  | some place => place.name
  | none => "field"

/-- The directive of the line, with the members that are read. -/
def directive (l : SlotLine) (slot : Slot) : Directive :=
  match l.place with
  | some place => .parameter place slot
  | none => .field slot

/-- The description between quotes, and the entries. -/
def remainder (l : SlotLine) : List Char :=
  '"' :: l.description.toList ++ '"' :: l.entries.flatMap quotedEntry

/-- What follows the keyword. -/
def tail (l : SlotLine) : List Char :=
  ' ' :: l.name.toList ++ ':' :: l.type.toList ++ ' ' :: l.remainder

/-- The line. -/
def text (l : SlotLine) : String :=
  String.ofList ('!' :: l.keyword.toList ++ l.tail)

end SlotLine

/-! ## What is overheard -/

/-- What follows a key and its equals sign at the front of a text, unless a blank follows them. -/
def named? (key cs : List Char) : Option (List Char) :=
  (dropLiteral? (key ++ ['=']) cs).filter fun after => !after.head?.any isBlank

/-- What follows the first mention of a key in a value, which is behind a blank. -/
def mention? (key : List Char) : List Char → Option (List Char)
  | [] => none
  | c :: r => (if isBlank c then named? key r else none).or (mention? key r)

/-- What is heard after a mention: the characters up to a blank, or if the value ends there, what stands
between its closing quote and the next opening one. -/
def heard (after : List Char) (rest : List (Constraint × String)) : List Char :=
  match after, rest with
  | [], [] => []
  | [], (c, _) :: _ => ' ' :: c.key.toList ++ ['=']
  | _, _ => after.takeWhile Line.isSolid

/-- What is heard of a constraint before its own entry. -/
def overheard? (c : Constraint) : List (Constraint × String) → Option String
  | [] => none
  | (c', v) :: rest =>
    if c' = c then none
    else
      match mention? c.key.toList v.toList with
      | some after => some (String.ofList (heard after rest))
      | none => overheard? c rest

/-- A text mentions a key, with something after it: the key and an equals sign stand behind a blank,
and no blank follows them. -/
def MentionedIn (text key after : List Char) : Prop :=
  (∃ before blank, isBlank blank = true ∧ text = before ++ blank :: (key ++ '=' :: after)) ∧
    after.head?.any isBlank = false

theorem named?_eq_some_iff {key cs after : List Char} :
    named? key cs = some after ↔ cs = key ++ '=' :: after ∧ after.head?.any isBlank = false := by
  rw [named?, Option.filter_eq_some_iff, Bool.not_eq_true']
  refine and_congr_left fun _ => ⟨?_, ?_⟩
  · intro h
    rw [append_of_dropLiteral? h, List.append_assoc, List.singleton_append]
  · rintro rfl
    have hsplit : key ++ '=' :: after = key ++ ['='] ++ after := by simp
    rw [hsplit, Text.dropLiteral?_append]

/-- What is found as a mention is one. -/
theorem mentionedIn_of_mention? {key text after : List Char} (h : mention? key text = some after) :
    MentionedIn text key after := by
  induction text with
  | nil => cases h
  | cons c text ih =>
    rw [mention?, Option.or_eq_some_iff] at h
    rcases h with hhere | ⟨_, hlater⟩
    · split at hhere
      · rename_i hc
        obtain ⟨rfl, hhead⟩ := named?_eq_some_iff.mp hhere
        exact ⟨⟨[], c, hc, rfl⟩, hhead⟩
      · cases hhere
    · obtain ⟨⟨before, blank, hblank, rfl⟩, hhead⟩ := ih hlater
      exact ⟨⟨c :: before, blank, hblank, rfl⟩, hhead⟩

/-- Where there is a mention, one is found. -/
theorem isSome_mention? {key text after : List Char} (h : MentionedIn text key after) :
    (mention? key text).isSome = true := by
  obtain ⟨⟨before, blank, hblank, rfl⟩, hhead⟩ := h
  induction before with
  | nil =>
    rw [List.nil_append, mention?, if_pos hblank, named?_eq_some_iff.mpr ⟨rfl, hhead⟩]
    rfl
  | cons c before ih =>
    rw [List.cons_append, mention?, Option.isSome_or, ih, Bool.or_true]

/-- Nothing is overheard of a constraint exactly if no value before its own entry mentions it. -/
theorem overheard?_eq_none_iff {c : Constraint} {entries : List (Constraint × String)} :
    overheard? c entries = none ↔ ∀ entry ∈ entries.takeWhile (·.1 != c),
      ∀ after, ¬ MentionedIn entry.2.toList c.key.toList after := by
  induction entries with
  | nil => simp [overheard?]
  | cons entry rest ih =>
    obtain ⟨c', v⟩ := entry
    by_cases hc : c' = c
    · simp [overheard?, hc]
    · rw [overheard?, if_neg hc, List.takeWhile_cons_of_pos (by simpa using hc),
        List.forall_mem_cons]
      cases hmention : mention? c.key.toList v.toList with
      | some after =>
        refine iff_of_false (by simp) fun hnone => ?_
        exact hnone.1 after (mentionedIn_of_mention? hmention)
      | none =>
        rw [ih]
        refine ⟨fun hrest => ⟨?_, hrest⟩, And.right⟩
        intro after hmentioned
        have hsome := isSome_mention? hmentioned
        rw [hmention] at hsome
        cases hsome

namespace Line

/-! ## Searching among quotes -/

/-- A quoted value is found up to its closing quote. -/
theorem value?_quoted {cs : List Char} (h : '"' ∉ cs) (rest : List Char) :
    value? ('"' :: cs ++ '"' :: rest) = some ('"' :: cs ++ ['"']) := by
  have hquoted : quoted? ('"' :: cs ++ '"' :: rest) = some (cs, rest) :=
    upTo?_append h rest
  rw [value?, hquoted]

/-- A key in a value is followed by a value exactly if no blank follows its equals sign. -/
theorem valueAt?_value {key : List Char} (hkey : '"' ∉ key) (v rest : List Char) :
    valueAt? key (v ++ '"' :: rest) =
      (named? key v).bind fun after => value? (after ++ '"' :: rest) := by
  have hliteral : '"' ∉ key ++ ['='] := by simp [hkey]
  rw [valueAt?, dropLiteral?_append_cons hliteral, named?]
  cases hdrop : dropLiteral? (key ++ ['=']) v with
  | none => rfl
  | some after =>
    cases after with
    | nil => rfl
    | cons c after =>
      by_cases hc : isBlank c = true
      · simp [Option.filter, hc, value?_blank hc]
      · simp [Option.filter, hc]

theorem isSome_value?_of_named? {key cs after : List Char} (h : named? key cs = some after)
    (rest : List Char) : (value? (after ++ '"' :: rest)).isSome = true := by
  obtain ⟨_, hhead⟩ := Option.filter_eq_some_iff.mp h
  cases after with
  | nil => exact isSome_value? (by decide) rest
  | cons c after => exact isSome_value? (by simpa using hhead) _

/-- In a value, what is found is what follows the first mention; a value that mentions nothing is passed
over, with its closing quote. -/
theorem valueAfterBlank?_value {key : List Char} (hkey : '"' ∉ key) (v rest : List Char) :
    valueAfterBlank? key (v ++ '"' :: rest) =
      match mention? key v with
      | some after => value? (after ++ '"' :: rest)
      | none => valueAfterBlank? key rest := by
  induction v with
  | nil =>
    rw [List.nil_append, valueAfterBlank?_cons (by decide)]
    rfl
  | cons c v ih =>
    rw [List.cons_append, valueAfterBlank?_step, valueAt?_value hkey, ih, mention?]
    by_cases hc : isBlank c = true
    · rw [if_pos hc, if_pos hc]
      cases hnamed : named? key v with
      | none => rfl
      | some after =>
        obtain ⟨w, hw⟩ := Option.isSome_iff_exists.mp (isSome_value?_of_named? hnamed rest)
        simp [hw]
    · rw [if_neg hc, if_neg hc]
      rfl

/-! ## Entries -/

/-- The search at an entry: its own constraint is found there, another one only inside the value. -/
theorem valueAfterBlank?_entry (c c' : Constraint) {v : String} (hv : '"' ∉ v.toList)
    (rest : List Char) :
    valueAfterBlank? c.key.toList (quotedEntry (c', v) ++ rest) =
      if c' = c then some ('"' :: v.toList ++ ['"'])
      else
        match mention? c.key.toList v.toList with
        | some after => value? (after ++ '"' :: rest)
        | none => valueAfterBlank? c.key.toList rest := by
  have hentry : quotedEntry (c', v) ++ rest =
      ' ' :: (c'.key.toList ++ '=' :: ('"' :: v.toList ++ '"' :: rest)) := by
    simp [quotedEntry]
  have hkey : '"' ∉ c.key.toList := fun hmem => absurd (key_chars c _ hmem).2 (by decide)
  rw [hentry, valueAfterBlank?_step, if_pos (by decide), valueAt?, dropLiteral?_key]
  -- The blank before the entry is the only one outside the value.
  by_cases hc : c' = c
  · rw [if_pos hc, if_pos hc, Option.bind_eq_bind, Option.bind_some, value?_quoted hv]
    rfl
  · rw [if_neg hc, if_neg hc, valueAfterBlank?_append fun d hd => (key_chars c' d hd).1,
      valueAfterBlank?_cons (by decide), List.cons_append, valueAfterBlank?_cons (by decide),
      valueAfterBlank?_value hkey]
    rfl

/-- Solid characters from a closing quote on are the quote alone. -/
theorem takeWhile_closing (rest : List (Constraint × String)) :
    ('"' :: rest.flatMap quotedEntry).takeWhile isSolid = ['"'] := by
  have hsolid : isSolid '"' = true ∧ isSolid ' ' = false := by decide
  cases rest with
  | nil => simp [hsolid]
  | cons entry rest => simp [quotedEntry, hsolid]

/-- What is heard after a mention, its quotes dropped. -/
theorem trimOf_value? {after : List Char} (hafter : ∀ d ∈ after, isQuote d = false)
    (hhead : after.head?.any isBlank = false) (rest : List (Constraint × String)) :
    (value? (after ++ '"' :: rest.flatMap quotedEntry)).map (trimOf isQuote) =
      some (heard after rest) := by
  cases after with
  | nil =>
    cases rest with
    | nil => rfl
    | cons entry rest =>
      -- The closing quote of the value and the opening one of the next look like a quoted value.
      obtain ⟨c, v⟩ := entry
      have hnext : ∀ d ∈ ' ' :: c.key.toList ++ ['='], isQuote d = false := by
        intro d hd
        simp only [List.cons_append, List.mem_cons, List.mem_append, List.not_mem_nil, or_false]
          at hd
        rcases hd with rfl | hkey | rfl
        · decide
        · exact (key_chars c d hkey).2
        · decide
      have hquote : '"' ∉ ' ' :: c.key.toList ++ ['='] :=
        fun hmem => absurd (hnext _ hmem) (by decide)
      have hsplit : [] ++ '"' :: ((c, v) :: rest).flatMap quotedEntry =
          '"' :: (' ' :: c.key.toList ++ ['=']) ++
            '"' :: (v.toList ++ '"' :: rest.flatMap quotedEntry) := by
        simp [quotedEntry]
      rw [hsplit, value?_quoted hquote, Option.map_some, List.cons_append,
        trimOf_cons (by decide), trimOf_concat (by decide) hnext]
      rfl
  | cons d after =>
    have hblank : isBlank d = false := by simpa using hhead
    have hquote : d ≠ '"' := by
      rintro rfl
      exact absurd (hafter _ List.mem_cons_self) (by decide)
    have hheard : heard (d :: after) rest = (d :: after).takeWhile isSolid := by
      cases rest <;> rfl
    rw [List.cons_append, value?_solid hblank hquote, ← List.cons_append, hheard, Option.map_some,
      List.takeWhile_append, takeWhile_closing]
    split
    · rename_i hall
      have hself : (d :: after).takeWhile isSolid = d :: after :=
        (List.takeWhile_prefix isSolid).eq_of_length hall
      rw [hself, trimOf_concat (by decide) hafter]
    · rw [trimOf_eq_self fun x hx => hafter x ((List.takeWhile_sublist isSolid).mem hx)]

/-- The value that is found for a constraint: what is overheard, or else what is given. -/
theorem valueAfterBlank?_entries (c : Constraint) (entries : List (Constraint × String))
    (h : ∀ entry ∈ entries, ∀ d ∈ entry.2.toList, isQuote d = false) :
    ((valueAfterBlank? c.key.toList (entries.flatMap quotedEntry)).map (trimOf isQuote)).map
        String.ofList =
      (overheard? c entries).or (entries.lookup c) := by
  induction entries with
  | nil => rfl
  | cons entry rest ih =>
    obtain ⟨c', v⟩ := entry
    have hvalue := h (c', v) List.mem_cons_self
    have hv : '"' ∉ v.toList := fun hmem => absurd (hvalue _ hmem) (by decide)
    rw [List.flatMap_cons, valueAfterBlank?_entry c c' hv, overheard?]
    -- The search ends at the constraint's own entry, or at the first value that mentions it.
    by_cases hc : c' = c
    · subst hc
      rw [if_pos rfl, if_pos rfl, List.lookup_cons_self, Option.map_some, List.cons_append,
        trimOf_cons (by decide), trimOf_concat (by decide) hvalue, Option.map_some,
        String.ofList_toList]
      rfl
    · rw [if_neg hc, if_neg hc, List.lookup_cons, beq_eq_false_iff_ne.mpr (Ne.symm hc)]
      cases hmention : mention? c.key.toList v.toList with
      | none => exact ih fun entry hentry => h entry (List.mem_cons_of_mem _ hentry)
      | some after =>
        obtain ⟨⟨before, blank, _, htext⟩, hhead⟩ := mentionedIn_of_mention? hmention
        have hafter : ∀ d ∈ after, isQuote d = false := by
          intro d hd
          apply hvalue
          show d ∈ v.toList
          rw [htext]
          simp [hd]
        dsimp only
        rw [trimOf_value? hafter hhead rest]
        rfl

/-- Looking for a constraint among entries, which begin with a blank. -/
theorem scanKey_entries (c : Constraint) {entries : List (Constraint × String)}
    (h : ∀ entry ∈ entries, ∀ d ∈ entry.2.toList, isQuote d = false) :
    (scanKey c.key.toList (entries.flatMap quotedEntry)).map String.ofList =
      (overheard? c entries).or (entries.lookup c) := by
  have hfront : valueAt? c.key.toList (entries.flatMap quotedEntry) = none := by
    cases entries with
    | nil => cases c <;> rfl
    | cons entry rest => cases c <;> rfl
  rw [← valueAfterBlank?_entries c entries h, scanKey, hfront]

end Line

/-! ## Reading the line -/

namespace SlotLine

variable (l : SlotLine)

/-- The line up to its colon. -/
def head : SlotHead :=
  .ofName l.place l.name (by simpa using l.name_ne) l.isNameChar_name

theorem tail_eq : l.tail = l.head.tail (l.type.toList ++ ' ' :: l.remainder) := by
  simp [tail, head, SlotHead.ofName, SlotHead.tail]

theorem toList_text : l.text.toList = l.head.text (l.type.toList ++ ' ' :: l.remainder) := by
  rw [text, String.toList_ofList, l.tail_eq]
  rfl

theorem directive_eq (slot : Slot) : l.directive slot = .ofSlot l.place slot := by
  unfold directive
  cases l.place with
  | none => rfl
  | some place => rfl

theorem note_remainder :
    Line.note (' ' :: l.remainder) = (l.description.toList, l.entries.flatMap quotedEntry) :=
  Line.note_quoted l.unquoted_description _

/-- The members that are read: those that were written, and the constraints that are found. -/
def slot : Slot :=
  ⟨l.name, l.type, l.description, Line.isRequired l.tail, false,
    Line.constraints (l.entries.flatMap quotedEntry)⟩

theorem slot_head : l.head.slot (l.type.toList ++ ' ' :: l.remainder) = l.slot := by
  have htype := Line.isTypeChar_of_isType l.isType_type
  have hend : ∀ c ∈ (' ' :: l.remainder).head?, c = '?' ∨ isBlank c = true := by
    rintro c ⟨⟩
    exact .inr (by decide)
  have hmark : Line.questionMark (' ' :: l.remainder) = (false, ' ' :: l.remainder) := rfl
  rw [SlotHead.slot, Line.takeWhile_type htype hend, Line.dropWhile_type htype hend, hmark]
  dsimp only
  rw [l.note_remainder, slot, l.tail_eq]
  simp [head, SlotHead.ofName]

/-- Entries end in a quote, and if there are none, the quote before them is the end. -/
theorem exists_concat_quote (before : List Char) (entries : List (Constraint × String)) :
    ∃ cs, before ++ '"' :: entries.flatMap quotedEntry = cs ++ ['"'] := by
  induction entries generalizing before with
  | nil => exact ⟨before, rfl⟩
  | cons entry rest ih =>
    obtain ⟨cs, hcs⟩ := ih (before ++ '"' :: ' ' :: entry.1.key.toList ++ '=' :: '"' ::
      entry.2.toList)
    refine ⟨cs, ?_⟩
    rw [← hcs]
    simp [quotedEntry]

/-- The line has no blanks at its ends. -/
theorem trimList_text : trimList l.text.toList = l.text.toList := by
  obtain ⟨cs, hcs⟩ := exists_concat_quote
    (l.keyword.toList ++ (' ' :: l.name.toList ++ ':' :: l.type.toList ++ ' ' :: '"' ::
      l.description.toList)) l.entries
  have hends : l.text.toList = '!' :: cs ++ ['"'] := by
    rw [text, String.toList_ofList, List.cons_append, List.cons_append, ← hcs]
    simp [tail, remainder]
  rw [hends]
  exact trimOf_between (by decide) (by decide) cs

/-- The line is accepted. -/
theorem ofLine?_text : Remark.ofLine? l.text = some ⟨l.text, l.directive l.slot⟩ := by
  have htype : (l.type.toList ++ ' ' :: l.remainder).takeWhile Line.isTypeChar = l.type.toList :=
    takeWhile_append_cons (Line.isTypeChar_of_isType l.isType_type) (by decide) _
  rw [Remark.ofLine?, l.trimList_text, l.toList_text, l.head.remark?_text, htype,
    if_pos l.isType_type, ← l.toList_text, l.slot_head, l.directive_eq]
  simp [head, SlotHead.ofName]

/-- What is read for a constraint is what is overheard, or else what was written. -/
theorem lookup_args (c : Constraint) :
    (l.directive l.slot).args.lookup c.key = (overheard? c l.entries).or (l.entries.lookup c) := by
  rw [l.directive_eq, Directive.lookup_key_ofSlot, slot, Line.constraints_eq_chosen, lookup_chosen,
    Line.scanKey_entries c l.unquoted_entries]

/-- Every entry is read as it was written, and no other constraint is read. -/
def IsOpaque (args : List (String × String)) : Prop :=
  (∀ entry ∈ l.entries, args.lookup entry.1.key = some entry.2) ∧
    ∀ c, c ∉ l.entries.map Prod.fst → args.lookup c.key = none

theorem lookup_entries {entry : Constraint × String} (h : entry ∈ l.entries) :
    l.entries.lookup entry.1 = some entry.2 :=
  (lookup_eq_some_iff_mem l.nodup_entries).mpr h

theorem lookup_other {c : Constraint} (h : c ∉ l.entries.map Prod.fst) :
    l.entries.lookup c = none := by
  refine List.lookup_eq_none_iff.mpr fun entry hentry => ?_
  rw [bne_iff_ne]
  rintro rfl
  exact h (List.mem_map_of_mem hentry)

theorem isOpaque_iff {args : List (String × String)} :
    l.IsOpaque args ↔ ∀ c : Constraint, args.lookup c.key = l.entries.lookup c := by
  constructor
  · rintro ⟨hgiven, hother⟩ c
    by_cases hc : c ∈ l.entries.map Prod.fst
    · obtain ⟨entry, hentry, rfl⟩ := List.mem_map.mp hc
      rw [hgiven entry hentry, l.lookup_entries hentry]
    · rw [hother c hc, l.lookup_other hc]
  · intro h
    refine ⟨fun entry hentry => ?_, fun c hc => ?_⟩
    · rw [h, l.lookup_entries hentry]
    · rw [h, l.lookup_other hc]

/-- The values are opaque exactly if whatever is overheard of a constraint was also written for it. -/
theorem isOpaque_args_iff :
    l.IsOpaque (l.directive l.slot).args ↔
      ∀ c v, overheard? c l.entries = some v → l.entries.lookup c = some v := by
  simp only [l.isOpaque_iff, l.lookup_args]
  refine forall_congr' fun c => ?_
  cases overheard? c l.entries with
  | none => simp
  | some v => simp [eq_comm]

end SlotLine

/-- A line with quoted constraints is accepted. What is read for a constraint is what is overheard, or
else what was written; so the values are opaque exactly if whatever is overheard of a constraint was
also written for it, and surely if no value mentions a constraint. -/
theorem quoted_values_opaque_iff (l : SlotLine) :
    ∃ slot, Remark.ofLine? l.text = some ⟨l.text, l.directive slot⟩ ∧
      slot.name = l.name ∧ slot.type = l.type ∧ slot.description = l.description ∧
      (∀ c : Constraint, (l.directive slot).args.lookup c.key =
        (overheard? c l.entries).or (l.entries.lookup c)) ∧
      (l.IsOpaque (l.directive slot).args ↔
        ∀ c v, overheard? c l.entries = some v → l.entries.lookup c = some v) ∧
      ((∀ entry ∈ l.entries, ∀ (c : Constraint) (after : List Char),
          ¬ MentionedIn entry.2.toList c.key.toList after) →
        l.IsOpaque (l.directive slot).args) := by
  refine ⟨l.slot, l.ofLine?_text, rfl, rfl, rfl, l.lookup_args, l.isOpaque_args_iff, ?_⟩
  intro hunmentioned
  refine l.isOpaque_args_iff.mpr fun c v hheard => ?_
  have hnone : overheard? c l.entries = none := by
    refine overheard?_eq_none_iff.mpr fun entry hentry => ?_
    exact hunmentioned entry ((List.takeWhile_sublist _).mem hentry) c
  rw [hnone] at hheard
  cases hheard

theorem SlotLine.unquoted_of_all {entries : List (Constraint × String)}
    (h : entries.all (fun entry => entry.2.toList.all (!Line.isQuote ·)) = true) :
    ∀ entry ∈ entries, ∀ c ∈ entry.2.toList, Line.isQuote c = false := by
  simpa using h

/-- A parameter with a default of two words and a bound. -/
def spacedDefault : SlotLine where
  place := some .query
  name := "q"
  type := "string"
  description := "d"
  entries := [(.default, "a b"), (.min, "5")]
  name_ne := by decide
  isNameChar_name := List.all_eq_true.mp (by decide)
  isType_type := by decide
  unquoted_description := by decide
  nodup_entries := by decide
  unquoted_entries := SlotLine.unquoted_of_all (by decide)

/-- A blank in a value does no harm. -/
theorem quoted_values_opaque_at_blank :
    spacedDefault.text = "!query q:string \"d\" default=\"a b\" min=\"5\"" ∧
    ∃ slot, Remark.ofLine? spacedDefault.text =
        some ⟨spacedDefault.text, .parameter .query slot⟩ ∧
      spacedDefault.IsOpaque (Directive.parameter .query slot).args := by
  have hnone : ∀ c ∈ Constraint.all, overheard? c spacedDefault.entries = none := by decide
  obtain ⟨slot, haccepted, _, _, _, _, hiff, _⟩ := quoted_values_opaque_iff spacedDefault
  refine ⟨by decide, slot, haccepted, hiff.mpr ?_⟩
  intro c v hheard
  rw [hnone c c.mem_all] at hheard
  cases hheard

/-- A parameter with a default that mentions a bound. -/
def boundInDefault : SlotLine :=
  { spacedDefault with
    entries := [(.default, "a min=5")]
    nodup_entries := by decide
    unquoted_entries := SlotLine.unquoted_of_all (by decide) }

/-- A bound that is mentioned in a default is read as a bound. -/
theorem quoted_value_overheard :
    boundInDefault.text = "!query q:string \"d\" default=\"a min=5\"" ∧
    ∃ slot, Remark.ofLine? boundInDefault.text =
        some ⟨boundInDefault.text, .parameter .query slot⟩ ∧
      (Directive.parameter .query slot).args.lookup "default" = some "a min=5" ∧
      (Directive.parameter .query slot).args.lookup "min" = some "5" ∧
      ¬ boundInDefault.IsOpaque (Directive.parameter .query slot).args := by
  have hdefault := boundInDefault.lookup_args .default
  have hmin := boundInDefault.lookup_args .min
  have hheard : (overheard? .min boundInDefault.entries).or
      (boundInDefault.entries.lookup .min) = some "5" := by decide
  have hgiven : (overheard? .default boundInDefault.entries).or
      (boundInDefault.entries.lookup .default) = some "a min=5" := by decide
  rw [hgiven] at hdefault
  rw [hheard] at hmin
  refine ⟨by decide, boundInDefault.slot, boundInDefault.ofLine?_text, hdefault, hmin, ?_⟩
  rintro ⟨_, hother⟩
  have hnone := hother .min (by decide)
  exact absurd (hmin.symm.trans hnone) (by decide)

end ApiDirectives
