import ApiDirectives.Source.Lexer
import Mathlib.Data.List.TakeWhile
import Mathlib.Logic.Relation

/-!
# The way through a text

Strings, comments, brackets and continued lines can be followed through a source one character at a
time, without cutting it into tokens: `Point.next` is the point that comes next. It is what two readers
of a source have in common: each goes along the same way, in steps of its own (`Leads`). Names, numbers
and signs hold plain characters only, so it does not matter how a reader cuts them. A text closes if the
way ends where the text does, in code and with no bracket open.
-/

namespace ApiDirectives.Source

/-! ## Points -/

/-- Whether a character is an opening bracket. -/
def isOpening (c : Char) : Bool := c == '(' || c == '[' || c == '\x7b'

/-- Whether a character is a closing bracket. -/
def isClosing (c : Char) : Bool := c == ')' || c == ']' || c == '\x7d'

/-- A character that means nothing to strings, comments, brackets and lines. -/
def isPlain (c : Char) : Bool :=
  !(c == '#' || c == '\\' || c == '\n' || isQuote c || isOpening c || isClosing c)

/-- What a point of a text is in: code, a comment, or a string between single or triple marks. -/
inductive Inside where
  | code
  | comment
  | short (quote : Char)
  | long (quote : Char)

/-- A point of a text: what it is in, how many brackets are open, and what follows. -/
structure Point where
  inside : Inside
  depth : Nat
  text : List Char

/-- The point that comes next; none where the text ends, or where a string, a bracket or a line is
broken. A comment ends before its line does. -/
def Point.next : Point → Option Point
  | ⟨.code, _, []⟩ => none
  | ⟨.comment, n, []⟩ => some ⟨.code, n, []⟩
  | ⟨.short _, _, []⟩ => none
  | ⟨.long _, _, []⟩ => none
  | ⟨.code, n, c :: r⟩ =>
    if c = '#' then some ⟨.comment, n, r⟩
    else if c = '\\' then
      if r.head? = some '\n' ∧ r.drop 1 ≠ [] then some ⟨.code, n, r.drop 1⟩ else none
    else if isQuote c then
      if r.take 2 = [c, c] then some ⟨.long c, n, r.drop 2⟩ else some ⟨.short c, n, r⟩
    else if isOpening c then some ⟨.code, n + 1, r⟩
    else if isClosing c then
      if n = 0 then none else some ⟨.code, n - 1, r⟩
    else some ⟨.code, n, r⟩
  | ⟨.comment, n, c :: r⟩ =>
    if c = '\n' then some ⟨.code, n, c :: r⟩ else some ⟨.comment, n, r⟩
  | ⟨.short q, n, c :: r⟩ =>
    if c = '\\' then
      if r = [] then none else some ⟨.short q, n, r.drop 1⟩
    else if c = '\n' then none
    else if c = q then some ⟨.code, n, r⟩
    else some ⟨.short q, n, r⟩
  | ⟨.long q, n, c :: r⟩ =>
    if c = '\\' then
      if r = [] then none else some ⟨.long q, n, r.drop 1⟩
    else if c = q ∧ r.take 2 = [q, q] then some ⟨.code, n, r.drop 2⟩
    else some ⟨.long q, n, r⟩

namespace Point

theorem next_code_cons (n : Nat) (c : Char) (r : List Char) :
    next ⟨.code, n, c :: r⟩ =
      if c = '#' then some ⟨.comment, n, r⟩
      else if c = '\\' then
        if r.head? = some '\n' ∧ r.drop 1 ≠ [] then some ⟨.code, n, r.drop 1⟩ else none
      else if isQuote c then
        if r.take 2 = [c, c] then some ⟨.long c, n, r.drop 2⟩ else some ⟨.short c, n, r⟩
      else if isOpening c then some ⟨.code, n + 1, r⟩
      else if isClosing c then
        if n = 0 then none else some ⟨.code, n - 1, r⟩
      else some ⟨.code, n, r⟩ := rfl

theorem next_comment_cons (n : Nat) (c : Char) (r : List Char) :
    next ⟨.comment, n, c :: r⟩ =
      if c = '\n' then some ⟨.code, n, c :: r⟩ else some ⟨.comment, n, r⟩ := rfl

theorem next_short_cons (q : Char) (n : Nat) (c : Char) (r : List Char) :
    next ⟨.short q, n, c :: r⟩ =
      if c = '\\' then
        if r = [] then none else some ⟨.short q, n, r.drop 1⟩
      else if c = '\n' then none
      else if c = q then some ⟨.code, n, r⟩
      else some ⟨.short q, n, r⟩ := rfl

theorem next_long_cons (q : Char) (n : Nat) (c : Char) (r : List Char) :
    next ⟨.long q, n, c :: r⟩ =
      if c = '\\' then
        if r = [] then none else some ⟨.long q, n, r.drop 1⟩
      else if c = q ∧ r.take 2 = [q, q] then some ⟨.code, n, r.drop 2⟩
      else some ⟨.long q, n, r⟩ := rfl

end Point

/-- The way from one point leads to the other. -/
abbrev Leads : Point → Point → Prop := Relation.ReflTransGen fun p q => p.next = some q

/-- The way leads to the end of the text with everything ended. -/
def Point.Closes (p : Point) : Prop := Leads p ⟨.code, 0, []⟩

/-- A point on the way from the start of a text that closes to its end. -/
structure OnWay (text : List Char) (p : Point) : Prop where
  reached : Leads ⟨.code, 0, text⟩ p
  closes : p.Closes

section Ways

variable {p q r : Point} {text : List Char}

theorem Point.next_suffix (h : p.next = some q) : q.text <:+ p.text := by
  obtain ⟨i, n, cs⟩ := p
  revert h
  fun_cases Point.next ⟨i, n, cs⟩ <;> intro h <;> cases h <;>
    first
    | exact List.suffix_rfl
    | exact List.suffix_cons _ _
    | exact (List.drop_suffix _ _).trans (List.suffix_cons _ _)

/-- What follows a point is the end of what follows a point before. -/
theorem Leads.suffix (h : Leads p q) : q.text <:+ p.text := by
  induction h with
  | refl => exact List.suffix_rfl
  | tail _ hnext ih => exact (Point.next_suffix hnext).trans ih

/-- There is only one way, so of two points on it one comes first. -/
theorem Leads.total (hq : Leads p q) (hr : Leads p r) : Leads q r ∨ Leads r q :=
  Relation.ReflTransGen.total_of_right_unique
    (fun _ _ _ hq hr => Option.some.inj (hq.symm.trans hr)) hq hr

theorem Point.Closes.of_leads (h : p.Closes) (hq : Leads p q) : q.Closes := by
  rcases h.total hq with hend | hclosed
  · rcases Relation.ReflTransGen.cases_head hend with rfl | ⟨_, hnext, -⟩
    · exact .refl
    · cases hnext
  · exact hclosed

/-- A way that closes goes on, or is at its end. -/
theorem Point.Closes.goesOn (h : p.Closes) : p = ⟨.code, 0, []⟩ ∨ ∃ q, p.next = some q := by
  rcases Relation.ReflTransGen.cases_head h with hend | ⟨q, hnext, -⟩
  · exact .inl hend
  · exact .inr ⟨q, hnext⟩

theorem OnWay.move (h : OnWay text p) (hq : Leads p q) : OnWay text q :=
  ⟨h.reached.trans hq, h.closes.of_leads hq⟩

end Ways

/-! ## Code -/

section Code

variable {n : Nat} {c q : Char} {r : List Char}

theorem isQuote_iff : isQuote c = true ↔ c = '\'' ∨ c = '"' := by
  simp [isQuote]

/-- Plain characters and line ends of code are passed over. -/
theorem next_code (h : isPlain c = true ∨ c = '\n') :
    Point.next ⟨.code, n, c :: r⟩ = some ⟨.code, n, r⟩ := by
  rcases h with hplain | rfl
  · simp only [isPlain, Bool.not_eq_true', Bool.or_eq_false_iff, beq_eq_false_iff_ne] at hplain
    obtain ⟨⟨⟨⟨⟨hhash, hback⟩, -⟩, hquote⟩, hopen⟩, hclose⟩ := hplain
    simp [Point.next_code_cons, hhash, hback, hquote, hopen, hclose]
  · simp [Point.next_code_cons, isQuote, isOpening, isClosing]

theorem leads_plain (h : isPlain c = true) : Leads ⟨.code, n, c :: r⟩ ⟨.code, n, r⟩ :=
  .single (next_code (.inl h))

theorem leads_newline : Leads ⟨.code, n, '\n' :: r⟩ ⟨.code, n, r⟩ := .single (next_code (.inr rfl))

theorem leads_hash : Leads ⟨.code, n, '#' :: r⟩ ⟨.comment, n, r⟩ :=
  .single (by simp [Point.next_code_cons])

/-- A comment ends with its line. -/
theorem leads_comment : Leads ⟨.comment, n, r⟩ ⟨.code, n, r.dropWhile (· != '\n')⟩ := by
  induction r with
  | nil => exact .single rfl
  | cons c r ih =>
    by_cases hc : c = '\n'
    · rw [List.dropWhile_cons_of_neg (by simpa using hc)]
      exact .single (by simp [Point.next_comment_cons, hc])
    · rw [List.dropWhile_cons_of_pos (by simpa using hc)]
      exact .head (by simp [Point.next_comment_cons, hc]) ih

theorem leads_continued (h : r ≠ []) : Leads ⟨.code, n, '\\' :: '\n' :: r⟩ ⟨.code, n, r⟩ :=
  .single (by simp [Point.next_code_cons, h])

theorem leads_long (h : isQuote q = true) : Leads ⟨.code, n, q :: q :: q :: r⟩ ⟨.long q, n, r⟩ := by
  rcases isQuote_iff.mp h with rfl | rfl <;> exact .single (by simp [Point.next_code_cons, isQuote])

theorem leads_short (h : isQuote q = true) (hr : r.take 2 ≠ [q, q]) :
    Leads ⟨.code, n, q :: r⟩ ⟨.short q, n, r⟩ := by
  rcases isQuote_iff.mp h with rfl | rfl <;> exact .single (by simp [Point.next_code_cons, isQuote, hr])

theorem leads_opening (h : isOpening c = true) : Leads ⟨.code, n, c :: r⟩ ⟨.code, n + 1, r⟩ := by
  have hc : c = '(' ∨ c = '[' ∨ c = '\x7b' := by
    simpa [isOpening, or_assoc] using h
  rcases hc with rfl | rfl | rfl <;> exact .single (by simp [Point.next_code_cons, isQuote, isOpening])

theorem next_closing (h : isClosing c = true) :
    Point.next ⟨.code, n, c :: r⟩ = if n = 0 then none else some ⟨.code, n - 1, r⟩ := by
  have hc : c = ')' ∨ c = ']' ∨ c = '\x7d' := by
    simpa [isClosing, or_assoc] using h
  rcases hc with rfl | rfl | rfl <;> simp [Point.next_code_cons, isQuote, isOpening, isClosing]

theorem leads_closing (h : isClosing c = true) : Leads ⟨.code, n + 1, c :: r⟩ ⟨.code, n, r⟩ :=
  .single (by rw [next_closing h]; simp)

end Code

/-! ## Runs of plain characters -/

/-- Only plain characters stand between two points of a text. -/
def Passes (cs rest : List Char) : Prop :=
  ∃ run, (∀ c ∈ run, isPlain c = true) ∧ cs = run ++ rest

namespace Passes

variable {c : Char} {cs rest more : List Char}

theorem refl (cs : List Char) : Passes cs cs := ⟨[], by simp, rfl⟩

theorem cons (hc : isPlain c = true) (h : Passes cs rest) : Passes (c :: cs) rest := by
  obtain ⟨run, hrun, rfl⟩ := h
  exact ⟨c :: run, by simpa [hc] using hrun, rfl⟩

theorem trans (h : Passes cs rest) (hmore : Passes rest more) : Passes cs more := by
  obtain ⟨run, hrun, rfl⟩ := h
  obtain ⟨run', hrun', rfl⟩ := hmore
  refine ⟨run ++ run', ?_, by simp⟩
  intro c hc
  rcases List.mem_append.mp hc with hold | hnew
  · exact hrun c hold
  · exact hrun' c hnew

theorem dropWhile {p : Char → Bool} (hp : ∀ c, p c = true → isPlain c = true) (cs : List Char) :
    Passes cs (cs.dropWhile p) :=
  ⟨cs.takeWhile p, fun c hc => hp c (List.mem_takeWhile_imp hc),
    List.takeWhile_append_dropWhile.symm⟩

theorem append (h : Passes cs rest) (more : List Char) : Passes (cs ++ more) (rest ++ more) := by
  obtain ⟨run, hrun, rfl⟩ := h
  exact ⟨run, hrun, by simp⟩

theorem suffix (h : Passes cs rest) : rest <:+ cs := by
  obtain ⟨run, -, rfl⟩ := h
  exact List.suffix_append run rest

/-- Plain characters close nothing and open nothing. -/
theorem leads (h : Passes cs rest) (n : Nat) : Leads ⟨.code, n, cs⟩ ⟨.code, n, rest⟩ := by
  obtain ⟨run, hrun, rfl⟩ := h
  induction run with
  | nil => exact .refl
  | cons c run ih =>
    exact (leads_plain (hrun c List.mem_cons_self)).trans (ih fun d hd => hrun d (List.mem_cons_of_mem c hd))

/-- Plain characters end no line. -/
theorem count (h : Passes cs rest) : rest.count '\n' = cs.count '\n' := by
  obtain ⟨run, hrun, rfl⟩ := h
  have hnone : run.count '\n' = 0 := List.count_eq_zero_of_not_mem fun hmem => by
    have := hrun _ hmem
    simp [isPlain] at this
  rw [List.count_append, hnone, Nat.zero_add]

end Passes

/-! ## Strings -/

section Strings

variable {n : Nat} {c q : Char} {taken taken' r rest text : List Char}

theorem leads_short_escape : Leads ⟨.short q, n, '\\' :: c :: r⟩ ⟨.short q, n, r⟩ :=
  .single (by simp [Point.next_short_cons])

theorem leads_short_end (hq : isQuote q = true) : Leads ⟨.short q, n, q :: r⟩ ⟨.code, n, r⟩ := by
  rcases isQuote_iff.mp hq with rfl | rfl <;> exact .single (by simp [Point.next_short_cons])

theorem leads_short_cons (hslash : c ≠ '\\') (hnewline : c ≠ '\n') (hc : c ≠ q) :
    Leads ⟨.short q, n, c :: r⟩ ⟨.short q, n, r⟩ :=
  .single (by simp [Point.next_short_cons, hslash, hnewline, hc])

theorem leads_long_escape : Leads ⟨.long q, n, '\\' :: c :: r⟩ ⟨.long q, n, r⟩ :=
  .single (by simp [Point.next_long_cons])

theorem leads_long_end (hq : q ≠ '\\') : Leads ⟨.long q, n, q :: q :: q :: r⟩ ⟨.code, n, r⟩ :=
  .single (by simp [Point.next_long_cons, hq])

theorem leads_long_cons (hslash : c ≠ '\\') (hmarks : ¬ (c = q ∧ r.take 2 = [q, q])) :
    Leads ⟨.long q, n, c :: r⟩ ⟨.long q, n, r⟩ :=
  .single (by simp only [Point.next_long_cons, if_neg hslash, if_neg hmarks])

theorem leads_of_shortString (hq : isQuote q = true)
    (h : shortString q taken r = some (taken', rest)) :
    Leads ⟨.short q, n, r⟩ ⟨.code, n, rest⟩ := by
  fun_induction shortString q taken r with
  | case1 => cases h
  | case2 taken c r ih => exact leads_short_escape.trans (ih h)
  | case3 => cases h
  | case4 taken r _ _ =>
    cases h
    exact leads_short_end hq
  | case5 taken c r hescape hnewline hc ih =>
    by_cases hslash : c = '\\'
    · cases r with
      | nil => cases h
      | cons d r => exact absurd rfl (hescape d r hslash)
    · exact (leads_short_cons hslash hnewline hc).trans (ih h)

theorem leads_of_longString (h : longString q taken r = some (taken', rest)) :
    Leads ⟨.long q, n, r⟩ ⟨.code, n, rest⟩ := by
  fun_induction longString q taken r with
  | case1 => cases h
  | case2 taken c r ih => exact leads_long_escape.trans (ih h)
  | case3 taken a b c r hslash hmarks =>
    simp only [Bool.and_eq_true, decide_eq_true_eq] at hmarks
    obtain ⟨⟨rfl, rfl⟩, rfl⟩ := hmarks
    cases h
    exact leads_long_end hslash
  | case4 taken a b c r hslash hmarks ih =>
    exact (leads_long_cons hslash (by simpa [and_assoc] using hmarks)).trans (ih h)
  | case5 taken c r hescape hshort ih =>
    -- Fewer than three characters are left, so the string stays open.
    match r, hescape, hshort with
    | [], _, _ => simp [longString] at h
    | [d], _, _ => simp [longString] at h
    | d :: e :: r, _, hshort => exact absurd rfl (hshort d e r)

/-- After a string that is cut off as one token, code goes on. -/
theorem leads_of_stringRest (hq : isQuote q = true)
    (h : stringRest taken (q :: r) = some (taken', rest)) :
    Leads ⟨.code, n, q :: r⟩ ⟨.code, n, rest⟩ := by
  match r, h with
  | [], h => exact absurd h (by simp [stringRest, shortString])
  | [b], h => exact (leads_short hq (by simp)).trans (leads_of_shortString hq h)
  | b :: c :: s, h =>
    unfold stringRest at h
    dsimp only at h
    by_cases hb : b = q
    · subst hb
      rw [if_pos rfl] at h
      by_cases hc : c = b
      · subst hc
        rw [if_pos rfl] at h
        exact (leads_long hq).trans (leads_of_longString h)
      · rw [if_neg hc] at h
        cases h
        exact (leads_short hq (by simpa using hc)).trans (leads_short_end hq)
    · rw [if_neg hb] at h
      exact (leads_short hq (by simp [hb])).trans (leads_of_shortString hq h)

end Strings

/-! ## Where a text does not close -/

section Broken

variable {n : Nat} {c q : Char} {r text : List Char}

theorem not_closes_short_nil : ¬ Point.Closes ⟨.short q, n, []⟩ := by
  intro h
  rcases h.goesOn with hend | ⟨_, hnext⟩
  · cases hend
  · cases hnext

theorem not_closes_long_nil : ¬ Point.Closes ⟨.long q, n, []⟩ := by
  intro h
  rcases h.goesOn with hend | ⟨_, hnext⟩
  · cases hend
  · cases hnext

theorem not_closes_short_newline : ¬ Point.Closes ⟨.short q, n, '\n' :: r⟩ := by
  intro h
  rcases h.goesOn with hend | ⟨_, hnext⟩
  · cases hend
  · simp [Point.next_short_cons] at hnext

/-- A backslash that nothing follows is no escape, and the string stays open. -/
theorem not_closes_short_backslash : ¬ Point.Closes ⟨.short q, n, ['\\']⟩ := by
  intro h
  rcases h.goesOn with hend | ⟨_, hnext⟩
  · cases hend
  · cases hnext

theorem not_closes_long_backslash : ¬ Point.Closes ⟨.long q, n, ['\\']⟩ := by
  intro h
  rcases h.goesOn with hend | ⟨_, hnext⟩
  · cases hend
  · cases hnext

/-- A backslash in code continues its line, and there must be a next one. -/
theorem Point.Closes.backslash (h : Point.Closes ⟨.code, n, '\\' :: r⟩) : ∃ s, r = '\n' :: s ∧ s ≠ [] := by
  rcases h.goesOn with hend | ⟨p, hnext⟩
  · cases hend
  · simp only [Point.next_code_cons, if_neg (by decide : ¬ '\\' = '#'), if_true] at hnext
    split at hnext
    · rename_i hcontinued
      cases r with
      | nil => cases hcontinued.1
      | cons d s =>
        cases hcontinued.1
        exact ⟨s, rfl, hcontinued.2⟩
    · cases hnext

/-- A closing bracket closes one that is open. -/
theorem Point.Closes.closing (h : Point.Closes ⟨.code, n, c :: r⟩) (hc : isClosing c = true) :
    ∃ m, n = m + 1 := by
  cases n with
  | zero =>
    rcases h.goesOn with hend | ⟨p, hnext⟩
    · cases hend
    · rw [next_closing hc] at hnext
      cases hnext
  | succ m => exact ⟨m, rfl⟩

end Broken

/-! ## The last line feed -/

/-- A point in the same text with one line feed more at its end. -/
def Point.fed (p : Point) : Point := ⟨p.inside, p.depth, p.text ++ ['\n']⟩

section LastFeed

variable {p q : Point} {c : Char} {r cs : List Char}

theorem take_append_newline (hlast : ¬ ['\n'] <:+ r) :
    (r ++ ['\n']).take 2 = [c, c] ↔ r.take 2 = [c, c] := by
  match r, hlast with
  | [], _ => simp
  | [d], hlast =>
    have hd : d ≠ '\n' := by
      rintro rfl
      exact hlast (List.suffix_refl _)
    constructor
    · intro h
      simp only [List.cons_append, List.nil_append, List.take_succ_cons, List.take_zero,
        List.cons.injEq, and_true] at h
      exact absurd (h.1.trans h.2.symm) hd
    · intro h
      cases h
  | d :: e :: r, _ => simp

theorem drop_one_append_newline (hr : r ≠ []) : (r ++ ['\n']).drop 1 = r.drop 1 ++ ['\n'] := by
  cases r with
  | nil => exact absurd rfl hr
  | cons d r => rfl

theorem drop_two_append_newline (hmarks : r.take 2 = [c, c]) :
    (r ++ ['\n']).drop 2 = r.drop 2 ++ ['\n'] := by
  match r, hmarks with
  | _ :: _ :: r, _ => rfl

theorem Point.next_fed_code {n : Nat} (hr : ¬ ['\n'] <:+ r) (h : Point.next ⟨.code, n, c :: r⟩ = some q) :
    Point.next ⟨.code, n, c :: r ++ ['\n']⟩ = some q.fed := by
  revert h
  simp only [Point.next_code_cons, fed, List.cons_append, take_append_newline hr]
  split
  · rintro ⟨⟩
    rfl
  · split
    · -- A line that is continued goes on behind a line feed that was there before.
      intro h
      split at h
      · rename_i hcontinued
        cases h
        cases r with
        | nil => cases hcontinued.1
        | cons d r => simpa using hcontinued.1
      · cases h
    · split
      · split
        · rintro ⟨⟩
          rw [drop_two_append_newline ‹_›]
        · rintro ⟨⟩
          rfl
      · split
        · rintro ⟨⟩
          rfl
        · split
          · split
            · rintro ⟨⟩
            · rintro ⟨⟩
              rfl
          · rintro ⟨⟩
            rfl

theorem Point.next_fed_short {quote : Char} {n : Nat} (h : Point.next ⟨.short quote, n, c :: r⟩ = some q) :
    Point.next ⟨.short quote, n, c :: r ++ ['\n']⟩ = some q.fed := by
  revert h
  simp only [Point.next_short_cons, fed, List.cons_append]
  split
  · split
    · rintro ⟨⟩
    · rintro ⟨⟩
      rw [if_neg (by simp), drop_one_append_newline ‹_›]
  · split
    · rintro ⟨⟩
    · split
      · rintro ⟨⟩
        rfl
      · rintro ⟨⟩
        rfl

theorem Point.next_fed_long {quote : Char} {n : Nat} (hr : ¬ ['\n'] <:+ r)
    (h : Point.next ⟨.long quote, n, c :: r⟩ = some q) :
    Point.next ⟨.long quote, n, c :: r ++ ['\n']⟩ = some q.fed := by
  revert h
  simp only [Point.next_long_cons, fed, List.cons_append, take_append_newline hr]
  split
  · split
    · rintro ⟨⟩
    · rintro ⟨⟩
      rw [if_neg (by simp), drop_one_append_newline ‹_›]
  · split
    · rename_i hmarks
      rintro ⟨⟩
      rw [drop_two_append_newline hmarks.2]
    · rintro ⟨⟩
      rfl

/-- The way through a text that lacks its last line feed is the way through the whole one. -/
theorem Point.next_fed (hlast : ¬ ['\n'] <:+ p.text) (h : p.next = some q) : p.fed.next = some q.fed := by
  obtain ⟨i, n, cs⟩ := p
  cases cs with
  | nil =>
    cases i with
    | comment =>
      cases h
      rfl
    | _ => cases h
  | cons c r =>
    have hr : ¬ ['\n'] <:+ r := fun hr => hlast (hr.trans (List.suffix_cons _ _))
    cases i with
    | code => exact Point.next_fed_code hr h
    | comment =>
      revert h
      simp only [Point.next_comment_cons, fed, List.cons_append]
      split <;> rintro ⟨⟩ <;> rfl
    | short quote => exact Point.next_fed_short h
    | long quote => exact Point.next_fed_long hr h

theorem Leads.fed (hlast : ¬ ['\n'] <:+ p.text) (h : Leads p q) : Leads p.fed q.fed := by
  induction h with
  | refl => exact .refl
  | tail hleads hnext ih =>
    exact ih.tail (Point.next_fed (fun h => hlast (h.trans (Leads.suffix hleads))) hnext)

/-- In code the way breaks off at a backslash that continues nothing, or at a bracket that was never
opened; neither is mended by a line feed at the end. -/
theorem Point.next_ne_none_of_closes_code {n : Nat} (hlast : ¬ ['\n'] <:+ c :: r)
    (h : Point.Closes ⟨.code, n, c :: r ++ ['\n']⟩) : Point.next ⟨.code, n, c :: r⟩ ≠ none := by
  intro hnext
  by_cases hc : c = '\\'
  · subst hc
    obtain ⟨s, hs, hne⟩ := h.backslash
    cases r with
    | nil =>
      cases hs
      exact absurd rfl hne
    | cons d s =>
      cases hs
      have hs : s ≠ [] := by
        rintro rfl
        exact hlast (List.suffix_append ['\\'] ['\n'])
      simp [Point.next_code_cons, hs] at hnext
  · by_cases hclosing : isClosing c = true
    · obtain ⟨m, rfl⟩ := h.closing hclosing
      rw [next_closing hclosing] at hnext
      cases hnext
    · simp only [Point.next_code_cons, if_neg hc, if_neg hclosing] at hnext
      split at hnext
      · cases hnext
      · split at hnext
        · split at hnext <;> cases hnext
        · split at hnext <;> cases hnext

/-- In a string the way breaks off at a backslash before the end, or at a line feed between single
marks. -/
theorem Point.next_ne_none_of_closes_short {quote : Char} {n : Nat}
    (h : Point.Closes ⟨.short quote, n, c :: r ++ ['\n']⟩) : Point.next ⟨.short quote, n, c :: r⟩ ≠ none := by
  intro hnext
  simp only [Point.next_short_cons] at hnext
  split at hnext
  · rename_i hc
    subst hc
    split at hnext
    · rename_i hr
      subst hr
      exact absurd (h.of_leads leads_short_escape) not_closes_short_nil
    · cases hnext
  · split at hnext
    · rename_i hc
      subst hc
      exact absurd h not_closes_short_newline
    · split at hnext <;> cases hnext

theorem Point.next_ne_none_of_closes_long {quote : Char} {n : Nat}
    (h : Point.Closes ⟨.long quote, n, c :: r ++ ['\n']⟩) : Point.next ⟨.long quote, n, c :: r⟩ ≠ none := by
  intro hnext
  simp only [Point.next_long_cons] at hnext
  split at hnext
  · rename_i hc
    subst hc
    split at hnext
    · rename_i hr
      subst hr
      exact absurd (h.of_leads leads_long_escape) not_closes_long_nil
    · cases hnext
  · split at hnext <;> cases hnext

/-- Where the way breaks off before the last line feed, it breaks off with it too. -/
theorem Point.Closes.of_fed_of_next (hlast : ¬ ['\n'] <:+ p.text) (h : p.fed.Closes) (hnext : p.next = none) :
    p.Closes := by
  obtain ⟨i, n, cs⟩ := p
  cases cs with
  | nil =>
    cases i with
    | code =>
      rcases (h.of_leads leads_newline).goesOn with hend | ⟨_, hnext⟩
      · cases hend
        exact .refl
      · cases hnext
    | comment => cases hnext
    | short quote => exact absurd h not_closes_short_newline
    | long quote => exact absurd (h.of_leads (leads_long_cons (by decide) (by simp))) not_closes_long_nil
  | cons c r =>
    cases i with
    | code => exact absurd hnext (Point.next_ne_none_of_closes_code hlast h)
    | comment =>
      simp only [Point.next_comment_cons] at hnext
      split at hnext <;> cases hnext
    | short quote => exact absurd hnext (Point.next_ne_none_of_closes_short h)
    | long quote => exact absurd hnext (Point.next_ne_none_of_closes_long h)

/-- A measure that goes down along the way. -/
def Point.size (p : Point) : Nat :=
  2 * p.text.length + match p.inside with
    | .comment => 1
    | _ => 0

theorem Point.size_next (h : p.next = some q) : q.size < p.size := by
  obtain ⟨i, n, cs⟩ := p
  revert h
  fun_cases Point.next ⟨i, n, cs⟩ <;> intro h <;> cases h <;> simp [size] <;> omega

/-- What a text with one line feed more closes, it closes without it. -/
theorem Point.Closes.of_fed (hlast : ¬ ['\n'] <:+ p.text) (h : p.fed.Closes) : p.Closes := by
  induction hsize : p.size using Nat.strongRecOn generalizing p with
  | ind size ih =>
    cases hnext : p.next with
    | some q =>
      have hfed := h.of_leads (.single (Point.next_fed hlast hnext))
      have hq := ih q.size (hsize ▸ Point.size_next hnext)
        (fun h => hlast (h.trans (Point.next_suffix hnext))) hfed rfl
      exact .head hnext hq
    | none => exact h.of_fed_of_next hlast hnext

end LastFeed

end ApiDirectives.Source
