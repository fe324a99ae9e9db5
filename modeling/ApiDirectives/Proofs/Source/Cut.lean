import ApiDirectives.Proofs.Source.Plain
import ApiDirectives.Proofs.Text.Blank

/-!
# What one step of the cut does

The cut takes one token at a time; each token is a run of plain characters, a bracket, a comment or a
whole string, so each step goes along the way through the text (`Lexing.Moves`). A token with a text of
its own starts in code, at a character that is neither a blank nor the sign of a comment, and has the
number of the line that it starts on; the others only say how lines are laid out. Whatever a cut keeps is
shown for one step (`Lexing.cutFrom_induction`). Where the end marker is set, everything that was opened is
closed.
-/

namespace ApiDirectives.Source

open ApiDirectives.Text

/-! ## Line ends -/

section Counts

variable {q : Char} {taken taken' r rest : List Char}

theorem count_dropWhile_feed (r : List Char) : (r.dropWhile (· != '\n')).count '\n' = r.count '\n' := by
  induction r with
  | nil => rfl
  | cons c r ih =>
    by_cases hc : c = '\n'
    · rw [List.dropWhile_cons_of_neg (by simpa using hc)]
    · rw [List.dropWhile_cons_of_pos (by simpa using hc), ih, List.count_cons_of_ne hc]

/-- After a comment comes the end of its line, or nothing. -/
theorem dropWhile_feed_eq (r : List Char) :
    r.dropWhile (· != '\n') = [] ∨ ∃ rest, r.dropWhile (· != '\n') = '\n' :: rest := by
  have hhead := List.head?_dropWhile_not (· != '\n') r
  cases hdrop : r.dropWhile (· != '\n') with
  | nil => exact .inl rfl
  | cons d rest =>
    rw [hdrop] at hhead
    have hd : d = '\n' := by simpa using hhead
    exact .inr ⟨rest, by rw [hd]⟩

theorem count_of_shortString (h : shortString q taken r = some (taken', rest)) :
    taken'.count '\n' + rest.count '\n' = taken.count '\n' + r.count '\n' := by
  fun_induction shortString q taken r with
  | case1 => cases h
  | case2 taken c r ih =>
    rw [ih h]
    simp only [List.count_cons]
    omega
  | case3 => cases h
  | case4 taken r _ _ =>
    cases h
    simp only [List.count_cons]
    omega
  | case5 taken c r _ _ _ ih =>
    rw [ih h]
    simp only [List.count_cons]
    omega

theorem count_of_longString (h : longString q taken r = some (taken', rest)) :
    taken'.count '\n' + rest.count '\n' = taken.count '\n' + r.count '\n' := by
  fun_induction longString q taken r with
  | case1 => cases h
  | case2 taken c r ih =>
    rw [ih h]
    simp only [List.count_cons]
    omega
  | case3 taken a b c r _ _ =>
    cases h
    simp only [List.count_cons]
    omega
  | case4 taken a b c r _ _ ih =>
    rw [ih h]
    simp only [List.count_cons]
    omega
  | case5 taken c r hescape hshort ih =>
    -- Fewer than three characters do not close a long string.
    cases r with
    | nil => simp [longString] at h
    | cons d r =>
      cases r with
      | nil => simp [longString] at h
      | cons e r => exact absurd rfl (hshort d e r)

/-- A string that is cut off has the line ends that are missing after it. -/
theorem count_of_stringRest (h : stringRest taken r = some (taken', rest)) :
    taken'.count '\n' + rest.count '\n' = taken.count '\n' + r.count '\n' := by
  unfold stringRest at h
  split at h
  · rename_i a b c r
    split at h
    · split at h
      · rw [count_of_longString h]
        simp only [List.count_cons]
        omega
      · cases h
        simp only [List.count_cons]
        omega
    · rw [count_of_shortString h]
      simp only [List.count_cons]
      omega
  · rw [count_of_shortString h]
    simp only [List.count_cons]
    omega
  · cases h

end Counts

/-! ## Signs and margins -/

theorem passes_longSign? {cs rest : List Char} {sign : String}
    (h : longSign? cs = some (sign, rest)) : Passes cs rest := by
  have hplain : longSigns.all (fun sign => sign.toList.all isPlain) = true := by decide
  obtain ⟨sign', hsign, hrest⟩ := List.exists_of_findSome?_eq_some h
  obtain ⟨rest', hdrop, heq⟩ := Option.map_eq_some_iff.mp hrest
  cases heq
  have hsigns := List.all_eq_true.mp (List.all_eq_true.mp hplain sign hsign)
  exact ⟨sign.toList, hsigns, append_of_dropLiteral? hdrop⟩

/-- A margin opens nothing, and it counts the lines that are continued in it. -/
theorem leads_of_measure {m m' : Margins} {cs : List Char} (h : measure m cs = .ok m') (n : Nat) :
    Leads ⟨.code, n, cs⟩ ⟨.code, n, m'.rest⟩ ∧
      m'.lines + m'.rest.count '\n' = m.lines + cs.count '\n' := by
  fun_induction measure m cs with
  | case1 m r ih | case2 m r ih | case3 m r ih =>
    obtain ⟨hleads, hlines⟩ := ih h
    exact ⟨(leads_plain (by decide)).trans hleads, by rw [hlines]; simp⟩
  | case4 => cases h
  | case5 m r hr continued ih =>
    obtain ⟨hleads, hlines⟩ := ih h
    refine ⟨(leads_continued (by simpa using hr)).trans hleads, ?_⟩
    rw [hlines]
    simp only [List.count_cons]
    simp
    omega
  | case6 => cases h
  | case7 m cs =>
    cases h
    exact ⟨.refl, rfl⟩

/-! ## Where tokens start -/

/-- Some text that a token can start: a character that is neither a blank nor the sign of a comment. -/
def Starts (cs : List Char) : Prop := ∃ c r, cs = c :: r ∧ isBlank c = false ∧ c ≠ '#'

section Starts

variable {c : Char} {r rest : List Char} {sign : String}

theorem isBlank_of_shown (hlow : 33 ≤ c.toNat) (hhigh : c.toNat < 127) : isBlank c = false := by
  simp only [isBlank, Bool.or_eq_false_iff, Bool.and_eq_false_iff, decide_eq_false_iff_not,
    beq_eq_false_iff_ne]
  omega

theorem isBlank_of_isDigit (h : c.isDigit = true) : isBlank c = false := by
  have hrange : 48 ≤ c.toNat ∧ c.toNat ≤ 57 := Char.isDigit_iff_toNat.mp h
  exact isBlank_of_shown (by omega) (by omega)

theorem isBlank_of_isQuote (h : isQuote c = true) : isBlank c = false := by
  rcases isQuote_iff.mp h with rfl | rfl <;> decide

/-- The letters that mark a string are no blanks, whatever their case. -/
theorem isBlank_of_mark {mark : List Char}
    (h : stringMarks.contains (lowerAscii (String.ofList mark)) = true) (hc : c ∈ mark) :
    isBlank c = false := by
  have hmarks : stringMarks.all (fun m => m.toList.all fun c => !isBlank c) = true := by decide
  by_contra hblank
  rw [Bool.not_eq_false] at hblank
  have hsame : c.toLower = c := by
    unfold Char.toLower
    rw [dif_neg]
    rintro ⟨hlow, hhigh⟩
    have hlow : 65 ≤ c.toNat := hlow
    have hhigh : c.toNat ≤ 90 := hhigh
    rw [isBlank_of_shown (by omega) (by omega)] at hblank
    cases hblank
  have hmem : c ∈ (lowerAscii (String.ofList mark)).toList := by
    simp only [lowerAscii, String.toList_ofList, List.mem_map]
    exact ⟨c, hc, hsame⟩
  have hmark := List.all_eq_true.mp hmarks _ (List.contains_iff_mem.mp h)
  simpa [hblank] using List.all_eq_true.mp hmark c hmem

theorem isBlank_of_longSign? (h : longSign? (c :: r) = some (sign, rest)) : isBlank c = false := by
  have hsigns : longSigns.all (fun sign => sign.toList.head?.any fun c => !isBlank c) = true := by decide
  obtain ⟨sign', hsign, hrest⟩ := List.exists_of_findSome?_eq_some h
  obtain ⟨rest', hdrop, heq⟩ := Option.map_eq_some_iff.mp hrest
  cases heq
  have hhead := List.all_eq_true.mp hsigns sign hsign
  have htext := append_of_dropLiteral? hdrop
  cases hlist : sign.toList with
  | nil =>
    rw [hlist] at hhead
    cases hhead
  | cons d ds =>
    rw [hlist] at hhead htext
    cases htext
    simpa using hhead

/-- A word that is a name or a keyword does not start with a blank. -/
theorem isBlank_of_word {word : List Char} (hname : startsName c = true)
    (h : ¬ ((c :: word).any (fun c => 128 ≤ c.toNat) && !isIdentifier (c :: word)) = true) :
    isBlank c = false := by
  by_cases hwide : 128 ≤ c.toNat
  · have hstart : isIdentifierStart c = true := by
      simp only [List.any_cons, hwide, decide_true, Bool.true_or, Bool.true_and, Bool.not_eq_true',
        Bool.not_eq_false, isIdentifier, Bool.and_eq_true] at h
      exact h.1
    exact Bool.eq_false_iff.mpr (not_isBlank_of_isIdentifierStart hstart)
  · have hcodes : ∀ n < 128, startsName (Char.ofNat n) = true → isBlank (Char.ofNat n) = false := by decide
    rw [← Char.ofNat_toNat c] at hname ⊢
    exact hcodes c.toNat (Nat.not_le.mp hwide) hname

end Starts

/-! ## One step -/

/-- Whether a token only says how lines are laid out; such a token has no text. -/
def Token.isLayout (t : Token) : Bool :=
  t.text == "" && [TokenKind.newline, .indent, .dedent, .endMarker].contains t.kind

/-- A token that starts on the way from a point, whose line is given, and has the number of its line. -/
def Placed (p : Point) (line : Nat) (t : Token) : Prop :=
  ∃ n cs, Leads p ⟨.code, n, cs⟩ ∧ Starts cs ∧ t.line + cs.count '\n' = line + p.text.count '\n'

namespace Lexing

/-- The point that a cut is at. -/
def point (s : Lexing) (cs : List Char) : Point := ⟨.code, s.brackets.length, cs⟩

/-- The line that a cut is at; at the start of a line the one that starts. -/
def lineAt (s : Lexing) (atStart : Bool) : Nat := if atStart then s.line + 1 else s.line

/-- The tokens that one cut has more than another: they are all on one line, the end is not among them,
and those that are no layout start where they say. -/
structure Adds (s s' : Lexing) (p : Point) (line : Nat) (new : List Token) (at' : Nat) : Prop where
  done : s'.done = new ++ s.done
  after : s.line ≤ at'
  before : at' ≤ s'.line
  each : ∀ t ∈ new, t.line = at' ∧ t.kind ≠ .endMarker ∧ (t.isLayout = true ∨ Placed p line t)

/-- One step from a cut to another: it goes along the way, counts lines, and adds tokens. -/
structure Moves (atStart : Bool) (s : Lexing) (cs : List Char) (next : Bool) (s' : Lexing)
    (rest : List Char) : Prop where
  leads : Leads (s.point cs) (s'.point rest)
  lines : rest = [] ∨ s'.lineAt next + rest.count '\n' = s.lineAt atStart + cs.count '\n'
  tokens : ∃ new line, s.Adds s' (s.point cs) (s.lineAt atStart) new line

/-- What one step of the cut can do: it stops with the tokens it has, or it marks the end, and then the
text closes, or it moves. -/
inductive Cuts (fuel : Nat) (atStart : Bool) (s : Lexing) (cs : List Char) : Tokens → Prop
  | stopped {g : Tokens} : g.items.toList = s.done.reverse → Cuts fuel atStart s cs g
  | ended {g : Tokens} : (s.point cs).Closes → g.items.toList = (s.emit .endMarker "").done.reverse →
      Cuts fuel atStart s cs g
  | moved {next : Bool} {s' : Lexing} {rest : List Char} : Moves atStart s cs next s' rest →
      Cuts fuel atStart s cs (cutFrom fuel next s' rest)

section Steps

variable {s s' : Lexing} {atStart next : Bool} {cs rest : List Char} {fuel : Nat} {c : Char}

theorem toList_stop (s : Lexing) (fault : TokenFault) : (s.stop fault).items.toList = s.done.reverse := by
  simp [stop]

/-- A step without tokens. -/
theorem Moves.silent (hleads : Leads (s.point cs) (s'.point rest))
    (hlines : rest = [] ∨ s'.lineAt next + rest.count '\n' = s.lineAt atStart + cs.count '\n')
    (hdone : s'.done = s.done) (hline : s.line ≤ s'.line) : Moves atStart s cs next s' rest :=
  ⟨hleads, hlines, [], s.line, hdone, Nat.le_refl _, hline, by simp⟩

/-! ### Margins -/

/-- A cut that has more layout tokens than another, all on its line. -/
structure Lays (s s' : Lexing) : Prop where
  brackets : s'.brackets = s.brackets
  line : s'.line = s.line
  tokens : ∃ new, s'.done = new ++ s.done ∧
    ∀ t ∈ new, t.line = s.line ∧ t.kind ≠ .endMarker ∧ t.isLayout = true

theorem lays_dedent (m : Margin) (margins : List Margin) (s : Lexing) : s.Lays (dedent m margins s) := by
  induction margins generalizing s with
  | nil => exact ⟨rfl, rfl, [], rfl, by simp⟩
  | cons top below ih =>
    unfold dedent
    split
    · obtain ⟨hbrackets, hline, new, hdone, hnew⟩ := ih (({ s with margins := below }).emit .dedent "")
      refine ⟨hbrackets, hline, new ++ [⟨.dedent, "", s.line, s.brackets.length, none⟩], ?_, ?_⟩
      · rw [hdone, List.append_assoc]
        rfl
      · intro t ht
        rcases List.mem_append.mp ht with hold | hone
        · exact hnew t hold
        · rw [List.mem_singleton.mp hone]
          exact ⟨rfl, by simp, rfl⟩
    · exact ⟨rfl, rfl, [], rfl, by simp⟩

theorem lays_indent {m : Margin} (h : s.indent m = .ok s') : s.Lays s' := by
  unfold indent at h
  dsimp only at h
  split at h
  · split at h
    · cases h
      exact ⟨rfl, rfl, [], rfl, by simp⟩
    · cases h
  · split at h
    · split at h
      · cases h
      · cases h
        refine ⟨rfl, rfl, [_], rfl, fun t ht => ?_⟩
        rw [List.mem_singleton.mp ht]
        exact ⟨rfl, by simp, rfl⟩
    · split at h
      · cases h
        exact lays_dedent m s.margins s
      · cases h

theorem indent_error {m : Margin} {g : Tokens} (h : s.indent m = .error g) :
    g.items.toList = s.done.reverse := by
  have hlayout : g = s.layout := by
    unfold indent at h
    dsimp only at h
    split at h
    · split at h <;> cases h
      rfl
    · split at h
      · split at h <;> cases h
        rfl
      · split at h <;> cases h
        rfl
  rw [hlayout]
  exact toList_stop s _

/-- A step at the start of a line. -/
theorem cuts_atStart (fuel : Nat) (s : Lexing) (cs : List Char) :
    Cuts fuel true s cs (cutFrom (fuel + 1) true s cs) := by
  rw [cutFrom]
  generalize hline : (if cs.isEmpty then s else { s with line := s.line + 1 }) = s₀
  have hbrackets : s₀.brackets = s.brackets := by
    rw [← hline]
    split <;> rfl
  have hdone : s₀.done = s.done := by
    rw [← hline]
    split <;> rfl
  have hnumber : s.line ≤ s₀.line ∧ (cs ≠ [] → s₀.line = s.line + 1) := by
    rw [← hline]
    split
    · rename_i hempty
      exact ⟨Nat.le_refl _, fun h => absurd (List.isEmpty_iff.mp hempty) h⟩
    · exact ⟨Nat.le_succ _, fun _ => rfl⟩
  dsimp only
  cases hmeasure : measure {} cs with
  | error e =>
    refine .stopped ?_
    rw [← hdone]
    cases e with
    | broken lines => exact toList_stop { s₀ with line := s₀.line + lines } _
    | atEnd lines => exact toList_stop { s₀ with line := s₀.line + lines } _
  | ok m =>
    obtain ⟨hmargin, hcount⟩ := leads_of_measure hmeasure s.brackets.length
    rw [Nat.zero_add] at hcount
    -- The line that the margin ends on has the number that its text asks for.
    have hlines : m.rest = [] ∨ s₀.line + m.lines + m.rest.count '\n' = s.lineAt true + cs.count '\n' := by
      by_cases hcs : cs = []
      · subst hcs
        cases hmeasure
        exact .inl rfl
      · refine .inr ?_
        rw [hnumber.2 hcs, lineAt, if_pos rfl]
        omega
    have hlater : s.line ≤ s₀.line + m.lines := by omega
    dsimp only
    split
    · -- A line of its own for a comment or for nothing makes no token.
      rename_i r hrest
      rw [hrest] at hmargin hlines
      have hsign := hmargin.trans (leads_hash.trans leads_comment)
      have hcount := count_dropWhile_feed r
      rcases dropWhile_feed_eq r with hend | ⟨rest, hend⟩
      · rw [hend] at hsign
        rw [hend]
        refine .moved (.silent ?_ (.inl rfl) hdone hlater)
        rwa [point, point, hbrackets]
      · rw [hend] at hsign hcount
        rw [hend, List.drop_one, List.tail_cons]
        refine .moved (.silent ?_ (.inr ?_) hdone hlater)
        · rw [point, point, hbrackets]
          exact hsign.trans leads_newline
        · have hline := hlines.resolve_left (by simp)
          rw [List.count_cons_of_ne (by decide), ← hcount, List.count_cons_self] at hline
          rw [← hline, lineAt, if_pos rfl]
          dsimp only
          omega
    · rename_i r hrest
      rw [hrest] at hmargin hlines
      refine .moved (.silent ?_ (.inr ?_) hdone hlater)
      · rw [point, point, hbrackets]
        exact hmargin.trans leads_newline
      · have hline := hlines.resolve_left (by simp)
        rw [List.count_cons_self] at hline
        rw [← hline, lineAt, if_pos rfl]
        dsimp only
        omega
    · split
      · cases hindent : ({ s₀ with line := s₀.line + m.lines } : Lexing).indent m.counted with
        | error stopped =>
          refine .stopped ?_
          rw [← hdone]
          exact indent_error (s := { s₀ with line := s₀.line + m.lines }) hindent
        | ok s₁ =>
          obtain ⟨hkept, hline₁, new, hnew, hlaid⟩ := lays_indent hindent
          refine .moved ⟨?_, ?_, new, s₀.line + m.lines, ?_, hlater, hline₁.ge, fun t ht => ?_⟩
          · rw [point, point, hkept, hbrackets]
            exact hmargin
          · rw [lineAt, if_neg (by decide), hline₁]
            exact hlines
          · rw [hnew, hdone]
          · obtain ⟨hat, hkind, hlayout⟩ := hlaid t ht
            exact ⟨hat, hkind, .inl hlayout⟩
      · refine .moved (.silent ?_ hlines hdone hlater)
        rw [point, point, hbrackets]
        exact hmargin

/-! ### Tokens -/

/-- A step that takes one token in a line, behind blanks. -/
theorem Moves.token {text : List Char} {t : Token} (hspacing : Passes cs text) (hstarts : Starts text)
    (hleads : Leads (s.point text) (s'.point rest)) (hlines : s'.line + rest.count '\n' = s.line + text.count '\n')
    (hdone : s'.done = t :: s.done) (hline : t.line = s.line) (hkind : t.kind ≠ .endMarker)
    (hlater : s.line ≤ s'.line) : Moves false s cs false s' rest := by
  refine ⟨(hspacing.leads _).trans hleads, .inr ?_, [t], s.line, hdone, Nat.le_refl _, hlater, fun u hu => ?_⟩
  · rw [lineAt, lineAt, if_neg (by decide), if_neg (by decide), hlines, hspacing.count]
  · rw [List.mem_singleton.mp hu]
    refine ⟨hline, hkind, .inr ⟨s.brackets.length, text, hspacing.leads _, hstarts, ?_⟩⟩
    rw [hline, hspacing.count]
    rfl

/-- A step that takes a run of plain characters as one token. -/
theorem Moves.plain {text : List Char} {kind : TokenKind} (hspacing : Passes cs text) (hstarts : Starts text)
    (hrest : Passes text rest) (hkind : kind ≠ .endMarker) (shown : String) :
    Moves false s cs false (s.emit kind shown) rest :=
  .token hspacing hstarts (hrest.leads _) (by rw [hrest.count]; rfl) rfl rfl hkind (Nat.le_refl _)

/-- A string is taken whole or ends the cut. -/
theorem cuts_string {q : Char} {text taken r : List Char} (hspacing : Passes cs text) (hstarts : Starts text)
    (hq : isQuote q = true) (hmark : Passes text (q :: r)) (htaken : taken.count '\n' = 0) :
    Cuts fuel false s cs
      (match stringRest taken (q :: r) with
        | some (taken, rest) => cutFrom fuel false (s.emitString taken) rest
        | none => s.lexical) := by
  split
  · rename_i taken' rest hstring
    have hcount := count_of_stringRest hstring
    refine .moved (.token hspacing hstarts ((hmark.leads _).trans (leads_of_stringRest hq hstring)) ?_ rfl rfl
      (by simp) (Nat.le_add_right _ _))
    rw [htaken, hmark.count, Nat.zero_add] at hcount
    show s.line + taken'.count '\n' + rest.count '\n' = s.line + text.count '\n'
    omega
  · exact .stopped (toList_stop s _)

theorem opened_error {g : Tokens} (h : s.opened c = .error g) : g.items.toList = s.done.reverse := by
  unfold opened at h
  split at h
  · cases h
    exact toList_stop s _
  · cases h

theorem closed_error {g : Tokens} (h : s.closed c = .error g) : g.items.toList = s.done.reverse := by
  unfold closed at h
  split at h
  · cases h
    exact toList_stop s _
  · split at h
    · cases h
    · cases h
      exact toList_stop s _

/-- A bracket that is opened or closed is one token. -/
theorem opened_eq_ok (h : s.opened c = .ok s') : s'.brackets.length = s.brackets.length + 1 ∧
    s'.line = s.line ∧ ∃ t, s'.done = t :: s.done ∧ t.line = s.line ∧ t.kind ≠ .endMarker := by
  unfold opened at h
  split at h
  · cases h
  · cases h
    exact ⟨rfl, rfl, _, rfl, rfl, by simp⟩

theorem closed_eq_ok (h : s.closed c = .ok s') : s.brackets.length = s'.brackets.length + 1 ∧
    s'.line = s.line ∧ ∃ t, s'.done = t :: s.done ∧ t.line = s.line ∧ t.kind ≠ .endMarker := by
  unfold closed at h
  split at h
  · cases h
  · rename_i o l below hbelow
    split at h
    · cases h
      exact ⟨by rw [hbelow]; rfl, rfl, _, rfl, rfl, by simp⟩
    · cases h

/-- A bracket is one more or one less, or ends the cut; other signs are plain. -/
theorem cuts_sign {r : List Char} (hspacing : Passes cs (c :: r)) (hspace : isSpacing c = false)
    (hhash : c ≠ '#') (hslash : c ≠ '\\') (hnewline : c ≠ '\n') (hquote : ¬ isQuote c = true) :
    Cuts fuel false s cs
      (if c == '(' || c == '[' || c == '\x7b' then
        match s.opened c with
        | .error stopped => stopped
        | .ok s => cutFrom fuel false s r
      else if c == ')' || c == ']' || c == '\x7d' then
        match s.closed c with
        | .error stopped => stopped
        | .ok s => cutFrom fuel false s r
      else if 32 ≤ c.toNat && c.toNat < 127 then
        cutFrom fuel false (s.emit .sign (String.singleton c)) r
      else s.lexical) := by
  have hcount : (c :: r).count '\n' = r.count '\n' := List.count_cons_of_ne hnewline
  split
  · rename_i hopening
    have hstarts : Starts (c :: r) := by
      refine ⟨c, r, rfl, ?_, hhash⟩
      simp only [Bool.or_eq_true, beq_iff_eq] at hopening
      rcases hopening with (rfl | rfl) | rfl <;> decide
    cases hopened : s.opened c with
    | error stopped => exact .stopped (opened_error hopened)
    | ok s' =>
      obtain ⟨hbrackets, hline, t, hdone, ht, hkind⟩ := opened_eq_ok hopened
      refine .moved (.token hspacing hstarts ?_ (by rw [hline, hcount]) hdone ht hkind hline.ge)
      rw [point, point, hbrackets]
      exact leads_opening hopening
  · rename_i hopening
    split
    · rename_i hclosing
      have hstarts : Starts (c :: r) := by
        refine ⟨c, r, rfl, ?_, hhash⟩
        simp only [Bool.or_eq_true, beq_iff_eq] at hclosing
        rcases hclosing with (rfl | rfl) | rfl <;> decide
      cases hclosed : s.closed c with
      | error stopped => exact .stopped (closed_error hclosed)
      | ok s' =>
        obtain ⟨hbrackets, hline, t, hdone, ht, hkind⟩ := closed_eq_ok hclosed
        refine .moved (.token hspacing hstarts ?_ (by rw [hline, hcount]) hdone ht hkind hline.ge)
        rw [point, point, hbrackets]
        exact leads_closing hclosing
    · rename_i hclosing
      split
      · rename_i hshown
        -- All other characters with a meaning are ruled out by now.
        have hplain : isPlain c = true := by
          simp only [isPlain, isOpening, isClosing]
          simp [hhash, hslash, hnewline, hquote, hopening, hclosing]
        have hblank : isBlank c = false := by
          simp only [Bool.and_eq_true, decide_eq_true_eq] at hshown
          refine isBlank_of_shown (Nat.lt_of_le_of_ne hshown.1 fun h => ?_) hshown.2
          have hc : c = ' ' := by rw [← Char.ofNat_toNat c, ← h]
          rw [hc] at hspace
          cases hspace
        exact .moved (.plain hspacing ⟨c, r, rfl, hblank, hhash⟩ (.cons hplain (.refl r)) (by decide) _)
      · exact .stopped (toList_stop s _)

/-- A word is the mark of a string right behind it, or a keyword, or a name. -/
theorem cuts_word {r : List Char} (hspacing : Passes cs (c :: r)) (hhash : c ≠ '#')
    (hname : startsName c = true) :
    Cuts fuel false s cs
      (let word := c :: r.takeWhile continuesName
      let rest := r.dropWhile continuesName
      let text := String.ofList word
      if rest.head?.any isQuote && stringMarks.contains (lowerAscii text) then
        match stringRest word.reverse rest with
        | some (taken, rest) => cutFrom fuel false (s.emitString taken) rest
        | none => s.lexical
      else if word.any (fun c => 128 ≤ c.toNat) && !isIdentifier word then s.lexical
      else if keywords.contains text then cutFrom fuel false (s.emit .keyword text) rest
      else cutFrom fuel false (s.emit .name text) rest) := by
  have hrest : Passes (c :: r) (r.dropWhile continuesName) :=
    .cons (isPlain_of_class (by decide) c hname) (.dropWhile isPlain_of_continuesName r)
  dsimp only
  split
  · rename_i hmark
    simp only [Bool.and_eq_true] at hmark
    obtain ⟨hquote, hmarks⟩ := hmark
    have hblank := isBlank_of_mark hmarks List.mem_cons_self
    -- The marks of a string are letters: there is no line feed among them.
    have htaken : (c :: r.takeWhile continuesName).reverse.count '\n' = 0 := by
      rw [List.count_reverse]
      refine List.count_eq_zero_of_not_mem fun hmem => ?_
      have hplain := isPlain_of_mark hmarks _ hmem
      cases hplain
    generalize r.dropWhile continuesName = rest at hquote hrest
    cases rest with
    | nil => cases hquote
    | cons q body => exact cuts_string hspacing ⟨c, r, rfl, hblank, hhash⟩ hquote hrest htaken
  · split
    · exact .stopped (toList_stop s _)
    · rename_i hword
      have hstarts : Starts (c :: r) := ⟨c, r, rfl, isBlank_of_word hname hword, hhash⟩
      split
      · exact .moved (.plain hspacing hstarts hrest (by decide) _)
      · exact .moved (.plain hspacing hstarts hrest (by decide) _)

/-- A step inside a line. -/
theorem cuts_inLine (fuel : Nat) (s : Lexing) (cs : List Char) :
    Cuts fuel false s cs (cutFrom (fuel + 1) false s cs) := by
  have hspacing := Passes.dropWhile isPlain_of_isSpacing cs
  have hhead := List.head?_dropWhile_not isSpacing cs
  rw [cutFrom]
  generalize cs.dropWhile isSpacing = text at hspacing hhead
  have hleads := hspacing.leads s.brackets.length
  have hcount := hspacing.count
  split
  · -- The end of the text: it is marked if no bracket is open.
    split
    · rename_i hempty
      refine .ended ?_ (by simp)
      rw [List.isEmpty_iff.mp hempty] at hleads
      rw [Point.Closes, point, List.isEmpty_iff.mp hempty]
      exact hleads
    · exact .stopped (toList_stop s _)
  · rename_i r
    refine .moved (.silent (hleads.trans (leads_hash.trans leads_comment)) (.inr ?_) rfl (Nat.le_refl _))
    rw [count_dropWhile_feed, ← hcount, List.count_cons_of_ne (by decide)]
  · rename_i r
    rw [List.count_cons_self] at hcount
    have hline : s.line + 1 + r.count '\n' = s.lineAt false + cs.count '\n' := by
      rw [← hcount, lineAt, if_neg (by decide)]
      omega
    split
    · refine .moved ⟨hleads.trans leads_newline, .inr hline, [_], s.line, rfl, Nat.le_refl _, Nat.le_refl _, ?_⟩
      intro t ht
      rw [List.mem_singleton.mp ht]
      exact ⟨rfl, by simp, .inl rfl⟩
    · exact .moved (.silent (hleads.trans leads_newline) (.inr hline) rfl (Nat.le_refl _))
  · rename_i r
    split
    · exact .stopped (toList_stop s _)
    · rename_i hr
      refine .moved (.silent (hleads.trans (leads_continued (by simpa using hr))) (.inr ?_) rfl (Nat.le_succ _))
      rw [← hcount, List.count_cons_of_ne (by decide), List.count_cons_self]
      show s.line + 1 + r.count '\n' = s.line + (r.count '\n' + 1)
      omega
  · exact .stopped (toList_stop s _)
  · rename_i c r hhash hnewline hcontinued hslash
    have hspace : isSpacing c = false := by simpa using hhead
    split
    · exact cuts_word hspacing hhash ‹_›
    · split
      · rename_i hquote
        exact cuts_string hspacing ⟨c, r, rfl, isBlank_of_isQuote hquote, hhash⟩ hquote (.refl _) rfl
      · rename_i hquote
        split
        · rename_i hdigit
          have hblank : isBlank c = false := by
            simp only [Bool.or_eq_true, Bool.and_eq_true, beq_iff_eq] at hdigit
            rcases hdigit with hdigit | ⟨rfl, -⟩
            · exact isBlank_of_isDigit hdigit
            · decide
          split
          · rename_i rest hnumber
            exact .moved (.plain hspacing ⟨c, r, rfl, hblank, hhash⟩ (passes_numberRest hnumber) (by decide) _)
          · exact .stopped (toList_stop s _)
        · split
          · rename_i sign rest hsign
            exact .moved (.plain hspacing ⟨c, r, rfl, isBlank_of_longSign? hsign, hhash⟩ (passes_longSign? hsign)
              (by decide) _)
          · exact cuts_sign hspacing hspace hhash hslash hnewline hquote

/-- Whatever holds where a cut starts and is kept by every step holds where it stops. -/
theorem cutFrom_induction {P : Bool → Lexing → List Char → Prop} {Q : Tokens → Prop}
    (hstop : ∀ {b s cs g}, P b s cs → g.items.toList = s.done.reverse → Q g)
    (hend : ∀ {b s cs g}, P b s cs → (s.point cs).Closes →
      g.items.toList = (s.emit .endMarker "").done.reverse → Q g)
    (hmove : ∀ {b s cs b' s' rest}, P b s cs → Moves b s cs b' s' rest → P b' s' rest)
    (fuel : Nat) {b : Bool} (h : P b s cs) : Q (cutFrom fuel b s cs) := by
  induction fuel generalizing b s cs with
  | zero => exact hstop h (toList_stop s _)
  | succ fuel ih =>
    have hcuts : Cuts fuel b s cs (cutFrom (fuel + 1) b s cs) := by
      cases b with
      | true => exact cuts_atStart fuel s cs
      | false => exact cuts_inLine fuel s cs
    generalize cutFrom (fuel + 1) b s cs = g at hcuts
    cases hcuts with
    | stopped hdone => exact hstop h hdone
    | ended hcloses hdone => exact hend h hcloses hdone
    | moved hmoves => exact ih (hmove h hmoves)

end Steps

/-- A cut that marks the end has closed everything. -/
theorem closes_of_endMarker (fuel : Nat) (s : Lexing) (cs : List Char)
    (hs : ∀ t ∈ s.done, t.kind ≠ .endMarker)
    (hend : ∃ t ∈ (cutFrom fuel true s cs).items.toList, t.kind = .endMarker) : (s.point cs).Closes := by
  -- Before the end there is no end marker, and the way leads on from the start.
  have hstart : (∀ t ∈ s.done, t.kind ≠ .endMarker) ∧ Leads (s.point cs) (s.point cs) := ⟨hs, .refl⟩
  revert hend
  refine cutFrom_induction (P := fun _ s' rest => (∀ t ∈ s'.done, t.kind ≠ .endMarker) ∧
      Leads (s.point cs) (s'.point rest))
    (Q := fun g => (∃ t ∈ g.items.toList, t.kind = .endMarker) → (s.point cs).Closes) ?_ ?_ ?_ fuel hstart
  · rintro b s' rest g ⟨hnone, -⟩ hdone ⟨t, ht, hkind⟩
    rw [hdone, List.mem_reverse] at ht
    exact absurd hkind (hnone t ht)
  · rintro b s' rest g ⟨-, hleads⟩ hcloses - -
    exact hleads.trans hcloses
  · rintro b s₁ rest₁ b' s₂ rest₂ ⟨hnone, hleads⟩ hmoves
    obtain ⟨new, line, hadds⟩ := hmoves.tokens
    refine ⟨fun t ht => ?_, hleads.trans hmoves.leads⟩
    rw [hadds.done] at ht
    rcases List.mem_append.mp ht with hnew | hold
    · exact (hadds.each t hnew).2.1
    · exact hnone t hold

end Lexing

/-! ## Lines that end in line feeds -/

section Feeds

variable {cs : List Char}

theorem unixLines_eq_self (h : '\r' ∉ cs) : unixLines cs = cs := by
  fun_induction unixLines cs with
  | case1 => rfl
  | case2 r ih => exact absurd List.mem_cons_self h
  | case3 r _ ih => exact absurd List.mem_cons_self h
  | case4 c r _ _ ih => rw [ih (List.not_mem_of_not_mem_cons h)]

theorem endsInPair_eq_false (h : '\r' ∉ cs) : endsInPair cs = false := by
  fun_induction endsInPair cs with
  | case1 => rfl
  | case2 => exact absurd List.mem_cons_self h
  | case3 c r _ ih => exact ih (List.not_mem_of_not_mem_cons h)

/-- A text whose last line is ended, or gets a line feed. -/
theorem endedLines_eq (hreturn : '\r' ∉ cs) :
    endedLines cs = cs ∨ endedLines cs = cs ++ ['\n'] ∧ ¬ ['\n'] <:+ cs := by
  unfold endedLines
  rw [unixLines_eq_self hreturn, endsInPair_eq_false hreturn]
  dsimp only
  split
  · exact .inl rfl
  · rename_i hlast
    refine .inr ⟨rfl, ?_⟩
    rintro ⟨run, rfl⟩
    simp at hlast

/-- Ending the last line closes nothing. -/
theorem closes_of_endedLines (hreturn : '\r' ∉ cs) (h : Point.Closes ⟨.code, 0, endedLines cs⟩) :
    Point.Closes ⟨.code, 0, cs⟩ := by
  rcases endedLines_eq hreturn with heq | ⟨heq, hlast⟩
  · rwa [heq] at h
  · rw [heq] at h
    exact .of_fed hlast h

/-- A text that is cut to its end closes. -/
theorem closes_of_ofText {line : Nat} (hreturn : '\r' ∉ cs)
    (hend : ∃ t ∈ (Tokens.ofText line cs).items.toList, t.kind = .endMarker) :
    Point.Closes ⟨.code, 0, cs⟩ :=
  closes_of_endedLines hreturn (Lexing.closes_of_endMarker _ { line := line - 1 } _ (by simp) hend)

end Feeds

end ApiDirectives.Source
