import ApiDirectives.Format.Json
import ApiDirectives.Proofs.Document.Finite

/-!
# JSON outside of its quotes

A JSON text may say anything inside quotes, so a statement on its tokens is one on what is left without
its strings. `unquoted` reads a text along its quotes and escapes and keeps what stands outside of them.
Every piece of a rendered value begins and ends outside of quotes, whatever the strings in it hold, and
of a value whose doubles are finite only marks, digits and the small letters of a few words are left.
-/

namespace ApiDirectives.Json

/-! ## Reading along quotes -/

/-- Where a reader stands in a JSON text. -/
inductive Position where
  | outside
  | inside
  /-- Inside quotes, behind a backslash. -/
  | escape

/-- What a reader that stands at a position finds outside of quotes. -/
def unquotedFrom : Position → List Char → List Char
  | _, [] => []
  | .outside, c :: r => if c = '"' then unquotedFrom .inside r else c :: unquotedFrom .outside r
  | .inside, c :: r =>
    if c = '"' then unquotedFrom .outside r
    else if c = '\\' then unquotedFrom .escape r
    else unquotedFrom .inside r
  | .escape, _ :: r => unquotedFrom .inside r

/-- What stands outside of the quotes of a text. -/
def unquoted (s : String) : List Char :=
  unquotedFrom .outside s.toList

/-- A word stands in a text outside of its quotes. -/
def HasBareWord (word : String) (text : String) : Prop :=
  word.toList <:+: unquoted text

instance (word text : String) : Decidable (HasBareWord word text) :=
  inferInstanceAs (Decidable (_ <:+: _))

-- The words of a text are seen outside of its quotes only, also behind an escaped quote.
example : ¬ HasBareWord "NaN" (text 0 (.str "\"NaN")) ∧
    HasBareWord "NaN" (text 0 (.list [.str "\"", .float .undefined])) := by decide

/-! ## Pieces -/

/-- No character is a quote or begins one of the words for numbers that are not finite. -/
def Plain (cs : List Char) : Prop :=
  ∀ c ∈ cs, c ≠ '"' ∧ c ≠ 'N' ∧ c ≠ 'I'

/-- A piece of a text that ends outside of quotes if it begins there, and is plain outside of them. -/
def Closed (s : String) : Prop :=
  ∃ bare, Plain bare ∧
    ∀ rest, unquotedFrom .outside (s.toList ++ rest) = bare ++ unquotedFrom .outside rest

instance (cs : List Char) : Decidable (Plain cs) :=
  List.decidableBAll (fun c => c ≠ '"' ∧ c ≠ 'N' ∧ c ≠ 'I') cs

theorem Plain.append {cs ds : List Char} (hcs : Plain cs) (hds : Plain ds) : Plain (cs ++ ds) :=
  List.forall_mem_append.mpr ⟨hcs, hds⟩

theorem Plain.cons {c : Char} {cs : List Char} (hc : c ≠ '"' ∧ c ≠ 'N' ∧ c ≠ 'I') (hcs : Plain cs) :
    Plain (c :: cs) :=
  List.forall_mem_cons.mpr ⟨hc, hcs⟩

theorem plain_of_subset {cs ds : List Char} (hds : Plain ds) (h : cs ⊆ ds) : Plain cs :=
  fun c hc => hds c (h hc)

theorem plain_replicate (n : Nat) {c : Char} (hc : c ≠ '"' ∧ c ≠ 'N' ∧ c ≠ 'I') :
    Plain (List.replicate n c) := by
  intro d hd
  rw [List.eq_of_mem_replicate hd]
  exact hc

theorem Closed.append {s t : String} (hs : Closed s) (ht : Closed t) : Closed (s ++ t) := by
  obtain ⟨bare, hbare, hread⟩ := hs
  obtain ⟨bare', hbare', hread'⟩ := ht
  refine ⟨bare ++ bare', hbare.append hbare', fun rest => ?_⟩
  rw [String.toList_append, List.append_assoc, hread, hread', List.append_assoc]

/-- A text without quotes is read as it stands. -/
theorem closed_of_plain {s : String} (h : Plain s.toList) : Closed s := by
  refine ⟨s.toList, h, fun rest => ?_⟩
  generalize s.toList = cs at h
  induction cs with
  | nil => rfl
  | cons c cs ih =>
    obtain ⟨hc, hcs⟩ := List.forall_mem_cons.mp h
    rw [List.cons_append, unquotedFrom, if_neg hc.1, ih hcs, List.cons_append]

theorem closed_ofList {cs : List Char} (h : Plain cs) : Closed (String.ofList cs) :=
  closed_of_plain (by rwa [String.toList_ofList])

/-! ## Strings -/

/-- A hexadecimal digit is neither a quote nor a backslash. -/
theorem hexDigit_ne {n : Nat} (h : n < 16) : Text.hexDigit n ≠ '"' ∧ Text.hexDigit n ≠ '\\' := by
  revert n
  decide

/-- Hexadecimal digits do not end a string. -/
theorem unquotedFrom_hexPadded (width n : Nat) (rest : List Char) :
    unquotedFrom .inside (Text.hexPadded width n ++ rest) = unquotedFrom .inside rest := by
  induction width generalizing n rest with
  | zero => rfl
  | succ width ih =>
    obtain ⟨hquote, hslash⟩ := hexDigit_ne (Nat.mod_lt n (by decide : 0 < 16))
    rw [Text.hexPadded, List.append_assoc, ih, List.singleton_append, unquotedFrom, if_neg hquote,
      if_neg hslash]

/-- The form of a character inside quotes does not end them. -/
theorem unquotedFrom_escaped (c : Char) (rest : List Char) :
    unquotedFrom .inside (escaped c ++ rest) = unquotedFrom .inside rest := by
  -- Every form but the last begins with a backslash, behind which one character is passed over.
  have hpair : ∀ d : Char, unquotedFrom .inside ('\\' :: d :: rest) = unquotedFrom .inside rest :=
    fun d => rfl
  unfold escaped
  split_ifs with hquote hslash
  · exact hpair '"'
  · exact hpair '\\'
  · exact hpair 'n'
  · exact hpair 'r'
  · exact hpair 't'
  · exact hpair 'b'
  · exact hpair 'f'
  · show unquotedFrom .inside (Text.hexPadded 4 c.toNat ++ rest) = _
    exact unquotedFrom_hexPadded 4 c.toNat rest
  · rw [List.singleton_append, unquotedFrom, if_neg hquote, if_neg hslash]

/-- Nothing of a quoted text stands outside of quotes. -/
theorem closed_quoted (s : String) : Closed (quoted s) := by
  refine ⟨[], List.forall_mem_nil _, fun rest => ?_⟩
  have hinside : ∀ cs : List Char, unquotedFrom .inside (cs.flatMap escaped ++ '"' :: rest) =
      unquotedFrom .outside rest := by
    intro cs
    induction cs with
    | nil => rfl
    | cons c cs ih => rw [List.flatMap_cons, List.append_assoc, unquotedFrom_escaped, ih]
  rw [quoted, String.toList_ofList]
  simpa [unquotedFrom] using hinside s.toList

/-! ## Numbers -/

theorem plain_toDigits (n : Nat) : Plain (Nat.toDigits 10 n) := by
  intro c hc
  have hdigit : c.isDigit = true := Nat.isDigit_of_mem_toDigits (by decide) (by decide) hc
  refine ⟨?_, ?_, ?_⟩ <;> rintro rfl <;> cases hdigit

theorem closed_toString_nat (n : Nat) : Closed (toString n) := by
  rw [Nat.toString_eq_ofList_toDigits]
  exact closed_ofList (plain_toDigits n)

theorem closed_toString_int (n : Int) : Closed (toString n) := by
  cases n with
  | ofNat n => exact closed_toString_nat n
  | negSucc n =>
    show Closed ("-" ++ toString (n + 1))
    exact (closed_of_plain (by decide)).append (closed_toString_nat _)

theorem closed_exponentText (x : Int) : Closed (Binary64.exponentText x) := by
  unfold Binary64.exponentText
  refine Closed.append ?_ ?_
  · split_ifs <;> exact closed_of_plain (by decide)
  · split_ifs
    · exact (closed_of_plain (by decide)).append (closed_toString_nat _)
    · exact closed_toString_nat _

/-- The digits of a finite number with their marks. -/
theorem closed_digitsText (n : Nat) (x : Int) : Closed (numbers.digitsText n x) := by
  have hdigits := plain_toDigits n
  have hzeros : ∀ count, Plain (List.replicate count '0') :=
    fun count => plain_replicate count (by decide)
  unfold Binary64.Layout.digitsText
  dsimp only
  split_ifs with hpositional hwhole hpoint
  · exact (closed_ofList (hdigits.append (hzeros _))).append (closed_of_plain (by decide))
  · refine closed_ofList (Plain.append ?_ (Plain.cons (by decide) ?_))
    · exact plain_of_subset hdigits (List.take_subset _ _)
    · exact plain_of_subset hdigits (List.drop_subset _ _)
  · exact (closed_of_plain (by decide)).append (closed_ofList ((hzeros _).append hdigits))
  · refine (Closed.append ?_ (closed_of_plain (by decide))).append (closed_exponentText _)
    split
    · exact closed_of_plain (by decide)
    · rename_i d hone
      have hd : Plain [d] := hone ▸ hdigits
      exact (closed_ofList hd).append (closed_of_plain (by decide))
    · rename_i d rest _ hmore
      obtain ⟨hd, hrest⟩ := List.forall_mem_cons.mp (hmore ▸ hdigits)
      exact closed_ofList (Plain.cons hd (Plain.cons (by decide) hrest))

/-- A finite double is written without the words for numbers that are not. -/
theorem closed_render_finite {x : Binary64} (h : x.isFinite = true) : Closed (numbers.render x) := by
  cases x with
  | finite negative m e =>
    have hsign : Closed (if negative then "-" else "") := by
      split_ifs <;> exact closed_of_plain (by decide)
    unfold Binary64.Layout.render
    dsimp only
    split
    · exact hsign.append (closed_of_plain (by decide))
    · exact hsign.append (closed_digitsText _ _)
  | infinite negative => cases h
  | undefined => cases h

/-! ## Values -/

theorem closed_edge (l : Layout) (level : Nat) : Closed (l.edge level) := by
  cases l with
  | line =>
    show Closed ""
    exact closed_of_plain (by decide)
  | indented width =>
    show Closed ("\n" ++ String.ofList (List.replicate (width * level) ' '))
    exact (closed_of_plain (by decide)).append (closed_ofList (plain_replicate _ (by decide)))

theorem closed_between (l : Layout) (level : Nat) : Closed (l.between level) := by
  cases l with
  | line =>
    show Closed ", "
    exact closed_of_plain (by decide)
  | indented width =>
    show Closed ("," ++ (Layout.indented width).edge level)
    exact (closed_of_plain (by decide)).append (closed_edge _ level)

mutual

/-- A value whose numbers are finite, at any level. -/
theorem closed_render (l : Layout) (level : Nat) :
    (v : Value) → v.Finite → Closed (render l level v)
  | .null, _ => by
    rw [render]
    exact closed_of_plain (by decide)
  | .bool true, _ => by
    rw [render]
    exact closed_of_plain (by decide)
  | .bool false, _ => by
    rw [render]
    exact closed_of_plain (by decide)
  | .int n, _ => by
    rw [render]
    exact closed_toString_int n
  | .float x, h => by
    rw [render]
    exact closed_render_finite ((Value.finite_float x).mp h)
  | .str s, _ => by
    rw [render]
    exact closed_quoted s
  | .list [], _ => by
    rw [render]
    exact closed_of_plain (by decide)
  | .list (v :: r), h => by
    obtain ⟨hfirst, hmore⟩ := List.forall_mem_cons.mp ((Value.finite_list _).mp h)
    have hv := closed_render l (level + 1) v hfirst
    have hr := closed_renderMore l (level + 1) r hmore
    rw [render]
    refine Closed.append (.append (.append (.append (.append ?_ ?_) hv) hr) ?_) ?_
    · exact closed_of_plain (by decide)
    · exact closed_edge l (level + 1)
    · exact closed_edge l level
    · exact closed_of_plain (by decide)
  | .object [], _ => by
    rw [render]
    exact closed_of_plain (by decide)
  | .object ((k, v) :: r), h => by
    obtain ⟨hfirst, hmore⟩ := List.forall_mem_cons.mp ((Value.finite_object _).mp h)
    have hv := closed_render l (level + 1) v hfirst
    have hr := closed_renderMembers l (level + 1) r hmore
    rw [render]
    refine Closed.append (.append (.append (.append (.append (.append (.append ?_ ?_)
      (closed_quoted k)) ?_) hv) hr) ?_) ?_
    · exact closed_of_plain (by decide)
    · exact closed_edge l (level + 1)
    · exact closed_of_plain (by decide)
    · exact closed_edge l level
    · exact closed_of_plain (by decide)

theorem closed_renderMore (l : Layout) (level : Nat) :
    (vs : List Value) → (∀ v ∈ vs, v.Finite) → Closed (renderMore l level vs)
  | [], _ => by
    rw [renderMore]
    exact closed_of_plain (by decide)
  | v :: r, h => by
    obtain ⟨hfirst, hmore⟩ := List.forall_mem_cons.mp h
    rw [renderMore]
    exact ((closed_between l level).append (closed_render l level v hfirst)).append
      (closed_renderMore l level r hmore)

theorem closed_renderMembers (l : Layout) (level : Nat) :
    (ms : List (String × Value)) → FiniteMembers ms → Closed (renderMembers l level ms)
  | [], _ => by
    rw [renderMembers]
    exact closed_of_plain (by decide)
  | (k, v) :: r, h => by
    obtain ⟨hfirst, hmore⟩ := List.forall_mem_cons.mp h
    rw [renderMembers]
    refine Closed.append (.append (.append (.append ?_ (closed_quoted k)) ?_) ?_) ?_
    · exact closed_between l level
    · exact closed_of_plain (by decide)
    · exact closed_render l level v hfirst
    · exact closed_renderMembers l level r hmore

end

/-- Outside of its quotes the text of a value whose numbers are finite has no word with one of the
letters that the words for other numbers begin with. -/
theorem not_hasBareWord_text {v : Value} (h : v.Finite) (width : Int)
    {word : String} (hword : 'N' ∈ word.toList ∨ 'I' ∈ word.toList) :
    ¬ HasBareWord word (text width v) := by
  have hend : Closed "\n" := closed_of_plain (by decide)
  obtain ⟨bare, hbare, hread⟩ := (closed_render (.ofWidth width) 0 v h).append hend
  have hall : unquoted (text width v) = bare := by
    have hnil := hread []
    rwa [List.append_nil, unquotedFrom, List.append_nil] at hnil
  intro hfound
  rw [HasBareWord, hall] at hfound
  rcases hword with hN | hI
  · exact (hbare _ (hfound.subset hN)).2.1 rfl
  · exact (hbare _ (hfound.subset hI)).2.2 rfl

end ApiDirectives.Json
