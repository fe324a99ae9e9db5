import ApiDirectives.Format.Yaml.Token
import Mathlib.Tactic.SplitIfs

/-!
# What the scanner refuses a text for

A text that cannot be read breaks a rule of the format, or has a scalar that stands for no value. `Blames`
says of which kinds the scalar faults of a reader may be; a reader that only breaks rules blames nothing,
and so does one that is put together from such. Of all scanners only that of an escape by number knows a
scalar fault: a number beyond the last code point.
-/

namespace ApiDirectives.Yaml

variable {α β : Type} {P : ScalarFault → Prop}

/-! ## Faults of scalars -/

/-- A property of the scalar fault that a reader ends in, if it ends in one. -/
def Blames (P : ScalarFault → Prop) : Except Fault α → Prop
  | .error (.unreadable fault) => P fault
  | _ => True

theorem blames_iff {x : Except Fault α} :
    Blames P x ↔ ∀ fault, x = .error (.unreadable fault) → P fault := by
  rcases x with (problem | fault) | a <;> simp [Blames]

@[simp]
theorem blames_ok (a : α) : Blames P (.ok a) := trivial

@[simp]
theorem blames_pure (a : α) : Blames P (pure a) := trivial

@[simp]
theorem blames_refuse (problem : Problem) : Blames P (refuse problem : Except Fault α) := trivial

/-- A fault that is passed on is still the same. -/
theorem Blames.passedOn {e : Fault} (h : Blames P (.error e : Except Fault α)) :
    Blames P (.error e : Except Fault β) := by
  cases e with
  | invalid problem => trivial
  | unreadable fault => exact h

@[simp]
theorem blames_map {x : Except Fault α} {f : α → β} : Blames P (x.map f) ↔ Blames P x := by
  rcases x with (problem | fault) | a <;> rfl

/-- Of two parts the second counts only for what it makes of the first. -/
theorem blames_bind {x : Except Fault α} {f : α → Except Fault β} :
    Blames P (x >>= f) ↔ Blames P x ∧ ∀ a, x = .ok a → Blames P (f a) := by
  rcases x with (problem | fault) | a
  · exact iff_of_true trivial ⟨trivial, fun _ h => nomatch h⟩
  · exact ⟨fun h => ⟨h, fun _ h => nomatch h⟩, And.left⟩
  · exact ⟨fun h => ⟨trivial, fun b hb => Except.ok.inj hb ▸ h⟩, fun h => h.2 a rfl⟩

theorem Blames.bind {x : Except Fault α} {f : α → Except Fault β} (hx : Blames P x)
    (hf : ∀ a, Blames P (f a)) : Blames P (x >>= f) :=
  blames_bind.mpr ⟨hx, fun a _ => hf a⟩

theorem Blames.mono {Q : ScalarFault → Prop} {x : Except Fault α} (hx : Blames P x)
    (h : ∀ fault, P fault → Q fault) : Blames Q x :=
  blames_iff.mpr fun fault hfault => h fault (blames_iff.mp hx fault hfault)

theorem Blames.ite {c : Prop} [Decidable c] {x y : Except Fault α} (hx : Blames P x)
    (hy : Blames P y) : Blames P (if c then x else y) := by
  split
  · exact hx
  · exact hy

/-! ## Scalars -/

/-- A number that is tried as a code point and is none. -/
def BeyondCodePoints (fault : ScalarFault) : Prop := ∃ n, fault = .codePoint n ∧ 0x110000 ≤ n

theorem blames_quotedBreaks (bound : Nat) (c : Cursor) : Blames P (quotedBreaks bound c) := by
  induction bound generalizing c with
  | zero => exact blames_ok _
  | succ bound ih =>
    rw [quotedBreaks]
    refine .ite (blames_refuse _) ?_
    dsimp only
    split
    · exact blames_ok _
    · exact blames_map.mpr (ih _)

theorem blames_quotedGap (c : Cursor) : Blames P (quotedGap c) := by
  unfold quotedGap
  dsimp only
  refine .ite (blames_refuse _) ?_
  split
  · exact blames_ok _
  · exact blames_map.mpr (blames_quotedBreaks _ _)

/-- Only an escape by number has a fault of its own. -/
theorem blames_escapeText (c : Cursor) : Blames BeyondCodePoints (escapeText c) := by
  unfold escapeText
  split
  · exact blames_ok _
  · dsimp only
    split_ifs with hdigits hbeyond
    · exact blames_refuse _
    · exact ⟨_, rfl, hbeyond⟩
    · exact blames_ok _
  · split
    · exact blames_quotedBreaks _ _
    · exact blames_refuse _

theorem blames_quotedFrom (double : Bool) (bound : Nat) (c : Cursor) (read : List Char) :
    Blames BeyondCodePoints (quotedFrom double bound c read) := by
  induction bound generalizing c read with
  | zero => exact blames_refuse _
  | succ bound ih =>
    rw [quotedFrom]
    refine .ite ?_ (.ite ?_ (.ite (blames_ok _) (.ite (.ite (ih _ _) (blames_ok _)) (ih _ _))))
    · have hgap := blames_quotedGap (P := BeyondCodePoints) c
      split
      · rename_i he
        exact (he ▸ hgap).passedOn
      · exact ih _ _
    · have hescape := blames_escapeText c.next
      split
      · rename_i he
        exact (he ▸ hescape).passedOn
      · exact ih _ _

theorem blames_quotedScalar (c : Cursor) : Blames BeyondCodePoints (quotedScalar c) :=
  blames_quotedFrom _ _ _ _

theorem blames_blockHeader (c : Cursor) : Blames P (blockHeader c) :=
  .ite (blames_refuse _) (blames_ok _)

theorem blames_blockScalar (indent : Int) (c : Cursor) : Blames P (blockScalar indent c) := by
  unfold blockScalar
  have hheader := blames_blockHeader (P := P) c.next
  split
  · rename_i he
    exact (he ▸ hheader).passedOn
  · exact blames_ok _

/-! ## Names, tags and directives -/

theorem blames_anchorName (c : Cursor) : Blames P (anchorName c) :=
  .ite (blames_refuse _) (blames_ok _)

theorem blames_percentBytes (bound : Nat) (c : Cursor) : Blames P (percentBytes bound c) := by
  induction bound generalizing c with
  | zero => exact blames_ok _
  | succ bound ih =>
    rw [percentBytes]
    exact .ite (.ite (blames_refuse _) (blames_map.mpr (ih _))) (blames_ok _)

theorem blames_tagChars (bound : Nat) (c : Cursor) (read : List Char) :
    Blames P (tagChars bound c read) := by
  induction bound generalizing c read with
  | zero => exact blames_ok _
  | succ bound ih =>
    rw [tagChars]
    refine .ite ?_ (.ite (ih _ _) (blames_ok _))
    have hbytes := blames_percentBytes (P := P) (c.rest.length + 1) c
    split
    · rename_i he
      exact (he ▸ hbytes).passedOn
    · split
      · exact blames_refuse _
      · exact ih _ _

theorem blames_tagText (c : Cursor) : Blames P (tagText c) := by
  unfold tagText
  have hchars := blames_tagChars (P := P) (c.rest.length + 1) c []
  split
  · rename_i he
    exact (he ▸ hchars).passedOn
  · exact .ite (blames_refuse _) (blames_ok _)

theorem blames_tagHandle (c : Cursor) : Blames P (tagHandle c) :=
  .ite (blames_refuse _) (.ite (blames_ok _) (.ite (blames_refuse _) (blames_ok _)))

theorem blames_tagToken (c : Cursor) : Blames P (tagToken c) := by
  unfold tagToken
  refine .bind ?_ fun _ => .ite (blames_ok _) (blames_refuse _)
  refine .ite ?_ (.ite (blames_pure _) (.ite ?_ ?_))
  · exact .bind (blames_tagText _) fun _ => .ite (blames_refuse _) (blames_pure _)
  · exact .bind (blames_tagHandle _) fun _ => .bind (blames_tagText _) fun _ => blames_pure _
  · exact .bind (blames_ok _) fun _ => .bind (blames_tagText _) fun _ => blames_pure _

theorem blames_versionPart (c : Cursor) : Blames P (versionPart c) :=
  .ite (blames_refuse _) (blames_ok _)

theorem blames_instruction (name : String) (c : Cursor) : Blames P (instruction name c) := by
  unfold instruction
  split
  · exact .bind (blames_versionPart _) fun _ => .ite (blames_refuse _) <|
      .bind (blames_versionPart _) fun _ => .ite (blames_pure _) (blames_refuse _)
  · exact .bind (blames_tagHandle _) fun _ => .ite (blames_refuse _) <|
      .bind (blames_tagText _) fun _ => .ite (blames_pure _) (blames_refuse _)
  · exact blames_pure _

theorem blames_directiveToken (c : Cursor) : Blames P (directiveToken c) :=
  .ite (blames_refuse _) <| .bind (blames_instruction _ _) fun _ =>
    .ite (blames_pure _) (blames_refuse _)

/-! ## The scanner -/

namespace Scan

theorem blames_forgetKeys (s : Scan) (p : Nat × PossibleKey → Bool) : Blames P (s.forgetKeys p) :=
  .ite (blames_refuse _) (blames_ok _)

theorem blames_rememberKey (s : Scan) : Blames P s.rememberKey :=
  .ite (.bind (blames_forgetKeys _ _) fun _ => blames_pure _) (blames_pure _)

/-- What is done after the possible key of a level was forgotten has no fault. -/
theorem blames_forgetKey_bind (s : Scan) (f : Scan → Scan) :
    Blames P (do return f (← s.forgetKey)) :=
  .bind (blames_forgetKeys _ _) fun _ => blames_pure _

theorem blames_openBlock (s : Scan) (t : Token) (problem : Problem) :
    Blames P (s.openBlock t problem) :=
  .ite (.ite (blames_ok _) (blames_refuse _)) (blames_ok _)

theorem blames_directive (s : Scan) : Blames P s.directive :=
  .bind (blames_forgetKeys _ _) fun _ => .bind (blames_directiveToken _) fun _ => blames_pure _

theorem blames_openFlow (s : Scan) (t : Token) : Blames P (s.openFlow t) :=
  .bind (blames_rememberKey _) fun _ => blames_pure _

theorem blames_blockEntry (s : Scan) : Blames P s.blockEntry :=
  .bind (blames_openBlock _ _ _) fun _ => blames_forgetKey_bind _ _

theorem blames_explicitKey (s : Scan) : Blames P s.explicitKey :=
  .bind (blames_openBlock _ _ _) fun _ => blames_forgetKey_bind _ _

theorem blames_valueMark (s : Scan) : Blames P s.valueMark := by
  unfold valueMark
  split
  · exact blames_pure _
  · exact .bind (blames_openBlock _ _ _) fun _ => blames_forgetKey_bind _ _

/-- A token that may be a key has the faults of its own scanner. -/
theorem blames_atom (s : Scan) {read : Cursor → Part Token} (h : ∀ c, Blames P (read c)) :
    Blames P (s.atom read) :=
  .bind (blames_rememberKey _) fun _ => .bind (h _) fun _ => blames_pure _

theorem blames_blockText (s : Scan) : Blames P s.blockText :=
  .bind (blames_forgetKeys _ _) fun _ => .bind (blames_blockScalar _ _) fun _ => blames_pure _

theorem blames_plainText (s : Scan) : Blames P s.plainText :=
  .bind (blames_rememberKey _) fun _ => blames_pure _

/-- One token: what a scan does is blamed for nothing but an escape by number. -/
theorem blames_token (s : Scan) : Blames BeyondCodePoints s.token := by
  unfold token
  dsimp only
  refine .ite (blames_forgetKey_bind _ _) <| .ite (blames_directive _) <|
    .ite (blames_forgetKey_bind _ _) <| .ite (blames_forgetKey_bind _ _) <|
    .ite (blames_openFlow _ _) <| .ite (blames_openFlow _ _) <|
    .ite (blames_forgetKey_bind _ _) <| .ite (blames_forgetKey_bind _ _) <|
    .ite (blames_forgetKey_bind _ _) <| .ite (blames_blockEntry _) <|
    .ite (blames_explicitKey _) <| .ite (blames_valueMark _) ?_
  refine .ite (blames_atom _ fun _ => blames_map.mpr (blames_anchorName _)) <|
    .ite (blames_atom _ fun _ => blames_map.mpr (blames_anchorName _)) <|
    .ite (blames_atom _ blames_tagToken) <| .ite (blames_blockText _) ?_
  exact .ite (blames_atom _ fun _ => blames_map.mpr (blames_quotedScalar _)) <|
    .ite (blames_plainText _) (blames_refuse _)

theorem blames_step (s : Scan) : Blames BeyondCodePoints s.step :=
  .bind (blames_forgetKeys _ _) fun _ => blames_token _

/-- All steps of a scan. -/
theorem blames_run (bound : Nat) (s : Scan) : Blames BeyondCodePoints (s.run bound) := by
  induction bound generalizing s with
  | zero => exact blames_refuse _
  | succ bound ih => exact .ite (blames_ok _) (.bind (blames_step s) ih)

end Scan

/-- A text is cut into tokens, refused, or has an escape beyond the last code point. -/
theorem blames_tokens (text : List Char) : Blames BeyondCodePoints (tokens text) :=
  .ite (blames_refuse _) (blames_map.mpr (Scan.blames_run _ _))

end ApiDirectives.Yaml
