import ApiDirectives.Text.Blank
import ApiDirectives.Text.Identifier
import ApiDirectives.Text.Word
import Mathlib.Data.List.Basic
import Mathlib.Data.List.TakeWhile

/-!
# Blanks, ends and pieces of a text

What trimming, cutting at a separator and splitting off a literal do to a text that is known in parts.
A trim stops at the first character that is none to be dropped, so a text between two such characters
stays whole. Cutting undoes joining if no part has the separator in it. A literal that lacks a
character is matched before the character or not at all.
-/

namespace ApiDirectives

open Text

/-! ## Blanks -/

/-- The runs of blanks above ASCII. -/
def wideBlanks : List (Nat × Nat) :=
  [(0x85, 0x85), (0xA0, 0xA0), (0x1680, 0x1680), (0x2000, 0x200A), (0x2028, 0x2029),
    (0x202F, 0x202F), (0x205F, 0x205F), (0x3000, 0x3000)]

/-- Whether no run of a table meets a run of blanks. -/
def missBlanks (t : Ranges) : Bool :=
  t.toList.all fun r => wideBlanks.all fun b => Nat.blt r.2 b.1 || Nat.blt b.2 r.1

theorem word_identifier_missBlanks :
    missBlanks wordRanges = true ∧ missBlanks identifierStartRanges = true := by
  decide +kernel

/-- Above ASCII, a character is no blank if it lies in runs that no run of blanks meets. -/
theorem not_isBlank_of_has {t : Ranges} {c : Char} (hapart : missBlanks t = true)
    (hwide : 128 ≤ c.toNat) (h : t.has c = true) : ¬ isBlank c = true := by
  intro hblank
  rw [Ranges.has, ← Array.any_toList, List.any_eq_true] at h
  obtain ⟨r, hr, hin⟩ := h
  obtain ⟨b, hb, hlow, hhigh⟩ : ∃ b ∈ wideBlanks, b.1 ≤ c.toNat ∧ c.toNat ≤ b.2 := by
    simp only [isBlank, Bool.or_eq_true, Bool.and_eq_true, decide_eq_true_eq, beq_iff_eq] at hblank
    simp only [wideBlanks, List.mem_cons, List.not_mem_nil, or_false, exists_eq_or_imp,
      exists_eq_left]
    omega
  have hgap := List.all_eq_true.mp (List.all_eq_true.mp hapart r hr) b hb
  simp only [Bool.or_eq_true, Nat.blt_eq, Bool.and_eq_true, decide_eq_true_eq] at hgap hin
  omega

/-- A word character is no blank. -/
theorem not_isBlank_of_isWord {c : Char} (h : Text.isWord c = true) : ¬ isBlank c = true := by
  unfold Text.isWord at h
  split at h
  · rename_i hascii
    intro hblank
    have hcodes : ∀ n < 128, isBlank (Char.ofNat n) = true →
        ¬ ((Char.ofNat n).isAlphanum || Char.ofNat n == '_') = true := by decide
    rw [← Char.ofNat_toNat c] at h hblank
    exact hcodes c.toNat hascii hblank h
  · rename_i hwide
    exact not_isBlank_of_has word_identifier_missBlanks.1 (Nat.not_lt.mp hwide) h

/-- A character that starts an identifier is no blank. -/
theorem not_isBlank_of_isIdentifierStart {c : Char} (h : isIdentifierStart c = true) :
    ¬ isBlank c = true := by
  unfold isIdentifierStart at h
  split at h
  · rename_i hascii
    intro hblank
    have hcodes : ∀ n < 128, isBlank (Char.ofNat n) = true →
        ¬ ((Char.ofNat n).isAlpha || Char.ofNat n == '_') = true := by decide
    rw [← Char.ofNat_toNat c] at h hblank
    exact hcodes c.toNat hascii hblank h
  · rename_i hwide
    exact not_isBlank_of_has word_identifier_missBlanks.2 (Nat.not_lt.mp hwide) h

/-- A name character is no blank. -/
theorem not_isBlank_of_isNameChar {c : Char} (h : isNameChar c = true) : isBlank c = false := by
  rcases Bool.or_eq_true_iff.mp h with hword | hhyphen
  · exact Bool.not_eq_true _ ▸ not_isBlank_of_isWord hword
  · rw [beq_iff_eq.mp hhyphen]
    decide

/-! ## Ends -/

theorem trimOf_eq_self {p : Char → Bool} {cs : List Char} (h : ∀ c ∈ cs, p c = false) :
    trimOf p cs = cs := by
  have hdrop : ∀ ds : List Char, (∀ c ∈ ds, p c = false) → ds.dropWhile p = ds := by
    intro ds hds
    cases ds with
    | nil => rfl
    | cons c r => rw [List.dropWhile_cons_of_neg (by simp [hds c List.mem_cons_self])]
  unfold trimOf dropEnd
  rw [hdrop cs h, hdrop _ fun c hc => h c (List.mem_reverse.mp hc), List.reverse_reverse]

/-- One character to be dropped at the end is dropped. -/
theorem trimOf_concat {p : Char → Bool} {c : Char} (hc : p c = true) {cs : List Char}
    (h : ∀ d ∈ cs, p d = false) : trimOf p (cs ++ [c]) = cs := by
  have hself := trimOf_eq_self h
  cases cs with
  | nil => rw [List.nil_append, trimOf_cons hc]; rfl
  | cons d cs =>
    have hd : ¬ p d = true := by simp [h d List.mem_cons_self]
    rw [trimOf, List.dropWhile_cons_of_neg hd] at hself
    rw [trimOf, List.cons_append, List.dropWhile_cons_of_neg hd, ← List.cons_append, dropEnd,
      List.reverse_append, List.reverse_singleton, List.singleton_append,
      List.dropWhile_cons_of_pos hc]
    exact hself

theorem dropEnd_append_of_forall {p : Char → Bool} {cs : List Char} (h : ∀ c ∈ cs, p c = false)
    (rest : List Char) : dropEnd p (cs ++ rest) = cs ++ dropEnd p rest := by
  induction cs with
  | nil => rfl
  | cons c cs ih =>
    obtain ⟨hc, hcs⟩ := List.forall_mem_cons.mp h
    rw [List.cons_append, List.cons_append, ← ih hcs]
    exact dropEnd_append hc [] _

/-- A text between two characters that stay stays whole. -/
theorem trimOf_between {p : Char → Bool} {first last : Char} (hfirst : p first = false)
    (hlast : p last = false) (cs : List Char) :
    trimOf p (first :: cs ++ [last]) = first :: cs ++ [last] := by
  rw [trimOf, List.cons_append, List.dropWhile_cons_of_neg (by simp [hfirst]), ← List.cons_append,
    dropEnd_append hlast]
  rfl

theorem trimList_cons {c : Char} (hc : ¬ isBlank c = true) (cs : List Char) :
    trimList (c :: cs) = c :: dropEnd isBlank cs := by
  rw [trimList, trimOf, List.dropWhile_cons_of_neg hc]
  exact dropEnd_append (Bool.not_eq_true _ ▸ hc) [] cs

/-- Something stands at the end of a text that has no blanks in it. -/
def EndsInWord (cs : List Char) : Prop :=
  ∃ before word, cs = before ++ word ∧ word ≠ [] ∧ ∀ c ∈ word, isBlank c = false

namespace EndsInWord

variable {cs : List Char}

theorem of_word (before : List Char) {word : List Char} (hne : word ≠ [])
    (hword : ∀ c ∈ word, isBlank c = false) : EndsInWord (before ++ word) :=
  ⟨before, word, rfl, hne, hword⟩

theorem append_left (h : EndsInWord cs) (front : List Char) : EndsInWord (front ++ cs) := by
  obtain ⟨before, word, rfl, hne, hword⟩ := h
  rw [← List.append_assoc]
  exact of_word _ hne hword

/-- Whether or not something is appended, the text ends in a word. -/
theorem append_flatMap {α : Type} (h : EndsInWord cs) {f : α → List Char} {xs : List α}
    (hf : ∀ x ∈ xs, EndsInWord (f x)) : EndsInWord (cs ++ xs.flatMap f) := by
  induction xs generalizing cs with
  | nil => rwa [List.flatMap_nil, List.append_nil]
  | cons x xs ih =>
    obtain ⟨hx, hxs⟩ := List.forall_mem_cons.mp hf
    rw [List.flatMap_cons, ← List.append_assoc]
    exact ih (hx.append_left cs) hxs

/-- A text that begins with no blank and ends in a word is left whole by trimming. -/
theorem trimList_eq (h : EndsInWord cs) (hfirst : ∀ c ∈ cs.head?, isBlank c = false) :
    trimList cs = cs := by
  obtain ⟨before, word, rfl, hne, hword⟩ := h
  obtain ⟨c, more, rfl⟩ := List.exists_cons_of_ne_nil hne
  obtain ⟨hc, hmore⟩ := List.forall_mem_cons.mp hword
  have hdrop : (before ++ c :: more).dropWhile isBlank = before ++ c :: more := by
    cases htext : before ++ c :: more with
    | nil => rfl
    | cons d rest =>
      have hd : isBlank d = false := hfirst d (by rw [htext]; rfl)
      rw [List.dropWhile_cons_of_neg (by simp [hd])]
  have hend : dropEnd isBlank more = more := by
    have hkept := dropEnd_append_of_forall hmore []
    rwa [List.append_nil, show dropEnd isBlank [] = [] from rfl, List.append_nil] at hkept
  rw [trimList, trimOf, hdrop, dropEnd_append hc, hend]

end EndsInWord

/-- A text and what is left of it from the front on begin alike. -/
theorem head?_dropEnd {p : Char → Bool} {cs : List Char} {c : Char}
    (h : (dropEnd p cs).head? = some c) : cs.head? = some c := by
  have hsuffix : (dropEnd p cs).reverse <:+ cs.reverse := by
    rw [dropEnd, List.reverse_reverse]
    exact List.dropWhile_suffix p
  obtain ⟨dropped, hcs⟩ := List.reverse_suffix.mp hsuffix
  rw [← hcs, List.head?_append, h]
  rfl

/-! ## Pieces -/

namespace Text

theorem joined_singleton (sep part : String) : joined sep [part] = part :=
  String.intercalate_singleton

theorem joined_cons {parts : List String} (hparts : parts ≠ []) (sep part : String) :
    joined sep (part :: parts) = part ++ sep ++ joined sep parts :=
  String.intercalate_cons_of_ne_nil hparts

/-- What is read without meeting a separator is one piece. -/
theorem piecesFrom_of_not_mem {sep : Char} {cs : List Char} (h : sep ∉ cs) (piece : List Char) :
    piecesFrom sep piece cs = [piece.reverse ++ cs] := by
  induction cs generalizing piece with
  | nil => simp
  | cons c cs ih =>
    have hc : sep ≠ c := List.ne_of_not_mem_cons h
    rw [piecesFrom_cons, if_neg hc.symm, ih (List.not_mem_of_not_mem_cons h)]
    simp

/-- A piece ends at the first separator. -/
theorem piecesFrom_append {sep : Char} {cs : List Char} (h : sep ∉ cs) (piece rest : List Char) :
    piecesFrom sep piece (cs ++ sep :: rest) = (piece.reverse ++ cs) :: piecesOf sep rest := by
  induction cs generalizing piece with
  | nil => simp [piecesFrom_cons]
  | cons c cs ih =>
    have hc : sep ≠ c := List.ne_of_not_mem_cons h
    rw [List.cons_append, piecesFrom_cons, if_neg hc.symm, ih (List.not_mem_of_not_mem_cons h)]
    simp

/-- Parts without the separator, joined with it, are cut into the parts again. -/
theorem piecesOf_joined {sep : Char} {parts : List String} (hne : parts ≠ [])
    (hparts : ∀ part ∈ parts, sep ∉ part.toList) :
    piecesOf sep (joined (String.singleton sep) parts).toList = parts.map String.toList := by
  induction parts with
  | nil => exact absurd rfl hne
  | cons part parts ih =>
    obtain ⟨hpart, hrest⟩ := List.forall_mem_cons.mp hparts
    by_cases hlast : parts = []
    · subst hlast
      rw [joined_singleton, piecesOf, piecesFrom_of_not_mem hpart]
      rfl
    · have htext : (joined (String.singleton sep) (part :: parts)).toList =
          part.toList ++ sep :: (joined (String.singleton sep) parts).toList := by
        rw [joined_cons hlast]
        simp
      rw [htext, piecesOf, piecesFrom_append hpart, ih hlast hrest]
      rfl

end Text

section Pieces

variable {sep : Char}

theorem piecesOf_cons {c : Char} (hc : c ≠ sep) (cs : List Char) :
    ∃ more rest, piecesOf sep (c :: cs) = (c :: more) :: rest := by
  rw [piecesOf, piecesFrom_cons, if_neg hc]
  exact piecesFrom_eq_cons sep [c] cs

/-- A character of a text is a separator or stands in a piece. -/
theorem mem_piecesFrom {c : Char} (hc : c ≠ sep) (piece : List Char) {cs : List Char}
    (h : c ∈ piece ∨ c ∈ cs) : ∃ part ∈ piecesFrom sep piece cs, c ∈ part := by
  induction cs generalizing piece with
  | nil =>
    refine ⟨piece.reverse, by simp, ?_⟩
    simpa using h
  | cons a cs ih =>
    rw [piecesFrom_cons]
    split
    · rename_i hsep
      rcases h with hpiece | hmem
      · exact ⟨piece.reverse, List.mem_cons_self, List.mem_reverse.mpr hpiece⟩
      · have hrest : c ∈ cs := (List.mem_cons.mp hmem).resolve_left fun heq => hc (heq.trans hsep)
        obtain ⟨part, hpart, hin⟩ := ih [] (.inr hrest)
        exact ⟨part, List.mem_cons_of_mem _ hpart, hin⟩
    · apply ih
      simp only [List.mem_cons] at h ⊢
      tauto

theorem mem_piecesOf {c : Char} (hc : c ≠ sep) {cs : List Char} (h : c ∈ cs) :
    ∃ part ∈ piecesOf sep cs, c ∈ part :=
  mem_piecesFrom hc [] (.inr h)

/-- Pieces, joined with the separator, are the text again. -/
theorem intercalate_piecesFrom (piece cs : List Char) :
    [sep].intercalate (piecesFrom sep piece cs) = piece.reverse ++ cs := by
  induction cs generalizing piece with
  | nil => rw [piecesFrom_nil, List.intercalate_singleton, List.append_nil]
  | cons c cs ih =>
    rw [piecesFrom_cons]
    split
    · rename_i hsep
      rw [piecesOf, List.intercalate_cons_of_ne_nil (piecesFrom_ne_nil sep [] cs), ih, hsep]
      simp
    · rw [ih]
      simp

theorem joined_pieces (sep : Char) (s : String) :
    joined (String.singleton sep) (pieces sep s) = s := by
  have hpieces : (pieces sep s).map String.toList = piecesOf sep s.toList := by
    simp [pieces, Function.comp_def]
  apply String.toList_injective
  rw [joined, String.toList_intercalate, hpieces, String.toList_singleton]
  exact intercalate_piecesFrom [] s.toList

end Pieces

/-! ## Runs -/

section Runs

variable {p : Char → Bool} {cs : List Char} {stop : Char}

theorem takeWhile_append_cons (h : ∀ c ∈ cs, p c = true) (hstop : p stop = false)
    (rest : List Char) : (cs ++ stop :: rest).takeWhile p = cs := by
  rw [List.takeWhile_append_of_pos h, List.takeWhile_cons_of_neg (by simp [hstop]), List.append_nil]

theorem dropWhile_append_cons (h : ∀ c ∈ cs, p c = true) (hstop : p stop = false)
    (rest : List Char) : (cs ++ stop :: rest).dropWhile p = stop :: rest := by
  rw [List.dropWhile_append_of_pos h, List.dropWhile_cons_of_neg (by simp [hstop])]

theorem takeWhile_append_of_head? {rest : List Char} (h : ∀ c ∈ cs, p c = true)
    (hrest : ∀ c ∈ rest.head?, p c = false) : (cs ++ rest).takeWhile p = cs := by
  cases rest with
  | nil => rw [List.append_nil, List.takeWhile_eq_self_iff.mpr h]
  | cons c rest => exact takeWhile_append_cons h (hrest c rfl) rest

theorem dropWhile_append_of_head? {rest : List Char} (h : ∀ c ∈ cs, p c = true)
    (hrest : ∀ c ∈ rest.head?, p c = false) : (cs ++ rest).dropWhile p = rest := by
  cases rest with
  | nil => rw [List.append_nil, List.dropWhile_eq_nil_iff.mpr h]
  | cons c rest => exact dropWhile_append_cons h (hrest c rfl) rest

end Runs

/-! ## Literals -/

/-- A literal that lacks a character is matched before the character or not at all. -/
theorem dropLiteral?_append_cons {lit : List Char} {stop : Char} (h : stop ∉ lit)
    (cs rest : List Char) :
    dropLiteral? lit (cs ++ stop :: rest) =
      (dropLiteral? lit cs).map (· ++ stop :: rest) := by
  fun_induction dropLiteral? lit cs with
  | case1 cs => rfl
  | case2 c ps =>
    rw [List.nil_append, dropLiteral?, if_neg (List.ne_of_not_mem_cons h).symm]
    rfl
  | case3 c ps cs ih =>
    rw [List.cons_append, dropLiteral?, if_pos rfl]
    exact ih (List.not_mem_of_not_mem_cons h)
  | case4 c ps d cs hne =>
    rw [List.cons_append, dropLiteral?, if_neg hne]
    rfl

theorem Text.dropLiteral?_append (lit rest : List Char) :
    dropLiteral? lit (lit ++ rest) = some rest := by
  induction lit with
  | nil => rfl
  | cons c lit ih => simpa [dropLiteral?] using ih

end ApiDirectives
