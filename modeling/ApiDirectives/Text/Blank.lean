/-!
# Blanks and lines

Blanks are the white space of the character database together with the four information
separators. A text is trimmed of them at both ends, cut into its words, or cut into its lines.
All functions work on lists of characters, where "the longest run" is `takeWhile` and `dropWhile`.
-/

namespace ApiDirectives.Text

/-- White space: the ASCII controls from tab to carriage return, the information separators, the
next-line control and the space separators of all scripts. -/
def isBlank (c : Char) : Bool :=
  let n := c.toNat
  (9 ≤ n && n ≤ 13) || (28 ≤ n && n ≤ 32) || n == 0x85 || n == 0xA0 || n == 0x1680
    || (0x2000 ≤ n && n ≤ 0x200A) || n == 0x2028 || n == 0x2029 || n == 0x202F || n == 0x205F
    || n == 0x3000

/-- Characters that end a line: the ASCII line controls, three of the information separators, the
next-line control and the two Unicode separators. -/
def isLineEnd (c : Char) : Bool :=
  let n := c.toNat
  (10 ≤ n && n ≤ 13) || (28 ≤ n && n ≤ 30) || n == 0x85 || n == 0x2028 || n == 0x2029

/-- Drops characters of a class at the end. -/
def dropEnd (p : Char → Bool) (cs : List Char) : List Char :=
  (cs.reverse.dropWhile p).reverse

/-- What stands up to a character that stays is not reached from the end. -/
theorem dropEnd_append {p : Char → Bool} {stop : Char} (hstop : p stop = false)
    (cs rest : List Char) : dropEnd p (cs ++ stop :: rest) = cs ++ stop :: dropEnd p rest := by
  have hkept : ¬ p stop = true := by simp [hstop]
  rw [dropEnd, List.reverse_append, List.reverse_cons, List.append_assoc, List.dropWhile_append]
  split
  · rename_i hall
    rw [dropEnd, List.isEmpty_iff.mp hall, List.singleton_append, List.dropWhile_cons_of_neg hkept]
    simp
  · simp [dropEnd]

/-- Drops characters of a class at both ends. -/
def trimOf (p : Char → Bool) (cs : List Char) : List Char :=
  dropEnd p (cs.dropWhile p)

theorem trimOf_cons {p : Char → Bool} {c : Char} (hc : p c = true) (cs : List Char) :
    trimOf p (c :: cs) = trimOf p cs := by
  rw [trimOf, List.dropWhile_cons_of_pos hc, trimOf]

/-- Drops blanks at both ends. -/
def trimList (cs : List Char) : List Char :=
  trimOf isBlank cs

/-- Drops blanks at both ends. -/
def trim (s : String) : String :=
  String.ofList (trimList s.toList)

/-- The words of a text, its maximal runs of other characters than blanks; `word` is the word being
read, backwards. -/
def wordsFrom (word : List Char) : List Char → List (List Char)
  | [] => if word.isEmpty then [] else [word.reverse]
  | c :: r =>
    if isBlank c then
      if word.isEmpty then wordsFrom [] r else word.reverse :: wordsFrom [] r
    else wordsFrom (c :: word) r

/-- The words of a text. -/
def wordsOf (cs : List Char) : List (List Char) :=
  wordsFrom [] cs

/-- The lines of a text; `line` is the line being read, backwards. A carriage return and a line feed
together end one line, and a text that ends in a line end has no empty last line. -/
def linesFrom (line : List Char) : List Char → List (List Char)
  | [] => if line.isEmpty then [] else [line.reverse]
  | '\r' :: '\n' :: r => line.reverse :: linesFrom [] r
  | c :: r => if isLineEnd c then line.reverse :: linesFrom [] r else linesFrom (c :: line) r

/-- The lines of a text, without their ends. -/
def linesOf (cs : List Char) : List (List Char) :=
  linesFrom [] cs

section Lines

variable {c : Char} {line rest : List Char}

theorem linesFrom_pair (line rest : List Char) :
    linesFrom line ('\r' :: '\n' :: rest) = line.reverse :: linesOf rest := rfl

theorem linesFrom_cons (hpair : c = '\r' → rest.head? ≠ some '\n') :
    linesFrom line (c :: rest) =
      if isLineEnd c then line.reverse :: linesOf rest else linesFrom (c :: line) rest := by
  rw [linesFrom, linesOf]
  rintro r rfl rfl
  exact hpair rfl rfl

/-- A line end that is no part of a pair. -/
theorem linesFrom_end (hc : isLineEnd c = true) (hpair : c = '\r' → rest.head? ≠ some '\n') :
    linesFrom line (c :: rest) = line.reverse :: linesOf rest := by
  rw [linesFrom_cons hpair, if_pos hc]

theorem linesFrom_char (hc : isLineEnd c = false) :
    linesFrom line (c :: rest) = linesFrom (c :: line) rest := by
  have hpair : c = '\r' → rest.head? ≠ some '\n' := by
    rintro rfl
    cases hc
  rw [linesFrom_cons hpair, if_neg (by simp [hc])]

/-- No line end is left in a line. -/
theorem not_isLineEnd_of_mem_linesFrom {cs l : List Char} (h : l ∈ linesFrom line cs)
    (hline : ∀ c ∈ line, isLineEnd c = false) : ∀ c ∈ l, isLineEnd c = false := by
  fun_induction linesFrom line cs with
  | case1 => cases h
  | case2 line =>
    rw [List.mem_singleton.mp h]
    simpa using hline
  | case3 line r ih | case4 line _ r _ _ ih =>
    rcases List.mem_cons.mp h with rfl | h
    · simpa using hline
    · exact ih h (by simp)
  | case5 line c r _ hend ih =>
    exact ih h (List.forall_mem_cons.mpr ⟨by simpa using hend, hline⟩)

end Lines

/-- The lines of a text, without their ends. -/
def lines (s : String) : List String :=
  (linesOf s.toList).map String.ofList

/-- The pieces of a text between separators; `piece` is the piece being read, backwards. There is
always one piece more than there are separators. -/
def piecesFrom (sep : Char) (piece : List Char) : List Char → List (List Char)
  | [] => [piece.reverse]
  | c :: r =>
    if c = sep then piece.reverse :: piecesFrom sep [] r else piecesFrom sep (c :: piece) r

/-- The pieces of a text between separators. -/
def piecesOf (sep : Char) (cs : List Char) : List (List Char) :=
  piecesFrom sep [] cs

@[simp]
theorem piecesFrom_nil (sep : Char) (piece : List Char) : piecesFrom sep piece [] = [piece.reverse] := rfl

theorem piecesFrom_cons (sep : Char) (piece : List Char) (c : Char) (cs : List Char) :
    piecesFrom sep piece (c :: cs) =
      if c = sep then piece.reverse :: piecesOf sep cs else piecesFrom sep (c :: piece) cs := rfl

/-- The first piece goes on with what was read of it. -/
theorem piecesFrom_eq_cons (sep : Char) (piece cs : List Char) :
    ∃ more rest, piecesFrom sep piece cs = (piece.reverse ++ more) :: rest := by
  induction cs generalizing piece with
  | nil => exact ⟨[], [], by rw [piecesFrom_nil, List.append_nil]⟩
  | cons c cs ih =>
    rw [piecesFrom_cons]
    split
    · exact ⟨[], _, by rw [List.append_nil]⟩
    · obtain ⟨more, rest, h⟩ := ih (c :: piece)
      exact ⟨c :: more, rest, by rw [h, List.reverse_cons, List.append_assoc]; rfl⟩

theorem piecesFrom_ne_nil (sep : Char) (piece cs : List Char) : piecesFrom sep piece cs ≠ [] := by
  obtain ⟨more, rest, h⟩ := piecesFrom_eq_cons sep piece cs
  rw [h]
  exact List.cons_ne_nil _ _

/-- The pieces of a text between separators. -/
def pieces (sep : Char) (s : String) : List String :=
  (piecesOf sep s.toList).map String.ofList

/-- Splits a literal off the front. -/
def dropLiteral? : List Char → List Char → Option (List Char)
  | [], cs => some cs
  | _ :: _, [] => none
  | p :: ps, c :: cs => if p = c then dropLiteral? ps cs else none

theorem append_of_dropLiteral? {lit cs rest : List Char} (h : dropLiteral? lit cs = some rest) :
    cs = lit ++ rest := by
  fun_induction dropLiteral? lit cs with
  | case1 cs =>
    cases h
    rfl
  | case2 => cases h
  | case3 c ps cs ih => rw [ih h, List.cons_append]
  | case4 => cases h

/-- Whether a literal occurs somewhere in a text. -/
def occurs (lit : List Char) : List Char → Bool
  | [] => lit.isEmpty
  | c :: r => (dropLiteral? lit (c :: r)).isSome || occurs lit r

/-- Text with its ASCII capitals made small. The names compared after this map are ASCII, and no
character outside ASCII has a small form inside the letters they use. -/
def lowerAscii (s : String) : String :=
  String.ofList (s.toList.map Char.toLower)

/-- Texts joined with a separator between them. -/
def joined (sep : String) (ss : List String) : String :=
  String.intercalate sep ss

end ApiDirectives.Text
