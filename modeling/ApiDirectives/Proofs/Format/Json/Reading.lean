import ApiDirectives.Proofs.Format.Json
import ApiDirectives.Proofs.Text.Utf8
import ApiDirectives.Source.Literal

/-!
# Reading JSON

What a JSON text says, without a look at how it was written. `read?` accepts the texts of the JSON grammar
and no others: blanks are the four of the grammar, strings have no bare controls, a code unit that is half
of a pair needs its other half, no number has an idle zero in front, and nothing stands behind the value.
A number is kept as its literal and an object as its members in order, repeated names included, so two
texts with the same tree agree on all but their blanks and on how they write the characters in strings.

The reader calls itself with less fuel each time. A text never needs more calls than it has characters, so
`read?` does not run out; the rules below say with how much fuel a piece is read, whatever stands behind
it.
-/

namespace ApiDirectives.Json

/-- What a JSON text stands for: a number is its literal, and an object has its members in order. -/
inductive Tree where
  | null
  | bool (b : Bool)
  | number (literal : String)
  | str (s : String)
  | list (items : List Tree)
  | object (members : List (String × Tree))
  deriving Repr, Inhabited

mutual

/-- The tree of a value. -/
def tree : Value → Tree
  | .null => .null
  | .bool b => .bool b
  | .int n => .number (toString n)
  | .float x => .number (numbers.render x)
  | .str s => .str s
  | .list vs => .list (trees vs)
  | .object ms => .object (memberTrees ms)

/-- The trees of the values in a list. -/
def trees : List Value → List Tree
  | [] => []
  | v :: r => tree v :: trees r

/-- The trees of the members of an object. -/
def memberTrees : List (String × Value) → List (String × Tree)
  | [] => []
  | (k, v) :: r => (k, tree v) :: memberTrees r

end

/-! ## The reader -/

/-- Blanks between the tokens of a text. -/
def isBlank (c : Char) : Bool :=
  c = ' ' || c = '\t' || c = '\n' || c = '\r'

/-- What follows a mark if it is the next thing in a text. -/
def mark? (mark : Char) (cs : List Char) : Option (List Char) :=
  match cs.dropWhile isBlank with
  | [] => none
  | c :: r => if c = mark then some r else none

/-- Escapes of one character. -/
def shortEscape? (c : Char) : Option Char :=
  if c = '"' || c = '\\' || c = '/' then some c
  else if c = 'b' then some '\x08'
  else if c = 'f' then some '\x0c'
  else if c = 'n' then some '\n'
  else if c = 'r' then some '\r'
  else if c = 't' then some '\t'
  else none

/-- The character that an escape behind its backslash stands for, and what follows. One beyond the code
units is written as a pair of them. -/
def escape? : List Char → Option (Char × List Char)
  | [] => none
  | c :: r =>
    if c = 'u' then do
      let (high, r) ← Source.hexNumber? 4 r
      if high < 0xD800 || 0xE000 ≤ high then some (Char.ofNat high, r)
      else if 0xDC00 ≤ high then none
      else
        match r with
        | '\\' :: 'u' :: r => do
          let (low, r) ← Source.hexNumber? 4 r
          if 0xDC00 ≤ low && low < 0xE000 then
            some (Char.ofNat (0x10000 + (high - 0xD800) * 0x400 + (low - 0xDC00)), r)
          else none
        | _ => none
    else (shortEscape? c).map (·, r)

/-- The characters of a string behind its opening quote, and what follows its closing one. -/
def stringRest : Nat → List Char → Option (List Char × List Char)
  | 0, _ => none
  | _ + 1, [] => none
  | fuel + 1, c :: r =>
    if c = '"' then some ([], r)
    else if c = '\\' then
      match escape? r with
      | some (d, r) => (stringRest fuel r).map fun (cs, r) => (d :: cs, r)
      | none => none
    else if c.toNat < 32 then none
    else (stringRest fuel r).map fun (cs, r) => (c :: cs, r)

/-- At least one digit and nothing else. -/
def areDigits (cs : List Char) : Bool :=
  !cs.isEmpty && cs.all Char.isDigit

/-- An exponent without its sign, if it has one. -/
def dropSign : List Char → List Char
  | '+' :: r => r
  | '-' :: r => r
  | r => r

/-- An exponent, or nothing. -/
def isExponent : List Char → Bool
  | [] => true
  | c :: r => (c = 'e' || c = 'E') && areDigits (dropSign r)

/-- What may follow the whole part of a number: a point with digits, an exponent, both, or nothing. -/
def isFraction : List Char → Bool
  | '.' :: r => areDigits (r.takeWhile Char.isDigit) && isExponent (r.dropWhile Char.isDigit)
  | r => isExponent r

/-- A number without a sign: its whole part has no zero in front of other digits. -/
def isUnsigned (cs : List Char) : Bool :=
  let whole := cs.takeWhile Char.isDigit
  areDigits whole && (whole = ['0'] || whole.head? != some '0') && isFraction (cs.dropWhile Char.isDigit)

/-- A number. -/
def isNumber : List Char → Bool
  | '-' :: r => isUnsigned r
  | r => isUnsigned r

/-- Characters of the tokens that are neither marks nor strings. -/
def isTokenChar (c : Char) : Bool :=
  c.isAlphanum || c = '+' || c = '-' || c = '.'

/-- What such a token stands for. -/
def scalar? (token : List Char) : Option Tree :=
  if token = "null".toList then some .null
  else if token = "true".toList then some (.bool true)
  else if token = "false".toList then some (.bool false)
  else if isNumber token then some (.number (String.ofList token))
  else none

mutual

/-- The value at the front of a text, and what follows. -/
def value : Nat → List Char → Option (Tree × List Char)
  | 0, _ => none
  | fuel + 1, cs =>
    match cs.dropWhile isBlank with
    | [] => none
    | c :: r =>
      if c = '"' then (stringRest fuel r).map fun (s, r) => (.str (String.ofList s), r)
      else if c = '[' then
        match mark? ']' r with
        | some r => some (.list [], r)
        | none => do
          let (v, r) ← value fuel r
          let (vs, r) ← items fuel r
          some (.list (v :: vs), r)
      else if c = '\x7b' then
        match mark? '\x7d' r with
        | some r => some (.object [], r)
        | none => do
          let (m, r) ← member fuel r
          let (ms, r) ← members fuel r
          some (.object (m :: ms), r)
      else (scalar? ((c :: r).takeWhile isTokenChar)).map (·, (c :: r).dropWhile isTokenChar)

/-- The elements of a list behind one of them, up to its end. -/
def items : Nat → List Char → Option (List Tree × List Char)
  | 0, _ => none
  | fuel + 1, cs =>
    match mark? ',' cs with
    | some r => do
      let (v, r) ← value fuel r
      let (vs, r) ← items fuel r
      some (v :: vs, r)
    | none => (mark? ']' cs).map ([], ·)

/-- One member of an object. -/
def member : Nat → List Char → Option ((String × Tree) × List Char)
  | 0, _ => none
  | fuel + 1, cs => do
    let r ← mark? '"' cs
    let (k, r) ← stringRest fuel r
    let r ← mark? ':' r
    let (v, r) ← value fuel r
    some ((String.ofList k, v), r)

/-- The members of an object behind one of them, up to its end. -/
def members : Nat → List Char → Option (List (String × Tree) × List Char)
  | 0, _ => none
  | fuel + 1, cs =>
    match mark? ',' cs with
    | some r => do
      let (m, r) ← member fuel r
      let (ms, r) ← members fuel r
      some (m :: ms, r)
    | none => (mark? '\x7d' cs).map ([], ·)

end

/-- What a text stands for; none if it is not JSON. -/
def read? (cs : List Char) : Option Tree :=
  match value (cs.length + 1) cs with
  | some (t, rest) => if rest.all isBlank then some t else none
  | none => none

/-- What the bytes of a text in UTF-8 stand for. -/
def readBytes? (bytes : List UInt8) : Option Tree :=
  (Text.decodeUtf8 bytes).toOption.bind read?

-- The reader is strict: it takes escapes and blanks of all kinds, but no text with a comma or a zero too
-- many, a bare control, half a pair, a word for what is no number, or more than one value.
example : read? " [1.5e3 ,\t\"\\ud83d\\ude00\"]\n".toList =
    some (.list [.number "1.5e3", .str "😀"]) := by rfl

example : ["[1,]", "01", "1.", "\"\t\"", "\"\\ud83d\"", "NaN", "1 2", ""].all
    (fun s => (read? s.toList).isNone) = true := by decide

/-! ## Cutting -/

section Cutting

variable {p : Char → Bool} {front rest : List Char}

/-- A run of characters of a class ends where the first of another class stands. -/
theorem takeWhile_run (hfront : ∀ c ∈ front, p c = true) (hrest : ∀ c ∈ rest.head?, p c = false) :
    (front ++ rest).takeWhile p = front := by
  rw [List.takeWhile_append_of_pos hfront]
  cases rest with
  | nil => rw [List.takeWhile_nil, List.append_nil]
  | cons c rest =>
    have hc : ¬ p c = true := by rw [hrest c rfl]; decide
    rw [List.takeWhile_cons_of_neg hc, List.append_nil]

theorem dropWhile_run (hfront : ∀ c ∈ front, p c = true) (hrest : ∀ c ∈ rest.head?, p c = false) :
    (front ++ rest).dropWhile p = rest := by
  rw [List.dropWhile_append_of_pos hfront]
  cases rest with
  | nil => rfl
  | cons c rest =>
    have hc : ¬ p c = true := by rw [hrest c rfl]; decide
    rw [List.dropWhile_cons_of_neg hc]

end Cutting

/-! ## Blanks and marks -/

/-- Nothing but blanks. -/
def Gap (cs : List Char) : Prop :=
  ∀ c ∈ cs, isBlank c = true

section Marks

variable {gap cs rest : List Char} {c mark : Char} {fuel : Nat}

theorem dropWhile_gap (hgap : Gap gap) (hc : isBlank c = false) :
    (gap ++ c :: rest).dropWhile isBlank = c :: rest :=
  dropWhile_run hgap fun _ hd => Option.some.inj hd ▸ hc

theorem mark?_gap (hgap : Gap gap) (hmark : isBlank mark = false) :
    mark? mark (gap ++ mark :: rest) = some rest := by
  rw [mark?, dropWhile_gap hgap hmark]
  exact if_pos rfl

theorem mark?_other (hgap : Gap gap) (hc : isBlank c = false) (hne : c ≠ mark) :
    mark? mark (gap ++ c :: rest) = none := by
  rw [mark?, dropWhile_gap hgap hc]
  exact if_neg hne

/-- A mark behind nothing. -/
theorem mark?_cons (hmark : isBlank mark = false) : mark? mark (mark :: rest) = some rest :=
  mark?_gap (List.forall_mem_nil _) hmark

/-- Blanks in front of a value are passed over. -/
theorem value_gap (hgap : Gap gap) : value fuel (gap ++ cs) = value fuel cs := by
  cases fuel with
  | zero => rfl
  | succ fuel => rw [value, value, List.dropWhile_append_of_pos hgap]

/-- Where a value begins, a list does not end. -/
theorem mark?_of_value {found : Tree × List Char} (h : value fuel cs = some found) :
    mark? ']' cs = none := by
  cases fuel with
  | zero => cases h
  | succ fuel =>
    rw [value] at h
    unfold mark?
    -- A closing bracket is none of the marks that a value begins with, and no token either.
    cases hrest : cs.dropWhile isBlank with
    | nil => rfl
    | cons c r =>
      rw [hrest] at h
      refine if_neg ?_
      rintro rfl
      cases h

/-- Where a member begins, an object does not end. -/
theorem mark?_of_member {found : (String × Tree) × List Char} (h : member fuel cs = some found) :
    mark? '\x7d' cs = none := by
  cases fuel with
  | zero => cases h
  | succ fuel =>
    have hquote : mark? '"' cs ≠ none := by
      intro hnone
      rw [member, hnone] at h
      cases h
    unfold mark? at hquote ⊢
    cases hrest : cs.dropWhile isBlank with
    | nil => rfl
    | cons c r =>
      rw [hrest] at hquote
      refine if_neg ?_
      rintro rfl
      exact hquote rfl

end Marks

/-! ## Strings -/

section Strings

variable {c : Char} {cs rest : List Char} {fuel n : Nat}

/-- Each digit of a number in hexadecimal is read as it was written. -/
theorem hexValue?_hexDigit (h : n < 16) : Source.hexValue? (Text.hexDigit n) = some n := by
  revert n
  decide

theorem hexNumber?_hexPadded (h : n < 0x10000) :
    Source.hexNumber? 4 (Text.hexPadded 4 n ++ rest) = some (n, rest) := by
  have hdigit : ∀ k, Source.hexValue? (Text.hexDigit (k % 16)) = some (k % 16) :=
    fun k => hexValue?_hexDigit (Nat.mod_lt k (by decide))
  simp only [Source.hexNumber?, Text.hexPadded, List.nil_append, List.cons_append, List.take_succ_cons,
    List.take_zero, List.filterMap_cons, hdigit, List.filterMap_nil, List.length_cons, List.length_nil,
    List.foldl_cons, List.foldl_nil, List.drop_succ_cons, List.drop_zero]
  rw [if_pos trivial]
  congr 2
  omega

theorem escape?_short {mark : Char} (h : shortEscape? mark = some c) :
    escape? (mark :: rest) = some (c, rest) := by
  have hmark : mark ≠ 'u' := by
    rintro rfl
    cases h
  rw [escape?, if_neg hmark, h]
  rfl

/-- A control that has no escape of its own is read from its number. -/
theorem escape?_hexPadded (h : c.toNat < 32) :
    escape? ('u' :: Text.hexPadded 4 c.toNat ++ rest) = some (c, rest) := by
  have hsmall : (c.toNat < 0xD800 || 0xE000 ≤ c.toNat) = true := by
    rw [Bool.or_eq_true, decide_eq_true_eq]
    omega
  rw [List.cons_append, escape?, if_pos rfl, hexNumber?_hexPadded (by omega)]
  show (if _ then _ else _) = _
  rw [if_pos hsmall, Char.ofNat_toNat]

theorem stringRest_escape (escape : List Char) (h : escape? (escape ++ rest) = some (c, rest)) :
    stringRest (fuel + 1) ('\\' :: escape ++ rest) =
      (stringRest fuel rest).map fun (cs, r) => (c :: cs, r) := by
  rw [List.cons_append, stringRest, if_neg (by decide), if_pos rfl, h]

/-- A character is written with an escape of one character, with its number, or as it is. -/
theorem escaped_cases (c : Char) :
    (∃ mark, shortEscape? mark = some c ∧ escaped c = ['\\', mark]) ∨
      (c.toNat < 32 ∧ escaped c = '\\' :: 'u' :: Text.hexPadded 4 c.toNat) ∨
      (c ≠ '"' ∧ c ≠ '\\' ∧ ¬ c.toNat < 32 ∧ escaped c = [c]) := by
  by_cases hquote : c = '"'
  · subst hquote
    exact .inl ⟨'"', rfl, rfl⟩
  by_cases hslash : c = '\\'
  · subst hslash
    exact .inl ⟨'\\', rfl, rfl⟩
  by_cases hnewline : c = '\n'
  · subst hnewline
    exact .inl ⟨'n', rfl, rfl⟩
  by_cases hreturn : c = '\r'
  · subst hreturn
    exact .inl ⟨'r', rfl, rfl⟩
  by_cases htab : c = '\t'
  · subst htab
    exact .inl ⟨'t', rfl, rfl⟩
  by_cases hback : c.toNat = 8
  · obtain rfl : c = '\x08' := Char.toNat_inj.mp hback
    exact .inl ⟨'b', rfl, rfl⟩
  by_cases hfeed : c.toNat = 12
  · obtain rfl : c = '\x0c' := Char.toNat_inj.mp hfeed
    exact .inl ⟨'f', rfl, rfl⟩
  -- The characters with a short escape are done.
  rw [escaped, if_neg hquote, if_neg hslash, if_neg hnewline, if_neg hreturn, if_neg htab, if_neg hback,
    if_neg hfeed]
  by_cases hcontrol : c.toNat < 32
  · exact .inr (.inl ⟨hcontrol, if_pos hcontrol⟩)
  · exact .inr (.inr ⟨hquote, hslash, hcontrol, if_neg hcontrol⟩)

/-- The form of a character inside quotes is read as the character. -/
theorem stringRest_escaped (c : Char) (rest : List Char) :
    stringRest (fuel + 1) (escaped c ++ rest) =
      (stringRest fuel rest).map fun (cs, r) => (c :: cs, r) := by
  obtain ⟨mark, hmark, hform⟩ | ⟨hcontrol, hform⟩ | ⟨hquote, hslash, hcontrol, hform⟩ := escaped_cases c
  · rw [hform]
    exact stringRest_escape [mark] (escape?_short hmark)
  · rw [hform]
    exact stringRest_escape ('u' :: Text.hexPadded 4 c.toNat) (escape?_hexPadded hcontrol)
  · rw [hform, List.singleton_append, stringRest, if_neg hquote, if_neg hslash, if_neg hcontrol]

/-- A string is read to its closing quote, with one call for each of its characters. -/
theorem stringRest_flatMap (h : cs.length < fuel) :
    stringRest fuel (cs.flatMap escaped ++ '"' :: rest) = some (cs, rest) := by
  induction cs generalizing fuel with
  | nil =>
    obtain ⟨fuel, rfl⟩ := Nat.exists_eq_add_of_lt h
    rfl
  | cons c cs ih =>
    cases fuel with
    | zero => cases h
    | succ fuel =>
      rw [List.flatMap_cons, List.append_assoc, stringRest_escaped, ih (Nat.lt_of_succ_lt_succ h)]
      rfl

end Strings

/-! ## Tokens -/

/-- No token goes on into a text. -/
def Ends (rest : List Char) : Prop :=
  ∀ c ∈ rest.head?, isTokenChar c = false

section Tokens

variable {token rest : List Char} {t : Tree} {fuel : Nat}

theorem ends_cons {c : Char} (h : isTokenChar c = false) : Ends (c :: rest) :=
  fun _ hd => Option.some.inj hd ▸ h

theorem ends_gap {gap : List Char} {c : Char} (hgap : Gap gap) (h : isTokenChar c = false) :
    Ends (gap ++ c :: rest) := by
  cases gap with
  | nil => exact ends_cons h
  | cons d gap =>
    have hblank := hgap d List.mem_cons_self
    refine ends_cons ?_
    simp only [isBlank, Bool.or_eq_true, decide_eq_true_eq] at hblank
    rcases hblank with ((rfl | rfl) | rfl) | rfl <;> rfl

/-- A token is read whole. -/
theorem value_token (hne : token ≠ []) (htoken : ∀ c ∈ token, isTokenChar c = true) (hrest : Ends rest)
    (ht : scalar? token = some t) : value (fuel + 1) (token ++ rest) = some (t, rest) := by
  have htake := takeWhile_run htoken hrest
  have hdrop := dropWhile_run htoken hrest
  obtain ⟨c, r, rfl⟩ := List.exists_cons_of_ne_nil hne
  have hc := htoken c List.mem_cons_self
  have hapart : ∀ d, isTokenChar d = false → c ≠ d := by
    rintro d hd rfl
    rw [hc] at hd
    cases hd
  have hblank : isBlank c = false := by
    simp only [isBlank, Bool.or_eq_false_iff, decide_eq_false_iff_not]
    exact ⟨⟨⟨hapart _ rfl, hapart _ rfl⟩, hapart _ rfl⟩, hapart _ rfl⟩
  rw [value, List.cons_append, List.dropWhile_cons_of_neg (by rw [hblank]; decide)]
  dsimp only
  rw [if_neg (hapart _ rfl), if_neg (hapart _ rfl), if_neg (hapart _ rfl), ← List.cons_append, htake,
    hdrop, ht]
  rfl

end Tokens

/-! ## Lists and objects -/

section Nested

variable {cs r rest : List Char} {v : Tree} {vs : List Tree} {m : String × Tree}
  {ms : List (String × Tree)} {fuel : Nat}

/-- A list is read if its first element is, and the others. -/
theorem value_list (hv : value fuel cs = some (v, r)) (hvs : items fuel r = some (vs, rest)) :
    value (fuel + 1) ('[' :: cs) = some (.list (v :: vs), rest) := by
  rw [value, List.dropWhile_cons_of_neg (by decide)]
  dsimp only
  rw [if_neg (by decide), if_pos rfl, mark?_of_value hv]
  simp only [hv, hvs, Option.bind_eq_bind, Option.bind_some]

/-- An object is read if its first member is, and the others. -/
theorem value_object (hm : member fuel cs = some (m, r)) (hms : members fuel r = some (ms, rest)) :
    value (fuel + 1) ('\x7b' :: cs) = some (.object (m :: ms), rest) := by
  rw [value, List.dropWhile_cons_of_neg (by decide)]
  dsimp only
  rw [if_neg (by decide), if_neg (by decide), if_pos rfl, mark?_of_member hm]
  simp only [hm, hms, Option.bind_eq_bind, Option.bind_some]

end Nested

end ApiDirectives.Json
