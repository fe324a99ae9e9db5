import ApiDirectives.Proofs.Source.Matching
import Mathlib.Data.List.Flatten

/-!
# Trees are derivations

Whatever the parser gives for a rule, kept results included, is a derivation of the grammar, and the
leaves of the tree are the tokens from where the rule was tried to where it ended, none left out and none
taken twice. Looks ahead, cuts and slips take nothing, and shapes of mistakes are no part of a valid
source, so a derivation does not speak of them.
-/

namespace ApiDirectives.Source

/-! ## Leaves -/

mutual

/-- The tokens of a tree, in order. -/
def Tree.tokens : Tree → List Token
  | .leaf t => [t]
  | .node _ ts => tokensOf ts

/-- The tokens of some trees, in order. -/
def tokensOf : List Tree → List Token
  | [] => []
  | t :: ts => t.tokens ++ tokensOf ts

end

@[simp] theorem tokensOf_nil : tokensOf [] = [] := rfl

@[simp] theorem tokensOf_cons (t : Tree) (ts : List Tree) :
    tokensOf (t :: ts) = t.tokens ++ tokensOf ts := rfl

@[simp] theorem Tree.tokens_leaf (t : Token) : (Tree.leaf t).tokens = [t] := rfl

@[simp] theorem Tree.tokens_node (r : Rule) (ts : List Tree) : (Tree.node r ts).tokens = tokensOf ts :=
  rfl

@[simp] theorem tokensOf_append (ts us : List Tree) : tokensOf (ts ++ us) = tokensOf ts ++ tokensOf us := by
  induction ts with
  | nil => rfl
  | cons t ts ih => rw [List.cons_append, tokensOf_cons, ih, tokensOf_cons, List.append_assoc]

/-- A rule that matched one thing only leaves no node, but the same tokens. -/
@[simp] theorem Tree.tokens_ofRule (r : Rule) (ts : List Tree) : (Tree.ofRule r ts).tokens = tokensOf ts := by
  unfold ofRule
  split
  · simp
  · simp

section Parts

variable {ts us : List Tree} {t : Tree}

theorem tokensOf_eq_flatMap (ts : List Tree) : tokensOf ts = ts.flatMap Tree.tokens := by
  induction ts with
  | nil => rfl
  | cons t ts ih => rw [tokensOf_cons, ih, List.flatMap_cons]

theorem tokensOf_sublist (h : ts.Sublist us) : (tokensOf ts).Sublist (tokensOf us) := by
  rw [tokensOf_eq_flatMap, tokensOf_eq_flatMap]
  exact h.flatMap _

theorem tokens_sublist_of_mem (h : t ∈ ts) : t.tokens.Sublist (tokensOf ts) := by
  have hone := tokensOf_sublist (List.singleton_sublist.mpr h)
  rwa [tokensOf_cons, tokensOf_nil, List.append_nil] at hone

end Parts

/-! ## Derivations -/

/-- What trees can be derived from: a pattern, a sequence of patterns, a pattern any number of times, or a
rule. -/
inductive Part where
  | pattern (p : Pattern)
  | items (ps : List Pattern)
  | many (p : Pattern)
  | rule (r : Rule)

namespace Pattern

/-- Whether a pattern for a single token takes it. -/
def admits : Pattern → Token → Bool
  | .kind k, t => t.kind = k
  | .text s, t => t.text == s
  | .soft s, t => t.kind = .name && t.text == s
  | .softWord, t => t.kind = .name && ["_", "case", "match"].contains t.text
  | .forced s, t => t.text == s
  | _, _ => false

/-- Whether a pattern may take nothing. -/
def isIdle : Pattern → Bool
  | .opt _ | .ahead _ | .notAhead _ | .cut | .slip _ => true
  | _ => false

end Pattern

/-- The sequences that a production starts with. -/
def Production.openings : Production → List (List Pattern)
  | .alternatives _ items => items
  | .quietly items => items
  | .growing base _ => [base]

/-- The sequences that extend what a production has matched. -/
def Production.steps : Production → List (List Pattern)
  | .growing _ steps => steps
  | _ => []

/-- Trees that can be derived in a valid source. -/
inductive Derives : Part → List Tree → Prop
  | token {pattern : Pattern} {t : Token} : pattern.admits t = true →
      Derives (.pattern pattern) [.leaf t]
  | idle {pattern : Pattern} : pattern.isIdle = true → Derives (.pattern pattern) []
  | literals {ks : List Token} : (∀ k ∈ ks, k.kind = .string) →
      Derives (.pattern .literals) (ks.map .leaf)
  | ruled {r : Rule} {ts : List Tree} : Derives (.rule r) ts → Derives (.pattern (.rule r)) ts
  | choice {alternatives : List (List Pattern)} {items : List Pattern} {ts : List Tree} :
      items ∈ alternatives → Derives (.items items) ts → Derives (.pattern (.choice alternatives)) ts
  | opt {pattern : Pattern} {ts : List Tree} :
      Derives (.pattern pattern) ts → Derives (.pattern (.opt pattern)) ts
  | spot {pattern : Pattern} {ts : List Tree} :
      Derives (.pattern pattern) ts → Derives (.pattern (.spot pattern)) ts
  | many {pattern : Pattern} {ts : List Tree} :
      Derives (.many pattern) ts → Derives (.pattern (.many pattern)) ts
  | many1 {pattern : Pattern} {ts : List Tree} :
      Derives (.many pattern) ts → Derives (.pattern (.many1 pattern)) ts
  | separated {s : String} {pattern : Pattern} {ts us : List Tree} : Derives (.pattern pattern) ts →
      Derives (.many (.choice [[.text s, pattern]])) us → Derives (.pattern (.separated s pattern)) (ts ++ us)
  | nil : Derives (.items []) []
  | cons {item : Pattern} {items : List Pattern} {ts us : List Tree} : Derives (.pattern item) ts →
      Derives (.items items) us → Derives (.items (item :: items)) (ts ++ us)
  | enough {pattern : Pattern} : Derives (.many pattern) []
  | more {pattern : Pattern} {ts us : List Tree} : Derives (.pattern pattern) ts →
      Derives (.many pattern) us → Derives (.many pattern) (ts ++ us)
  | opening {r : Rule} {items : List Pattern} {ts : List Tree} : items ∈ r.production.openings →
      Derives (.items items) ts → Derives (.rule r) [.ofRule r ts]
  | step {r : Rule} {items : List Pattern} {t : Tree} {ts : List Tree} : items ∈ r.production.steps →
      Derives (.rule r) [t] → Derives (.items items) ts → Derives (.rule r) [.node r (t :: ts)]

namespace Tokens

variable {g : Tokens} {part : Part} {position middle after : Nat} {ts us : List Tree}

/-- Trees that are derived and have the tokens between two positions as their leaves. -/
def Fits (g : Tokens) (part : Part) (position : Nat) (ts : List Tree) (after : Nat) : Prop :=
  Derives part ts ∧ g.items.toList.drop position = tokensOf ts ++ g.items.toList.drop after

theorem Fits.imp {part' : Part} (h : g.Fits part position ts after)
    (himp : Derives part ts → Derives part' ts) : g.Fits part' position ts after :=
  ⟨himp h.1, h.2⟩

theorem fits_nothing (h : Derives part []) (position : Nat) : g.Fits part position [] position :=
  ⟨h, rfl⟩

/-- What is derived of neighbours is derived of the whole. -/
theorem Fits.append {first second whole : Part} (h : g.Fits first position ts middle)
    (hnext : g.Fits second middle us after)
    (hwhole : Derives first ts → Derives second us → Derives whole (ts ++ us)) :
    g.Fits whole position (ts ++ us) after := by
  refine ⟨hwhole h.1 hnext.1, ?_⟩
  rw [h.2, hnext.2, tokensOf_append, List.append_assoc]

theorem fits_token {pattern : Pattern} {t : Token} (h : g.items[position]? = some t)
    (hadmits : pattern.admits t = true) : g.Fits (.pattern pattern) position [.leaf t] (position + 1) := by
  refine ⟨.token hadmits, ?_⟩
  have hitem : g.items.toList[position]? = some t := by simpa using h
  obtain ⟨hlt, rfl⟩ := List.getElem?_eq_some_iff.mp hitem
  simpa using List.drop_eq_getElem_cons hlt

/-! ## Passes -/

/-- What is kept is derived. -/
def Sound (g : Tokens) (p : Progress) : Prop :=
  ∀ position rule tree after, (rule, some (tree, after)) ∈ p.memo[position]?.getD [] →
    g.Fits (.rule rule) position [tree] after

/-- A step of a pass keeps what is kept sound, and its result is as said. -/
def Gives {α : Type} (g : Tokens) (x : Pass α) (post : α → Prop) : Prop :=
  ∀ p a q, g.Sound p → x p = .ok (a, q) → g.Sound q ∧ post a

section Gives

variable {α β : Type} {x : Pass α} {post : α → Prop} {post' : β → Prop}

theorem gives_pure {a : α} (h : post a) : g.Gives (pure a) post := by
  rintro p b q hp hpure
  obtain ⟨rfl, rfl⟩ := pure_eq_ok hpure
  exact ⟨hp, h⟩

theorem Gives.bind {f : α → Pass β} (hx : g.Gives x post) (hf : ∀ a, post a → g.Gives (f a) post') :
    g.Gives (x >>= f) post' := by
  rintro p b q hp hbind
  obtain ⟨a, p', hrun, hrest⟩ := bind_eq_ok hbind
  obtain ⟨hp', ha⟩ := hx p a p' hp hrun
  exact hf a ha p' b q hp' hrest

theorem Gives.imp {post' : α → Prop} (hx : g.Gives x post) (himp : ∀ a, post a → post' a) :
    g.Gives x post' := fun p a q hp hrun => (hx p a q hp hrun).imp_right (himp a)

theorem gives_halt (line : Nat) : g.Gives (halt line) post := by
  rintro p a q - hrun
  cases hrun

theorem gives_haltHere : g.Gives g.haltHere post := by
  rintro p a q - hrun
  cases hrun

theorem gives_look (position : Nat) :
    g.Gives (g.look position) fun found => ∀ t ∈ found, g.items[position]? = some t := by
  rintro p found q hp hrun
  unfold look at hrun
  split at hrun
  · rename_i t _ hitem
    cases hrun
    refine ⟨hp, fun u hu => ?_⟩
    cases hu
    exact hitem
  · cases hrun
  · cases hrun
    exact ⟨hp, fun t ht => by cases ht⟩

theorem gives_heed (flaw : Option Flaw) : g.Gives (g.heed flaw) fun _ => True := by
  match flaw with
  | none => exact gives_pure trivial
  | some .here => exact gives_haltHere
  | some (.at line) => exact gives_halt line

end Gives

/-! ## Single tokens -/

/-- A result, if there is one, fits. -/
def Found (g : Tokens) (part : Part) (position : Nat) (found : Option (List Tree × Nat)) : Prop :=
  ∀ ts after, found = some (ts, after) → g.Fits part position ts after

theorem found_none : g.Found part position none := fun _ _ h => by cases h

theorem found_some (h : g.Fits part position ts after) : g.Found part position (some (ts, after)) := by
  rintro _ _ ⟨⟩
  exact h

theorem gives_take {fits : Token → Bool} (pattern : Pattern) (h : ∀ t, fits t = true → pattern.admits t = true)
    (position : Nat) : g.Gives (g.take fits position) (g.Found (.pattern pattern) position) := by
  refine (gives_look position).bind fun found hfound => ?_
  cases found with
  | none => exact gives_pure found_none
  | some t =>
    dsimp only
    split
    · rename_i hfits
      have htoken := found_some (fits_token (hfound t rfl) (h t hfits))
      split
      · exact (gives_heed t.flaw).bind fun _ _ => gives_pure htoken
      · exact gives_pure htoken
    · exact gives_pure found_none

/-- Strings side by side are a run of string tokens. -/
theorem gives_takeStrings (fuel position : Nat) (trees : List Tree) :
    g.Gives (g.takeStrings fuel position trees) fun found =>
      ∃ ts, found.1 = trees.reverse ++ ts ∧ g.Fits (.pattern .literals) position ts found.2 := by
  have hnothing : ∀ position (trees : List Tree), ∃ ts, trees.reverse = trees.reverse ++ ts ∧
      g.Fits (.pattern .literals) position ts position := fun position trees =>
    ⟨[], (List.append_nil _).symm, fits_nothing (@Derives.literals [] (by simp)) position⟩
  induction fuel generalizing position trees with
  | zero => exact gives_pure (hnothing position trees)
  | succ fuel ih =>
    refine (gives_look position).bind fun found hfound => ?_
    cases found with
    | none => exact gives_pure (hnothing position trees)
    | some t =>
      dsimp only
      split
      · rename_i hstring
        refine (ih (position + 1) (.leaf t :: trees)).imp ?_
        rintro ⟨found, after⟩ ⟨ts, hts, hfits⟩
        refine ⟨.leaf t :: ts, by simpa using hts, ?_⟩
        have hadmits : (Pattern.kind .string).admits t = true := by simpa [Pattern.admits] using hstring
        have htoken := fits_token (hfound t rfl) hadmits
        refine htoken.append hfits fun _ hderives => ?_
        cases hderives with
        | token hadmits => cases hadmits
        | idle hidle => cases hidle
        | literals hstrings => exact .literals (List.forall_mem_cons.mpr ⟨hstring, hstrings⟩)
      · exact gives_pure (hnothing position trees)

theorem gives_takeLiterals (position : Nat) :
    g.Gives (g.takeLiterals position) (g.Found (.pattern .literals) position) := by
  refine (gives_takeStrings (g.items.size + 1) position []).bind ?_
  rintro ⟨found, after⟩ ⟨ts, hts, hfits⟩
  obtain rfl : found = ts := hts
  dsimp only
  split
  · exact gives_pure found_none
  · exact (gives_heed _).bind fun _ _ => gives_pure (found_some hfits)

theorem gives_settle (slip : Slip) (spot : Tree) (position : Nat) :
    g.Gives (g.settle slip spot position) fun _ => True := by
  unfold settle
  cases slip with
  | here => exact gives_haltHere
  | atSpot => exact gives_halt _
  | atStart => exact gives_halt _
  | badTarget use =>
    dsimp only
    split
    · exact gives_halt _
    · exact gives_pure trivial
  | bareGenerator =>
    dsimp only
    split
    · exact gives_pure trivial
    · exact gives_pure trivial
    · exact gives_halt _
  | missingComma | wantImaginary =>
    dsimp only
    split
    · exact gives_pure trivial
    · exact gives_halt _
  | statementCall | wantReal =>
    dsimp only
    split
    · exact gives_halt _
    · exact gives_pure trivial

/-! ## Kept results -/

theorem gives_known (rule : Rule) (position : Nat) :
    g.Gives (known rule position) fun result => ∀ kept ∈ result,
      ∀ tree after, kept = some (tree, after) → g.Fits (.rule rule) position [tree] after := by
  rintro p result q hp hrun
  cases hrun
  refine ⟨hp, ?_⟩
  rintro _ hkept tree after rfl
  obtain ⟨before, later, hentries, -⟩ := List.lookup_eq_some_iff.mp hkept
  refine hp position rule tree after ?_
  rw [hentries]
  exact List.mem_append_right _ List.mem_cons_self

theorem gives_keep {rule : Rule} {result : Option (Tree × Nat)}
    (h : ∀ tree after, result = some (tree, after) → g.Fits (.rule rule) position [tree] after) :
    g.Gives (keep rule position result) fun _ => True := by
  rintro p a q hp hrun
  cases hrun
  refine ⟨?_, trivial⟩
  intro position' rule' tree after hmem
  dsimp only at hmem
  rw [Array.getElem?_modify] at hmem
  split at hmem
  · rename_i hposition
    subst hposition
    cases hold : p.memo[position]? with
    | none =>
      rw [hold] at hmem
      cases hmem
    | some kept =>
      rw [hold, Option.map_some, Option.getD_some] at hmem
      rcases List.mem_cons.mp hmem with hnew | hmem
      · cases hnew
        exact h tree after rfl
      · refine hp position rule' tree after ?_
        rwa [hold, Option.getD_some]
  · exact hp position' rule' tree after hmem

/-! ## All functions of a pass -/

/-- What the functions of a pass give with so many steps left. -/
structure Parses (g : Tokens) (fuel : Nat) : Prop where
  pattern : ∀ pattern position,
    g.Gives (g.matchPattern fuel false pattern position) (g.Found (.pattern pattern) position)
  choice : ∀ alternatives position,
    g.Gives (g.matchChoice fuel false alternatives position) (g.Found (.pattern (.choice alternatives)) position)
  items : ∀ items position trees spot committed,
    g.Gives (g.matchItems fuel false items position trees spot committed) fun result =>
      ∀ found after, result = .done found after →
        ∃ ts, found = trees.reverse ++ ts ∧ g.Fits (.items items) position ts after
  many : ∀ pattern position trees,
    g.Gives (g.matchMany fuel false pattern position trees) fun found =>
      ∃ ts, found.1 = trees.reverse ++ ts ∧ g.Fits (.many pattern) position ts found.2
  rule : ∀ rule position,
    g.Gives (g.matchRule fuel false rule position) fun result =>
      ∀ tree after, result = some (tree, after) → g.Fits (.rule rule) position [tree] after
  grow : ∀ rule start tree position, g.Fits (.rule rule) start [tree] position →
    g.Gives (g.grow fuel false rule rule.production.steps tree position) fun result =>
      g.Fits (.rule rule) start [result.1] result.2

theorem parses_zero : g.Parses 0 where
  pattern _ _ := by
    rw [matchPattern]
    exact gives_pure found_none
  choice _ _ := by
    rw [matchChoice]
    exact gives_pure found_none
  items _ _ _ _ _ := by
    rw [matchItems]
    exact gives_pure fun _ _ h => by cases h
  many _ position trees := by
    rw [matchMany]
    exact gives_pure ⟨[], (List.append_nil _).symm, fits_nothing .enough position⟩
  rule _ _ := by
    rw [matchRule]
    exact gives_pure fun _ _ h => by cases h
  grow _ _ _ _ h := by
    rw [grow]
    exact gives_pure h

/-- What one of the openings matches is what the rule matches. -/
theorem fits_opening {rule : Rule} {alternatives : List (List Pattern)} {position : Nat}
    {found : Option (List Tree × Nat)} (hopenings : rule.production.openings = alternatives)
    (hfound : g.Found (.pattern (.choice alternatives)) position found) (tree : Tree) (after : Nat)
    (hsome : (found.map fun (trees, after) => (Tree.ofRule rule trees, after)) = some (tree, after)) :
    g.Fits (.rule rule) position [tree] after := by
  obtain ⟨⟨ts, _⟩, hts, hfits⟩ := Option.map_eq_some_iff.mp hsome
  cases hfits
  obtain ⟨hderives, hspan⟩ := hfound ts after hts
  refine ⟨?_, by simpa using hspan⟩
  cases hderives with
  | token hadmits => cases hadmits
  | idle hidle => cases hidle
  | choice hitems hderives => exact .opening (hopenings ▸ hitems) hderives

section Steps

variable {fuel : Nat} (hg : g.Parses fuel)

include hg

theorem Parses.pattern_succ (pattern : Pattern) (position : Nat) :
    g.Gives (g.matchPattern (fuel + 1) false pattern position) (g.Found (.pattern pattern) position) := by
  have hnothing : ∀ {pattern}, pattern.isIdle = true → g.Found (.pattern pattern) position (some ([], position)) :=
    fun hidle => found_some (fits_nothing (.idle hidle) position)
  have hinside : ∀ {pattern outer}, (∀ {ts}, Derives (.pattern pattern) ts → Derives (.pattern outer) ts) →
      g.Gives (g.matchPattern fuel false pattern position) (g.Found (.pattern outer) position) :=
    fun himp => (hg.pattern _ position).imp fun _ hfound ts after hsome => (hfound ts after hsome).imp himp
  cases pattern with
  | kind k =>
    rw [matchPattern]
    exact gives_take (.kind k) (fun t ht => ht) position
  | text s =>
    rw [matchPattern]
    exact gives_take (.text s) (fun t ht => ht) position
  | soft s =>
    rw [matchPattern]
    exact gives_take (.soft s) (fun t ht => ht) position
  | softWord =>
    rw [matchPattern]
    exact gives_take .softWord (fun t ht => ht) position
  | literals =>
    rw [matchPattern]
    exact gives_takeLiterals position
  | rule r =>
    rw [matchPattern]
    refine (hg.rule r position).bind fun result hresult => ?_
    rcases result with _ | ⟨tree, after⟩
    · exact gives_pure found_none
    · exact gives_pure (found_some ((hresult tree after rfl).imp .ruled))
  | choice alternatives =>
    rw [matchPattern]
    exact hg.choice alternatives position
  | opt pattern =>
    rw [matchPattern]
    refine (hinside .opt).bind fun result hresult => ?_
    cases result with
    | none => exact gives_pure (hnothing rfl)
    | some found => exact gives_pure hresult
  | many pattern =>
    rw [matchPattern]
    refine (hg.many pattern position []).bind ?_
    rintro ⟨_, after⟩ ⟨ts, rfl, hfits⟩
    exact gives_pure (found_some (hfits.imp .many))
  | many1 pattern =>
    rw [matchPattern]
    refine (hg.many pattern position []).bind ?_
    rintro ⟨found, after⟩ ⟨ts, hts, hfits⟩
    obtain rfl : found = ts := hts
    cases found with
    | nil => exact gives_pure found_none
    | cons t ts => exact gives_pure (found_some (hfits.imp .many1))
  | separated s pattern =>
    rw [matchPattern]
    refine (hg.pattern pattern position).bind fun result hresult => ?_
    rcases result with _ | ⟨ts, middle⟩
    · exact gives_pure found_none
    · refine (hg.many _ middle ts.reverse).bind ?_
      rintro ⟨_, after⟩ ⟨us, rfl, hfits⟩
      refine gives_pure (found_some ?_)
      rw [List.reverse_reverse]
      exact (hresult ts middle rfl).append hfits .separated
  -- Looking ahead takes nothing, whatever is found there.
  | ahead pattern =>
    rw [matchPattern]
    refine (hg.pattern pattern position).bind fun result _ => ?_
    cases result with
    | none => exact gives_pure found_none
    | some _ => exact gives_pure (hnothing rfl)
  | notAhead pattern =>
    rw [matchPattern]
    refine (hg.pattern pattern position).bind fun result _ => ?_
    cases result with
    | none => exact gives_pure (hnothing rfl)
    | some _ => exact gives_pure found_none
  | forced s =>
    rw [matchPattern]
    refine (gives_look position).bind fun found hfound => ?_
    cases found with
    | none => exact gives_pure found_none
    | some t =>
      dsimp only
      split
      · rename_i hfits
        exact gives_pure (found_some (fits_token (hfound t rfl) hfits))
      · exact gives_halt t.line
  | spot pattern =>
    rw [matchPattern]
    exact hinside .spot
  | cut =>
    rw [matchPattern]
    exact gives_pure (hnothing rfl)
  | slip s =>
    rw [matchPattern]
    exact gives_pure (hnothing rfl)
  -- A pass that does not look for mistakes matches nothing here.
  | diagnosing =>
    rw [matchPattern]
    exact gives_pure found_none

theorem Parses.choice_succ (alternatives : List (List Pattern)) (position : Nat) :
    g.Gives (g.matchChoice (fuel + 1) false alternatives position)
      (g.Found (.pattern (.choice alternatives)) position) := by
  cases alternatives with
  | nil =>
    rw [matchChoice]
    exact gives_pure found_none
  | cons items others =>
    rw [matchChoice]
    refine (hg.items items position [] default false).bind fun result hresult => ?_
    cases result with
    | done found after =>
      obtain ⟨ts, rfl, hfits⟩ := hresult found after rfl
      exact gives_pure (found_some (hfits.imp (.choice List.mem_cons_self)))
    | failed =>
      refine (hg.choice others position).imp fun found hfound ts after hsome => ?_
      refine (hfound ts after hsome).imp fun hderives => ?_
      cases hderives with
      | token hadmits => cases hadmits
      | idle hidle => cases hidle
      | choice hitems hderives => exact .choice (List.mem_cons_of_mem _ hitems) hderives
    | refused => exact gives_pure found_none

/-- An item that takes something, with the items behind it. -/
theorem Parses.took (item : Pattern) (items : List Pattern) (position : Nat) (trees : List Tree)
    (committed : Bool) (f : List Tree → Tree) :
    g.Gives (do
      match ← g.matchPattern fuel false item position with
      | some (found, after) =>
        g.matchItems fuel false items after (found.reverse ++ trees) (f found) committed
      | none => return (if committed then .refused else .failed) : Pass Match) fun result =>
        ∀ found after, result = .done found after →
          ∃ ts, found = trees.reverse ++ ts ∧ g.Fits (.items (item :: items)) position ts after := by
  refine (hg.pattern item position).bind fun result hresult => ?_
  rcases result with _ | ⟨ts, middle⟩
  · refine gives_pure ?_
    split
    · rintro _ _ ⟨⟩
    · rintro _ _ ⟨⟩
  · refine (hg.items items middle (ts.reverse ++ trees) (f ts) committed).imp
      fun result hrest found after hdone => ?_
    obtain ⟨us, rfl, hfits⟩ := hrest found after hdone
    exact ⟨ts ++ us, by simp, (hresult ts middle rfl).append hfits .cons⟩

theorem Parses.items_succ (items : List Pattern) (position : Nat) (trees : List Tree) (spot : Tree)
    (committed : Bool) :
    g.Gives (g.matchItems (fuel + 1) false items position trees spot committed) fun result =>
      ∀ found after, result = .done found after →
        ∃ ts, found = trees.reverse ++ ts ∧ g.Fits (.items items) position ts after := by
  cases items with
  | nil =>
    rw [matchItems]
    refine gives_pure ?_
    rintro _ _ ⟨⟩
    exact ⟨[], (List.append_nil _).symm, fits_nothing .nil position⟩
  | cons item items =>
    -- An item that takes nothing leaves the rest to be matched from the same position.
    have hskip : ∀ {committed}, item.isIdle = true →
        g.Gives (g.matchItems fuel false items position trees spot committed) fun result =>
          ∀ found after, result = .done found after →
            ∃ ts, found = trees.reverse ++ ts ∧ g.Fits (.items (item :: items)) position ts after := by
      intro committed hidle
      refine (hg.items items position trees spot committed).imp fun result hresult found after hdone => ?_
      obtain ⟨ts, rfl, hfits⟩ := hresult found after hdone
      exact ⟨ts, rfl, hfits.imp (.cons (.idle hidle))⟩
    cases item with
    | cut =>
      rw [matchItems]
      exact hskip rfl
    | slip s =>
      rw [matchItems]
      refine (gives_settle s spot position).bind fun goesOn _ => ?_
      split
      · exact hskip rfl
      · exact gives_pure fun _ _ h => by cases h
    | spot pattern =>
      rw [matchItems]
      · exact hg.took _ items position trees committed fun found => found.headD spot
      · simp
      · simp
    | _ =>
      rw [matchItems]
      · exact hg.took _ items position trees committed fun _ => spot
      · simp
      · simp

theorem Parses.many_succ (pattern : Pattern) (position : Nat) (trees : List Tree) :
    g.Gives (g.matchMany (fuel + 1) false pattern position trees) fun found =>
      ∃ ts, found.1 = trees.reverse ++ ts ∧ g.Fits (.many pattern) position ts found.2 := by
  rw [matchMany]
  refine (hg.pattern pattern position).bind fun result hresult => ?_
  rcases result with _ | ⟨ts, middle⟩
  · exact gives_pure ⟨[], (List.append_nil _).symm, fits_nothing .enough position⟩
  · refine (hg.many pattern middle (ts.reverse ++ trees)).imp ?_
    rintro ⟨found, after⟩ ⟨us, hus, hfits⟩
    exact ⟨ts ++ us, by simpa using hus, (hresult ts middle rfl).append hfits .more⟩

theorem Parses.grow_succ (rule : Rule) (start : Nat) (tree : Tree) (position : Nat)
    (h : g.Fits (.rule rule) start [tree] position) :
    g.Gives (g.grow (fuel + 1) false rule rule.production.steps tree position) fun result =>
      g.Fits (.rule rule) start [result.1] result.2 := by
  rw [Tokens.grow]
  refine (hg.choice rule.production.steps position).bind fun result hresult => ?_
  rcases result with _ | ⟨ts, after⟩
  · exact gives_pure h
  · have hfits := hresult ts after rfl
    refine hg.grow rule start _ after ⟨?_, ?_⟩
    · cases hfits.1 with
      | token hadmits => cases hadmits
      | idle hidle => cases hidle
      | choice hitems hderives => exact .step hitems h.1 hderives
    · rw [h.2, hfits.2]
      simp

theorem Parses.rule_succ (rule : Rule) (position : Nat) :
    g.Gives (g.matchRule (fuel + 1) false rule position) fun result =>
      ∀ tree after, result = some (tree, after) → g.Fits (.rule rule) position [tree] after := by
  rw [matchRule]
  cases hproduction : rule.production with
  | alternatives kept items =>
    have hopens : rule.production.openings = items := by rw [hproduction]; rfl
    cases kept with
    | false =>
      refine (hg.choice items position).bind fun found hfound => ?_
      have hfits := fits_opening hopens hfound
      rcases found with _ | ⟨ts, after⟩
      · exact gives_pure fun _ _ h => by cases h
      · exact gives_pure hfits
    | true =>
      refine (gives_look position).bind fun _ _ => (gives_known rule position).bind fun result hknown => ?_
      cases result with
      | some result => exact gives_pure (hknown result rfl)
      | none =>
        refine (hg.choice items position).bind fun found hfound => ?_
        have hfits := fits_opening hopens hfound
        exact (gives_keep hfits).bind fun _ _ => gives_pure hfits
  | quietly items =>
    have hopens : rule.production.openings = items := by rw [hproduction]; rfl
    refine (hg.choice items position).bind fun found hfound => ?_
    have hfits := fits_opening hopens hfound
    rcases found with _ | ⟨ts, after⟩
    · exact gives_pure fun _ _ h => by cases h
    · exact gives_pure hfits
  | growing base steps =>
    -- The base is matched first, and its tree is grown as far as it goes; only the last one is kept.
    have hopens : rule.production.openings = [base] := by rw [hproduction]; rfl
    have hsteps : steps = rule.production.steps := by rw [hproduction]; rfl
    refine (gives_look position).bind fun _ _ => (gives_known rule position).bind fun result hknown => ?_
    cases result with
    | some result => exact gives_pure (hknown result rfl)
    | none =>
      refine (hg.choice [base] position).bind fun found hfound => ?_
      have hfits := fits_opening hopens hfound
      rcases found with _ | ⟨ts, middle⟩
      · refine (gives_keep fun _ _ h => ?_).bind fun _ _ => gives_pure fun _ _ h => by cases h
        cases h
      · rw [hsteps]
        refine (hg.grow rule position _ middle (hfits _ _ rfl)).bind fun result hresult => ?_
        have hkept : ∀ tree after, some result = some (tree, after) →
            g.Fits (.rule rule) position [tree] after := by
          rintro _ _ ⟨⟩
          exact hresult
        exact (gives_keep hkept).bind fun _ _ => gives_pure hkept

end Steps

/-- Whatever a pass gives is derived, for any number of steps. -/
theorem parses (g : Tokens) (fuel : Nat) : g.Parses fuel := by
  induction fuel with
  | zero => exact parses_zero
  | succ fuel ih =>
    exact ⟨ih.pattern_succ, ih.choice_succ, ih.items_succ, ih.many_succ, ih.rule_succ, ih.grow_succ⟩

/-- A tree that is parsed is a derivation of its rule, and its leaves are the tokens it was parsed from. -/
theorem fits_of_parse {rule : Rule} {tree : Tree} (h : g.parse rule = .ok tree) :
    ∃ after, g.Fits (.rule rule) 0 [tree] after := by
  unfold parse at h
  split at h
  · cases h
  · rename_i tree' after q hpass
    cases h
    have hempty : g.Sound ⟨0, Array.replicate (g.items.size + 1) []⟩ := by
      intro position rule tree after hmem
      dsimp only at hmem
      rw [Array.getElem?_replicate] at hmem
      split at hmem <;> cases hmem
    exact ⟨after, ((g.parses g.fuel).rule rule 0 _ _ _ hempty hpass).2 tree after rfl⟩
  · split at h
    · cases h
    · split at h
      · split at h <;> cases h
      · cases h

end Tokens

/-- The tree of a module is a derivation, and its leaves are the first tokens of the source. -/
theorem derives_of_parseModule {cs : List Char} {tree : Tree} (h : parseModule cs = .ok tree) :
    Derives (.rule (.statement .module)) [tree] ∧
      ∃ check, tree.tokens <+: withFlaws check false (Tokens.ofText 1 cs).items.toList := by
  unfold parseModule parseText at h
  obtain ⟨after, hderives, hspan⟩ := Tokens.fits_of_parse h
  rw [tokensOf_cons, tokensOf_nil, List.append_nil] at hspan
  exact ⟨hderives, _, ⟨_, hspan.symm⟩⟩

end ApiDirectives.Source
