import ApiDirectives.Proofs.Source.Cut
import ApiDirectives.Source.Parse

/-!
# A module reaches the end of its source

The pattern of a module asks for the end marker, and a sequence of patterns matches only if every token
that it asks for by kind is there. So a valid module was cut to its end, and what it opens is closed.
-/

namespace ApiDirectives.Source

namespace Tokens

variable {g : Tokens} {α β : Type} {p q : Progress} {fuel position after : Nat} {diagnose : Bool}

theorem bind_eq_ok {x : Pass α} {f : α → Pass β} {b : β} (h : (x >>= f) p = .ok (b, q)) :
    ∃ a p', x p = .ok (a, p') ∧ f a p' = .ok (b, q) := by
  cases hx : x p with
  | error e => simp [bind, StateT.bind, Except.bind, hx] at h
  | ok v => exact ⟨v.1, v.2, rfl, by simpa [bind, StateT.bind, Except.bind, hx] using h⟩

theorem pure_eq_ok {a b : α} (h : (pure a : Pass α) p = .ok (b, q)) : a = b ∧ p = q := by
  cases h
  exact ⟨rfl, rfl⟩

/-- A token that is taken is there. -/
theorem mem_of_take {fits : Token → Bool} {found : List Tree}
    (h : g.take fits position p = .ok (some (found, after), q)) :
    ∃ t ∈ g.items.toList, fits t = true := by
  obtain ⟨token, p', hlook, h⟩ := bind_eq_ok h
  cases token with
  | none => cases h
  | some t =>
    dsimp only at h
    split at h
    · rename_i hfits
      refine ⟨t, ?_, hfits⟩
      unfold look at hlook
      split at hlook
      · rename_i hitem
        cases hlook
        exact List.mem_of_getElem? (by simpa using hitem)
      · cases hlook
      · cases hlook
    · cases h

section Sequences

variable {item : Pattern} {items : List Pattern} {trees found : List Tree} {spot : Tree}
  {committed : Bool} {kind : TokenKind}

/-- An item that takes tokens was matched if the sequence was. -/
theorem item_of_sequence {f : List Tree → Tree}
    (h : (do
      match ← g.matchPattern fuel diagnose item position with
      | some (found, after) =>
        g.matchItems fuel diagnose items after (found.reverse ++ trees) (f found) committed
      | none => return (if committed then .refused else .failed) : Pass Match) p =
        .ok (.done found after, q)) :
    ∃ taken after' p', g.matchPattern fuel diagnose item position p =
        .ok (some (taken, after'), p') ∧
      g.matchItems fuel diagnose items after' (taken.reverse ++ trees) (f taken) committed p' =
        .ok (.done found after, q) := by
  obtain ⟨result, p', hpattern, hitems⟩ := bind_eq_ok h
  cases result with
  | none =>
    have hnone := (pure_eq_ok hitems).1
    split at hnone <;> cases hnone
  | some taken => exact ⟨taken.1, taken.2, p', hpattern, hitems⟩

theorem mem_of_matchPattern {taken : List Tree × Nat}
    (h : g.matchPattern fuel diagnose (.kind kind) position p = .ok (some taken, q)) :
    ∃ t ∈ g.items.toList, t.kind = kind := by
  cases fuel with
  | zero =>
    rw [matchPattern] at h
    cases h
  | succ fuel =>
    rw [matchPattern] at h
    simpa using mem_of_take h

/-- A sequence that matches has all the tokens that it asks for by kind. -/
theorem mem_of_matchItems (hkind : .kind kind ∈ items)
    (h : g.matchItems fuel diagnose items position trees spot committed p =
      .ok (.done found after, q)) :
    ∃ t ∈ g.items.toList, t.kind = kind := by
  induction fuel generalizing items position trees spot committed p with
  | zero =>
    rw [matchItems] at h
    cases h
  | succ fuel ih =>
    cases items with
    | nil => cases hkind
    | cons item items =>
      cases item with
      | cut =>
        rw [matchItems] at h
        exact ih (by simpa using hkind) h
      | slip s =>
        rw [matchItems] at h
        obtain ⟨goesOn, p', -, h⟩ := bind_eq_ok h
        split at h
        · exact ih (by simpa using hkind) h
        · cases h
      | spot pattern =>
        rw [matchItems] at h
        · obtain ⟨_, _, _, -, hitems⟩ := item_of_sequence h
          exact ih (by simpa using hkind) hitems
        · intro hcut
          cases hcut
        · intro slip hslip
          cases hslip
      -- The token is asked for by this item or by a later one.
      | _ =>
        rw [matchItems] at h
        · obtain ⟨_, _, _, hitem, hitems⟩ := item_of_sequence (f := fun _ => spot) h
          rcases List.mem_cons.mp hkind with hfirst | hrest
          · rw [← hfirst] at hitem
            exact mem_of_matchPattern hitem
          · exact ih hrest hitems
        · intro hcut
          cases hcut
        · intro slip hslip
          cases hslip

end Sequences

theorem mem_of_matchChoice {alternatives : List (List Pattern)} {found : List Tree}
    {kind : TokenKind} (hkind : ∀ items ∈ alternatives, .kind kind ∈ items)
    (h : g.matchChoice fuel diagnose alternatives position p = .ok (some (found, after), q)) :
    ∃ t ∈ g.items.toList, t.kind = kind := by
  induction fuel generalizing alternatives p with
  | zero =>
    rw [matchChoice] at h
    cases h
  | succ fuel ih =>
    cases alternatives with
    | nil =>
      rw [matchChoice] at h
      cases h
    | cons items others =>
      rw [matchChoice] at h
      obtain ⟨result, p', hitems, h⟩ := bind_eq_ok h
      cases result with
      | done trees _ => exact mem_of_matchItems (hkind items List.mem_cons_self) hitems
      | failed => exact ih (fun items hitems => hkind items (List.mem_cons_of_mem _ hitems)) h
      | refused => cases h

/-- A module that matches ends with the end of the source. -/
theorem endMarker_of_parse {tree : Tree} (h : g.parse (.statement .module) = .ok tree) :
    ∃ t ∈ g.items.toList, t.kind = .endMarker := by
  unfold parse at h
  split at h
  · cases h
  · rename_i found after p hpass
    have hmatch : g.matchRule g.fuel false (.statement .module) 0
      ⟨0, Array.replicate (g.items.size + 1) []⟩ = .ok (some (found, after), p) := hpass
    cases hfuel : g.fuel with
    | zero =>
      rw [hfuel, matchRule] at hmatch
      cases hmatch
    | succ fuel =>
      rw [hfuel, matchRule] at hmatch
      simp only [Rule.production, StatementRule.production, Pattern.plain] at hmatch
      obtain ⟨result, p', hchoice, hmatch⟩ := bind_eq_ok hmatch
      cases result with
      | none => cases hmatch
      | some result => exact mem_of_matchChoice (by simp [Pattern.endMarker]) hchoice
  · -- The second pass only says which mistake to report.
    split at h
    · cases h
    · split at h
      · split at h <;> cases h
      · cases h

end Tokens

/-- What is wrong with a literal is all that is added to its token. -/
theorem map_withFlaws {α : Type} {f : Token → α} (hf : ∀ t flaw, f { t with flaw } = f t)
    (check : Nat → List Char → Option Nat) (inRun : Bool) (items : List Token) :
    (withFlaws check inRun items).map f = items.map f := by
  induction items generalizing inRun with
  | nil => rfl
  | cons t r ih =>
    unfold withFlaws
    dsimp only
    split
    · split
      · rw [List.map_cons, List.map_cons, ih]
      · rw [List.map_cons, List.map_cons, ih, hf]
    · split
      · rw [List.map_cons, List.map_cons, ih, hf]
      · rw [List.map_cons, List.map_cons, ih]

/-- A valid module closes everything it opens. -/
theorem closes_of_parseModule {cs : List Char} {tree : Tree} (hreturn : '\r' ∉ cs)
    (h : parseModule cs = .ok tree) : Point.Closes ⟨.code, 0, cs⟩ := by
  unfold parseModule parseText at h
  obtain ⟨t, ht, hkind⟩ := Tokens.endMarker_of_parse h
  have hmem := List.mem_map_of_mem (f := Token.kind) ht
  rw [map_withFlaws fun _ _ => rfl, hkind] at hmem
  obtain ⟨u, hu, hend⟩ := List.mem_map.mp hmem
  exact closes_of_ofText hreturn ⟨u, hu, hend⟩

end ApiDirectives.Source
