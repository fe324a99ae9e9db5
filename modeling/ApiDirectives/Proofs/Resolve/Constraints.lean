import ApiDirectives.Proofs.Document.SchemaRoundTrip
import ApiDirectives.Proofs.Numeral.Integers
import ApiDirectives.Proofs.Resolve.Totality

/-!
# What constraints leave on a schema

Constraints are read one by one and laid over the schema, or over a wrapper of it. Two of the readings
lose something. A bound is read as a double, also where the type is an integer, so only the integers
that are doubles come through; a value of the type integer is read exactly. And a default or an example
is read as a value of the type, but the empty text and the empty list count as nothing and are dropped.
-/

namespace ApiDirectives

open Resolution

/-! ## Laying siblings over a schema -/

/-- The numbers and values that siblings hold are what their constraints were read as. -/
structure Siblings.ReadFrom (s : Schema) (constraints : List (Constraint × String))
    (location : Option Location) (u : Siblings) : Prop where
  lower : ∃ b ns, bound s.primaryType constraints .min location = .ok (b, ns) ∧ u.minimum = b.number
  upper : ∃ b ns, bound s.primaryType constraints .max location = .ok (b, ns) ∧ u.maximum = b.number
  default : ∃ ns, givenValue s constraints .default location = .ok (u.defaultValue, ns)
  sample : ∃ ns, givenValue s constraints .sample location = .ok (u.exampleValue, ns)
  enum : ∃ ns, enumValues s constraints location = .ok (u.enum, ns)

section Overlay

variable (s : Schema) (constraints : List (Constraint × String)) (location : Option Location)
  (description : String)

theorem siblings_readFrom :
    (siblings s constraints location description).Yields fun u _ =>
      u.ReadFrom s constraints location := by
  unfold siblings
  refine yields_bind (yields_self _) fun defaultValue _ hdefault => ?_
  refine yields_bind (yields_self _) fun exampleValue _ hsample => ?_
  refine yields_bind (yields_self _) fun enum _ henum => ?_
  refine yields_bind (yields_self _) fun lower _ hlower => ?_
  refine yields_bind (yields_self _) fun upper _ hupper => ?_
  refine yields_bind (yields_true _) fun _ _ _ => ?_
  refine yields_bind (yields_true _) fun _ _ _ => ?_
  exact yields_pure ⟨⟨_, _, hlower, rfl⟩, ⟨_, _, hupper, rfl⟩, ⟨_, hdefault⟩, ⟨_, hsample⟩, ⟨_, henum⟩⟩

theorem orText_empty (old : String) : orText "" old = old :=
  if_pos rfl

theorem orValue_of_isVoid {new : Value} (h : new.isVoid = true) (old : Value) :
    orValue new old = old :=
  if_pos h

/-- Laying nothing over a schema changes nothing. -/
theorem overlay_of_isEmpty {u : Siblings} (h : u.isEmpty = true) : s.overlay u = s := by
  simp only [Siblings.isEmpty, Bool.and_eq_true, beq_iff_eq, Bool.not_eq_true', List.isEmpty_iff,
    Option.isNone_iff_eq_none] at h
  obtain ⟨⟨⟨⟨⟨⟨⟨⟨⟨⟨hdescription, hformat⟩, hpattern⟩, hnullable⟩, henum⟩, hminimum⟩, hmaximum⟩,
    hminLength⟩, hmaxLength⟩, hdefault⟩, hsample⟩ := h
  cases s
  unfold Schema.overlay
  rw [hdescription, hformat, hpattern, hnullable, henum, hminimum, hmaximum, hminLength, hmaxLength,
    orText_empty, orText_empty, orText_empty, orValue_of_isVoid hdefault, orValue_of_isVoid hsample,
    Bool.or_false]
  rfl

/-- The siblings lie over the schema, or over a wrapper that holds nothing else. -/
theorem withSiblings_overlay (d : Dialect) (u : Siblings) :
    (s.withSiblings d u).Yields fun t _ =>
      t = s.overlay u ∨ t = Schema.overlay { allOf := [s] } u := by
  unfold Schema.withSiblings
  split
  · rename_i hempty
    exact yields_pure (.inl (overlay_of_isEmpty s hempty).symm)
  · split
    · exact yields_pure (.inl rfl)
    · refine yields_typeSets_bind fun typeSets => yields_pure ?_
      split
      · exact .inl rfl
      · exact .inr rfl

/-- A constrained schema is the schema or its wrapper with what was read lying over it. -/
theorem constrain_overlay (d : Dialect) :
    (s.constrain d constraints location description).Yields fun t _ =>
      ∃ u : Siblings, u.ReadFrom s constraints location ∧
        (t = s.overlay u ∨ t = Schema.overlay { allOf := [s] } u) := by
  refine yields_bind (siblings_readFrom s constraints location description) fun u _ hread => ?_
  exact (withSiblings_overlay s d u).mono fun t _ ht => ⟨u, hread, ht⟩

/-- Beside a schema that is no reference, or in a known dialect, constraints can be put. -/
theorem constrain_returns {d : Dialect} (h : s.ref = "" ∨ ∃ b, d = .ok b) :
    (s.constrain d constraints location description).Returns := by
  refine returns_bind (siblings_returns s constraints location description) fun u => ?_
  exact withSiblings_returns_iff.mpr (h.elim (fun href => .inr (.inr href)) .inl)

end Overlay

/-! ## Bounds and numbers -/

/-- The member that a bound of numbers is written as. -/
def Constraint.boundMember? : Constraint → Option String
  | .min => some "minimum"
  | .max => some "maximum"
  | _ => none

/-- A number that can be read is the bound of a type other than a text. -/
theorem bound_of_readFinite {type text : String} {x : Number} (htype : type ≠ "string")
    (hread : readFinite text = some x) {constraints : List (Constraint × String)} {c : Constraint}
    (htext : constraint? constraints c = some text) (location : Option Location) :
    bound type constraints c location = .ok ({ number := some x }, []) := by
  unfold bound
  rw [htext]
  dsimp only
  rw [if_neg htype, hread]
  rfl

/-- The members of a written node for its bounds. -/
theorem get?_members_bound (s : Schema) :
    Table.get? s.members "minimum" = s.minimum.map Number.written ∧
      Table.get? s.members "maximum" = s.maximum.map Number.written := by
  delta Schema.members
  simp [Schema.writtenItems_eq, Table.get?_append]

/-- A bound that can be read is written beside every type but a text. -/
theorem written_bound {s : Schema} (htype : s.primaryType ≠ "string") {text : String} {x : Number}
    (hread : readFinite text = some x) {constraints : List (Constraint × String)} {c : Constraint}
    (htext : constraint? constraints c = some text) {member : String}
    (hmember : c.boundMember? = some member) (d : Dialect) (location : Option Location)
    (description : String) :
    (s.constrain d constraints location description).Yields fun t _ =>
      Table.get? t.members member = some x.written := by
  have hbound := bound_of_readFinite htype hread htext location
  refine (constrain_overlay s constraints location description d).mono ?_
  rintro t _ ⟨u, hu, ht⟩
  -- A bound that is read lies over whatever bound the schema had.
  cases c with
  | min =>
    obtain ⟨b, ns, hlower, hminimum⟩ := hu.lower
    rw [hbound] at hlower
    cases hlower
    cases hmember
    rw [(get?_members_bound t).1]
    rcases ht with rfl | rfl <;> simp [Schema.overlay, hminimum]
  | max =>
    obtain ⟨b, ns, hupper, hmaximum⟩ := hu.upper
    rw [hbound] at hupper
    cases hupper
    cases hmember
    rw [(get?_members_bound t).2]
    rcases ht with rfl | rfl <;> simp [Schema.overlay, hmaximum]
  | _ => cases hmember

/-- Values of a primitive type are read by the type alone. -/
theorem shape_of_primaryType {s : Schema} {type : String} (h : s.primaryType = type)
    (htype : type ≠ "array") : s.shape = .leaf type := by
  cases s
  unfold Schema.shape
  unfold Schema.primaryType at h
  dsimp only at h
  rw [h]
  split
  · exact absurd rfl htype
  · rfl

/-- A text that a primitive type reads gives the value that was read. -/
theorem coerce_of_readPrimitive {s : Schema} {type : String} (h : s.primaryType = type)
    (htype : type ≠ "array") {text : String} {v : Value} (hread : readPrimitive type text = some v)
    (what : String) (location : Option Location) : s.coerce text what location = .ok (v, []) := by
  unfold Schema.coerce
  rw [shape_of_primaryType h htype, ValueShape.coerce, coercePrimitive, hread]
  rfl

/-- A value of the type integer is exact unless it has too many digits, and then it is a text. -/
theorem coerce_integer {s : Schema} (h : s.primaryType = "integer") (w : DecimalText) (what : String)
    (location : Option Location) :
    ∃ v ns, s.coerce w.text what location = .ok (v, ns) ∧
      (v = .int w.value ↔ w.digits.length ≤ Numeral.digitLimit) := by
  have hprimitive : readPrimitive "integer" w.text = (readWhole w.text).map .int := rfl
  unfold Schema.coerce
  rw [shape_of_primaryType h (by decide), ValueShape.coerce, coercePrimitive, hprimitive, readWhole,
    w.readInteger_text]
  by_cases hlong : Numeral.digitLimit < w.digits.length
  · rw [if_pos hlong]
    refine ⟨.str w.text, _, rfl, iff_of_false ?_ (Nat.not_le.mpr hlong)⟩
    intro hv
    cases hv
  · rw [if_neg hlong]
    exact ⟨.int w.value, _, rfl, iff_of_true rfl (Nat.not_lt.mp hlong)⟩

theorem readPrimitive_number {text : String} {x : Number} (h : readFinite text = some x) :
    readPrimitive "number" text = some x.value := by
  rw [readPrimitive, if_neg (by decide), if_pos rfl, h]
  rfl

/-- Integers in bounds and numbers are rounded to the nearest double, so they are exact if and only if
they are doubles. A value of the type integer is exact unless it has too many digits. -/
theorem integers_exact_iff_double (s : Schema)
    (htype : s.primaryType = "integer" ∨ s.primaryType = "number") (w : DecimalText)
    (hsize : w.value.natAbs < 10 ^ 300) (location : Option Location) :
    (∀ (d : Dialect) (constraints : List (Constraint × String)) (description : String)
        (c : Constraint) (member : String),
      s.ref = "" ∨ (∃ b, d = .ok b) → c.boundMember? = some member →
      constraint? constraints c = some w.text →
      ∃ t ns m, s.constrain d constraints location description = .ok (t, ns) ∧
        t.written = .object t.members ∧ Table.get? t.members member = some (.int m) ∧
        IsNearestDouble m w.value ∧ (m = w.value ↔ IsDouble w.value)) ∧
    ∀ what, ∃ v ns, s.coerce w.text what location = .ok (v, ns) ∧
      (s.primaryType = "integer" → (v = .int w.value ↔ w.digits.length ≤ Numeral.digitLimit)) ∧
      (s.primaryType = "number" → ∃ m, v = .int m ∧
        IsNearestDouble m w.value ∧ (m = w.value ↔ IsDouble w.value)) := by
  obtain ⟨m, hread, hnearest⟩ := w.readFinite_text hsize
  refine ⟨?_, ?_⟩
  · intro d constraints description c member hd hmember htext
    have hstring : s.primaryType ≠ "string" := by
      rcases htype with h | h <;> rw [h] <;> decide
    obtain ⟨t, ns, ht⟩ := constrain_returns s constraints location description hd
    refine ⟨t, ns, m, ht, t.written_eq, ?_, hnearest, hnearest.eq_iff⟩
    exact written_bound hstring hread htext hmember d location description t ns ht
  · intro what
    rcases htype with hinteger | hnumber
    · have hother : ¬ s.primaryType = "number" := by rw [hinteger]; decide
      obtain ⟨v, ns, hv, hexact⟩ := coerce_integer hinteger w what location
      exact ⟨v, ns, hv, fun _ => hexact, fun h => absurd h hother⟩
    · have hother : ¬ s.primaryType = "integer" := by rw [hnumber]; decide
      have hcoerce := coerce_of_readPrimitive hnumber (by decide) (readPrimitive_number hread) what
        location
      refine ⟨_, _, hcoerce, fun h => absurd h hother, fun _ => ?_⟩
      exact ⟨m, rfl, hnearest, hnearest.eq_iff⟩

/-- The least integer of 64 bits. -/
def leastInt64 : DecimalText :=
  ⟨true, [9, 2, 2, 3, 3, 7, 2, 0, 3, 6, 8, 5, 4, 7, 7, 5, 8, 0, 8], by decide⟩

/-- The least integer of 64 bits is a double, so it comes through as a bound and as a value. -/
theorem integers_exact_iff_double_at_least_int64 :
    leastInt64.text = "-9223372036854775808" ∧
    (∃ t ns, Schema.constrain (.ok false) { type := ["integer"], format := "int64" }
        [(.min, leastInt64.text)] none "" = .ok (t, ns) ∧
      t.written = .object t.members ∧
      Table.get? t.members "minimum" = some (.int (-9223372036854775808))) ∧
    ∃ v ns, Schema.coerce { type := ["integer"], format := "int64" } leastInt64.text "default" none =
      .ok (v, ns) ∧ v = .int (-9223372036854775808) := by
  have hvalue : leastInt64.value = -9223372036854775808 := by decide
  have hdouble : IsDouble leastInt64.value := ⟨1, 63, by decide, by decide⟩
  have hsize : leastInt64.value.natAbs < 10 ^ 300 :=
    lt_of_lt_of_le (b := 10 ^ 19) (by decide) (pow_le_pow_right₀ (by decide) (by decide))
  obtain ⟨hbound, hcoerce⟩ := integers_exact_iff_double
    { type := ["integer"], format := "int64" } (.inl (by decide)) leastInt64 hsize none
  refine ⟨by decide, ?_, ?_⟩
  · obtain ⟨t, ns, m, ht, hwritten, hmember, _, hexact⟩ :=
      hbound (.ok false) [(.min, leastInt64.text)] "" .min "minimum" (.inl rfl) rfl rfl
    rw [hexact.mpr hdouble, hvalue] at hmember
    exact ⟨t, ns, ht, hwritten, hmember⟩
  · obtain ⟨v, ns, hv, hinteger, _⟩ := hcoerce "default"
    refine ⟨v, ns, hv, ?_⟩
    rw [← hvalue]
    exact (hinteger (by decide)).mpr (by decide)

/-- The first integer that is no double, one above 2^53. -/
def firstLost : DecimalText :=
  ⟨false, [9, 0, 0, 7, 1, 9, 9, 2, 5, 4, 7, 4, 0, 9, 9, 3], by decide⟩

/-- The first integer that is no double comes out as another integer, as a bound of an integer and as
a number. -/
theorem integer_bound_changed :
    firstLost.text = "9007199254740993" ∧ firstLost.value = 9007199254740993 ∧
    (∃ t ns, Schema.constrain (.ok false) { type := ["integer"] } [(.min, firstLost.text)] none "" =
        .ok (t, ns) ∧ Table.get? t.members "minimum" = some (.int 9007199254740992)) ∧
    Schema.coerce { type := ["number"] } firstLost.text "default" none =
      .ok (.int 9007199254740992, []) := by
  have hread : readFinite firstLost.text = some (.int 9007199254740992) := by decide
  have hcoerce := coerce_of_readPrimitive (s := { type := ["number"] }) rfl (by decide)
    (readPrimitive_number hread) "default" none
  refine ⟨by decide, by decide, ?_, hcoerce⟩
  obtain ⟨t, ns, ht⟩ := constrain_returns { type := ["integer"] } [(.min, firstLost.text)] none ""
    (d := .ok false) (.inl rfl)
  exact ⟨t, ns, ht, written_bound (c := .min) (by decide) hread rfl rfl _ _ _ t ns ht⟩

/-! ## Defaults and examples -/

/-- The value that a node holds for a constraint that gives one. -/
def Schema.given? (s : Schema) : Constraint → Option Value
  | .default => some s.defaultValue
  | .sample => some s.exampleValue
  | _ => none

theorem builtinSchema?_given {name : String} {s : Schema} (h : builtinSchema? name = some s) :
    s.defaultValue = .null ∧ s.exampleValue = .null := by
  unfold builtinSchema? at h
  split at h
  · cases h
    exact ⟨rfl, rfl⟩
  · split at h
    · cases h
      exact ⟨rfl, rfl⟩
    · cases h

/-- A written type gives no values. -/
theorem TypeExpr.schema_given (d : Dialect) (location : Option Location) (t : TypeExpr) :
    (t.schema d location).Yields fun s _ => s.defaultValue = .null ∧ s.exampleValue = .null := by
  cases t with
  | name n =>
    unfold TypeExpr.schema
    split
    · rename_i s hbuiltin
      exact yields_pure (builtinSchema?_given hbuiltin)
    · exact yields_bind (yields_true _) fun _ _ _ => yields_pure ⟨rfl, rfl⟩
  | array items =>
    unfold TypeExpr.schema
    exact yields_bind (yields_true _) fun _ _ _ => yields_pure ⟨rfl, rfl⟩
  | union members =>
    unfold TypeExpr.schema
    refine yields_bind (yields_true _) fun ss _ _ => ?_
    unfold unionSchema
    split
    · refine yields_typeSets_bind fun typeSets => yields_pure ?_
      unfold primitiveUnion
      dsimp only
      split <;> exact ⟨rfl, rfl⟩
    · exact yields_pure ⟨rfl, rfl⟩

/-- Whether a text has nothing in it for a shape: no character, or no element that is not blank. -/
def ValueShape.holdsNothing : ValueShape → String → Bool
  | .leaf _, text => text == ""
  | .array _, text => (commaPieces text).all (· == "")

/-- What a primitive type reads is not null, and void only if the text is. -/
theorem readPrimitive_isVoid {type text : String} {v : Value} (h : readPrimitive type text = some v) :
    v.isNull = false ∧ v.isVoid = (text == "") := by
  have hwhole : readWhole "" = none := by decide
  have hfinite : readFinite "" = none := by decide
  have htruth : readTruth "" = none := by decide
  -- A text that is read as something else than a text has a character.
  have hother : ∀ {α : Type} {read : String → Option α} {a : α}, read "" = none → read text = some a →
      (text == "") = false := by
    intro α read a hempty hread
    rw [beq_eq_false_iff_ne]
    rintro rfl
    rw [hempty] at hread
    cases hread
  unfold readPrimitive at h
  split at h
  · obtain ⟨n, hread, rfl⟩ := Option.map_eq_some_iff.mp h
    exact ⟨rfl, (hother hwhole hread).symm⟩
  · split at h
    · obtain ⟨x, hread, rfl⟩ := Option.map_eq_some_iff.mp h
      rw [hother hfinite hread]
      cases x <;> exact ⟨rfl, rfl⟩
    · split at h
      · obtain ⟨b, hread, rfl⟩ := Option.map_eq_some_iff.mp h
        exact ⟨rfl, (hother htruth hread).symm⟩
      · cases h
        exact ⟨rfl, rfl⟩

/-- What a shape reads is not null, and void exactly if the text has nothing in it. -/
theorem ValueShape.coerce_isVoid (what : String) (location : Option Location) (shape : ValueShape)
    (text : String) : (shape.coerce what location text).Yields fun v _ =>
      v.isNull = false ∧ v.isVoid = shape.holdsNothing text := by
  cases shape with
  | leaf type =>
    unfold ValueShape.coerce coercePrimitive
    split
    · rename_i v hread
      exact yields_pure (readPrimitive_isVoid hread)
    · exact yields_bind (yields_true _) fun _ _ _ => yields_pure ⟨rfl, rfl⟩
  | array items =>
    unfold ValueShape.coerce
    refine yields_bind (yields_each_length _ _) ?_
    intro vs _ hlength
    refine yields_pure ⟨rfl, ?_⟩
    have hnil : vs = [] ↔ (commaPieces text).filter (· != "") = [] := by
      rw [← List.length_eq_zero_iff, hlength, List.length_eq_zero_iff]
    rw [Bool.eq_iff_iff, ValueShape.holdsNothing, List.all_eq_true]
    rw [List.filter_eq_nil_iff] at hnil
    cases vs with
    | nil => simpa [Value.isVoid] using hnil.mp rfl
    | cons v vs => simpa [Value.isVoid] using hnil

/-- Only the empty text and the empty list count as nothing, null apart. -/
theorem isVoid_iff_of_not_null {v : Value} (h : v.isNull = false) :
    v.isVoid = true ↔ v = .str "" ∨ v = .list [] := by
  cases v with
  | null => cases h
  | str s => simp [Value.isVoid]
  | list vs => cases vs <;> simp [Value.isVoid]
  | _ => simp [Value.isVoid]

/-- A constrained type holds the value that was read, unless the value is void. -/
theorem given_of_constrain {s : Schema} (hbare : s.defaultValue = .null ∧ s.exampleValue = .null)
    {constraints : List (Constraint × String)} {c : Constraint} (hc : c = .default ∨ c = .sample)
    {text : String} (htext : constraint? constraints c = some text) {location : Option Location}
    {v : Value} {ns : List Notice} (hv : s.coerce text c.key location = .ok (v, ns)) (d : Dialect)
    (description : String) :
    (s.constrain d constraints location description).Yields fun t _ =>
      t.given? c = some (orValue v .null) := by
  have hgiven : givenValue s constraints c location = .ok (v, ns) := by
    rw [givenValue, htext]
    exact hv
  refine (constrain_overlay s constraints location description d).mono ?_
  rintro t _ ⟨u, hu, ht⟩
  -- Below the value there is nothing, in the type and in a wrapper alike.
  rcases hc with rfl | rfl
  · obtain ⟨ms, hdefault⟩ := hu.default
    rw [hgiven] at hdefault
    cases hdefault
    rcases ht with rfl | rfl <;> simp [Schema.given?, Schema.overlay, hbare.1]
  · obtain ⟨ms, hsample⟩ := hu.sample
    rw [hgiven] at hsample
    cases hsample
    rcases ht with rfl | rfl <;> simp [Schema.given?, Schema.overlay, hbare.2]

/-- A default or an example beside a type becomes what the type reads it as, unless that is the empty
text or the empty list; then it is dropped. It is one of them exactly if the text has nothing in it. -/
theorem given_value_kept_iff (version type description : String)
    (constraints : List (Constraint × String)) (location : Location)
    (hresolves : (∃ b, Dialect.of version = .ok b) ∨
      slotAsks type constraints description false = false)
    (c : Constraint) (hc : c = .default ∨ c = .sample) (text : String)
    (htext : constraint? constraints c = some text) :
    ∃ s ns v ms t ks,
      resolveType (Dialect.of version) type (some location) = .ok (s, ns) ∧
      s.coerce text c.key (some location) = .ok (v, ms) ∧
      s.constrain (Dialect.of version) constraints (some location) description = .ok (t, ks) ∧
      (t.given? c = some v ↔ v ≠ .str "" ∧ v ≠ .list []) ∧
      (v = .str "" ∨ v = .list [] → t.given? c = some .null) ∧
      (v = .str "" ∨ v = .list [] ↔ s.shape.holdsNothing text = true) := by
  obtain ⟨_, _, hslot⟩ := (resolveSlot_returns_iff type constraints description false location).mpr
    hresolves
  obtain ⟨s, ns, hs, hrest⟩ := returns_bind_iff.mp ⟨_, _, hslot⟩
  obtain ⟨t, ks, ht, _⟩ := returns_bind_iff.mp hrest
  obtain ⟨v, ms, hv⟩ := ValueShape.coerce_returns (some location) c.key s.shape text
  obtain ⟨hnull, hvoid⟩ := ValueShape.coerce_isVoid c.key (some location) s.shape text v ms hv
  have hbare := TypeExpr.schema_given _ _ _ s ns hs
  have hgiven := given_of_constrain hbare hc htext hv _ description t ks ht
  have hempty := isVoid_iff_of_not_null hnull
  refine ⟨s, ns, v, ms, t, ks, hs, hv, ht, ?_, ?_, ?_⟩
  · -- What was read is never null, so a value that is dropped is told from one that is kept.
    rw [hgiven, ← not_or, ← hempty]
    unfold orValue
    split
    · rename_i hlost
      refine iff_of_false ?_ (not_not.mpr hlost)
      intro hkept
      rw [← Option.some.inj hkept] at hnull
      cases hnull
    · rename_i hkept
      exact iff_of_true rfl hkept
  · intro hlost
    rw [hgiven, orValue_of_isVoid (hempty.mpr hlost)]
  · rw [← hempty, hvoid]

/-- The truth value false is kept as a default. -/
theorem given_value_kept_at_false :
    let line := "!query q:bool default=false"
    Remark.ofLine? line =
        some ⟨line, .parameter .query ⟨"q", "bool", "", false, false, [(.default, "false")]⟩⟩ ∧
      ∃ s ns t ks,
        resolveType (Dialect.of "3.0.3") "bool" (some ⟨"a.py", 1⟩) = .ok (s, ns) ∧
        s.coerce "false" "default" (some ⟨"a.py", 1⟩) = .ok (.bool false, []) ∧
        s.constrain (Dialect.of "3.0.3") [(.default, "false")] (some ⟨"a.py", 1⟩) "" = .ok (t, ks) ∧
        t.given? .default = some (.bool false) := by
  intro line
  have htype : (resolveType (Dialect.of "3.0.3") "bool" (some ⟨"a.py", 1⟩)).toOption.map
      (fun resolved => resolved.1.primaryType) = some "boolean" := by
    decide +kernel
  obtain ⟨s, ns, v, ms, t, ks, hs, hv, ht, hkept, _⟩ := given_value_kept_iff "3.0.3" "bool" ""
    [(.default, "false")] ⟨"a.py", 1⟩ (.inl ⟨false, dialects_told.1⟩) .default (.inl rfl) "false" rfl
  rw [hs] at htype
  have hfalse : readPrimitive "boolean" "false" = some (.bool false) := rfl
  have hread := coerce_of_readPrimitive (Option.some.inj htype) (by decide) hfalse "default"
    (some ⟨"a.py", 1⟩)
  obtain rfl : v = .bool false := by
    rw [show Constraint.default.key = "default" from rfl, hread] at hv
    cases hv
    rfl
  refine ⟨by decide, s, ns, t, ks, hs, hread, ht, hkept.mpr ⟨?_, ?_⟩⟩
  · intro h
    cases h
  · intro h
    cases h

/-- The empty text is dropped as a default. -/
theorem empty_default_dropped :
    let line := "!query q:string default=\"\""
    Remark.ofLine? line =
        some ⟨line, .parameter .query ⟨"q", "string", "", false, false, [(.default, "")]⟩⟩ ∧
      ∃ s ns t ks,
        resolveType (Dialect.of "3.0.3") "string" (some ⟨"a.py", 1⟩) = .ok (s, ns) ∧
        s.coerce "" "default" (some ⟨"a.py", 1⟩) = .ok (.str "", []) ∧
        s.constrain (Dialect.of "3.0.3") [(.default, "")] (some ⟨"a.py", 1⟩) "" = .ok (t, ks) ∧
        t.given? .default = some .null := by
  intro line
  have htype : (resolveType (Dialect.of "3.0.3") "string" (some ⟨"a.py", 1⟩)).toOption.map
      (fun resolved => (resolved.1.primaryType, resolved.1.ref)) = some ("string", "") := by
    decide +kernel
  obtain ⟨⟨s, ns⟩, hs, hlook⟩ := exists_ok_of_toOption htype
  obtain ⟨hprimary, href⟩ := Prod.ext_iff.mp hlook
  have hempty : readPrimitive "string" "" = some (.str "") := rfl
  have hread := coerce_of_readPrimitive hprimary (by decide) hempty "default" (some ⟨"a.py", 1⟩)
  obtain ⟨t, ks, ht⟩ := constrain_returns s [(.default, "")] (some ⟨"a.py", 1⟩) ""
    (d := Dialect.of "3.0.3") (.inl href)
  have hbare := TypeExpr.schema_given _ _ _ s ns hs
  refine ⟨by decide, s, ns, t, ks, hs, hread, ht, ?_⟩
  exact given_of_constrain hbare (.inl rfl) rfl hread _ "" t ks ht

end ApiDirectives
