import ApiDirectives.Proofs.Resolve.Passes
import ApiDirectives.Proofs.Resolve.References
import ApiDirectives.Proofs.Resolve.Types
import ApiDirectives.Proofs.Resolve.Version

/-!
# Resolvers with a history

A resolver that is asked for one type after another has a memory: it reports a name when it first meets
it, in the middle of a union or an array, and keeps silent about it from then on. `Resolver.resolve`
goes through a type with this memory in hand. The memory decides nothing but what is reported, so
resolvers of one version give the same schemas whatever their drafts and their histories are, and
settling the notices of `TypeExpr.schema` afterwards comes to the same reports. After any calls,
`Resolver.Told` says what was reported: each undeclared name that some call refers to, once, where it was
first referred to.
-/

namespace ApiDirectives

open Resolution

/-- Notices are settled one after another. -/
theorem settle_append (declared reported : List String) (ns ms : List Notice) :
    settle declared reported (ns ++ ms) =
      ((settle declared reported ns).1 ++ (settle declared (settle declared reported ns).2 ms).1,
        (settle declared (settle declared reported ns).2 ms).2) := by
  induction ns generalizing reported with
  | nil => rfl
  | cons n ns ih =>
    cases n with
    | finding d => simp only [List.cons_append, settle, ih]
    | reference name location =>
      simp only [List.cons_append, settle]
      split
      · exact ih reported
      · simp only [ih, List.cons_append]

/-- A resolver between two calls: its draft and the version that is meant if the draft has none, the
names that it has reported, and what it has found. -/
structure Resolver where
  draft : Draft
  fallback : String
  reported : List String := []
  findings : List Diagnostic := []

/-- A call of a resolver: a written type, and the place of it. -/
structure Call where
  token : String
  location : Option Location

namespace Resolver

/-- The version in effect. -/
def version (r : Resolver) : String :=
  r.draft.version r.fallback

/-- The dialect of the version in effect. -/
def dialect (r : Resolver) : Dialect :=
  .of r.version

/-- Meets a reference, and reports its name unless that is declared or reported already. -/
def refer (r : Resolver) (name : String) (location : Option Location) : Resolver :=
  if r.draft.models.keys.contains name || r.reported.contains name then r
  else
    { r with
      reported := name :: r.reported
      findings := r.findings ++ [⟨.undeclaredSchema name, location⟩] }

mutual

/-- The schema of a type, with references reported as they are met. -/
def resolve (r : Resolver) (location : Option Location) :
    TypeExpr → Except VersionFault Schema × Resolver
  | .name n =>
    match builtinSchema? n with
    | some s => (.ok s, r)
    | none => (.ok (Schema.reference n), r.refer n location)
  | .array items =>
    let (s, r) := resolve r location items
    (s.map Schema.arrayOf, r)
  | .union members =>
    match resolveEach r location members with
    | (.error e, r) => (.error e, r)
    | (.ok ss, r) =>
      if ss.all Schema.isPlainPrimitive then (r.dialect.map (primitiveUnion · ss), r)
      else (.ok { oneOf := ss }, r)

/-- The schemas of types, one after another. -/
def resolveEach (r : Resolver) (location : Option Location) :
    List TypeExpr → Except VersionFault (List Schema) × Resolver
  | [] => (.ok [], r)
  | t :: ts =>
    match resolve r location t with
    | (.error e, r) => (.error e, r)
    | (.ok s, r) =>
      let (ss, r) := resolveEach r location ts
      (ss.map (s :: ·), r)

end

/-- Answers a call. -/
def answer (r : Resolver) (call : Call) : Except VersionFault Schema × Resolver :=
  r.resolve call.location (.ofString call.token)

/-- The resolver after some calls. -/
def run (r : Resolver) : List Call → Resolver
  | [] => r
  | call :: calls => (r.answer call).2.run calls

/-- The answers to some calls. -/
def answers (r : Resolver) : List Call → List (Except VersionFault Schema)
  | [] => []
  | call :: calls => (r.answer call).1 :: (r.answer call).2.answers calls

/-! ## Two resolvers of one version -/

theorem version_refer (r : Resolver) (name : String) (location : Option Location) :
    (r.refer name location).version = r.version := by
  unfold refer
  split
  · rfl
  · rfl

theorem dialect_congr {r r' : Resolver} (h : r.version = r'.version) : r.dialect = r'.dialect := by
  rw [dialect, dialect, h]

variable (location location' : Option Location)

mutual

/-- Resolvers of one version give a type one schema, and stay resolvers of one version. -/
theorem resolve_twins {r r' : Resolver} (h : r.version = r'.version) : (t : TypeExpr) →
    (r.resolve location t).1 = (r'.resolve location' t).1 ∧
      (r.resolve location t).2.version = (r'.resolve location' t).2.version
  | .name n => by
    unfold resolve
    split
    · exact ⟨rfl, h⟩
    · exact ⟨rfl, by rw [version_refer, version_refer, h]⟩
  | .array items => by
    unfold resolve
    obtain ⟨hfst, hversion⟩ := resolve_twins h items
    exact ⟨congrArg (Except.map Schema.arrayOf) hfst, hversion⟩
  | .union members => by
    unfold resolve
    obtain ⟨hfst, hversion⟩ := resolveEach_twins h members
    -- Only the members' schemas and the version are looked at, and both are the same.
    generalize r.resolveEach location members = x at hfst hversion ⊢
    generalize r'.resolveEach location' members = x' at hfst hversion ⊢
    obtain ⟨answer, q⟩ := x
    obtain ⟨answer', q'⟩ := x'
    dsimp only at hfst hversion
    subst hfst
    cases answer with
    | error e => exact ⟨rfl, hversion⟩
    | ok ss =>
      dsimp only
      split
      · exact ⟨by rw [dialect_congr hversion], hversion⟩
      · exact ⟨rfl, hversion⟩

theorem resolveEach_twins {r r' : Resolver} (h : r.version = r'.version) : (ts : List TypeExpr) →
    (r.resolveEach location ts).1 = (r'.resolveEach location' ts).1 ∧
      (r.resolveEach location ts).2.version = (r'.resolveEach location' ts).2.version
  | [] => by
    unfold resolveEach
    exact ⟨rfl, h⟩
  | t :: ts => by
    unfold resolveEach
    obtain ⟨hfst, hversion⟩ := resolve_twins h t
    generalize r.resolve location t = x at hfst hversion ⊢
    generalize r'.resolve location' t = x' at hfst hversion ⊢
    obtain ⟨answer, q⟩ := x
    obtain ⟨answer', q'⟩ := x'
    dsimp only at hfst hversion
    subst hfst
    cases answer with
    | error e => exact ⟨rfl, hversion⟩
    | ok s =>
      obtain ⟨hrest, hlast⟩ := resolveEach_twins hversion ts
      exact ⟨congrArg (Except.map (s :: ·)) hrest, hlast⟩

end

/-- Resolvers of one version give the same answers to calls for the same types. -/
theorem answers_twins {r r' : Resolver} (h : r.version = r'.version) {calls calls' : List Call}
    (hcalls : calls.map Call.token = calls'.map Call.token) :
    r.answers calls = r'.answers calls' := by
  induction calls generalizing r r' calls' with
  | nil =>
    rw [List.map_eq_nil_iff.mp hcalls.symm]
    rfl
  | cons call calls ih =>
    obtain ⟨call', rest, rfl, htoken, hrest⟩ := List.map_eq_cons_iff.mp hcalls.symm
    have htwins := resolve_twins call.location call'.location h (.ofString call.token)
    have hanswer : r'.answer call' = r'.resolve call'.location (.ofString call.token) := by
      rw [answer, htoken]
    rw [answers, answers, hanswer, ← htwins.1, answer]
    exact congrArg _ (ih htwins.2 hrest.symm)

/-! ## Notices that are settled afterwards -/

/-- The resolver after some notices are settled. -/
def settled (r : Resolver) (ns : List Notice) : Resolver :=
  { r with
    reported := (settle r.draft.models.keys r.reported ns).2
    findings := r.findings ++ (settle r.draft.models.keys r.reported ns).1 }

theorem settled_nil (r : Resolver) : r.settled [] = r := by
  simp [settled, settle]

theorem settled_reference (r : Resolver) (name : String) :
    r.settled [.reference name location] = r.refer name location := by
  unfold settled refer settle
  split
  · simp [settle]
  · simp [settle]

theorem settled_append (r : Resolver) (ns ms : List Notice) :
    r.settled (ns ++ ms) = (r.settled ns).settled ms := by
  simp [settled, settle_append]

/-- What a resolution comes to: its result, with its notices settled, or its fault, with nothing
reported. -/
def after {α : Type} (r : Resolver) (x : Resolution α) : Except VersionFault α × Resolver :=
  match x with
  | .error e => (.error e, r)
  | .ok (a, ns) => (.ok a, r.settled ns)

theorem dialect_settled (r : Resolver) (ns : List Notice) : (r.settled ns).dialect = r.dialect := rfl

/-- Members of a union are resolved without a fault. -/
theorem resolve_member {t : TypeExpr} (h : t.IsMember) {r : Resolver} {s : Schema}
    {ns : List Notice} (hs : t.schema r.dialect location = .ok (s, ns)) :
    r.resolve location t = (.ok s, r.settled ns) := by
  induction h generalizing s ns with
  | name n =>
    rw [TypeExpr.schema] at hs
    rw [resolve]
    cases hbuiltin : builtinSchema? n with
    | some s' =>
      rw [hbuiltin] at hs
      cases hs
      rw [settled_nil]
    | none =>
      rw [hbuiltin] at hs
      cases hs
      rw [← settled_reference]
      rfl
  | array _ ih =>
    rw [TypeExpr.schema] at hs
    obtain ⟨item, before, later, hitem, hpure, rfl⟩ := bind_eq_ok_iff.mp hs
    cases hpure
    rw [resolve, ih hitem, List.append_nil]
    rfl

theorem resolveEach_members {ts : List TypeExpr} (h : ∀ t ∈ ts, t.IsMember) {r : Resolver}
    {ss : List Schema} {ns : List Notice}
    (hss : TypeExpr.schemas r.dialect location ts = .ok (ss, ns)) :
    r.resolveEach location ts = (.ok ss, r.settled ns) := by
  induction ts generalizing r ss ns with
  | nil =>
    cases hss
    rw [settled_nil]
    rfl
  | cons t ts ih =>
    obtain ⟨ht, hts⟩ := List.forall_mem_cons.mp h
    rw [TypeExpr.schemas] at hss
    obtain ⟨s, before, later, hs, hlater, rfl⟩ := bind_eq_ok_iff.mp hss
    obtain ⟨rest, between, last, hrest, hpure, rfl⟩ := bind_eq_ok_iff.mp hlater
    cases hpure
    have hnext : (r.settled before).resolveEach location ts =
        (.ok rest, (r.settled before).settled between) := ih hts hrest
    rw [resolveEach, resolve_member location ht hs]
    dsimp only
    rw [hnext, List.append_nil, settled_append]
    rfl

/-- A union of plain primitives has nothing to report. -/
theorem notices_of_plain {d : Dialect} {ts : List TypeExpr} {ss : List Schema} {ns : List Notice}
    (hss : TypeExpr.schemas d location ts = .ok (ss, ns))
    (hplain : ss.all Schema.isPlainPrimitive = true) : ns = [] := by
  obtain ⟨hrecords, hnone⟩ := TypeExpr.schemas_recorded d location ts ss ns hss
  have honly := TypeExpr.schemas_only d location ts ss ns hss
  have hrefs : ss.flatMap Schema.refNames = [] := by
    refine List.flatMap_eq_nil_iff.mpr fun s hs => ?_
    exact hnone s hs (List.all_eq_true.mp hplain s hs)
  have hreferenced : referenced ns = [] := by
    have hperm := hrecords.perm
    rw [hrefs] at hperm
    exact hperm.eq_nil
  refine List.eq_nil_iff_forall_not_mem.mpr fun n hn => ?_
  obtain ⟨name, rfl⟩ := honly n hn
  have hmem : name ∈ referenced ns := List.mem_filterMap.mpr ⟨_, hn, rfl⟩
  rw [hreferenced] at hmem
  cases hmem

/-- Reporting references as they are met comes to the same as settling the notices in the end: a fault
is met only where there was nothing to report. -/
theorem resolve_eq_after {t : TypeExpr} (h : t.IsWritten) (r : Resolver) :
    r.resolve location t = r.after (t.schema r.dialect location) := by
  induction h with
  | name n =>
    obtain ⟨s, ns, hs, _⟩ := TypeExpr.schema_member r.dialect location (.name n)
    rw [hs]
    exact resolve_member location (.name n) hs
  | @array t _ ih =>
    rw [resolve, ih, TypeExpr.schema]
    rcases t.schema r.dialect location with e | ⟨s, ns⟩
    · rfl
    · change (Except.ok (Schema.arrayOf s), r.settled ns) =
        (Except.ok (Schema.arrayOf s), r.settled (ns ++ []))
      rw [List.append_nil]
  | @union ts hmembers =>
    obtain ⟨ss, ns, hss, _⟩ := TypeExpr.schemas_members r.dialect location hmembers
    have hunion : (TypeExpr.union ts).schema r.dialect location =
        Resolution.bind (.ok (ss, ns)) (unionSchema r.dialect) := by
      rw [TypeExpr.schema, hss]
      rfl
    rw [resolve, resolveEach_members location hmembers hss, hunion]
    unfold unionSchema Resolution.bind
    dsimp only
    split
    · -- The version is asked for, and with a fault the notices are lost; but there are none.
      rename_i hplain
      have hns : ns = [] := notices_of_plain location hss hplain
      subst hns
      rw [settled_nil]
      cases r.dialect with
      | error e => rfl
      | ok typeSets =>
        change _ = (_, r.settled [])
        rw [settled_nil]
        rfl
    · change _ = (_, r.settled (ns ++ []))
      rw [List.append_nil]

/-- A call is answered with the schema of its type, and only what that notices is settled. -/
theorem answer_eq (r : Resolver) (call : Call) :
    r.answer call =
      ((resolveType r.dialect call.token call.location).map Prod.fst,
        r.settled (resolveType r.dialect call.token call.location).noted) := by
  rw [answer, resolve_eq_after call.location (TypeExpr.isWritten_ofString call.token), ← resolveType]
  rcases resolveType r.dialect call.token call.location with e | ⟨s, ns⟩
  · rw [noted, settled_nil]
    rfl
  · rfl

theorem answers_eq (r : Resolver) (calls : List Call) :
    r.answers calls =
      calls.map fun call => (resolveType r.dialect call.token call.location).map Prod.fst := by
  induction calls generalizing r with
  | nil => rfl
  | cons call calls ih =>
    rw [answers, ih, answer_eq, dialect_settled]
    rfl

theorem version_run (r : Resolver) (calls : List Call) : (r.run calls).version = r.version := by
  induction calls generalizing r with
  | nil => rfl
  | cons call calls ih =>
    rw [run, ih, answer_eq]
    rfl

end Resolver

/-! ## What is reported -/

/-- The names that count as reported are the ones from before and those that are reported now. -/
theorem mem_reported_settle (declared : List String) {ns : List Notice} (reported : List String)
    (h : ∀ d, .finding d ∈ ns → d.undeclared? = none) (name : String) :
    name ∈ (settle declared reported ns).2 ↔
      name ∈ reported ∨ name ∈ undeclaredNames (settle declared reported ns).1 := by
  induction ns generalizing reported with
  | nil => simp [settle, undeclaredNames]
  | cons n ns ih =>
    have htail : ∀ d, .finding d ∈ ns → d.undeclared? = none := fun d hd =>
      h d (List.mem_cons_of_mem _ hd)
    cases n with
    | finding d =>
      have hd : d.undeclared? = none := h d List.mem_cons_self
      simpa [settle, undeclaredNames, hd] using ih reported htail
    | reference other location =>
      unfold settle
      split
      · exact ih reported htail
      · refine (ih (other :: reported) htail).trans ?_
        simp only [undeclaredNames, List.filterMap_cons, Diagnostic.undeclared?, List.mem_cons]
        tauto

/-- The names that the schema of a call refers to. -/
def Call.names (d : Dialect) (call : Call) : List String :=
  match resolveType d call.token call.location with
  | .error _ => []
  | .ok (s, _) => s.refNames

/-- What a call notices are references, namely to its names and at its place. -/
theorem Call.noted_records (d : Dialect) (call : Call) :
    Records (resolveType d call.token call.location).noted (call.names d) := by
  unfold Call.names
  rcases hresolve : resolveType d call.token call.location with e | ⟨s, ns⟩
  · exact Records.nil
  · exact resolveType_refers d call.token call.location s ns hresolve

theorem Call.noted_only (d : Dialect) (call : Call) :
    ∀ n ∈ (resolveType d call.token call.location).noted, n.RefersAt call.location :=
  Yields.noted (TypeExpr.schema_only d call.location (.ofString call.token)) (by simp)

/-- After some calls, a resolver has reported each undeclared name that one of them refers to, once,
at the place of the first call that does; and it has found nothing else. -/
structure Resolver.Told (declared : List String) (d : Dialect) (calls : List Call) (r : Resolver) :
    Prop where
  reported_iff : ∀ name, name ∈ r.reported ↔ name ∈ undeclaredNames r.findings
  names_iff : ∀ name, name ∈ undeclaredNames r.findings ↔
    name ∉ declared ∧ ∃ call ∈ calls, name ∈ call.names d
  once : (undeclaredNames r.findings).Nodup
  first : ∀ finding ∈ r.findings, ∃ name before call later,
    calls = before ++ call :: later ∧ name ∈ call.names d ∧
      (∀ earlier ∈ before, name ∉ earlier.names d) ∧
      finding = ⟨.undeclaredSchema name, call.location⟩

namespace Resolver

theorem Told.nil (draft : Draft) (fallback : String) (d : Dialect) :
    Told draft.models.keys d [] { draft, fallback } where
  reported_iff := by simp [undeclaredNames]
  names_iff := by simp [undeclaredNames]
  once := List.nodup_nil
  first := by simp

/-- What a call changes: the undeclared names it refers to are reported, at its place, unless they were
reported already. -/
theorem answer_reports (r : Resolver) (call : Call) :
    ∃ reported found,
      (r.answer call).2 = { r with reported, findings := r.findings ++ found } ∧
      (∀ name, name ∈ reported ↔ name ∈ r.reported ∨ name ∈ undeclaredNames found) ∧
      (∀ name, name ∈ undeclaredNames found ↔
        name ∈ call.names r.dialect ∧ name ∉ r.draft.models.keys ∧ name ∉ r.reported) ∧
      (undeclaredNames found).Nodup ∧
      ∀ finding ∈ found, ∃ name, finding = ⟨.undeclaredSchema name, call.location⟩ := by
  have hrecords := call.noted_records r.dialect
  have honly := call.noted_only r.dialect
  rw [answer_eq]
  generalize (resolveType r.dialect call.token call.location).noted = ns at hrecords honly ⊢
  obtain ⟨hnodup, hmem⟩ := undeclaredNames_settle r.draft.models.keys r.reported hrecords.unreported
  refine ⟨_, _, rfl, mem_reported_settle _ _ hrecords.unreported, ?_, hnodup, ?_⟩
  · intro name
    rw [hmem, hrecords.perm.mem_iff]
  · apply forall_mem_settle
    · intro d hd
      obtain ⟨name, hreference⟩ := honly _ hd
      cases hreference
    · intro name location hn
      obtain ⟨name, hreference⟩ := honly _ hn
      cases hreference
      exact ⟨name, rfl⟩

/-- A further call is told like the others: what is reported now is not reported before, and so no
earlier call refers to it. -/
theorem Told.answer {calls : List Call} {r : Resolver}
    (h : Told r.draft.models.keys r.dialect calls r) (call : Call) :
    Told r.draft.models.keys r.dialect (calls ++ [call]) (r.answer call).2 := by
  obtain ⟨reported, found, hanswer, hreported, hnew, hnodup, hat⟩ := r.answer_reports call
  have hnames : undeclaredNames (r.findings ++ found) =
      undeclaredNames r.findings ++ undeclaredNames found :=
    List.filterMap_append
  rw [hanswer]
  refine ⟨?_, ?_, ?_, ?_⟩
  · intro name
    rw [hreported, hnames, List.mem_append, h.reported_iff]
  · intro name
    have hsplit : (∃ c ∈ calls ++ [call], name ∈ c.names r.dialect) ↔
        (∃ c ∈ calls, name ∈ c.names r.dialect) ∨ name ∈ call.names r.dialect := by
      simp [or_and_right, exists_or]
    rw [hnames, List.mem_append, hnew, hsplit]
    constructor
    · rintro (hold | ⟨hcall, hdeclared, -⟩)
      · obtain ⟨hdeclared, hearlier⟩ := (h.names_iff name).mp hold
        exact ⟨hdeclared, .inl hearlier⟩
      · exact ⟨hdeclared, .inr hcall⟩
    · rintro ⟨hdeclared, hearlier | hcall⟩
      · exact .inl ((h.names_iff name).mpr ⟨hdeclared, hearlier⟩)
      · -- A name of this call is old or new.
        by_cases hknown : name ∈ r.reported
        · exact .inl ((h.reported_iff name).mp hknown)
        · exact .inr ⟨hcall, hdeclared, hknown⟩
  · rw [hnames]
    refine h.once.append hnodup fun name hold hname => ?_
    exact ((hnew name).mp hname).2.2 ((h.reported_iff name).mpr hold)
  · intro finding hfinding
    rcases List.mem_append.mp hfinding with hold | hfound
    · obtain ⟨name, before, early, later, rfl, hrefers, hfirst, rfl⟩ := h.first finding hold
      exact ⟨name, before, early, later ++ [call], by simp, hrefers, hfirst, rfl⟩
    · obtain ⟨name, rfl⟩ := hat finding hfound
      have hname : name ∈ undeclaredNames found := List.mem_filterMap.mpr ⟨_, hfound, rfl⟩
      obtain ⟨hrefers, hdeclared, hunreported⟩ := (hnew name).mp hname
      refine ⟨name, calls, call, [], rfl, hrefers, fun earlier hearlier hagain => hunreported ?_, rfl⟩
      exact (h.reported_iff name).mpr
        ((h.names_iff name).mpr ⟨hdeclared, earlier, hearlier, hagain⟩)

theorem Told.run {done : List Call} {r : Resolver}
    (h : Told r.draft.models.keys r.dialect done r) (calls : List Call) :
    Told r.draft.models.keys r.dialect (done ++ calls) (r.run calls) := by
  induction calls generalizing done r with
  | nil => rwa [List.append_nil]
  | cons call calls ih =>
    have hstep := h.answer call
    rw [answer_eq] at hstep
    rw [Resolver.run, answer_eq, List.append_cons]
    exact ih (r := r.settled _) hstep

end Resolver

/-- The memory of a resolver decides nothing but what it reports. Resolvers of one version, whatever
their drafts and their earlier calls, answer calls for the same types alike, namely with the schemas of
the types; and a new resolver has reported, after any calls, each undeclared name that one of them
refers to, once, at the place of the first call that does. -/
theorem resolver_memory_only_reports :
    (∀ (r r' : Resolver) (history history' calls calls' : List Call), r.version = r'.version →
      calls.map Call.token = calls'.map Call.token →
        (r.run history).answers calls = (r'.run history').answers calls') ∧
    (∀ (r : Resolver) (calls : List Call), r.answers calls =
      calls.map fun call => (resolveType r.dialect call.token call.location).map Prod.fst) ∧
    ∀ (draft : Draft) (fallback : String) (calls : List Call),
      Resolver.Told draft.models.keys (.of (draft.version fallback)) calls
        (({ draft, fallback } : Resolver).run calls) := by
  refine ⟨?_, Resolver.answers_eq, ?_⟩
  · intro r r' history history' calls calls' hversion htokens
    refine Resolver.answers_twins ?_ htokens
    rw [Resolver.version_run, Resolver.version_run, hversion]
  · intro draft fallback calls
    exact Resolver.Told.run (r := { draft, fallback }) (.nil draft fallback _) calls

/-- A resolver that knows no model and has reported two names, and one that declares a model and has
answered nothing yet. -/
theorem resolver_memory_only_reports_at_two_drafts :
    let bare : Resolver := { draft := {}, fallback := "3.1.0" }
    let declaring : Resolver :=
      { draft :=
          { header := { openapi := "3.1.0" }
            models := [("Pet", { name := "Pet", location := ⟨"api.py", 9⟩ })] }
        fallback := "3.0.3" }
    let history : List Call :=
      [⟨"Owner|Pet[]", some ⟨"api.py", 3⟩⟩, ⟨"int|null", none⟩, ⟨"Pet", some ⟨"api.py", 5⟩⟩]
    (bare.run history).answers [⟨"Pet|null", none⟩, ⟨"int|null", none⟩] =
        (declaring.run []).answers [⟨"Pet|null", some ⟨"api.py", 7⟩⟩, ⟨"int|null", none⟩] ∧
      (bare.run history).findings =
        [⟨.undeclaredSchema "Owner", some ⟨"api.py", 3⟩⟩,
          ⟨.undeclaredSchema "Pet", some ⟨"api.py", 3⟩⟩] ∧
      Resolver.Told [] (.ok true) history (bare.run history) := by
  intro bare declaring history
  refine ⟨?_, by decide +kernel, ?_⟩
  · exact resolver_memory_only_reports.1 bare declaring history [] _ _ (by decide) rfl
  · have hdialect : Dialect.of (bare.draft.version bare.fallback) = .ok true := dialects_told.2
    rw [← hdialect]
    exact resolver_memory_only_reports.2.2 bare.draft bare.fallback history

end ApiDirectives
