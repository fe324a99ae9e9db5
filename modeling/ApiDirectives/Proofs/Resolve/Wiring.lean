import ApiDirectives.Proofs.Assembly.Schemes
import ApiDirectives.Proofs.Resolve.Notes

/-!
# Security schemes in a document

Operations name the schemes that they require, and schemes and scopes are declared elsewhere, or not at
all. The resolver brings them together: `SecurityWired` states what becomes of them in a document and
which gaps are reported. It speaks of the directives that declare schemes and scopes, since
`Header.Tells` says what a header keeps of these, and of the operations of the draft.
-/

namespace ApiDirectives

open Resolution

/-! ## Findings among notices -/

/-- The finding that a notice is, unless it is a reference. -/
def Notice.finding? : Notice → Option Diagnostic
  | .finding d => some d
  | .reference .. => none

/-- The findings of a kind among notices, in order. -/
def noticed (kind : Cause → Bool) (ns : List Notice) : List Diagnostic :=
  findings kind (ns.filterMap Notice.finding?)

section Noticed

variable {kind : Cause → Bool}

theorem noticed_append (ns ms : List Notice) :
    noticed kind (ns ++ ms) = noticed kind ns ++ noticed kind ms := by
  simp [noticed]

theorem noticed_flatMap {α : Type} (xs : List α) (f : α → List Notice) :
    noticed kind (xs.flatMap f) = xs.flatMap fun a => noticed kind (f a) := by
  induction xs with
  | nil => rfl
  | cons a xs ih => rw [List.flatMap_cons, List.flatMap_cons, noticed_append, ih]

theorem noticed_eq_nil {ns : List Notice} (h : ∀ d, .finding d ∈ ns → kind d.cause = false) :
    noticed kind ns = [] := by
  apply List.filter_eq_nil_iff.mpr
  intro d hd
  obtain ⟨n, hn, hfinding⟩ := List.mem_filterMap.mp hd
  cases n with
  | reference name location => cases hfinding
  | finding e =>
    cases hfinding
    simp [h d hn]

/-- Settling adds findings on undeclared names, and no others. -/
theorem findings_settle (hkind : ∀ name, kind (.undeclaredSchema name) = false)
    (declared : List String) (ns : List Notice) (reported : List String) :
    findings kind (settle declared reported ns).1 = noticed kind ns := by
  induction ns generalizing reported with
  | nil => rfl
  | cons n ns ih =>
    cases n with
    | finding d =>
      have hnow : noticed kind (.finding d :: ns) = findings kind [d] ++ noticed kind ns :=
        findings_append kind [d] _
      rw [hnow, ← ih reported]
      exact findings_append kind [d] _
    | reference name location =>
      unfold settle
      split
      · exact ih reported
      · have hskip : ∀ ds, findings kind (⟨.undeclaredSchema name, location⟩ :: ds) =
            findings kind ds := by
          intro ds
          simp [findings, hkind]
        rw [hskip]
        exact ih (name :: reported)

end Noticed

/-! ## The parts that wire security -/

/-- The parts that wire security: the schemes, and the requirements of operations. -/
def Part.wires : Part → Bool
  | .schemes | .requirement .. => true
  | .slot .. | .written .. | .webhooks .. => false

/-- Findings on security are made by these parts only. -/
theorem Part.noticed_eq_nil {kind : Cause → Bool} (hkind : ∀ c, kind c = true → c.OnSecurity)
    (e : Setting) {p : Part} (hp : p.wires = false) :
    noticed kind (p.resolve e).noted = [] := by
  refine ApiDirectives.noticed_eq_nil fun d hd => ?_
  have hnotes : p.Notes e (.finding d) := (p.resolve_only e).noted (by simp) _ hd
  rw [Bool.eq_false_iff]
  intro hsecurity
  have honly := hkind d.cause hsecurity
  cases p with
  | schemes => cases hp
  | requirement name location => cases hp
  | slot type constraints description nullable location =>
    rcases hnotes with ⟨name, href⟩ | ⟨cause, hcause, hfound⟩
    · cases href
    · cases hfound
      cases cause <;> first | exact honly | exact hcause
  | written type location =>
    obtain ⟨name, href⟩ := hnotes
    cases href
  | webhooks first =>
    cases hnotes
    exact honly

theorem contentParts_wires (location : Location) (body : Option Payload)
    (responses : Table String Reply) : (contentParts location body responses).filter Part.wires = [] := by
  apply List.filter_eq_nil_iff.mpr
  intro p hp
  rcases List.mem_append.mp hp with hbody | hresponse
  · obtain ⟨payload, _, rfl⟩ := List.mem_map.mp hbody
    simp [Part.wires]
  · obtain ⟨⟨status, reply⟩, _, hreply⟩ := List.mem_flatMap.mp hresponse
    dsimp only [Reply.parts] at hreply
    split at hreply
    · cases hreply
    · rw [List.mem_singleton.mp hreply]
      simp [Part.wires]

theorem OperationDraft.parts_wires (o : OperationDraft) :
    o.parts.filter Part.wires = o.security.map (.requirement · o.location) := by
  unfold OperationDraft.parts
  rw [List.filter_append, List.filter_append, contentParts_wires, List.filter_map, List.filter_map]
  simp [Function.comp_def, ParameterDraft.part, Part.wires]

theorem webhookParts_wires (webhooks : Table String WebhookDraft) :
    (webhookParts webhooks).filter Part.wires = [] := by
  cases webhooks with
  | nil => rfl
  | cons entry rest =>
    unfold webhookParts
    rw [List.filter_cons_of_neg (by simp [Part.wires]), List.filter_flatMap]
    simp [contentParts_wires]

theorem ModelDraft.parts_wires (m : ModelDraft) : m.parts.filter Part.wires = [] := by
  unfold ModelDraft.parts
  rw [List.filter_append, List.filter_map, List.filter_map]
  simp [Function.comp_def, FieldDraft.part, Part.wires]

/-- The schemes are wired first, then the requirements of the operations in order. -/
theorem Draft.parts_wires (draft : Draft) :
    draft.parts.filter Part.wires =
      .schemes :: draft.operations.values.flatMap fun o =>
        o.security.map (.requirement · o.location) := by
  unfold Draft.parts
  rw [List.filter_cons_of_pos rfl, List.filter_append, List.filter_append, List.filter_flatMap,
    List.filter_flatMap, webhookParts_wires]
  simp [OperationDraft.parts_wires, ModelDraft.parts_wires, Table.values, List.flatMap_map]

theorem flatMap_filter_of_nil {α β : Type} {f : α → List β} {q : α → Bool} (xs : List α)
    (h : ∀ a, q a = false → f a = []) : xs.flatMap f = (xs.filter q).flatMap f := by
  induction xs with
  | nil => rfl
  | cons a xs ih =>
    cases hq : q a with
    | true => rw [List.filter_cons_of_pos hq, List.flatMap_cons, List.flatMap_cons, ih]
    | false => rw [List.filter_cons_of_neg (by simp [hq]), List.flatMap_cons, h a hq, ih,
        List.nil_append]

theorem Resolution.noted_map {α β : Type} (x : Resolution α) (f : α → β) :
    (do let a ← x; return f a : Resolution β).noted = x.noted := by
  rcases x with e | ⟨a, ns⟩
  · rfl
  · exact List.append_nil ns

/-- The findings on security among the warnings: those on schemes, then those on requirements. -/
theorem Draft.findings_security {draft : Draft} (hdraft : draft.operations.WellFormed)
    {fallback : String} {document : Document} {warnings : List Diagnostic}
    (h : draft.resolve fallback = .ok (document, warnings)) {kind : Cause → Bool}
    (hkind : ∀ c, kind c = true → c.OnSecurity) {schemes : Table String SecurityScheme}
    {before : List Notice} (hschemes : resolveSchemes draft.header = .ok (schemes, before)) :
    findings kind warnings =
      noticed kind before
        ++ draft.operations.values.flatMap fun o => o.security.flatMap fun name =>
          noticed kind (resolveRequirement draft.header o.location name).noted := by
  obtain ⟨notices, hresolution, rfl⟩ := Draft.resolve_eq_ok h
  have hschema : ∀ name, kind (.undeclaredSchema name) = false := by
    intro name
    rw [Bool.eq_false_iff]
    exact fun hk => hkind _ hk
  rw [findings_settle hschema, Draft.noted_eq hdraft hresolution, noticed_flatMap,
    flatMap_filter_of_nil _ fun p hp => Part.noticed_eq_nil hkind _ hp, Draft.parts_wires,
    List.flatMap_cons, List.flatMap_assoc]
  simp only [List.flatMap_map, Part.resolve, noted_map]
  have hheader : (draft.setting fallback).header = draft.header := rfl
  rw [hheader, hschemes]
  rfl

/-! ## Requirements -/

theorem resolveRequirement_noted (h : Header) (location : Location) (name : String) :
    (resolveRequirement h location name).noted =
      if h.schemes.has name then [] else [.finding ⟨.undeclaredRequirement name, some location⟩] := by
  unfold resolveRequirement
  cases h.schemes.has name <;> rfl

theorem resolveRequirement_yields (h : Header) (location : Location) (name : String) :
    (resolveRequirement h location name).Yields fun requirement _ =>
      requirement = [(name, (h.scopesOf name).keys)] := by
  unfold resolveRequirement
  dsimp only
  split
  · exact yields_bind (yields_true _) fun _ _ _ => yields_pure rfl
  · exact yields_pure rfl

/-- An operation requires the schemes of its draft, each with the scopes declared for it. -/
theorem OperationDraft.resolve_security (d : Dialect) (h : Header) (o : OperationDraft) :
    (o.resolve d h).Yields fun resolved _ =>
      resolved.security = o.security.map fun name => [(name, (h.scopesOf name).keys)] := by
  unfold OperationDraft.resolve
  refine yields_bind (yields_true _) fun parameters _ _ => ?_
  refine yields_bind (yields_true _) fun requestBody _ _ => ?_
  refine yields_bind (yields_true _) fun responses _ _ => ?_
  refine yields_bind
    (yields_each o.security fun name _ => resolveRequirement_yields h o.location name) ?_
  intro security ns heach
  refine yields_pure ?_
  have hkept := heach.map_eq (g := id) fun _ _ _ hone => hone
  rwa [List.map_id] at hkept

/-! ## Schemes -/

/-- The flows that are present. -/
def OAuthFlows.flows (f : OAuthFlows) : List OAuthFlow :=
  [f.implicit, f.password, f.clientCredentials, f.authorizationCode].filterMap id

theorem oauthFlows_yields (flow url : String) (scopes : Table String String)
    (location : Location) :
    (oauthFlows flow url scopes location).Yields fun f _ =>
      ∃ one, f.flows = [one] ∧ one.scopes = scopes := by
  unfold oauthFlows
  dsimp only
  split
  · exact yields_pure ⟨_, rfl, rfl⟩
  · exact yields_pure ⟨_, rfl, rfl⟩
  · exact yields_pure ⟨_, rfl, rfl⟩
  · exact yields_pure ⟨_, rfl, rfl⟩
  · exact yields_bind (yields_true _) fun _ _ _ => yields_pure ⟨_, rfl, rfl⟩

/-- A scheme has one flow, with some scopes. -/
def SecurityScheme.HasFlow (s : SecurityScheme) (scopes : Table String String) : Prop :=
  ∃ flows flow, s.flows = some flows ∧ flows.flows = [flow] ∧ flow.scopes = scopes

theorem SchemeDraft.resolve_hasFlow (h : Header) (name : String) (s : SchemeDraft) :
    (s.resolve h name).Yields fun scheme _ =>
      s.type = .oauth2 → scheme.HasFlow (h.scopesOf name) := by
  unfold SchemeDraft.resolve
  cases s.type with
  | oauth2 =>
    refine yields_bind (oauthFlows_yields _ _ _ _) ?_
    rintro flows _ ⟨flow, hflow, hscopes⟩
    exact yields_pure fun _ => ⟨flows, flow, rfl, hflow, hscopes⟩
  | _ => exact yields_pure fun hother => by cases hother

/-- A pass over a table that keeps the keys can be looked up like the table. -/
theorem Resolution.Each.get?_of_get? {α β : Type} {R : String → α → β → Prop}
    {t : Table String α} {u : Table String β} {ns : List Notice}
    (h : Each (fun entry result _ => result.1 = entry.1 ∧ R entry.1 entry.2 result.2) t u ns)
    {k : String} {a : α} (ha : t.get? k = some a) : ∃ b, u.get? k = some b ∧ R k a b := by
  induction h with
  | nil => cases ha
  | @cons entry result t u ns ms hone _ ih =>
    obtain ⟨j, a'⟩ := entry
    obtain ⟨j', b'⟩ := result
    obtain ⟨rfl, hR⟩ := hone
    rw [Table.get?_cons] at ha ⊢
    by_cases hk : j' = k
    · subst hk
      rw [if_pos rfl] at ha ⊢
      cases ha
      exact ⟨b', rfl, hR⟩
    · rw [if_neg hk] at ha ⊢
      exact ih ha

/-- The notices of scopes: one for each scheme with scopes that is not declared. -/
def Header.scopeNotices (h : Header) : List Notice :=
  h.scopeLocations.flatMap fun (name, location) =>
    if h.schemes.has name then [] else [.finding ⟨.undeclaredScheme name, some location⟩]

/-- Undeclared schemes of scopes are noticed first, then unknown flows. -/
theorem resolveSchemes_notices (h : Header) :
    (resolveSchemes h).Yields fun _ ns =>
      ∃ more, ns = h.scopeNotices ++ more ∧
        ∀ n ∈ more, ∃ location, n.FoundAt Cause.OnFlow location := by
  unfold resolveSchemes
  refine yields_bind (Q := fun _ ns => ns = h.scopeNotices) ?_ ?_
  · intro _ ns hns
    rw [each_noted hns, Header.scopeNotices]
    congr 1
    funext ⟨name, location⟩
    dsimp only
    cases h.schemes.has name <;> rfl
  · rintro _ _ rfl
    refine Yields.mono (only_each (P := fun n => ∃ location, n.FoundAt Cause.OnFlow location)
      h.schemes ?_) fun _ ms hms => ⟨ms, rfl, hms⟩
    rintro ⟨name, s⟩ _
    exact only_bind ((s.resolve_only h name).mono fun n hn => ⟨_, hn⟩) fun _ => only_pure _

/-- A scheme that is declared with OAuth2 has one flow, with the scopes declared for it. -/
theorem resolveSchemes_hasFlow (h : Header) :
    (resolveSchemes h).Yields fun schemes _ =>
      ∀ name s, h.schemes.get? name = some s → s.type = .oauth2 →
        ∃ scheme, schemes.get? name = some scheme ∧ scheme.HasFlow (h.scopesOf name) := by
  unfold resolveSchemes
  refine yields_bind (yields_true _) fun _ _ _ => ?_
  let Wired (name : String) (s : SchemeDraft) (scheme : SecurityScheme) : Prop :=
    s.type = .oauth2 → scheme.HasFlow (h.scopesOf name)
  refine (yields_each h.schemes
    (R := fun entry result _ => result.1 = entry.1 ∧ Wired entry.1 entry.2 result.2) ?_).mono ?_
  · rintro ⟨name, s⟩ _
    exact yields_bind (s.resolve_hasFlow h name) fun scheme _ hscheme => yields_pure ⟨rfl, hscheme⟩
  · intro schemes _ hschemes name s hget hs
    obtain ⟨scheme, hscheme, hflow⟩ := hschemes.get?_of_get? (R := Wired) hget
    exact ⟨scheme, hscheme, hflow hs⟩

theorem mem_scopeNotices {h : Header} {n : Notice} (hn : n ∈ h.scopeNotices) :
    ∃ name location, n = .finding ⟨.undeclaredScheme name, some location⟩ := by
  obtain ⟨⟨name, location⟩, _, hone⟩ := List.mem_flatMap.mp hn
  dsimp only at hone
  split at hone
  · cases hone
  · exact ⟨name, location, List.mem_singleton.mp hone⟩

/-- Of other kinds than unknown flows, the schemes find what their scopes find. -/
theorem noticed_schemes {kind : Cause → Bool} (hkind : ∀ flow, kind (.unknownFlow flow) = false)
    {h : Header} {schemes : Table String SecurityScheme} {ns : List Notice}
    (hns : resolveSchemes h = .ok (schemes, ns)) :
    noticed kind ns = noticed kind h.scopeNotices := by
  obtain ⟨more, rfl, hmore⟩ := resolveSchemes_notices h schemes ns hns
  have hnone : noticed kind more = [] := by
    refine noticed_eq_nil fun d hd => ?_
    obtain ⟨location, cause, hcause, hfound⟩ := hmore _ hd
    cases hfound
    cases cause <;> first | exact hkind _ | cases hcause
  rw [noticed_append, hnone, List.append_nil]

/-- The schemes of a document are the resolved ones. -/
theorem Draft.resolveSchemes_eq_ok {draft : Draft} {fallback : String} {document : Document}
    {ns : List Notice} (h : draft.resolution fallback = .ok (document, ns)) :
    ∃ before, resolveSchemes draft.header = .ok (document.components.securitySchemes, before) := by
  unfold Draft.resolution at h
  obtain ⟨schemes, before, _, hschemes, hoperations, _⟩ := bind_eq_ok_iff.mp h
  obtain ⟨_, _, _, _, hwebhooks, _⟩ := bind_eq_ok_iff.mp hoperations
  obtain ⟨_, _, _, _, hmodels, _⟩ := bind_eq_ok_iff.mp hwebhooks
  obtain ⟨_, _, _, _, hlast, _⟩ := bind_eq_ok_iff.mp hmodels
  cases hlast
  exact ⟨before, hschemes⟩

/-! ## The law -/

/-- The cause that an operation requires a scheme that is not declared. -/
def Cause.missesRequirement : Cause → Bool
  | .undeclaredRequirement .. => true
  | _ => false

/-- How the directives that declare schemes and scopes, and the operations that require schemes, are
brought together in a document, and which gaps between them are reported. -/
structure SecurityWired (ds : List Directive) (operations : Operations) (document : Document)
    (warnings : List Diagnostic) : Prop where
  /-- An operation requires the schemes that it names, in order, each with its scopes. -/
  requirements :
    (document.operations.map fun (path, m, o) => (path, m, o.security)).Perm
      (operations.map fun ((path, m), o) =>
        (path, m, o.security.map fun name => [(name, declaredScopes ds name)]))
  /-- A declared OAuth2 scheme has one flow, and the flow has these scopes. -/
  flows : ∀ name, declaredType? ds name = some .oauth2 →
    ∃ scheme flows flow, document.components.securitySchemes.get? name = some scheme ∧
      scheme.flows = some flows ∧ flows.flows = [flow] ∧
      flow.scopes.keys = declaredScopes ds name
  /-- Each position where an operation names an undeclared scheme is reported, in order. -/
  uses : findings Cause.missesRequirement warnings =
    operations.values.flatMap fun o =>
      (o.security.filter fun name => (declaredType? ds name).isNone).map fun name =>
        ⟨.undeclaredRequirement name, some o.location⟩
  /-- A scheme that has scopes and is not declared is reported once, any other never. -/
  scopes : ∀ name, (findings (· = .undeclaredScheme name) warnings).length =
    if declaredScopes ds name ≠ [] ∧ declaredType? ds name = none then 1 else 0

section Law

variable {ds : List Directive} {h : Header}

theorem Header.Tells.has_eq (hh : h.Tells ds) (name : String) :
    h.schemes.has name = (declaredType? ds name).isSome := by
  rw [← hh.types, Option.isSome_map]
  rfl

theorem Header.Tells.requirement_findings (hh : h.Tells ds) (location : Location)
    (names : List String) :
    (names.flatMap fun name =>
        noticed Cause.missesRequirement (resolveRequirement h location name).noted) =
      (names.filter fun name => (declaredType? ds name).isNone).map fun name =>
        ⟨.undeclaredRequirement name, some location⟩ := by
  induction names with
  | nil => rfl
  | cons name names ih =>
    rw [List.flatMap_cons, ih, resolveRequirement_noted, hh.has_eq]
    cases hdeclared : declaredType? ds name with
    | none =>
      rw [List.filter_cons_of_pos (by simp [hdeclared])]
      rfl
    | some type =>
      rw [List.filter_cons_of_neg (by simp [hdeclared])]
      rfl

/-- No scheme of scopes is noticed twice, because the schemes with scopes do not repeat. -/
theorem Header.Tells.scope_findings (hh : h.Tells ds) (name : String) :
    (noticed (· = .undeclaredScheme name) h.scopeNotices).length =
      if declaredScopes ds name ≠ [] ∧ declaredType? ds name = none then 1 else 0 := by
  have hcount : ∀ t : Table String Location,
      (noticed (· = .undeclaredScheme name) (t.flatMap fun (n, location) =>
        if h.schemes.has n then [] else [.finding ⟨.undeclaredScheme n, some location⟩])).length =
      if declaredType? ds name = none then t.keys.count name else 0 := by
    intro t
    induction t with
    | nil => simp [noticed, findings, Table.keys]
    | cons entry t ih =>
      obtain ⟨n, location⟩ := entry
      rw [List.flatMap_cons, noticed_append, List.length_append, ih]
      dsimp only
      rw [hh.has_eq]
      have hkeys : Table.keys ((n, location) :: t) = n :: Table.keys t := rfl
      rw [hkeys, List.count_cons]
      by_cases hn : n = name
      · subst hn
        cases hdeclared : declaredType? ds n <;>
          simp [noticed, findings, Notice.finding?, Nat.add_comm]
      · cases hdeclared : declaredType? ds n <;>
          simp [noticed, findings, Notice.finding?, hn]
  have hnodup : (scopedSchemes ds).Nodup := Table.nodup_eraseDups _
  rw [Header.scopeNotices, hcount, hh.owners, hnodup.count]
  by_cases hscopes : declaredScopes ds name = []
  · simp [mem_scopedSchemes, hscopes]
  · simp [mem_scopedSchemes, hscopes]

end Law

/-- Whatever the order in which schemes, scopes and operations are declared, the document of a draft
has them wired. -/
theorem security_wired {blocks : List Block} {version : String} {document : Document}
    {warnings : List Diagnostic}
    (h : (assemble blocks).draft.resolve version = .ok (document, warnings)) :
    SecurityWired (interfaceDirectives blocks) (assemble blocks).draft.operations document
      warnings := by
  have htells := assemble_tells blocks
  have hwell := assemble_operations_wellFormed blocks
  obtain ⟨notices, hresolution, hwarnings⟩ := Draft.resolve_eq_ok h
  obtain ⟨before, hschemes⟩ := Draft.resolveSchemes_eq_ok hresolution
  refine ⟨?_, ?_, ?_, ?_⟩
  · have hperm := Draft.resolution_operations_keep hwell
      (OperationDraft.resolve_security _ _) _ _ hresolution
    simpa only [htells.scopes] using hperm
  · intro name hoauth
    obtain ⟨s, hs, htype⟩ := Option.map_eq_some_iff.mp ((htells.types name).trans hoauth)
    obtain ⟨scheme, hscheme, flows, flow, hflows, hone, hscopes⟩ :=
      resolveSchemes_hasFlow _ _ _ hschemes name s hs htype
    exact ⟨scheme, flows, flow, hscheme, hflows, hone, by rw [hscopes, htells.scopes]⟩
  · have hkind : ∀ c : Cause, c.missesRequirement = true → c.OnSecurity := by
      intro c hc
      cases c <;> trivial
    rw [Draft.findings_security hwell h hkind hschemes, noticed_schemes (fun _ => rfl) hschemes]
    simp only [htells.requirement_findings]
    -- Schemes notice other gaps only, so that what is left comes from the operations.
    have hnone : noticed Cause.missesRequirement (assemble blocks).draft.header.scopeNotices = [] := by
      refine noticed_eq_nil fun d hd => ?_
      obtain ⟨name, location, hfound⟩ := mem_scopeNotices hd
      cases hfound
      rfl
    rw [hnone, List.nil_append]
  · intro name
    have hkind : ∀ c : Cause, decide (c = .undeclaredScheme name) = true → c.OnSecurity := by
      intro c hc
      rw [of_decide_eq_true hc]
      trivial
    rw [Draft.findings_security hwell h hkind hschemes, noticed_schemes (fun _ => rfl) hschemes]
    have hnone : ∀ location n,
        noticed (· = .undeclaredScheme name)
          (resolveRequirement (assemble blocks).draft.header location n).noted = [] := by
      intro location n
      rw [resolveRequirement_noted]
      split <;> simp [noticed, findings, Notice.finding?]
    simp [hnone, htells.scope_findings]

/-- Scopes before their scheme, which is first declared with another type, scopes of a scheme that is
never declared, and an operation that requires both and names undeclared schemes three times. -/
theorem security_wired_at_late_declaration :
    let blocks := [
      Block.ofComment "!GET /x -> x\n!secure auth ghost\n!secure gone ghost" "x" .function ⟨"a.py", 1⟩,
      Block.ofComment "!scope auth write\n!scope ghost all\n!security auth:http" "m" .module
        ⟨"b.py", 1⟩,
      Block.ofComment "!security auth:oauth2:password\n!scope auth read\n!scope auth write" "n"
        .module ⟨"c.py", 1⟩]
    ∃ document warnings, (assemble blocks).draft.resolve = .ok (document, warnings) ∧
      document.operations.map (·.2.2.security) =
        [[[("auth", ["write", "read"])], [("ghost", ["all"])], [("gone", [])],
          [("ghost", ["all"])]]] ∧
      warnings.map (·.message) =
        ["!scope refers to undeclared security scheme 'ghost'",
          "!secure refers to undeclared security scheme 'ghost'",
          "!secure refers to undeclared security scheme 'gone'",
          "!secure refers to undeclared security scheme 'ghost'"] ∧
      declaredType? (interfaceDirectives blocks) "auth" = some .oauth2 ∧
      SecurityWired (interfaceDirectives blocks) (assemble blocks).draft.operations document
        warnings := by
  intro blocks
  have hlooks : ((assemble blocks).draft.resolve).toOption.map
        (fun resolved => resolved.1.operations.map (·.2.2.security)) =
        some [[[("auth", ["write", "read"])], [("ghost", ["all"])], [("gone", [])],
          [("ghost", ["all"])]]] ∧
      ((assemble blocks).draft.resolve).toOption.map (fun resolved => resolved.2.map (·.message)) =
        some ["!scope refers to undeclared security scheme 'ghost'",
          "!secure refers to undeclared security scheme 'ghost'",
          "!secure refers to undeclared security scheme 'gone'",
          "!secure refers to undeclared security scheme 'ghost'"] ∧
      declaredType? (interfaceDirectives blocks) "auth" = some .oauth2 := by
    dsimp only [blocks]
    rw [Block.ofComment_ofList, Block.ofComment_ofList, Block.ofComment_ofList]
    exact ⟨by decide, by decide, by decide⟩
  obtain ⟨hsecurity, hmessages, htype⟩ := hlooks
  obtain ⟨document, warnings, hresolve, hdocument⟩ := Draft.exists_resolved hsecurity
  rw [hresolve] at hmessages
  exact ⟨document, warnings, hresolve, hdocument, Option.some.inj hmessages, htype,
    security_wired hresolve⟩

end ApiDirectives
