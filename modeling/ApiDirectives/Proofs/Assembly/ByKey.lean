import ApiDirectives.Draft.Assembly
import ApiDirectives.Proofs.Directive.Keys

/-!
# Assembling by key

Directives carry their members, so that merging them never looks one up. Where a directive is kept as
texts by key instead, a `Listing`, its members are looked up where they are needed, and a key that
is not there stops the run, as does a text that is none of the words for a method, a place or a
security scheme. `assembleByKey` merges listings in this way. On the listings of comments no
look-up fails, and the result is that of `assemble`.
-/

namespace ApiDirectives

/-! ## Listings -/

/-- A directive as texts by key. -/
structure Listing where
  kind : Kind
  raw : String
  args : List (String × String)
  tags : List String

/-- A directive with its members listed by key. -/
def Remark.listed (r : Remark) : Listing :=
  ⟨r.kind, r.raw, r.directive.args, r.directive.tags⟩

/-- Why a member cannot be had. -/
inductive KeyFault where
  | missing (key : String)
  | unknown (key text : String)
  deriving Repr, DecidableEq

namespace Listing

/-- The keys of a listing. -/
def keys (a : Listing) : List String := a.args.map Prod.fst

/-- The role of a listing. -/
def role (a : Listing) : Role := a.kind.role

/-- The text of a key. -/
def arg (a : Listing) (key : String) : Except KeyFault String :=
  match a.args.lookup key with
  | some text => .ok text
  | none => .error (.missing key)

/-- What the text of a key is the word for. -/
def word {α : Type} (a : Listing) (key : String) (read : String → Option α) :
    Except KeyFault α := do
  let text ← a.arg key
  match read text with
  | some x => .ok x
  | none => .error (.unknown key text)

/-- Whether a flag is set; an absent one is not. -/
def flag (a : Listing) (key : String) : Bool :=
  a.args.lookup key == some "true"

/-- The constraints that are there, in their fixed order. -/
def constraints (a : Listing) : List (Constraint × String) :=
  chosen fun c => a.args.lookup c.key

/-- The members of a request body. -/
def payload (a : Listing) : Except KeyFault Payload := do
  let schema ← a.arg "schema"
  let description ← a.arg "description"
  return ⟨schema, description, a.flag "required"⟩

/-- The members of a response. -/
def reply (a : Listing) : Except KeyFault Reply := do
  let status ← a.arg "status"
  let schema ← a.arg "schema"
  let description ← a.arg "description"
  return ⟨status, schema, description⟩

/-- The members of a parameter or a field. -/
def slot (a : Listing) : Except KeyFault Slot := do
  let name ← a.arg "name"
  let type ← a.arg "type"
  let description ← a.arg "description"
  return ⟨name, type, description, a.flag "required", a.flag "nullable", a.constraints⟩

/-- The members of a route. -/
def route (a : Listing) : Except KeyFault Operations.Route := do
  let method ← a.word "method" Method.ofUpper?
  let path ← a.arg "path"
  let operationId ← a.arg "operationId"
  let summary ← a.arg "summary"
  return ⟨method, path, operationId, summary, a.tags⟩

/-- The method that a webhook's text is the word for, in letters of any case. -/
def webhookMethod? (text : String) : Option Method :=
  Method.all.find? fun m => m.lower == Text.lowerAscii text

/-- The type of security scheme that a text is the word for. -/
def schemeType? (text : String) : Option SchemeType :=
  SchemeType.all.find? fun t => t.name == text

/-- Looks up the members that a directive of the listing's kind has. -/
def directive (a : Listing) : Except KeyFault Directive :=
  match a.kind with
  | .api => do
    let version ← a.arg "version"
    return .api version
  | .info => do
    let title ← a.arg "title"
    let version ← a.arg "version"
    let description ← a.arg "description"
    return .info title version description
  | .contact => do
    let name ← a.arg "name"
    let email ← a.arg "email"
    let url ← a.arg "url"
    return .contact name email url
  | .license => do
    let name ← a.arg "name"
    let url ← a.arg "url"
    return .license name url
  | .server => do
    let url ← a.arg "url"
    let description ← a.arg "description"
    return .server url description
  | .tag => do
    let name ← a.arg "name"
    let description ← a.arg "description"
    return .tag name description
  | .tos => do
    let url ← a.arg "url"
    return .tos url
  | .security => do
    let name ← a.arg "name"
    let type ← a.word "type" schemeType?
    let place ← a.arg "location"
    let description ← a.arg "description"
    let url ← a.arg "url"
    return .security name type place description url
  | .scope => do
    let scheme ← a.arg "security"
    let name ← a.arg "name"
    let description ← a.arg "description"
    return .scope scheme name description
  | .externalDocs => do
    let url ← a.arg "url"
    let description ← a.arg "description"
    return .externalDocs url description
  | .link => do
    let label ← a.arg "label"
    let url ← a.arg "url"
    return .link label url
  | .webhook => do
    let name ← a.arg "name"
    let method ← a.word "method" webhookMethod?
    let description ← a.arg "description"
    return .webhook name method description
  | .webhookBody => do
    let p ← a.payload
    return .webhookBody p
  | .webhookResponse => do
    let r ← a.reply
    return .webhookResponse r
  | .route => do
    let r ← a.route
    return .route r.method r.path r.operationId r.summary r.tags
  | .query | .path | .header | .cookie => do
    let place ← a.word "in" Place.ofName?
    let s ← a.slot
    return .parameter place s
  | .body => do
    let p ← a.payload
    return .body p
  | .ok => do
    let r ← a.reply
    return .ok r
  | .error => do
    let r ← a.reply
    return .error r
  | .secure => return .secure a.tags
  | .model => do
    let description ← a.arg "description"
    return .model description (a.args.lookup "extends")
  | .field => do
    let s ← a.slot
    return .field s

/-- The keyword that a directive was written with; a route is written with its method. -/
def keyword (a : Listing) : Except KeyFault String :=
  match a.kind with
  | .route => do
    let method ← a.arg "method"
    return "!" ++ method
  | k => return "!" ++ k.name

end Listing

/-! ## Merging listings -/

/-- A block with its directives as listings. -/
structure ListedBlock where
  listings : List Listing
  declaration : String
  kind : DeclarationKind
  location : Location
  owner : Option Owner

namespace ListedBlock

/-- The role of the first listing. -/
def role (b : ListedBlock) : Role :=
  match b.listings with
  | [] => .none
  | a :: _ => a.role

/-- The listings of the block's own role. -/
def kept (b : ListedBlock) : List Listing :=
  b.listings.filter (·.role = b.role)

/-- The listings of other roles. -/
def foreign (b : ListedBlock) : List Listing :=
  b.listings.filter (·.role ≠ b.role)

/-- The block without its directives, which tells the model that it belongs to. -/
def frame (b : ListedBlock) : Block :=
  ⟨[], b.declaration, b.kind, b.location, b.owner⟩

/-- The finding that a block mixes roles, if it does. -/
def mixed (b : ListedBlock) : Except KeyFault (List Diagnostic) :=
  match b.foreign with
  | [] => return []
  | foreign => do
    let keywords ← foreign.mapM Listing.keyword
    return [⟨.mixedRoles b.declaration b.role keywords, some b.location⟩]

end ListedBlock

/-- Changes a state by the directives of listings, which are looked up one after the other. -/
def foldByKey {σ : Type} (change : σ → Directive → σ) (start : σ) (listings : List Listing) :
    Except KeyFault σ :=
  listings.foldlM (fun state a => do
    let d ← a.directive
    return change state d) start

/-- Merges listings about the interface into a header. -/
def Header.mergeByKey (h : Header) (location : Location) (listings : List Listing) :
    Except KeyFault (Header × List Diagnostic) := do
  let m ← foldByKey (Merge.step location) { header := h } listings
  return (m.header, m.diagnostics)

/-- Merges the listings of a block into the operations so far. Only the first route is looked at,
and the other listings only if it is accepted. -/
def Operations.mergeByKey (operations : Operations) (declaration : String) (location : Location)
    (listings : List Listing) : Except KeyFault (Operations × List Diagnostic) :=
  match listings.filter (·.kind = .route) with
  | [] => return (operations, [⟨.missingRoute declaration, some location⟩])
  | first :: extra => do
    let extras : List Diagnostic :=
      extra.map fun a => ⟨.extraRoute declaration a.raw, some location⟩
    let route ← first.route
    match conflict? operations route location with
    | some cause => return (operations, extras ++ [⟨cause, some location⟩])
    | none =>
      let parts := listings.filter (·.kind ≠ .route)
      let o ← foldByKey addPart (build route location []) parts
      return (operations ++ [((route.path, route.method), o)], extras)

/-- Describes a model by the first of some model listings, if there is one. -/
def Models.describeByKey (models : Models) (name : String) (place : Location) :
    List Listing → Except KeyFault Models
  | [] => return models
  | a :: _ => do
    let description ← a.arg "description"
    return (ensure models name place).adjust name
      (describe description (a.args.lookup "extends"))

/-- Adds the fields of field listings to a model. -/
def Models.fillByKey (models : Models) (name : String) (place location : Location)
    (fields : List Listing) : Except KeyFault Models :=
  fields.foldlM (fun ms a => do
    let slot ← a.slot
    return (ensure ms name place).adjust name (addField location slot)) models

/-- Merges the listings of a schema block. Those of a class that lost its name are passed over, and
of several model listings only the first is looked at. -/
def Models.mergeByKey (models : Models) (rejected : List Location) (block : ListedBlock) :
    Except KeyFault (Models × List Location × List Diagnostic) :=
  let name := block.frame.modelName
  let place := block.frame.modelLocation
  if rejected.contains place then return (models, rejected, [])
  else
    match (models.get? name).filter (·.location ≠ place) with
    | some first =>
      return (models, rejected ++ [place],
        [⟨.duplicateModel name first.location place, some block.location⟩])
    | none => do
      let declared := block.kept.filter (·.kind = .model)
      let extras : List Diagnostic := (declared.drop 1).map fun a =>
        ⟨.extraModel name a.raw, some block.location⟩
      let described ← describeByKey models name place declared
      let filled ← fillByKey described name place block.location
        (block.kept.filter (·.kind = .field))
      return (filled, rejected, extras)

/-- Merges one block of listings. -/
def Assembly.stepByKey (a : Assembly) (block : ListedBlock) : Except KeyFault Assembly :=
  match block.role with
  | .none => return a
  | .api => do
    let mixed ← block.mixed
    let (header, found) ← a.draft.header.mergeByKey block.location block.kept
    return { a with
      draft := { a.draft with header }
      diagnostics := a.diagnostics ++ (mixed ++ found) }
  | .operation => do
    let mixed ← block.mixed
    let (operations, found) ←
      Operations.mergeByKey a.draft.operations block.declaration block.location block.kept
    return { a with
      draft := { a.draft with operations }
      diagnostics := a.diagnostics ++ (mixed ++ found) }
  | .schema => do
    let mixed ← block.mixed
    let (models, rejected, found) ← Models.mergeByKey a.draft.models a.rejected block
    return {
      draft := { a.draft with models }
      rejected
      diagnostics := a.diagnostics ++ (mixed ++ found) }

/-- Merges blocks of listings, in order, into a draft. -/
def assembleByKey (blocks : List ListedBlock) : Except KeyFault Assembly :=
  blocks.foldlM Assembly.stepByKey {}

/-- A block with its directives listed by key. -/
def Block.listed (b : Block) : ListedBlock :=
  ⟨b.remarks.map Remark.listed, b.declaration, b.kind, b.location, b.owner⟩

/-! ## Look-ups in what was read -/

theorem Constraint.key_injective {c c' : Constraint} (h : c.key = c'.key) : c = c' := by
  cases c <;> cases c' <;> first | rfl | exact absurd h (by decide)

theorem lookup_map_key (xs : List (Constraint × String)) (c : Constraint) :
    (xs.map fun (c, v) => (c.key, v)).lookup c.key = xs.lookup c := by
  induction xs with
  | nil => rfl
  | cons entry xs ih =>
    obtain ⟨c', v⟩ := entry
    simp only [List.map_cons, List.lookup_cons, ih]
    by_cases hc : c = c'
    · simp [hc]
    · have hkey : c.key ≠ c'.key := fun h => hc (Constraint.key_injective h)
      simp [beq_eq_false_iff_ne.mpr hc, beq_eq_false_iff_ne.mpr hkey]

theorem lookup_slotArgs (slot : Slot) (c : Constraint) :
    (Directive.slotArgs slot).lookup c.key = slot.constraints.lookup c := by
  rw [← lookup_map_key]
  cases c <;> rfl

theorem flag_of_lookup {a : Listing} {key : String} {b : Bool}
    (h : a.args.lookup key = some (Directive.flagText b)) : a.flag key = b := by
  unfold Listing.flag
  rw [h]
  cases b <;> rfl

/-- The members of a slot can be had back from its listing, whatever else is listed under "in". -/
theorem Listing.slot_eq {a : Listing} {s : Slot} (hs : s.Ordered)
    (h : ∀ key, key ≠ "in" → a.args.lookup key = (Directive.slotArgs s).lookup key) :
    a.slot = .ok s := by
  have hkey : ∀ c : Constraint, c.key ≠ "in" := by
    intro c
    cases c <;> decide
  have hconstraints : a.constraints = s.constraints := by
    obtain ⟨value, hvalue⟩ := hs
    simp only [Listing.constraints, h _ (hkey _), lookup_slotArgs, hvalue, lookup_chosen]
  have hrequired : a.flag "required" = s.required := flag_of_lookup (h _ (by decide))
  have hnullable : a.flag "nullable" = s.nullable := flag_of_lookup (h _ (by decide))
  unfold Listing.slot Listing.arg
  rw [h "name" (by decide), h "type" (by decide), h "description" (by decide), hrequired, hnullable,
    hconstraints]
  rfl

theorem Listing.route_eq (r : Remark) {method : Method} {path operationId summary : String}
    {tags : List String} (h : r.directive = .route method path operationId summary tags) :
    r.listed.route = .ok ⟨method, path, operationId, summary, tags⟩ := by
  unfold Listing.route Listing.word Listing.arg Remark.listed
  rw [h]
  cases method <;> rfl

theorem Listing.directive_parameter {a : Listing} {place : Place} {s : Slot}
    (hkind : a.kind = place.kind) (hargs : a.args = ("in", place.name) :: Directive.slotArgs s)
    (hs : s.Ordered) : a.directive = .ok (.parameter place s) := by
  have hslot : a.slot = .ok s := by
    refine Listing.slot_eq hs fun key hkey => ?_
    rw [hargs, List.lookup_cons, beq_eq_false_iff_ne.mpr hkey]
  have hplace : a.word "in" Place.ofName? = .ok place := by
    unfold Listing.word Listing.arg
    rw [hargs]
    cases place <;> rfl
  have hdirective : a.directive = do
      let place ← a.word "in" Place.ofName?
      let s ← a.slot
      return .parameter place s := by
    unfold Listing.directive
    rw [hkind]
    cases place <;> rfl
  rw [hdirective, hplace, hslot]
  rfl

/-- The directive of a listing can be had back. -/
theorem Remark.listed_directive {r : Remark} (h : r.directive.Ordered) :
    r.listed.directive = .ok r.directive := by
  obtain ⟨raw, d⟩ := r
  cases d with
  | parameter place slot => exact Listing.directive_parameter rfl rfl h
  | field slot =>
    change (do
      let s ← (Remark.listed ⟨raw, .field slot⟩).slot
      return Directive.field s) = _
    rw [Listing.slot_eq h fun _ _ => rfl]
    rfl
  | security name type place description url => cases type <;> rfl
  | webhook name method description => cases method <;> rfl
  | route method path operationId summary tags => cases method <;> rfl
  | webhookBody p =>
    obtain ⟨schema, description, required⟩ := p
    cases required <;> rfl
  | body p =>
    obtain ⟨schema, description, required⟩ := p
    cases required <;> rfl
  | model description parents => cases parents <;> rfl
  | _ => rfl

/-! ## Merging what was read -/

section Merging

variable {rs : List Remark}

theorem listed_keyword (r : Remark) : r.listed.keyword = .ok r.directive.keyword := by
  obtain ⟨raw, d⟩ := r
  cases d with
  | parameter place slot => cases place <;> rfl
  | _ => rfl

/-- Looking directives up one after the other is folding over them. -/
theorem foldByKey_eq {σ : Type} (change : σ → Directive → σ) (start : σ)
    (h : ∀ r ∈ rs, r.directive.Ordered) :
    foldByKey change start (rs.map Remark.listed) =
      .ok ((rs.map (·.directive)).foldl change start) := by
  induction rs generalizing start with
  | nil => rfl
  | cons r rs ih =>
    obtain ⟨hr, hrs⟩ := List.forall_mem_cons.mp h
    unfold foldByKey at ih ⊢
    rw [List.map_cons, List.foldlM_cons, Remark.listed_directive hr]
    exact ih _ hrs

theorem filter_listed (p : Listing → Bool) :
    (rs.map Remark.listed).filter p =
      (rs.filter fun r => p r.listed).map Remark.listed := by
  rw [List.filter_map]
  rfl

theorem Header.mergeByKey_eq (h : Header) (location : Location)
    (hrs : ∀ r ∈ rs, r.directive.Ordered) :
    h.mergeByKey location (rs.map Remark.listed) = .ok (h.merge location rs) := by
  unfold Header.mergeByKey
  rw [foldByKey_eq _ _ hrs]
  rfl

/-- A choice that only remarks of one kind pass is one among these. -/
theorem filterMap_eq_of_kind {β : Type} {f : Remark → Option β} {k : Kind}
    (hf : ∀ r, r.kind ≠ k → f r = none) :
    rs.filterMap f = (rs.filter (·.kind = k)).filterMap f := by
  induction rs with
  | nil => rfl
  | cons r rs ih =>
    by_cases hk : r.kind = k
    · rw [List.filter_cons_of_pos (by simpa using hk), List.filterMap_cons, List.filterMap_cons, ih]
    · rw [List.filter_cons_of_neg (by simpa using hk), List.filterMap_cons, hf r hk, ih]

namespace Operations

/-- A directive of the kind of routes is one. -/
theorem route_of_kind {r : Remark} (h : r.kind = .route) :
    ∃ route, Route.of? r.directive = some route ∧ r.listed.route = .ok route := by
  obtain ⟨raw, d⟩ := r
  cases d with
  | route method path operationId summary tags =>
    exact ⟨_, rfl, Listing.route_eq _ rfl⟩
  | parameter place slot => cases place <;> cases h
  | _ => cases h

theorem routes_eq_filter : routes rs = routes (rs.filter (·.kind = .route)) := by
  refine filterMap_eq_of_kind fun r hr => ?_
  obtain ⟨raw, d⟩ := r
  cases d with
  | route method path operationId summary tags => exact absurd rfl hr
  | _ => rfl

theorem raw_routes (h : ∀ r ∈ rs, r.kind = .route) : (routes rs).map Prod.snd = rs.map (·.raw) := by
  induction rs with
  | nil => rfl
  | cons r rs ih =>
    obtain ⟨hr, hrs⟩ := List.forall_mem_cons.mp h
    obtain ⟨route, hroute, _⟩ := route_of_kind hr
    have hrest := ih hrs
    unfold routes at hrest ⊢
    simp [hroute, hrest]

/-- What is reported of routes by their text is reported of listings. -/
theorem map_report_routes (report : String → Diagnostic) (h : ∀ r ∈ rs, r.kind = .route) :
    (rs.map Remark.listed).map (fun a => report a.raw) =
      (routes rs).map fun entry => report entry.2 := by
  have hraw := congrArg (List.map report) (raw_routes h)
  rw [List.map_map, List.map_map] at hraw
  rw [List.map_map]
  exact hraw.symm

/-- Routes add nothing to an operation. -/
theorem foldl_addPart_eq (o : OperationDraft) :
    (rs.map (·.directive)).foldl addPart o =
      ((rs.filter (·.kind ≠ .route)).map (·.directive)).foldl addPart o := by
  induction rs generalizing o with
  | nil => rfl
  | cons r rs ih =>
    by_cases hk : r.kind = .route
    · have hskip : addPart o r.directive = o := by
        obtain ⟨raw, d⟩ := r
        cases d with
        | route method path operationId summary tags => rfl
        | parameter place slot => cases place <;> cases hk
        | _ => cases hk
      rw [List.filter_cons_of_neg (by simpa using hk), List.map_cons, List.foldl_cons, hskip, ih]
    · rw [List.filter_cons_of_pos (by simpa using hk), List.map_cons, List.map_cons,
        List.foldl_cons, List.foldl_cons, ih]

theorem mergeByKey_eq (operations : Operations) (declaration : String) (location : Location)
    (h : ∀ r ∈ rs, r.directive.Ordered) :
    mergeByKey operations declaration location (rs.map Remark.listed) =
      .ok (merge operations declaration location rs) := by
  have hkinds : ∀ r ∈ rs.filter (·.kind = .route), r.kind = .route := by
    intro r hr
    simpa using (List.mem_filter.mp hr).2
  have hfilter : (rs.map Remark.listed).filter (·.kind = .route) =
      (rs.filter (·.kind = .route)).map Remark.listed := filter_listed _
  have hparts : (rs.map Remark.listed).filter (·.kind ≠ .route) =
      (rs.filter (·.kind ≠ .route)).map Remark.listed := filter_listed _
  unfold mergeByKey merge
  rw [hfilter, hparts, routes_eq_filter]
  -- Of the routes only the first is looked up; of the others the texts are reported.
  cases hroutes : rs.filter (·.kind = .route) with
  | nil => rfl
  | cons first extra =>
    rw [hroutes] at hkinds
    obtain ⟨hfirst, hextra⟩ := List.forall_mem_cons.mp hkinds
    obtain ⟨route, hroute, hlookup⟩ := route_of_kind hfirst
    have hhead : routes (first :: extra) = (route, first.raw) :: routes extra := by
      simp [routes, hroute]
    have hextras := map_report_routes
      (fun raw => ⟨.extraRoute declaration raw, some location⟩) hextra
    have hbuild := foldByKey_eq addPart (build route location [])
      fun r (hr : r ∈ rs.filter (·.kind ≠ .route)) => h r (List.mem_filter.mp hr).1
    rw [hhead, List.map_cons]
    dsimp only
    rw [hlookup, hextras]
    dsimp only [bind, Except.bind]
    cases conflict? operations route location with
    | some cause => rfl
    | none =>
      -- Routes are passed over here and folded in by `merge`, where they change nothing.
      dsimp only
      rw [hbuild, ← foldl_addPart_eq]
      rfl

end Operations

namespace Models

theorem model_of_kind {r : Remark} (h : r.kind = .model) :
    ∃ description parents, r.directive = .model description parents := by
  obtain ⟨raw, d⟩ := r
  cases d with
  | model description parents => exact ⟨_, _, rfl⟩
  | parameter place slot => cases place <;> cases h
  | _ => cases h

theorem field_of_kind {r : Remark} (h : r.kind = .field) : ∃ slot, r.directive = .field slot := by
  obtain ⟨raw, d⟩ := r
  cases d with
  | field slot => exact ⟨_, rfl⟩
  | parameter place slot => cases place <;> cases h
  | _ => cases h

theorem modelRemarks_eq_filter : modelRemarks rs = modelRemarks (rs.filter (·.kind = .model)) := by
  refine filterMap_eq_of_kind fun r hr => ?_
  obtain ⟨raw, d⟩ := r
  cases d with
  | model description parents => exact absurd rfl hr
  | _ => rfl

theorem fieldSlots_eq_filter : fieldSlots rs = fieldSlots (rs.filter (·.kind = .field)) := by
  refine filterMap_eq_of_kind fun r hr => ?_
  obtain ⟨raw, d⟩ := r
  cases d with
  | field slot => exact absurd rfl hr
  | _ => rfl

theorem raw_modelRemarks (h : ∀ r ∈ rs, r.kind = .model) :
    (modelRemarks rs).map (·.2.2) = rs.map (·.raw) := by
  induction rs with
  | nil => rfl
  | cons r rs ih =>
    obtain ⟨hr, hrs⟩ := List.forall_mem_cons.mp h
    obtain ⟨description, parents, hmodel⟩ := model_of_kind hr
    have hrest := ih hrs
    unfold modelRemarks at hrest ⊢
    simp [hmodel, hrest]

/-- What is reported of all models but the first, by their text, is reported of listings. -/
theorem map_report_modelRemarks (report : String → Diagnostic) (h : ∀ r ∈ rs, r.kind = .model) :
    ((rs.map Remark.listed).drop 1).map (fun a => report a.raw) =
      ((modelRemarks rs).drop 1).map fun entry => report entry.2.2 := by
  have hraw := congrArg (fun raws => (raws.map report).drop 1) (raw_modelRemarks h)
  rw [List.map_map, List.map_map] at hraw
  rw [List.map_drop, List.map_drop, List.map_map]
  exact hraw.symm

theorem describeByKey_eq (models : Models) (name : String) (place : Location)
    (h : ∀ r ∈ rs, r.kind = .model) :
    describeByKey models name place (rs.map Remark.listed) =
      .ok (match modelRemarks rs with
        | [] => models
        | (description, parents, _) :: _ =>
          (ensure models name place).adjust name (describe description parents)) := by
  cases rs with
  | nil => rfl
  | cons r rs =>
    obtain ⟨description, parents, hmodel⟩ := model_of_kind (h r List.mem_cons_self)
    obtain ⟨raw, d⟩ := r
    subst hmodel
    cases parents <;> rfl

theorem fillByKey_eq (models : Models) (name : String) (place location : Location)
    (h : ∀ r ∈ rs, r.kind = .field) (hordered : ∀ r ∈ rs, r.directive.Ordered) :
    fillByKey models name place location (rs.map Remark.listed) =
      .ok ((fieldSlots rs).foldl
        (fun ms slot => (ensure ms name place).adjust name (addField location slot)) models) := by
  induction rs generalizing models with
  | nil => rfl
  | cons r rs ih =>
    obtain ⟨hr, hrs⟩ := List.forall_mem_cons.mp h
    obtain ⟨hslot, hslots⟩ := List.forall_mem_cons.mp hordered
    obtain ⟨slot, hfield⟩ := field_of_kind hr
    obtain ⟨raw, d⟩ := r
    subst hfield
    unfold fillByKey at ih ⊢
    rw [List.map_cons, List.foldlM_cons, Listing.slot_eq hslot fun _ _ => rfl]
    exact ih _ hrs hslots

end Models

end Merging

/-! ## Blocks -/

section Blocks

variable (b : Block)

theorem Block.listed_role : b.listed.role = b.role := by
  unfold ListedBlock.role Block.role Block.listed
  cases b.remarks <;> rfl

theorem Block.listed_kept : b.listed.kept = b.kept.map Remark.listed := by
  unfold ListedBlock.kept
  rw [b.listed_role]
  exact filter_listed _

theorem Block.listed_foreign : b.listed.foreign = b.foreign.map Remark.listed := by
  unfold ListedBlock.foreign
  rw [b.listed_role]
  exact filter_listed _

theorem mapM_keyword (rs : List Remark) :
    (rs.map Remark.listed).mapM Listing.keyword =
      .ok (rs.map (·.directive.keyword)) := by
  induction rs with
  | nil => rfl
  | cons r rs ih =>
    rw [List.map_cons, List.mapM_cons, listed_keyword, ih]
    rfl

theorem Block.listed_mixed : b.listed.mixed = .ok (Assembly.mixed b) := by
  unfold ListedBlock.mixed Assembly.mixed
  rw [b.listed_foreign, b.listed_role]
  cases b.foreign with
  | nil => rfl
  | cons r rs =>
    have hkeywords := mapM_keyword (r :: rs)
    rw [List.map_cons] at hkeywords ⊢
    dsimp only
    rw [hkeywords]
    rfl

theorem Models.mergeByKey_eq (models : Models) (rejected : List Location)
    (h : ∀ r ∈ b.kept, r.directive.Ordered) :
    mergeByKey models rejected b.listed = .ok (merge models rejected b b.kept) := by
  have hfilter : ∀ k : Kind, b.listed.kept.filter (·.kind = k) =
      (b.kept.filter (·.kind = k)).map Remark.listed := by
    intro k
    rw [b.listed_kept]
    exact filter_listed _
  have hkind : ∀ k, ∀ r ∈ b.kept.filter (·.kind = k), r.kind = k := by
    intro k r hr
    simpa using (List.mem_filter.mp hr).2
  -- The owner of a block does not depend on its directives.
  have hname : b.listed.frame.modelName = b.modelName := rfl
  have hplace : b.listed.frame.modelLocation = b.modelLocation := rfl
  have hextras := map_report_modelRemarks
    (fun raw => ⟨.extraModel b.modelName raw, some b.location⟩) (hkind .model)
  rw [← modelRemarks_eq_filter] at hextras
  unfold mergeByKey merge apply
  rw [hname, hplace, hfilter, hfilter]
  dsimp only
  split
  · rfl
  · cases (models.get? b.modelName).filter (·.location ≠ b.modelLocation) with
    | some first => rfl
    | none =>
      dsimp only
      rw [describeByKey_eq _ _ _ (hkind .model), ← modelRemarks_eq_filter]
      dsimp only [bind, Except.bind]
      rw [fillByKey_eq _ _ _ _ (hkind .field) fun r hr => h r (List.mem_filter.mp hr).1,
        ← fieldSlots_eq_filter]
      dsimp only
      exact congrArg _ (congrArg _ (congrArg _ hextras))

theorem Assembly.stepByKey_eq (a : Assembly) (h : ∀ r ∈ b.remarks, r.directive.Ordered) :
    a.stepByKey b.listed = .ok (a.step b) := by
  have hkept : ∀ r ∈ b.kept, r.directive.Ordered := fun r hr => h r (List.mem_filter.mp hr).1
  unfold Assembly.stepByKey Assembly.step
  rw [b.listed_role, b.listed_mixed]
  cases b.role with
  | none => rfl
  | api =>
    dsimp only [bind, Except.bind]
    rw [b.listed_kept, Header.mergeByKey_eq _ _ hkept]
    rfl
  | operation =>
    dsimp only [bind, Except.bind]
    rw [b.listed_kept, Operations.mergeByKey_eq _ _ _ hkept]
    rfl
  | schema =>
    dsimp only [bind, Except.bind]
    rw [Models.mergeByKey_eq b _ _ hkept]
    rfl

end Blocks

/-- On directives whose constraints are a choice of values no look-up fails, and looking members up
changes nothing. -/
theorem assembleByKey_eq {blocks : List Block}
    (h : ∀ b ∈ blocks, ∀ r ∈ b.remarks, r.directive.Ordered) :
    assembleByKey (blocks.map Block.listed) = .ok (assemble blocks) := by
  unfold assembleByKey assemble Assembly.run
  -- The run starts from any state, so that the induction can go on from where a step leads.
  generalize ({} : Assembly) = a
  induction blocks generalizing a with
  | nil => rfl
  | cons b blocks ih =>
    obtain ⟨hb, hblocks⟩ := List.forall_mem_cons.mp h
    rw [List.map_cons, List.foldlM_cons, Assembly.stepByKey_eq b a hb]
    exact ih hblocks _

-- A listing that lacks a key of its kind stops the run.
example : assembleByKey [⟨[⟨.tos, "!tos", [], []⟩], "", .module, ⟨"api.py", 1⟩, none⟩] =
    .error (.missing "url") := rfl

/-- The keys of a directive that is read from a line are distinct and fit its kind; and whatever the
comments say, merging their directives by key finds every key, and gives what `assemble` gives. -/
theorem directives_fit_assembler :
    (∀ line r, Remark.ofLine? line = some r →
      r.listed.keys.Nodup ∧ r.listed.kind.Fits r.listed.keys) ∧
    ∀ comments : List (String × String × DeclarationKind × Location × Option Owner),
      let blocks := comments.map fun (text, declaration, kind, location, owner) =>
        Block.ofComment text declaration kind location owner
      assembleByKey (blocks.map Block.listed) = .ok (assemble blocks) := by
  refine ⟨?_, ?_⟩
  · intro line r h
    have hfits : r.listed.kind.Fits r.listed.keys := (Remark.ordered_of_ofLine? h).fits
    exact ⟨hfits.nodup, hfits⟩
  · intro comments blocks
    refine assembleByKey_eq fun b hb r hr => ?_
    obtain ⟨⟨text, declaration, kind, location, owner⟩, _, rfl⟩ := List.mem_map.mp hb
    exact Remark.ordered_of_ofText hr

/-- A parameter lists its constraints in their fixed order, whatever the order of the line, and a block
with a second route and a directive of another role is merged by key as it is without. -/
theorem directives_fit_assembler_at_two_routes :
    let line := "!query n:int? \"how many\" max=9 default=3"
    let text := "!GET /a -> x\n!query n:int? \"how many\" max=9 default=3\n!PUT /b -> y\n!tos http://t"
    let blocks := [Block.ofComment text "f" .function ⟨"api.py", 2⟩]
    (∃ r, Remark.ofLine? line = some r ∧ r.listed.keys.Nodup ∧ r.listed.keys =
      ["in", "name", "type", "description", "required", "nullable", "default", "max"]) ∧
    (assemble blocks).draft.operations.length = 1 ∧ (assemble blocks).diagnostics.length = 2 ∧
    assembleByKey (blocks.map Block.listed) = .ok (assemble blocks) := by
  intro line text blocks
  have hkeys : (Remark.ofLine? line).map (·.listed.keys) =
      some ["in", "name", "type", "description", "required", "nullable", "default", "max"] := by
    decide
  have hcounts : (assemble blocks).draft.operations.length = 1 ∧
      (assemble blocks).diagnostics.length = 2 := by
    dsimp only [blocks, text]
    rw [Block.ofComment_ofList]
    decide
  obtain ⟨r, hline, hlisted⟩ := Option.map_eq_some_iff.mp hkeys
  exact ⟨⟨r, hline, (directives_fit_assembler.1 line r hline).1, hlisted⟩, hcounts.1, hcounts.2,
    directives_fit_assembler.2 [(text, "f", .function, ⟨"api.py", 2⟩, none)]⟩

end ApiDirectives
