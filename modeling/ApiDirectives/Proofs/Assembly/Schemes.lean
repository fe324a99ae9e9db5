import ApiDirectives.Proofs.Assembly.Header
import ApiDirectives.Resolve.Document

/-!
# Schemes and scopes of an assembled draft

Security schemes and their scopes can be declared in any order, in any file, and more than once. What
a draft keeps of them is told by the interface directives alone, read as one list
(`interfaceDirectives`): a scheme has the type of its last declaration, its scopes stand in the order
of their first ones, and so do the schemes that have scopes. `Header.Tells` states this, and it is read
off the header that the directives tell.
-/

namespace ApiDirectives

/-! ## What directives declare -/

/-- The directives on the interface as a whole, of all blocks in order. -/
def interfaceDirectives (blocks : List Block) : List Directive :=
  (blocks.filter (·.role = .api)).flatMap fun b => b.kept.map (·.directive)

namespace Directive

/-- The type that a directive declares for a scheme. -/
def schemeType? (scheme : String) : Directive → Option SchemeType
  | .security name type _ _ _ => if name = scheme then some type else none
  | _ => none

/-- The name of the scope that a directive declares for a scheme. -/
def scopeOf? (scheme : String) : Directive → Option String
  | .scope owner name _ => if owner = scheme then some name else none
  | _ => none

/-- The scheme that a directive declares a scope for. -/
def scoped? : Directive → Option String
  | .scope scheme _ _ => some scheme
  | _ => none

end Directive

/-- The type of a declared scheme: that of the last declaration. -/
def declaredType? (ds : List Directive) (scheme : String) : Option SchemeType :=
  (ds.filterMap (Directive.schemeType? scheme)).getLast?

/-- The names of the scopes declared for a scheme, in the order of their first declarations. -/
def declaredScopes (ds : List Directive) (scheme : String) : List String :=
  (ds.filterMap (Directive.scopeOf? scheme)).eraseDups

/-- The schemes that have scopes, in the order of the first ones. -/
def scopedSchemes (ds : List Directive) : List String :=
  (ds.filterMap Directive.scoped?).eraseDups

/-- The schemes that have scopes are those for which some scope is declared. -/
theorem mem_scopedSchemes {ds : List Directive} {scheme : String} :
    scheme ∈ scopedSchemes ds ↔ declaredScopes ds scheme ≠ [] := by
  have hscope : ∀ d : Directive, d.scoped? = some scheme ↔ ∃ name, d.scopeOf? scheme = some name := by
    intro d
    cases d <;> simp [Directive.scoped?, Directive.scopeOf?]
  rw [ne_eq, List.eq_nil_iff_forall_not_mem, not_forall_not, scopedSchemes, List.mem_eraseDups,
    List.mem_filterMap]
  simp only [declaredScopes, List.mem_eraseDups, List.mem_filterMap, hscope]
  constructor
  · rintro ⟨d, hd, name, hname⟩
    exact ⟨name, d, hd, hname⟩
  · rintro ⟨name, d, hd, hname⟩
    exact ⟨d, hd, name, hname⟩

/-! ## What a header keeps -/

namespace Header

/-- A header tells of schemes and scopes what directives declare. -/
structure Tells (ds : List Directive) (h : Header) : Prop where
  types : ∀ scheme, (h.schemes.get? scheme).map (·.type) = declaredType? ds scheme
  scopes : ∀ scheme, (h.scopesOf scheme).keys = declaredScopes ds scheme
  owners : h.scopeLocations.keys = scopedSchemes ds

open Directive

theorem types_told (ds : List (Location × Directive)) (scheme : String) :
    ((told ds).schemes.get? scheme).map (·.type) = declaredType? (ds.map Prod.snd) scheme := by
  have htypes : (Table.given (said scheme? ds) scheme).map (·.type) =
      (ds.map Prod.snd).filterMap (schemeType? scheme) := by
    simp only [Table.given, said, List.filterMap_filterMap, List.map_filterMap, List.filterMap_map]
    congr 1
    funext entry
    obtain ⟨location, d⟩ := entry
    cases d <;> simp [schemeType?]
  rw [declaredType?, ← htypes, List.getLast?_map, told, Table.get?_lastOf]

theorem scopes_told (ds : List (Location × Directive)) (scheme : String) :
    ((told ds).scopesOf scheme).keys = declaredScopes (ds.map Prod.snd) scheme := by
  have hscopes : Table.keys (Table.given (said (fun _ => scope?) ds) scheme) =
      (ds.map Prod.snd).filterMap (scopeOf? scheme) := by
    simp only [Table.given, Table.keys, said, List.filterMap_filterMap, List.map_filterMap,
      List.filterMap_map]
    congr 1
    funext entry
    obtain ⟨location, d⟩ := entry
    cases d <;> simp [scopeOf?]
  have hlast := Table.getD_gathered Table.lastOf (said (fun _ => scope?) ds) scheme
  rw [declaredScopes, ← hscopes, ← Table.keys_gathered, ← Table.lastOf, ← hlast]
  rfl

theorem owners_told (ds : List (Location × Directive)) :
    (told ds).scopeLocations.keys = scopedSchemes (ds.map Prod.snd) := by
  have howners : Table.keys (said scopeAt? ds) = (ds.map Prod.snd).filterMap scoped? := by
    simp only [Table.keys, said, List.map_filterMap, List.filterMap_map]
    congr 1
    funext entry
    obtain ⟨location, d⟩ := entry
    cases d <;> rfl
  rw [told, Table.firstOf, Table.keys_gathered, howners, scopedSchemes]

end Header

/-- The header of every assembled draft tells what the interface directives of its blocks declare. -/
theorem assemble_tells (blocks : List Block) :
    (assemble blocks).draft.header.Tells (interfaceDirectives blocks) := by
  have hplaced : interfaceDirectives blocks = (placedDirectives blocks).map Prod.snd := by
    simp [interfaceDirectives, placedDirectives, Block.placedDirectives, List.map_flatMap,
      Function.comp_def]
  obtain ⟨webhooks, htold⟩ := assemble_told blocks
  rw [hplaced, htold]
  exact ⟨Header.types_told _, Header.scopes_told _, Header.owners_told _⟩

end ApiDirectives
