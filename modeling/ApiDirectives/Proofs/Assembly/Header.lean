import ApiDirectives.Proofs.Assembly.Run
import ApiDirectives.Proofs.Table

/-!
# The header of an assembled draft

The directives on the interface are merged one after another, and each member of the header has its own
way of dealing with more than one: it is overwritten, overwritten by texts that say something only,
changed in place, or added to. `Header.told` says what all of it comes to, from the directives of all
blocks read as one list: which of them a member comes from, and in which order names are listed. What a
header tells of one more directive is what merging the directive does to it, so every run ends with
the header that its directives tell. Webhooks are left out here, since what belongs to one depends on
where a block begins.
-/

namespace ApiDirectives

/-! ## Directives and their places -/

/-- The directives of a block's own role, each with the place of the block. -/
def Block.placedDirectives (b : Block) : List (Location × Directive) :=
  b.kept.map fun r => (b.location, r.directive)

/-- The directives on the interface as a whole, of all blocks in order, each with the place of its
block. -/
def placedDirectives (blocks : List Block) : List (Location × Directive) :=
  (blocks.filter (·.role = .api)).flatMap Block.placedDirectives

theorem placedDirectives_concat (blocks : List Block) (block : Block) :
    placedDirectives (blocks ++ [block]) =
      placedDirectives blocks ++ if block.role = .api then block.placedDirectives else [] := by
  unfold placedDirectives
  by_cases h : block.role = .api <;> simp [List.filter_append, h]

namespace Header

/-- What holds of a header and the directives it was merged from holds while the directives of a block
are merged, if each of them keeps it. -/
theorem foldl_induction {P : List (Location × Directive) → Header → Prop}
    (step : ∀ ds (m : Merge) location d, P ds m.header →
      P (ds ++ [(location, d)]) (Merge.step location m d).header)
    (location : Location) (more : List Directive) {ds : List (Location × Directive)} {m : Merge}
    (hm : P ds m.header) :
    P (ds ++ more.map fun d => (location, d)) (more.foldl (Merge.step location) m).header := by
  induction more generalizing ds m with
  | nil =>
    rw [List.map_nil, List.append_nil]
    exact hm
  | cons d more ih =>
    have hrest := ih (step ds m location d hm)
    rwa [List.append_assoc] at hrest

end Header

/-- What holds of the empty header and is kept by every directive holds of the header of every run,
with the directives on the interface that it has read. -/
theorem assemble_header_induction {P : List (Location × Directive) → Header → Prop} (nil : P [] {})
    (step : ∀ ds (m : Header.Merge) location d, P ds m.header →
      P (ds ++ [(location, d)]) (Header.Merge.step location m d).header)
    (blocks : List Block) : P (placedDirectives blocks) (assemble blocks).draft.header := by
  induction blocks using assemble_induction with
  | nil => exact nil
  | step blocks block ih =>
    rw [placedDirectives_concat, Assembly.step_header]
    split
    · have hmerged := Header.foldl_induction step block.location (block.kept.map (·.directive))
        (m := { header := (assemble blocks).draft.header }) ih
      rwa [List.map_map] at hmerged
    · rwa [List.append_nil]

/-! ## What directives say -/

namespace Directive

/-- The version of the format that a directive declares. -/
@[simp]
def openapi? : Directive → Option String
  | .api version => some version
  | _ => none

/-- The title, the version and the description that a directive declares. -/
@[simp]
def info? : Directive → Option Info
  | .info title version description => some { title, version, description }
  | _ => none

/-- The terms of service that a directive declares. -/
@[simp]
def termsOfService? : Directive → Option String
  | .tos url => some url
  | _ => none

/-- The contact that a directive declares. -/
@[simp]
def contact? : Directive → Option Contact
  | .contact name email url => some { name, email, url }
  | _ => none

/-- The licence that a directive declares. -/
@[simp]
def license? : Directive → Option License
  | .license name url => some { name, url }
  | _ => none

/-- The documentation elsewhere that a directive declares. -/
@[simp]
def externalDocs? : Directive → Option ExternalDocs
  | .externalDocs url description => some { url, description }
  | _ => none

/-- The server that a directive declares. -/
@[simp]
def server? : Directive → Option Server
  | .server url description => some { url, description }
  | _ => none

/-- The label and the address of the link that a directive declares. -/
@[simp]
def link? : Directive → Option (String × String)
  | .link label url => some (label, url)
  | _ => none

/-- The name and the description of the tag that a directive mentions. -/
@[simp]
def tag? : Directive → Option (String × String)
  | .tag name description => some (name, description)
  | _ => none

/-- The name of the security scheme that a directive at a place declares, and the scheme. -/
@[simp]
def scheme? (location : Location) : Directive → Option (String × SchemeDraft)
  | .security name type place description url =>
    some (name, { name, type, place, description, url, declaredAt := location })
  | _ => none

/-- The scheme that a directive declares a scope for, and the name and the description of the scope. -/
@[simp]
def scope? : Directive → Option (String × String × String)
  | .scope scheme name description => some (scheme, name, description)
  | _ => none

/-- The scheme that a directive at a place declares a scope for, and the place. -/
@[simp]
def scopeAt? (location : Location) : Directive → Option (String × Location)
  | .scope scheme _ _ => some (scheme, location)
  | _ => none

end Directive

/-- What directives say of one kind, in order. -/
def said {α : Type} (say : Location → Directive → Option α) (ds : List (Location × Directive)) :
    List α :=
  ds.filterMap fun (location, d) => say location d

@[simp]
theorem said_concat {α : Type} (say : Location → Directive → Option α)
    (ds : List (Location × Directive)) (location : Location) (d : Directive) :
    said say (ds ++ [(location, d)]) = said say ds ++ (say location d).toList := by
  unfold said
  rw [List.filterMap_append]
  cases h : say location d <;> simp [h]

/-- The last text that says something, or the empty one. -/
def lastText (texts : List String) : String :=
  (texts.filter (· ≠ "")).getLastD ""

theorem lastText_concat (texts : List String) (text : String) :
    lastText (texts ++ [text]) = if text = "" then lastText texts else text := by
  unfold lastText
  rw [List.filter_append]
  by_cases h : text = "" <;> simp [h]

namespace Header

open Directive

/-- The tag with a name and a description. -/
def tagOf (entry : String × String) : Tag :=
  { name := entry.1, description := entry.2 }

/-- The header that directives tell, without webhooks: for each member which of the directives it comes
from, and in which order. -/
def told (ds : List (Location × Directive)) : Header where
  openapi := (said (fun _ => openapi?) ds).getLastD ""
  title := (said (fun _ => info?) ds).getLast?.elim "" (·.title)
  version := (said (fun _ => info?) ds).getLast?.elim "" (·.version)
  description := lastText ((said (fun _ => info?) ds).map (·.description))
  termsOfService := (said (fun _ => termsOfService?) ds).getLastD ""
  contact := (said (fun _ => contact?) ds).getLast?
  license := (said (fun _ => license?) ds).getLast?
  externalDocs := (said (fun _ => externalDocs?) ds).getLast?
  servers := said (fun _ => server?) ds
  tags := (Table.gathered lastText (said (fun _ => tag?) ds)).map tagOf
  links := said (fun _ => link?) ds
  schemes := Table.lastOf (said scheme? ds)
  scopes := Table.gathered Table.lastOf (said (fun _ => scope?) ds)
  scopeLocations := Table.firstOf (said scopeAt? ds)

/-! ## One more directive -/

/-- Adding a tag puts its description, unless the tag is known and there is none. -/
theorem addTag_map (t : Table String String) (name description : String) :
    addTag { name, description } (t.map tagOf) =
      (if name ∈ t.keys ∧ description = "" then t else t.put name description).map tagOf := by
  induction t with
  | nil => rfl
  | cons entry t ih =>
    obtain ⟨k, text⟩ := entry
    by_cases hk : k = name
    · by_cases hd : description = "" <;> simp [addTag, tagOf, Table.keys, Table.put_cons, hk, hd]
    · have hmem : name ∈ Table.keys ((k, text) :: t) ↔ name ∈ Table.keys t := by
        simp [Table.keys, Ne.symm hk]
      simp only [hmem, Table.put_cons, if_neg hk]
      rw [List.map_cons, addTag, if_neg (by exact hk), ih]
      split <;> rfl

theorem gathered_lastText_concat (entries : List (String × String)) (name description : String) :
    Table.gathered lastText (entries ++ [(name, description)]) =
      if name ∈ (Table.gathered lastText entries).keys ∧ description = "" then
        Table.gathered lastText entries
      else (Table.gathered lastText entries).put name description := by
  rw [Table.gathered_concat, lastText_concat]
  by_cases hd : description = ""
  · by_cases hmem : name ∈ Table.keys entries
    · have hvalue : (Table.gathered lastText entries).get? name =
          some (lastText (Table.given entries name)) := by
        rw [Table.get?_gathered, if_pos hmem]
      simp [hd, hmem, Table.put_of_get? hvalue]
    · simp [hd, hmem, Table.given_eq_nil _ hmem, lastText]
  · simp [hd]

theorem gathered_lastOf_concat (entries : List (String × String × String))
    (scheme name description : String) :
    Table.gathered Table.lastOf (entries ++ [(scheme, name, description)]) =
      (Table.gathered Table.lastOf entries).put scheme
        (Table.put (((Table.gathered Table.lastOf entries).get? scheme).getD []) name description) := by
  have hscopes := Table.getD_gathered Table.lastOf entries scheme
  rw [Table.gathered_concat, Table.lastOf_concat, ← hscopes]
  rfl

/-- The members beside the webhooks are those that the directives so far tell. Merging one more directive
keeps this, whatever it does to the webhooks. -/
theorem told_concat {ds : List (Location × Directive)} {m : Merge}
    (hm : ∃ webhooks, m.header = { told ds with webhooks }) (location : Location) (d : Directive) :
    ∃ webhooks, (Merge.step location m d).header =
      { told (ds ++ [(location, d)]) with webhooks } := by
  obtain ⟨webhooks, hm⟩ := hm
  cases d with
  | info title version description =>
    exact ⟨webhooks, by simp [Merge.step, Merge.set, hm, told, lastText_concat]⟩
  | tag name description =>
    exact ⟨webhooks, by
      simp [Merge.step, Merge.set, hm, told, addTag_map, gathered_lastText_concat]⟩
  | security name type place description url =>
    exact ⟨webhooks, by simp [Merge.step, Merge.set, hm, told, Table.lastOf_concat]⟩
  | scope scheme name description =>
    exact ⟨webhooks, by
      simp [Merge.step, Merge.set, hm, told, Table.firstOf_concat, gathered_lastOf_concat]⟩
  | webhook name method description =>
    simp only [Merge.step, Merge.addWebhook]
    split
    · exact ⟨webhooks, by simp [Merge.report, hm, told]⟩
    · exact ⟨webhooks.put name _, by simp [hm, told]; rfl⟩
  | webhookBody payload =>
    simp only [Merge.step, Merge.onWebhook]
    split
    · exact ⟨webhooks, by simp [Merge.report, hm, told]⟩
    · exact ⟨webhooks.adjust _ _, by simp [hm, told]; rfl⟩
  | webhookResponse reply =>
    simp only [Merge.step, Merge.onWebhook]
    split
    · exact ⟨webhooks, by simp [Merge.report, hm, told]⟩
    · exact ⟨webhooks.adjust _ _, by simp [hm, told]; rfl⟩
  -- The others overwrite a member, add to a list, or are not about the interface.
  | _ => exact ⟨webhooks, by simp [Merge.step, Merge.set, hm, told]⟩

theorem keys_scopeAt? (ds : List (Location × Directive)) :
    Table.keys (said scopeAt? ds) = Table.keys (said (fun _ => scope?) ds) := by
  simp only [Table.keys, said, List.map_filterMap]
  congr 1
  funext entry
  obtain ⟨location, d⟩ := entry
  cases d <;> rfl

end Header

theorem assemble_told (blocks : List Block) :
    ∃ webhooks, (assemble blocks).draft.header =
      { Header.told (placedDirectives blocks) with webhooks } :=
  assemble_header_induction (P := fun ds h => ∃ webhooks, h = { Header.told ds with webhooks })
    ⟨[], rfl⟩ (fun _ _ location d hm => Header.told_concat hm location d) blocks

/-- The header of every run is the one that the directives on the interface tell, its webhooks apart. The
names of its tags are distinct, and the places of scopes are kept for the schemes that have some. -/
theorem header_is_told (blocks : List Block) :
    let header := (assemble blocks).draft.header
    header = { Header.told (placedDirectives blocks) with webhooks := header.webhooks } ∧
      (header.tags.map (·.name)).Nodup ∧ header.scopeLocations.keys = header.scopes.keys := by
  intro header
  obtain ⟨webhooks, htold⟩ : ∃ webhooks,
      header = { Header.told (placedDirectives blocks) with webhooks } := assemble_told blocks
  refine ⟨?_, ?_, ?_⟩
  · rw [htold]
  · have hnames : header.tags.map (·.name) =
        (Table.gathered lastText (said (fun _ => Directive.tag?) (placedDirectives blocks))).keys := by
      rw [htold]
      simp [Header.told, Header.tagOf, Table.keys, Function.comp_def]
    rw [hnames]
    exact Table.nodup_keys_gathered _ _
  · rw [htold]
    simp [Header.told, Table.firstOf, Header.keys_scopeAt?]

example :
    let place : Location := ⟨"api.py", 1⟩
    (Header.told [(place, .tag "pets" ""), (place, .tag "owners" "who keep them"),
        (place, .tag "pets" "what is kept"), (place, .tag "pets" "")]).tags =
      [{ name := "pets", description := "what is kept" },
        { name := "owners", description := "who keep them" }] := by decide

end ApiDirectives
