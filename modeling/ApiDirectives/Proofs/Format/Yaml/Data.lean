import ApiDirectives.Format.Yaml.Datum
import ApiDirectives.Proofs.Format.Yaml.Nodes

/-!
# Why a text stands for nothing

A text that follows the rules of the format may still stand for nothing. `read_unreadable` says why: an
escape is beyond the last code point, or a scalar of the document is tagged as a truth value, a number or
a moment and its text is none. The scalars of a document are those that its node is made of, and the text
of a value key where a mapping is tagged as a scalar.
-/

namespace ApiDirectives.Yaml

variable {α β : Type}

/-! ## The scalars of a node -/

mutual

/-- The scalars that a node is made of, with their tags. -/
def Node.scalars : Node → List (Tag × String)
  | .scalar tag text => [(tag, text)]
  | .sequence _ items => itemScalars items
  | .mapping tag entries => ((valueText? entries).map (tag, ·)).toList ++ entryScalars entries

/-- The scalars of items. -/
def itemScalars : List Node → List (Tag × String)
  | [] => []
  | n :: r => n.scalars ++ itemScalars r

/-- The scalars of keys and values. -/
def entryScalars : List (Node × Node) → List (Tag × String)
  | [] => []
  | (k, v) :: r => (k.scalars ++ v.scalars) ++ entryScalars r

end

/-- A fault of one of some scalars. -/
def FaultOf (scalars : List (Tag × String)) (fault : ScalarFault) : Prop :=
  ∃ s ∈ scalars, scalarDatum s.1 s.2 = .error (.unreadable fault)

/-- A reader of some of the scalars has their faults. -/
theorem Blames.among {scalars more : List (Tag × String)} {x : Except Fault α}
    (h : Blames (FaultOf scalars) x) (hmore : scalars ⊆ more) : Blames (FaultOf more) x :=
  h.mono fun _ ⟨s, hs, hfault⟩ => ⟨s, hmore hs, hfault⟩

theorem blames_scalarDatum {tag : Tag} {text : String} {scalars : List (Tag × String)}
    (h : (tag, text) ∈ scalars) : Blames (FaultOf scalars) (scalarDatum tag text) :=
  blames_iff.mpr fun _ hfault => ⟨(tag, text), h, hfault⟩

/-! ## Data -/

mutual

/-- What a node stands for has no faults but those of its scalars. -/
theorem Node.blames_datum : ∀ n : Node, Blames (FaultOf n.scalars) n.datum
  | .scalar tag text => by
    rw [Node.datum, Node.scalars]
    exact blames_scalarDatum (List.mem_singleton.mpr rfl)
  | .sequence tag items => by
    unfold Node.datum Node.scalars
    split
    · exact blames_map.mpr (blames_itemData items)
    · exact blames_map.mpr (blames_pairData items)
    all_goals exact blames_refuse _
  | .mapping tag entries => by
    have hentries := (blames_entryData entries).among
      (List.subset_append_right ((valueText? entries).map (tag, ·)).toList _)
    unfold Node.datum Node.scalars
    split
    · exact blames_map.mpr hentries
    · exact blames_map.mpr hentries
    iterate 5 exact blames_refuse _
    · split
      · rename_i text htext
        rw [htext]
        exact blames_scalarDatum (List.mem_cons_self ..)
      · exact blames_refuse _

theorem blames_itemData : ∀ items : List Node, Blames (FaultOf (itemScalars items)) (itemData items)
  | [] => blames_ok _
  | n :: r => by
    rw [itemData, itemScalars]
    exact .bind (n.blames_datum.among (List.subset_append_left _ _)) fun _ =>
      .bind ((blames_itemData r).among (List.subset_append_right _ _)) fun _ => blames_pure _

theorem blames_pairData : ∀ items : List Node, Blames (FaultOf (itemScalars items)) (pairData items)
  | [] => blames_ok _
  | .mapping tag [(k, v)] :: r => by
    have hpair : k.scalars ++ v.scalars ⊆ itemScalars (.mapping tag [(k, v)] :: r) := by
      rw [itemScalars, Node.scalars, entryScalars, entryScalars, List.append_nil]
      exact List.subset_append_of_subset_left _ (List.subset_append_right _ _)
    have hrest : itemScalars r ⊆ itemScalars (.mapping tag [(k, v)] :: r) := by
      rw [itemScalars]
      exact List.subset_append_right _ _
    rw [pairData]
    refine .bind ((k.blames_datum.among (List.subset_append_left _ _)).among hpair) fun _ => ?_
    refine .bind ((v.blames_datum.among (List.subset_append_right _ _)).among hpair) fun _ => ?_
    exact .bind ((blames_pairData r).among hrest) fun _ => blames_pure _
  | .scalar .. :: _ => blames_refuse _
  | .sequence .. :: _ => blames_refuse _
  | .mapping _ [] :: _ => blames_refuse _
  | .mapping _ (_ :: _ :: _) :: _ => blames_refuse _

theorem blames_entryData : ∀ entries : List (Node × Node),
    Blames (FaultOf (entryScalars entries)) (entryData entries)
  | [] => blames_ok _
  | (k, v) :: r => by
    have hfirst : k.scalars ++ v.scalars ⊆ entryScalars ((k, v) :: r) := by
      rw [entryScalars]
      exact List.subset_append_left _ _
    have hkey := (k.blames_datum.among (List.subset_append_left _ v.scalars)).among hfirst
    have hvalue := (v.blames_datum.among (List.subset_append_right k.scalars _)).among hfirst
    have hmerge := ((blames_mergeData v).among (List.subset_append_right k.scalars _)).among hfirst
    have hrest : Blames (FaultOf (entryScalars ((k, v) :: r))) (entryData r) := by
      rw [entryScalars]
      exact (blames_entryData r).among (List.subset_append_right _ _)
    have hafter (key : Datum) : Blames (FaultOf (entryScalars ((k, v) :: r))) (do
        if key.mayBeKey then
          let value ← v.datum
          let (merged, own) ← entryData r
          return (merged, (key, value) :: own)
        else refuse .collectionAsKey) :=
      .ite (.bind hvalue fun _ => .bind hrest fun _ => blames_pure _) (blames_refuse _)
    rw [entryData]
    refine .ite (.bind hmerge fun _ => .bind hrest fun _ => blames_pure _) ?_
    dsimp only
    split
    · exact .bind (blames_ok _) hafter
    · exact .bind hkey hafter

theorem blames_mergeData : ∀ n : Node, Blames (FaultOf n.scalars) (mergeData n)
  | .scalar .. => blames_refuse _
  | .mapping tag entries => by
    rw [mergeData, Node.scalars]
    exact blames_map.mpr ((blames_entryData entries).among (List.subset_append_right _ _))
  | .sequence tag items => by
    rw [mergeData, Node.scalars]
    exact blames_mergeAll items

theorem blames_mergeAll : ∀ items : List Node, Blames (FaultOf (itemScalars items)) (mergeAll items)
  | [] => blames_ok _
  | .mapping tag entries :: r => by
    have hentries := (blames_entryData entries).among
      (List.subset_append_right ((valueText? entries).map (tag, ·)).toList _)
    rw [mergeAll, itemScalars, Node.scalars]
    exact .bind (hentries.among (List.subset_append_left _ _)) fun _ =>
      .bind ((blames_mergeAll r).among (List.subset_append_right _ _)) fun _ => blames_pure _
  | .scalar .. :: _ => blames_refuse _
  | .sequence .. :: _ => blames_refuse _

end

/-! ## Texts -/

/-- The fault of a reader that has one. -/
def fault? : Except Fault α → Option Fault
  | .error fault => some fault
  | .ok _ => none

theorem fault?_eq_some_iff {x : Except Fault α} {fault : Fault} :
    fault? x = some fault ↔ x = .error fault := by
  cases x <;> simp [fault?]

/-- The tags whose scalars may stand for nothing. -/
def judgedTags : List Tag := [.bool, .int, .float, .timestamp]

/-- Texts, bytes and nothing are not judged by what they say. -/
theorem mem_judgedTags {tag : Tag} {text : String} {fault : ScalarFault}
    (h : scalarDatum tag text = .error (.unreadable fault)) : tag ∈ judgedTags := by
  cases tag with
  | bool | int | float | timestamp => decide
  | null | str => cases h
  | binary =>
    have hbytes : Blames (fun _ => False) (binary text) :=
      .ite (blames_refuse _) (by split <;> trivial)
    exact (blames_iff.mp (blames_map.mpr hbytes) fault h).elim
  | seq | map | set | pairs | merge | value | other => cases h

/-- A document of a text with a scalar of which a fault holds. -/
def HoldsScalar (text : List Char) (fault : ScalarFault) : Prop :=
  ∃ ts n, tokens text = .ok ts ∧ document? ts = .ok (some n) ∧
    ∃ s ∈ n.scalars, s.1 ∈ judgedTags ∧ scalarDatum s.1 s.2 = .error (.unreadable fault)

/-- A text that breaks no rule and stands for nothing has an escape or a scalar to blame. -/
theorem read_unreadable {text : List Char} {fault : ScalarFault}
    (h : read text = .error (.unreadable fault)) :
    BeyondCodePoints fault ∨ HoldsScalar text fault := by
  have hread : Blames (fun fault => BeyondCodePoints fault ∨ HoldsScalar text fault) (read text) := by
    refine blames_bind.mpr ⟨(blames_tokens text).mono fun _ => .inl, fun ts hts => ?_⟩
    refine blames_bind.mpr ⟨blames_document ts, fun found hfound => ?_⟩
    cases found with
    | none => exact blames_pure _
    | some n =>
      refine n.blames_datum.mono fun fault ⟨s, hs, hfault⟩ => .inr ?_
      exact ⟨ts, n, hts, hfound, s, hs, mem_judgedTags hfault, hfault⟩
  exact blames_iff.mp hread fault h

end ApiDirectives.Yaml
