import ApiDirectives.Files.Discovery
import ApiDirectives.Proofs.Text.Blank

/-!
# Parts of a path and their text

A path below a directory is a list of parts, and its text is the parts with slashes between them. If
the parts are names that a directory can have, not empty and without slashes, nothing is lost:
`pieces_joined` cuts the text into the parts again.
-/

namespace ApiDirectives

open Text

/-- A name that can be a part of a path. -/
def IsPart (name : String) : Prop :=
  name ≠ "" ∧ '/' ∉ name.toList

instance (name : String) : Decidable (IsPart name) :=
  inferInstanceAs (Decidable (_ ∧ _))

namespace Text

/-- The text of a path is cut into its parts again. -/
theorem pieces_joined {parts : List String} (hne : parts ≠ [])
    (hparts : ∀ part ∈ parts, IsPart part) : pieces '/' (joined "/" parts) = parts := by
  have hcut : piecesOf '/' (joined "/" parts).toList = parts.map String.toList :=
    piecesOf_joined hne fun part hpart => (hparts part hpart).2
  rw [pieces, hcut, List.map_map]
  simp [Function.comp_def]

end Text

/-! ## Going down -/

theorem FilePath.join_nil (base : FilePath) : base.join {} = base := by
  simp [FilePath.join, FilePath.isAbsolute]

theorem FilePath.join_join (base : FilePath) (above below : List String) :
    (base.join { parts := above }).join { parts := below } =
      base.join { parts := above ++ below } := by
  simp [FilePath.join, FilePath.isAbsolute]

/-- The path of an entry is that of its directory with one part more. -/
theorem below_joined {above : List String} (habove : ∀ part ∈ above, IsPart part) (name : String) :
    below (joined "/" above) name = joined "/" (above ++ [name]) := by
  unfold below
  by_cases htop : above = []
  · subst htop
    rw [joined, String.intercalate_nil, if_pos rfl, List.nil_append, joined_singleton]
  · have hshown : joined "/" above ≠ "" := by
      intro hempty
      have hpieces := pieces_joined htop habove
      rw [hempty] at hpieces
      have hmem : "" ∈ above := by
        rw [← hpieces]
        decide
      exact (habove "" hmem).1 rfl
    rw [if_neg hshown]
    exact (String.intercalate_append_of_ne_nil htop (List.cons_ne_nil name [])).symm

end ApiDirectives
