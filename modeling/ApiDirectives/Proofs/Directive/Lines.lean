import ApiDirectives.Directive.Line
import ApiDirectives.Proofs.Text.Lines

/-!
# Directives line by line

The directives of a text are those of its lines, each read for itself. So a text that is put together
with line feeds gives the directives of its parts one after the other, whatever the parts end in, and the
line that a directive keeps gives the same directive again: it has no blanks at its ends and no line end
inside.
-/

namespace ApiDirectives

open Text

namespace Remark

theorem ofLine?_empty : Remark.ofLine? "" = none := rfl

/-- A remark keeps the line it was read from, without the blanks at its ends. -/
theorem raw_of_ofLine? {line : String} {r : Remark} (h : Remark.ofLine? line = some r) :
    r.raw = String.ofList (trimList line.toList) := by
  unfold Remark.ofLine? Line.remark? at h
  obtain ⟨⟨keyword, tail⟩, -, h⟩ := Option.bind_eq_some_iff.mp h
  obtain ⟨d, -, h⟩ := Option.bind_eq_some_iff.mp h
  cases h
  rfl

/-- Blanks at the ends of a line do not count. -/
theorem ofLine?_trim (line : String) :
    Remark.ofLine? (String.ofList (trimList line.toList)) = Remark.ofLine? line := by
  unfold Remark.ofLine?
  rw [String.toList_ofList, trimList, trimList, trimOf_trimOf]

/-- The line that a remark keeps gives the remark. -/
theorem ofLine?_raw {line : String} {r : Remark} (h : Remark.ofLine? line = some r) :
    Remark.ofLine? r.raw = some r := by
  rw [raw_of_ofLine? h, ofLine?_trim, h]

/-- The directives of the rows of a text are those of its lines. -/
theorem filterMap_rowsOf (text : String) :
    (rowsOf text.toList).filterMap (fun l => Remark.ofLine? (String.ofList l)) =
      Remark.ofText text := by
  have hlines : Remark.ofText text =
      (linesOf text.toList).filterMap fun l => Remark.ofLine? (String.ofList l) := by
    rw [Remark.ofText, lines, List.filterMap_map]
    rfl
  rw [hlines, rowsOf]
  rcases linesFrom_concat_feed [] text.toList with hrows | hrows
  · rw [linesOf, hrows, linesOf]
  · rw [linesOf, hrows, List.filterMap_append, linesOf]
    exact List.append_nil _

/-- A line feed between two texts parts their directives. -/
theorem ofText_append (s t : String) :
    Remark.ofText (s ++ "\n" ++ t) = Remark.ofText s ++ Remark.ofText t := by
  have htext : (s ++ "\n" ++ t).toList = s.toList ++ '\n' :: t.toList := by simp
  rw [Remark.ofText, lines, htext, linesOf_append_feed, List.map_append, List.filterMap_append,
    List.filterMap_map, ← filterMap_rowsOf s]
  rfl

/-- A text of parts gives the directives of the parts. -/
theorem ofText_joined (parts : List String) :
    Remark.ofText (joined "\n" parts) = parts.flatMap Remark.ofText := by
  induction parts with
  | nil => rfl
  | cons part parts ih =>
    by_cases hlast : parts = []
    · subst hlast
      simp [joined_singleton]
    · rw [joined_cons hlast, ofText_append, ih, List.flatMap_cons]

/-- A text without line ends is read as one line. -/
theorem ofText_of_forall {text : String} (h : ∀ c ∈ text.toList, isLineEnd c = false) :
    Remark.ofText text = (Remark.ofLine? text).toList := by
  rw [← filterMap_rowsOf, rowsOf_of_forall h]
  cases hline : Remark.ofLine? text with
  | none => simp [hline]
  | some r => simp [hline]

/-- A remark of a text keeps a line without line ends. -/
theorem raw_unbroken {text : String} {r : Remark} (h : r ∈ Remark.ofText text) :
    ∀ c ∈ r.raw.toList, isLineEnd c = false := by
  obtain ⟨line, hline, hr⟩ := List.mem_filterMap.mp h
  obtain ⟨l, hl, rfl⟩ := List.mem_map.mp hline
  intro c hc
  rw [raw_of_ofLine? hr, String.toList_ofList, String.toList_ofList] at hc
  exact not_isLineEnd_of_mem_linesFrom hl (by simp) c (mem_of_mem_trimOf hc)

/-- A remark of a text keeps a line that gives it again and nothing else. -/
theorem ofText_raw {text : String} {r : Remark} (h : r ∈ Remark.ofText text) :
    Remark.ofText r.raw = [r] := by
  obtain ⟨line, -, hr⟩ := List.mem_filterMap.mp h
  rw [ofText_of_forall (raw_unbroken h), ofLine?_raw hr]
  rfl

end Remark

/-- Directives are read line by line: those of two texts with a line feed between them are those of the
first and then those of the second, and the lines that the directives of a text keep, each on a line of
its own, give the same directives. -/
theorem directives_linewise (s t : String) :
    Remark.ofText (s ++ "\n" ++ t) = Remark.ofText s ++ Remark.ofText t ∧
      Remark.ofText (joined "\n" ((Remark.ofText s).map (·.raw))) = Remark.ofText s := by
  refine ⟨Remark.ofText_append s t, ?_⟩
  rw [Remark.ofText_joined, List.flatMap_map]
  have hraw : ∀ r ∈ Remark.ofText s, Remark.ofText r.raw = [r] := fun r hr => Remark.ofText_raw hr
  generalize Remark.ofText s = remarks at hraw
  induction remarks with
  | nil => rfl
  | cons r rest ih =>
    obtain ⟨hr, hrest⟩ := List.forall_mem_cons.mp hraw
    rw [List.flatMap_cons, hr, ih hrest]
    rfl

end ApiDirectives
