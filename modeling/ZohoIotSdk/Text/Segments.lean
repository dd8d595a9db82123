import Mathlib.Data.List.Basic

/-!
# The segments of a text

A text is split at a separator, and empty parts are left out. Everything about `segments`
follows from two equations: a separator divides the text (`segments_append_sep`), and a text
without one is a segment (`segments_of_notMem`).
-/

namespace Text

variable {α : Type} {sep : α} {s x y : List α}

/-- The last separator of a text. -/
theorem eq_append_cons_of_mem_last (h : sep ∈ s) :
    ∃ x y, s = x ++ sep :: y ∧ sep ∉ y := by
  obtain ⟨x, y, hs, hx⟩ := List.eq_append_cons_of_mem (List.mem_reverse.mpr h)
  refine ⟨y.reverse, x.reverse, ?_, by simpa using hx⟩
  rw [← List.reverse_reverse s, hs]
  simp

variable [DecidableEq α]

/-- The parts of the text between the separators, without the empty ones. -/
def segments (sep : α) (s : List α) : List (List α) := (s.splitOn sep).filter (· ≠ [])

@[simp] theorem segments_nil : segments sep [] = [] := by simp [segments]

/-- A separator splits the segments on both sides of it. -/
theorem segments_append_sep (sep : α) (x y : List α) :
    segments sep (x ++ sep :: y) = segments sep x ++ segments sep y := by
  unfold segments
  rw [List.splitOn_append_cons_self, List.filter_append]

/-- A text without separators is one segment. -/
theorem segments_of_notMem (hx : sep ∉ x) (hne : x ≠ []) : segments sep x = [x] := by
  unfold segments
  rw [List.splitOn_eq_singleton hx]
  simp [hne]

/-- A leading separator adds no segment. -/
@[simp] theorem segments_cons_sep (sep : α) (s : List α) :
    segments sep (sep :: s) = segments sep s := by
  simpa using segments_append_sep sep [] s

/-- What stands before the first separator is the first segment. -/
theorem segments_of_first (hx : sep ∉ x) (hne : x ≠ []) (y : List α) :
    segments sep (x ++ sep :: y) = x :: segments sep y := by
  rw [segments_append_sep, segments_of_notMem hx hne]
  rfl

/-! ## Text added at the ends -/

section Ends

variable {c : α}

/-- A text put before a separator is a segment of its own. -/
theorem segments_append_of_head_sep (hx : sep ∉ x) (hne : x ≠ []) (hs : s.head? = some sep) :
    segments sep (x ++ s) = x :: segments sep s := by
  obtain ⟨s', rfl⟩ := List.head?_eq_some_iff.mp hs
  rw [segments_of_first hx hne, segments_cons_sep]

/-- A text put before anything else lengthens the first segment. -/
theorem segments_append_of_head_ne (hx : sep ∉ x) (hs : s.head? = some c) (hc : c ≠ sep) :
    ∃ first rest, segments sep s = first :: rest ∧ first.head? = some c ∧
      segments sep (x ++ s) = (x ++ first) :: rest := by
  by_cases hsep : sep ∈ s
  · obtain ⟨first, y, rfl, hfirst⟩ := List.eq_append_cons_of_mem hsep
    have hne : first ≠ [] := by
      rintro rfl
      exact hc (Option.some.inj hs).symm
    have hx' : sep ∉ x ++ first := by simp [hx, hfirst]
    have hne' : x ++ first ≠ [] := by simp [hne]
    refine ⟨first, segments sep y, segments_of_first hfirst hne y, ?_, ?_⟩
    · rwa [List.head?_append_of_ne_nil _ hne] at hs
    · rw [← List.append_assoc, segments_of_first hx' hne']
  · have hne : s ≠ [] := by
      rintro rfl
      simp at hs
    have hx' : sep ∉ x ++ s := by simp [hx, hsep]
    have hne' : x ++ s ≠ [] := by simp [hne]
    exact ⟨s, [], segments_of_notMem hsep hne, hs, segments_of_notMem hx' hne'⟩

/-- A text put after a separator is a segment of its own. -/
theorem segments_append_of_getLast_sep (hy : sep ∉ y) (hne : y ≠ []) (hs : s.getLast? = some sep) :
    segments sep (s ++ y) = segments sep s ++ [y] := by
  obtain ⟨s', rfl⟩ := List.getLast?_eq_some_iff.mp hs
  rw [List.append_assoc, List.singleton_append, segments_append_sep, segments_append_sep,
    segments_of_notMem hy hne, segments_nil, List.append_nil]

/-- A text put after anything else lengthens the last segment. -/
theorem segments_append_of_getLast_ne (hy : sep ∉ y) (hs : s.getLast? = some c) (hc : c ≠ sep) :
    ∃ init last, segments sep s = init ++ [last] ∧ segments sep (s ++ y) = init ++ [last ++ y] := by
  by_cases hsep : sep ∈ s
  · obtain ⟨x, last, rfl, hlast⟩ := eq_append_cons_of_mem_last hsep
    have hne : last ≠ [] := by
      rintro rfl
      rw [List.getLast?_concat] at hs
      exact hc (Option.some.inj hs).symm
    have hy' : sep ∉ last ++ y := by simp [hy, hlast]
    have hne' : last ++ y ≠ [] := by simp [hne]
    refine ⟨segments sep x, last, ?_, ?_⟩
    · rw [segments_append_sep, segments_of_notMem hlast hne]
    · rw [List.append_assoc, List.cons_append, segments_append_sep, segments_of_notMem hy' hne']
  · have hne : s ≠ [] := by
      rintro rfl
      simp at hs
    have hy' : sep ∉ s ++ y := by simp [hy, hsep]
    have hne' : s ++ y ≠ [] := by simp [hne]
    exact ⟨[], s, segments_of_notMem hsep hne, segments_of_notMem hy' hne'⟩

end Ends

end Text
