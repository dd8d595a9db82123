import Mathlib.Data.List.Basic

/-!
# The lines of a text

A text is cut after every newline, so that its lines follow each other in it. Only the last line
may be without a newline.
-/

namespace Text

variable {α : Type} {newline : α} {s line : List α}

/-- A text and a newline, or, at the end, a text. -/
def IsLine (newline : α) (line : List α) : Prop :=
  ∃ body ending, line = body ++ ending ∧ newline ∉ body ∧
    (ending = [newline] ∨ ending = [] ∧ body ≠ [])

theorem IsLine.ne_nil (h : IsLine newline line) : line ≠ [] := by
  obtain ⟨body, ending, rfl, -, hending⟩ := h
  rcases hending with rfl | ⟨rfl, hbody⟩
  · simp
  · simpa using hbody

variable [DecidableEq α]

/-- The lines of a text, each with its newline. -/
def lines (newline : α) : List α → List (List α)
  | [] => []
  | c :: rest =>
    if c = newline then [newline] :: lines newline rest
    else match lines newline rest with
      | [] => [[c]]
      | first :: others => (c :: first) :: others

/-- A character that is no newline joins the first line behind it. -/
theorem lines_cons_of_ne {c : α} (hc : c ≠ newline) (rest : List α) :
    lines newline (c :: rest) =
      (c :: (lines newline rest).head?.getD []) :: (lines newline rest).tail := by
  rw [lines, if_neg hc]
  cases lines newline rest <;> rfl

theorem lines_eq_nil (h : lines newline s = []) : s = [] := by
  cases s with
  | nil => rfl
  | cons c rest =>
    by_cases hc : c = newline
    · simp [lines, hc] at h
    · simp [lines_cons_of_ne hc] at h

/-- Each piece is a line. -/
theorem isLine_of_mem (h : line ∈ lines newline s) : IsLine newline line := by
  induction s generalizing line with
  | nil => simp [lines] at h
  | cons c rest ih =>
    by_cases hc : c = newline
    · rw [lines, if_pos hc, List.mem_cons] at h
      rcases h with rfl | hmem
      · exact ⟨[], [newline], rfl, by simp, .inl rfl⟩
      · exact ih hmem
    · rw [lines_cons_of_ne hc] at h
      cases hlines : lines newline rest with
      | nil =>
        obtain rfl : line = [c] := by simpa [hlines] using h
        exact ⟨[c], [], rfl, by simpa using Ne.symm hc, .inr ⟨rfl, by simp⟩⟩
      | cons first others =>
        rw [hlines] at h ih
        rcases List.mem_cons.mp h with rfl | hmem
        · obtain ⟨body, ending, hfirst, hbody, hending⟩ := ih (List.mem_cons_self ..)
          refine ⟨c :: body, ending, ?_, ?_, hending.imp id fun h => ⟨h.1, by simp⟩⟩
          · rw [List.head?_cons, Option.getD_some, hfirst, List.cons_append]
          · rw [List.mem_cons, not_or]
            exact ⟨Ne.symm hc, hbody⟩
        · exact ih (List.mem_cons_of_mem _ hmem)

/-- A line without a newline is the last one. -/
theorem eq_nil_of_no_newline {others : List (List α)} (h : lines newline s = line :: others)
    (hline : newline ∉ line) : others = [] := by
  induction s generalizing line others with
  | nil => simp [lines] at h
  | cons c rest ih =>
    by_cases hc : c = newline
    · rw [lines, if_pos hc, List.cons.injEq] at h
      rw [← h.1] at hline
      simp at hline
    · rw [lines_cons_of_ne hc, List.cons.injEq] at h
      cases hlines : lines newline rest with
      | nil => rw [← h.2, hlines, List.tail_nil]
      | cons first others' =>
        rw [hlines] at h
        rw [← h.2]
        refine ih hlines fun hmem => hline ?_
        rw [← h.1]
        exact List.mem_cons_of_mem _ hmem

end Text
