import Mathlib.Data.List.DropRight

/-!
# Texts without what surrounds them

`trimmed p s` is `s` without the letters with `p` at its ends. With what was taken off it is `s`
again (`leading_trimmed_trailing`), and its first letter does not have `p`.
-/

namespace Text

variable {α : Type} {p : α → Bool} {s : List α} {c : α}

/-- The letters with `p` in front. -/
def leading (p : α → Bool) (s : List α) : List α := s.takeWhile p

/-- What is left without the letters with `p` at the ends. -/
def trimmed (p : α → Bool) (s : List α) : List α := (s.dropWhile p).rdropWhile p

/-- The letters with `p` behind the rest. -/
def trailing (p : α → Bool) (s : List α) : List α := (s.dropWhile p).rtakeWhile p

/-- The three parts make up the text. -/
theorem leading_trimmed_trailing (p : α → Bool) (s : List α) :
    leading p s ++ (trimmed p s ++ trailing p s) = s := by
  unfold leading trimmed trailing
  rw [List.rdropWhile_append_rtakeWhile, List.takeWhile_append_dropWhile]

theorem of_mem_leading (h : c ∈ leading p s) : p c = true := List.mem_takeWhile_imp h

theorem of_mem_trailing (h : c ∈ trailing p s) : p c = true := List.mem_rtakeWhile_imp h

/-- What is left does not start with a trimmed character. -/
theorem head?_trimmed (h : (trimmed p s).head? = some c) : p c = false := by
  obtain ⟨ys, hys⟩ := List.head?_eq_some_iff.mp h
  obtain ⟨zs, hzs⟩ := List.rdropWhile_prefix p (l := s.dropWhile p)
  have hhead := List.head?_dropWhile_not p s
  have hdrop : s.dropWhile p = c :: (ys ++ zs) := by
    rw [← hzs, show List.rdropWhile p (s.dropWhile p) = c :: ys from hys]
    rfl
  rw [hdrop] at hhead
  simpa using hhead

/-- What is left does not end with a trimmed character. -/
theorem getLast?_trimmed (h : (trimmed p s).getLast? = some c) : p c = false := by
  have hne : trimmed p s ≠ [] := by
    intro hnil
    simp [hnil] at h
  have hlast : (trimmed p s).getLast hne = c := by
    rw [List.getLast?_eq_some_getLast hne] at h
    exact Option.some.inj h
  have hnot := List.rdropWhile_last_not p (s.dropWhile p) hne
  rw [show (List.rdropWhile p (s.dropWhile p)).getLast hne = c from hlast] at hnot
  simpa using hnot

/-- Nothing is left of a text of trimmed characters only. -/
theorem trimmed_eq_nil (h : ∀ c ∈ s, p c = true) : trimmed p s = [] := by
  rw [trimmed, List.dropWhile_eq_nil_iff.mpr h, List.rdropWhile_nil]

/-- What is left stands between two letters without `p`. -/
theorem trimmed_trimmed (p : α → Bool) (s : List α) : trimmed p (trimmed p s) = trimmed p s := by
  have hfront : (trimmed p s).dropWhile p = trimmed p s := by
    cases hs : trimmed p s with
    | nil => rfl
    | cons c cs =>
      have hc : p c = false := head?_trimmed (s := s) (by rw [hs]; rfl)
      rw [List.dropWhile_cons, hc, if_neg Bool.false_ne_true]
  rw [trimmed, hfront]
  exact List.rdropWhile_idempotent p (s.dropWhile p)

/-- With nothing left, everything was in front. -/
theorem trailing_of_trimmed_nil (h : trimmed p s = []) : trailing p s = [] := by
  have hall : ∀ c ∈ s.dropWhile p, p c = true := List.rdropWhile_eq_nil_iff.mp h
  have hhead := List.head?_dropWhile_not p s
  unfold trailing
  cases hdrop : s.dropWhile p with
  | nil => rw [List.rtakeWhile_nil]
  | cons c cs =>
    have hc := hall c (by rw [hdrop]; exact List.mem_cons_self ..)
    simp [hdrop, hc] at hhead

end Text
