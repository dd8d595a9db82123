import Mathlib.Data.List.Infix

/-!
# Rolling logs

What a log that is kept in a bounded number of files is for: items are written to the current
file; when that is given up, it becomes the newest archive, and the archives beyond the
`limit` are dropped. What is left is the end of everything that was written (`Kept`).
-/

namespace Files

variable {α : Type}

/-- The archives, the newest first, and the current file. -/
structure Rolling (α : Type) where
  archives : List (List α)
  current : List α

namespace Rolling

/-- A log before anything was written. -/
def empty : Rolling α := ⟨[], []⟩

/-- Everything that is left, the oldest first. -/
def items (r : Rolling α) : List α := r.archives.reverse.flatten ++ r.current

def write (r : Rolling α) (item : α) : Rolling α := { r with current := r.current ++ [item] }

/-- Give up the current file, and keep the newest `limit` archives. -/
def rotate (r : Rolling α) (limit : ℕ) : Rolling α :=
  { archives := (r.current :: r.archives).take limit, current := [] }

/-- After `written` was written, the end of it is left, in no more than `limit` archives. -/
structure Kept (r : Rolling α) (limit : ℕ) (written : List α) : Prop where
  suffix : r.items <:+ written
  bounded : r.archives.length ≤ limit

variable {r : Rolling α} {limit : ℕ} {written : List α}

theorem kept_empty : (empty : Rolling α).Kept limit [] :=
  ⟨List.suffix_rfl, Nat.zero_le _⟩

/-- A written item is kept. -/
theorem Kept.write (h : r.Kept limit written) (item : α) :
    (r.write item).Kept limit (written ++ [item]) := by
  refine ⟨?_, h.bounded⟩
  obtain ⟨dropped, hdropped⟩ := h.suffix
  refine ⟨dropped, ?_⟩
  rw [← hdropped]
  simp [items, Rolling.write]

/-- A rotation drops items from the old end only. -/
theorem items_rotate_suffix (r : Rolling α) (limit : ℕ) : (r.rotate limit).items <:+ r.items := by
  have htake : ((r.current :: r.archives).take limit).reverse <:+
      (r.current :: r.archives).reverse :=
    List.reverse_suffix.mpr (List.take_prefix limit _)
  obtain ⟨dropped, hdropped⟩ := htake
  refine ⟨dropped.flatten, ?_⟩
  rw [items, rotate, List.append_nil, ← List.flatten_append, hdropped, List.reverse_cons,
    List.flatten_append, List.flatten_singleton, items]

/-- A rotation keeps a suffix of what was written. -/
theorem Kept.rotate (h : r.Kept limit written) : (r.rotate limit).Kept limit written := by
  refine ⟨(items_rotate_suffix r limit).trans h.suffix, ?_⟩
  exact List.length_take_le _ _

end Rolling

end Files
