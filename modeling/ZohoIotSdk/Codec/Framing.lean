import Mathlib.Data.List.Infix

/-!
# Words of a prefix code, one after the other

`PrefixFree C`: no word of the code `C` begins another one. A text that is put together from such
words is taken apart in one way only, however far it has been read.
-/

namespace Codec

variable {α β : Type}

/-- Words of which none begins another one, and none is empty. -/
structure PrefixFree (C : List α → Prop) : Prop where
  nonempty : ∀ {u}, C u → u ≠ []
  unique : ∀ {u v x y}, C u → C v → u ++ x = v ++ y → u = v

namespace PrefixFree

variable {C : List α → Prop} (h : PrefixFree C)

include h

/-- Words that make up the start of a text are the first words of it. -/
theorem isPrefix {us vs : List (List α)} (hus : ∀ u ∈ us, C u) (hvs : ∀ v ∈ vs, C v)
    {rest : List α} (heq : us.flatten ++ rest = vs.flatten) : us <+: vs := by
  induction us generalizing vs with
  | nil => exact List.nil_prefix
  | cons u us ih =>
    rw [List.forall_mem_cons] at hus
    rw [List.flatten_cons, List.append_assoc] at heq
    cases vs with
    | nil =>
      have hnil := (List.append_eq_nil_iff.mp heq).1
      exact absurd hnil (h.nonempty hus.1)
    | cons v vs =>
      rw [List.forall_mem_cons] at hvs
      rw [List.flatten_cons] at heq
      obtain rfl := h.unique hus.1 hvs.1 heq
      have htail := ih hus.2 hvs.2 (List.append_cancel_left heq)
      rwa [List.cons_prefix_cons, eq_self, true_and]

end PrefixFree

end Codec
