import ZohoIotSdk.Atomic.Prog

/-!
# Paths of a transition relation

`Path R`: transitions of `R` one after the other, with the events of all of them.
`Follows`: what a program has done is a path of a more abstract relation. The rules put the paths
of the parts of a program together, and `Path.invariant` carries a property along a path, so that
it needs a proof for each transition only.
-/

namespace Atomic

variable {σ τ ε : Type} {R R' : τ → List ε → τ → Prop}

inductive Path (R : τ → List ε → τ → Prop) : τ → List ε → τ → Prop
  | nil (a : τ) : Path R a [] a
  | snoc {a b d : τ} {tr es : List ε} (before : Path R a tr b) (last : R b es d) :
      Path R a (tr ++ es) d

namespace Path

variable {a b d : τ} {tr es : List ε}

theorem single (h : R a es b) : Path R a es b := (nil a).snoc h

theorem trans (h : Path R a tr b) (h' : Path R b es d) : Path R a (tr ++ es) d := by
  induction h' with
  | nil => rwa [List.append_nil]
  | snoc _ last ih =>
    rw [← List.append_assoc]
    exact ih.snoc last

theorem mono (h : Path R a tr b) (hR : ∀ a es b, R a es b → R' a es b) : Path R' a tr b := by
  induction h with
  | nil => exact nil a
  | snoc _ last ih => exact ih.snoc (hR _ _ _ last)

/-- What every transition keeps, a path keeps. -/
theorem invariant {I : τ → List ε → Prop} (h : Path R a tr b)
    (hstep : ∀ a tr es b, I a tr → R a es b → I b (tr ++ es)) (ha : I a []) : I b tr := by
  induction h with
  | nil => exact ha
  | snoc _ last ih => exact hstep _ _ _ _ ih last

end Path

/-- From `s` and `tr` to `s'` and `tr'` by a path of `R` on the views of the states. -/
def Follows (view : σ → τ) (R : τ → List ε → τ → Prop) (s : σ) (tr : List ε) (s' : σ)
    (tr' : List ε) : Prop :=
  ∃ es, tr' = tr ++ es ∧ Path R (view s) es (view s')

namespace Follows

variable {view : σ → τ} {s s' s'' : σ} {tr tr' tr'' es : List ε}

/-- A move that leaves the view alone follows the relation with no effect. -/
theorem of_view_eq (h : view s' = view s) : Follows view R s tr s' tr := by
  refine ⟨[], (List.append_nil tr).symm, ?_⟩
  rw [h]
  exact .nil _

theorem refl : Follows view R s tr s tr := of_view_eq rfl

theorem step (h : R (view s) es (view s')) : Follows view R s tr s' (tr ++ es) :=
  ⟨es, rfl, .single h⟩

theorem trans (h : Follows view R s tr s' tr') (h' : Follows view R s' tr' s'' tr'') :
    Follows view R s tr s'' tr'' := by
  obtain ⟨es, rfl, hpath⟩ := h
  obtain ⟨es', rfl, hpath'⟩ := h'
  exact ⟨es ++ es', List.append_assoc .., hpath.trans hpath'⟩

theorem mono (h : Follows view R s tr s' tr') (hR : ∀ a es b, R a es b → R' a es b) :
    Follows view R' s tr s' tr' := by
  obtain ⟨es, heq, hpath⟩ := h
  exact ⟨es, heq, hpath.mono hR⟩

/-- What follows the relation only extends the trace. -/
theorem isPrefix (h : Follows view R s tr s' tr') : tr <+: tr' := by
  obtain ⟨es, rfl, -⟩ := h
  exact List.prefix_append ..

end Follows

end Atomic
