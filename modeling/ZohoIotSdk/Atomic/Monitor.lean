import ZohoIotSdk.Atomic.Path
import ZohoIotSdk.Atomic.Trace

/-!
# Monitors

A monitor goes from state to state with every event of a trace, and may forbid an event in the state
it is in. `Monitored`: what it makes of some events. `Path.monitored`: a property of this kind needs a
proof for each transition of a machine only, if a part of the machine's state is the state of the
monitor.
-/

namespace Atomic

variable {τ ε β : Type} {step : β → ε → β} {Allowed : β → ε → Prop} {x y z : β} {es es' : List ε}

/-- From `x` to `y`, and every event is allowed where it happens. -/
structure Monitored (step : β → ε → β) (Allowed : β → ε → Prop) (x : β) (es : List ε) (y : β) :
    Prop where
  ends : es.foldl step x = y
  allowed : EachAfter (fun before e => Allowed (before.foldl step x) e) es

namespace Monitored

theorem nil (x : β) : Monitored step Allowed x [] x := ⟨rfl, eachAfter_nil⟩

theorem append (h : Monitored step Allowed x es y) (h' : Monitored step Allowed y es' z) :
    Monitored step Allowed x (es ++ es') z := by
  obtain ⟨rfl, hes⟩ := h
  obtain ⟨rfl, hes'⟩ := h'
  refine ⟨List.foldl_append, eachAfter_append.mpr ⟨hes, ?_⟩⟩
  simpa only [List.foldl_append] using hes'

theorem cons {e : ε} (he : Allowed x e) (h : Monitored step Allowed (step x e) es y) :
    Monitored step Allowed x (e :: es) y :=
  ⟨h.ends, eachAfter_cons.mpr ⟨he, h.allowed⟩⟩

theorem single {e : ε} (he : Allowed x e) : Monitored step Allowed x [e] (step x e) :=
  cons he (nil _)

/-- Events that the monitor takes no notice of. -/
theorem quiet (h : ∀ e ∈ es, step x e = x ∧ Allowed x e) : Monitored step Allowed x es x := by
  induction es with
  | nil => exact nil x
  | cons e es ih =>
    rw [List.forall_mem_cons] at h
    refine cons h.1.2 ?_
    rw [h.1.1]
    exact ih h.2

end Monitored

/-- What the monitor makes of every transition, it makes of a path. -/
theorem Path.monitored {R : τ → List ε → τ → Prop} {view : τ → β} {a b : τ} {tr : List ε}
    (h : Path R a tr b)
    (hstep : ∀ a es b, R a es b → Monitored step Allowed (view a) es (view b)) :
    Monitored step Allowed (view a) tr (view b) := by
  induction h with
  | nil => exact .nil _
  | snoc _ last ih => exact ih.append (hstep _ _ _ last)

end Atomic
