import Mathlib.Logic.Function.Basic

/-!
# A gate that is tested and then closed

Threads that must not be in a section together share a flag. A thread finds the flag down,
raises it in a later step, and lowers it when it leaves. Between the test and the step that
raises the flag nothing keeps another thread from passing the test, too: the section is
exclusive as long as no thread passes while another one is on its way in (`Exclusive`).
-/

namespace Atomic

/-- Where a thread stands; it is `entering` from the test on until it has raised the flag. -/
inductive GatePhase where
  | outside
  | entering
  | inside
  deriving DecidableEq

/-- The flag, and where each thread stands. -/
structure Gate (τ : Type) where
  raised : Bool
  phase : τ → GatePhase

namespace Gate

variable {τ : Type}

/-- At most one thread is not outside, and the flag is up while one is inside. -/
structure Exclusive (g : Gate τ) : Prop where
  alone : ∀ t t', g.phase t ≠ .outside → g.phase t' ≠ .outside → t = t'
  raised : ∀ t, g.phase t = .inside → g.raised = true

variable [DecidableEq τ] {g : Gate τ} {t : τ}

/-- Thread `t` goes to another phase and leaves the flag at `raised`. -/
def move (g : Gate τ) (t : τ) (p : GatePhase) (raised : Bool) : Gate τ :=
  { raised, phase := Function.update g.phase t p }

/-- If all the others are outside, a thread that keeps the flag up while it is inside may go
wherever it likes. -/
theorem exclusive_move {p : GatePhase} {raised : Bool} (hout : ∀ t' ≠ t, g.phase t' = .outside)
    (hraised : p = .inside → raised = true) : (g.move t p raised).Exclusive := by
  have hother : ∀ t', (g.move t p raised).phase t' ≠ .outside → t' = t := by
    intro t' h
    by_contra hne
    apply h
    show Function.update g.phase t p t' = .outside
    rw [Function.update_of_ne hne, hout t' hne]
  constructor
  · intro t₁ t₂ h₁ h₂
    rw [hother t₁ h₁, hother t₂ h₂]
  · intro t' h
    have heq : t' = t := hother t' (by simp [h])
    subst heq
    apply hraised
    have hphase : Function.update g.phase t' p t' = .inside := h
    rwa [Function.update_self] at hphase

omit [DecidableEq τ] in
/-- While one thread is at the gate, every other one is outside it. -/
theorem Exclusive.outside (h : g.Exclusive) (ht : g.phase t ≠ .outside) :
    ∀ t' ≠ t, g.phase t' = .outside := by
  intro t' hne
  by_contra hin
  exact hne (h.alone t' t hin ht)

/-- What the step of a thread does to its phase and to the flag: nothing, or it passes the test,
raises the flag, or lowers it. -/
inductive Move : GatePhase → Bool → GatePhase → Bool → Prop
  | stay (p : GatePhase) (raised : Bool) : Move p raised p raised
  | pass : Move .outside false .entering false
  | enter (raised : Bool) : Move .entering raised .inside true
  | leave (raised : Bool) : Move .inside raised .outside false

/-- Every step keeps the section exclusive, if a thread that passes the test does so while no
other one is on its way in. -/
theorem Exclusive.step (h : g.Exclusive) {p : GatePhase} {raised : Bool}
    (hmove : Move (g.phase t) g.raised p raised)
    (hpass : g.phase t = .outside → p = .entering → ∀ t' ≠ t, g.phase t' ≠ .entering) :
    (g.move t p raised).Exclusive := by
  generalize hphase : g.phase t = p₀ at hmove hpass
  generalize hflag : g.raised = r₀ at hmove
  cases hmove with
  | stay =>
    have hsame : g.move t p raised = g := by
      rw [← hphase, ← hflag, move, Function.update_eq_self]
    rwa [hsame]
  | pass =>
    refine exclusive_move (fun t' hne => ?_) (by simp)
    -- a thread inside would have raised the flag
    cases hother : g.phase t' with
    | outside => rfl
    | entering => exact absurd hother (hpass rfl rfl t' hne)
    | inside =>
      have hup := h.raised t' hother
      rw [hflag] at hup
      simp at hup
  | enter => exact exclusive_move (h.outside (by simp [hphase])) fun _ => rfl
  | leave => exact exclusive_move (h.outside (by simp [hphase])) (by simp)

end Gate

end Atomic
