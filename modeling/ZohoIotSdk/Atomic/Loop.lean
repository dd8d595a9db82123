import Mathlib.Data.Nat.Notation
import ZohoIotSdk.Atomic.Prog

/-!
# Loops of atomic steps

`Prog.loopFor`, a loop of a program with a bound on its turns, for loops that only the environment
brings to an end: a property that is proved for every bound holds of every execution that ends. Its
rule carries an invariant from turn to turn.
-/

namespace Atomic

namespace Prog

variable {σ ω ε α β : Type}

/-- At most `turns` turns of a loop, which goes on from a left value and ends with a right one. What
goes on after that many turns is not followed. -/
def loopFor (body : α → Prog σ ω ε (α ⊕ β)) : ℕ → α → Prog σ ω ε β
  | 0, _ => fault
  | turns + 1, a => do
    match ← body a with
    | .inl a => loopFor body turns a
    | .inr b => pure b

variable {body : α → Prog σ ω ε (α ⊕ β)}

/-- The invariant holds before every turn, and the turn that ends the loop establishes `Q`. -/
theorem wlp_loopFor (inv : α → σ → List ε → Prop) {Q : β → σ → List ε → Prop}
    (hbody : ∀ a s tr, inv a s tr →
      (body a).wlp (fun r s tr => r.elim (fun a => inv a s tr) fun b => Q b s tr) s tr)
    (turns : ℕ) {a : α} {s : σ} {tr : List ε} (h : inv a s tr) :
    (loopFor body turns a).wlp Q s tr := by
  induction turns generalizing a s tr with
  | zero => trivial
  | succ turns ih =>
    rw [loopFor, wlp_bind]
    apply wlp_mono (hbody a s tr h)
    intro r s' tr' hr
    cases r with
    | inl a' => exact ih hr
    | inr b => exact hr

end Prog

end Atomic
