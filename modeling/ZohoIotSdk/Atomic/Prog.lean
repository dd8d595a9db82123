import Mathlib.Logic.Relation

/-!
# Programs made of atomic steps

A shallow embedding for code that works on a state shared with other threads and
asks its environment for answers (results of library calls, clock readings):

* `Prog`, a program whose atomic steps read one environment answer and the shared
  state, write the shared state, and emit observable events;
* `Prog.Exec`, its uninterrupted execution, for every choice of the answers, and
  `Prog.run`, the same with the answers given as a list;
* `Prog.wlp`, the weakest precondition of an uninterrupted execution, whose rules
  let a caller use the specification of a callee without unfolding it;
* `Prog.Steps`, what every single step of a program does whatever the state is, and
  `Prog.Until`, what its steps do until it has come to a program of a given kind;
* `Prog.Safe`, that no execution reaches a fault;
* `Prog.Keeps`, that a program keeps an invariant of the state and the events so far,
  and `Runs`, any number of programs of a given kind run one after the other;
* `Prog.Relates`, how an execution relates the states before and after it;
* `Prog.zoom`, a program on a part of a larger state.

A program is a finite tree, so every execution of it ends.
-/

namespace Atomic

/-- A program over the shared state `σ`, the environment answers `ω` and the events `ε`.

`step upd emit next` is one atomic step: it takes an answer, replaces the state by
`upd`, emits `emit`, and goes on with `next`; `fault` is undefined behaviour. -/
inductive Prog (σ ω ε α : Type) where
  | pure (a : α)
  | fault
  | step (upd : ω → σ → σ) (emit : ω → σ → List ε) (next : ω → σ → Prog σ ω ε α)

namespace Prog

variable {σ ω ε α β : Type}

/-- Sequential composition. -/
def bind : Prog σ ω ε α → (α → Prog σ ω ε β) → Prog σ ω ε β
  | .pure a, f => f a
  | .fault, _ => .fault
  | .step upd emit next, f => .step upd emit fun w s => (next w s).bind f

instance : Monad (Prog σ ω ε) where
  pure := Prog.pure
  bind := Prog.bind

@[simp] theorem pure_bind (a : α) (f : α → Prog σ ω ε β) :
    (Pure.pure a : Prog σ ω ε α) >>= f = f a := rfl

/-- Nothing runs after a fault. -/
@[simp] theorem fault_bind (f : α → Prog σ ω ε β) :
    (fault : Prog σ ω ε α) >>= f = fault := rfl

/-- What follows a step follows each of its continuations. -/
@[simp] theorem step_bind (upd : ω → σ → σ) (emit : ω → σ → List ε)
    (next : ω → σ → Prog σ ω ε α) (f : α → Prog σ ω ε β) :
    step upd emit next >>= f = step upd emit fun w s => next w s >>= f := rfl

/-! ## Primitive steps -/

/-- One atomic step that returns a value. -/
def act (upd : ω → σ → σ) (emit : ω → σ → List ε) (ret : ω → σ → α) : Prog σ ω ε α :=
  .step upd emit fun w s => .pure (ret w s)

/-- One atomic read of the shared state. -/
def read (f : σ → α) : Prog σ ω ε α := act (fun _ s => s) (fun _ _ => []) fun _ s => f s

/-- One atomic update of the shared state. -/
def modify (f : σ → σ) : Prog σ ω ε Unit := act (fun _ s => f s) (fun _ _ => []) fun _ _ => ()

/-! ## Uninterrupted execution -/

/-- `p.Exec s a es s'`: run alone from `s`, and for some answers of the environment,
`p` returns `a` in the state `s'` having emitted `es`. -/
def Exec : Prog σ ω ε α → σ → α → List ε → σ → Prop
  | .pure a, s, b, es, s' => b = a ∧ es = [] ∧ s' = s
  | .fault, _, _, _, _ => False
  | .step upd emit next, s, b, es, s' =>
    ∃ w es', es = emit w s ++ es' ∧ (next w s).Exec (upd w s) b es' s'

/-- Run `p` alone on the listed answers. -/
def run : Prog σ ω ε α → List ω → σ → Option (α × List ε × σ)
  | .pure a, _, s => some (a, [], s)
  | .fault, _, _ => none
  | .step _ _ _, [], _ => none
  | .step upd emit next, w :: ws, s =>
    match (next w s).run ws (upd w s) with
    | none => none
    | some (a, es, s') => some (a, emit w s ++ es, s')

/-- A run on listed answers is an execution. -/
theorem exec_of_run {p : Prog σ ω ε α} {ws : List ω} {s s' : σ} {a : α} {es : List ε}
    (h : p.run ws s = some (a, es, s')) : p.Exec s a es s' := by
  induction p generalizing ws s es with
  | pure b =>
    simp only [run, Option.some.injEq, Prod.mk.injEq] at h
    rcases h with ⟨rfl, rfl, rfl⟩
    exact ⟨rfl, rfl, rfl⟩
  | fault => simp [run] at h
  | step upd emit next ih =>
    cases ws with
    | nil => simp [run] at h
    | cons w ws =>
      simp only [run] at h
      split at h
      · simp at h
      · rename_i b es' t hrun
        simp only [Option.some.injEq, Prod.mk.injEq] at h
        rcases h with ⟨rfl, rfl, rfl⟩
        exact ⟨w, es', rfl, ih w s hrun⟩

/-- A test on the result of a run on listed answers, which evaluation can decide. -/
theorem exists_exec_of_run {p : Prog σ ω ε α} {ws : List ω} {s : σ}
    {test : α × List ε × σ → Bool} (h : (p.run ws s).any test = true) :
    ∃ a es s', p.Exec s a es s' ∧ test (a, es, s') = true := by
  cases hrun : p.run ws s with
  | none => simp [hrun] at h
  | some result =>
    rcases result with ⟨a, es, s'⟩
    rw [hrun] at h
    exact ⟨a, es, s', exec_of_run hrun, h⟩

/-- Execution of a sequential composition. -/
theorem exec_bind {p : Prog σ ω ε α} {f : α → Prog σ ω ε β} {s s' : σ} {b : β} {es : List ε} :
    (p >>= f).Exec s b es s' ↔
      ∃ a es₁ s₁ es₂, p.Exec s a es₁ s₁ ∧ (f a).Exec s₁ b es₂ s' ∧ es = es₁ ++ es₂ := by
  induction p generalizing s es with
  | pure a =>
    constructor
    · intro h
      exact ⟨a, [], s, es, ⟨rfl, rfl, rfl⟩, h, rfl⟩
    · rintro ⟨a', es₁, s₁, es₂, ⟨rfl, rfl, rfl⟩, h, rfl⟩
      exact h
  | fault =>
    constructor
    · intro h
      exact h.elim
    · rintro ⟨_, _, _, _, h, _⟩
      exact h.elim
  | step upd emit next ih =>
    simp only [step_bind, Exec]
    constructor
    · rintro ⟨w, es', rfl, h⟩
      obtain ⟨a, es₁, s₁, es₂, h₁, h₂, rfl⟩ := (ih w s).mp h
      exact ⟨a, emit w s ++ es₁, s₁, es₂, ⟨w, es₁, rfl, h₁⟩, h₂, by simp⟩
    · rintro ⟨a, es₁, s₁, es₂, ⟨w, es', rfl, h₁⟩, h₂, rfl⟩
      exact ⟨w, es' ++ es₂, by simp, (ih w s).mpr ⟨a, es', s₁, es₂, h₁, h₂, rfl⟩⟩

/-- Execution of a program that starts with one step. -/
theorem exec_act_bind {upd : ω → σ → σ} {emit : ω → σ → List ε} {ret : ω → σ → α}
    {f : α → Prog σ ω ε β} {s s' : σ} {b : β} {es : List ε} :
    (act upd emit ret >>= f).Exec s b es s' ↔
      ∃ w es', es = emit w s ++ es' ∧ (f (ret w s)).Exec (upd w s) b es' s' := Iff.rfl

/-! ## Weakest preconditions -/

/-- `p.wlp Q s tr`: run alone from `s` after the events `tr`, every execution of `p`
ends in a result, a state and events that satisfy `Q`. -/
def wlp : Prog σ ω ε α → (α → σ → List ε → Prop) → σ → List ε → Prop
  | .pure a, Q, s, tr => Q a s tr
  | .fault, _, _, _ => True
  | .step upd emit next, Q, s, tr => ∀ w, (next w s).wlp Q (upd w s) (tr ++ emit w s)

@[simp] theorem wlp_pure (a : α) (Q : α → σ → List ε → Prop) (s : σ) (tr : List ε) :
    (Pure.pure a : Prog σ ω ε α).wlp Q s tr ↔ Q a s tr := Iff.rfl

/-- An atomic step meets a postcondition when each of its answers does. -/
@[simp] theorem wlp_act (upd : ω → σ → σ) (emit : ω → σ → List ε) (ret : ω → σ → α)
    (Q : α → σ → List ε → Prop) (s : σ) (tr : List ε) :
    (act upd emit ret).wlp Q s tr ↔ ∀ w, Q (ret w s) (upd w s) (tr ++ emit w s) := Iff.rfl

@[simp] theorem wlp_fault (Q : α → σ → List ε → Prop) (s : σ) (tr : List ε) :
    (fault : Prog σ ω ε α).wlp Q s tr ↔ True := Iff.rfl

/-- The rule for sequencing: the rest is the postcondition of the first part. -/
@[simp] theorem wlp_bind (p : Prog σ ω ε α) (f : α → Prog σ ω ε β)
    (Q : β → σ → List ε → Prop) (s : σ) (tr : List ε) :
    (p >>= f).wlp Q s tr ↔ p.wlp (fun a s' tr' => (f a).wlp Q s' tr') s tr := by
  induction p generalizing s tr with
  | pure a => rfl
  | fault => rfl
  | step upd emit next ih => exact forall_congr' fun w => ih w s _ _

theorem wlp_ite {c : Prop} [Decidable c] (p q : Prog σ ω ε α) (Q : α → σ → List ε → Prop)
    (s : σ) (tr : List ε) :
    (if c then p else q).wlp Q s tr ↔ if c then p.wlp Q s tr else q.wlp Q s tr := by
  split <;> rfl

/-- The soundness of `wlp`: it speaks about every execution. -/
theorem wlp_iff {p : Prog σ ω ε α} {Q : α → σ → List ε → Prop} {s : σ} {tr : List ε} :
    p.wlp Q s tr ↔ ∀ a es s', p.Exec s a es s' → Q a s' (tr ++ es) := by
  induction p generalizing s tr with
  | pure a =>
    constructor
    · rintro h b es s' ⟨rfl, rfl, rfl⟩
      rwa [List.append_nil]
    · intro h
      have := h a [] s ⟨rfl, rfl, rfl⟩
      rwa [List.append_nil] at this
  | fault => exact ⟨fun _ _ _ _ h => h.elim, fun _ => trivial⟩
  | step upd emit next ih =>
    constructor
    · rintro h a es s' ⟨w, es', rfl, he⟩
      rw [← List.append_assoc]
      exact (ih w s).mp (h w) a es' s' he
    · intro h w
      refine (ih w s).mpr fun a es s' he => ?_
      rw [List.append_assoc]
      exact h a (emit w s ++ es) s' ⟨w, es, rfl, he⟩

/-- The rule of consequence. -/
theorem wlp_mono {p : Prog σ ω ε α} {Q Q' : α → σ → List ε → Prop} {s : σ} {tr : List ε}
    (h : p.wlp Q s tr) (hQ : ∀ a s' tr', Q a s' tr' → Q' a s' tr') : p.wlp Q' s tr := by
  rw [wlp_iff] at h ⊢
  exact fun a es s' he => hQ _ _ _ (h a es s' he)

/-- Inversion of an execution: to find out what it can do, compute the weakest
precondition from no events. -/
theorem Exec.of_wlp {p : Prog σ ω ε α} {Q : α → List ε → σ → Prop} {s : σ}
    (hp : p.wlp (fun a s' es => Q a es s') s []) {a : α} {es : List ε} {s' : σ}
    (h : p.Exec s a es s') : Q a es s' :=
  wlp_iff.mp hp a es s' h

/-- The same behind the events of a trace. -/
theorem Exec.wlp_append {p : Prog σ ω ε α} {Q : α → σ → List ε → Prop} {s s' : σ} {a : α}
    {es : List ε} (h : p.Exec s a es s') (tr : List ε) (hp : p.wlp Q s tr) : Q a s' (tr ++ es) :=
  wlp_iff.mp hp a es s' h

/-! ## What every step does -/

/-- Every atomic step of the program, from any state and for any answer, relates the
state before, the state after and the emitted events by `φ`. -/
def Steps (φ : σ → σ → List ε → Prop) : Prog σ ω ε α → Prop
  | .pure _ => True
  | .fault => True
  | .step upd emit next => ∀ w s, φ s (upd w s) (emit w s) ∧ (next w s).Steps φ

variable {φ ψ : σ → σ → List ε → Prop}

@[simp] theorem steps_pure (a : α) : (Pure.pure a : Prog σ ω ε α).Steps φ := trivial

@[simp] theorem steps_fault : (fault : Prog σ ω ε α).Steps φ := trivial

@[simp] theorem steps_act (upd : ω → σ → σ) (emit : ω → σ → List ε) (ret : ω → σ → α) :
    (act upd emit ret).Steps φ ↔ ∀ w s, φ s (upd w s) (emit w s) :=
  ⟨fun h w s => (h w s).1, fun h w s => ⟨h w s, trivial⟩⟩

/-- The rule for sequencing of step conditions. -/
theorem steps_bind {p : Prog σ ω ε α} {f : α → Prog σ ω ε β} (hp : p.Steps φ)
    (hf : ∀ a, (f a).Steps φ) : (p >>= f).Steps φ := by
  induction p with
  | pure a => exact hf a
  | fault => trivial
  | step upd emit next ih => exact fun w s => ⟨(hp w s).1, ih w s (hp w s).2⟩

theorem steps_ite {c : Prop} [Decidable c] {p q : Prog σ ω ε α} (hp : p.Steps φ)
    (hq : q.Steps φ) : (if c then p else q).Steps φ := by
  split
  · exact hp
  · exact hq

/-- A condition that every move satisfies holds of every program. -/
theorem steps_of_forall (h : ∀ s s' es, φ s s' es) (p : Prog σ ω ε α) : p.Steps φ := by
  induction p with
  | pure a => trivial
  | fault => trivial
  | step upd emit next ih => exact fun w s => ⟨h _ _ _, ih w s⟩

/-- The rule of consequence for step conditions. -/
theorem steps_mono {p : Prog σ ω ε α} (hp : p.Steps φ) (h : ∀ s s' es, φ s s' es → ψ s s' es) :
    p.Steps ψ := by
  induction p with
  | pure a => trivial
  | fault => trivial
  | step upd emit next ih => exact fun w s => ⟨h _ _ _ (hp w s).1, ih w s (hp w s).2⟩

/-- Every step of the program has `φ` until the rest of it satisfies `K`. -/
inductive Until (φ : σ → σ → List ε → Prop) (K : Prog σ ω ε α → Prop) : Prog σ ω ε α → Prop
  | here {p : Prog σ ω ε α} (h : K p) : Until φ K p
  | fault : Until φ K .fault
  | step {upd : ω → σ → σ} {emit : ω → σ → List ε} {next : ω → σ → Prog σ ω ε α}
      (hstep : ∀ w s, φ s (upd w s) (emit w s)) (hnext : ∀ w s, Until φ K (next w s)) :
      Until φ K (.step upd emit next)

/-- A first part with only `φ` steps may stand before a program that is `Until`. -/
theorem until_bind {K : Prog σ ω ε β → Prop} {p : Prog σ ω ε α} {f : α → Prog σ ω ε β}
    (hp : p.Steps φ) (hf : ∀ a, Until φ K (f a)) : Until φ K (p >>= f) := by
  induction p with
  | pure a => exact hf a
  | fault => exact .fault
  | step upd emit next ih => exact .step (fun w s => (hp w s).1) fun w s => ih w s (hp w s).2

theorem until_ite {K : Prog σ ω ε α → Prop} {c : Prop} [Decidable c] {p q : Prog σ ω ε α}
    (hp : Until φ K p) (hq : Until φ K q) : Until φ K (if c then p else q) := by
  split
  · exact hp
  · exact hq

/-! ## Absence of faults -/

/-- Run alone from `s`, the program reaches no fault, whatever the environment answers. -/
def Safe : Prog σ ω ε α → σ → Prop
  | .pure _, _ => True
  | .fault, _ => False
  | .step upd _ next, s => ∀ w, (next w s).Safe (upd w s)

@[simp] theorem safe_pure (a : α) (s : σ) : (Pure.pure a : Prog σ ω ε α).Safe s := trivial

/-- A fault is never safe. -/
@[simp] theorem safe_fault (s : σ) : (fault : Prog σ ω ε α).Safe s ↔ False := Iff.rfl

theorem safe_act (upd : ω → σ → σ) (emit : ω → σ → List ε) (ret : ω → σ → α) (s : σ) :
    (act upd emit ret).Safe s := fun _ => trivial

/-- A sequence is safe when its first part is and the rest is safe wherever that ends. -/
theorem safe_bind {p : Prog σ ω ε α} {f : α → Prog σ ω ε β} {s : σ} :
    (p >>= f).Safe s ↔ p.Safe s ∧ ∀ a es s', p.Exec s a es s' → (f a).Safe s' := by
  induction p generalizing s with
  | pure a =>
    constructor
    · intro h
      refine ⟨trivial, fun b es s' he => ?_⟩
      rcases he with ⟨rfl, -, rfl⟩
      exact h
    · intro h
      exact h.2 a [] s ⟨rfl, rfl, rfl⟩
  | fault => exact ⟨fun h => h.elim, fun h => h.1.elim⟩
  | step upd emit next ih =>
    constructor
    · intro h
      refine ⟨fun w => ((ih w s).mp (h w)).1, fun a es s' he => ?_⟩
      rcases he with ⟨w, es', -, he'⟩
      exact ((ih w s).mp (h w)).2 a es' s' he'
    · intro h w
      exact (ih w s).mpr ⟨h.1 w, fun a es s' he => h.2 a _ s' ⟨w, es, rfl, he⟩⟩

/-- Is the program undefined behaviour from its first step on? -/
def isFault : Prog σ ω ε α → Bool
  | .fault => true
  | _ => false

theorem not_safe_of_isFault {p : Prog σ ω ε α} (h : p.isFault = true) (s : σ) : ¬ p.Safe s := by
  cases p with
  | fault => exact id
  | pure a => simp [isFault] at h
  | step upd emit next => simp [isFault] at h

theorem safe_ite {c : Prop} [Decidable c] {p q : Prog σ ω ε α} {s : σ} (hp : p.Safe s)
    (hq : q.Safe s) : (if c then p else q).Safe s := by
  split
  · exact hp
  · exact hq

/-- A program that reaches no fault has an execution. -/
theorem Safe.exists_exec [Nonempty ω] {p : Prog σ ω ε α} {s : σ} (h : p.Safe s) :
    ∃ a es s', p.Exec s a es s' := by
  induction p generalizing s with
  | pure a => exact ⟨a, [], s, rfl, rfl, rfl⟩
  | fault => exact h.elim
  | step upd emit next ih =>
    obtain ⟨w⟩ := ‹Nonempty ω›
    obtain ⟨a, es, s', he⟩ := ih w s (h w)
    exact ⟨a, _, s', w, es, rfl, he⟩

/-! ## Invariants of a program -/

/-- An execution that starts with `I` ends with `I`. -/
def Keeps (I : σ → List ε → Prop) (p : Prog σ ω ε α) : Prop :=
  ∀ s tr, I s tr → p.wlp (fun _ => I) s tr

variable {I : σ → List ε → Prop}

theorem keeps_pure (a : α) : Keeps I (Pure.pure a : Prog σ ω ε α) := fun _ _ h => h

theorem keeps_fault : Keeps I (fault : Prog σ ω ε α) := fun _ _ _ => trivial

/-- The rule for sequencing of invariants. -/
theorem keeps_bind {p : Prog σ ω ε α} {f : α → Prog σ ω ε β} (hp : Keeps I p)
    (hf : ∀ a, Keeps I (f a)) : Keeps I (p >>= f) := by
  intro s tr h
  rw [wlp_bind]
  exact wlp_mono (hp s tr h) fun a s' tr' h' => hf a s' tr' h'

/-- What a program keeps, read off its executions. -/
theorem keeps_of_exec {p : Prog σ ω ε α}
    (h : ∀ s tr a es s', I s tr → p.Exec s a es s' → I s' (tr ++ es)) : Keeps I p :=
  fun s tr hs => wlp_iff.mpr fun a es s' he => h s tr a es s' hs he

/-! ## What an execution does as a whole -/

/-- Every execution from a state with `P` relates the state before, the state after and the
emitted events by `φ`. -/
def Relates (P : σ → Prop) (φ : σ → σ → List ε → Prop) (p : Prog σ ω ε α) : Prop :=
  ∀ s a es s', P s → p.Exec s a es s' → φ s s' es

/-- A relation that can be followed along a program, from states with `P`. -/
structure Composable (P : σ → Prop) (φ : σ → σ → List ε → Prop) : Prop where
  refl : ∀ s, φ s s []
  trans : ∀ {s s' s'' es es'}, φ s s' es → φ s' s'' es' → φ s s'' (es ++ es')
  keeps : ∀ {s s' es}, P s → φ s s' es → P s'

namespace Composable

variable {P : σ → Prop} (h : Composable P φ)

include h

theorem pure (a : α) : Relates P φ (Pure.pure a : Prog σ ω ε α) := by
  rintro s _ _ _ _ ⟨-, rfl, rfl⟩
  exact h.refl _

theorem bind {p : Prog σ ω ε α} {f : α → Prog σ ω ε β} (hp : Relates P φ p)
    (hf : ∀ a, Relates P φ (f a)) : Relates P φ (p >>= f) := by
  intro s b es s'' hs hexec
  obtain ⟨a, es₁, s', es₂, h₁, h₂, rfl⟩ := exec_bind.mp hexec
  have hfirst := hp s a es₁ s' hs h₁
  exact h.trans hfirst (hf a s' b es₂ s'' (h.keeps hs hfirst) h₂)

end Composable

theorem relates_fault {P : σ → Prop} : Relates P φ (fault : Prog σ ω ε α) :=
  fun _ _ _ _ _ h => h.elim

/-- An atomic step is checked from the states that meet the precondition. -/
theorem relates_act {P : σ → Prop} {upd : ω → σ → σ} {emit : ω → σ → List ε} {ret : ω → σ → α}
    (h : ∀ w s, P s → φ s (upd w s) (emit w s)) : Relates P φ (act upd emit ret) := by
  rintro s _ _ _ hs ⟨w, _, rfl, -, rfl, rfl⟩
  rw [List.append_nil]
  exact h w s hs

theorem relates_ite {P : σ → Prop} {c : Prop} [Decidable c] {p q : Prog σ ω ε α}
    (hp : Relates P φ p) (hq : Relates P φ q) : Relates P φ (if c then p else q) := by
  split
  · exact hp
  · exact hq

/-- The precondition may be strengthened. -/
theorem Relates.weaken {P P' : σ → Prop} {p : Prog σ ω ε α} (h : Relates P φ p)
    (hP : ∀ s, P' s → P s) : Relates P' φ p :=
  fun s a es s' hs => h s a es s' (hP s hs)

theorem Relates.mono {P : σ → Prop} {p : Prog σ ω ε α} (h : Relates P φ p)
    (hφ : ∀ s s' es, P s → φ s s' es → ψ s s' es) : Relates P ψ p :=
  fun s a es s' hs hexec => hφ s s' es hs (h s a es s' hs hexec)

/-! ## Programs on a part of the state -/

section Zoom

variable {ρ : Type} {get : ρ → σ} {set : σ → ρ → ρ}

/-- A program on the part of a larger state that `get` reads and `set` writes. -/
def zoom (get : ρ → σ) (set : σ → ρ → ρ) : Prog σ ω ε α → Prog ρ ω ε α
  | .pure a => .pure a
  | .fault => .fault
  | .step upd emit next => .step (fun w r => set (upd w (get r)) r) (fun w r => emit w (get r))
      fun w r => zoom get set (next w (get r))

/-- Where `get` and `set` obey the laws of a lens, it does to the part what the program does,
and nothing else. -/
theorem exec_of_zoom (hget : ∀ s r, get (set s r) = s) (hset : ∀ s s' r, set s (set s' r) = set s r)
    (hself : ∀ r, set (get r) r = r) {p : Prog σ ω ε α} {r r' : ρ} {a : α} {es : List ε}
    (h : (p.zoom get set).Exec r a es r') : ∃ s, p.Exec (get r) a es s ∧ r' = set s r := by
  induction p generalizing r es with
  | pure b =>
    rcases h with ⟨rfl, rfl, rfl⟩
    exact ⟨get r', ⟨rfl, rfl, rfl⟩, (hself r').symm⟩
  | fault => exact h.elim
  | step upd emit next ih =>
    obtain ⟨w, es', rfl, hnext⟩ := h
    obtain ⟨s, hexec, rfl⟩ := ih w (get r) hnext
    rw [hget] at hexec
    exact ⟨s, ⟨w, es', rfl, hexec⟩, hset _ _ _⟩

end Zoom

end Prog

/-! ## Sequences of programs -/

/-- `Runs P s tr s'`: some programs that satisfy `P`, run one after the other from `s`,
lead to `s'` and emit `tr` on the way. -/
inductive Runs {σ ω ε : Type} (P : Prog σ ω ε Unit → Prop) : σ → List ε → σ → Prop
  | nil (s : σ) : Runs P s [] s
  | snoc {s s' s'' : σ} {tr es : List ε} {p : Prog σ ω ε Unit} (before : Runs P s tr s')
      (hp : P p) (last : p.Exec s' () es s'') : Runs P s (tr ++ es) s''

/-- What every program keeps, a sequence of them keeps. -/
theorem Runs.invariant {σ ω ε : Type} {P : Prog σ ω ε Unit → Prop} {I : σ → List ε → Prop}
    (hP : ∀ p, P p → Prog.Keeps I p) {s s' : σ} {tr : List ε} (h : Runs P s tr s')
    (h₀ : I s []) : I s' tr := by
  induction h with
  | nil => exact h₀
  | snoc _ hp last ih => exact Prog.wlp_iff.mp (hP _ hp _ _ ih) _ _ _ last

end Atomic
