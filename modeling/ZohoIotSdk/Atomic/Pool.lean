import Mathlib.Data.List.Induction
import ZohoIotSdk.Atomic.Prog

/-!
# Interleavings of atomic-step programs

A pool of threads runs over one shared state: at every moment one thread takes one
atomic step. `Config.Reaches C` are the interleavings all of whose steps meet the
condition `C`, for any number of threads (the index type `τ` is arbitrary).

The second half is a rely-guarantee rule. A `Contract` fixes what each thread relies on
and guarantees. `Guarded` says of one thread that, whatever the other threads do within
its rely, each of its own steps keeps its guarantee; `Config.guarded_of_reaches` puts the
threads together.
-/

namespace Atomic

variable {τ σ ω ε α β : Type}

/-- The shared state together with the events emitted so far, each with its thread. -/
structure World (τ σ ε : Type) where
  state : σ
  trace : List (τ × ε)

/-- The world after thread `t` has replaced the state by `s` and emitted `es`. -/
def World.after (W : World τ σ ε) (t : τ) (s : σ) (es : List ε) : World τ σ ε :=
  { state := s, trace := W.trace ++ es.map fun e => (t, e) }

@[simp] theorem World.after_state (W : World τ σ ε) (t : τ) (s : σ) (es : List ε) :
    (W.after t s es).state = s := rfl

@[simp] theorem World.after_trace (W : World τ σ ε) (t : τ) (s : σ) (es : List ε) :
    (W.after t s es).trace = W.trace ++ es.map fun e => (t, e) := rfl

/-- The events of one thread in a trace. -/
def eventsOf [DecidableEq τ] (t : τ) (tr : List (τ × ε)) : List ε :=
  (tr.filter fun x => x.1 = t).map Prod.snd

/-- The events of one thread. -/
abbrev World.own [DecidableEq τ] (W : World τ σ ε) (t : τ) : List ε := eventsOf t W.trace

/-- A thread's own trace grows by the effects of its own step. -/
@[simp] theorem World.own_after_self [DecidableEq τ] (W : World τ σ ε) (t : τ) (s : σ)
    (es : List ε) : (W.after t s es).own t = W.own t ++ es := by
  simp [eventsOf, List.filter_map, Function.comp_def]

/-- A step of one thread leaves the own trace of another as it was. -/
theorem World.own_after_of_ne [DecidableEq τ] (W : World τ σ ε) {t t' : τ} (h : t ≠ t') (s : σ)
    (es : List ε) : (W.after t s es).own t' = W.own t' := by
  simp [eventsOf, List.filter_map, Function.comp_def, h]

/-- `W'` continues the trace of `W` with events that satisfy `P`. -/
def World.ExtendedBy (P : τ × ε → Prop) (W W' : World τ σ ε) : Prop :=
  ∃ new, W'.trace = W.trace ++ new ∧ ∀ x ∈ new, P x

namespace World.ExtendedBy

variable {P Q : τ × ε → Prop} {W W₁ W₂ : World τ σ ε}

theorem refl : ExtendedBy P W W := ⟨[], (List.append_nil _).symm, by simp⟩

theorem trans (h : ExtendedBy P W W₁) (h' : ExtendedBy P W₁ W₂) : ExtendedBy P W W₂ := by
  rcases h with ⟨new, htrace, hnew⟩
  rcases h' with ⟨new', htrace', hnew'⟩
  refine ⟨new ++ new', by rw [htrace', htrace, List.append_assoc], ?_⟩
  intro x hx
  rcases List.mem_append.mp hx with hx | hx
  · exact hnew x hx
  · exact hnew' x hx

theorem after {t : τ} {s : σ} {es : List ε} (h : ∀ e ∈ es, P (t, e)) :
    ExtendedBy P W (W.after t s es) := by
  refine ⟨es.map fun e => (t, e), rfl, fun x hx => ?_⟩
  obtain ⟨e, he, rfl⟩ := List.mem_map.mp hx
  exact h e he

theorem mono (h : ExtendedBy P W W₁) (hQ : ∀ x, P x → Q x) : ExtendedBy Q W W₁ := by
  rcases h with ⟨new, htrace, hnew⟩
  exact ⟨new, htrace, fun x hx => hQ x (hnew x hx)⟩

/-- A thread does not see the steps of others in its own events. -/
theorem own_eq [DecidableEq τ] {t : τ} (h : ExtendedBy P W W₁) (hP : ∀ x, P x → x.1 ≠ t) :
    W₁.own t = W.own t := by
  rcases h with ⟨new, htrace, hnew⟩
  have hnone : new.filter (fun x => x.1 = t) = [] := by
    apply List.filter_eq_nil_iff.mpr
    intro x hx
    simpa using hP x (hnew x hx)
  unfold World.own eventsOf
  rw [htrace, List.filter_append, hnone, List.append_nil]

end World.ExtendedBy

/-- A pool of threads over one world. -/
structure Config (τ σ ω ε : Type) where
  pool : τ → Prog σ ω ε Unit
  world : World τ σ ε

namespace Config

variable [DecidableEq τ]

/-- Thread `t` takes its next atomic step with the answer `w`, if it has one to take. -/
def fire (c : Config τ σ ω ε) (t : τ) (w : ω) : Option (Config τ σ ω ε) :=
  match c.pool t with
  | .step upd emit next =>
    some { pool := Function.update c.pool t (next w c.world.state)
           world := c.world.after t (upd w c.world.state) (emit w c.world.state) }
  | _ => none

/-- A condition on single steps: the thread, and the worlds before and after. -/
abbrev Condition (τ σ ε : Type) := τ → World τ σ ε → World τ σ ε → Prop

/-- One step of some thread that meets the condition `C`. -/
def StepMeeting (C : Condition τ σ ε) (c c' : Config τ σ ω ε) : Prop :=
  ∃ t w, c.fire t w = some c' ∧ C t c.world c'.world

/-- `c'` is reached from `c` by an interleaving whose steps all meet `C`. -/
def Reaches (C : Condition τ σ ε) (c c' : Config τ σ ω ε) : Prop :=
  Relation.ReflTransGen (StepMeeting C) c c'

/-- `c'` is reached from `c` by an interleaving each of whose steps is taken where `C` allows
the thread to take it. -/
def ReachesFrom (C : τ → Config τ σ ω ε → Prop) (c c' : Config τ σ ω ε) : Prop :=
  Relation.ReflTransGen (fun c c' => ∃ t w, c.fire t w = some c' ∧ C t c) c c'

/-- Run a schedule: which thread steps next, and with which answer. It fails if a thread
has no step to take, or if a step does not pass the check. -/
def schedule (check : τ → World τ σ ε → World τ σ ε → Bool) :
    List (τ × ω) → Config τ σ ω ε → Option (Config τ σ ω ε)
  | [], c => some c
  | (t, w) :: ts, c =>
    (c.fire t w).bind fun c' =>
      if check t c.world c'.world then schedule check ts c' else none

/-- A schedule is an interleaving. -/
theorem reaches_of_schedule {check : τ → World τ σ ε → World τ σ ε → Bool} {ts : List (τ × ω)}
    {c c' : Config τ σ ω ε} (h : schedule check ts c = some c') :
    c.Reaches (fun t W W' => check t W W' = true) c' := by
  induction ts generalizing c with
  | nil =>
    obtain rfl : c = c' := by simpa [schedule] using h
    exact .refl
  | cons x ts ih =>
    obtain ⟨c₁, hfire, hrest⟩ := Option.bind_eq_some_iff.mp h
    split at hrest
    · rename_i hcheck
      exact .head ⟨x.1, x.2, hfire, hcheck⟩ (ih hrest)
    · simp at hrest

/-- A test on where a schedule leads, which evaluation can decide. -/
theorem exists_reaches_of_schedule {check : τ → World τ σ ε → World τ σ ε → Bool}
    {ts : List (τ × ω)} {c : Config τ σ ω ε} {test : Config τ σ ω ε → Bool}
    (h : (schedule check ts c).any test = true) :
    ∃ c', c.Reaches (fun t W W' => check t W W' = true) c' ∧ test c' = true := by
  cases hrun : schedule check ts c with
  | none => simp [hrun] at h
  | some c' =>
    rw [hrun] at h
    exact ⟨c', reaches_of_schedule hrun, h⟩

/-- Run a schedule in which the test says where a thread may take its next step. -/
def scheduleFrom (allowed : τ → Config τ σ ω ε → Bool) :
    List (τ × ω) → Config τ σ ω ε → Option (Config τ σ ω ε)
  | [], c => some c
  | (t, w) :: ts, c =>
    if allowed t c then (c.fire t w).bind (scheduleFrom allowed ts) else none

/-- A schedule that runs through the allowed configurations is a reachable run. -/
theorem reachesFrom_of_schedule {C : τ → Config τ σ ω ε → Prop}
    {allowed : τ → Config τ σ ω ε → Bool} (hallowed : ∀ t c, allowed t c = true → C t c)
    {ts : List (τ × ω)} {c : Config τ σ ω ε} {test : Config τ σ ω ε → Bool}
    (h : (scheduleFrom allowed ts c).any test = true) :
    ∃ c', c.ReachesFrom C c' ∧ test c' = true := by
  induction ts generalizing c with
  | nil => exact ⟨c, .refl, h⟩
  | cons x ts ih =>
    simp only [scheduleFrom] at h
    split at h
    · rename_i hhere
      cases hfire : c.fire x.1 x.2 with
      | none => simp [hfire] at h
      | some c₁ =>
        rw [hfire] at h
        obtain ⟨c', hreach, htest⟩ := ih h
        exact ⟨c', .head ⟨x.1, x.2, hfire, hallowed _ _ hhere⟩ hreach, htest⟩
    · simp at h

/-- A weaker condition allows more interleavings. -/
theorem Reaches.mono {C C' : Condition τ σ ε} {c c' : Config τ σ ω ε} (h : c.Reaches C c')
    (hC : ∀ t W W', C t W W' → C' t W W') : c.Reaches C' c' := by
  induction h with
  | refl => exact .refl
  | tail _ hstep ih =>
    rcases hstep with ⟨t, w, hfire, hmeet⟩
    exact .tail ih ⟨t, w, hfire, hC _ _ _ hmeet⟩

/-- What holds wherever the interleavings lead holds before each of their steps. -/
theorem Reaches.with_invariant {C : Condition τ σ ε} {I : World τ σ ε → Prop}
    {c c' : Config τ σ ω ε} (h : c.Reaches C c') (hI : ∀ c₁, c.Reaches C c₁ → I c₁.world) :
    c.Reaches (fun t W W' => C t W W' ∧ I W) c' := by
  induction h with
  | refl => exact .refl
  | tail hreach hstep ih =>
    rcases hstep with ⟨t, w, hfire, hmeet⟩
    exact .tail ih ⟨t, w, hfire, hmeet, hI _ hreach⟩

/-- What a step does: only thread `t` moves, by the atomic step at its head. -/
theorem fire_eq_some {c c' : Config τ σ ω ε} {t : τ} {w : ω} (h : c.fire t w = some c') :
    ∃ upd emit next, c.pool t = .step upd emit next ∧
      c'.pool = Function.update c.pool t (next w c.world.state) ∧
      c'.world = c.world.after t (upd w c.world.state) (emit w c.world.state) := by
  unfold fire at h
  split at h
  · rename_i upd emit next hp
    obtain rfl := Option.some.inj h
    exact ⟨upd, emit, next, hp, rfl, rfl⟩
  · simp at h

/-- A relation between states and events that holds of no step, composes, and holds of
every step of every thread, holds of an interleaving as a whole. -/
theorem steps_of_reaches {φ : σ → σ → List ε → Prop} (hnil : ∀ s, φ s s [])
    (htrans : ∀ s₁ s₂ s₃ es es', φ s₁ s₂ es → φ s₂ s₃ es' → φ s₁ s₃ (es ++ es'))
    {C : Condition τ σ ε} {c c' : Config τ σ ω ε} (hreach : c.Reaches C c')
    (h : ∀ t, (c.pool t).Steps φ) :
    (∀ t, (c'.pool t).Steps φ) ∧ ∃ new, c'.world.trace = c.world.trace ++ new ∧
      φ c.world.state c'.world.state (new.map Prod.snd) := by
  induction hreach with
  | refl => exact ⟨h, [], (List.append_nil _).symm, hnil _⟩
  | @tail c₁ c₂ _ hstep ih =>
    rcases ih with ⟨hpool, new, htrace, hφ⟩
    rcases hstep with ⟨t₀, w, hfire, -⟩
    obtain ⟨upd, emit, next, hhead, hpool', hworld⟩ := fire_eq_some hfire
    have hsteps := hpool t₀
    rw [hhead] at hsteps
    obtain ⟨hlast, hnext⟩ := hsteps w c₁.world.state
    -- the thread that moved goes on with the rest of its program, the others keep theirs
    constructor
    · intro t
      rw [hpool']
      by_cases ht : t = t₀
      · subst ht
        rw [Function.update_self]
        exact hnext
      · rw [Function.update_of_ne ht]
        exact hpool t
    · refine ⟨new ++ (emit w c₁.world.state).map (fun e => (t₀, e)), ?_, ?_⟩
      · rw [hworld, World.after_trace, htrace, List.append_assoc]
      · rw [hworld, World.after_state, List.map_append, List.map_map]
        simpa [Function.comp_def] using htrans _ _ _ _ _ hφ hlast

end Config

/-! ## Rely and guarantee -/

/-- What the threads of a pool rely on and guarantee. `cond` is a condition that all steps
meet, `rely t` what thread `t` allows the others to do between its steps, `guarantee t`
what it promises of each of its own steps, and `crash t` what holds if it runs into
undefined behaviour. -/
structure Contract (τ σ ε : Type) where
  cond : Config.Condition τ σ ε
  rely : τ → World τ σ ε → World τ σ ε → Prop
  guarantee : τ → World τ σ ε → World τ σ ε → Prop
  crash : τ → World τ σ ε → Prop
  rely_refl : ∀ t W, rely t W W
  rely_trans : ∀ t W₁ W₂ W₃, rely t W₁ W₂ → rely t W₂ W₃ → rely t W₁ W₃
  compatible : ∀ t t' W s es, t ≠ t' → guarantee t W (W.after t s es) → rely t' W (W.after t s es)

/-- Run by thread `t` from the world `W`, with the other threads moving the world within the
rely of `t` between its steps, every step of the program is within the guarantee of `t`,
and the program ends with `Q`. -/
def Guarded (K : Contract τ σ ε) (t : τ) :
    Prog σ ω ε α → (α → World τ σ ε → Prop) → World τ σ ε → Prop
  | .pure a, Q, W => ∀ W', K.rely t W W' → Q a W'
  | .fault, _, W => ∀ W', K.rely t W W' → K.crash t W'
  | .step upd emit next, Q, W => ∀ W', K.rely t W W' → ∀ w,
      K.cond t W' (W'.after t (upd w W'.state) (emit w W'.state)) →
      K.guarantee t W' (W'.after t (upd w W'.state) (emit w W'.state)) ∧
      Guarded K t (next w W'.state) Q (W'.after t (upd w W'.state) (emit w W'.state))

namespace Guarded

variable {K : Contract τ σ ε} {t : τ}

/-- A guarded program stays guarded when the other threads move the world. -/
theorem of_rely {p : Prog σ ω ε α} {Q : α → World τ σ ε → Prop} {W W' : World τ σ ε}
    (h : Guarded K t p Q W) (hR : K.rely t W W') : Guarded K t p Q W' := by
  cases p with
  | pure a => exact fun W'' h' => h W'' (K.rely_trans _ _ _ _ hR h')
  | fault => exact fun W'' h' => h W'' (K.rely_trans _ _ _ _ hR h')
  | step upd emit next => exact fun W'' h' => h W'' (K.rely_trans _ _ _ _ hR h')

theorem mono {p : Prog σ ω ε α} {Q Q' : α → World τ σ ε → Prop} {W : World τ σ ε}
    (h : Guarded K t p Q W) (hQ : ∀ a W', Q a W' → Q' a W') : Guarded K t p Q' W := by
  induction p generalizing W with
  | pure a => exact fun W' hR => hQ _ _ (h W' hR)
  | fault => exact h
  | step upd emit next ih =>
    exact fun W' hR w hC => ⟨(h W' hR w hC).1, ih w W'.state (h W' hR w hC).2⟩

/-- The rule for sequential composition. -/
theorem bind {p : Prog σ ω ε α} {f : α → Prog σ ω ε β} {Q : β → World τ σ ε → Prop}
    {W : World τ σ ε} (h : Guarded K t p (fun a W' => Guarded K t (f a) Q W') W) :
    Guarded K t (p >>= f) Q W := by
  induction p generalizing W with
  | pure a => exact h W (K.rely_refl t W)
  | fault => exact h
  | step upd emit next ih =>
    exact fun W' hR w hC => ⟨(h W' hR w hC).1, ih w W'.state (h W' hR w hC).2⟩

/-- The rule for a program that has ended. -/
theorem pure {a : α} {Q : α → World τ σ ε → Prop} {W : World τ σ ε}
    (h : ∀ W', K.rely t W W' → Q a W') : Guarded K t (Pure.pure a : Prog σ ω ε α) Q W := h

/-- The rule for one step: from wherever the other threads have moved the world, the step
is within the guarantee, and `Q` holds wherever they move it then. -/
theorem act {upd : ω → σ → σ} {emit : ω → σ → List ε} {ret : ω → σ → α}
    {Q : α → World τ σ ε → Prop} {W : World τ σ ε}
    (h : ∀ W', K.rely t W W' → ∀ w,
      K.cond t W' (W'.after t (upd w W'.state) (emit w W'.state)) →
      K.guarantee t W' (W'.after t (upd w W'.state) (emit w W'.state)) ∧
      ∀ W'', K.rely t (W'.after t (upd w W'.state) (emit w W'.state)) W'' →
        Q (ret w W'.state) W'') :
    Guarded K t (Prog.act upd emit ret) Q W := h

/-- The rule for a program of which only the single steps matter: they keep the guarantee
and an assertion that the other threads keep, too. -/
theorem of_steps {φ : σ → σ → List ε → Prop} {J : World τ σ ε → Prop} {p : Prog σ ω ε α}
    (hp : p.Steps φ) (hR : ∀ W W', J W → K.rely t W W' → J W') (hcrash : ∀ W, J W → K.crash t W)
    (hG : ∀ W s es, J W → φ W.state s es → K.cond t W (W.after t s es) →
      K.guarantee t W (W.after t s es) ∧ J (W.after t s es))
    {W : World τ σ ε} (hW : J W) : Guarded K t p (fun _ W' => J W') W := by
  induction p generalizing W with
  | pure a => exact fun W' h => hR _ _ hW h
  | fault => exact fun W' h => hcrash _ (hR _ _ hW h)
  | step upd emit next ih =>
    intro W' h w hC
    obtain ⟨hstep, hnext⟩ := hp w W'.state
    obtain ⟨hguar, hafter⟩ := hG W' _ _ (hR _ _ hW h) hstep hC
    exact ⟨hguar, ih w W'.state hnext hafter⟩

end Guarded

namespace Config

variable [DecidableEq τ] {K : Contract τ σ ε} {Q : τ → World τ σ ε → Prop}

/-- **The rely-guarantee rule.** If every thread is guarded, every thread is still guarded
wherever an interleaving leads. -/
theorem guarded_of_reaches {c c' : Config τ σ ω ε} (hreach : c.Reaches K.cond c')
    (h : ∀ t, Guarded K t (c.pool t) (fun _ => Q t) c.world) (t : τ) :
    Guarded K t (c'.pool t) (fun _ => Q t) c'.world := by
  induction hreach generalizing t with
  | refl => exact h t
  | @tail c₁ c₂ _ hstep ih =>
    rcases hstep with ⟨t₀, w, hfire, hC⟩
    obtain ⟨upd, emit, next, hpool, hpool', hworld⟩ := fire_eq_some hfire
    have hown := ih t₀
    rw [hpool] at hown
    rw [hworld] at hC ⊢
    obtain ⟨hG, hnext⟩ := hown c₁.world (K.rely_refl t₀ c₁.world) w hC
    rw [hpool']
    -- the guarantee of the thread that moved is within the rely of the others
    by_cases ht : t = t₀
    · subst ht
      rw [Function.update_self]
      exact hnext
    · rw [Function.update_of_ne ht]
      exact (ih t).of_rely (K.compatible t₀ t _ _ _ (Ne.symm ht) hG)

/-- An invariant of the worlds that every guarantee keeps holds wherever an interleaving
leads. -/
theorem invariant_of_reaches {I : World τ σ ε → Prop}
    (hI : ∀ t W s es, I W → K.guarantee t W (W.after t s es) → I (W.after t s es))
    {c c' : Config τ σ ω ε} (hreach : c.Reaches K.cond c')
    (h : ∀ t, Guarded K t (c.pool t) (fun _ => Q t) c.world) (h₀ : I c.world) : I c'.world := by
  induction hreach with
  | refl => exact h₀
  | @tail c₁ c₂ hreach hstep ih =>
    rcases hstep with ⟨t₀, w, hfire, hC⟩
    obtain ⟨upd, emit, next, hpool, -, hworld⟩ := fire_eq_some hfire
    have hown := guarded_of_reaches hreach h t₀
    rw [hpool] at hown
    rw [hworld] at hC ⊢
    exact hI t₀ _ _ _ ih (hown c₁.world (K.rely_refl t₀ c₁.world) w hC).1

/-- A guarded thread that has neither ended nor crashed can take a step. -/
theorem isSome_fire_of_guarded {c : Config τ σ ω ε} {t : τ} {P : World τ σ ε → Prop}
    (h : Guarded K t (c.pool t) (fun _ => P) c.world) (hend : ¬ P c.world)
    (hcrash : ¬ K.crash t c.world) (w : ω) : (c.fire t w).isSome := by
  unfold fire
  -- only a thread at its end or at a fault has no step to take
  cases hpool : c.pool t with
  | pure a =>
    rw [hpool] at h
    exact absurd (h _ (K.rely_refl t _)) hend
  | fault =>
    rw [hpool] at h
    exact absurd (h _ (K.rely_refl t _)) hcrash
  | step upd emit next => rfl

end Config

end Atomic
