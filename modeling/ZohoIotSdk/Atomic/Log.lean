import ZohoIotSdk.Atomic.Prog
import ZohoIotSdk.Atomic.Trace

/-!
# Logged executions

The events of an execution do not show everything its environment answered. `Prog.logged`
is the same program with every atomic step written down: the state it was taken in, the
answer it got, and what it emitted. `Recorded` are sequences of calls with such a log kept of
each one, for properties that compare what happened during a call with the state at its end.
-/

namespace Atomic

variable {σ ω ε α β : Type}

/-- One atomic step that was taken. -/
structure LogEntry (σ ω ε : Type) where
  state : σ
  answer : ω
  effects : List ε

namespace Prog

/-- The program with its steps written down. -/
def logged : Prog σ ω ε α → Prog σ ω (LogEntry σ ω ε) α
  | .pure a => .pure a
  | .fault => .fault
  | .step upd emit next => .step upd (fun w s => [⟨s, w, emit w s⟩]) fun w s => (next w s).logged

@[simp] theorem logged_pure (a : α) : (Pure.pure a : Prog σ ω ε α).logged = Pure.pure a := rfl

@[simp] theorem logged_act (upd : ω → σ → σ) (emit : ω → σ → List ε) (ret : ω → σ → α) :
    (act upd emit ret).logged = act upd (fun w s => [⟨s, w, emit w s⟩]) ret := rfl

@[simp] theorem logged_bind (p : Prog σ ω ε α) (f : α → Prog σ ω ε β) :
    (p >>= f).logged = p.logged >>= fun a => (f a).logged := by
  induction p with
  | pure a => rfl
  | fault => rfl
  | step upd emit next ih =>
    simp only [step_bind, logged, step.injEq, true_and]
    funext w s
    exact ih w s

theorem logged_ite {c : Prop} [Decidable c] (p q : Prog σ ω ε α) :
    (if c then p else q).logged = if c then p.logged else q.logged := by
  split <;> rfl

/-- The log leaves the execution as it is; what was emitted can be read off it. -/
theorem exec_of_logged {p : Prog σ ω ε α} {s s' : σ} {a : α} {log : List (LogEntry σ ω ε)}
    (h : p.logged.Exec s a log s') : p.Exec s a (log.flatMap LogEntry.effects) s' := by
  induction p generalizing s log with
  | pure b =>
    rcases h with ⟨rfl, rfl, rfl⟩
    exact ⟨rfl, rfl, rfl⟩
  | fault => exact h.elim
  | step upd emit next ih =>
    rcases h with ⟨w, log', rfl, h'⟩
    refine ⟨w, log'.flatMap LogEntry.effects, ?_, ih w s h'⟩
    rw [List.flatMap_append, List.flatMap_singleton]

end Prog

/-! ## Recorded calls -/

/-- A call that was made: the state it was made in, its log, and the state it left. -/
structure Record (ι σ ω ε : Type) where
  before : σ
  call : ι
  log : List (LogEntry σ ω ε)
  after : σ

/-- What the call emitted. -/
def Record.effects {ι : Type} (r : Record ι σ ω ε) : List ε := r.log.flatMap LogEntry.effects

/-- What some calls emitted. -/
def emitted {ι : Type} (records : List (Record ι σ ω ε)) : List ε := records.flatMap Record.effects

/-- A further record adds its effects at the end of what was emitted. -/
@[simp] theorem emitted_snoc {ι : Type} (records : List (Record ι σ ω ε)) (r : Record ι σ ω ε) :
    emitted (records ++ [r]) = emitted records ++ r.effects := by
  rw [emitted, List.flatMap_append, List.flatMap_singleton, emitted]

/-- `Recorded prog s records s'`: the recorded calls, made one after the other from `s`, lead
to `s'`. -/
inductive Recorded {ι : Type} (prog : ι → Prog σ ω ε Unit) : σ → List (Record ι σ ω ε) → σ → Prop
  | nil (s : σ) : Recorded prog s [] s
  | snoc {s s' s'' : σ} {records : List (Record ι σ ω ε)} {call : ι}
      {log : List (LogEntry σ ω ε)} (before : Recorded prog s records s')
      (last : (prog call).logged.Exec s' () log s'') :
      Recorded prog s (records ++ [⟨s', call, log, s''⟩]) s''

namespace Recorded

variable {ι : Type} {prog : ι → Prog σ ω ε Unit} {s s' : σ} {records : List (Record ι σ ω ε)}

/-- What every call keeps, of the state and of the records so far, holds after every run. -/
theorem invariant {I : σ → List (Record ι σ ω ε) → Prop} (h : Recorded prog s records s')
    (hinit : I s [])
    (hstep : ∀ s records call log s', I s records → (prog call).logged.Exec s () log s' →
      I s' (records ++ [⟨s, call, log, s'⟩])) : I s' records := by
  induction h with
  | nil => exact hinit
  | snoc _ last ih => exact hstep _ _ _ _ _ ih last

/-- Every record of a run is of an execution of its call. -/
theorem exec_of_mem (h : Recorded prog s records s') {r : Record ι σ ω ε} (hr : r ∈ records) :
    (prog r.call).logged.Exec r.before () r.log r.after := by
  induction h with
  | nil => simp at hr
  | snoc _ last ih =>
    rcases List.mem_append.mp hr with hmem | hlast
    · exact ih hmem
    · rw [List.mem_singleton.mp hlast]
      exact last

/-- A call before a run. -/
theorem cons {s₀ : σ} {call : ι} {log : List (LogEntry σ ω ε)}
    (first : (prog call).logged.Exec s₀ () log s) (h : Recorded prog s records s') :
    Recorded prog s₀ (⟨s₀, call, log, s⟩ :: records) s' := by
  induction h with
  | nil => exact .snoc (.nil s₀) first
  | snoc _ last ih => exact .snoc ih last

end Recorded

/-- Make the listed calls one after the other, each on the answers listed with it. -/
def recordAll {ι : Type} (prog : ι → Prog σ ω ε Unit) :
    List (ι × List ω) → σ → Option (List (Record ι σ ω ε) × σ)
  | [], s => some ([], s)
  | (call, ws) :: rest, s =>
    match (prog call).logged.run ws s with
    | none => none
    | some (_, log, s') =>
      match recordAll prog rest s' with
      | none => none
      | some (records, s'') => some (⟨s, call, log, s'⟩ :: records, s'')

/-- The calls that `recordAll` computes are a recorded run of those calls. -/
theorem recorded_of_recordAll {ι : Type} {prog : ι → Prog σ ω ε Unit}
    {calls : List (ι × List ω)} {s s' : σ} {records : List (Record ι σ ω ε)}
    (h : recordAll prog calls s = some (records, s')) :
    Recorded prog s records s' ∧ records.map Record.call = calls.map Prod.fst := by
  induction calls generalizing s records with
  | nil =>
    simp only [recordAll, Option.some.injEq, Prod.mk.injEq] at h
    rcases h with ⟨rfl, rfl⟩
    exact ⟨.nil s, rfl⟩
  | cons x rest ih =>
    rcases x with ⟨call, ws⟩
    simp only [recordAll] at h
    split at h
    · simp at h
    · rename_i hrun
      split at h
      · simp at h
      · rename_i hrest
        simp only [Option.some.injEq, Prod.mk.injEq] at h
        rcases h with ⟨rfl, rfl⟩
        obtain ⟨hrecorded, hcalls⟩ := ih hrest
        exact ⟨.cons (Prog.exec_of_run hrun) hrecorded, by simp [hcalls]⟩

/-- A test on the records of listed calls, which evaluation can decide. -/
theorem exists_recorded {ι : Type} (prog : ι → Prog σ ω ε Unit) (calls : List (ι × List ω))
    (s : σ) (test : List (Record ι σ ω ε) × σ → Bool)
    (h : (recordAll prog calls s).any test = true) :
    ∃ records s', Recorded prog s records s' ∧ records.map Record.call = calls.map Prod.fst ∧
      test (records, s') = true := by
  obtain ⟨⟨records, s'⟩, hrun, htest⟩ := (Option.any_eq_true _ _).mp h
  obtain ⟨hrecorded, hcalls⟩ := recorded_of_recordAll hrun
  exact ⟨records, s', hrecorded, hcalls, htest⟩

end Atomic
