import Mathlib.Data.Int.Notation

/-!
# Calls made until one fails

A function that makes its calls one after the other and leaves at the first that does not return
zero, as C code does that jumps to its clean-up.
-/

namespace Steps

variable {ε : Type}

/-- A call and what it returns. -/
structure Step (ε : Type) where
  call : ε
  result : ℤ

/-- A call that returns nothing. -/
def Step.void (call : ε) : Step ε := ⟨call, 0⟩

@[simp] theorem Step.void_call (call : ε) : (Step.void call).call = call := rfl

@[simp] theorem Step.void_result (call : ε) : (Step.void call).result = 0 := rfl

/-- The calls that are made, and the result of the last one. -/
def run : List (Step ε) → List ε × ℤ
  | [] => ([], 0)
  | step :: rest =>
    if step.result ≠ 0 then ([step.call], step.result)
    else (step.call :: (run rest).1, (run rest).2)

variable {step : Step ε} {steps : List (Step ε)}

/-- A failed step ends the sequence with its result. -/
theorem run_cons_of_fails (h : step.result ≠ 0) :
    run (step :: steps) = ([step.call], step.result) := if_pos h

/-- After a step that succeeds the sequence goes on. -/
theorem run_cons_of_succeeds (h : step.result = 0) :
    run (step :: steps) = (step.call :: (run steps).1, (run steps).2) := if_neg fun hne => hne h

/-- The sequence succeeds exactly when each of its steps does. -/
theorem run_eq_zero_iff : (run steps).2 = 0 ↔ ∀ step ∈ steps, step.result = 0 := by
  induction steps with
  | nil => simp [run]
  | cons step rest ih =>
    rw [List.forall_mem_cons, ← ih]
    by_cases h : step.result = 0
    · simp [run_cons_of_succeeds h, h]
    · simp [run_cons_of_fails h, h]

/-- Only calls of the sequence are made. -/
theorem mem_of_mem_run {call : ε} (h : call ∈ (run steps).1) : call ∈ steps.map Step.call := by
  induction steps with
  | nil => exact h
  | cons step rest ih =>
    rw [List.map_cons, List.mem_cons]
    by_cases hresult : step.result = 0
    · rw [run_cons_of_succeeds hresult] at h
      exact (List.mem_cons.mp h).imp_right ih
    · rw [run_cons_of_fails hresult] at h
      exact .inl (List.mem_singleton.mp h)

/-- Where nothing fails, all of the calls are made. -/
theorem run_fst_of_succeeds (h : (run steps).2 = 0) : (run steps).1 = steps.map Step.call := by
  rw [run_eq_zero_iff] at h
  induction steps with
  | nil => rfl
  | cons step rest ih =>
    obtain ⟨hstep, hrest⟩ := List.forall_mem_cons.mp h
    rw [run_cons_of_succeeds hstep, List.map_cons, ih hrest]

/-- Calls that return nothing are all made before the others. -/
theorem run_void_append (calls : List ε) : run (calls.map Step.void ++ steps) =
    (calls ++ (run steps).1, (run steps).2) := by
  induction calls with
  | nil => rfl
  | cons call rest ih =>
    rw [List.map_cons, List.cons_append, run_cons_of_succeeds (Step.void_result call), ih]
    rfl

end Steps
