import Mathlib.Data.Int.Notation
import Mathlib.Data.List.Basic

/-!
# Transfers in pieces

A loop that is left from its body, and calls that move bytes in pieces of their own choice: every
call is asked for what is missing, and its result says how much it has moved.

`loop_of_variant`: a loop with an invariant and a number that falls comes to its end.
`Results.exists_stopsAt`: such a transfer comes to its end after as many calls as there are bytes.
-/

namespace Machine

/-! ## Loops -/

section Loop

variable {σ ρ : Type} {step : σ → Option (σ ⊕ ρ)} {result : ρ} {n fuel : ℕ}

/-- At most `fuel` turns of a loop. A turn goes on with a new state or leaves with a result. -/
def loop (step : σ → Option (σ ⊕ ρ)) : ℕ → σ → Option ρ
  | 0, _ => none
  | fuel + 1, s =>
    (step s).bind fun
      | .inl s => loop step fuel s
      | .inr result => some result

theorem loop_of_continues {s s' : σ} (h : step s = some (.inl s')) :
    loop step (fuel + 1) s = loop step fuel s' := by
  rw [loop, h, Option.bind_some]

theorem loop_of_leaves {s : σ} (h : step s = some (.inr result)) :
    loop step (fuel + 1) s = some result := by
  rw [loop, h, Option.bind_some]

/-- A loop whose states are known up to the turn that leaves it. -/
theorem loop_of_states (state : ℕ → σ)
    (hsteps : ∀ t < n, step (state t) = some (.inl (state (t + 1))))
    (hleaves : step (state n) = some (.inr result)) (hfuel : n < fuel) :
    loop step fuel (state 0) = some result := by
  induction n generalizing state fuel with
  | zero =>
    obtain ⟨fuel, rfl⟩ : ∃ k, fuel = k + 1 := ⟨fuel - 1, by omega⟩
    exact loop_of_leaves hleaves
  | succ n ih =>
    obtain ⟨fuel, rfl⟩ : ∃ k, fuel = k + 1 := ⟨fuel - 1, by omega⟩
    rw [loop_of_continues (hsteps 0 (by omega))]
    exact ih (fun t => state (t + 1)) (fun t ht => hsteps (t + 1) (by omega)) hleaves (by omega)

/-- A loop comes to its end if every turn leaves it, or keeps an invariant and makes a number
smaller. -/
theorem loop_of_variant (inv : σ → Prop) (variant : σ → ℕ) {post : ρ → Prop}
    (hstep : ∀ s, inv s → (∃ s', step s = some (.inl s') ∧ inv s' ∧ variant s' < variant s) ∨
      ∃ result, step s = some (.inr result) ∧ post result)
    {s : σ} (h : inv s) (hfuel : variant s < fuel) :
    ∃ result, loop step fuel s = some result ∧ post result := by
  induction fuel generalizing s with
  | zero => exact absurd hfuel (Nat.not_lt_zero _)
  | succ fuel ih =>
    rcases hstep s h with ⟨s', hgoes, hinv, hless⟩ | ⟨result, hleaves, hpost⟩
    · rw [loop_of_continues hgoes]
      exact ih hinv (by omega)
    · exact ⟨result, loop_of_leaves hleaves, hpost⟩

end Loop

/-! ## Results -/

/-- What the calls return, by their number and by the size they are asked for; none of them moves
more than that. -/
structure Results where
  rc : ℕ → ℕ → ℤ
  rc_le : ∀ turn size, rc turn size ≤ size

namespace Results

variable {results : Results} {len t : ℕ}

/-- How much of `len` bytes has been moved by the first `t` calls. -/
def position (results : Results) (len : ℕ) : ℕ → ℕ
  | 0 => 0
  | t + 1 => results.position len t + (results.rc t (len - results.position len t)).toNat

/-- What the next call returns. -/
def next (results : Results) (len t : ℕ) : ℤ := results.rc t (len - results.position len t)

/-- The first `t` calls are made, and each of them moves something. -/
def Reaches (results : Results) (len t : ℕ) : Prop :=
  ∀ i < t, results.position len i < len ∧ 0 < results.next len i

/-- The transfer ends after `t` calls that move something: with everything moved, or with a call
that moves nothing. -/
def StopsAt (results : Results) (len t : ℕ) : Prop :=
  results.Reaches len t ∧ (results.position len t = len ∨
    results.position len t < len ∧ results.next len t ≤ 0)

/-- Each call moves the position by what it transferred. -/
theorem position_succ (results : Results) (len t : ℕ) :
    results.position len (t + 1) = results.position len t + (results.next len t).toNat := rfl

/-- A call never transfers more than is left. -/
theorem next_le (results : Results) (len t : ℕ) :
    results.next len t ≤ (len - results.position len t : ℕ) := results.rc_le ..

/-- The position never passes the end. -/
theorem position_le (results : Results) (len t : ℕ) : results.position len t ≤ len := by
  induction t with
  | zero => exact Nat.zero_le len
  | succ t ih =>
    have hnext := results.next_le len t
    rw [position_succ]
    omega

/-- Every call that is reached has moved the position by at least one. -/
theorem Reaches.le_position (h : results.Reaches len t) : t ≤ results.position len t := by
  induction t with
  | zero => exact Nat.zero_le _
  | succ t ih =>
    have hrest := ih fun i hi => h i (by omega)
    obtain ⟨-, hpos⟩ := h t (by omega)
    rw [position_succ]
    omega

/-- The loop makes at most as many calls as there are bytes. -/
theorem Reaches.le (h : results.Reaches len t) : t ≤ len :=
  Nat.le_trans h.le_position (results.position_le len t)

/-- Every transfer comes to its end: each call that moves something moves at least a byte. -/
theorem exists_stopsAt (results : Results) (len : ℕ) : ∃ t, results.StopsAt len t := by
  by_contra hnever
  have hreaches : ∀ t, results.Reaches len t := by
    intro t
    induction t with
    | zero => exact fun i hi => absurd hi (by omega)
    | succ t ih =>
      have hle := results.position_le len t
      have hgoes : results.position len t < len ∧ 0 < results.next len t := by
        by_contra hends
        exact hnever ⟨t, ih, by omega⟩
      intro i hi
      by_cases heq : i = t
      · rwa [heq]
      · exact ih i (by omega)
  exact absurd (hreaches (len + 1)).le (by omega)

end Results

end Machine
