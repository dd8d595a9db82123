import Mathlib.Data.Finset.Basic
import Mathlib.Data.Finset.SDiff
import Mathlib.Data.Finset.Dedup
import Mathlib.Data.Finset.Lattice.Lemmas

/-!
# Resources in use

Some calls acquire a resource, some release one. `live` are the resources that are in use after
a list of calls.
-/

namespace Steps

variable {ε κ : Type}

/-- What a call does to the resources. -/
inductive Use (κ : Type) where
  | acquire (resource : κ)
  | release (resource : κ)
  | neither

variable [DecidableEq κ] (use : ε → Use κ) (held : Finset κ)

/-- The resources in use after one call. -/
def liveStep (held : Finset κ) (call : ε) : Finset κ :=
  match use call with
  | .acquire resource => insert resource held
  | .release resource => held.erase resource
  | .neither => held

/-- The resources in use after the calls, if `held` were in use before. -/
def live (calls : List ε) : Finset κ := calls.foldl (liveStep use) held

/-- What is held is computed call by call. -/
theorem live_append (calls calls' : List ε) :
    live use held (calls ++ calls') = live use (live use held calls) calls' :=
  List.foldl_append

variable {use held} {calls : List ε} {resources : List κ}

/-- Calls that acquire the resources and do nothing else. -/
theorem live_of_acquires {f : κ → ε} (hf : ∀ k, use (f k) = .acquire k) :
    live use held (resources.map f) = held ∪ resources.toFinset := by
  induction resources generalizing held with
  | nil => simp [live]
  | cons k rest ih =>
    have hstep : live use held ((k :: rest).map f) = live use (insert k held) (rest.map f) := by
      rw [List.map_cons, live, List.foldl_cons, liveStep, hf]
      rfl
    rw [hstep, ih, List.toFinset_cons, Finset.insert_union, Finset.union_insert]

/-- Calls that release the resources and do nothing else. -/
theorem live_of_releases {f : κ → ε} (hf : ∀ k, use (f k) = .release k) :
    live use held (resources.map f) = held \ resources.toFinset := by
  induction resources generalizing held with
  | nil => simp [live]
  | cons k rest ih =>
    have hstep : live use held ((k :: rest).map f) = live use (held.erase k) (rest.map f) := by
      rw [List.map_cons, live, List.foldl_cons, liveStep, hf]
      rfl
    rw [hstep, ih, List.toFinset_cons, Finset.erase_sdiff_comm, Finset.sdiff_insert]

/-- Calls that neither acquire nor release change nothing. -/
theorem live_of_neither (h : ∀ call ∈ calls, use call = .neither) : live use held calls = held := by
  induction calls with
  | nil => rfl
  | cons call rest ih =>
    rw [List.forall_mem_cons] at h
    rw [live, List.foldl_cons, liveStep, h.1]
    exact ih h.2

/-- Rounds of calls leave the resources as they are after each of them, if and only if each round
does so by itself. -/
theorem live_rounds_iff {ρ : Type} (f : ρ → List ε) (rounds : List ρ) :
    (∀ done, done <+: rounds → live use held (done.flatMap f) = held) ↔
      ∀ round ∈ rounds, live use held (f round) = held := by
  constructor
  · intro h round hmem
    obtain ⟨done, rest, rfl⟩ := List.append_of_mem hmem
    have hbefore := h done (List.prefix_append done _)
    have hafter := h (done ++ [round]) ⟨rest, by simp⟩
    rw [List.flatMap_append, live_append, hbefore, List.flatMap_singleton] at hafter
    exact hafter
  · rintro h done ⟨rest, rfl⟩
    induction done with
    | nil => rfl
    | cons round done ih =>
      rw [List.flatMap_cons, live_append, h round (by simp)]
      exact ih fun round' hmem => h round' (List.mem_cons_of_mem _ hmem)

end Steps
