import Mathlib.Data.List.Induction

/-!
# A slot that threads share

A slot for one value. Some threads overwrite it; one copies its content, works on the copy
without holding on to the slot, and clears the slot in the end. `slotHistory` computes from
the events of all threads what the slot holds, what was copied last, and what was stored
since. As long as the slot has not been cleared since the copy, it holds what was stored
since or, if nothing was, the copy (`SlotHistory.Open`, `Copied`).
-/

namespace Atomic

variable {δ ε : Type}

/-- What an event does to the slot. -/
inductive SlotAction (δ : Type) where
  | store (d : δ)
  | copy
  | clear
  | other

/-- The content of the slot, the last copy taken of it, and what was stored after that. -/
structure SlotHistory (δ : Type) where
  content : Option δ
  copied : Option δ
  storedSince : Option δ

namespace SlotHistory

def after (h : SlotHistory δ) : SlotAction δ → SlotHistory δ
  | .store d => { h with content := some d, storedSince := some d }
  | .copy => { content := h.content, copied := h.content, storedSince := none }
  | .clear => { h with content := none }
  | .other => h

/-- Nothing has been cleared since the last copy. -/
def Open (h : SlotHistory δ) : Prop := h.content = h.storedSince.or h.copied

/-- A copy that has just been taken is open. -/
theorem open_copy (h : SlotHistory δ) : (h.after .copy).Open := rfl

/-- What another thread does, other than copying or clearing, leaves the copy open. -/
theorem Open.after {h : SlotHistory δ} (hopen : h.Open) {a : SlotAction δ} (hcopy : a ≠ .copy)
    (hclear : a ≠ .clear) : (h.after a).Open ∧ (h.after a).copied = h.copied := by
  cases a with
  | store d => exact ⟨rfl, rfl⟩
  | copy => exact absurd rfl hcopy
  | clear => exact absurd rfl hclear
  | other => exact ⟨hopen, rfl⟩

end SlotHistory

/-- What the events make of a slot that holds `c₀` at the beginning. -/
def slotHistory (view : ε → SlotAction δ) (c₀ : Option δ) (tr : List ε) : SlotHistory δ :=
  tr.foldl (fun h e => h.after (view e)) { content := c₀, copied := none, storedSince := none }

section

variable (view : ε → SlotAction δ) (c₀ : Option δ)

/-- The history of a longer trace is one step further. -/
@[simp] theorem slotHistory_concat (tr : List ε) (e : ε) :
    slotHistory view c₀ (tr ++ [e]) = (slotHistory view c₀ tr).after (view e) := by
  rw [slotHistory, List.foldl_append]
  rfl

variable {view c₀}

/-- A copy of the slot has been taken, which was `d`, and nothing has been cleared since. -/
def Copied (view : ε → SlotAction δ) (c₀ d : Option δ) (tr : List ε) : Prop :=
  (slotHistory view c₀ tr).Open ∧ (slotHistory view c₀ tr).copied = d

/-- A copy is open when it is taken. -/
theorem copied_concat (tr : List ε) {e : ε} (he : view e = .copy) :
    Copied view c₀ (slotHistory view c₀ tr).content (tr ++ [e]) := by
  rw [Copied, slotHistory_concat, he]
  exact ⟨SlotHistory.open_copy _, rfl⟩

/-- An open copy stays open while the slot is neither copied again nor cleared. -/
theorem Copied.concat {d : Option δ} {tr : List ε} (h : Copied view c₀ d tr) {e : ε}
    (he : view e ≠ .copy ∧ view e ≠ .clear) : Copied view c₀ d (tr ++ [e]) := by
  rw [Copied, slotHistory_concat]
  obtain ⟨hopen, hcopied⟩ := h.1.after he.1 he.2
  exact ⟨hopen, hcopied.trans h.2⟩

theorem Copied.append {d : Option δ} {tr new : List ε} (h : Copied view c₀ d tr)
    (hnew : ∀ e ∈ new, view e ≠ .copy ∧ view e ≠ .clear) : Copied view c₀ d (tr ++ new) := by
  induction new using List.reverseRecOn with
  | nil => rwa [List.append_nil]
  | append_singleton new e ih =>
    rw [← List.append_assoc]
    have hbefore := ih fun e' he' => hnew e' (List.mem_append_left _ he')
    exact hbefore.concat (hnew e (List.mem_append_right _ (List.mem_singleton_self e)))

/-- Whatever the slot holds or held when it was copied, it held at the beginning or an event
stored. -/
theorem slotHistory_origin (tr : List ε) :
    (∀ d, (slotHistory view c₀ tr).content = some d →
      c₀ = some d ∨ ∃ e ∈ tr, view e = .store d) ∧
    (∀ d, (slotHistory view c₀ tr).copied = some d →
      c₀ = some d ∨ ∃ e ∈ tr, view e = .store d) := by
  induction tr using List.reverseRecOn with
  | nil => exact ⟨fun _ h => .inl h, fun _ h => by simp [slotHistory] at h⟩
  | append_singleton tr e ih =>
    have hlift : ∀ d, (c₀ = some d ∨ ∃ e ∈ tr, view e = .store d) →
        (c₀ = some d ∨ ∃ e' ∈ tr ++ [e], view e' = .store d) := by
      intro d hd
      rcases hd with h | ⟨e', he', hview⟩
      · exact .inl h
      · exact .inr ⟨e', List.mem_append_left _ he', hview⟩
    rw [slotHistory_concat]
    cases hview : view e with
    | store d =>
      refine ⟨fun d' hd' => .inr ⟨e, by simp, ?_⟩, fun d' hd' => hlift d' (ih.2 d' hd')⟩
      rw [hview, Option.some.inj hd']
    | copy => exact ⟨fun d hd => hlift d (ih.1 d hd), fun d hd => hlift d (ih.1 d hd)⟩
    | clear => exact ⟨fun d hd => by simp [SlotHistory.after] at hd,
        fun d hd => hlift d (ih.2 d hd)⟩
    | other => exact ⟨fun d hd => hlift d (ih.1 d hd), fun d hd => hlift d (ih.2 d hd)⟩

end

end Atomic
