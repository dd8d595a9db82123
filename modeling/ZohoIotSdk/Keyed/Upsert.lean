import Mathlib.Data.List.Nodup
import Mathlib.Data.List.Forall2

/-!
# Lists searched by key

Elements of a list may have a key, and a key is looked up by a walk from the front. `upsert`
changes the first element with a key, or puts a new one at the end. Operations on different
keys do not disturb each other, and keys that were different stay different.
-/

namespace Keyed

variable {α κ : Type} [DecidableEq κ] (key : α → Option κ)

/-- The first element with the key `k`. -/
def get (k : κ) (as : List α) : Option α := as.find? fun a => decide (key a = some k)

/-- Change the first element with the key `k` by `f`; if there is none, add `new`. -/
def upsert (k : κ) (new : Option α) (f : α → α) : List α → List α
  | [] => new.toList
  | a :: as => if key a = some k then f a :: as else a :: upsert k new f as

/-- The keys of the elements that have one. -/
def keys (as : List α) : List κ := as.filterMap key

section Get

variable {key} {k l : κ} {new new' : Option α} {f g : α → α} {a : α} {as : List α}

@[simp] theorem get_nil : get key k [] = none := rfl

theorem get_cons : get key k (a :: as) = if key a = some k then some a else get key k as := by
  by_cases h : key a = some k
  · simp [get, h]
  · simp [get, h]

/-- Where the key is not found, the new slot is appended. -/
theorem upsert_of_get_none (h : get key k as = none) :
    upsert key k new f as = as ++ new.toList := by
  induction as with
  | nil => rfl
  | cons a as ih =>
    rw [get_cons] at h
    split at h
    · simp at h
    · rename_i hkey
      rw [upsert, if_neg hkey, ih h, List.cons_append]

/-- Where the key is found, the new slot is not looked at. -/
theorem upsert_of_get_isSome (h : (get key k as).isSome) :
    upsert key k new f as = upsert key k new' f as := by
  induction as with
  | nil => simp at h
  | cons a as ih =>
    by_cases hkey : key a = some k
    · rw [upsert, upsert, if_pos hkey, if_pos hkey]
    · rw [get_cons, if_neg hkey] at h
      rw [upsert, upsert, if_neg hkey, if_neg hkey, ih h]

/-- The key looked up after it was written. -/
theorem get_upsert (hnew : ∀ a ∈ new, key a = some k)
    (hf : ∀ a, key a = some k → key (f a) = some k) :
    get key k (upsert key k new f as) = ((get key k as).map f).or new := by
  induction as with
  | nil =>
    cases new with
    | none => rfl
    | some a => simp [upsert, get, hnew a rfl]
  | cons a as ih =>
    by_cases h : key a = some k
    · rw [upsert, if_pos h, get_cons, if_pos (hf a h), get_cons, if_pos h]
      rfl
    · rw [upsert, if_neg h, get_cons, if_neg h, get_cons, if_neg h, ih]

/-- Another key looked up. -/
theorem get_upsert_of_ne (hne : l ≠ k) (hnew : ∀ a ∈ new, key a = some k)
    (hf : ∀ a, key a = some k → key (f a) = some k) :
    get key l (upsert key k new f as) = get key l as := by
  have hother : ∀ a, key a = some k → key a ≠ some l := by
    intro a ha hl
    rw [ha, Option.some.injEq] at hl
    exact hne hl.symm
  induction as with
  | nil =>
    cases new with
    | none => rfl
    | some a => simp [upsert, get, hother a (hnew a rfl)]
  | cons a as ih =>
    by_cases h : key a = some k
    · rw [upsert, if_pos h, get_cons, if_neg (hother _ (hf a h)), get_cons, if_neg (hother a h)]
    · rw [upsert, if_neg h, get_cons, get_cons, ih]

end Get

section Order

variable {key} {k l : κ} {new new' : Option α} {f g : α → α} {as : List α}

/-- Two writes to the same key are one. -/
theorem upsert_upsert (hnew : ∀ a ∈ new', key a = some k)
    (hg : ∀ a, key a = some k → key (g a) = some k) :
    upsert key k new f (upsert key k new' g as) =
      upsert key k ((new'.map f).or new) (fun a => f (g a)) as := by
  induction as with
  | nil =>
    cases new' with
    | none => rfl
    | some a => simp [upsert, hnew a rfl]
  | cons a as ih =>
    by_cases h : key a = some k
    · simp [upsert, h, hg a h]
    · simp [upsert, h, ih]

/-- Writes to different keys commute, up to the order of what they add. -/
theorem upsert_comm (hne : k ≠ l) (hnew : ∀ a ∈ new, key a = some k)
    (hf : ∀ a, key a = some k → key (f a) = some k) (hnew' : ∀ a ∈ new', key a = some l)
    (hg : ∀ a, key a = some l → key (g a) = some l) :
    (upsert key k new f (upsert key l new' g as)).Perm
      (upsert key l new' g (upsert key k new f as)) := by
  have hother : ∀ a, key a = some k → key a ≠ some l := by
    intro a ha hl
    rw [ha, Option.some.injEq] at hl
    exact hne hl
  have hother' : ∀ a, key a = some l → key a ≠ some k := fun a hl ha => hother a ha hl
  induction as with
  | nil =>
    cases new with
    | none =>
      cases new' with
      | none => exact .refl _
      | some b => simp [upsert, hother' b (hnew' b rfl)]
    | some a =>
      cases new' with
      | none => simp [upsert, hother a (hnew a rfl)]
      | some b =>
        simp only [upsert, Option.toList, hother a (hnew a rfl), hother' b (hnew' b rfl), if_false]
        exact .swap a b []
  | cons a as ih =>
    by_cases h : key a = some k
    · have h' := hother a h
      simp [upsert, h, hother _ (hf a h), hne]
    · by_cases h' : key a = some l
      · simp [upsert, h', hg a h', Ne.symm hne]
      · simp only [upsert, h, h', if_false]
        exact ih.cons a

/-- Writes to the same key that are related give related lists. -/
theorem forall₂_upsert {R : α → α → Prop} (hrefl : ∀ a, R a a) (hnew : Option.Rel R new new')
    (hfg : ∀ a, key a = some k → R (f a) (g a)) :
    List.Forall₂ R (upsert key k new f as) (upsert key k new' g as) := by
  have hsame : ∀ as, List.Forall₂ R as as := fun as => List.forall₂_same.mpr fun a _ => hrefl a
  induction as with
  | nil =>
    cases hnew with
    | none => exact .nil
    | some h => exact .cons h .nil
  | cons a as ih =>
    by_cases h : key a = some k
    · rw [upsert, upsert, if_pos h, if_pos h]
      exact .cons (hfg a h) (hsame as)
    · rw [upsert, upsert, if_neg h, if_neg h]
      exact .cons (hrefl a) ih

end Order

section Keys

variable {key} {k : κ} {new : Option α} {f : α → α} {as : List α}

/-- Every slot afterwards is an old one, the new one or the updated one. -/
theorem mem_upsert {a : α} (h : a ∈ upsert key k new f as) :
    a ∈ as ∨ a ∈ new ∨ ∃ b ∈ as, key b = some k ∧ a = f b := by
  induction as with
  | nil => exact .inr (.inl (by simpa [upsert] using h))
  | cons b as ih =>
    by_cases hb : key b = some k
    · rw [upsert, if_pos hb] at h
      rcases List.mem_cons.mp h with rfl | hmem
      · exact .inr (.inr ⟨b, List.mem_cons_self, hb, rfl⟩)
      · exact .inl (List.mem_cons_of_mem _ hmem)
    · rw [upsert, if_neg hb] at h
      rcases List.mem_cons.mp h with rfl | hmem
      · exact .inl List.mem_cons_self
      · rcases ih hmem with h | h | ⟨c, hc, hkey, rfl⟩
        · exact .inl (List.mem_cons_of_mem _ h)
        · exact .inr (.inl h)
        · exact .inr (.inr ⟨c, List.mem_cons_of_mem _ hc, hkey, rfl⟩)

/-- The keys of an element do not matter beyond the one that is written. -/
theorem upsert_congr {key' : α → Option κ} (h : ∀ a, key a = some k ↔ key' a = some k) :
    upsert key k new f as = upsert key' k new f as := by
  induction as with
  | nil => rfl
  | cons a as ih => simp only [upsert, h a, ih]

/-- A key that is there stays in its place, another one comes last. -/
theorem keys_upsert (hnew : ∀ a ∈ new, key a = some k)
    (hf : ∀ a, key a = some k → key (f a) = some k) :
    keys key (upsert key k new f as) =
      if k ∈ keys key as then keys key as else keys key as ++ new.toList.map fun _ => k := by
  induction as with
  | nil =>
    cases new with
    | none => rfl
    | some a => simp [upsert, keys, hnew a rfl]
  | cons a as ih =>
    by_cases h : key a = some k
    · simp [upsert, keys, h, hf a h]
    · rw [upsert, if_neg h]
      unfold keys at ih ⊢
      cases hkey : key a with
      | none => rw [List.filterMap_cons_none hkey, List.filterMap_cons_none hkey, ih]
      | some l =>
        have hne : k ≠ l := by
          rintro rfl
          exact h hkey
        rw [List.filterMap_cons_some hkey, List.filterMap_cons_some hkey, ih]
        by_cases hmem : k ∈ as.filterMap key
        · simp [hmem]
        · simp [hmem, hne]

/-- Keys that were different stay different. -/
theorem nodup_keys_upsert (hnew : ∀ a ∈ new, key a = some k)
    (hf : ∀ a, key a = some k → key (f a) = some k) (h : (keys key as).Nodup) :
    (keys key (upsert key k new f as)).Nodup := by
  rw [keys_upsert hnew hf]
  split
  · exact h
  · rename_i hmem
    cases new with
    | none => simpa using h
    | some a =>
      have hlast : (k :: keys key as).Nodup := List.nodup_cons.mpr ⟨hmem, h⟩
      exact (List.perm_append_singleton k (keys key as)).nodup_iff.mpr hlast

end Keys

end Keyed
