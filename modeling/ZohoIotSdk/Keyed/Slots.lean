import ZohoIotSdk.Keyed.Upsert

/-!
# Tables with a fixed number of slots

A slot has a key or is free. An element is written into a slot with `List.set`; the keys stay
different if the slot was free and the key is new, or if the slot keeps its key or loses it. Then
the table is looked up by key as a map would be.
-/

namespace Keyed

variable {α κ : Type} {key : α → Option κ} {k l : κ} {as : List α} {i : ℕ} {a new : α}

/-! ## Keys -/

theorem keys_append (as as' : List α) : keys key (as ++ as') = keys key as ++ keys key as' :=
  List.filterMap_append

theorem keys_singleton (a : α) : keys key [a] = (key a).toList := by
  rw [keys, List.filterMap_cons]
  cases key a <;> rfl

/-- The slots before and behind the one that is looked at. -/
theorem eq_take_drop (h : as[i]? = some a) : as = as.take i ++ ([a] ++ as.drop (i + 1)) := by
  obtain ⟨hi, rfl⟩ := List.getElem?_eq_some_iff.mp h
  rw [List.singleton_append, List.getElem_cons_drop, List.take_append_drop]

/-- A list with one slot replaced, cut at that slot. -/
theorem set_eq (h : as[i]? = some a) (new : α) :
    as.set i new = as.take i ++ ([new] ++ as.drop (i + 1)) := by
  obtain ⟨hi, -⟩ := List.getElem?_eq_some_iff.mp h
  rw [List.set_eq_take_append_cons_drop, if_pos hi, List.singleton_append]

/-- The keys of a list, cut at one slot. -/
theorem keys_eq (h : as[i]? = some a) :
    keys key as = keys key (as.take i) ++ ((key a).toList ++ keys key (as.drop (i + 1))) := by
  conv_lhs => rw [eq_take_drop h]
  rw [keys_append, keys_append, keys_singleton]

/-- Replacing a slot replaces its key in place. -/
theorem keys_set (h : as[i]? = some a) (new : α) : keys key (as.set i new) =
    keys key (as.take i) ++ ((key new).toList ++ keys key (as.drop (i + 1))) := by
  rw [set_eq h, keys_append, keys_append, keys_singleton]

/-- No other slot has the key. -/
theorem not_mem_keys_take (h : as[i]? = some a) (hkey : key a = some k)
    (hnodup : (keys key as).Nodup) : k ∉ keys key (as.take i) := by
  rw [keys_eq h, hkey, Option.toList_some, List.singleton_append, List.nodup_middle] at hnodup
  exact fun hmem => (List.nodup_cons.mp hnodup).1 (List.mem_append_left _ hmem)

theorem keys_take_subset (i : ℕ) : keys key (as.take i) ⊆ keys key as :=
  ((List.take_sublist i as).filterMap key).subset

/-- Keys stay different in a slot that keeps its key, loses it, or gets a new one. -/
theorem nodup_keys_set (h : as[i]? = some a) (hnodup : (keys key as).Nodup)
    (hnew : ∀ k, key new = some k → key a = some k ∨ k ∉ keys key as) :
    (keys key (as.set i new)).Nodup := by
  rw [keys_eq h] at hnodup hnew
  rw [keys_set h]
  have hrest : (keys key (as.take i) ++ keys key (as.drop (i + 1))).Nodup := by
    cases hkey : key a with
    | none => rwa [hkey, Option.toList_none, List.nil_append] at hnodup
    | some k =>
      rw [hkey, Option.toList_some, List.singleton_append, List.nodup_middle] at hnodup
      exact (List.nodup_cons.mp hnodup).2
  cases hk : key new with
  | none => rwa [Option.toList_none, List.nil_append]
  | some k =>
    rw [Option.toList_some, List.singleton_append, List.nodup_middle, List.nodup_cons]
    refine ⟨?_, hrest⟩
    rcases hnew k hk with hkey | hnotin
    · rw [hkey, Option.toList_some, List.singleton_append, List.nodup_middle] at hnodup
      exact (List.nodup_cons.mp hnodup).1
    · intro hmem
      apply hnotin
      rw [List.mem_append] at hmem ⊢
      exact hmem.imp_right fun h => List.mem_append_right _ h

/-- How many slots have a key. -/
theorem length_keys_le (as : List α) : (keys key as).length ≤ as.length :=
  List.length_filterMap_le _ _

/-- There is a free slot unless every slot has a key. -/
theorem exists_free_iff : (∃ a ∈ as, key a = none) ↔ (keys key as).length < as.length := by
  induction as with
  | nil => simp [keys]
  | cons a as ih =>
    rw [keys, List.filterMap_cons, List.length_cons]
    have hle := @length_keys_le _ _ key as
    rw [keys] at ih hle
    cases hkey : key a with
    | none =>
      simp only [List.mem_cons, exists_eq_or_imp, hkey, true_or, true_iff]
      omega
    | some k =>
      simp only [List.mem_cons, exists_eq_or_imp, hkey, reduceCtorEq, false_or, ih,
        List.length_cons]
      omega

/-! ## Looking up -/

section Get

variable [DecidableEq κ]

/-- A key is not found exactly when no slot has it. -/
theorem get_eq_none_iff : get key k as = none ↔ k ∉ keys key as := by
  rw [get, List.find?_eq_none, keys, List.mem_filterMap]
  simp only [decide_eq_true_eq, not_exists, not_and]

/-- What is found under a key has the key. -/
theorem key_of_get (h : get key k as = some a) : key a = some k :=
  of_decide_eq_true (List.find?_some (p := fun a => decide (key a = some k)) h)

/-- The first list is searched before the second. -/
theorem get_append (as as' : List α) : get key k (as ++ as') = (get key k as).or (get key k as') :=
  List.find?_append

theorem get_singleton (a : α) : get key k [a] = if key a = some k then some a else none := by
  rw [get_cons, get_nil]

/-- A key that neither the old nor the new element of the slot has. -/
theorem get_set_of_ne (h : as[i]? = some a) (hold : key a ≠ some l) (hnew : key new ≠ some l) :
    get key l (as.set i new) = get key l as := by
  conv_rhs => rw [eq_take_drop h]
  rw [set_eq h]
  simp only [get_append, get_singleton, if_neg hold, if_neg hnew]

/-- The key of the new element, if no other slot has it. -/
theorem get_set_self (h : as[i]? = some a) (hnew : key new = some k)
    (hother : k ∉ keys key (as.take i)) : get key k (as.set i new) = some new := by
  rw [set_eq h, get_append, get_eq_none_iff.mpr hother, get_append, get_singleton, if_pos hnew]
  rfl

/-- The key that the slot has lost. -/
theorem get_set_none (h : as[i]? = some a) (hkey : key a = some k) (hnew : key new = none)
    (hnodup : (keys key as).Nodup) : get key k (as.set i new) = none := by
  rw [get_eq_none_iff, keys_set h, hnew, Option.toList_none, List.nil_append]
  rw [keys_eq h, hkey, Option.toList_some, List.singleton_append, List.nodup_middle] at hnodup
  exact (List.nodup_cons.mp hnodup).1

end Get

end Keyed
