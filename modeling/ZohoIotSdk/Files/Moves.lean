import ZohoIotSdk.Files.Directory

/-!
# Files that are moved on

A program that keeps old files gives them other names, in a fixed order: a file only gets names
of a higher rank than the one it has. So a name that a file has lost never leads to it again,
whatever the other files do (`Moves.passed`). What is in a file stays there, apart from the
files with a name for scratch files.
-/

namespace Files.Directory

variable {ν β : Type} [DecidableEq ν] {rank : ν → ℕ} {scratch : ν → Prop}

/-- What can become of a directory. -/
structure Moves (rank : ν → ℕ) (scratch : ν → Prop) (d d' : Directory ν β) : Prop where
  next_le : d.next ≤ d'.next
  moved : ∀ file < d.next, ∀ name', d'.lookup name' = some file → ∃ name,
    d.lookup name = some file ∧ (name = name' ∨ rank name < rank name') ∧
      (scratch name' → scratch name)
  grown : ∀ file < d.next, (∀ name, d.lookup name = some file → ¬ scratch name) →
    d.contents file <+: d'.contents file

variable {d d₁ d₂ : Directory ν β} {name old new : ν} {file : ℕ}

theorem Moves.refl (d : Directory ν β) : Moves rank scratch d d :=
  ⟨Nat.le_refl _, fun _ _ name' h => ⟨name', h, .inl rfl, id⟩, fun _ _ _ => List.prefix_rfl⟩

theorem Moves.trans (h : Moves rank scratch d d₁) (h' : Moves rank scratch d₁ d₂) :
    Moves rank scratch d d₂ := by
  refine ⟨Nat.le_trans h.next_le h'.next_le, fun file hfile name₂ hname₂ => ?_,
    fun file hfile hscratch => ?_⟩
  · have hfile₁ : file < d₁.next := Nat.lt_of_lt_of_le hfile h.next_le
    obtain ⟨name₁, hname₁, hrank₁, hscratch₁⟩ := h'.moved file hfile₁ name₂ hname₂
    obtain ⟨name, hname, hrank, hscratch⟩ := h.moved file hfile name₁ hname₁
    refine ⟨name, hname, ?_, fun hs => hscratch (hscratch₁ hs)⟩
    rcases hrank with rfl | hrank
    · exact hrank₁
    · rcases hrank₁ with rfl | hrank₁
      · exact .inr hrank
      · exact .inr (Nat.lt_trans hrank hrank₁)
  · have hfile₁ : file < d₁.next := Nat.lt_of_lt_of_le hfile h.next_le
    refine (h.grown file hfile hscratch).trans (h'.grown file hfile₁ fun name₁ hname₁ hs => ?_)
    obtain ⟨name, hname, -, hscratch₁⟩ := h.moved file hfile name₁ hname₁
    exact hscratch name hname (hscratch₁ hs)

/-! ## The operations -/

/-- A file that is no scratch file is only written to at its end. -/
theorem moves_write {content : List β}
    (h : (∀ name, d.lookup name = some file → ¬ scratch name) → d.contents file <+: content) :
    Moves rank scratch d (d.write file content) := by
  refine ⟨Nat.le_refl _, fun _ _ name' hname' => ⟨name', hname', .inl rfl, id⟩, ?_⟩
  intro file' _ hscratch
  show d.contents file' <+: Function.update d.contents file content file'
  by_cases heq : file' = file
  · subst heq
    rw [Function.update_self]
    exact h hscratch
  · exact ⟨[], by rw [List.append_nil, Function.update_of_ne heq]⟩

/-- Appending to a file is a move. -/
theorem moves_append (file : ℕ) (bytes : List β) : Moves rank scratch d (d.append file bytes) :=
  moves_write fun _ => List.prefix_append _ _

/-- Overwriting is a move where the name is a scratch name. -/
theorem moves_overwrite (h : d.lookup name = some file) (hscratch : scratch name)
    (content : List β) : Moves rank scratch d (d.write file content) :=
  moves_write fun hnot => absurd hscratch (hnot name h)

theorem moves_openAppend (name : ν) : Moves rank scratch d (d.openAppend name).2 := by
  unfold openAppend
  split
  · exact .refl d
  · rename_i hnone
    refine ⟨Nat.le_succ _, fun file hfile name' hname' => ?_, fun file hfile _ => ?_⟩
    · rw [lookup_create] at hname'
      split at hname'
      · have heq : d.next = file := Option.some.inj hname'
        omega
      · exact ⟨name', hname', .inl rfl, id⟩
    · show d.contents file <+: Function.update d.contents d.next [] file
      exact ⟨[], by rw [List.append_nil, Function.update_of_ne (Nat.ne_of_lt hfile)]⟩

theorem moves_openWrite (hscratch : scratch name) :
    Moves rank scratch d (d.openWrite name).2 := by
  have hopened : (d.openAppend name).2.lookup name = some (d.openAppend name).1 := by
    rw [lookup_openAppend, if_pos rfl]
  exact (moves_openAppend name).trans (moves_overwrite hopened hscratch [])

/-- Removing a name is a move. -/
theorem moves_remove (name : ν) : Moves rank scratch d (d.remove name) := by
  refine ⟨Nat.le_refl _, fun file _ name' hname' => ?_, fun _ _ _ => List.prefix_rfl⟩
  rw [lookup_remove] at hname'
  split at hname'
  · simp at hname'
  · exact ⟨name', hname', .inl rfl, id⟩

/-- A rename is a move when it raises the rank and makes no lasting file a scratch file. -/
theorem moves_rename (hrank : rank old < rank new) (hscratch : scratch new → scratch old) :
    Moves rank scratch d (d.rename old new) := by
  cases hold : d.lookup old with
  | none =>
    rw [rename_of_none hold]
    exact .refl d
  | some file =>
    have hne : old ≠ new := by
      rintro rfl
      exact absurd hrank (Nat.lt_irrefl _)
    refine ⟨?_, fun file' _ name' hname' => ?_, fun file' _ _ => ?_⟩
    · unfold rename
      split <;> exact Nat.le_refl _
    · rw [lookup_rename hold hne] at hname'
      split at hname'
      · rename_i hnew
        obtain rfl : file = file' := Option.some.inj hname'
        rw [hnew]
        exact ⟨old, hold, .inr hrank, hscratch⟩
      · split at hname'
        · simp at hname'
        · exact ⟨name', hname', .inl rfl, id⟩
    · unfold rename
      split <;> exact List.prefix_rfl

/-! ## Names that files have lost -/

/-- A file that is there, and is no scratch file. -/
structure Lasting (scratch : ν → Prop) (d : Directory ν β) (file : ℕ) : Prop where
  lt : file < d.next
  not_scratch : ∀ name, d.lookup name = some file → ¬ scratch name

/-- The file has the name, or one of a higher rank, or none. -/
def Above (rank : ν → ℕ) (name : ν) (d : Directory ν β) (file : ℕ) : Prop :=
  ∀ name', d.lookup name' = some file → name' = name ∨ rank name < rank name'

/-- The file has a name of a higher rank, or none. -/
def Passed (rank : ν → ℕ) (name : ν) (d : Directory ν β) (file : ℕ) : Prop :=
  ∀ name', d.lookup name' = some file → rank name < rank name'

/-- A file under a name that is not scratch lasts. -/
theorem lasting_of_lookup (h : d.lookup name = some file) (hscratch : ¬ scratch name) :
    Lasting scratch d file := by
  refine ⟨lookup_lt h, fun name' hname' => ?_⟩
  rw [← lookup_inj h hname']
  exact hscratch

/-- A file is above the name that refers to it. -/
theorem above_of_lookup (h : d.lookup name = some file) : Above rank name d file :=
  fun _ hname' => .inl (lookup_inj hname' h)

/-- A name leads to none of the files that have passed it. -/
theorem Passed.lookup_ne (h : Passed rank name d file) : d.lookup name ≠ some file :=
  fun hlookup => Nat.lt_irrefl _ (h name hlookup)

/-- A file that has lost the name has passed it. -/
theorem Above.passed (h : Above rank name d file) (hlost : d.lookup name ≠ some file) :
    Passed rank name d file := by
  intro name' hname'
  rcases h name' hname' with rfl | hrank
  · exact absurd hname' hlost
  · exact hrank

variable (h : Moves rank scratch d d₁)

include h

/-- Lasting files keep lasting. -/
theorem Moves.lasting (hfile : Lasting scratch d file) : Lasting scratch d₁ file := by
  refine ⟨Nat.lt_of_lt_of_le hfile.lt h.next_le, fun name' hname' hs => ?_⟩
  obtain ⟨name, hname, -, hscratch⟩ := h.moved file hfile.lt name' hname'
  exact hfile.not_scratch name hname (hscratch hs)

/-- A file never sinks below a name it has had. -/
theorem Moves.above (hfile : file < d.next) (habove : Above rank name d file) :
    Above rank name d₁ file := by
  intro name₁ hname₁
  obtain ⟨name', hname', hrank, -⟩ := h.moved file hfile name₁ hname₁
  rcases habove name' hname' with rfl | hlt
  · rcases hrank with rfl | hrank
    · exact .inl rfl
    · exact .inr hrank
  · rcases hrank with rfl | hrank
    · exact .inr hlt
    · exact .inr (Nat.lt_trans hlt hrank)

/-- A file that has passed a name does not come back to it. -/
theorem Moves.passed (hfile : file < d.next) (hpassed : Passed rank name d file) :
    Passed rank name d₁ file := by
  intro name₁ hname₁
  obtain ⟨name', hname', hrank, -⟩ := h.moved file hfile name₁ hname₁
  rcases hrank with rfl | hrank
  · exact hpassed name' hname'
  · exact Nat.lt_trans (hpassed name' hname') hrank

end Files.Directory
