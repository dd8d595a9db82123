import Mathlib.Data.List.Nodup
import Mathlib.Logic.Function.Basic

/-!
# Files and their names

A directory gives names to files. A file that has been opened is worked on whatever happens to
its name, so the contents belong to the files (`contents`, by number) and the names lead to
the files (`entries`). No file has two names, and a file that is created has never been used.

`read` forgets the files and says only what can be read under which name; the lemmas about it
say what each operation does to what can be read.
-/

namespace Files

variable {ν β : Type}

structure Directory (ν β : Type) where
  /-- The names, each with the number of its file. -/
  entries : List (ν × ℕ)
  contents : ℕ → List β
  /-- The number of the next file that is created. -/
  next : ℕ
  names_nodup : (entries.map Prod.fst).Nodup
  files_nodup : (entries.map Prod.snd).Nodup
  fresh : ∀ e ∈ entries, e.2 < next

namespace Directory

variable [DecidableEq ν]

def empty : Directory ν β where
  entries := []
  contents _ := []
  next := 0
  names_nodup := by simp
  files_nodup := by simp
  fresh := by simp

/-- The file with the name. -/
def lookup (d : Directory ν β) (name : ν) : Option ℕ :=
  (d.entries.find? fun e => e.1 = name).map Prod.snd

/-- What can be read under the name, if there is a file with it. -/
def read (d : Directory ν β) (name : ν) : Option (List β) := (d.lookup name).map d.contents

/-- How many names the file has. -/
def nlink (d : Directory ν β) (file : ℕ) : ℕ := (d.entries.filter fun e => e.2 = file).length

variable {d : Directory ν β} {name old new : ν} {file : ℕ}

/-- A name refers to a file exactly when the pair is an entry. -/
theorem lookup_eq_some_iff : d.lookup name = some file ↔ (name, file) ∈ d.entries := by
  rw [lookup, Option.map_eq_some_iff]
  constructor
  · rintro ⟨e, hfind, rfl⟩
    have hname : e.1 = name := by simpa using List.find?_some hfind
    rw [← hname]
    exact List.mem_of_find?_eq_some hfind
  · intro hmem
    have hsome : (d.entries.find? fun e => e.1 = name).isSome := by
      rw [List.find?_isSome]
      exact ⟨(name, file), hmem, by simp⟩
    obtain ⟨e, hfind⟩ := Option.isSome_iff_exists.mp hsome
    have hname : e.1 = name := by simpa using List.find?_some hfind
    -- the names are all different, so this is the entry
    have heq : e = (name, file) :=
      List.inj_on_of_nodup_map d.names_nodup (List.mem_of_find?_eq_some hfind) hmem hname
    exact ⟨e, hfind, by rw [heq]⟩

/-- A file has one name only. -/
theorem lookup_inj {name' : ν} (h : d.lookup name = some file) (h' : d.lookup name' = some file) :
    name = name' := by
  have heq := List.inj_on_of_nodup_map d.files_nodup (lookup_eq_some_iff.mp h)
    (lookup_eq_some_iff.mp h') rfl
  exact congrArg Prod.fst heq

/-- Every file a name refers to has been created. -/
theorem lookup_lt (h : d.lookup name = some file) : file < d.next :=
  d.fresh _ (lookup_eq_some_iff.mp h)

/-- A file that has a name has a link. -/
theorem nlink_ne_zero (h : d.lookup name = some file) : d.nlink file ≠ 0 := by
  intro hzero
  have hmem : (name, file) ∈ d.entries.filter fun e => e.2 = file :=
    List.mem_filter.mpr ⟨lookup_eq_some_iff.mp h, by simp⟩
  rw [List.length_eq_zero_iff.mp hzero] at hmem
  simp at hmem

/-! ## Operations -/

/-- Give a file another content. -/
def write (d : Directory ν β) (file : ℕ) (content : List β) : Directory ν β :=
  { d with contents := Function.update d.contents file content }

/-- Write at the end of a file. -/
def append (d : Directory ν β) (file : ℕ) (bytes : List β) : Directory ν β :=
  d.write file (d.contents file ++ bytes)

/-- Create an empty file with a name that is not taken. -/
def create (d : Directory ν β) (name : ν) (h : d.lookup name = none) : Directory ν β where
  entries := (name, d.next) :: d.entries
  contents := Function.update d.contents d.next []
  next := d.next + 1
  names_nodup := by
    rw [List.map_cons, List.nodup_cons]
    refine ⟨fun hmem => ?_, d.names_nodup⟩
    obtain ⟨e, he, rfl⟩ := List.mem_map.mp hmem
    rw [lookup_eq_some_iff.mpr he] at h
    simp at h
  files_nodup := by
    rw [List.map_cons, List.nodup_cons]
    refine ⟨fun hmem => ?_, d.files_nodup⟩
    obtain ⟨e, he, heq⟩ := List.mem_map.mp hmem
    exact absurd (d.fresh e he) (by omega)
  fresh := by
    intro e he
    rcases List.mem_cons.mp he with rfl | he
    · exact Nat.lt_succ_self _
    · exact Nat.lt_succ_of_lt (d.fresh e he)

/-- Open a file for writing at its end, and create it if there is none. -/
def openAppend (d : Directory ν β) (name : ν) : ℕ × Directory ν β :=
  match h : d.lookup name with
  | some file => (file, d)
  | none => (d.next, d.create name h)

/-- Open a file for writing, empty. -/
def openWrite (d : Directory ν β) (name : ν) : ℕ × Directory ν β :=
  ((d.openAppend name).1, (d.openAppend name).2.write (d.openAppend name).1 [])

/-- Remove a name; it is no error if there is no such file. -/
def remove (d : Directory ν β) (name : ν) : Directory ν β where
  entries := d.entries.filter fun e => e.1 ≠ name
  contents := d.contents
  next := d.next
  names_nodup := d.names_nodup.sublist (List.filter_sublist.map _)
  files_nodup := d.files_nodup.sublist (List.filter_sublist.map _)
  fresh := fun e he => d.fresh e (List.mem_filter.mp he).1

/-- Give the file `old` the name `new`, which another file may lose by it; nothing happens if
there is no file `old`. -/
def rename (d : Directory ν β) (old new : ν) : Directory ν β :=
  match h : d.lookup old with
  | none => d
  | some file =>
    { entries := (new, file) :: d.entries.filter fun e => e.1 ≠ old ∧ e.1 ≠ new
      contents := d.contents
      next := d.next
      names_nodup := by
        rw [List.map_cons, List.nodup_cons]
        refine ⟨fun hmem => ?_, d.names_nodup.sublist (List.filter_sublist.map _)⟩
        obtain ⟨e, he, heq⟩ := List.mem_map.mp hmem
        simp [heq] at he
      files_nodup := by
        rw [List.map_cons, List.nodup_cons]
        refine ⟨fun hmem => ?_, d.files_nodup.sublist (List.filter_sublist.map _)⟩
        obtain ⟨e, he, heq⟩ := List.mem_map.mp hmem
        obtain ⟨hentry, hne⟩ := List.mem_filter.mp he
        have hfile : e.2 = file := heq
        have hlookup : d.lookup e.1 = some file := by
          rw [← hfile]
          exact lookup_eq_some_iff.mpr hentry
        simp [lookup_inj hlookup h] at hne
      fresh := by
        intro e he
        rcases List.mem_cons.mp he with rfl | he
        · exact lookup_lt h
        · exact d.fresh e (List.mem_filter.mp he).1 }

/-! ## What can be read -/

theorem read_eq_none_iff : d.read name = none ↔ d.lookup name = none := by
  rw [read, Option.map_eq_none_iff]

theorem read_of_lookup (h : d.lookup name = some file) : d.read name = some (d.contents file) := by
  rw [read, h]
  rfl

/-- Writing a file changes no name. -/
@[simp] theorem lookup_write (content : List β) :
    (d.write file content).lookup name = d.lookup name := rfl

/-- Writing to a file changes what can be read under its name, and nothing else. -/
theorem read_write (h : d.lookup name = some file) (content : List β) (name' : ν) :
    (d.write file content).read name' = if name' = name then some content else d.read name' := by
  by_cases hname : name' = name
  · subst hname
    rw [if_pos rfl, read, lookup_write, h]
    simp [write]
  · rw [if_neg hname, read, read, lookup_write]
    cases hlookup : d.lookup name' with
    | none => rfl
    | some file' =>
      have hne : file' ≠ file := by
        rintro rfl
        exact hname (lookup_inj hlookup h)
      simp [write, hne]

/-- A created name refers to the next file, the others to what they did. -/
theorem lookup_create (h : d.lookup name = none) (name' : ν) :
    (d.create name h).lookup name' = if name' = name then some d.next else d.lookup name' := by
  unfold lookup create
  rw [List.find?_cons]
  by_cases hname : name' = name
  · simp [hname]
  · simp [hname, Ne.symm hname]

/-- The file that was opened has the name. -/
theorem lookup_openAppend (name' : ν) : (d.openAppend name).2.lookup name' =
    if name' = name then some (d.openAppend name).1 else d.lookup name' := by
  unfold openAppend
  split
  · rename_i file hfile
    by_cases hname : name' = name
    · rw [if_pos hname, hname, hfile]
    · rw [if_neg hname]
  · rename_i hnone
    exact lookup_create hnone name'

/-- Opening a file leaves what can be read as it is; a file that was not there is empty. -/
theorem read_openAppend (name' : ν) : (d.openAppend name).2.read name' =
    if name' = name then some ((d.read name).getD []) else d.read name' := by
  by_cases hname : name' = name
  · rw [if_pos hname, hname, read_of_lookup (by rw [lookup_openAppend, if_pos rfl])]
    unfold openAppend
    split
    · rename_i file hfile
      rw [read_of_lookup hfile]
      rfl
    · rename_i hnone
      rw [read_eq_none_iff.mpr hnone]
      simp [create]
  · rw [if_neg hname, read, read, lookup_openAppend, if_neg hname]
    unfold openAppend
    split
    · rfl
    · cases hlookup : d.lookup name' with
      | none => rfl
      | some file =>
        have hne : file ≠ d.next := Nat.ne_of_lt (lookup_lt hlookup)
        simp [create, hne]

/-- The file that was opened for writing has the name. -/
theorem lookup_openWrite : (d.openWrite name).2.lookup name = some (d.openWrite name).1 := by
  rw [openWrite, lookup_write, lookup_openAppend, if_pos rfl]

/-- A file opened for writing is empty. -/
theorem read_openWrite (name' : ν) : (d.openWrite name).2.read name' =
    if name' = name then some [] else d.read name' := by
  have hopened : (d.openAppend name).2.lookup name = some (d.openAppend name).1 := by
    rw [lookup_openAppend, if_pos rfl]
  rw [openWrite, read_write hopened, read_openAppend]
  by_cases hname : name' = name
  · rw [if_pos hname, if_pos hname]
  · rw [if_neg hname, if_neg hname, if_neg hname]

/-- A removed name refers to nothing, the others to what they did. -/
theorem lookup_remove (name' : ν) :
    (d.remove name).lookup name' = if name' = name then none else d.lookup name' := by
  apply Option.ext
  intro file
  rw [lookup_eq_some_iff]
  by_cases hname : name' = name
  · simp [remove, hname]
  · simp [remove, hname, lookup_eq_some_iff]

theorem read_remove (name' : ν) :
    (d.remove name).read name' = if name' = name then none else d.read name' := by
  rw [read, lookup_remove]
  by_cases hname : name' = name
  · simp [hname]
  · rw [if_neg hname, if_neg hname]
    rfl

theorem rename_of_none (h : d.lookup old = none) : d.rename old new = d := by
  unfold rename
  split
  · rfl
  · rename_i hsome
    rw [h] at hsome
    simp at hsome

/-- A rename moves the file to the new name and drops what that name had. -/
theorem lookup_rename (h : d.lookup old = some file) (hne : old ≠ new) (name' : ν) :
    (d.rename old new).lookup name' =
      if name' = new then some file else if name' = old then none else d.lookup name' := by
  apply Option.ext
  intro file'
  rw [lookup_eq_some_iff]
  unfold rename
  split
  · rename_i hnone
    rw [h] at hnone
    simp at hnone
  · rename_i file₁ hfile₁
    obtain rfl : file = file₁ := by
      rw [h] at hfile₁
      exact Option.some.inj hfile₁
    by_cases hnew : name' = new
    · simp [hnew, eq_comm]
    · by_cases hold : name' = old
      · simp [hold, hne]
      · simp [hnew, hold, lookup_eq_some_iff]

/-- Renaming a file moves what can be read. -/
theorem read_rename (h : d.lookup old = some file) (hne : old ≠ new) (name' : ν) :
    (d.rename old new).read name' =
      if name' = new then d.read old else if name' = old then none else d.read name' := by
  have hcontents : (d.rename old new).contents = d.contents := by
    unfold rename
    split <;> rfl
  rw [read, lookup_rename h hne, hcontents]
  by_cases hnew : name' = new
  · rw [if_pos hnew, if_pos hnew, read, h]
  · rw [if_neg hnew, if_neg hnew]
    by_cases hold : name' = old
    · rw [if_pos hold, if_pos hold]
      rfl
    · rw [if_neg hold, if_neg hold]
      rfl

end Directory

end Files
