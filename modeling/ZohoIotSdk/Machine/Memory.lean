import Mathlib.Data.List.Basic

/-!
# Reading and writing a memory

Stores and loads that have no result where they would leave the memory, and a memory that is
filled from its start, one piece after another.
-/

namespace Machine

variable {α : Type} {mem text : List α}

/-- Store bytes from an offset on. -/
def store (mem : List α) (offset : ℕ) (bytes : List α) : Option (List α) :=
  if offset + bytes.length ≤ mem.length then
    some (mem.take offset ++ (bytes ++ mem.drop (offset + bytes.length)))
  else none

/-- Read bytes from an offset on. -/
def load (mem : List α) (offset size : ℕ) : Option (List α) :=
  if offset + size ≤ mem.length then some ((mem.drop offset).take size) else none

/-- The memory with a text written over its start. -/
def filled (mem text : List α) : List α := text ++ mem.drop text.length

@[simp] theorem filled_nil (mem : List α) : filled mem [] = mem := rfl

/-- Filling overwrites and never grows the memory. -/
theorem length_filled (h : text.length ≤ mem.length) : (filled mem text).length = mem.length := by
  rw [filled, List.length_append, List.length_drop]
  omega

/-- The text can be read back from the start of the memory. -/
@[simp] theorem take_filled (mem text : List α) : (filled mem text).take text.length = text :=
  List.take_left

/-- A piece stored behind what is there already. -/
theorem store_filled (mem text bytes : List α) (h : text.length + bytes.length ≤ mem.length) :
    store (filled mem text) text.length bytes = some (filled mem (text ++ bytes)) := by
  have hlength : (filled mem text).length = mem.length := length_filled (by omega)
  have hdrop : (filled mem text).drop (text.length + bytes.length) =
      mem.drop (text ++ bytes).length := by
    rw [filled, ← List.drop_drop, List.drop_left, List.drop_drop, List.length_append]
  rw [store, hlength, if_pos h, take_filled, hdrop, filled, List.append_assoc]

/-- The next piece of a text, stored behind what has been stored of it. -/
theorem store_take {p k : ℕ} (hp : p ≤ text.length) (hroom : p + k ≤ mem.length) :
    store (filled mem (text.take p)) p ((text.drop p).take k) =
      some (filled mem (text.take (p + k))) := by
  have hlength : (text.take p).length = p := List.length_take_of_le hp
  have hpiece : ((text.drop p).take k).length ≤ k := List.length_take_le ..
  have hstore := store_filled mem (text.take p) ((text.drop p).take k) (by omega)
  rwa [hlength, ← List.take_add] at hstore

/-! ## Streams -/

/-- The first bytes of a stream. -/
def streamTake (stream : ℕ → α) (n : ℕ) : List α := (List.range n).map stream

/-- The bytes of a stream from one position on. -/
def streamSlice (stream : ℕ → α) (start n : ℕ) : List α :=
  (List.range n).map fun i => stream (start + i)

@[simp] theorem length_streamTake (stream : ℕ → α) (n : ℕ) :
    (streamTake stream n).length = n := by
  rw [streamTake, List.length_map, List.length_range]

@[simp] theorem length_streamSlice (stream : ℕ → α) (start n : ℕ) :
    (streamSlice stream start n).length = n := by
  rw [streamSlice, List.length_map, List.length_range]

/-- A longer stretch of the stream is a shorter one and the slice behind it. -/
theorem streamTake_add (stream : ℕ → α) (m n : ℕ) :
    streamTake stream (m + n) = streamTake stream m ++ streamSlice stream m n := by
  rw [streamTake, List.range_add, List.map_append, List.map_map]
  rfl

end Machine
