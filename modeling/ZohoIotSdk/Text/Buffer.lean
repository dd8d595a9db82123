import Mathlib.Data.List.Basic

/-!
# Texts in a memory of fixed size

A memory holds a text if the text stands at its start, followed by a terminator. Appending looks
for the terminator and writes over it; it has no result if there is none, or if what is written
would not fit. Lengths are subtracted as unsigned numbers, without a result below zero.
-/

namespace Text

variable {α : Type} {nul : α} {mem text s : List α} {n : ℕ}

/-- The memory holds the text. -/
structure Holds (nul : α) (mem text : List α) : Prop where
  start : ∃ rest, mem = text ++ nul :: rest
  plain : nul ∉ text

/-- There is room for the terminator. -/
theorem Holds.length_lt (h : Holds nul mem text) : text.length < mem.length := by
  obtain ⟨rest, rfl⟩ := h.start
  simp

/-- Subtraction of unsigned numbers. -/
def sizeSub (a b : ℕ) : Option ℕ := if b ≤ a then some (a - b) else none

variable [DecidableEq α]

/-- Reading up to the first terminator yields the text. -/
theorem Holds.takeWhile_eq (h : Holds nul mem text) : mem.takeWhile (· ≠ nul) = text := by
  obtain ⟨rest, rfl⟩ := h.start
  have hplain : ∀ c ∈ text, decide (c ≠ nul) = true := by
    intro c hc
    exact decide_eq_true fun heq => h.plain (heq ▸ hc)
  rw [List.takeWhile_append_of_pos hplain]
  simp

/-- The length of the text that the memory holds. -/
def textLength (nul : α) (mem : List α) : Option ℕ :=
  if nul ∈ mem then some (mem.takeWhile (· ≠ nul)).length else none

/-- The measured length is that of the text. -/
theorem Holds.textLength_eq (h : Holds nul mem text) : textLength nul mem = some text.length := by
  have hmem : nul ∈ mem := by
    obtain ⟨rest, rfl⟩ := h.start
    simp
  rw [textLength, if_pos hmem, h.takeWhile_eq]

/-- Append at most `n` letters and a terminator. -/
def appendText (nul : α) (mem s : List α) (n : ℕ) : Option (List α) :=
  (textLength nul mem).bind fun length =>
    if length + (s.take n).length + 1 ≤ mem.length then
      some (mem.take length ++ (s.take n ++ nul :: mem.drop (length + (s.take n).length + 1)))
    else none

/-- Appending keeps a text in the buffer when the cut text has room. -/
theorem Holds.appendText (h : Holds nul mem text) (hs : nul ∉ s)
    (hroom : text.length + (s.take n).length + 1 ≤ mem.length) :
    ∃ mem', appendText nul mem s n = some mem' ∧ mem'.length = mem.length ∧
      Holds nul mem' (text ++ s.take n) := by
  have htake : mem.take text.length = text := by
    obtain ⟨rest, rfl⟩ := h.start
    simp
  refine ⟨_, by rw [Text.appendText, h.textLength_eq, Option.bind_some, if_pos hroom], ?_, ?_, ?_⟩
  · rw [htake, List.length_append, List.length_append, List.length_cons, List.length_drop]
    omega
  · exact ⟨_, by rw [htake, List.append_assoc]⟩
  · rw [List.mem_append, not_or]
    exact ⟨h.plain, fun hmem => hs (List.mem_of_mem_take hmem)⟩

/-- Append as much as there is room for. -/
def appendBounded (nul : α) (mem s : List α) : Option (List α) :=
  (textLength nul mem).bind fun length =>
    ((sizeSub mem.length length).bind (sizeSub · 1)).bind (appendText nul mem s)

/-- There always is room for the terminator, and what is held then is the start of the whole
text. -/
theorem Holds.appendBounded (h : Holds nul mem text) (hs : nul ∉ s) :
    ∃ mem', appendBounded nul mem s = some mem' ∧ mem'.length = mem.length ∧
      Holds nul mem' ((text ++ s).take (mem.length - 1)) := by
  have hlt := h.length_lt
  have hroom : text.length + (s.take (mem.length - text.length - 1)).length + 1 ≤ mem.length := by
    rw [List.length_take]
    omega
  have hsub : (sizeSub mem.length text.length).bind (sizeSub · 1) =
      some (mem.length - text.length - 1) := by
    have hle : text.length ≤ mem.length := by omega
    have hle' : 1 ≤ mem.length - text.length := by omega
    rw [sizeSub, if_pos hle, Option.bind_some, sizeSub, if_pos hle']
  obtain ⟨mem', happend, hlength, hholds⟩ := h.appendText hs hroom
  refine ⟨mem', ?_, hlength, ?_⟩
  · rw [Text.appendBounded, h.textLength_eq, Option.bind_some, hsub, Option.bind_some, happend]
  · have htext : text.take (mem.length - 1) = text := List.take_of_length_le (by omega)
    have hcount : mem.length - 1 - text.length = mem.length - text.length - 1 := by omega
    rw [List.take_append, htext, hcount]
    exact hholds

end Text
