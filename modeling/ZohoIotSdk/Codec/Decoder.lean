import Mathlib.Algebra.Order.Group.Nat
import Mathlib.Data.Int.Notation
import Mathlib.Data.List.Basic
import Mathlib.Tactic.Linarith

/-!
# Decoders

Decoders that read a memory from a pointer on and know where the text that they decode ends. A
decoder has no result where it reads outside the memory, and it can be left early.

`Reads`: the decoder takes a piece of text for a value, whatever comes behind it. The rules say how
the texts of decoders that run one after the other are put together.
-/

namespace Codec

variable {β ε α γ : Type}

/-- A pointer into a memory, and the distance from it to the end of the text. -/
structure Cursor (β : Type) where
  data : List β
  left : ℤ

/-- What a decoder comes to: `none` where it reads outside the memory, an error where it is left
early. -/
abbrev Outcome (β ε α : Type) := Option (Except ε (α × Cursor β))

def Decoder (β ε α : Type) := Cursor β → Outcome β ε α

namespace Decoder

def bind (d : Decoder β ε α) (f : α → Decoder β ε γ) : Decoder β ε γ := fun cur =>
  match d cur with
  | none => none
  | some (.error e) => some (.error e)
  | some (.ok (a, cur)) => f a cur

instance : Monad (Decoder β ε) where
  pure a := fun cur => some (.ok (a, cur))
  bind := Decoder.bind

/-- Decode a text that starts where the memory does, up to the given distance. -/
def run (d : Decoder β ε α) (data : List β) (n : ℤ) : Option (Except ε α) :=
  (d ⟨data, n⟩).map fun result => result.map Prod.fst

@[simp] theorem pure_apply (a : α) (cur : Cursor β) :
    (Pure.pure a : Decoder β ε α) cur = some (.ok (a, cur)) := rfl

theorem bind_apply (d : Decoder β ε α) (f : α → Decoder β ε γ) (cur : Cursor β) :
    (d >>= f) cur = match d cur with
      | none => none
      | some (.error e) => some (.error e)
      | some (.ok (a, cur)) => f a cur := rfl

/-- The rest goes on from where a successful decoder left the cursor. -/
theorem bind_ok {d : Decoder β ε α} {f : α → Decoder β ε γ} {cur cur' : Cursor β} {a : α}
    (h : d cur = some (.ok (a, cur'))) : (d >>= f) cur = f a cur' := by
  rw [bind_apply, h]

/-- The rest is not run after an error. -/
theorem bind_error {d : Decoder β ε α} {f : α → Decoder β ε γ} {cur : Cursor β} {e : ε}
    (h : d cur = some (.error e)) : (d >>= f) cur = some (.error e) := by
  rw [bind_apply, h]

theorem ite_apply {c : Prop} [Decidable c] (d d' : Decoder β ε α) (cur : Cursor β) :
    (if c then d else d') cur = if c then d cur else d' cur := by
  split <;> rfl

/-! ## Primitive decoders -/

/-- Leave early. -/
def exit (e : ε) : Decoder β ε α := fun _ => some (.error e)

/-- How far it is to the end of the text; negative behind it. -/
def left : Decoder β ε ℤ := fun cur => some (.ok (cur.left, cur))

/-- The end of the text is so far away. -/
def setLeft (n : ℤ) : Decoder β ε Unit := fun cur => some (.ok ((), { cur with left := n }))

/-- The memory from the pointer on. -/
def peek : Decoder β ε (List β) := fun cur => some (.ok (cur.data, cur))

/-- The next `n` items; the pointer moves behind them. -/
def take (n : ℕ) : Decoder β ε (List β) := fun cur =>
  if n ≤ cur.data.length then
    some (.ok (cur.data.take n, { data := cur.data.drop n, left := cur.left - n }))
  else none

/-- The next item. -/
def item : Decoder β ε β := fun cur =>
  match cur.data with
  | [] => none
  | b :: data => some (.ok (b, { data := data, left := cur.left - 1 }))

@[simp] theorem exit_apply (e : ε) (cur : Cursor β) :
    (exit e : Decoder β ε α) cur = some (.error e) := rfl

/-- Nothing runs after an exit. -/
@[simp] theorem exit_bind (e : ε) (f : α → Decoder β ε γ) (cur : Cursor β) :
    ((exit e : Decoder β ε α) >>= f) cur = some (.error e) := rfl

@[simp] theorem pure_bind (a : α) (f : α → Decoder β ε γ) (cur : Cursor β) :
    ((Pure.pure a : Decoder β ε α) >>= f) cur = f a cur := rfl

/-- The rest receives the count of what is left. -/
@[simp] theorem left_bind (f : ℤ → Decoder β ε α) (cur : Cursor β) :
    (left >>= f) cur = f cur.left cur := rfl

/-- Setting the count leaves the data. -/
@[simp] theorem setLeft_bind (n : ℤ) (f : Unit → Decoder β ε α) (cur : Cursor β) :
    (setLeft n >>= f) cur = f () { cur with left := n } := rfl

/-- Looking at the data consumes none of it. -/
@[simp] theorem peek_bind (f : List β → Decoder β ε α) (cur : Cursor β) :
    (peek >>= f) cur = f cur.data cur := rfl

/-- Reading an item takes it from the data and counts it. -/
@[simp] theorem item_bind_cons (f : β → Decoder β ε α) (b : β) (data : List β) (n : ℤ) :
    (item >>= f) ⟨b :: data, n⟩ = f b ⟨data, n - 1⟩ := rfl

/-- A read past the end of the data has no result. -/
@[simp] theorem item_bind_nil (f : β → Decoder β ε α) (n : ℤ) :
    (item >>= f) ⟨[], n⟩ = none := rfl

/-- Taking as many items as a text has yields the text in front of the rest. -/
theorem take_bind (f : List β → Decoder β ε α) (text rest : List β) (n : ℤ) :
    (take text.length >>= f) ⟨text ++ rest, n⟩ = f text ⟨rest, n - text.length⟩ := by
  have htake : (take text.length : Decoder β ε (List β)) ⟨text ++ rest, n⟩ =
      some (.ok (text, ⟨rest, n - text.length⟩)) := by
    rw [take, if_pos (by simp), List.take_left, List.drop_left]
  rw [bind_ok htake]

/-! ## What a decoder reads -/

/-- The decoder takes the text for the value, whatever comes behind the text. -/
def Reads (d : Decoder β ε α) (text : List β) (a : α) : Prop :=
  ∀ (rest : List β) (n : ℤ), text.length ≤ n →
    d ⟨text ++ rest, n⟩ = some (.ok (a, ⟨rest, n - text.length⟩))

variable {d : Decoder β ε α} {f : α → Decoder β ε γ} {text text' : List β} {a : α} {c : γ}

theorem reads_pure (a : α) : Reads (Pure.pure a : Decoder β ε α) [] a := by
  intro rest n _
  rw [List.nil_append, List.length_nil, Int.natCast_zero, Int.sub_zero]
  rfl

theorem reads_item (b : β) : Reads (item : Decoder β ε β) [b] b := fun _ _ _ => rfl

/-- Taking as many items as a text has reads exactly the text. -/
theorem reads_take (text : List β) : Reads (take text.length : Decoder β ε _) text text := by
  intro rest n _
  rw [take, if_pos (by simp), List.take_left, List.drop_left]

theorem Reads.bind (hd : Reads d text a) (hf : Reads (f a) text' c) :
    Reads (d >>= f) (text ++ text') c := by
  intro rest n hn
  rw [List.length_append, Int.natCast_add] at hn
  rw [List.append_assoc, bind_ok (hd (text' ++ rest) n (by omega)), hf rest _ (by omega),
    List.length_append, Int.natCast_add, Int.sub_sub]

theorem Reads.bind_pure (hd : Reads d text a) (g : α → γ) :
    Reads (d >>= fun a => Pure.pure (g a)) text (g a) := by
  have hreads : Reads (d >>= fun a => Pure.pure (g a)) (text ++ []) (g a) :=
    hd.bind (reads_pure (g a))
  rwa [List.append_nil] at hreads

/-- A decoder that runs on where another one has read its text. -/
theorem Reads.bind_apply (hd : Reads d text a) {rest : List β} {n : ℤ} (hn : text.length ≤ n) :
    (d >>= f) ⟨text ++ rest, n⟩ = f a ⟨rest, n - text.length⟩ := by
  rw [bind_ok (hd rest n hn)]

/-- A decoder that looks how far the end is, where all of the text is before it. -/
theorem reads_left_bind {f : ℤ → Decoder β ε α}
    (h : ∀ n : ℤ, text.length ≤ n → Reads (f n) text a) : Reads (left >>= f) text a := by
  intro rest n hn
  rw [left_bind]
  exact h n hn rest n hn

/-! ## Items up to the end of the text -/

/-- Decode one item after another until the end of the text is reached, in at most `turns` turns. -/
def many (d : Decoder β ε α) : ℕ → Decoder β ε (List α)
  | 0 => Pure.pure []
  | turns + 1 => do
    let n ← left
    if 0 < n then do
      let a ← d
      let as ← many d turns
      Pure.pure (a :: as)
    else Pure.pure []

/-- Items are read from texts that are not empty; the last one ends where the text does. -/
theorem many_apply {ι : Type} {text : ι → List β} {value : ι → α}
    (hpos : ∀ i, 0 < (text i).length) {items : List ι}
    (h : ∀ i ∈ items, Reads d (text i) (value i)) (rest : List β) {turns : ℕ}
    (hturns : (items.flatMap text).length ≤ turns) :
    many d turns ⟨items.flatMap text ++ rest, (items.flatMap text).length⟩ =
      some (.ok (items.map value, ⟨rest, 0⟩)) := by
  induction items generalizing turns with
  | nil => cases turns <;> rfl
  | cons i items ih =>
    have hlength : ((i :: items).flatMap text).length =
        (text i).length + (items.flatMap text).length := by
      rw [List.flatMap_cons, List.length_append]
    have hfirst := hpos i
    obtain ⟨turns, rfl⟩ : ∃ k, turns = k + 1 := ⟨turns - 1, by omega⟩
    have hrest := @ih (fun j hj => h j (List.mem_cons_of_mem i hj)) turns (by omega)
    rw [hlength, List.flatMap_cons, List.append_assoc, many, left_bind, if_pos (by simp only; omega),
      (h i (List.mem_cons_self ..)).bind_apply (by omega)]
    rw [show (((text i).length + (items.flatMap text).length : ℕ) : ℤ) - (text i).length =
      (items.flatMap text).length by omega, bind_ok hrest]
    rfl

end Decoder

end Codec
