import ZohoIotSdk.Machine.Integers
import ZohoIotSdk.Process.Whitespace

/-!
# The two loops of `trim`

`trim` of `zoho_utils.c` counts in an `int`: down past the spaces at the end, and then down again
for every space in front, where the count may fall below zero before it becomes the size for
`strndup`. The loops are followed here with the bytes they read and the range of the counter.

`trimLoops_spec`: up to `2 ^ 31` bytes, no read is outside the string, no step leaves the range,
and the result is the string without the spaces at its ends.
-/

namespace ZohoIotSdk

open Machine Text

/-! ## The loops -/

/-- A byte of a string; the terminator is the last one. -/
def byteAt (s : CString) (i : ℕ) : Option Char := (s ++ ['\x00'])[i]?

/-- The loop that counts the spaces at the end off; `l` is positive when it is entered. -/
def trimBack (s : CString) : ℕ → Option ℕ
  | 0 => some 0
  | l + 1 =>
    (byteAt s l).bind fun c => if isspace c then trimBack s l else some (l + 1)

/-- The loop that moves the start forward and the count down, on the string from the start on. -/
def trimFront : CString → ℤ → Option (CString × ℤ)
  | [], l => some ([], l)
  | c :: rest, l =>
    if isspace c then (checked 32 (l - 1)).bind fun l => trimFront rest l
    else some (c :: rest, l)

/-- `trim`, whose counter is an `int`; `strndup` takes it as a `size_t`. -/
def trimLoops (s : CString) : Option CString :=
  let l := toSigned 32 s.length
  (if l ≤ 0 then some l else (trimBack s l.toNat).map Int.ofNat).bind fun l =>
    (trimFront s l).map fun front => front.1.take (toUnsigned 64 front.2)

/-! ## What they compute -/

/-- The backward loop removes the white space at the end. -/
theorem trimBack_eq {s : CString} {l : ℕ} (hl : l ≤ s.length) :
    trimBack s l = some (trimEnd (s.take l)) := by
  induction l with
  | zero => rfl
  | succ l ih =>
    have hlt : l < s.length := by omega
    have hbyte : byteAt s l = some s[l] := by
      rw [byteAt, List.getElem?_append_left hlt, List.getElem?_eq_getElem hlt]
    have hlast : (s.take (l + 1)).reverse = s[l] :: (s.take l).reverse := by
      rw [← List.take_concat_get' s l hlt, List.reverse_append]
      rfl
    rw [trimBack, hbyte, Option.bind_some, trimEnd, hlast, List.dropWhile_cons]
    split
    · exact ih (by omega)
    · rw [List.length_cons, List.length_reverse, List.length_take, Nat.min_eq_left (by omega)]

/-- The count stays in range if it does to the end of the string. -/
theorem trimFront_eq {s : CString} {l : ℤ} (hlow : -2 ^ 31 ≤ l - s.length) (hhigh : l < 2 ^ 31) :
    trimFront s l = some (s.dropWhile isspace, l - (s.takeWhile isspace).length) := by
  induction s generalizing l with
  | nil => simp [trimFront]
  | cons c rest ih =>
    rw [List.length_cons] at hlow
    push_cast at hlow
    rw [trimFront, List.dropWhile_cons, List.takeWhile_cons]
    by_cases hspace : isspace c
    · have hlow' : -2 ^ 31 ≤ l - 1 := by omega
      have hhigh' : l - 1 < 2 ^ 31 := by omega
      have hrange : InSigned 32 (l - 1) := ⟨hlow', hhigh'⟩
      have hcount : l - 1 - (rest.takeWhile isspace).length =
          l - ((c :: rest.takeWhile isspace).length : ℕ) := by
        rw [List.length_cons]
        omega
      simp only [hspace, if_true, checked_of_inSigned hrange, Option.bind_some]
      rw [ih (by omega) (by omega), hcount]
    · simp [hspace]

/-- The conversion of the count does not matter for a short string: below zero it becomes larger
than the string. -/
theorem take_toUnsigned {rest : CString} {l : ℤ} (hrest : rest.length < 2 ^ 31)
    (hlow : -2 ^ 31 ≤ l) (hhigh : l < 2 ^ 31) :
    rest.take (toUnsigned 64 l) = strndup rest l := by
  unfold strndup
  split
  · rename_i hneg
    have hsize : (toUnsigned 64 l : ℤ) = 2 ^ 64 + l := toUnsigned_of_neg hneg (by omega)
    apply List.take_of_length_le
    omega
  · rename_i hnonneg
    have hsize : toUnsigned 64 l = l.toNat := toUnsigned_of_nonneg (by omega) (by omega)
    rw [hsize]

/-- The loops compute `trim`. -/
theorem trimLoops_eq {s : CString} (hlen : s.length < 2 ^ 31) : trimLoops s = some (trim s) := by
  have hl : toSigned 32 s.length = s.length := toSigned_natCast (by decide) hlen
  have hback : (if (s.length : ℤ) ≤ 0 then some (s.length : ℤ)
      else (trimBack s (s.length : ℤ).toNat).map Int.ofNat) = some (trimEnd s : ℤ) := by
    split
    · rename_i hzero
      have hnil : s = [] := List.length_eq_zero_iff.mp (by omega)
      rw [hnil]
      rfl
    · rw [Int.toNat_natCast, trimBack_eq le_rfl, List.take_length]
      rfl
  have hend : trimEnd s ≤ s.length := by
    have := List.dropWhile_suffix isspace (l := s.reverse)
    simpa [trimEnd] using this.length_le
  have hlead : (s.takeWhile isspace).length ≤ s.length :=
    (List.takeWhile_prefix isspace).length_le
  have hdrop : s.drop (s.takeWhile isspace).length = s.dropWhile isspace := by
    have happend : (s.takeWhile isspace ++ s.dropWhile isspace).drop
        (s.takeWhile isspace).length = s.dropWhile isspace := List.drop_left
    rwa [List.takeWhile_append_dropWhile] at happend
  have hrest : (s.dropWhile isspace).length ≤ s.length :=
    (List.dropWhile_suffix isspace).length_le
  have hcopy : (s.dropWhile isspace).take
      (toUnsigned 64 ((trimEnd s : ℤ) - (s.takeWhile isspace).length)) = trim s := by
    rw [take_toUnsigned (by omega) (by omega) (by omega), trim, hdrop]
  rw [trimLoops, hl, hback, Option.bind_some, trimFront_eq (by omega) (by omega), Option.map_some,
    hcopy]

/-- No byte outside the string is read, and what is returned is the string without the spaces at
its two ends and with nothing else taken off; a string of spaces gives the empty one. -/
theorem trimLoops_spec {s : CString} (hlen : s.length < 2 ^ 31) :
    ∃ t, trimLoops s = some t ∧
      (∃ front back, s = front ++ (t ++ back) ∧ (∀ c ∈ front, isspace c) ∧
        ∀ c ∈ back, isspace c) ∧
      (∀ c, t.head? = some c → ¬ isspace c) ∧ (∀ c, t.getLast? = some c → ¬ isspace c) ∧
      ((∀ c ∈ s, isspace c) → t = []) ∧ trimLoops t = some t := by
  have hshort : (trim s).length < 2 ^ 31 := lt_of_le_of_lt (length_trim_le s) hlen
  refine ⟨trim s, trimLoops_eq hlen, ?_, ?_, ?_, ?_, ?_⟩
  · refine ⟨leading isspace s, trailing isspace s, ?_, fun c => of_mem_leading,
      fun c => of_mem_trailing⟩
    rw [trim_eq_trimmed, leading_trimmed_trailing]
  · intro c hc
    rw [trim_eq_trimmed] at hc
    simp [head?_trimmed hc]
  · intro c hc
    rw [trim_eq_trimmed] at hc
    simp [getLast?_trimmed hc]
  · intro hall
    rw [trim_eq_trimmed, trimmed_eq_nil hall]
  · rw [trimLoops_eq hshort, trim_eq_trimmed, trim_eq_trimmed, trimmed_trimmed]

/-- Spaces only: the count falls below zero, and the start stands at the terminator. -/
theorem trimLoops_spaces : trimLoops " \t\n".toList = some [] := by
  obtain ⟨t, htrim, -, -, -, hspaces, -⟩ := trimLoops_spec (s := " \t\n".toList) (by decide)
  rw [htrim, hspaces (by simp [isspace])]

example : trimFront " \t\n".toList 0 = some ([], -3) := by decide

end ZohoIotSdk
