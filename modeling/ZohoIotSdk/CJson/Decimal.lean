import ZohoIotSdk.CJson.Text

/-!
# The texts of decimal numbers

`print_number` writes a finite double as a decimal number: an optional sign, digits, digits after
a point, and an exponent. `strtod` reads such a text to its end.
-/

namespace ZohoIotSdk

/-- Characters of a kind are taken to their end if none of the kind follows. -/
theorem takeWhile_append_of_head {p : Char → Bool} {text rest : List Char}
    (htext : ∀ c ∈ text, p c = true) (hrest : ∀ c ∈ rest.head?, p c = false) :
    (text ++ rest).takeWhile p = text := by
  rw [List.takeWhile_append_of_pos htext]
  cases rest with
  | nil => rw [List.takeWhile_nil, List.append_nil]
  | cons c rest => rw [List.takeWhile_cons_of_neg (by simp [hrest c rfl]), List.append_nil]

/-- A decimal number as it is written. -/
structure Decimal where
  neg : Bool := false
  whole : List Char
  frac : List Char := []
  exponent : Option (Bool × List Char) := none
  whole_ne : whole ≠ []
  whole_digits : ∀ c ∈ whole, c.isDigit = true
  frac_digits : ∀ c ∈ frac, c.isDigit = true
  exponent_digits : ∀ e ∈ exponent, e.2 ≠ [] ∧ ∀ c ∈ e.2, c.isDigit = true

namespace Decimal

/-- The point is only written if digits follow. -/
def pointText (n : Decimal) : CString := if n.frac = [] then [] else '.' :: n.frac

def exponentText (n : Decimal) : CString :=
  match n.exponent with
  | none => []
  | some (neg, ds) => 'e' :: (if neg then '-' else '+') :: ds

/-- The text without the sign. -/
def magnitude (n : Decimal) : CString := n.whole ++ (n.pointText ++ n.exponentText)

def text (n : Decimal) : CString := if n.neg then '-' :: n.magnitude else n.magnitude

/-- The exponent that is written, or zero. -/
def scale (n : Decimal) : ℤ :=
  match n.exponent with
  | none => 0
  | some (neg, ds) => if neg then -(digitsVal ds : ℤ) else digitsVal ds

/-- The double nearest to the number. -/
def value (n : Decimal) : Double :=
  Double.ofDecimal n.neg (digitsVal (n.whole ++ n.frac)) (n.scale - n.frac.length)

/-! ## Reading -/

/-- A digit is not a sign. -/
theorem splitSign_of_isDigit {c : Char} (hc : c.isDigit = true) (cs : List Char) :
    splitSign (c :: cs) = (false, 0, c :: cs) := by
  have hminus : c ≠ '-' := by rintro rfl; simp at hc
  have hplus : c ≠ '+' := by rintro rfl; simp at hc
  unfold splitSign
  split
  · rename_i heq
    exact absurd (List.cons.inj heq).1 hminus
  · rename_i heq
    exact absurd (List.cons.inj heq).1 hplus
  · rfl

/-- The sign of a printed number is split off. -/
theorem splitSign_text (n : Decimal) :
    splitSign n.text = (n.neg, if n.neg then 1 else 0, n.magnitude) := by
  unfold text
  cases n.neg with
  | true => rfl
  | false =>
    obtain ⟨c, cs, hwhole⟩ := List.exists_cons_of_ne_nil n.whole_ne
    have hc : c.isDigit = true := n.whole_digits c (by rw [hwhole]; exact List.mem_cons_self)
    have hmagnitude : n.magnitude = c :: (cs ++ (n.pointText ++ n.exponentText)) := by
      rw [magnitude, hwhole, List.cons_append]
    rw [hmagnitude]
    exact splitSign_of_isDigit hc _

/-- What an exponent begins with. -/
theorem head_exponentText (n : Decimal) : ∀ c ∈ n.exponentText.head?, c = 'e' := by
  unfold exponentText
  cases n.exponent with
  | none => simp
  | some e => simp

theorem exponentPart_exponentText (n : Decimal) :
    exponentPart n.exponentText = (n.scale, n.exponentText.length) := by
  unfold exponentText scale
  cases hexponent : n.exponent with
  | none => rfl
  | some e =>
    obtain ⟨neg, ds⟩ := e
    obtain ⟨hne, hdigits⟩ := n.exponent_digits _ hexponent
    have htake : (ds ++ []).takeWhile Char.isDigit = ds :=
      takeWhile_append_of_head hdigits (by simp)
    rw [List.append_nil] at htake
    cases neg with
    | false => simp [exponentPart, splitSign, htake, hne]; omega
    | true => simp [exponentPart, splitSign, htake, hne]; omega

/-- `strtod` reads the whole text. -/
theorem strtod_text (n : Decimal) : strtod n.text = some (n.value, n.text.length) := by
  have hpoint : ∀ c ∈ (n.pointText ++ n.exponentText).head?, c.isDigit = false := by
    intro c hc
    unfold pointText at hc
    split at hc
    · rw [head_exponentText n c hc]
      rfl
    · obtain rfl : '.' = c := by simpa using hc
      rfl
  have hwhole : n.magnitude.takeWhile Char.isDigit = n.whole :=
    takeWhile_append_of_head n.whole_digits hpoint
  have hafter : n.magnitude.drop n.whole.length = n.pointText ++ n.exponentText := List.drop_left
  have hlength : n.text.length = (if n.neg = true then 1 else 0) + n.magnitude.length := by
    unfold text
    split
    · rw [List.length_cons, Nat.add_comm]
    · rw [Nat.zero_add]
  have hmagnitude : n.magnitude.length =
      n.whole.length + (n.pointText.length + n.exponentText.length) := by
    rw [magnitude, List.length_append, List.length_append]
  unfold strtod
  simp only [splitSign_text, hwhole, hafter]
  by_cases hfrac : n.frac = []
  · -- no point
    have htext : n.pointText = [] := if_pos hfrac
    have hhead : ¬ n.exponentText.head? = some '.' := fun h => by
      simpa using head_exponentText n '.' h
    have hdrop : n.magnitude.drop n.whole.length = n.exponentText := by
      rw [hafter, htext, List.nil_append]
    simp [htext, hhead, n.whole_ne, hdrop, exponentPart_exponentText, value, hfrac, hlength,
      hmagnitude]
    omega
  · have htext : n.pointText = '.' :: n.frac := if_neg hfrac
    have hdigits : (n.frac ++ n.exponentText).takeWhile Char.isDigit = n.frac :=
      takeWhile_append_of_head n.frac_digits fun c hc => by rw [head_exponentText n c hc]; rfl
    have hdrop : n.magnitude.drop (n.whole.length + (1 + n.frac.length)) = n.exponentText := by
      rw [← List.drop_drop, hafter, htext]
      simp [Nat.add_comm 1]
    simp [htext, n.whole_ne, hdigits, hdrop, exponentPart_exponentText, value, hlength, hmagnitude]
    omega

/-! ## Printing -/

theorem isDigit_of_mem_toDigits {n : ℕ} : ∀ c ∈ Nat.toDigits 10 n, c.isDigit = true :=
  fun _ hc => Nat.isDigit_of_mem_toDigits (by decide) (by decide) hc

theorem stripZeros_subset (ds : List Char) : stripZeros ds ⊆ ds := by
  intro c hc
  have hmem : c ∈ ds.reverse.dropWhile (· = '0') := List.mem_reverse.mp hc
  exact List.mem_reverse.mp ((List.dropWhile_suffix _).subset hmem)

/-- `%d` writes a decimal number. -/
theorem exists_intText (i : ℤ) : ∃ n : Decimal, intText i = n.text := by
  refine ⟨⟨decide (i < 0), Nat.toDigits 10 i.natAbs, [], none, Nat.toDigits_ne_nil,
    isDigit_of_mem_toDigits, by simp, by simp⟩, ?_⟩
  simp only [intText, text, magnitude, pointText, exponentText, List.append_nil, if_true,
    decide_eq_true_eq]

/-- The exponent that `%g` writes has two digits or more. -/
def exponentDigits (x : ℕ) : List Char :=
  if (Nat.toDigits 10 x).length < 2 then '0' :: Nat.toDigits 10 x else Nat.toDigits 10 x

/-- An exponent is printed with at least one digit. -/
theorem exponentDigits_ne_nil (x : ℕ) : exponentDigits x ≠ [] := by
  unfold exponentDigits
  split
  · simp
  · exact Nat.toDigits_ne_nil

theorem isDigit_of_mem_exponentDigits {x : ℕ} : ∀ c ∈ exponentDigits x, c.isDigit = true := by
  intro c hc
  unfold exponentDigits at hc
  split at hc
  · rcases List.mem_cons.mp hc with rfl | hmem
    · rfl
    · exact isDigit_of_mem_toDigits c hmem
  · exact isDigit_of_mem_toDigits c hc

/-- `%g` writes a decimal number. -/
theorem exists_formatG (neg : Bool) (prec units : ℕ) :
    ∃ n : Decimal, n.neg = neg ∧ formatG prec units = n.magnitude := by
  unfold formatG
  rcases sigDigits prec units with ⟨d, x⟩
  have hdigits : ∀ c ∈ Nat.toDigits 10 d, c.isDigit = true := isDigit_of_mem_toDigits
  have hne : Nat.toDigits 10 d ≠ [] := Nat.toDigits_ne_nil
  have htake : ∀ k, ∀ c ∈ (Nat.toDigits 10 d).take k, c.isDigit = true :=
    fun k c hc => hdigits c (List.take_subset _ _ hc)
  have hstrip : ∀ k, ∀ c ∈ stripZeros ((Nat.toDigits 10 d).drop k), c.isDigit = true :=
    fun k c hc => hdigits c (List.drop_subset _ _ (stripZeros_subset _ hc))
  simp only []
  split
  · -- with an exponent
    refine ⟨⟨neg, _, _, some (decide (x < 0), exponentDigits x.natAbs), ?_, htake 1, hstrip 1, ?_⟩,
      rfl, ?_⟩
    · simp [hne]
    · intro e he
      obtain rfl : (decide (x < 0), exponentDigits x.natAbs) = e := by simpa using he
      exact ⟨exponentDigits_ne_nil _, isDigit_of_mem_exponentDigits⟩
    · simp [magnitude, pointText, exponentText, exponentDigits]
  · split
    · refine ⟨⟨neg, _, _, none, ?_, htake (x.toNat + 1), hstrip (x.toNat + 1), by simp⟩, rfl, ?_⟩
      · simp [hne]
      · simp [magnitude, pointText, exponentText]
    · refine ⟨⟨neg, ['0'], List.replicate (x.natAbs - 1) '0' ++ stripZeros (Nat.toDigits 10 d),
        none, by simp, by simp, ?_, by simp⟩, rfl, ?_⟩
      · intro c hc
        rcases List.mem_append.mp hc with hzero | hmem
        · rw [List.eq_of_mem_replicate hzero]
          rfl
        · exact hstrip 0 c hmem
      · simp [magnitude, pointText, exponentText]

/-- A finite double is printed as a decimal number. -/
theorem exists_printNumber {d : Double} (h : d.isFinite = true) :
    ∃ n : Decimal, printNumber d = n.text := by
  have htext : ∀ c : Bool, ∃ prec,
      (if c then formatG 15 d.units else formatG 17 d.units) = formatG prec d.units := by
    intro c
    cases c with
    | false => exact ⟨17, if_neg (by decide)⟩
    | true => exact ⟨15, if_pos rfl⟩
  unfold printNumber
  extract_lets value
  clear_value value
  rw [if_neg (not_not.mpr h)]
  split
  · exact exists_intText value
  · rcases sigDigits 15 d.units with ⟨m, x⟩
    simp only []
    obtain ⟨prec, hprec⟩ := htext (compareDouble (Double.ofDecimal false m (x - 14)).units d.units)
    obtain ⟨n, hneg, hmagnitude⟩ := exists_formatG d.isNegative prec d.units
    exact ⟨n, by rw [hprec, text, hneg, hmagnitude]⟩

end Decimal

/-- NaN and the infinities are printed as `null`. -/
theorem printNumber_of_not_isFinite {d : Double} (h : d.isFinite = false) :
    printNumber d = "null".toList := by
  simp [printNumber, h]

/-! ## The characters of a number -/

/-- Only characters that `parse_number` copies. -/
def NumberChars (text : List Char) : Prop := ∀ c ∈ text, isNumberChar c = true

theorem NumberChars.append {text text' : List Char} (h : NumberChars text)
    (h' : NumberChars text') : NumberChars (text ++ text') := by
  intro c hc
  exact (List.mem_append.mp hc).elim (h c) (h' c)

theorem numberChars_of_isDigit {ds : List Char} (h : ∀ c ∈ ds, c.isDigit = true) :
    NumberChars ds := by
  intro c hc
  simp [isNumberChar, h c hc]

namespace Decimal

theorem numberChars_magnitude (n : Decimal) : NumberChars n.magnitude := by
  refine .append (numberChars_of_isDigit n.whole_digits) (.append ?_ ?_)
  · unfold pointText
    split
    · simp [NumberChars]
    · exact List.forall_mem_cons.mpr ⟨rfl, numberChars_of_isDigit n.frac_digits⟩
  · unfold exponentText
    cases hexponent : n.exponent with
    | none => simp [NumberChars]
    | some e =>
      obtain ⟨neg, ds⟩ := e
      have hdigits := numberChars_of_isDigit (n.exponent_digits _ hexponent).2
      have hsign : isNumberChar (if neg then '-' else '+') = true := by cases neg <;> rfl
      exact List.forall_mem_cons.mpr ⟨rfl, List.forall_mem_cons.mpr ⟨hsign, hdigits⟩⟩

/-- A magnitude has at least one character. -/
theorem magnitude_ne_nil (n : Decimal) : n.magnitude ≠ [] := by
  simp [magnitude, n.whole_ne]

/-- The characters of the text are those of a number. -/
theorem numberChars_text (n : Decimal) : NumberChars n.text ∧ n.text ≠ [] := by
  unfold text
  split
  · exact ⟨List.forall_mem_cons.mpr ⟨rfl, n.numberChars_magnitude⟩, by simp⟩
  · exact ⟨n.numberChars_magnitude, n.magnitude_ne_nil⟩

end Decimal

/-- A number is printed as a number, or as `null`. -/
theorem numberChars_printNumber (d : Double) : printNumber d = "null".toList ∨
    (NumberChars (printNumber d) ∧ printNumber d ≠ []) := by
  cases hfinite : d.isFinite with
  | false => exact .inl (printNumber_of_not_isFinite hfinite)
  | true =>
    obtain ⟨n, hn⟩ := Decimal.exists_printNumber hfinite
    rw [hn]
    exact .inr n.numberChars_text

end ZohoIotSdk
