import Mathlib.Algebra.Group.Int.Defs
import Mathlib.Algebra.Group.Nat.Defs
import Mathlib.Data.Nat.Basic

/-!
# C strings, and the number texts of cJSON

C strings and the conversions between JSON number texts and doubles that
`lib/cjson/cJSON.c` performs (`parse_number` with `strtod`, `print_number` with
`sprintf`), for the C locale. A double is kept as its 64 bits; the conversions go
through exact integer arithmetic in units of `2^-1074`, the smallest double.
-/

namespace ZohoIotSdk

/-- The bytes of a NUL-terminated C string, without the terminator; one `Char` a byte. -/
abbrev CString := List Char

/-- The part of a byte buffer that C string functions see: up to the first NUL. -/
def cstr (bytes : List Char) : CString := bytes.takeWhile (· ≠ '\x00')

/-- An IEEE 754 double, as its bits. -/
structure Double where
  bits : UInt64
deriving DecidableEq, Repr

namespace Double

def isNegative (d : Double) : Bool := decide (2 ^ 63 ≤ d.bits.toNat)

/-- The biased exponent. -/
def expField (d : Double) : ℕ := d.bits.toNat / 2 ^ 52 % 2 ^ 11

def fraction (d : Double) : ℕ := d.bits.toNat % 2 ^ 52

/-- Neither infinite nor NaN. -/
def isFinite (d : Double) : Bool := decide (d.expField ≠ 2047)

/-- The magnitude of a finite double, in units of `2^-1074`. -/
def units (d : Double) : ℕ :=
  if d.expField = 0 then d.fraction else (2 ^ 52 + d.fraction) * 2 ^ (d.expField - 1)

/-- `a / b` rounded to the nearest integer, ties to even. -/
def roundHalfEven (a b : ℕ) : ℕ :=
  if 2 * (a % b) < b then a / b
  else if b < 2 * (a % b) then a / b + 1
  else a / b + a / b % 2

/-- The double nearest to `± num / den`, ties to even; infinite beyond the range. -/
def nearest (neg : Bool) (num den : ℕ) : Double :=
  let sign := if neg then 2 ^ 63 else 0
  if num = 0 then ⟨UInt64.ofNat sign⟩
  else
    let e : ℤ := (num.log2 : ℤ) - den.log2
    -- `2 ^ e ≤ num / den` decides between the two candidates for the binary exponent
    let fits : Bool :=
      if 0 ≤ e then decide (den * 2 ^ e.toNat ≤ num) else decide (den ≤ num * 2 ^ (-e).toNat)
    let k : ℤ := max (-1074) ((if fits then e else e - 1) - 52)
    let q := if 0 ≤ k then roundHalfEven num (den * 2 ^ k.toNat)
      else roundHalfEven (num * 2 ^ (-k).toNat) den
    -- a carry out of the 53 bits moves into the exponent field by itself
    ⟨UInt64.ofNat (sign + min (q + (k + 1074).toNat * 2 ^ 52) (2047 * 2 ^ 52))⟩

/-- `(double) i`. -/
def ofInt (i : ℤ) : Double := nearest (decide (i < 0)) i.natAbs 1

/-- `± m * 10 ^ e`, rounded. The bounds keep the powers small: `m` has at most 63 digits,
so beyond them the result is infinite or zero. -/
def ofDecimal (neg : Bool) (m : ℕ) (e : ℤ) : Double :=
  if 0 ≤ e then nearest neg (m * 10 ^ (min e 400).toNat) 1
  else if e < -1500 then nearest neg 0 1
  else nearest neg m (10 ^ (-e).toNat)

end Double

/-! ## `strtod` on the characters that `parse_number` copies -/

/-- The value of a digit string. -/
def digitsVal (ds : List Char) : ℕ := ds.foldl (fun n c => 10 * n + (c.toNat - '0'.toNat)) 0

/-- Split off an optional sign. -/
def splitSign : List Char → Bool × ℕ × List Char
  | '-' :: cs => (true, 1, cs)
  | '+' :: cs => (false, 1, cs)
  | cs => (false, 0, cs)

/-- The exponent part: its value and length, `(0, 0)` when it is not well formed. -/
def exponentPart : List Char → ℤ × ℕ
  | c :: cs =>
    if c = 'e' ∨ c = 'E' then
      let (neg, signLen, rest) := splitSign cs
      let ds := rest.takeWhile Char.isDigit
      if ds = [] then (0, 0)
      else (if neg then -(digitsVal ds : ℤ) else digitsVal ds, 1 + signLen + ds.length)
    else (0, 0)
  | [] => (0, 0)

/-- `strtod` on decimal text: the number and how many characters it took. -/
def strtod (text : List Char) : Option (Double × ℕ) :=
  let (neg, signLen, rest) := splitSign text
  let whole := rest.takeWhile Char.isDigit
  let afterWhole := rest.drop whole.length
  let point : Bool := afterWhole.head? = some '.'
  let frac := if point then (afterWhole.drop 1).takeWhile Char.isDigit else []
  if whole = [] ∧ frac = [] then none
  else
    let mantissaLen := whole.length + (if point then 1 + frac.length else 0)
    let (e, expLen) := exponentPart (rest.drop mantissaLen)
    some (Double.ofDecimal neg (digitsVal (whole ++ frac)) (e - frac.length),
      signLen + mantissaLen + expLen)

/-! ## `print_number` -/

/-- The text of an integer (`%d`). -/
def intText (i : ℤ) : CString :=
  if i < 0 then '-' :: Nat.toDigits 10 i.natAbs else Nat.toDigits 10 i.natAbs

theorem intText_natCast (n : ℕ) : intText n = Nat.toDigits 10 n := by
  rw [intText, if_neg (by omega), Int.natAbs_natCast]

/-- A greater number has no fewer digits. -/
theorem length_intText_mono {i j : ℤ} (hi : 0 ≤ i) (hij : i ≤ j) :
    (intText i).length ≤ (intText j).length := by
  obtain ⟨i, rfl⟩ := Int.eq_ofNat_of_zero_le hi
  obtain ⟨j, rfl⟩ := Int.eq_ofNat_of_zero_le (Int.le_trans hi hij)
  have hj := (Nat.length_toDigits_le_iff (b := 10) (n := j) (by omega)
    Nat.length_toDigits_pos).mp le_rfl
  rw [intText_natCast, intText_natCast,
    Nat.length_toDigits_le_iff (by omega) Nat.length_toDigits_pos]
  omega

/-- The `prec` significant decimal digits of a positive number of units, as one integer,
and the decimal exponent of the first of them. -/
def sigDigits (prec units : ℕ) : ℕ × ℤ :=
  let x : ℤ :=
    if 2 ^ 1074 ≤ units then ((Nat.toDigits 10 (units / 2 ^ 1074)).length : ℤ) - 1
    else -(((List.range 400).find? fun j => decide (2 ^ 1074 ≤ units * 10 ^ j)).getD 0 : ℤ)
  let shift : ℤ := prec - 1 - x
  let d := if 0 ≤ shift then Double.roundHalfEven (units * 10 ^ shift.toNat) (2 ^ 1074)
    else Double.roundHalfEven units (2 ^ 1074 * 10 ^ (-shift).toNat)
  if d = 10 ^ prec then (10 ^ (prec - 1), x + 1) else (d, x)

/-- Drop the zeros at the end. -/
def stripZeros (ds : List Char) : List Char := (ds.reverse.dropWhile (· = '0')).reverse

/-- `%1.<prec>g` of a positive number of units. -/
def formatG (prec units : ℕ) : CString :=
  let (d, x) := sigDigits prec units
  let ds := Nat.toDigits 10 d
  let point (frac : List Char) := if frac = [] then [] else '.' :: frac
  if x < -4 ∨ (prec : ℤ) ≤ x then
    let ex := Nat.toDigits 10 x.natAbs
    ds.take 1 ++ point (stripZeros (ds.drop 1)) ++ ['e', if x < 0 then '-' else '+']
      ++ (if ex.length < 2 then '0' :: ex else ex)
  else if 0 ≤ x then ds.take (x.toNat + 1) ++ point (stripZeros (ds.drop (x.toNat + 1)))
  else '0' :: point (List.replicate (x.natAbs - 1) '0' ++ stripZeros ds)

/-- `compare_double`: do the magnitudes agree up to `DBL_EPSILON` of the larger one? -/
def compareDouble (a b : ℕ) : Bool :=
  decide (max a b - min a b ≤ Double.roundHalfEven (max a b) (2 ^ 52))

/-- `print_number`: integers in the range of `int` as such, other numbers with 15 digits,
or with 17 when 15 do not give the number back. -/
def printNumber (d : Double) : CString :=
  let value : ℤ :=
    if d.isNegative then -((d.units / 2 ^ 1074 : ℕ) : ℤ) else (d.units / 2 ^ 1074 : ℕ)
  if ¬ d.isFinite then "null".toList
  else if d.units % 2 ^ 1074 = 0 ∧ -(2 ^ 31) ≤ value ∧ value < 2 ^ 31 then intText value
  else
    let (m, x) := sigDigits 15 d.units
    let back := Double.ofDecimal false m (x - 14)
    let text := if compareDouble back.units d.units then formatG 15 d.units else formatG 17 d.units
    if d.isNegative then '-' :: text else text

end ZohoIotSdk
