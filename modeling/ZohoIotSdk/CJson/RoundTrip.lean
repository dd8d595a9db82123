import ZohoIotSdk.CJson.Decimal
import ZohoIotSdk.CJson.Members
import ZohoIotSdk.CJson.TextTheorems
import Mathlib.Data.List.DropRight
import Mathlib.Tactic.IntervalCases

/-!
# Parsing printed text

What `cJSON_Parse` makes of a text that `cJSON_Print` wrote, if it accepts it: an object for
an object and an array for an array, with the same names in the same order (`Reread`). The
parser may refuse the text, because of its nesting limit, and numbers need not come back to
the last digit; neither matters for the names.
-/

namespace ZohoIotSdk

/-! ## Strings -/

/-- The text of a control character, and its value. -/
theorem controlEscape_eq {c : Char} (h : c.toNat < 32) : ∃ x y : Char,
    controlEscape c = ['\\', 'u', '0', '0', x, y] ∧ x ≠ '"' ∧ x ≠ '\\' ∧ y ≠ '"' ∧ y ≠ '\\' ∧
      parseHex4 '0' '0' x y = c.toNat := by
  have hc : c = Char.ofNat c.toNat := by simp
  generalize c.toNat = n at hc h
  subst hc
  interval_cases n <;> exact ⟨_, _, rfl, by decide, by decide, by decide, by decide, rfl⟩

/-- An ordinary character is scanned as it is. -/
theorem scanString_cons {c : Char} (hquote : c ≠ '"') (hescape : c ≠ '\\') (input : List Char) :
    scanString (c :: input) = (scanString input).map fun x => (c :: x.1, x.2) := by
  rw [scanString]
  · exact hquote
  · intro c' rest hc
    exact absurd hc hescape

/-- A printed character is scanned whole, escaped or not. -/
theorem scanString_escapeChar (c : Char) (input : List Char) :
    scanString (escapeChar c ++ input) =
      (scanString input).map fun x => (escapeChar c ++ x.1, x.2) := by
  unfold escapeChar
  split
  · rfl
  rename_i hquote
  split
  · rfl
  rename_i hescape
  split
  · rfl
  split
  · rfl
  split
  · rfl
  split
  · rfl
  split
  · rfl
  split
  · rename_i hcontrol
    obtain ⟨x, y, heq, hx, hx', hy, hy', -⟩ := controlEscape_eq hcontrol
    rw [heq]
    show scanString ('\\' :: 'u' :: '0' :: '0' :: x :: y :: input) = _
    rw [scanString, scanString_cons (by decide) (by decide),
      scanString_cons (by decide) (by decide), scanString_cons hx hx', scanString_cons hy hy']
    cases scanString input <;> rfl
  · exact scanString_cons hquote hescape input

/-- Every character comes back. -/
theorem unescape_escapeChar (c : Char) (input : List Char) :
    unescape (escapeChar c ++ input) = (unescape input).map (c :: ·) := by
  unfold escapeChar
  split
  · rename_i h
    rw [h]
    rfl
  split
  · rename_i h
    rw [h]
    rfl
  rename_i hescape
  split
  · rename_i h
    rw [h]
    rfl
  split
  · rename_i h
    rw [h]
    rfl
  split
  · rename_i h
    rw [h]
    rfl
  split
  · rename_i h
    rw [h]
    rfl
  split
  · rename_i h
    rw [h]
    rfl
  split
  · rename_i hcontrol
    obtain ⟨x, y, heq, -, -, -, -, hhex⟩ := controlEscape_eq hcontrol
    have hbytes : utf8Bytes c.toNat = [c] := by
      unfold utf8Bytes
      rw [if_pos (by omega)]
      simp
    rw [heq]
    show unescape ('\\' :: 'u' :: '0' :: '0' :: x :: y :: input) = _
    rw [unescape.eq_def]
    simp only [hhex]
    rw [if_neg (by omega), if_neg (by omega), hbytes]
    rfl
  · show unescape (c :: input) = _
    rw [unescape, if_neg hescape]
    · intro a b d e rest hc
      exact absurd hc hescape
    · intro c' rest hc
      exact absurd hc hescape

/-- A printed text is scanned up to its closing quote. -/
theorem scanString_flatMap_escapeChar (text rest : List Char) :
    scanString (text.flatMap escapeChar ++ '"' :: rest) = some (text.flatMap escapeChar, rest) := by
  induction text with
  | nil => rfl
  | cons c text ih =>
    rw [List.flatMap_cons, List.append_assoc, scanString_escapeChar, ih]
    rfl

/-- Unescaping undoes the escapes of a printed text. -/
theorem unescape_flatMap_escapeChar (text : List Char) :
    unescape (text.flatMap escapeChar) = some text := by
  induction text with
  | nil => rfl
  | cons c text ih =>
    rw [List.flatMap_cons, unescape_escapeChar, ih]
    rfl

/-- A printed string is read back as a C string. -/
theorem parseString_printStringPtr (s : Option CString) (rest : List Char) :
    parseString (printStringPtr s ++ rest) = some (cstr (s.getD []), rest) := by
  have htext : printStringPtr s ++ rest =
      '"' :: ((s.getD []).flatMap escapeChar ++ '"' :: rest) := by
    simp [printStringPtr]
  rw [htext]
  simp only [parseString, scanString_flatMap_escapeChar, unescape_flatMap_escapeChar,
    Option.map_some]

/-! ## Numbers -/

/-- The sign and the rest make up the text. -/
theorem splitSign_length (text : List Char) :
    (splitSign text).2.1 + (splitSign text).2.2.length = text.length := by
  unfold splitSign
  split
  · exact Nat.add_comm _ _
  · exact Nat.add_comm _ _
  · exact Nat.zero_add _

/-- The exponent is no longer than the text. -/
theorem exponentPart_length (text : List Char) : (exponentPart text).2 ≤ text.length := by
  cases text with
  | nil => exact le_refl _
  | cons c cs =>
    have hsign := splitSign_length cs
    rcases hsplit : splitSign cs with ⟨neg, signLen, rest⟩
    rw [hsplit] at hsign
    have hdigits : (rest.takeWhile Char.isDigit).length ≤ rest.length :=
      (List.takeWhile_prefix _).length_le
    simp only [exponentPart, hsplit]
    split
    · split
      · exact Nat.zero_le _
      · show 1 + signLen + (rest.takeWhile Char.isDigit).length ≤ cs.length + 1
        have hsum : signLen + rest.length = cs.length := hsign
        omega
    · exact Nat.zero_le _

/-- The digits before the point and after it. -/
theorem mantissa_length (rest whole : List Char) (hwhole : whole.length ≤ rest.length)
    (point : Bool) (hpoint : decide ((rest.drop whole.length).head? = some '.') = point) :
    whole.length + (if point = true then 1 + (if point = true then
      ((rest.drop whole.length).drop 1).takeWhile Char.isDigit else []).length else 0) ≤
      rest.length := by
  cases point with
  | false => simpa using hwhole
  | true =>
    have hne : rest.drop whole.length ≠ [] := by
      intro hnil
      simp [hnil] at hpoint
    have hpos := List.length_pos_iff.mpr hne
    have hfrac : (((rest.drop whole.length).drop 1).takeWhile Char.isDigit).length ≤
        ((rest.drop whole.length).drop 1).length :=
      (List.takeWhile_prefix _).length_le
    simp only [List.length_drop, if_true] at hpos hfrac ⊢
    omega

/-- `strtod` does not read beyond its text. -/
theorem strtod_length {text : List Char} {d : Double} {len : ℕ} (h : strtod text = some (d, len)) :
    len ≤ text.length := by
  have hsign := splitSign_length text
  rcases hsplit : splitSign text with ⟨neg, signLen, rest⟩
  rw [hsplit] at hsign
  have hsum : signLen + rest.length = text.length := hsign
  have hwhole : (rest.takeWhile Char.isDigit).length ≤ rest.length :=
    (List.takeWhile_prefix _).length_le
  have hmantissa := mantissa_length rest _ hwhole _ rfl
  simp only [strtod, hsplit, Option.ite_none_left_eq_some, Option.some.injEq, Prod.mk.injEq] at h
  obtain ⟨-, -, rfl⟩ := h
  generalize (rest.takeWhile Char.isDigit).length + _ = mantissa at hmantissa ⊢
  have hexp := exponentPart_length (rest.drop mantissa)
  rw [List.length_drop] at hexp
  omega

/-- No character of a number comes first. -/
def EndsNumber (rest : List Char) : Prop := ∀ c ∈ rest.head?, isNumberChar c = false

/-- A character of a number comes first. -/
def StartsNumber (rest : List Char) : Prop := ∃ c ∈ rest.head?, isNumberChar c = true

/-- A number is parsed to its end, or stops at one of its own characters. -/
theorem parseNumber_numberChars {text rest rest' : List Char} {d : Double}
    (htext : NumberChars text) (hend : EndsNumber rest)
    (h : parseNumber (text ++ rest) = some (d, rest')) :
    rest' = rest ∨ StartsNumber rest' := by
  have hcopied : (text ++ rest).takeWhile isNumberChar = text :=
    takeWhile_append_of_head htext hend
  unfold parseNumber at h
  rw [← List.take_takeWhile, hcopied] at h
  simp only [Option.map_eq_some_iff, Prod.mk.injEq] at h
  obtain ⟨⟨d', len⟩, hstrtod, -, rfl⟩ := h
  have hlen : len ≤ text.length :=
    (strtod_length hstrtod).trans (List.length_take_le' _ _)
  show (text ++ rest).drop len = rest ∨ StartsNumber ((text ++ rest).drop len)
  rw [List.drop_append_of_le_length hlen]
  cases hleft : text.drop len with
  | nil => exact .inl rfl
  | cons c left =>
    have hmem : c ∈ text := List.drop_subset len text (by rw [hleft]; exact List.mem_cons_self)
    exact .inr ⟨c, rfl, htext c hmem⟩

/-! ## White space -/

/-- White space in front is skipped. -/
theorem skipWhitespace_append {ws : List Char} (hws : ∀ c ∈ ws, c.toNat ≤ 32) (input : List Char) :
    skipWhitespace (ws ++ input) = skipWhitespace input :=
  List.dropWhile_append_of_pos (by simpa using hws)

theorem skipWhitespace_cons {c : Char} (hc : 32 < c.toNat) (input : List Char) :
    skipWhitespace (c :: input) = c :: input :=
  List.dropWhile_cons_of_neg (by simpa using hc)

/-- A number character is a sign, a digit, an exponent mark or the point. -/
theorem isNumberChar_cases {c : Char} (h : isNumberChar c = true) :
    (c = '-' ∨ c.isDigit = true) ∨ c = '+' ∨ c = 'e' ∨ c = 'E' ∨ c = '.' := by
  simp only [isNumberChar, Bool.or_eq_true, decide_eq_true_eq] at h
  tauto

/-- A character of a number is not a bracket, a comma or white space. -/
theorem isNumberChar_printable {c : Char} (h : isNumberChar c = true) :
    32 < c.toNat ∧ c ∉ ['[', ']', '\x7b', '\x7d', ',', '"', 'n', 'f', 't'] := by
  rcases isNumberChar_cases h with (rfl | hdigit) | rfl | rfl | rfl | rfl
  · decide
  · have hrange : 48 ≤ c.toNat ∧ c.toNat ≤ 57 := by
      simp only [Char.isDigit, ge_iff_le, Bool.and_eq_true, decide_eq_true_eq] at hdigit
      exact hdigit
    have hother : ∀ x ∈ ['[', ']', '\x7b', '\x7d', ',', '"', 'n', 'f', 't'],
        ¬ (48 ≤ x.toNat ∧ x.toNat ≤ 57) := by simp
    exact ⟨by omega, fun hmem => hother c hmem hrange⟩
  · decide
  · decide
  · decide
  · decide

/-! ## Values -/

mutual

/-- The second item has the same objects and arrays as the first one, and in the objects the
same names in the same order. -/
def Reread : CJson → CJson → Prop
  | .mk .object _ _ _ cs, j => j.type = .object ∧ RereadMembers cs j.child
  | .mk .array _ _ _ cs, j => j.type = .array ∧ RereadElements cs j.child
  | .mk _ _ _ _ _, j => j.type ≠ .object ∧ j.child = []

def RereadElements : List CJson → List CJson → Prop
  | [], ds => ds = []
  | c :: cs, ds => ∃ d ds', ds = d :: ds' ∧ d.string = none ∧ Reread c d ∧ RereadElements cs ds'

def RereadMembers : List CJson → List CJson → Prop
  | [], ds => ds = []
  | c :: cs, ds => ∃ d ds', ds = d :: ds' ∧ d.string = some (cstr (c.string.getD [])) ∧
      Reread c d ∧ RereadMembers cs ds'

end

/-- The name of an item has no part in it. -/
theorem reread_named {j j' : CJson} {name : CString} (h : Reread j j') :
    Reread j (j'.named name) := by
  rcases j with ⟨t, v, d, n, cs⟩
  cases t <;> simpa only [Reread, CJson.type_named, CJson.child_named] using h

/-- A bracket opens an array below the nesting limit. -/
theorem parseValue_array (fuel depth : ℕ) (rest : List Char) :
    parseValue (fuel + 1) depth ('[' :: rest) =
      if nestingLimit ≤ depth then none
      else match skipWhitespace rest with
        | ']' :: after => some (cJSONCreateArray, after)
        | first => (parseElements fuel (depth + 1) first).map fun x =>
            (cJSONCreateArray.withChild x.1, x.2) := rfl

/-- A brace opens an object below the nesting limit. -/
theorem parseValue_object (fuel depth : ℕ) (rest : List Char) :
    parseValue (fuel + 1) depth ('\x7b' :: rest) =
      if nestingLimit ≤ depth then none
      else match skipWhitespace rest with
        | '\x7d' :: after => some (cJSONCreateObject, after)
        | first => (parseMembers fuel (depth + 1) first).map fun x =>
            (cJSONCreateObject.withChild x.1, x.2) := rfl

/-- At a number character only a number can be parsed. -/
theorem parseValue_number {fuel depth : ℕ} {c : Char} {tail : List Char}
    (hc : isNumberChar c = true) {j : CJson} {rest : List Char}
    (h : parseValue (fuel + 1) depth (c :: tail) = some (j, rest)) :
    ∃ d, parseNumber (c :: tail) = some (d, rest) ∧ j = cJSONCreateNumber d := by
  obtain ⟨-, hother⟩ := isNumberChar_printable hc
  simp only [List.mem_cons, List.not_mem_nil, or_false, not_or] at hother
  obtain ⟨hbracket, -, hbrace, -, -, hquote, hn, hf, ht⟩ := hother
  have hword : ∀ (x : Char) (word : List Char), c ≠ x →
      (x :: word).isPrefixOf (c :: tail) = false := by
    intro x word hne
    simp [List.isPrefixOf, Ne.symm hne]
  have hnull : "null".toList.isPrefixOf (c :: tail) = false := hword 'n' _ hn
  have hfalse : "false".toList.isPrefixOf (c :: tail) = false := hword 'f' _ hf
  have htrue : "true".toList.isPrefixOf (c :: tail) = false := hword 't' _ ht
  unfold parseValue at h
  simp only [hnull, hfalse, htrue, Bool.false_eq_true, if_false, if_neg hquote, if_neg hbracket,
    if_neg hbrace] at h
  split at h
  · simp only [Option.map_eq_some_iff, Prod.mk.injEq] at h
    obtain ⟨⟨d, after⟩, hnumber, rfl, rfl⟩ := h
    exact ⟨d, hnumber, rfl⟩
  · simp at h

/-- One turn of the loop over elements: a value, and then a comma or the end. -/
theorem parseElements_succ {fuel limit : ℕ} {input rest : List Char} {cs : List CJson}
    (h : parseElements (fuel + 1) limit input = some (cs, rest)) :
    ∃ item after, parseValue fuel limit (skipWhitespace input) = some (item, after) ∧
      ((∃ next ds, skipWhitespace after = ',' :: next ∧
          parseElements fuel limit next = some (ds, rest) ∧ cs = item :: ds) ∨
        (skipWhitespace after = ']' :: rest ∧ cs = [item])) := by
  rw [parseElements] at h
  split at h
  · simp at h
  rename_i item after hvalue
  refine ⟨item, after, hvalue, ?_⟩
  split at h
  · rename_i next hnext
    simp only [Option.map_eq_some_iff, Prod.mk.injEq] at h
    obtain ⟨⟨ds, rest'⟩, hparse, rfl, rfl⟩ := h
    exact .inl ⟨next, ds, hnext, hparse, rfl⟩
  · rename_i hnext
    simp only [Option.some.injEq, Prod.mk.injEq] at h
    obtain ⟨rfl, rfl⟩ := h
    exact .inr ⟨hnext, rfl⟩
  · simp at h

/-- One turn of the loop over members. -/
theorem parseMembers_succ {fuel limit : ℕ} {input rest : List Char} {cs : List CJson}
    (h : parseMembers (fuel + 1) limit input = some (cs, rest)) :
    ∃ name afterName value item after,
      parseString (skipWhitespace input) = some (name, afterName) ∧
      skipWhitespace afterName = ':' :: value ∧
      parseValue fuel limit (skipWhitespace value) = some (item, after) ∧
      ((∃ next ds, skipWhitespace after = ',' :: next ∧
          parseMembers fuel limit next = some (ds, rest) ∧ cs = item.named name :: ds) ∨
        (skipWhitespace after = '\x7d' :: rest ∧ cs = [item.named name])) := by
  rw [parseMembers] at h
  split at h
  · simp at h
  rename_i name afterName hname
  split at h
  · rename_i value hcolon
    split at h
    · simp at h
    rename_i item after hvalue
    refine ⟨name, afterName, value, item, after, hname, hcolon, hvalue, ?_⟩
    split at h
    · rename_i next hnext
      simp only [Option.map_eq_some_iff, Prod.mk.injEq] at h
      obtain ⟨⟨ds, rest'⟩, hparse, rfl, rfl⟩ := h
      exact .inl ⟨next, ds, hnext, hparse, rfl⟩
    · rename_i hnext
      simp only [Option.some.injEq, Prod.mk.injEq] at h
      obtain ⟨rfl, rfl⟩ := h
      exact .inr ⟨hnext, rfl⟩
    · simp at h
  · simp at h

/-- How the text of a value begins. -/
theorem printValue_head (depth : ℕ) (j : CJson) :
    ∃ c tail, printValue depth j = c :: tail ∧ 32 < c.toNat ∧ c ≠ ']' := by
  rcases j with ⟨t, v, d, n, cs⟩
  cases t
  case number =>
    rcases numberChars_printNumber d with hnull | ⟨hchars, hne⟩
    · exact ⟨'n', _, by rw [printValue, hnull]; rfl, by decide, by decide⟩
    · cases htext : printNumber d with
      | nil => exact absurd htext hne
      | cons c tail =>
        rw [htext] at hchars
        obtain ⟨hprintable, hother⟩ := isNumberChar_printable (hchars c List.mem_cons_self)
        refine ⟨c, tail, by rw [printValue, htext], hprintable, ?_⟩
        rintro rfl
        exact hother (by decide)
  case object => exact ⟨'\x7b', _, rfl, by decide, by decide⟩
  all_goals exact ⟨_, _, rfl, by decide, by decide⟩

/-- Printed elements start with neither white space nor a closing bracket. -/
theorem printElements_head (depth : ℕ) {cs : List CJson} (h : cs ≠ []) :
    ∃ c tail, printElements depth cs = c :: tail ∧ 32 < c.toNat ∧ c ≠ ']' := by
  match cs, h with
  | [j], _ => exact printValue_head depth j
  | j :: k :: cs, _ =>
    obtain ⟨c, tail, hhead, hc⟩ := printValue_head depth j
    refine ⟨c, tail ++ ", ".toList ++ printElements depth (k :: cs), ?_, hc⟩
    simp only [printElements, hhead, List.cons_append]

theorem skipWhitespace_head {c : Char} {text tail : List Char} (htext : text = c :: tail)
    (hc : 32 < c.toNat) (rest : List Char) : skipWhitespace (text ++ rest) = text ++ rest := by
  rw [htext]
  exact skipWhitespace_cons hc _

/-- A printed value does not start with white space. -/
theorem skipWhitespace_printValue (depth : ℕ) (j : CJson) (rest : List Char) :
    skipWhitespace (printValue depth j ++ rest) = printValue depth j ++ rest := by
  obtain ⟨c, tail, htext, hc, -⟩ := printValue_head depth j
  exact skipWhitespace_head htext hc rest

/-- What the text of some members is made of: white space, the name, and the value. -/
theorem printMembers_cons (depth : ℕ) (c : CJson) (cs : List CJson) (ws tail : List Char) :
    ws ++ (printMembers depth (c :: cs) ++ tail) =
      (ws ++ List.replicate depth '\t') ++ (printStringPtr c.string ++ (':' :: '\t' ::
        (printValue depth c ++ ((if cs = [] then [] else [',']) ++
          '\n' :: (printMembers depth cs ++ tail))))) := by
  simp [printMembers]

theorem white_tabs {ws : List Char} (hws : ∀ c ∈ ws, c.toNat ≤ 32) (n : ℕ) :
    ∀ c ∈ ws ++ List.replicate n '\t', c.toNat ≤ 32 := by
  intro c hc
  rcases List.mem_append.mp hc with hmem | hmem
  · exact hws c hmem
  · rw [List.eq_of_mem_replicate hmem]
    decide

/-- The members follow the white space in front of them. -/
theorem skipWhitespace_printMembers (depth : ℕ) (c : CJson) (cs : List CJson) {ws : List Char}
    (hws : ∀ c ∈ ws, c.toNat ≤ 32) (tail : List Char) :
    skipWhitespace (ws ++ (printMembers depth (c :: cs) ++ tail)) =
      printStringPtr c.string ++ (':' :: '\t' :: (printValue depth c ++
        ((if cs = [] then [] else [',']) ++ '\n' :: (printMembers depth cs ++ tail)))) := by
  rw [printMembers_cons, skipWhitespace_append (white_tabs hws depth)]
  exact skipWhitespace_cons (by decide) _

/-- The loop over members begins by skipping white space. -/
theorem parseMembers_skipWhitespace (fuel limit : ℕ) (input : List Char) :
    parseMembers fuel limit (skipWhitespace input) = parseMembers fuel limit input := by
  have hskip : skipWhitespace (skipWhitespace input) = skipWhitespace input :=
    List.dropWhile_idempotent _ _
  cases fuel with
  | zero => rfl
  | succ fuel => rw [parseMembers, parseMembers, hskip]

/-- The item that was parsed fits the one that was printed, and the text after it is what
followed, or the parser stopped within a number. -/
structure ParsedBack (j j' : CJson) (rest rest' : List Char) : Prop where
  string : j'.string = none
  reread : Reread j j'
  rest : rest' = rest ∨ StartsNumber rest'

/-- What stands after the value is what was printed there: the parser does not go on after a
part of a number. -/
theorem ParsedBack.next_eq {j j' : CJson} {ws next next' rest' : List Char} {c c' : Char}
    (h : ParsedBack j j' (ws ++ c :: next) rest') (hws : ∀ c ∈ ws, c.toNat ≤ 32)
    (hc : 32 < c.toNat) (hc' : isNumberChar c' = false)
    (hnext : skipWhitespace rest' = c' :: next') : c = c' ∧ next = next' := by
  rcases h.rest with rfl | ⟨x, hx, hnumber⟩
  · rw [skipWhitespace_append hws, skipWhitespace_cons hc, List.cons.injEq] at hnext
    exact hnext
  · cases rest' with
    | nil => simp at hx
    | cons y tail =>
      obtain rfl : y = x := by simpa using hx
      rw [skipWhitespace_cons (isNumberChar_printable hnumber).1, List.cons.injEq] at hnext
      rw [hnext.1, hc'] at hnumber
      exact absurd hnumber (by simp)

/-- The words `null`, `true` and `false` are parsed back. -/
theorem parsedBack_word (t : CJsonType) {j j' : CJson} {rest rest' : List Char}
    (hreread : Reread j (cJSONNewItem t))
    (h : some (cJSONNewItem t, rest) = some (j', rest')) : ParsedBack j j' rest rest' := by
  simp only [Option.some.injEq, Prod.mk.injEq] at h
  obtain ⟨rfl, rfl⟩ := h
  exact ⟨rfl, hreread, .inl rfl⟩

/-- What is parsed from a printed number is a number. -/
theorem parsedBack_number {d : Double} {v n : Option CString} {cs : List CJson}
    {fuel limit : ℕ} {rest rest' : List Char} {j' : CJson} (hend : EndsNumber rest)
    (h : parseValue (fuel + 1) limit (printNumber d ++ rest) = some (j', rest')) :
    ParsedBack (.mk .number v d n cs) j' rest rest' := by
  rcases numberChars_printNumber d with hnull | ⟨hchars, hne⟩
  · rw [hnull] at h
    have hparsed : some (cJSONNewItem .null, rest) = some (j', rest') := h
    simp only [Option.some.injEq, Prod.mk.injEq] at hparsed
    obtain ⟨rfl, rfl⟩ := hparsed
    exact ⟨rfl, ⟨by simp [cJSONNewItem, CJson.type], rfl⟩, .inl rfl⟩
  · cases htext : printNumber d with
    | nil => exact absurd htext hne
    | cons c tail =>
      rw [htext] at h hchars
      obtain ⟨d', hnumber, rfl⟩ := parseValue_number (hchars c List.mem_cons_self) h
      exact ⟨rfl, ⟨by simp [cJSONCreateNumber, CJson.type], rfl⟩,
        parseNumber_numberChars hchars hend hnumber⟩

/-- A printed string is parsed back. -/
theorem parsedBack_string {d : Double} {v n : Option CString} {cs : List CJson}
    {fuel limit : ℕ} {rest rest' : List Char} {j' : CJson}
    (h : parseValue (fuel + 1) limit (printStringPtr v ++ rest) = some (j', rest')) :
    ParsedBack (.mk .string v d n cs) j' rest rest' := by
  have hparsed : parseValue (fuel + 1) limit (printStringPtr v ++ rest) =
      (parseString (printStringPtr v ++ rest)).map fun x =>
        (.mk .string (some x.1) ⟨0⟩ none [], x.2) := rfl
  rw [hparsed, parseString_printStringPtr, Option.map_some, Option.some.injEq,
    Prod.mk.injEq] at h
  obtain ⟨rfl, rfl⟩ := h
  exact ⟨rfl, ⟨by simp [CJson.type], rfl⟩, .inl rfl⟩

mutual

/-- What is parsed from a printed value is the value up to its numbers. -/
theorem parseValue_printValue : ∀ (j : CJson) {depth fuel limit : ℕ} {rest rest' : List Char}
    {j' : CJson}, EndsNumber rest →
    parseValue fuel limit (printValue depth j ++ rest) = some (j', rest') →
    ParsedBack j j' rest rest'
  | .mk t v d n cs, depth, 0, limit, rest, rest', j', _, h => by simp [parseValue] at h
  | .mk t v d n cs, depth, fuel + 1, limit, rest, rest', j', hend, h => by
    cases t
    case null => exact parsedBack_word .null ⟨by simp [cJSONNewItem, CJson.type], rfl⟩ h
    case false => exact parsedBack_word .false ⟨by simp [cJSONNewItem, CJson.type], rfl⟩ h
    case true => exact parsedBack_word .true ⟨by simp [cJSONNewItem, CJson.type], rfl⟩ h
    case number => exact parsedBack_number hend h
    case string => exact parsedBack_string h
    case array =>
      have htext : printValue depth (.mk .array v d n cs) ++ rest =
          '[' :: (printElements (depth + 1) cs ++ ']' :: rest) := by simp [printValue]
      rw [htext, parseValue_array] at h
      split at h
      · simp at h
      by_cases hcs : cs = []
      · subst hcs
        have hempty : some (cJSONNewItem .array, rest) = some (j', rest') := h
        exact parsedBack_word .array ⟨rfl, rfl⟩ hempty
      · obtain ⟨c, tail, hhead, hc, hne⟩ := printElements_head (depth + 1) hcs
        rw [skipWhitespace_head hhead hc] at h
        split at h
        · rename_i heq
          rw [hhead, List.cons_append, List.cons.injEq] at heq
          exact absurd heq.1 hne
        · simp only [Option.map_eq_some_iff, Prod.mk.injEq] at h
          obtain ⟨⟨cs', after⟩, hparse, rfl, rfl⟩ := h
          rw [← List.nil_append (printElements (depth + 1) cs ++ ']' :: rest)] at hparse
          obtain ⟨hreread, hrest⟩ := parseElements_printElements cs hcs (by simp) hparse
          exact ⟨rfl, ⟨rfl, hreread⟩, .inl hrest⟩
    case object =>
      have htext : printValue depth (.mk .object v d n cs) ++ rest =
          '\x7b' :: (['\n'] ++ (printMembers (depth + 1) cs ++
            (List.replicate depth '\t' ++ '\x7d' :: rest))) := by simp [printValue]
      have hnewline : ∀ c ∈ ['\n'], c.toNat ≤ 32 := by simp
      rw [htext, parseValue_object] at h
      split at h
      · simp at h
      cases hcs : cs with
      | nil =>
        have hskip : skipWhitespace (['\n'] ++ (printMembers (depth + 1) [] ++
            (List.replicate depth '\t' ++ '\x7d' :: rest))) = '\x7d' :: rest := by
          rw [skipWhitespace_append hnewline, ← List.append_assoc]
          rw [skipWhitespace_append (white_tabs (by simp [printMembers]) depth)]
          exact skipWhitespace_cons (by decide) _
        rw [hcs, hskip] at h
        exact parsedBack_word .object ⟨rfl, rfl⟩ h
      | cons c cs₁ =>
        have hskip := skipWhitespace_printMembers (depth + 1) c cs₁ hnewline
          (List.replicate depth '\t' ++ '\x7d' :: rest)
        rw [hcs, hskip] at h
        split at h
        · rename_i heq
          simp [printStringPtr] at heq
        · simp only [Option.map_eq_some_iff, Prod.mk.injEq] at h
          obtain ⟨⟨cs', after⟩, hparse, rfl, rfl⟩ := h
          rw [← hskip, parseMembers_skipWhitespace, ← hcs] at hparse
          obtain ⟨hreread, hrest⟩ := parseMembers_printMembers cs (by simp [hcs]) hnewline
            (by simp) hparse
          rw [hcs] at hreread
          exact ⟨rfl, ⟨rfl, hreread⟩, .inl hrest⟩

/-- What is parsed from printed elements are the elements up to their numbers. -/
theorem parseElements_printElements : ∀ (cs : List CJson) {depth fuel limit : ℕ}
    {ws rest rest' : List Char} {cs' : List CJson}, cs ≠ [] → (∀ c ∈ ws, c.toNat ≤ 32) →
    parseElements fuel limit (ws ++ (printElements depth cs ++ ']' :: rest)) = some (cs', rest') →
    RereadElements cs cs' ∧ rest' = rest
  | [], _, _, _, _, _, _, _, hne, _, _ => absurd rfl hne
  | c :: cs, depth, 0, limit, ws, rest, rest', cs', _, _, h => by simp [parseElements] at h
  | c :: cs, depth, fuel + 1, limit, ws, rest, rest', cs', _, hws, h => by
    obtain ⟨x, tail, hhead, hx, -⟩ := printElements_head depth (List.cons_ne_nil c cs)
    obtain ⟨item, after, hvalue, hnext⟩ := parseElements_succ h
    rw [skipWhitespace_append hws, skipWhitespace_head hhead hx] at hvalue
    by_cases hcs : cs = []
    · subst hcs
      have hback := parseValue_printValue c (by simp [EndsNumber, isNumberChar]) hvalue
      rw [← List.nil_append (']' :: rest)] at hback
      rcases hnext with ⟨next, ds, hcomma, -⟩ | ⟨hclose, rfl⟩
      · have heq := hback.next_eq (by simp) (by decide) rfl hcomma
        exact absurd heq.1 (by decide)
      · have heq := hback.next_eq (by simp) (by decide) rfl hclose
        exact ⟨⟨item, [], rfl, hback.string, hback.reread, rfl⟩, heq.2.symm⟩
    · have htext : printElements depth (c :: cs) ++ ']' :: rest = printValue depth c ++
          ([] ++ ',' :: ([' '] ++ (printElements depth cs ++ ']' :: rest))) := by
        cases cs with
        | nil => exact absurd rfl hcs
        | cons _ _ => simp [printElements]
      rw [htext] at hvalue
      have hback := parseValue_printValue c (by simp [EndsNumber, isNumberChar]) hvalue
      rcases hnext with ⟨next, ds, hcomma, hparse, rfl⟩ | ⟨hclose, -⟩
      · have heq := hback.next_eq (by simp) (by decide) rfl hcomma
        rw [← heq.2] at hparse
        obtain ⟨hreread, hrest⟩ := parseElements_printElements cs hcs (by simp) hparse
        exact ⟨⟨item, ds, rfl, hback.string, hback.reread, hreread⟩, hrest⟩
      · have heq := hback.next_eq (by simp) (by decide) rfl hclose
        exact absurd heq.1 (by decide)

/-- What is parsed from printed members are the members up to their numbers. -/
theorem parseMembers_printMembers : ∀ (cs : List CJson) {depth fuel limit : ℕ}
    {ws ws' rest rest' : List Char} {cs' : List CJson}, cs ≠ [] → (∀ c ∈ ws, c.toNat ≤ 32) →
    (∀ c ∈ ws', c.toNat ≤ 32) →
    parseMembers fuel limit (ws ++ (printMembers depth cs ++ (ws' ++ '\x7d' :: rest))) =
      some (cs', rest') →
    RereadMembers cs cs' ∧ rest' = rest
  | [], _, _, _, _, _, _, _, _, hne, _, _, _ => absurd rfl hne
  | c :: cs, depth, 0, limit, ws, ws', rest, rest', cs', _, _, _, h => by simp [parseMembers] at h
  | c :: cs, depth, fuel + 1, limit, ws, ws', rest, rest', cs', _, hws, hws', h => by
    obtain ⟨name, afterName, value, item, after, hname, hcolon, hvalue, hnext⟩ :=
      parseMembers_succ h
    rw [skipWhitespace_printMembers depth c cs hws, parseString_printStringPtr,
      Option.some.injEq, Prod.mk.injEq] at hname
    obtain ⟨rfl, rfl⟩ := hname
    rw [skipWhitespace_cons (by decide), List.cons.injEq] at hcolon
    rw [← hcolon.2, ← List.singleton_append, skipWhitespace_append (by simp),
      skipWhitespace_printValue] at hvalue
    by_cases hcs : cs = []
    · have htail : (if cs = [] then [] else [',']) ++
          '\n' :: (printMembers depth cs ++ (ws' ++ '\x7d' :: rest)) =
          ('\n' :: ws') ++ '\x7d' :: rest := by simp [hcs, printMembers]
      have hwhite : ∀ c ∈ '\n' :: ws', c.toNat ≤ 32 :=
        List.forall_mem_cons.mpr ⟨by decide, hws'⟩
      rw [htail] at hvalue
      have hback := parseValue_printValue c (by simp [EndsNumber, isNumberChar]) hvalue
      rcases hnext with ⟨next, ds, hcomma, -⟩ | ⟨hclose, rfl⟩
      · have heq := hback.next_eq hwhite (by decide) rfl hcomma
        exact absurd heq.1 (by decide)
      · have heq := hback.next_eq hwhite (by decide) rfl hclose
        rw [hcs]
        exact ⟨⟨_, [], rfl, CJson.string_named _ _, reread_named hback.reread, rfl⟩, heq.2.symm⟩
    · have htail : (if cs = [] then [] else [',']) ++
          '\n' :: (printMembers depth cs ++ (ws' ++ '\x7d' :: rest)) =
          [] ++ ',' :: (['\n'] ++ (printMembers depth cs ++ (ws' ++ '\x7d' :: rest))) := by
        simp [hcs]
      rw [htail] at hvalue
      have hback := parseValue_printValue c (by simp [EndsNumber, isNumberChar]) hvalue
      rcases hnext with ⟨next, ds, hcomma, hparse, rfl⟩ | ⟨hclose, -⟩
      · have heq := hback.next_eq (by simp) (by decide) rfl hcomma
        rw [← heq.2] at hparse
        obtain ⟨hreread, hrest⟩ := parseMembers_printMembers cs hcs (by simp) hws' hparse
        exact ⟨⟨_, ds, rfl, CJson.string_named _ _, reread_named hback.reread, hreread⟩, hrest⟩
      · have heq := hback.next_eq (by simp) (by decide) rfl hclose
        exact absurd heq.1 (by decide)

end

/-- What `cJSON_Parse` makes of the text of an object. -/
theorem reread_of_parse_print {j j' : CJson} (htype : j.type = .object)
    (h : cJSONParse (cJSONPrint j) = some j') : Reread j j' := by
  have htext : ∃ tail, cJSONPrint j = '\x7b' :: tail := by
    rcases j with ⟨t, v, d, n, cs⟩
    cases htype
    exact ⟨_, rfl⟩
  obtain ⟨tail, htext⟩ := htext
  have hinput : skipWhitespace (skipUtf8Bom (cJSONPrint j)) = printValue 0 j ++ [] := by
    have hbom : skipUtf8Bom (cJSONPrint j) = cJSONPrint j := by rw [htext]; rfl
    rw [hbom, List.append_nil, ← cJSONPrint, htext]
    exact skipWhitespace_cons (by decide) _
  unfold cJSONParse at h
  rw [hinput, Option.map_eq_some_iff] at h
  obtain ⟨⟨item, rest⟩, hparse, rfl⟩ := h
  exact (parseValue_printValue j (by simp [EndsNumber]) hparse).reread

end ZohoIotSdk
