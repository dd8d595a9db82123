import ZohoIotSdk.CJson.Document
import ZohoIotSdk.CJson.RoundTrip

/-!
# Reading printed text

Every text that `cJSON_Print` writes is read back, and as the document of the tree
(`read_cJSONPrint`).
-/

namespace ZohoIotSdk

/-! ## Strings and numbers -/

/-- A printed string is read back. -/
theorem readString_printStringPtr (v : Option CString) (rest : List Char) :
    ∃ tail, printStringPtr v ++ rest = '"' :: tail ∧
      readString tail = some (v.getD [], rest) := by
  refine ⟨(v.getD []).flatMap escapeChar ++ '"' :: rest, by simp [printStringPtr], ?_⟩
  simp [readString, scanString_flatMap_escapeChar, unescape_flatMap_escapeChar]

/-- A decimal number is read to its end. -/
theorem Decimal.readNumber_text (n : Decimal) : readNumber n.text = some n.value := by
  simp [readNumber, n.strtod_text]

/-- A number is not a word, and begins with no bracket, brace or quote. -/
theorem readValue_number {fuel : ℕ} {c : Char} {tail : List Char} (hc : isNumberChar c = true) :
    readValue (fuel + 1) (c :: tail) =
      (readNumber ((c :: tail).takeWhile isNumberChar)).map fun d =>
        (.number d, (c :: tail).drop ((c :: tail).takeWhile isNumberChar).length) := by
  obtain ⟨-, hother⟩ := isNumberChar_printable hc
  simp only [List.mem_cons, List.not_mem_nil, or_false, not_or] at hother
  obtain ⟨hbracket, -, hbrace, -, -, hquote, hn, hf, ht⟩ := hother
  have hword : ∀ (x : Char) (word : List Char), c ≠ x →
      (x :: word).isPrefixOf (c :: tail) = false := by
    intro x word hne
    simp [List.isPrefixOf, Ne.symm hne]
  have hnull : "null".toList.isPrefixOf (c :: tail) = false := hword 'n' _ hn
  have hfalse : "false".toList.isPrefixOf (c :: tail) = false := hword 'f' _ hf
  have htrue : "true".toList.isPrefixOf (c :: tail) = false := hword 't' _ ht
  rw [readValue]
  simp only [hnull, hfalse, htrue, Bool.false_eq_true, if_false, if_neg hquote, if_neg hbracket,
    if_neg hbrace]

/-- A printed double is read back as a number, or as null. -/
theorem readValue_printNumber (fuel : ℕ) (d : Double) {rest : List Char} (hend : EndsNumber rest) :
    readValue (fuel + 1) (printNumber d ++ rest) = some (documentNumber d, rest) := by
  unfold documentNumber
  cases hfinite : d.isFinite with
  | false =>
    have hnone : readNumber "null".toList = none := by decide +kernel
    rw [printNumber_of_not_isFinite hfinite, hnone]
    rfl
  | true =>
    obtain ⟨n, hn⟩ := Decimal.exists_printNumber hfinite
    obtain ⟨hchars, hne⟩ := n.numberChars_text
    obtain ⟨c, tail, htext⟩ := List.exists_cons_of_ne_nil hne
    have hc : isNumberChar c = true := hchars c (by rw [htext]; exact List.mem_cons_self)
    have htake := takeWhile_append_of_head hchars hend
    rw [hn, n.readNumber_text]
    rw [htext, List.cons_append] at htake ⊢
    rw [readValue_number hc, htake, ← htext, n.readNumber_text, ← List.cons_append, ← htext]
    simp

/-! ## Values -/

/-- A bracket opens an array, empty or not. -/
theorem readValue_array (fuel : ℕ) (rest : List Char) : readValue (fuel + 1) ('[' :: rest) =
    match skipWhitespace rest with
    | ']' :: after => some (.array [], after)
    | first => (readElements fuel first).map fun x => (.array x.1, x.2) := rfl

/-- A brace opens an object, empty or not. -/
theorem readValue_object (fuel : ℕ) (rest : List Char) : readValue (fuel + 1) ('\x7b' :: rest) =
    match skipWhitespace rest with
    | '\x7d' :: after => some (.object [], after)
    | first => (readMembers fuel first).map fun x => (.object x.1, x.2) := rfl

/-- One value of several, when what follows it is known. -/
theorem readElements_succ {fuel : ℕ} {input text rest : List Char} {value : Json}
    (hinput : skipWhitespace input = text)
    (hvalue : readValue fuel text = some (value, rest)) :
    readElements (fuel + 1) input =
      match skipWhitespace rest with
      | ',' :: next => (readElements fuel next).map fun x => (value :: x.1, x.2)
      | ']' :: after => some ([value], after)
      | _ => none := by
  rw [readElements, hinput, hvalue]
  rfl

/-- One member of several. -/
theorem readMembers_succ {fuel : ℕ} {input tail afterName text rest : List Char} {name : CString}
    {value : Json} (hinput : skipWhitespace input = '"' :: tail)
    (hname : readString tail = some (name, afterName))
    (hcolon : skipWhitespace afterName = ':' :: text)
    (hvalue : readValue fuel (skipWhitespace text) = some (value, rest)) :
    readMembers (fuel + 1) input =
      match skipWhitespace rest with
      | ',' :: next => (readMembers fuel next).map fun x => ((name, value) :: x.1, x.2)
      | '\x7d' :: after => some ([(name, value)], after)
      | _ => none := by
  rw [readMembers, hinput]
  simp only [hname, Option.bind_some, hcolon, hvalue]
  all_goals rfl

/-- Members begin after white space. -/
theorem readMembers_skipWhitespace (fuel : ℕ) (input : List Char) :
    readMembers fuel (skipWhitespace input) = readMembers fuel input := by
  have hskip : skipWhitespace (skipWhitespace input) = skipWhitespace input :=
    List.dropWhile_idempotent _ _
  cases fuel with
  | zero => rfl
  | succ fuel => rw [readMembers, readMembers, hskip]

/-- A number ends at every character that cannot continue it. -/
theorem endsNumber_cons {c : Char} (hc : isNumberChar c = false) (rest : List Char) :
    EndsNumber (c :: rest) := by
  simpa [EndsNumber] using hc

/-- A printed array is read back when its elements are. -/
theorem readValue_printArray {depth fuel : ℕ} {cs : List CJson} {rest : List Char}
    (hread : cs ≠ [] → readElements fuel (printElements depth cs ++ ']' :: rest) =
      some (documentElements cs, rest)) :
    readValue (fuel + 1) ('[' :: (printElements depth cs ++ ']' :: rest)) =
      some (.array (documentElements cs), rest) := by
  rw [readValue_array]
  by_cases hcs : cs = []
  · subst hcs
    rfl
  · obtain ⟨c, tail, hhead, hc, hne⟩ := printElements_head depth hcs
    rw [skipWhitespace_head hhead hc]
    split
    · rename_i heq
      rw [hhead, List.cons_append, List.cons.injEq] at heq
      exact absurd heq.1 hne
    · rw [hread hcs]
      rfl

/-- A printed object is read back when its members are. -/
theorem readValue_printObject {depth fuel : ℕ} {cs : List CJson} {rest : List Char}
    (hread : cs ≠ [] → readMembers fuel (['\n'] ++ (printMembers (depth + 1) cs ++
      (List.replicate depth '\t' ++ '\x7d' :: rest))) = some (documentMembers cs, rest)) :
    readValue (fuel + 1) ('\x7b' :: (['\n'] ++ (printMembers (depth + 1) cs ++
        (List.replicate depth '\t' ++ '\x7d' :: rest)))) =
      some (.object (documentMembers cs), rest) := by
  have hnewline : ∀ c ∈ ['\n'], c.toNat ≤ 32 := by simp
  rw [readValue_object]
  cases cs with
  | nil =>
    have htabs : ∀ c ∈ [] ++ List.replicate depth '\t', c.toNat ≤ 32 := white_tabs (by simp) depth
    rw [List.nil_append] at htabs
    have hskip : skipWhitespace (['\n'] ++ (printMembers (depth + 1) [] ++
        (List.replicate depth '\t' ++ '\x7d' :: rest))) = '\x7d' :: rest := by
      rw [skipWhitespace_append hnewline, printMembers, List.nil_append,
        skipWhitespace_append htabs]
      exact skipWhitespace_cons (by decide) _
    rw [hskip]
    rfl
  | cons c cs =>
    have hmembers := hread (List.cons_ne_nil c cs)
    have hskip := skipWhitespace_printMembers (depth + 1) c cs hnewline
      (List.replicate depth '\t' ++ '\x7d' :: rest)
    rw [← readMembers_skipWhitespace, hskip] at hmembers
    rw [hskip]
    split
    · rename_i heq
      simp [printStringPtr] at heq
    · rw [hmembers]
      rfl

mutual

/-- A printed value is read back as its document. -/
theorem readValue_printValue : ∀ (j : CJson) {depth fuel : ℕ} {rest : List Char},
    (printValue depth j).length < fuel → EndsNumber rest →
    readValue fuel (printValue depth j ++ rest) = some (document j, rest)
  | .mk _ _ _ _ _, _, 0, _, hfuel, _ => absurd hfuel (Nat.not_lt_zero _)
  | .mk t v d n cs, depth, fuel + 1, rest, hfuel, hend => by
    cases t
    case null => rfl
    case false => rfl
    case true => rfl
    case number => exact readValue_printNumber fuel d hend
    case string =>
      obtain ⟨tail, htail, hread⟩ := readString_printStringPtr v rest
      have hstring : readValue (fuel + 1) ('"' :: tail) =
          (readString tail).map fun x => (.string x.1, x.2) := rfl
      rw [printValue, htail, hstring, hread]
      rfl
    case array =>
      have htext : printValue depth (.mk .array v d n cs) ++ rest =
          '[' :: (printElements (depth + 1) cs ++ ']' :: rest) := by simp [printValue]
      rw [htext, document]
      refine readValue_printArray fun hcs => ?_
      have hlength : (printElements (depth + 1) cs).length + 1 < fuel := by
        simp [printValue] at hfuel
        omega
      have hnil : ∀ c ∈ ([] : List Char), c.toNat ≤ 32 := by simp
      exact readElements_printElements cs hcs hnil hlength
    case object =>
      have htext : printValue depth (.mk .object v d n cs) ++ rest =
          '\x7b' :: (['\n'] ++ (printMembers (depth + 1) cs ++
            (List.replicate depth '\t' ++ '\x7d' :: rest))) := by simp [printValue]
      rw [htext, document]
      refine readValue_printObject fun hcs => ?_
      have hlength : (printMembers (depth + 1) cs).length + 1 < fuel := by
        simp [printValue] at hfuel
        omega
      have hnewline : ∀ c ∈ ['\n'], c.toNat ≤ 32 := by simp
      have htabs : ∀ c ∈ [] ++ List.replicate depth '\t', c.toNat ≤ 32 :=
        white_tabs (by simp) depth
      exact readMembers_printMembers cs hcs hnewline htabs hlength

/-- The reader reads back printed elements, whatever white space stands between. -/
theorem readElements_printElements : ∀ (cs : List CJson) {depth fuel : ℕ} {ws rest : List Char},
    cs ≠ [] → (∀ c ∈ ws, c.toNat ≤ 32) → (printElements depth cs).length + 1 < fuel →
    readElements fuel (ws ++ (printElements depth cs ++ ']' :: rest)) =
      some (documentElements cs, rest)
  | [], _, _, _, _, hne, _, _ => absurd rfl hne
  | _ :: _, _, 0, _, _, _, _, hfuel => absurd hfuel (Nat.not_lt_zero _)
  | c :: cs, depth, fuel + 1, ws, rest, _, hws, hfuel => by
    obtain ⟨x, tail, hhead, hx, -⟩ := printElements_head depth (List.cons_ne_nil c cs)
    have hskip : skipWhitespace (ws ++ (printElements depth (c :: cs) ++ ']' :: rest)) =
        printElements depth (c :: cs) ++ ']' :: rest := by
      rw [skipWhitespace_append hws, skipWhitespace_head hhead hx]
    by_cases hcs : cs = []
    · subst hcs
      have hlength : (printValue depth c).length < fuel := by
        simp only [printElements] at hfuel
        omega
      have hvalue := readValue_printValue c hlength (endsNumber_cons (c := ']') rfl rest)
      rw [readElements_succ hskip hvalue, skipWhitespace_cons (by decide)]
      rfl
    · have htext : ∀ after, printElements depth (c :: cs) ++ after =
          printValue depth c ++ (',' :: ([' '] ++ (printElements depth cs ++ after))) := by
        intro after
        cases cs with
        | nil => exact absurd rfl hcs
        | cons _ _ => simp [printElements]
      have hlength := congrArg List.length (htext [])
      simp only [List.length_append, List.length_cons, List.length_nil] at hlength
      have hvalue : readValue fuel (printValue depth c ++
          ',' :: ([' '] ++ (printElements depth cs ++ ']' :: rest))) = some (document c, _) :=
        readValue_printValue c (by omega) (endsNumber_cons rfl _)
      have hrest : readElements fuel ([' '] ++ (printElements depth cs ++ ']' :: rest)) =
          some (documentElements cs, rest) :=
        readElements_printElements cs hcs (by simp) (by omega)
      rw [htext] at hskip ⊢
      rw [readElements_succ hskip hvalue, skipWhitespace_cons (by decide)]
      simp only [hrest, Option.map_some, documentElements]

/-- The reader reads back printed members, whatever white space stands between. -/
theorem readMembers_printMembers : ∀ (cs : List CJson) {depth fuel : ℕ}
    {ws ws' rest : List Char}, cs ≠ [] → (∀ c ∈ ws, c.toNat ≤ 32) → (∀ c ∈ ws', c.toNat ≤ 32) →
    (printMembers depth cs).length + 1 < fuel →
    readMembers fuel (ws ++ (printMembers depth cs ++ (ws' ++ '\x7d' :: rest))) =
      some (documentMembers cs, rest)
  | [], _, _, _, _, _, hne, _, _, _ => absurd rfl hne
  | _ :: _, _, 0, _, _, _, _, _, _, hfuel => absurd hfuel (Nat.not_lt_zero _)
  | c :: cs, depth, fuel + 1, ws, ws', rest, _, hws, hws', hfuel => by
    have hskip := skipWhitespace_printMembers depth c cs hws (ws' ++ '\x7d' :: rest)
    obtain ⟨tail, hquote, hname⟩ := readString_printStringPtr c.string (':' :: '\t' ::
      (printValue depth c ++ ((if cs = [] then [] else [',']) ++
        '\n' :: (printMembers depth cs ++ (ws' ++ '\x7d' :: rest)))))
    have hcolon := skipWhitespace_cons (c := ':') (by decide) ('\t' ::
      (printValue depth c ++ ((if cs = [] then [] else [',']) ++
        '\n' :: (printMembers depth cs ++ (ws' ++ '\x7d' :: rest)))))
    have hlength := congrArg List.length (printMembers_cons depth c cs [] [])
    simp only [List.length_append, List.length_cons, List.length_nil] at hlength
    have hvalue : readValue fuel (printValue depth c ++ ((if cs = [] then [] else [',']) ++
        '\n' :: (printMembers depth cs ++ (ws' ++ '\x7d' :: rest)))) = some (document c, _) :=
      readValue_printValue c (by omega) (by split <;> exact endsNumber_cons rfl _)
    rw [hquote] at hskip
    have htab : ∀ text, skipWhitespace ('\t' :: (printValue depth c ++ text)) =
        printValue depth c ++ text := by
      intro text
      rw [← List.singleton_append, skipWhitespace_append (by simp), skipWhitespace_printValue]
    rw [readMembers_succ hskip hname hcolon (by rw [htab]; exact hvalue)]
    by_cases hcs : cs = []
    · have htail : (if cs = [] then [] else [',']) ++
          '\n' :: (printMembers depth cs ++ (ws' ++ '\x7d' :: rest)) =
          ('\n' :: ws') ++ '\x7d' :: rest := by simp [hcs, printMembers]
      have hwhite : ∀ c ∈ '\n' :: ws', c.toNat ≤ 32 :=
        List.forall_mem_cons.mpr ⟨by decide, hws'⟩
      rw [htail, skipWhitespace_append hwhite, skipWhitespace_cons (by decide)]
      simp [hcs, documentMembers]
    · have htail : (if cs = [] then [] else [',']) ++
          '\n' :: (printMembers depth cs ++ (ws' ++ '\x7d' :: rest)) =
          ',' :: (['\n'] ++ (printMembers depth cs ++ (ws' ++ '\x7d' :: rest))) := by
        simp [hcs]
      have hrest : readMembers fuel (['\n'] ++ (printMembers depth cs ++
          (ws' ++ '\x7d' :: rest))) = some (documentMembers cs, rest) :=
        readMembers_printMembers cs hcs (by simp) hws' (by omega)
      rw [htail, skipWhitespace_cons (by decide)]
      simp only [hrest, Option.map_some, documentMembers]

end

/-- What is read from the text of a tree is its document. -/
theorem read_cJSONPrint (j : CJson) : Json.read (cJSONPrint j) = some (document j) := by
  have hvalue : readValue ((cJSONPrint j).length + 1) (printValue 0 j ++ []) =
      some (document j, []) := readValue_printValue j (Nat.lt_succ_self _) (by simp [EndsNumber])
  have hskip := skipWhitespace_printValue 0 j []
  rw [List.append_nil] at hvalue hskip
  rw [Json.read, cJSONPrint, hskip, ← cJSONPrint]
  rw [← cJSONPrint] at hvalue
  rw [hvalue]
  rfl

end ZohoIotSdk
