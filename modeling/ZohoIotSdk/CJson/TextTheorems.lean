import ZohoIotSdk.CJson.Text

/-!
# Facts about JSON text

* A value printed deeper in a document is not shorter, so an object that holds a value has
  a longer text than the value.
* The parser makes items whose `valuestring` is set exactly when they are strings, and it
  consumes text (`parse_spec`).
* The fuel of the parser is enough: more of it changes nothing (`parseValue_fuel`).
-/

namespace ZohoIotSdk

/-! ## Lengths of printed values -/

/-- The name of an item is not part of its text. -/
@[simp] theorem printValue_named (depth : ℕ) (name : CString) (j : CJson) :
    printValue depth (j.named name) = printValue depth j := by
  rcases j with ⟨t, v, d, n, cs⟩
  cases t <;> simp only [CJson.named, printValue]

mutual

/-- A value printed deeper in a document has more tabs. -/
theorem length_printValue_mono {depth depth' : ℕ} (h : depth ≤ depth') :
    ∀ j : CJson, (printValue depth j).length ≤ (printValue depth' j).length
  | .mk t v d n cs => by
    have hdeeper : depth + 1 ≤ depth' + 1 := by omega
    have helements := length_printElements_mono hdeeper cs
    have hmembers := length_printMembers_mono hdeeper cs
    cases t
    case array =>
      simp only [printValue, List.length_cons, List.length_append, List.length_nil]
      omega
    case object =>
      simp only [printValue, List.length_cons, List.length_append, List.length_nil,
        List.length_replicate]
      omega
    all_goals simp only [printValue, le_refl]

/-- Elements printed deeper are no shorter. -/
theorem length_printElements_mono {depth depth' : ℕ} (h : depth ≤ depth') :
    ∀ cs : List CJson, (printElements depth cs).length ≤ (printElements depth' cs).length
  | [] => le_refl _
  | [c] => by
    have hvalue := length_printValue_mono h c
    simpa only [printElements] using hvalue
  | c :: c' :: cs => by
    have hvalue := length_printValue_mono h c
    have hrest := length_printElements_mono h (c' :: cs)
    simp only [printElements, List.length_append]
    omega

/-- Members printed deeper are no shorter. -/
theorem length_printMembers_mono {depth depth' : ℕ} (h : depth ≤ depth') :
    ∀ cs : List CJson, (printMembers depth cs).length ≤ (printMembers depth' cs).length
  | [] => le_refl _
  | c :: cs => by
    have hvalue := length_printValue_mono h c
    have hrest := length_printMembers_mono h cs
    simp only [printMembers, List.length_append, List.length_replicate]
    omega

end

/-- An object with one member has a longer text than the member. -/
theorem length_cJSONPrint_lt_wrapped (name : CString) (j : CJson) :
    (cJSONPrint j).length <
      (cJSONPrint (cJSONAddItemToObject cJSONCreateObject (some name) (some j))).length := by
  have hdeeper : (printValue 0 j).length ≤ (printValue (0 + 1) j).length :=
    length_printValue_mono (by omega) j
  show (printValue 0 j).length < (printValue 0 (.mk .object none ⟨0⟩ none [j.named name])).length
  simp only [printValue, printMembers, printValue_named, List.length_append, List.length_cons]
  omega

/-! ## What the parser returns -/

/-- An item, with everything below it, has a `valuestring` exactly when it is a string. -/
inductive CJson.WellTyped : CJson → Prop
  | mk {t : CJsonType} {v : Option CString} {d : Double} {n : Option CString} {cs : List CJson}
      (value : v.isSome ↔ t = .string) (children : ∀ c ∈ cs, c.WellTyped) :
      WellTyped (.mk t v d n cs)

/-- A well typed item has a text exactly when it is a string. -/
theorem CJson.WellTyped.valuestring_isSome {j : CJson} (h : j.WellTyped) :
    j.valuestring.isSome ↔ j.type = .string := by
  cases h with
  | mk value children => exact value

/-- The children of a well typed item are well typed. -/
theorem CJson.WellTyped.of_mem_child {j c : CJson} (h : j.WellTyped) (hc : c ∈ j.child) :
    c.WellTyped := by
  cases h with
  | mk value children => exact children c hc

theorem CJson.WellTyped.named {j : CJson} (h : j.WellTyped) (name : CString) :
    (j.named name).WellTyped := by
  cases h with
  | mk value children => exact .mk value children

/-- An item without a `valuestring` that is not a string. -/
theorem CJson.wellTyped_of_children {t : CJsonType} (ht : t ≠ .string) {d : Double}
    {n : Option CString} {cs : List CJson} (h : ∀ c ∈ cs, c.WellTyped) :
    (CJson.mk t none d n cs).WellTyped :=
  .mk (by simp [ht]) h

/-- Skipping white space consumes characters only. -/
theorem length_skipWhitespace_le (input : List Char) :
    (skipWhitespace input).length ≤ input.length :=
  (List.dropWhile_suffix _).length_le

/-- Scanning a string consumes at least its closing quote. -/
theorem scanString_length {input bytes rest : List Char}
    (h : scanString input = some (bytes, rest)) : rest.length < input.length := by
  induction input using scanString.induct generalizing bytes rest with
  | case1 => simp [scanString] at h
  | case2 rest' =>
    simp only [scanString, Option.some.injEq, Prod.mk.injEq] at h
    rw [← h.2]
    exact Nat.lt_succ_self _
  | case3 c rest' ih =>
    -- an escaped character: two bytes are consumed
    simp only [scanString, Option.map_eq_some_iff] at h
    rcases h with ⟨⟨bytes', after⟩, hscan, heq⟩
    have hlt := ih hscan
    simp only [Prod.mk.injEq] at heq
    rw [← heq.2]
    simp only [List.length_cons]
    omega
  | case4 c rest' hquote hescape ih =>
    rw [scanString] at h
    · simp only [Option.map_eq_some_iff] at h
      rcases h with ⟨⟨bytes', after⟩, hscan, heq⟩
      have hlt := ih hscan
      simp only [Prod.mk.injEq] at heq
      rw [← heq.2]
      simp only [List.length_cons]
      omega
    · exact hquote
    · exact hescape

/-- A parsed string consumes at least one character. -/
theorem parseString_length {input rest : List Char} {text : CString}
    (h : parseString input = some (text, rest)) : rest.length < input.length := by
  unfold parseString at h
  split at h
  · split at h
    · rename_i hscan
      have hlt := scanString_length hscan
      simp only [Option.map_eq_some_iff, Prod.mk.injEq] at h
      rcases h with ⟨-, -, -, rfl⟩
      simp only [List.length_cons]
      omega
    · simp at h
  · simp at h

/-- A number takes at least one character. -/
theorem strtod_pos {text : List Char} {d : Double} {len : ℕ} (h : strtod text = some (d, len)) :
    0 < len := by
  unfold strtod at h
  simp only [Option.ite_none_left_eq_some, Option.some.injEq, Prod.mk.injEq] at h
  rcases h with ⟨hdigits, -, rfl⟩
  generalize decide (List.head? _ = some '.') = point at hdigits ⊢
  rw [not_and_or] at hdigits
  -- digits before the point, or a point with digits after it
  rcases hdigits with hwhole | hfrac
  · have hpos := List.length_pos_iff.mpr hwhole
    omega
  · cases point with
    | false => exact absurd rfl hfrac
    | true =>
      simp only [if_true]
      omega

/-- A parsed number consumes at least one character. -/
theorem parseNumber_length {input rest : List Char} {d : Double} (hne : input ≠ [])
    (h : parseNumber input = some (d, rest)) : rest.length < input.length := by
  unfold parseNumber at h
  simp only [Option.map_eq_some_iff, Prod.mk.injEq] at h
  rcases h with ⟨⟨d', len⟩, hnum, -, rfl⟩
  have hpos := strtod_pos hnum
  have hlen := List.length_pos_iff.mpr hne
  rw [List.length_drop]
  omega

theorem length_drop_lt_of_isPrefixOf {word input : List Char} (hword : word ≠ [])
    (h : word.isPrefixOf input = true) : (input.drop word.length).length < input.length := by
  have hlen := (List.isPrefixOf_iff_prefix.mp h).length_le
  have hpos := List.length_pos_iff.mpr hword
  rw [List.length_drop]
  omega

/-- What is wanted of a parser of one value: a well-typed item, and some text consumed. -/
def ParsesValue (parse : ℕ → List Char → Option (CJson × List Char)) : Prop :=
  ∀ depth input j rest, parse depth input = some (j, rest) →
    j.WellTyped ∧ rest.length < input.length

/-- The same for the elements of an array or the members of an object. -/
def ParsesItems (parse : ℕ → List Char → Option (List CJson × List Char)) : Prop :=
  ∀ depth input cs rest, parse depth input = some (cs, rest) →
    (∀ c ∈ cs, c.WellTyped) ∧ rest.length < input.length

/-- One of the words. -/
theorem parses_word {type : CJsonType} {word input rest : List Char} {j : CJson} {n : ℕ}
    (hstart : word.isPrefixOf input = true) (hword : word ≠ []) (hlength : word.length = n)
    (htype : type ≠ .string) (h : some (cJSONNewItem type, input.drop n) = some (j, rest)) :
    j.WellTyped ∧ rest.length < input.length := by
  simp only [Option.some.injEq, Prod.mk.injEq] at h
  rcases h with ⟨rfl, rfl⟩
  rw [← hlength]
  exact ⟨CJson.wellTyped_of_children htype (by simp), length_drop_lt_of_isPrefixOf hword hstart⟩

/-- A bracket with its closing one right behind it. -/
theorem parses_empty {container j : CJson} {opening closing : Char} {tail after rest : List Char}
    (htyped : container.WellTyped) (hempty : skipWhitespace tail = closing :: after)
    (h : some (container, after) = some (j, rest)) :
    j.WellTyped ∧ rest.length < (opening :: tail).length := by
  have hskip := length_skipWhitespace_le tail
  simp only [Option.some.injEq, Prod.mk.injEq] at h
  rcases h with ⟨rfl, rfl⟩
  rw [hempty, List.length_cons] at hskip
  refine ⟨htyped, ?_⟩
  rw [List.length_cons]
  omega

/-- A bracket with items behind it. -/
theorem parses_items {parse : ℕ → List Char → Option (List CJson × List Char)}
    (hitems : ParsesItems parse) {container j : CJson} {opening : Char} {depth : ℕ}
    {tail rest : List Char} (htyped : ∀ cs, (∀ c ∈ cs, c.WellTyped) →
      (container.withChild cs).WellTyped)
    (h : ((parse depth (skipWhitespace tail)).map fun (cs, after) =>
      (container.withChild cs, after)) = some (j, rest)) :
    j.WellTyped ∧ rest.length < (opening :: tail).length := by
  have hskip := length_skipWhitespace_le tail
  simp only [Option.map_eq_some_iff, Prod.mk.injEq] at h
  rcases h with ⟨⟨cs, after⟩, hparse, rfl, rfl⟩
  obtain ⟨hchildren, hlt⟩ := hitems _ _ _ _ hparse
  refine ⟨htyped cs hchildren, ?_⟩
  show after.length < tail.length + 1
  omega

/-- With one more unit of fuel, values consume input when elements and members do. -/
theorem parsesValue_succ {fuel : ℕ} (helements : ParsesItems (parseElements fuel))
    (hmembers : ParsesItems (parseMembers fuel)) : ParsesValue (parseValue (fuel + 1)) := by
  intro depth input j rest h
  unfold parseValue at h
  -- null, false and true
  split at h
  · rename_i hword
    exact parses_word hword (by decide) rfl (by simp) h
  split at h
  · rename_i hword
    exact parses_word hword (by decide) rfl (by simp) h
  split at h
  · rename_i hword
    exact parses_word hword (by decide) rfl (by simp) h
  split at h
  · simp at h
  rename_i c tail _ _ _
  split at h
  · -- a string
    simp only [Option.map_eq_some_iff, Prod.mk.injEq] at h
    rcases h with ⟨⟨text, after⟩, hstring, rfl, rfl⟩
    exact ⟨.mk (by simp) (by simp), parseString_length hstring⟩
  split at h
  · -- a number
    simp only [Option.map_eq_some_iff, Prod.mk.injEq] at h
    rcases h with ⟨⟨d, after⟩, hnumber, rfl, rfl⟩
    exact ⟨CJson.wellTyped_of_children (by simp) (by simp),
      parseNumber_length (by simp) hnumber⟩
  split at h
  · -- an array
    have hitems (cs : List CJson) (hcs : ∀ c ∈ cs, c.WellTyped) :
        (cJSONCreateArray.withChild cs).WellTyped :=
      CJson.wellTyped_of_children (by simp) hcs
    split at h
    · simp at h
    split at h
    · rename_i after hempty
      exact parses_empty (hitems [] (by simp)) hempty h
    · exact parses_items helements hitems h
  split at h
  · -- an object
    have hitems (cs : List CJson) (hcs : ∀ c ∈ cs, c.WellTyped) :
        (cJSONCreateObject.withChild cs).WellTyped :=
      CJson.wellTyped_of_children (by simp) hcs
    split at h
    · simp at h
    split at h
    · rename_i after hempty
      exact parses_empty (hitems [] (by simp)) hempty h
    · exact parses_items hmembers hitems h
  · simp at h

/-- With one more unit of fuel, elements consume input when values and elements do. -/
theorem parsesElements_succ {fuel : ℕ} (hvalue : ParsesValue (parseValue fuel))
    (helements : ParsesItems (parseElements fuel)) : ParsesItems (parseElements (fuel + 1)) := by
  intro depth input cs rest h
  rw [parseElements] at h
  split at h
  · simp at h
  rename_i item afterItem hparse
  obtain ⟨htyped, hlt⟩ := hvalue _ _ _ _ hparse
  have hskip := length_skipWhitespace_le input
  have hskip' := length_skipWhitespace_le afterItem
  -- a comma and more elements, or the closing bracket
  split at h
  · rename_i next hnext
    simp only [Option.map_eq_some_iff, Prod.mk.injEq] at h
    rcases h with ⟨⟨cs', after⟩, hrest, rfl, rfl⟩
    obtain ⟨htyped', hlt'⟩ := helements _ _ _ _ hrest
    rw [hnext, List.length_cons] at hskip'
    refine ⟨List.forall_mem_cons.mpr ⟨htyped, htyped'⟩, ?_⟩
    show after.length < input.length
    omega
  · rename_i after hnext
    simp only [Option.some.injEq, Prod.mk.injEq] at h
    rcases h with ⟨rfl, rfl⟩
    rw [hnext, List.length_cons] at hskip'
    exact ⟨List.forall_mem_singleton.mpr htyped, by omega⟩
  · simp at h

/-- With one more unit of fuel, members consume input when values and members do. -/
theorem parsesMembers_succ {fuel : ℕ} (hvalue : ParsesValue (parseValue fuel))
    (hmembers : ParsesItems (parseMembers fuel)) : ParsesItems (parseMembers (fuel + 1)) := by
  intro depth input cs rest h
  rw [parseMembers] at h
  split at h
  · simp at h
  rename_i name afterName hname
  have hltName := parseString_length hname
  have hskip := length_skipWhitespace_le input
  have hskipName := length_skipWhitespace_le afterName
  split at h
  · rename_i value hcolon
    rw [hcolon, List.length_cons] at hskipName
    have hskipValue := length_skipWhitespace_le value
    split at h
    · simp at h
    rename_i item afterItem hparse
    obtain ⟨htyped, hlt⟩ := hvalue _ _ _ _ hparse
    have hskipItem := length_skipWhitespace_le afterItem
    -- a comma and more members, or the closing bracket
    split at h
    · rename_i next hnext
      simp only [Option.map_eq_some_iff, Prod.mk.injEq] at h
      rcases h with ⟨⟨cs', after⟩, hrest, rfl, rfl⟩
      obtain ⟨htyped', hlt'⟩ := hmembers _ _ _ _ hrest
      rw [hnext, List.length_cons] at hskipItem
      refine ⟨List.forall_mem_cons.mpr ⟨htyped.named name, htyped'⟩, ?_⟩
      show after.length < input.length
      omega
    · rename_i after hnext
      simp only [Option.some.injEq, Prod.mk.injEq] at h
      rcases h with ⟨rfl, rfl⟩
      rw [hnext, List.length_cons] at hskipItem
      exact ⟨List.forall_mem_singleton.mpr (htyped.named name), by omega⟩
    · simp at h
  · simp at h

/-- Whatever the fuel, what the parser returns is well typed, and it has consumed text. -/
theorem parse_spec (fuel : ℕ) : ParsesValue (parseValue fuel) ∧
    ParsesItems (parseElements fuel) ∧ ParsesItems (parseMembers fuel) := by
  -- the three parsers call each other with one unit of fuel less, so all three go together
  induction fuel with
  | zero =>
    refine ⟨?_, ?_, ?_⟩
    · intro depth input j rest h
      simp [parseValue] at h
    · intro depth input cs rest h
      simp [parseElements] at h
    · intro depth input cs rest h
      simp [parseMembers] at h
  | succ fuel ih =>
    rcases ih with ⟨hvalue, helements, hmembers⟩
    exact ⟨parsesValue_succ helements hmembers, parsesElements_succ hvalue helements,
      parsesMembers_succ hvalue hmembers⟩

/-- Every parsed tree is well typed. -/
theorem cJSONParse_wellTyped {value : CString} {j : CJson} (h : cJSONParse value = some j) :
    j.WellTyped := by
  unfold cJSONParse at h
  simp only [Option.map_eq_some_iff] at h
  rcases h with ⟨⟨j', rest⟩, hparse, rfl⟩
  exact ((parse_spec _).1 _ _ _ _ hparse).1

/-! ## The fuel is enough -/

/-- One more unit of fuel changes nothing for a text of that length: a value needs
`2 * length + 1` units, a loop one more. -/
def EnoughFuel (fuel : ℕ) : Prop :=
  (∀ depth input, 2 * input.length + 1 ≤ fuel →
    parseValue (fuel + 1) depth input = parseValue fuel depth input) ∧
  (∀ depth input, 2 * input.length + 2 ≤ fuel →
    parseElements (fuel + 1) depth input = parseElements fuel depth input) ∧
  (∀ depth input, 2 * input.length + 2 ≤ fuel →
    parseMembers (fuel + 1) depth input = parseMembers fuel depth input)

/-- Once the fuel covers the input twice, more of it changes no value. -/
theorem parseValue_enough {fuel : ℕ} (ih : EnoughFuel fuel) (depth : ℕ) (input : List Char)
    (h : 2 * input.length + 1 ≤ fuel + 1) :
    parseValue (fuel + 2) depth input = parseValue (fuel + 1) depth input := by
  cases input with
  | nil =>
    unfold parseValue
    rfl
  | cons c tail =>
    have hskip := length_skipWhitespace_le tail
    rw [List.length_cons] at h
    -- the loops start after the bracket
    have helements : ∀ depth, parseElements (fuel + 1) depth (skipWhitespace tail) =
        parseElements fuel depth (skipWhitespace tail) :=
      fun depth => ih.2.1 depth _ (by omega)
    have hmembers : ∀ depth, parseMembers (fuel + 1) depth (skipWhitespace tail) =
        parseMembers fuel depth (skipWhitespace tail) :=
      fun depth => ih.2.2 depth _ (by omega)
    unfold parseValue
    -- both sides take the same branch
    split
    · rfl
    split
    · rfl
    split
    · rfl
    simp only []
    split
    · rfl
    split
    · rfl
    split
    · split
      · rfl
      · split
        · rfl
        · rw [helements]
    split
    · split
      · rfl
      · split
        · rfl
        · rw [hmembers]
    · rfl

/-- Once the fuel covers the input twice, more of it changes no elements. -/
theorem parseElements_enough {fuel : ℕ} (ih : EnoughFuel fuel) (depth : ℕ) (input : List Char)
    (h : 2 * input.length + 2 ≤ fuel + 1) :
    parseElements (fuel + 2) depth input = parseElements (fuel + 1) depth input := by
  have hskip := length_skipWhitespace_le input
  rw [parseElements, parseElements, ih.1 depth _ (by omega)]
  cases hparse : parseValue fuel depth (skipWhitespace input) with
  | none => rfl
  | some result =>
    rcases result with ⟨item, rest⟩
    have hlt := ((parse_spec fuel).1 _ _ _ _ hparse).2
    have hskipRest := length_skipWhitespace_le rest
    simp only []
    split
    · rename_i next hnext
      rw [hnext, List.length_cons] at hskipRest
      -- the element and the comma pay for the two units
      rw [ih.2.1 depth next (by omega)]
    · rfl
    · rfl

/-- Once the fuel covers the input twice, more of it changes no members. -/
theorem parseMembers_enough {fuel : ℕ} (ih : EnoughFuel fuel) (depth : ℕ) (input : List Char)
    (h : 2 * input.length + 2 ≤ fuel + 1) :
    parseMembers (fuel + 2) depth input = parseMembers (fuel + 1) depth input := by
  have hskip := length_skipWhitespace_le input
  rw [parseMembers, parseMembers]
  cases hname : parseString (skipWhitespace input) with
  | none => rfl
  | some result =>
    rcases result with ⟨name, afterName⟩
    have hltName := parseString_length hname
    have hskipName := length_skipWhitespace_le afterName
    simp only []
    split
    · rename_i value hcolon
      rw [hcolon, List.length_cons] at hskipName
      have hskipValue := length_skipWhitespace_le value
      -- the name and the colon come before the value
      rw [ih.1 depth _ (by omega)]
      cases hparse : parseValue fuel depth (skipWhitespace value) with
      | none => rfl
      | some result =>
        rcases result with ⟨item, rest⟩
        have hlt := ((parse_spec fuel).1 _ _ _ _ hparse).2
        have hskipRest := length_skipWhitespace_le rest
        simp only []
        split
        · rename_i next hnext
          rw [hnext, List.length_cons] at hskipRest
          rw [ih.2.2 depth next (by omega)]
        · rfl
        · rfl
    · rfl

/-- Fuel of twice the input is enough, by induction on the fuel. -/
theorem enoughFuel (fuel : ℕ) : EnoughFuel fuel := by
  induction fuel with
  | zero =>
    refine ⟨?_, ?_, ?_⟩
    · intro depth input h
      omega
    · intro depth input h
      omega
    · intro depth input h
      omega
  | succ fuel ih =>
    exact ⟨parseValue_enough ih, parseElements_enough ih, parseMembers_enough ih⟩

/-- The parser never fails for lack of fuel: any larger amount gives the same result. -/
theorem parseValue_fuel {fuel fuel' depth : ℕ} {input : List Char}
    (h : 2 * input.length + 1 ≤ fuel) (hle : fuel ≤ fuel') :
    parseValue fuel' depth input = parseValue fuel depth input := by
  induction fuel', hle using Nat.le_induction with
  | base => rfl
  | succ n hn ih => rw [(enoughFuel n).1 depth input (by omega), ih]

/-- `cJSON_Parse` is the parser with any fuel that is large enough. -/
theorem cJSONParse_eq (value : CString) {fuel : ℕ} (h : 2 * value.length + 2 ≤ fuel) :
    cJSONParse value =
      (parseValue fuel 0 (skipWhitespace (skipUtf8Bom value))).map Prod.fst := by
  have hbom : (skipUtf8Bom value).length ≤ value.length := by
    unfold skipUtf8Bom
    split
    · simp only [List.length_cons]
      omega
    · exact le_refl _
  have hskip := length_skipWhitespace_le (skipUtf8Bom value)
  rw [cJSONParse, parseValue_fuel (by omega) h]

end ZohoIotSdk
