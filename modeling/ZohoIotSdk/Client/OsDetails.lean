import Mathlib.Data.List.TakeWhile
import ZohoIotSdk.Client.OsRelease

/-!
# When the details of the operating system are right

For a file whose values are in double quotes or have none, `osRight_iff` says when
`getOsnameOsversion` neither crashes nor stores something else than the values of the file.
-/

namespace ZohoIotSdk

/-! ## The values of a file -/

/-- What stands after the key in a line. -/
def rawValue (k : OsKey) (line : List Char) : List Char :=
  (line.takeWhile (· ≠ '\n')).drop k.text.length

/-- The value without the quotes around it. -/
def unquote (raw : List Char) : List Char :=
  match raw with
  | '"' :: rest => if rest.getLast? = some '"' then rest.dropLast else raw
  | _ => raw

/-- The two ways to write a value: without any quote, or between quotes. A value with a quote that is
escaped within it is left out; it is cut there, see `escapedFile`. -/
def ProperValue (raw : List Char) : Prop :=
  '"' ∉ raw ∨ ∃ value, '"' ∉ value ∧ raw = '"' :: (value ++ ['"'])

/-- The lines with a key, up to the first one after which both keys have been seen. -/
def linesRead (content : List Char) : List (List Char) := keysRead keyOf none (fileLines content)

/-- A value of the file: that of the last of these lines with the key. -/
def fileValue (k : OsKey) (content : List Char) : Option (List Char) :=
  (lastWith keyOf k (linesRead content)).map (rawValue k)

/-- The files in question: text, in which every value is written in one of the two ways. -/
structure ProperFile (content : List Char) : Prop where
  text : '\x00' ∉ content
  value : ∀ line ∈ fileLines content, ∀ k, keyOf line = some k → ProperValue (rawValue k line)

/-- The buffers of `addOsdetailstoConnectionParameters` have 50 bytes. -/
def osDetailsOf (content : List Char) : OsResult := getOsnameOsversion 50 50 (some content)

/-- The call does not crash, and what it stores are the values of the file without their quotes,
as far as the buffers hold them. -/
def OsRight (content : List Char) : Prop :=
  osDetailsOf content ≠ .crash ∧
    ∀ osName osVersion, osDetailsOf content = .found osName osVersion →
      (fileValue .name content).map (fun raw => (unquote raw).take 49) = some osName ∧
      (fileValue .version content).map (fun raw => (unquote raw).take 49) = some osVersion

/-- The values that are read are in quotes. -/
def ReadInQuotes (content : List Char) : Prop :=
  ∀ line ∈ linesRead content, ∀ k, keyOf line = some k → (rawValue k line).head? = some '"'

/-- If the file has both values, neither is empty. -/
def ValuesNonEmpty (content : List Char) : Prop :=
  ∀ rawName rawVersion, fileValue .name content = some rawName →
    fileValue .version content = some rawVersion →
    rawName ≠ ['"', '"'] ∧ rawVersion ≠ ['"', '"']

/-! ## Keys, lines and pieces -/

section KeysRead

variable {α β : Type} {key : α → Option OsKey} {seen : Option OsKey}

/-- A test that every line read passes may be made before the reading. -/
theorem keysRead_filter {p : α → Bool} {xs : List α}
    (h : ∀ x ∈ keysRead key seen xs, p x = true) :
    keysRead key seen xs = keysRead key seen (xs.filter p) := by
  induction xs generalizing seen with
  | nil => rfl
  | cons x xs ih =>
    rw [keysRead] at h ⊢
    cases hkey : key x with
    | none =>
      simp only [hkey] at h
      by_cases hx : p x = true
      · rw [List.filter_cons_of_pos hx, keysRead, hkey]
        exact ih h
      · rw [List.filter_cons_of_neg hx]
        exact ih h
    | some k =>
      simp only [hkey, List.forall_mem_cons] at h
      rw [List.filter_cons_of_pos h.1, keysRead]
      simp only [hkey]
      by_cases hstop : seen.any (· ≠ k) = true
      · rw [if_pos hstop, if_pos hstop]
      · rw [if_neg hstop] at h
        rw [if_neg hstop, if_neg hstop, ih h.2]

/-- Lines mapped first are read by the composed key. -/
theorem keysRead_map (key : β → Option OsKey) (f : α → β) (xs : List α) :
    keysRead key seen (xs.map f) = (keysRead (key ∘ f) seen xs).map f := by
  induction xs generalizing seen with
  | nil => rfl
  | cons x xs ih =>
    rw [List.map_cons, keysRead, keysRead, Function.comp_apply]
    cases key (f x) with
    | none => exact ih
    | some k =>
      simp only [List.map_cons]
      split
      · rfl
      · rw [ih]

theorem keysRead_subset {xs : List α} : ∀ x ∈ keysRead key seen xs, x ∈ xs ∧ (key x).isSome := by
  induction xs generalizing seen with
  | nil => simp [keysRead]
  | cons x xs ih =>
    rw [keysRead]
    cases hkey : key x with
    | none => exact fun y hy => ⟨List.mem_cons_of_mem _ (ih y hy).1, (ih y hy).2⟩
    | some k =>
      simp only [List.forall_mem_cons, List.mem_cons_self, hkey, true_and, Option.isSome_some]
      intro y hy
      split at hy
      · simp at hy
      · exact ⟨List.mem_cons_of_mem _ (ih y hy).1, (ih y hy).2⟩

end KeysRead

/-- The start of a line that is cut off has the key of the line. -/
theorem keyOf_take (line : List Char) : keyOf (line.take 1023) = keyOf line := by
  have hstart : ∀ k : OsKey, k.text.isPrefixOf (line.take 1023) = k.text.isPrefixOf line := by
    intro k
    have hlength : k.text.length ≤ 1023 := by cases k <;> decide
    rw [Bool.eq_iff_iff, List.isPrefixOf_iff_prefix, List.isPrefixOf_iff_prefix,
      List.prefix_take_iff, and_iff_left hlength]
  unfold keyOf
  rw [hstart, hstart]

/-- No piece that is read for its key is the continuation of a line. -/
def NoKeyContinuation (content : List Char) : Prop :=
  ∀ x ∈ keysRead (keyOf ∘ Prod.snd) none (marked true (pieces content)), x.1 = true

/-- Where every line fits the buffer no line is continued. -/
theorem noKeyContinuation_of_short {content : List Char}
    (h : ∀ line ∈ fileLines content, line.length ≤ 1023) : NoKeyContinuation content :=
  fun x hx => marked_of_short (Nat.le_refl _) h x (keysRead_subset x hx).1

/-- Then what is read for its key are the starts of the lines with a key. -/
theorem keysRead_pieces {content : List Char} (h : NoKeyContinuation content) :
    keysRead keyOf none (pieces content) = (linesRead content).map (·.take 1023) := by
  have hkey : keyOf ∘ (fun line : List Char => line.take 1023) = keyOf := funext keyOf_take
  calc keysRead keyOf none (pieces content)
      = (keysRead (keyOf ∘ Prod.snd) none (marked true (pieces content))).map Prod.snd := by
        rw [← keysRead_map, marked_map_snd]
    _ = keysRead keyOf none
          (((marked true (pieces content)).filter Prod.fst).map Prod.snd) := by
        rw [keysRead_filter h, ← keysRead_map]
    _ = keysRead keyOf none ((fileLines content).map (·.take 1023)) := by
        rw [pieces, (marked_filter (Nat.le_refl _)).1]
    _ = (linesRead content).map (·.take 1023) := by
        rw [keysRead_map, hkey]
        rfl

/-- The last line of a key is found among the cut lines too. -/
theorem lastWith_map_take (k : OsKey) (xs : List (List Char)) :
    lastWith keyOf k (xs.map (·.take 1023)) = (lastWith keyOf k xs).map (·.take 1023) := by
  unfold lastWith
  rw [List.filter_map, List.getLast?_map]
  congr 2
  apply List.filter_congr
  intro line _
  rw [Function.comp_apply, keyOf_take]

/-! ## The value in a line -/

theorem quote_notMem_text (k : OsKey) : '"' ∉ k.text := by
  cases k <;> decide

theorem newline_notMem_text (k : OsKey) : '\n' ∉ k.text := by
  cases k <;> decide

/-- A line of a key begins with the key's text. -/
theorem keyOf_begins {line : List Char} {k : OsKey} (h : keyOf line = some k) :
    k.text <+: line := by
  unfold keyOf at h
  split at h
  · rename_i hname
    obtain rfl := Option.some.inj h
    exact List.isPrefixOf_iff_prefix.mp hname
  · split at h
    · rename_i hversion
      obtain rfl := Option.some.inj h
      exact List.isPrefixOf_iff_prefix.mp hversion
    · simp at h

/-- A line with a key: the key, what stands after it, and the newline. -/
theorem line_eq {line : List Char} {k : OsKey} (hline : Text.IsLine '\n' line)
    (hkey : keyOf line = some k) : ∃ ending, line = k.text ++ rawValue k line ++ ending ∧
      '\n' ∉ rawValue k line ∧ (ending = ['\n'] ∨ ending = []) := by
  have hstart := keyOf_begins hkey
  obtain ⟨body, ending, rfl, hbody, hending⟩ := hline
  have hbody' : ∀ c ∈ body, decide (c ≠ '\n') = true := by
    intro c hc
    exact decide_eq_true fun heq => hbody (heq ▸ hc)
  -- the key has no newline, so it is in the text of the line
  have hkeyBody : k.text <+: body := by
    rcases hending with rfl | ⟨rfl, -⟩
    · rcases List.prefix_concat_iff.mp hstart with heq | hbegins
      · exact absurd (heq ▸ by simp) (newline_notMem_text k)
      · exact hbegins
    · rwa [List.append_nil] at hstart
  have htext : (body ++ ending).takeWhile (· ≠ '\n') = body := by
    rw [List.takeWhile_append_of_pos hbody']
    rcases hending with rfl | ⟨rfl, -⟩ <;> simp
  obtain ⟨raw, rfl⟩ := hkeyBody
  have hraw : rawValue k (k.text ++ raw ++ ending) = raw := by
    rw [rawValue, htext, List.drop_left]
  refine ⟨ending, by rw [hraw], ?_, hending.imp id And.left⟩
  rw [hraw]
  exact fun hmem => hbody (List.mem_append_right _ hmem)

/-- Without a quote in the line there is no value. -/
theorem quotedValue_unquoted {line : List Char} {k : OsKey} (hline : Text.IsLine '\n' line)
    (hkey : keyOf line = some k) (hraw : '"' ∉ rawValue k line) :
    quotedValue (line.take 1023) = none := by
  obtain ⟨ending, hshape, -, hending⟩ := line_eq hline hkey
  have hquote : '"' ∉ line := by
    rw [hshape, List.mem_append, List.mem_append, not_or, not_or]
    refine ⟨⟨quote_notMem_text k, hraw⟩, ?_⟩
    rcases hending with rfl | rfl <;> simp
  have hdrop : (line.take 1023).dropWhile (· ≠ '"') = [] := by
    rw [List.dropWhile_eq_nil_iff]
    intro c hc
    exact decide_eq_true fun heq => hquote (heq ▸ List.mem_of_mem_take hc)
  rw [quotedValue, hdrop]

/-- Quotes around a value are removed. -/
@[simp] theorem unquote_quoted (value : List Char) : unquote ('"' :: (value ++ ['"'])) = value := by
  simp [unquote]

/-- The text up to the first delimiter, as far as it was read. -/
theorem takeWhile_take_append {p : Char → Bool} {value : List Char} {d : Char} (m : ℕ)
    (rest : List Char) (hvalue : ∀ c ∈ value, p c = true) (hd : p d = false) :
    ((value ++ d :: rest).take m).takeWhile p = value.take m := by
  induction value generalizing m with
  | nil => cases m <;> simp [hd]
  | cons c value ih =>
    rw [List.forall_mem_cons] at hvalue
    cases m with
    | zero => rfl
    | succ m =>
      rw [List.cons_append, List.take_succ_cons, List.takeWhile_cons_of_pos hvalue.1,
        ih m hvalue.2, List.take_succ_cons]

/-- A value that begins at once is cut at the next delimiter. -/
theorem cutToken_value {value : List Char} (m : ℕ) (rest : List Char) (hne : value ≠ [])
    (hvalue : ∀ c ∈ value, isQuoteOrNewline c = false) :
    cutToken ((value ++ '"' :: rest).take (m + 1)) = value.take (m + 1) := by
  have htoken := takeWhile_take_append (p := fun c => !isQuoteOrNewline c) (d := '"') (m + 1) rest
    (fun c hc => by rw [hvalue c hc]; rfl) rfl
  obtain ⟨c, value', rfl⟩ := List.exists_cons_of_ne_nil hne
  have hc : ¬ isQuoteOrNewline c = true := by simp [hvalue c (List.mem_cons_self ..)]
  unfold cutToken
  rw [List.cons_append, List.take_succ_cons] at htoken ⊢
  simp only [List.takeWhile_cons_of_neg hc, List.dropWhile_cons_of_neg hc]
  rw [htoken]
  simp

/-- What `strchr` finds in the first piece of a line with a value in quotes. -/
theorem dropWhile_piece {line value ending : List Char} {k : OsKey}
    (hshape : line = k.text ++ '"' :: (value ++ ['"']) ++ ending) :
    ∃ m, 49 ≤ m + 1 ∧ (line.take 1023).dropWhile (· ≠ '"') =
      '"' :: (value ++ '"' :: ending).take (m + 1) := by
  obtain ⟨m, hm, hroom⟩ : ∃ m, 1023 - k.text.length = m + 2 ∧ 49 ≤ m + 1 := by
    cases k
    · exact ⟨1016, rfl, by omega⟩
    · exact ⟨1013, rfl, by omega⟩
  have htake : line.take 1023 =
      k.text ++ '"' :: (value ++ '"' :: ending).take (m + 1) := by
    have hkeep : k.text.take 1023 = k.text := List.take_of_length_le (by cases k <;> decide)
    rw [hshape, List.append_assoc, List.take_append, hkeep, hm]
    simp
  have hplain : ∀ c ∈ k.text, decide (c ≠ '"') = true := by
    intro c hc
    exact decide_eq_true fun heq => quote_notMem_text k (heq ▸ hc)
  refine ⟨m, hroom, ?_⟩
  rw [htake, List.dropWhile_append_of_pos hplain]
  simp

/-- What is stored of a value in quotes: the value, or something else if it is empty. -/
theorem quotedValue_quoted {line : List Char} {k : OsKey} (hline : Text.IsLine '\n' line)
    (hkey : keyOf line = some k) {value : List Char} (hvalue : '"' ∉ value)
    (hraw : rawValue k line = '"' :: (value ++ ['"'])) :
    ∃ stored, quotedValue (line.take 1023) = some stored ∧
      (value ≠ [] → stored.take 49 = value.take 49) ∧ (value = [] → stored.take 49 ≠ []) := by
  obtain ⟨ending, hshape, hnewline, hending⟩ := line_eq hline hkey
  rw [hraw] at hshape hnewline
  obtain ⟨m, hroom, hdrop⟩ := dropWhile_piece hshape
  refine ⟨cutToken ((value ++ '"' :: ending).take (m + 1)), by rw [quotedValue, hdrop], ?_, ?_⟩
  · intro hne
    have hplain : ∀ c ∈ value, isQuoteOrNewline c = false := by
      intro c hc
      have hquote : c ≠ '"' := fun heq => hvalue (heq ▸ hc)
      have hnl : c ≠ '\n' := by
        rintro rfl
        exact hnewline (by simp [hc])
      simp [isQuoteOrNewline, hquote, hnl]
    rw [cutToken_value m ending hne hplain, List.take_take, Nat.min_eq_left hroom]
  · rintro rfl
    obtain ⟨m, rfl⟩ : ∃ k, m = k + 1 := ⟨m - 1, by omega⟩
    rcases hending with rfl | rfl <;> simp [cutToken, isQuoteOrNewline]

/-- What the code makes of a line whose value is written in one of the two ways: without quotes
it has no string to work on; with quotes it stores the value unless that is empty. -/
theorem quotedValue_line {line : List Char} {k : OsKey} (hline : Text.IsLine '\n' line)
    (hkey : keyOf line = some k) (hproper : ProperValue (rawValue k line)) :
    ((rawValue k line).head? ≠ some '"' → quotedValue (line.take 1023) = none) ∧
    ((rawValue k line).head? = some '"' → ∃ stored, quotedValue (line.take 1023) = some stored ∧
      (stored.take 49 = (unquote (rawValue k line)).take 49 ↔ rawValue k line ≠ ['"', '"'])) := by
  rcases hproper with hraw | ⟨value, hvalue, hraw⟩
  · refine ⟨fun _ => quotedValue_unquoted hline hkey hraw, fun hhead => ?_⟩
    exact absurd (List.mem_of_head? hhead) hraw
  · obtain ⟨stored, hstored, hsame, hempty⟩ := quotedValue_quoted hline hkey hvalue hraw
    refine ⟨fun hhead => absurd (by rw [hraw]; rfl) hhead, fun _ => ⟨stored, hstored, ?_⟩⟩
    rw [hraw, unquote_quoted]
    by_cases hnil : value = []
    · subst hnil
      simpa using hempty rfl
    · simp [hsame hnil, hnil]

/-! ## The whole call -/

/-- The pieces hold characters of the file only. -/
theorem mem_of_mem_pieces {fuel : ℕ} {s piece : List Char} (h : piece ∈ fgetsAll fuel s) :
    ∀ c ∈ piece, c ∈ s := by
  induction fuel generalizing s with
  | zero => simp [fgetsAll] at h
  | succ fuel ih =>
    cases s with
    | nil => simp [fgetsAll] at h
    | cons c rest =>
      have happend := fgetsFrom_append 1023 (c :: rest)
      rw [fgetsAll, List.mem_cons] at h
      intro x hx
      rw [← happend, List.mem_append]
      rcases h with rfl | hmem
      · exact .inl hx
      · exact .inr (ih hmem x hx)

/-- A text file has no byte at which C strings end. -/
theorem map_cstr_pieces {content : List Char} (h : '\x00' ∉ content) :
    (pieces content).map cstr = pieces content := by
  conv_rhs => rw [← List.map_id (pieces content)]
  apply List.map_congr_left
  intro piece hpiece
  rw [cstr, id, List.takeWhile_eq_self_iff]
  intro c hc
  exact decide_eq_true fun heq => h (heq ▸ mem_of_mem_pieces hpiece c hc)

/-- The result of the loop over the pieces. -/
def osFound (content : List Char) : Option OsFields :=
  osLoop (bufferSize 50 50) (pieces content) {}

/-- In a file without NULs the loop finds the last lines of the two keys. -/
theorem osDetailsOf_eq {content : List Char} (h : '\x00' ∉ content) :
    osDetailsOf content = osResult (osFound content) := by
  rw [osDetailsOf, getOsnameOsversion, map_cstr_pieces h]
  rfl

/-- The result is a crash exactly when the loop gives no fields. -/
theorem osResult_crash_iff (result : Option OsFields) :
    osResult result = .crash ↔ result = none := by
  rcases result with _ | ⟨_ | _, _ | _⟩ <;> simp [osResult]

/-- The details are found when both fields are set. -/
theorem osResult_found_iff (result : Option OsFields) (osName osVersion : CString) :
    osResult result = .found osName osVersion ↔
      ∃ fields, result = some fields ∧ fields.get .name = some osName ∧
        fields.get .version = some osVersion := by
  rcases result with _ | ⟨_ | _, _ | _⟩ <;> simp [osResult, OsFields.get]

section Found

variable {content : List Char} (hfile : ProperFile content)
  (hstart : NoKeyContinuation content)

theorem seen_none : OsFields.Seen {} none := by
  intro k
  cases k <;> simp [OsFields.get]

/-- A line that is read is a line of the file. -/
theorem isLine_of_read {line : List Char} (h : line ∈ linesRead content) :
    line ∈ fileLines content ∧ Text.IsLine '\n' line :=
  ⟨(keysRead_subset line h).1, Text.isLine_of_mem (keysRead_subset line h).1⟩

include hfile hstart

/-- The loop crashes at a value without quotes. -/
theorem osFound_crash_iff : osFound content = none ↔
    ∃ line ∈ linesRead content, ∃ k, keyOf line = some k ∧ (rawValue k line).head? ≠ some '"' := by
  rw [osFound, osLoop_crash_iff seen_none, keysRead_pieces hstart]
  constructor
  · rintro ⟨_, hmem, hnone⟩
    obtain ⟨line, hread, rfl⟩ := List.mem_map.mp hmem
    obtain ⟨hline, hshape⟩ := isLine_of_read hread
    obtain ⟨k, hkey⟩ := Option.isSome_iff_exists.mp (keysRead_subset line hread).2
    refine ⟨line, hread, k, hkey, fun hhead => ?_⟩
    obtain ⟨stored, hstored, -⟩ :=
      (quotedValue_line hshape hkey (hfile.value line hline k hkey)).2 hhead
    rw [hstored] at hnone
    simp at hnone
  · rintro ⟨line, hread, k, hkey, hhead⟩
    obtain ⟨hline, hshape⟩ := isLine_of_read hread
    exact ⟨_, List.mem_map_of_mem hread,
      (quotedValue_line hshape hkey (hfile.value line hline k hkey)).1 hhead⟩

/-- Otherwise a value is stored if the file has it, and rightly so unless it is empty. -/
theorem osFound_get {fields : OsFields} (h : osFound content = some fields) (k : OsKey) :
    (fileValue k content = none → fields.get k = none) ∧
    ∀ raw, fileValue k content = some raw → ∃ stored, fields.get k = some stored ∧
      (stored = (unquote raw).take 49 ↔ raw ≠ ['"', '"']) := by
  have hget := osLoop_get seen_none h k
  have hnocrash : ¬ osFound content = none := by rw [h]; simp
  rw [osFound_crash_iff hfile hstart] at hnocrash
  have hempty : ({} : OsFields).get k = none := by cases k <;> rfl
  have hsize : bufferSize 50 50 k - 1 = 49 := by cases k <;> rfl
  rw [keysRead_pieces hstart, lastWith_map_take, hempty, Option.or_none, hsize] at hget
  unfold fileValue
  cases hlast : lastWith keyOf k (linesRead content) with
  | none =>
    rw [hlast] at hget
    exact ⟨fun _ => hget, fun raw hraw => by simp at hraw⟩
  | some line =>
    obtain ⟨hread, hkey⟩ := mem_of_lastWith hlast
    obtain ⟨hline, hshape⟩ := isLine_of_read hread
    have hhead : (rawValue k line).head? = some '"' := by
      by_contra hhead
      exact hnocrash ⟨line, hread, k, hkey, hhead⟩
    obtain ⟨stored, hstored, hiff⟩ :=
      (quotedValue_line hshape hkey (hfile.value line hline k hkey)).2 hhead
    refine ⟨fun hnone => by simp at hnone, fun raw hraw => ?_⟩
    obtain rfl : rawValue k line = raw := Option.some.inj hraw
    refine ⟨stored.take 49, ?_, hiff⟩
    rw [hget, hlast]
    simp [hstored]

/-- The function crashes exactly when some value that is read is not in quotes. -/
theorem osDetailsOf_crash_iff : osDetailsOf content = .crash ↔ ¬ ReadInQuotes content := by
  rw [osDetailsOf_eq hfile.text, osResult_crash_iff, osFound_crash_iff hfile hstart]
  unfold ReadInQuotes
  push Not
  rfl

/-- Where the values are in quotes, what is found are the fields after the loop. -/
theorem osDetailsOf_of_quotes (hquotes : ReadInQuotes content) :
    ∃ fields, osFound content = some fields ∧ ∀ osName osVersion,
      osDetailsOf content = .found osName osVersion ↔
        fields.get .name = some osName ∧ fields.get .version = some osVersion := by
  have hnone : ¬ osFound content = none := by
    rw [← osResult_crash_iff, ← osDetailsOf_eq hfile.text, osDetailsOf_crash_iff hfile hstart]
    exact not_not.mpr hquotes
  obtain ⟨fields, hfields⟩ := Option.ne_none_iff_exists'.mp hnone
  refine ⟨fields, hfields, fun osName osVersion => ?_⟩
  rw [osDetailsOf_eq hfile.text, osResult_found_iff, hfields]
  simp

/-- A field that is set has its value in the file. -/
theorem osFound_value {fields : OsFields} (h : osFound content = some fields) {k : OsKey}
    {stored : CString} (hstored : fields.get k = some stored) :
    ∃ raw, fileValue k content = some raw ∧
      (stored = (unquote raw).take 49 ↔ raw ≠ ['"', '"']) := by
  obtain ⟨hnone, hsome⟩ := osFound_get hfile hstart h k
  cases hraw : fileValue k content with
  | none => simp [hnone hraw] at hstored
  | some raw =>
    obtain ⟨stored', hstored', hiff⟩ := hsome raw hraw
    obtain rfl : stored = stored' := Option.some.inj (hstored.symm.trans hstored')
    exact ⟨raw, rfl, hiff⟩

/-- Where no continuation of a line is taken for a value. -/
theorem osRight_of_starts_iff :
    OsRight content ↔ ReadInQuotes content ∧ ValuesNonEmpty content := by
  unfold OsRight
  rw [Ne, osDetailsOf_crash_iff hfile hstart, not_not]
  refine and_congr_right fun hquotes => ?_
  obtain ⟨fields, hfields, hfound⟩ := osDetailsOf_of_quotes hfile hstart hquotes
  constructor
  · intro hright rawName rawVersion hrawName hrawVersion
    obtain ⟨osName, hosName, hiffName⟩ :=
      (osFound_get hfile hstart hfields .name).2 rawName hrawName
    obtain ⟨osVersion, hosVersion, hiffVersion⟩ :=
      (osFound_get hfile hstart hfields .version).2 rawVersion hrawVersion
    obtain ⟨hsameName, hsameVersion⟩ := hright osName osVersion
      ((hfound _ _).mpr ⟨hosName, hosVersion⟩)
    rw [hrawName] at hsameName
    rw [hrawVersion] at hsameVersion
    exact ⟨hiffName.mp (Option.some.inj hsameName).symm,
      hiffVersion.mp (Option.some.inj hsameVersion).symm⟩
  · intro hvalues osName osVersion hresult
    obtain ⟨hosName, hosVersion⟩ := (hfound _ _).mp hresult
    obtain ⟨rawName, hrawName, hiffName⟩ := osFound_value hfile hstart hfields hosName
    obtain ⟨rawVersion, hrawVersion, hiffVersion⟩ := osFound_value hfile hstart hfields hosVersion
    obtain ⟨hneName, hneVersion⟩ := hvalues rawName rawVersion hrawName hrawVersion
    rw [hrawName, hrawVersion]
    exact ⟨congrArg some (hiffName.mpr hneName).symm,
      congrArg some (hiffVersion.mpr hneVersion).symm⟩

end Found

/-- A file with both values in quotes. -/
def quotedFile : List Char := "ID=x\nNAME=\"A B\"\nVERSION=\"1\"\n".toList

theorem fileLines_quotedFile : fileLines quotedFile =
    ["ID=x\n".toList, "NAME=\"A B\"\n".toList, "VERSION=\"1\"\n".toList] := by decide +kernel

/-- A file with escaped quotes in the name. -/
def escapedFile : List Char := "NAME=\"A \\\"B\\\"\"\nVERSION=\"1\"\n".toList

-- the name ends at the first one of them
example : osDetailsOf escapedFile = .found "A \\".toList "1".toList := by
  decide +kernel

/-- A file with a name that is not in quotes. -/
def unquotedFile : List Char := "NAME=Buildroot\nVERSION=\"1\"\n".toList

end ZohoIotSdk
