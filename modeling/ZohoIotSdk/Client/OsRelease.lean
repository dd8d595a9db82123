import ZohoIotSdk.Text.Lines
import ZohoIotSdk.Utils

/-!
# The name of the operating system

`getOsnameOsversion` reads `/etc/os-release` in pieces of at most 1023 bytes, looks for a quote
in those that begin with `NAME=` or `VERSION=`, and cuts the text after it at the next quote or
newline. It stops when it has both.
-/

namespace ZohoIotSdk

/-! ## The code -/

/-- The two values that are looked for. -/
inductive OsKey where
  | name
  | version
deriving DecidableEq

def OsKey.text : OsKey → CString
  | name => "NAME=".toList
  | version => "VERSION=".toList

/-- Which of them the piece begins with: `strstr(line, "NAME=") == line`, and so on. -/
def keyOf (line : CString) : Option OsKey :=
  if OsKey.name.text.isPrefixOf line then some .name
  else if OsKey.version.text.isPrefixOf line then some .version
  else none

/-- The delimiters of `strtok(name, "\"\n")`. -/
def isQuoteOrNewline (c : Char) : Bool := c = '"' || c = '\n'

/-- What `strtok(s, "\"\n")` leaves at `s`: it ends the first token, and does not move the
delimiters in front of it; without a token it changes nothing. -/
def cutToken (s : CString) : CString :=
  let delims := s.takeWhile isQuoteOrNewline
  let token := (s.dropWhile isQuoteOrNewline).takeWhile fun c => !isQuoteOrNewline c
  if token = [] then s else delims ++ token

/-- The value in the piece: what `strchr(line, '"') + 1` points to, after `strtok`. There is
none if there is no quote, and then the pointer is one past the null pointer. -/
def quotedValue (line : CString) : CStringPtr :=
  match line.dropWhile (· ≠ '"') with
  | [] => none
  | _ :: rest => some (cutToken rest)

/-- The values found so far. -/
structure OsFields where
  name : CStringPtr := none
  version : CStringPtr := none

def OsFields.get (fields : OsFields) : OsKey → CStringPtr
  | .name => fields.name
  | .version => fields.version

def OsFields.set (fields : OsFields) (key : OsKey) (value : CString) : OsFields :=
  match key with
  | .name => { fields with name := some value }
  | .version => { fields with version := some value }

/-- The body of the loop, on the piece in the buffer; the values are copied into buffers of the
given size. There is no result if `strtok` is called on no string. -/
def osLine (size : OsKey → ℕ) (fields : OsFields) (line : CString) : Option OsFields :=
  match keyOf line with
  | none => some fields
  | some key => (quotedValue line).map fun value => fields.set key (value.take (size key - 1))

/-- The loop over the pieces. -/
def osLoop (size : OsKey → ℕ) : List CString → OsFields → Option OsFields
  | [], fields => some fields
  | line :: rest, fields =>
    match osLine size fields line with
    | none => none
    | some fields =>
      if fields.name.isSome ∧ fields.version.isSome then some fields else osLoop size rest fields

/-- The pieces that `fgets` reads into a buffer of 1024 bytes, one after the other. -/
def fgetsAll : ℕ → List Char → List (List Char)
  | 0, _ => []
  | _ + 1, [] => []
  | fuel + 1, c :: rest =>
    (fgetsFrom 1023 (c :: rest)).1 :: fgetsAll fuel (fgetsFrom 1023 (c :: rest)).2

/-- The pieces of a file; every one of them has at least one byte. -/
def pieces (content : List Char) : List (List Char) := fgetsAll content.length content

/-- How `getOsnameOsversion` ends. -/
inductive OsResult where
  | crash
  | notFound
  | found (osName osVersion : CString)
deriving DecidableEq

/-- The sizes of the two buffers. -/
def bufferSize (osNameSize osVersionSize : ℕ) : OsKey → ℕ
  | .name => osNameSize
  | .version => osVersionSize

/-- The end of `getOsnameOsversion`. -/
def osResult : Option OsFields → OsResult
  | none => .crash
  | some { name := some osName, version := some osVersion } => .found osName osVersion
  | some _ => .notFound

/-- `getOsnameOsversion`, on a file that may be missing. -/
def getOsnameOsversion (osNameSize osVersionSize : ℕ) (file : Option (List Char)) : OsResult :=
  match file with
  | none => .notFound
  | some content =>
    osResult (osLoop (bufferSize osNameSize osVersionSize) ((pieces content).map cstr) {})

/-! ## What is read -/

/-- The items with a key that are taken by a reader who stops when it has seen both keys; `seen`
is the one key that it has seen already. -/
def keysRead {α : Type} (key : α → Option OsKey) : Option OsKey → List α → List α
  | _, [] => []
  | seen, x :: xs =>
    match key x with
    | none => keysRead key seen xs
    | some k => x :: if seen.any (· ≠ k) then [] else keysRead key (some k) xs

/-- The last of the items with the key. -/
def lastWith {α : Type} (key : α → Option OsKey) (k : OsKey) (xs : List α) : Option α :=
  (xs.filter fun x => key x = some k).getLast?

/-- The last item of a key is sought behind the first one before the first is looked at. -/
theorem lastWith_cons {α : Type} (key : α → Option OsKey) (k : OsKey) (x : α) (xs : List α) :
    lastWith key k (x :: xs) =
      (lastWith key k xs).or (if key x = some k then some x else none) := by
  unfold lastWith
  by_cases hx : key x = some k
  · rw [List.filter_cons_of_pos (by simpa using hx), if_pos hx, List.getLast?_cons]
    cases (xs.filter fun x => key x = some k).getLast? <;> rfl
  · rw [List.filter_cons_of_neg (by simpa using hx), if_neg hx, Option.or_none]

/-- What is found is an item with the key. -/
theorem mem_of_lastWith {α : Type} {key : α → Option OsKey} {k : OsKey} {x : α} {xs : List α}
    (h : lastWith key k xs = some x) : x ∈ xs ∧ key x = some k := by
  have hmem := List.mem_of_getLast? h
  rw [List.mem_filter, decide_eq_true_eq] at hmem
  exact hmem

/-- The fields that are set are those whose key has been seen. -/
def OsFields.Seen (fields : OsFields) (seen : Option OsKey) : Prop :=
  ∀ k, (fields.get k).isSome ↔ seen = some k

/-- Setting a field changes that field only. -/
theorem OsFields.get_set (fields : OsFields) (k k' : OsKey) (value : CString) :
    (fields.set k value).get k' = if k = k' then some value else fields.get k' := by
  cases k <;> cases k' <;> rfl

/-- The loop stops after a key if the other one has been seen. -/
theorem OsFields.Seen.both_iff {fields : OsFields} {seen : Option OsKey} (h : fields.Seen seen)
    (k : OsKey) (value : CString) :
    ((fields.set k value).name.isSome ∧ (fields.set k value).version.isSome) ↔
      seen.any (· ≠ k) = true := by
  have hname := h .name
  have hversion := h .version
  simp only [OsFields.get] at hname hversion
  cases k with
  | name =>
    simp only [OsFields.set, Option.isSome_some, true_and, hversion]
    rcases seen with _ | _ | _ <;> simp
  | version =>
    simp only [OsFields.set, Option.isSome_some, and_true, hname]
    rcases seen with _ | _ | _ <;> simp

/-- Storing a value makes its key the one seen, while no other key has been. -/
theorem OsFields.Seen.set {fields : OsFields} {seen : Option OsKey} (h : fields.Seen seen)
    {k : OsKey} (hk : ¬ seen.any (· ≠ k) = true) (value : CString) :
    (fields.set k value).Seen (some k) := by
  intro k'
  rw [OsFields.get_set]
  by_cases heq : k = k'
  · simp [heq]
  · rw [if_neg heq, h k']
    simp only [Option.some.injEq, heq, iff_false]
    rintro rfl
    exact hk (by simpa using Ne.symm heq)

/-- No two keys have been seen while the loop goes on. -/
theorem OsFields.Seen.not_both {fields : OsFields} {seen : Option OsKey} (h : fields.Seen seen) :
    ¬ (fields.name.isSome ∧ fields.version.isSome) := by
  intro hboth
  have hname := (h .name).mp hboth.1
  rw [(h .version).mp hboth.2] at hname
  simp at hname

section Loop

variable {size : OsKey → ℕ} {seen : Option OsKey} {fields : OsFields}

/-- The loop crashes at a piece that it reads for its key and that has no quote. -/
theorem osLoop_crash_iff (hseen : fields.Seen seen) (lines : List CString) :
    osLoop size lines fields = none ↔
      ∃ line ∈ keysRead keyOf seen lines, quotedValue line = none := by
  induction lines generalizing seen fields with
  | nil => simp [osLoop, keysRead]
  | cons line rest ih =>
    cases hkey : keyOf line with
    | none =>
      simp only [osLoop, osLine, hkey, keysRead, if_neg hseen.not_both]
      exact ih hseen
    | some k =>
      simp only [osLoop, osLine, hkey, keysRead, List.mem_cons, or_and_right, exists_or,
        exists_eq_left]
      cases hvalue : quotedValue line with
      | none => simp
      | some value =>
        simp only [Option.map_some, reduceCtorEq, false_or]
        by_cases hstop : seen.any (· ≠ k) = true
        · rw [if_pos ((hseen.both_iff k _).mpr hstop), if_pos hstop]
          simp
        · rw [if_neg (mt (hseen.both_iff k _).mp hstop), if_neg hstop]
          exact ih (hseen.set hstop _)

/-- A field after a piece has been read. -/
theorem get_set_of_line (size : OsKey → ℕ) (fields : OsFields) {line : CString} {k' : OsKey}
    {value : CString} (hkey : keyOf line = some k') (hvalue : quotedValue line = some value)
    (k : OsKey) :
    ((if keyOf line = some k then some line else none).bind fun line =>
      (quotedValue line).map (·.take (size k - 1))).or (fields.get k) =
      (fields.set k' (value.take (size k' - 1))).get k := by
  rw [OsFields.get_set, hkey]
  by_cases heq : k' = k
  · subst heq
    simp [hvalue]
  · simp [heq]

/-- Otherwise it leaves the values of the last pieces with the two keys. -/
theorem osLoop_get (hseen : fields.Seen seen) {lines : List CString} {fields' : OsFields}
    (h : osLoop size lines fields = some fields') (k : OsKey) :
    fields'.get k = ((lastWith keyOf k (keysRead keyOf seen lines)).bind fun line =>
      (quotedValue line).map (·.take (size k - 1))).or (fields.get k) := by
  induction lines generalizing seen fields with
  | nil =>
    obtain rfl := Option.some.inj h
    rfl
  | cons line rest ih =>
    cases hkey : keyOf line with
    | none =>
      simp only [osLoop, osLine, hkey, keysRead, if_neg hseen.not_both] at h ⊢
      exact ih hseen h
    | some k' =>
      simp only [osLoop, osLine, hkey, keysRead] at h ⊢
      cases hvalue : quotedValue line with
      | none => simp [hvalue] at h
      | some value =>
        simp only [hvalue, Option.map_some] at h
        have hfirst := get_set_of_line size fields hkey hvalue k
        by_cases hstop : seen.any (· ≠ k') = true
        · rw [if_pos ((hseen.both_iff k' _).mpr hstop)] at h
          obtain rfl := Option.some.inj h
          rw [if_pos hstop, lastWith_cons, ← hfirst]
          rfl
        · rw [if_neg (mt (hseen.both_iff k' _).mp hstop)] at h
          rw [if_neg hstop, lastWith_cons, ih (hseen.set hstop _) h, ← hfirst]
          cases hlast : lastWith keyOf k (keysRead keyOf (some k') rest) with
          | none => rfl
          | some line' =>
            -- the loop has not crashed, so that piece has a value
            have hread := (mem_of_lastWith hlast).1
            cases hvalue' : quotedValue line' with
            | none =>
              rw [(osLoop_crash_iff (hseen.set hstop _) rest).mpr ⟨line', hread, hvalue'⟩] at h
              simp at h
            | some value' => simp [hvalue']

end Loop

/-! ## Lines and pieces -/

/-- The lines of a file. -/
abbrev fileLines (content : List Char) : List (List Char) := Text.lines '\n' content

/-- `fgets` reads the first line, or as much of it as fits. -/
theorem fgetsFrom_fileLines {s line : List Char} {others : List (List Char)} (room : ℕ)
    (h : fileLines s = line :: others) :
    (fgetsFrom room s).1 = line.take room ∧ fileLines (fgetsFrom room s).2 =
      if line.length ≤ room then others else line.drop room :: others := by
  induction s generalizing room line others with
  | nil => simp [Text.lines] at h
  | cons c rest ih =>
    cases room with
    | zero =>
      have hline : Text.IsLine '\n' line := Text.isLine_of_mem (h ▸ List.mem_cons_self ..)
      have hne : ¬ line.length ≤ 0 := by simpa using hline.ne_nil
      rw [if_neg hne]
      exact ⟨rfl, h⟩
    | succ room =>
      by_cases hc : c = '\n'
      · rw [fileLines, Text.lines, if_pos hc, List.cons.injEq] at h
        rw [fgetsFrom, if_pos hc, ← h.1, hc]
        exact ⟨by simp, by simpa using h.2⟩
      · rw [fileLines, Text.lines_cons_of_ne hc, List.cons.injEq] at h
        rw [fgetsFrom, if_neg hc, ← h.1]
        cases hlines : Text.lines '\n' rest with
        | nil =>
          obtain rfl := Text.lines_eq_nil hlines
          rw [← h.2, hlines]
          cases room <;> exact ⟨by simp [fgetsFrom], by simp [fgetsFrom, Text.lines]⟩
        | cons first others' =>
          rw [hlines] at h
          obtain ⟨hpiece, hrest⟩ := ih room hlines
          rw [hpiece, hrest, ← h.2]
          simp

/-- The pieces, each with whether it is the start of a line. -/
def marked : Bool → List (List Char) → List (Bool × List Char)
  | _, [] => []
  | start, piece :: rest => (start, piece) :: marked (piece.getLast? = some '\n') rest

/-- Marking the pieces keeps their texts. -/
theorem marked_map_snd (start : Bool) (ps : List (List Char)) :
    (marked start ps).map Prod.snd = ps := by
  induction ps generalizing start with
  | nil => rfl
  | cons piece rest ih => rw [marked, List.map_cons, ih]

/-- The first piece of a file, and the lines that are left. A piece that ends with a newline is
the rest of its line. -/
theorem fgetsAll_step {s line : List Char} {others : List (List Char)} {fuel : ℕ}
    (h : fileLines s = line :: others) (hfuel : s.length ≤ fuel + 1) :
    ∃ s', fgetsAll (fuel + 1) s = line.take 1023 :: fgetsAll fuel s' ∧ s'.length ≤ fuel ∧
      ((line.take 1023).getLast? = some '\n' ∧ fileLines s' = others ∨
        (line.take 1023).getLast? ≠ some '\n' ∧ 1023 < line.length ∧
          fileLines s' = line.drop 1023 :: others ∨
        s' = [] ∧ others = []) := by
  obtain ⟨hpiece, hrest⟩ := fgetsFrom_fileLines 1023 h
  have hline : Text.IsLine '\n' line := Text.isLine_of_mem (h ▸ List.mem_cons_self ..)
  have happend := congrArg List.length (fgetsFrom_append 1023 s)
  rw [List.length_append, hpiece, List.length_take] at happend
  have hpos : 0 < line.length := List.length_pos_iff.mpr hline.ne_nil
  refine ⟨(fgetsFrom 1023 s).2, ?_, by omega, ?_⟩
  · cases s with
    | nil => simp [Text.lines] at h
    | cons c rest => rw [fgetsAll, hpiece]
  · obtain ⟨body, ending, rfl, hbody, hending⟩ := hline
    by_cases hshort : (body ++ ending).length ≤ 1023
    · rw [if_pos hshort] at hrest
      rw [List.take_of_length_le hshort]
      rcases hending with rfl | ⟨rfl, -⟩
      · exact .inl ⟨List.getLast?_concat, hrest⟩
      · have hlast : others = [] := Text.eq_nil_of_no_newline h (by simpa using hbody)
        rw [hlast] at hrest
        exact .inr (.inr ⟨Text.lines_eq_nil hrest, hlast⟩)
    · rw [if_neg hshort] at hrest
      refine .inr (.inl ⟨fun hnewline => hbody ?_, by omega, hrest⟩)
      -- the piece ends inside the text of the line
      have hmem := List.mem_of_getLast? hnewline
      have hle : 1023 ≤ body.length := by
        have : ending.length ≤ 1 := by rcases hending with rfl | ⟨rfl, -⟩ <;> simp
        rw [List.length_append] at hshort
        omega
      rw [List.take_append_of_le_length hle] at hmem
      exact List.mem_of_mem_take hmem

/-- The pieces that start a line are the lines, cut off at 1023 bytes. -/
theorem marked_filter {s : List Char} {fuel : ℕ} (hfuel : s.length ≤ fuel) :
    ((marked true (fgetsAll fuel s)).filter Prod.fst).map Prod.snd =
      (fileLines s).map (·.take 1023) ∧
    ((marked false (fgetsAll fuel s)).filter Prod.fst).map Prod.snd =
      (fileLines s).tail.map (·.take 1023) := by
  induction fuel generalizing s with
  | zero =>
    obtain rfl : s = [] := List.length_eq_zero_iff.mp (by omega)
    exact ⟨rfl, rfl⟩
  | succ fuel ih =>
    cases h : fileLines s with
    | nil =>
      obtain rfl := Text.lines_eq_nil h
      exact ⟨rfl, rfl⟩
    | cons line others =>
      obtain ⟨s', hstep, hlength, hcases⟩ := fgetsAll_step h hfuel
      obtain ⟨hstart, hrest⟩ := ih hlength
      have hothers : ((marked ((line.take 1023).getLast? = some '\n')
          (fgetsAll fuel s')).filter Prod.fst).map Prod.snd = others.map (·.take 1023) := by
        rcases hcases with ⟨hend, hlines⟩ | ⟨hend, -, hlines⟩ | ⟨rfl, rfl⟩
        · rw [decide_eq_true hend, hstart, hlines]
        · rw [decide_eq_false hend, hrest, hlines, List.tail_cons]
        · cases fuel <;> rfl
      rw [hstep, marked, marked, List.filter_cons_of_pos rfl, List.filter_cons_of_neg (by simp),
        List.map_cons, List.map_cons, List.tail_cons, hothers]
      exact ⟨rfl, rfl⟩

/-- Short lines are read in one piece each. -/
theorem marked_of_short {s : List Char} {fuel : ℕ} (hfuel : s.length ≤ fuel)
    (hshort : ∀ line ∈ fileLines s, line.length ≤ 1023) :
    ∀ x ∈ marked true (fgetsAll fuel s), x.1 = true := by
  induction fuel generalizing s with
  | zero => simp [fgetsAll, marked]
  | succ fuel ih =>
    cases h : fileLines s with
    | nil =>
      obtain rfl := Text.lines_eq_nil h
      simp [fgetsAll, marked]
    | cons line others =>
      rw [h, List.forall_mem_cons] at hshort
      obtain ⟨s', hstep, hlength, hcases⟩ := fgetsAll_step h hfuel
      rw [hstep, marked, List.forall_mem_cons]
      refine ⟨rfl, ?_⟩
      rcases hcases with ⟨hend, hlines⟩ | ⟨-, hlong, -⟩ | ⟨rfl, -⟩
      · rw [decide_eq_true hend]
        exact ih hlength (by rw [hlines]; exact hshort.2)
      · exact absurd hlong (by omega)
      · cases fuel <;> simp [fgetsAll, marked]

end ZohoIotSdk
