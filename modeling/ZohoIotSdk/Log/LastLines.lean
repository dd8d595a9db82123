import Mathlib.Data.List.Induction
import ZohoIotSdk.Utils

/-!
# The last lines of a log file

`get_last_lines` walks back from the end of the file, byte by byte, until it has counted as
many newlines as lines were asked for, or has come to the old end of the file; then it reads
lines forward from where the walk has left the file position.

`last_lines_iff`: the lines it returns are the lines it should return only if there are none,
or if all of them are empty and the walk stops at the old end.
-/

namespace ZohoIotSdk

/-- `LINE_SIZE` -/
def lineSize : ℕ := 256

/-- `MAXIMUM_READ` -/
def maximumRead : ℕ := 800000

/-! ## The walk back -/

/-- Where the walk has ended: `pointer_position`, the position of the file, and how many newlines
were counted. -/
structure Scan where
  pointerPosition : ℕ
  filePosition : ℕ
  linesRead : ℕ
deriving DecidableEq

/-- The first loop of `get_last_lines`, on a file that ends at `newEnd`. -/
def scanBack (content : List Char) (numLines : ℤ) (oldEnd newEnd : ℕ) : ℕ → ℕ → ℕ → Scan
  | 0, filePosition, linesRead => ⟨0, filePosition, linesRead⟩
  | pointer + 1, filePosition, linesRead =>
    if (linesRead : ℤ) < numLines then
      -- `fseek` to `pointer`
      if maximumRead < newEnd - pointer ∨ pointer < oldEnd then ⟨pointer, pointer, linesRead⟩
      -- `fgetc` goes one position on
      else if content[pointer]? = some '\n' then
        scanBack content numLines oldEnd newEnd pointer (pointer + 1) (linesRead + 1)
      else scanBack content numLines oldEnd newEnd pointer (pointer + 1) linesRead
    else ⟨pointer + 1, filePosition, linesRead⟩

/-! ## The lines -/

/-- The second loop of `get_last_lines`: the pieces that it reads. A turn with no line left to
read calls `fgets` once more and drops what it gets. -/
def readLines : ℕ → List Char → List (List Char)
  | 0, _ => []
  | _ + 1, [] => []
  | lines + 1, c :: rest =>
    (fgetsFrom (lineSize - 1) (c :: rest)).1 ::
      readLines lines (fgetsFrom (lineSize - 1) (c :: rest)).2

/-- The array that `get_last_lines` returns, as the list of its strings, and the counters that
it sets. -/
structure LastLines where
  strings : List CString
  numberOfLinesRead : ℕ
  sizeOfLogRead : ℕ

/-- The last string of the array. -/
def summary (numberOfLinesRead sizeOfLogRead : ℕ) : CString :=
  "Number of lines read: ".toList ++ intText numberOfLinesRead ++ " Size of log read: ".toList ++
    intText sizeOfLogRead ++ " KB".toList

/-- The walk of `get_last_lines` from the end of the file. -/
def scanFile (content : List Char) (numLines : ℤ) (oldEnd : ℕ) : Scan :=
  scanBack content numLines oldEnd content.length content.length content.length 0

/-- `get_last_lines`, on a file with the given content to which `growth` is appended between the
two loops. -/
def getLastLines (content growth : List Char) (numLines : ℤ) (oldEnd : ℕ) : LastLines :=
  let scan := scanFile content numLines oldEnd
  let sizeOfLogRead := (content.length - scan.pointerPosition) / 1000
  { strings := (readLines scan.linesRead ((content ++ growth).drop scan.filePosition)).map cstr ++
      [summary scan.linesRead sizeOfLogRead]
    numberOfLinesRead := scan.linesRead
    sizeOfLogRead }

/-! ## Files that consist of lines -/

/-- A line that `fgets` reads as a whole. -/
def IsLine (line : List Char) : Prop :=
  ∃ body, line = body ++ ['\n'] ∧ '\n' ∉ body ∧ body.length < lineSize - 1

theorem IsLine.cons {c : Char} {rest : List Char} (h : IsLine (c :: rest)) (hne : c ≠ '\n') :
    IsLine rest := by
  obtain ⟨body, heq, hbody, hlength⟩ := h
  cases body with
  | nil =>
    simp only [List.nil_append, List.cons.injEq] at heq
    exact absurd heq.1 hne
  | cons c' body =>
    simp only [List.cons_append, List.cons.injEq] at heq
    refine ⟨body, heq.2, fun hmem => hbody (List.mem_cons_of_mem _ hmem), ?_⟩
    rw [List.length_cons] at hlength
    omega

theorem IsLine.newline {rest : List Char} (h : IsLine ('\n' :: rest)) : rest = [] := by
  obtain ⟨body, heq, hbody, -⟩ := h
  cases body with
  | nil => exact (List.cons.inj heq).2
  | cons c body =>
    rw [← (List.cons.inj heq).1] at hbody
    exact absurd List.mem_cons_self hbody

/-- A line that fits the buffer is read with its newline. -/
theorem fgetsFrom_body {body rest : List Char} {room : ℕ} (hbody : '\n' ∉ body)
    (hroom : body.length < room) :
    fgetsFrom room (body ++ '\n' :: rest) = (body ++ ['\n'], rest) := by
  induction body generalizing room with
  | nil =>
    obtain ⟨room, rfl⟩ : ∃ k, room = k + 1 := ⟨room - 1, by simp at hroom; omega⟩
    rfl
  | cons c body ih =>
    obtain ⟨room, rfl⟩ : ∃ k, room = k + 1 := ⟨room - 1, by simp at hroom; omega⟩
    obtain ⟨hfirst, hrest⟩ := not_or.mp (mt List.mem_cons.mpr hbody)
    have hne : c ≠ '\n' := Ne.symm hfirst
    have hshort : body.length < room := by
      rw [List.length_cons] at hroom
      omega
    rw [List.cons_append, fgetsFrom, if_neg hne, ih hrest hshort]
    rfl

/-- Lines are read one after the other. -/
theorem readLines_cons {line : List Char} (hline : IsLine line) (rest : List Char) (n : ℕ) :
    readLines (n + 1) (line ++ rest) = line :: readLines n rest := by
  obtain ⟨body, rfl, hbody, hlength⟩ := hline
  have hfgets : fgetsFrom (lineSize - 1) (body ++ ['\n'] ++ rest) = (body ++ ['\n'], rest) := by
    rw [List.append_assoc]
    exact fgetsFrom_body hbody hlength
  obtain ⟨c, tail, hshape⟩ : ∃ c tail, body ++ ['\n'] ++ rest = c :: tail := by
    apply List.exists_cons_of_ne_nil
    simp
  rw [hshape] at hfgets ⊢
  rw [readLines, hfgets]

/-- Lines are read one by one. -/
theorem readLines_flatten {lines : List (List Char)} (hlines : ∀ line ∈ lines, IsLine line)
    (n : ℕ) : readLines n lines.flatten = lines.take n := by
  induction lines generalizing n with
  | nil => cases n <;> rfl
  | cons line lines ih =>
    cases n with
    | zero => rfl
    | succ n =>
      obtain ⟨hline, hrest⟩ := List.forall_mem_cons.mp hlines
      rw [List.flatten_cons, readLines_cons hline, ih hrest, List.take_succ_cons]

/-! ## The walk over lines -/

section Scan

variable {content before line after body : List Char} {numLines : ℤ}
  {oldEnd newEnd filePosition linesRead : ℕ}

/-- One byte that is no newline. -/
theorem scanBack_char {c : Char} (hcontent : content = before ++ c :: after) (hc : c ≠ '\n')
    (hlines : (linesRead : ℤ) < numLines) (hread : newEnd - before.length ≤ maximumRead)
    (hold : oldEnd ≤ before.length) :
    scanBack content numLines oldEnd newEnd (before.length + 1) filePosition linesRead =
      scanBack content numLines oldEnd newEnd before.length (before.length + 1) linesRead := by
  have hget : content[before.length]? = some c := by simp [hcontent]
  rw [scanBack, if_pos hlines, if_neg (by omega), hget, if_neg (by simpa using hc)]

/-- One newline. -/
theorem scanBack_newline (hcontent : content = before ++ '\n' :: after)
    (hlines : (linesRead : ℤ) < numLines) (hread : newEnd - before.length ≤ maximumRead)
    (hold : oldEnd ≤ before.length) :
    scanBack content numLines oldEnd newEnd (before.length + 1) filePosition linesRead =
      scanBack content numLines oldEnd newEnd before.length (before.length + 1)
        (linesRead + 1) := by
  have hget : content[before.length]? = some '\n' := by simp [hcontent]
  rw [scanBack, if_pos hlines, if_neg (by omega), hget, if_pos rfl]

/-- The bytes of a line before its newline. -/
theorem scanBack_body (hcontent : content = before ++ body ++ after) (hbody : '\n' ∉ body)
    (hlines : (linesRead : ℤ) < numLines) (hread : newEnd - before.length ≤ maximumRead)
    (hold : oldEnd ≤ before.length) :
    scanBack content numLines oldEnd newEnd (before.length + body.length)
        (before.length + body.length + 1) linesRead =
      scanBack content numLines oldEnd newEnd before.length (before.length + 1) linesRead := by
  induction body using List.reverseRecOn generalizing after with
  | nil => rfl
  | append_singleton body c ih =>
    have hc : c ≠ '\n' := by
      rintro rfl
      exact hbody (by simp)
    have hcontent' : content = (before ++ body) ++ c :: after := by simp [hcontent]
    have hlength : before.length + (body ++ [c]).length = (before ++ body).length + 1 := by
      simp [Nat.add_assoc]
    rw [hlength, scanBack_char hcontent' hc hlines (by rw [List.length_append]; omega)
      (by rw [List.length_append]; omega), List.length_append]
    have hbefore : content = before ++ body ++ c :: after := by simp [hcontent]
    exact ih hbefore fun hmem => hbody (List.mem_append_left _ hmem)

/-- A line, if more newlines are asked for. -/
theorem scanBack_line (hcontent : content = before ++ line ++ after) (hline : IsLine line)
    (hlines : (linesRead : ℤ) + 1 < numLines) (hread : newEnd - before.length ≤ maximumRead)
    (hold : oldEnd ≤ before.length) :
    scanBack content numLines oldEnd newEnd (before ++ line).length filePosition linesRead =
      scanBack content numLines oldEnd newEnd before.length (before.length + 1)
        (linesRead + 1) := by
  obtain ⟨body, rfl, hbody, -⟩ := hline
  have hnewline : content = (before ++ body) ++ '\n' :: after := by simp [hcontent]
  have hlength : (before ++ (body ++ ['\n'])).length = (before ++ body).length + 1 := by
    simp [Nat.add_assoc]
  rw [hlength, scanBack_newline hnewline (by omega) (by rw [List.length_append]; omega)
    (by rw [List.length_append]; omega), List.length_append]
  have hbefore : content = before ++ body ++ '\n' :: after := by simp [hcontent]
  refine scanBack_body hbefore hbody ?_ hread hold
  push_cast
  exact hlines

/-- A line, if its newline is the last one asked for: the walk ends at it. -/
theorem scanBack_last (hcontent : content = before ++ line ++ after) (hline : IsLine line)
    (hlines : (linesRead : ℤ) + 1 = numLines) (hread : newEnd - before.length ≤ maximumRead)
    (hold : oldEnd ≤ before.length) :
    (scanBack content numLines oldEnd newEnd (before ++ line).length filePosition
      linesRead).filePosition = (before ++ line).length ∧
    (scanBack content numLines oldEnd newEnd (before ++ line).length filePosition
      linesRead).linesRead = linesRead + 1 := by
  obtain ⟨body, rfl, hbody, -⟩ := hline
  have hnewline : content = (before ++ body) ++ '\n' :: after := by simp [hcontent]
  have hlength : (before ++ (body ++ ['\n'])).length = (before ++ body).length + 1 := by
    simp [Nat.add_assoc]
  rw [hlength, scanBack_newline hnewline (by omega) (by rw [List.length_append]; omega)
    (by rw [List.length_append]; omega)]
  cases hposition : (before ++ body).length with
  | zero => exact ⟨rfl, rfl⟩
  | succ k =>
    rw [scanBack, if_neg (by push_cast; omega)]
    exact ⟨rfl, rfl⟩

/-- Lines, if more newlines are asked for. -/
theorem scanBack_lines {lines : List (List Char)}
    (hcontent : content = before ++ lines.flatten ++ after)
    (hall : ∀ line ∈ lines, IsLine line) (hlines : (linesRead : ℤ) + lines.length < numLines)
    (hread : newEnd - before.length ≤ maximumRead) (hold : oldEnd ≤ before.length) :
    scanBack content numLines oldEnd newEnd (before ++ lines.flatten).length filePosition
        linesRead =
      scanBack content numLines oldEnd newEnd before.length
        (if lines = [] then filePosition else before.length + 1) (linesRead + lines.length) := by
  induction lines using List.reverseRecOn generalizing after filePosition linesRead with
  | nil => simp
  | append_singleton lines line ih =>
    have hline : IsLine line := hall line (by simp)
    have hrest : ∀ l ∈ lines, IsLine l := fun l hl => hall l (List.mem_append_left _ hl)
    have hcontent' : content = (before ++ lines.flatten) ++ line ++ after := by simp [hcontent]
    have hbefore : content = before ++ lines.flatten ++ (line ++ after) := by simp [hcontent]
    have hlength : (before ++ (lines ++ [line]).flatten) = (before ++ lines.flatten) ++ line := by
      simp
    rw [List.length_append, List.length_singleton] at hlines
    rw [hlength, scanBack_line hcontent' hline (by push_cast at hlines; omega)
      (by rw [List.length_append]; omega) (by rw [List.length_append]; omega),
      ih hbefore hrest (by push_cast at hlines ⊢; omega)]
    have hcount : linesRead + 1 + lines.length = linesRead + (lines ++ [line]).length := by
      simp
      omega
    have hposition : (if lines = [] then (before ++ lines.flatten).length + 1
        else before.length + 1) = before.length + 1 := by
      split
      · rename_i hnil
        simp [hnil]
      · rfl
    rw [hcount, hposition, if_neg (show lines ++ [line] ≠ [] by simp)]

end Scan

/-! ## What is returned -/

/-- The strings that are returned, apart from the summary. -/
def LastLines.lines (result : LastLines) : List CString := result.strings.dropLast

/-- The lines returned are read from the position that the scan has found. -/
theorem lines_getLastLines (content growth : List Char) (numLines : ℤ) (oldEnd : ℕ) :
    (getLastLines content growth numLines oldEnd).lines =
      (readLines (scanFile content numLines oldEnd).linesRead
        ((content ++ growth).drop (scanFile content numLines oldEnd).filePosition)).map cstr := by
  rw [LastLines.lines, getLastLines, List.dropLast_concat]

section Lines

variable {content before : List Char} {region : List (List Char)} {n : ℤ}

/-- As many lines as asked for, or more: the walk ends behind the newline of the first line that
should be returned, so that this line is missing. -/
theorem scanFile_count {first rest : List (List Char)} {line : List Char}
    (hcontent : content = before ++ first.flatten ++ line ++ rest.flatten)
    (hline : IsLine line) (hrest : ∀ l ∈ rest, IsLine l) (hn : (rest.length : ℤ) + 1 = n)
    (hread : content.length - before.length ≤ maximumRead) :
    (scanFile content n before.length).filePosition =
      (before ++ first.flatten ++ line).length ∧
    (scanFile content n before.length).linesRead = rest.length + 1 := by
  have hlength := congrArg List.length hcontent
  simp only [List.length_append] at hlength
  have hwalk : scanBack content n before.length content.length
      (before ++ first.flatten ++ line ++ rest.flatten).length content.length 0 =
        scanBack content n before.length content.length (before ++ first.flatten ++ line).length
          (if rest = [] then content.length else (before ++ first.flatten ++ line).length + 1)
          (0 + rest.length) := by
    have hall : content = before ++ first.flatten ++ line ++ rest.flatten ++ [] := by
      rw [List.append_nil]
      exact hcontent
    apply scanBack_lines hall hrest
    · push_cast
      omega
    · simp only [List.length_append]
      omega
    · simp only [List.length_append]
      omega
  rw [← hcontent, Nat.zero_add] at hwalk
  rw [scanFile, hwalk]
  apply scanBack_last hcontent hline hn
  · simp only [List.length_append]
    omega
  · simp only [List.length_append]
    omega

/-- Fewer lines than asked for: the walk goes on to the beginning of the region. -/
theorem scanFile_all (hcontent : content = before ++ region.flatten)
    (hregion : ∀ l ∈ region, IsLine l) (hne : region ≠ []) (hn : (region.length : ℤ) < n)
    (hread : content.length - before.length ≤ maximumRead) :
    (scanFile content n before.length).filePosition =
      (if before = [] then 1 else before.length - 1) ∧
    (scanFile content n before.length).linesRead = region.length := by
  have hwalk : scanBack content n before.length content.length
      (before ++ region.flatten).length content.length 0 =
        scanBack content n before.length content.length before.length
          (if region = [] then content.length else before.length + 1) (0 + region.length) := by
    have hall : content = before ++ region.flatten ++ [] := by
      rw [List.append_nil]
      exact hcontent
    apply scanBack_lines hall hregion
    · push_cast
      omega
    · exact hread
    · exact Nat.le_refl _
  rw [← hcontent, if_neg hne, Nat.zero_add] at hwalk
  rw [scanFile, hwalk]
  by_cases hbefore : before = []
  · rw [if_pos hbefore, hbefore]
    exact ⟨rfl, rfl⟩
  -- one byte more is looked for, and the walk ends before it
  · obtain ⟨k, hk⟩ : ∃ k, before.length = k + 1 :=
      ⟨before.length - 1, by have := List.length_pos_iff.mpr hbefore; omega⟩
    rw [if_neg hbefore, hk, scanBack, if_pos hn, if_pos (by omega)]
    exact ⟨rfl, rfl⟩

/-- An empty region. -/
theorem scanFile_none (hn : 1 ≤ n) : (scanFile before n before.length).linesRead = 0 := by
  unfold scanFile
  cases hlength : before.length with
  | zero => rfl
  | succ k => rw [scanBack, if_pos (by push_cast; omega), if_pos (by omega)]

end Lines

/-! ## When the lines are right -/

/-- The region that begins at the old end consists of the lines `region`: the last `n` of them
are returned, or all if there are fewer, as they are, and they are counted right. -/
def ReturnsLast (content : List Char) (n : ℤ) (oldEnd : ℕ) (region : List (List Char)) : Prop :=
  (getLastLines content [] n oldEnd).lines = region.drop (region.length - n.toNat) ∧
    (getLastLines content [] n oldEnd).numberOfLinesRead =
      (getLastLines content [] n oldEnd).lines.length

section Right

variable {before region : List (List Char)} {n : ℤ}

theorem IsLine.ne_nil {line : List Char} (h : IsLine line) : line ≠ [] := by
  obtain ⟨body, rfl, -⟩ := h
  simp

/-- The file ends in a newline before the region, if there is something before it. -/
theorem drop_before (hbefore : ∀ l ∈ before, IsLine l) (hne : before ≠ []) (rest : List Char) :
    (before.flatten ++ rest).drop (before.flatten.length - 1) = '\n' :: rest := by
  obtain ⟨first, line, rfl⟩ : ∃ first line, before = first ++ [line] :=
    ⟨before.dropLast, before.getLast hne, (List.dropLast_concat_getLast hne).symm⟩
  obtain ⟨body, rfl, -⟩ := hbefore line (by simp)
  have hshape : (first ++ [body ++ ['\n']]).flatten = (first.flatten ++ body) ++ ['\n'] := by
    simp
  rw [hshape, List.length_append, List.length_singleton, Nat.add_sub_cancel, List.append_assoc,
    List.drop_left]
  rfl

/-- A list that is itself shifted by one newline consists of newlines. -/
theorem shifted_eq_iff (lines : List (List Char)) :
    ((['\n'] :: lines).map cstr).take lines.length = lines ↔ ∀ line ∈ lines, line = ['\n'] := by
  induction lines with
  | nil => simp
  | cons line lines ih =>
    have hnewline : cstr ['\n'] = ['\n'] := rfl
    rw [List.map_cons, List.length_cons, List.take_succ_cons, hnewline, List.cons.injEq,
      List.forall_mem_cons]
    constructor
    · rintro ⟨rfl, hrest⟩
      exact ⟨rfl, ih.mp hrest⟩
    · rintro ⟨rfl, hrest⟩
      exact ⟨rfl, ih.mpr hrest⟩

/-- Nothing new is the last of no lines. -/
theorem returnsLast_nil (hn : 1 ≤ n) :
    ReturnsLast before.flatten n before.flatten.length [] := by
  have hzero : (getLastLines before.flatten [] n before.flatten.length).lines = [] := by
    rw [lines_getLastLines, scanFile_none hn]
    rfl
  refine ⟨hzero.trans List.drop_nil.symm, ?_⟩
  rw [hzero]
  exact scanFile_none hn

/-- If there are as many lines as asked for, one line too few is returned. -/
theorem not_returnsLast_of_le (before : List (List Char)) (hregion : ∀ l ∈ region, IsLine l)
    (hn : 1 ≤ n) (hle : n ≤ region.length) (hread : region.flatten.length ≤ maximumRead) :
    ¬ ReturnsLast (before ++ region).flatten n before.flatten.length region := by
  rintro ⟨hlines, -⟩
  -- the first line that should be returned, and the lines after it
  have hlt : region.length - n.toNat < region.length := by omega
  obtain ⟨line, rest, hdrop⟩ : ∃ line rest, region.drop (region.length - n.toNat) = line :: rest :=
    List.exists_cons_of_ne_nil (by rw [ne_eq, List.drop_eq_nil_iff]; omega)
  have hsplit : region.take (region.length - n.toNat) ++ line :: rest = region := by
    rw [← hdrop, List.take_append_drop]
  have hlength : rest.length + 1 = n.toNat := by
    rw [← List.length_cons (a := line), ← hdrop, List.length_drop]
    omega
  have hmem : ∀ l ∈ line :: rest, IsLine l := by
    intro l hl
    rw [← hdrop] at hl
    exact hregion l (List.mem_of_mem_drop hl)
  obtain ⟨hline, hrest⟩ := List.forall_mem_cons.mp hmem
  have hcontent : (before ++ region).flatten = before.flatten ++
      (region.take (region.length - n.toNat)).flatten ++ line ++ rest.flatten := by
    have hflatten := congrArg List.flatten hsplit
    rw [List.flatten_append, List.flatten_cons] at hflatten
    rw [List.flatten_append, ← hflatten]
    simp only [List.append_assoc]
  have hlong : (before ++ region).flatten.length - before.flatten.length ≤ maximumRead := by
    rw [List.flatten_append, List.length_append]
    omega
  have hasked : (rest.length : ℤ) + 1 = n := by omega
  obtain ⟨hposition, hcount⟩ := scanFile_count hcontent hline hrest hasked hlong
  rw [lines_getLastLines, hposition, hcount, List.append_nil, hcontent, List.drop_left,
    readLines_flatten hrest, hdrop] at hlines
  have hshort := congrArg List.length hlines
  simp at hshort

/-- From the beginning of the file, the first byte is missing. -/
theorem not_returnsLast_of_start (hregion : ∀ l ∈ region, IsLine l) (hne : region ≠ [])
    (hlt : (region.length : ℤ) < n) (hread : region.flatten.length ≤ maximumRead) :
    ¬ ReturnsLast region.flatten n 0 region := by
  rintro ⟨hlines, -⟩
  have hlong : region.flatten.length - ([] : List Char).length ≤ maximumRead := by
    simp only [List.length_nil]
    omega
  obtain ⟨hposition, hcount⟩ := scanFile_all (List.nil_append _).symm hregion hne hlt hlong
  have hall : region.length - n.toNat = 0 := by omega
  rw [List.length_nil, if_pos rfl] at hposition
  rw [List.length_nil] at hcount
  rw [lines_getLastLines, hposition, hcount, List.append_nil, hall, List.drop_zero] at hlines
  obtain ⟨line, rest, rfl⟩ := List.exists_cons_of_ne_nil hne
  obtain ⟨hline, hrest⟩ := List.forall_mem_cons.mp hregion
  obtain ⟨c, tail, rfl⟩ := List.exists_cons_of_ne_nil hline.ne_nil
  by_cases hc : c = '\n'
  · obtain rfl : tail = [] := by
      rw [hc] at hline
      exact hline.newline
    have hshape : ([c] :: rest).flatten.drop 1 = rest.flatten := rfl
    rw [hshape, readLines_flatten hrest] at hlines
    have hshort := congrArg List.length hlines
    simp at hshort
  · have htail : IsLine tail := hline.cons hc
    have hshape : ((c :: tail) :: rest).flatten.drop 1 = (tail :: rest).flatten := rfl
    rw [hshape, readLines_flatten (List.forall_mem_cons.mpr ⟨htail, hrest⟩), List.length_cons,
      List.take_succ_cons, List.map_cons, List.cons.injEq] at hlines
    have hle : (cstr tail).length ≤ tail.length := (List.takeWhile_prefix _).length_le
    rw [hlines.1, List.length_cons] at hle
    omega

/-- From the old end on, the newline before the region is returned, and the last line is not. -/
theorem returnsLast_iff_of_end (hbefore : ∀ l ∈ before, IsLine l) (hne : before ≠ [])
    (hregion : ∀ l ∈ region, IsLine l) (hsome : region ≠ []) (hlt : (region.length : ℤ) < n)
    (hread : region.flatten.length ≤ maximumRead) :
    ReturnsLast (before ++ region).flatten n before.flatten.length region ↔
      ∀ line ∈ region, line = ['\n'] := by
  have hlong : (before ++ region).flatten.length - before.flatten.length ≤ maximumRead := by
    rw [List.flatten_append, List.length_append]
    omega
  have hnonempty : before.flatten ≠ [] := by
    intro hnil
    obtain ⟨line, rest, rfl⟩ := List.exists_cons_of_ne_nil hne
    have hline := (List.forall_mem_cons.mp hbefore).1.ne_nil
    simp [hline] at hnil
  obtain ⟨hposition, hcount⟩ := scanFile_all List.flatten_append hregion hsome hlt hlong
  rw [if_neg hnonempty] at hposition
  have hall : region.length - n.toNat = 0 := by omega
  have hnewline : IsLine ['\n'] := ⟨[], rfl, by simp, by decide⟩
  have hshape : '\n' :: region.flatten = (['\n'] :: region).flatten := rfl
  have hlines : (getLastLines (before ++ region).flatten [] n before.flatten.length).lines =
      ((['\n'] :: region).map cstr).take region.length := by
    rw [lines_getLastLines, hposition, hcount, List.append_nil, List.flatten_append,
      drop_before hbefore hne, hshape,
      readLines_flatten (List.forall_mem_cons.mpr ⟨hnewline, hregion⟩), List.map_take]
  have hread : (getLastLines (before ++ region).flatten [] n
      before.flatten.length).numberOfLinesRead = region.length := hcount
  rw [ReturnsLast, hlines, hread, hall, List.drop_zero, shifted_eq_iff, List.length_take,
    List.length_map, List.length_cons, and_iff_left (by omega)]

/-- For a file of lines and an old end at the end of a line or at the beginning, with no more to
read than the limit: the lines that are returned are right if and only if there are none, or
the old end is not the beginning of the file, more lines are asked for than there are, and
all of them are empty. -/
theorem last_lines_iff (before region : List (List Char)) (hbefore : ∀ l ∈ before, IsLine l)
    (hregion : ∀ l ∈ region, IsLine l) (n : ℤ) (hn : 1 ≤ n)
    (hread : region.flatten.length ≤ maximumRead) :
    ReturnsLast (before ++ region).flatten n before.flatten.length region ↔
      region = [] ∨ (before ≠ [] ∧ (region.length : ℤ) < n ∧ ∀ line ∈ region, line = ['\n']) := by
  by_cases hnone : region = []
  · subst hnone
    rw [List.append_nil]
    exact ⟨fun _ => .inl rfl, fun _ => returnsLast_nil hn⟩
  · by_cases hlt : (region.length : ℤ) < n
    · by_cases hstart : before = []
      · subst hstart
        rw [List.nil_append]
        have hnot := not_returnsLast_of_start hregion hnone hlt hread
        exact ⟨fun h => absurd h hnot, fun h => by simp [hnone] at h⟩
      · rw [returnsLast_iff_of_end hbefore hstart hregion hnone hlt hread]
        simp [hnone, hstart, hlt]
    · have hnot := not_returnsLast_of_le before hregion hn (Int.not_lt.mp hlt) hread
      exact ⟨fun h => absurd h hnot, fun h => by simp [hnone, hlt] at h⟩

end Right

instance (content : List Char) (n : ℤ) (oldEnd : ℕ) (region : List (List Char)) :
    Decidable (ReturnsLast content n oldEnd region) := inferInstanceAs (Decidable (_ ∧ _))

/-- An empty line after another one. -/
theorem last_lines_empty : ReturnsLast "a\n\n".toList 2 2 [['\n']] := by
  have hline : ∀ body : List Char, '\n' ∉ body → body.length < lineSize - 1 →
      ∀ l ∈ [body ++ ['\n']], IsLine l := by
    intro body hbody hlength l hl
    rw [List.mem_singleton.mp hl]
    exact ⟨body, rfl, hbody, hlength⟩
  exact (last_lines_iff [['a', '\n']] [['\n']] (hline ['a'] (by simp) (by decide))
    (hline [] (by simp) (by decide)) 2 (by decide) (by decide)).mpr
    (.inr ⟨by simp, by decide, by simp⟩)

/-- A file of two lines: if the last one is asked for, nothing is returned, and if more lines are
asked for, the first line has lost its first byte. -/
theorem last_lines_wrong :
    ¬ ReturnsLast "ab\ncd\n".toList 1 0 ["ab\n".toList, "cd\n".toList] ∧
    ¬ ReturnsLast "ab\ncd\n".toList 5 0 ["ab\n".toList, "cd\n".toList] ∧
    ¬ ReturnsLast "ab\ncd\n".toList 5 3 ["cd\n".toList] := by
  decide +kernel

/-! ## Where the bytes come from -/

/-- The pieces of the file that `get_last_lines` makes strings of. -/
def lastPieces (content growth : List Char) (numLines : ℤ) (oldEnd : ℕ) : List (List Char) :=
  readLines (scanFile content numLines oldEnd).linesRead
    ((content ++ growth).drop (scanFile content numLines oldEnd).filePosition)

/-- The strings returned are the pieces up to their first NUL. -/
theorem strings_getLastLines (content growth : List Char) (numLines : ℤ) (oldEnd : ℕ) :
    (getLastLines content growth numLines oldEnd).lines =
      (lastPieces content growth numLines oldEnd).map cstr :=
  lines_getLastLines content growth numLines oldEnd

/-- The pieces follow each other in the file. -/
theorem readLines_begins (n : ℕ) (s : List Char) : (readLines n s).flatten <+: s := by
  induction n generalizing s with
  | zero => exact List.nil_prefix
  | succ n ih =>
    cases s with
    | nil => exact List.nil_prefix
    | cons c s =>
      rw [readLines, List.flatten_cons]
      obtain ⟨rest, hrest⟩ := ih (fgetsFrom (lineSize - 1) (c :: s)).2
      refine ⟨rest, ?_⟩
      rw [List.append_assoc, hrest, fgetsFrom_append]

/-- The pieces stand in the file, from the position on where the walk has ended. -/
theorem lastPieces_begins (content growth : List Char) (numLines : ℤ) (oldEnd : ℕ) :
    (lastPieces content growth numLines oldEnd).flatten <+:
      (content ++ growth).drop (scanFile content numLines oldEnd).filePosition :=
  readLines_begins _ _

/-- `fgets` does not read beyond the next newline. -/
theorem fgetsFrom_within (room : ℕ) {a : List Char} (ha : '\n' ∈ a) (b : List Char) :
    ∃ a', a = (fgetsFrom room (a ++ b)).1 ++ a' ∧ (fgetsFrom room (a ++ b)).2 = a' ++ b ∧
      a.count '\n' ≤ a'.count '\n' + 1 := by
  induction a generalizing room with
  | nil => simp at ha
  | cons c a ih =>
    cases room with
    | zero => exact ⟨c :: a, rfl, rfl, Nat.le_succ _⟩
    | succ room =>
      rw [List.cons_append, fgetsFrom]
      by_cases hc : c = '\n'
      · rw [if_pos hc]
        refine ⟨a, rfl, rfl, ?_⟩
        rw [hc, List.count_cons_self]
      · rw [if_neg hc]
        have ha' : '\n' ∈ a := (List.mem_cons.mp ha).resolve_left (Ne.symm hc)
        obtain ⟨a', hshape, hrest, hcount⟩ := ih room ha'
        refine ⟨a', ?_, hrest, ?_⟩
        · rw [List.cons_append, ← hshape]
        · rw [List.count_cons_of_ne hc]
          exact hcount

/-- With enough newlines before it, what follows is not read. -/
theorem readLines_within {n : ℕ} {a : List Char} (hn : n ≤ a.count '\n') (b : List Char) :
    (readLines n (a ++ b)).flatten.length ≤ a.length := by
  induction n generalizing a with
  | zero => exact Nat.zero_le _
  | succ n ih =>
    have ha : '\n' ∈ a := List.count_pos_iff.mp (by omega)
    obtain ⟨a', hshape, hrest, hcount⟩ := fgetsFrom_within (lineSize - 1) ha b
    obtain ⟨c, tail, hcons⟩ : ∃ c tail, a ++ b = c :: tail := by
      apply List.exists_cons_of_ne_nil
      simp [List.ne_nil_of_mem ha]
    have hlength := congrArg List.length hshape
    rw [List.length_append] at hlength
    rw [hcons] at hlength hrest ⊢
    rw [readLines, List.flatten_cons, List.length_append, hrest]
    have hle := ih (a := a') (by omega)
    omega

/-! ## Where the walk ends -/

section Walk

variable {content : List Char} {n : ℤ} {oldEnd newEnd : ℕ}

/-- The walk does not leave the file, and comes at most to the byte before the old end. -/
theorem scanBack_bounds (content : List Char) (n : ℤ) {pointer filePosition : ℕ}
    (linesRead : ℕ) (hpointer : pointer ≤ newEnd)
    (hold : oldEnd ≤ pointer) (hfile : pointer ≤ filePosition) (hnew : filePosition ≤ newEnd) :
    oldEnd ≤ (scanBack content n oldEnd newEnd pointer filePosition linesRead).filePosition + 1 ∧
    (scanBack content n oldEnd newEnd pointer filePosition linesRead).filePosition ≤ newEnd := by
  induction pointer generalizing filePosition linesRead with
  | zero =>
    rw [scanBack]
    exact ⟨by omega, hnew⟩
  | succ pointer ih =>
    rw [scanBack]
    split
    · split
      · exact ⟨hold, by show pointer ≤ newEnd; omega⟩
      · rename_i hgo
        split
        · exact ih _ (by omega) (by omega) (by omega) (by omega)
        · exact ih _ (by omega) (by omega) (by omega) (by omega)
    · exact ⟨by show oldEnd ≤ filePosition + 1; omega, hnew⟩

/-- Going back over one byte counts its newline. -/
theorem count_drop {pointer : ℕ} (hlt : pointer < content.length) :
    (content.drop pointer).count '\n' = (content.drop (pointer + 1)).count '\n' +
      if content[pointer]? = some '\n' then 1 else 0 := by
  rw [List.drop_eq_getElem_cons hlt, List.count_cons, List.getElem?_eq_getElem hlt]
  simp

/-- If fewer newlines follow the old end than asked for, and the file does not begin with one,
then at least as many newlines follow where the walk ends as were counted. -/
theorem scanBack_count {pointer filePosition linesRead : ℕ} (hpointer : pointer ≤ content.length)
    (hold : oldEnd ≤ pointer) (hfew : ((content.drop oldEnd).count '\n' : ℤ) < n)
    (hhead : content[0]? ≠ some '\n') (hlines : linesRead = (content.drop pointer).count '\n')
    (hfile : filePosition = pointer + 1 ∨ filePosition = pointer ∧ pointer = content.length) :
    (scanBack content n oldEnd newEnd pointer filePosition linesRead).linesRead ≤
      (content.drop (scanBack content n oldEnd newEnd pointer filePosition
        linesRead).filePosition).count '\n' := by
  have hmore : ∀ p, oldEnd ≤ p → ((content.drop p).count '\n' : ℤ) < n := by
    intro p hp
    have hsublist := (List.drop_sublist_drop_left content hp).count_le '\n'
    omega
  induction pointer generalizing filePosition linesRead with
  | zero =>
    rw [scanBack]
    show linesRead ≤ (content.drop filePosition).count '\n'
    rcases hfile with rfl | ⟨rfl, hend⟩
    · by_cases hempty : content = []
      · simp [hlines, hempty]
      · have hcount := count_drop (List.length_pos_iff.mpr hempty)
        rw [if_neg hhead] at hcount
        omega
    · exact Nat.le_of_eq hlines
  | succ pointer ih =>
    have hlt : pointer < content.length := by omega
    have hcount := count_drop hlt
    rw [scanBack, if_pos (by rw [hlines]; exact hmore _ hold)]
    split
    · show linesRead ≤ (content.drop pointer).count '\n'
      omega
    · rename_i hgo
      split
      · rename_i hnewline
        rw [if_pos hnewline] at hcount
        exact ih (by omega) (by omega) (by omega) (.inl rfl)
      · rename_i hnewline
        rw [if_neg hnewline] at hcount
        exact ih (by omega) (by omega) (by omega) (.inl rfl)

/-- What `get_last_lines` reads begins at most one byte before the old end; and it ends at the
end of the file as it was at the beginning of the call, if the file does not grow, or if fewer
newlines follow the old end than lines are asked for. -/
theorem lastPieces_within {growth : List Char} (hold : oldEnd ≤ content.length)
    (h : growth = [] ∨ (((content.drop oldEnd).count '\n' : ℤ) < n ∧
      content[0]? ≠ some '\n')) :
    oldEnd ≤ (scanFile content n oldEnd).filePosition + 1 ∧
    (scanFile content n oldEnd).filePosition +
      (lastPieces content growth n oldEnd).flatten.length ≤ content.length := by
  obtain ⟨hstart, hend⟩ := scanBack_bounds content n 0
    (Nat.le_refl content.length) hold (Nat.le_refl _) (Nat.le_refl _)
  refine ⟨hstart, ?_⟩
  have hdrop : (content ++ growth).drop (scanFile content n oldEnd).filePosition =
      content.drop (scanFile content n oldEnd).filePosition ++ growth :=
    List.drop_append_of_le_length hend
  have hlength : (lastPieces content growth n oldEnd).flatten.length ≤
      (content.drop (scanFile content n oldEnd).filePosition).length := by
    rw [lastPieces, hdrop]
    rcases h with rfl | ⟨hfew, hhead⟩
    · rw [List.append_nil]
      exact (readLines_begins _ _).length_le
    · apply readLines_within
      exact scanBack_count (Nat.le_refl _) hold hfew hhead (by simp) (.inr ⟨rfl, rfl⟩)
  have hlen : (content.drop (scanFile content n oldEnd).filePosition).length =
      content.length - (scanFile content n oldEnd).filePosition := List.length_drop
  have hend' : (scanFile content n oldEnd).filePosition ≤ content.length := hend
  omega

end Walk

end ZohoIotSdk
