import ZohoIotSdk.CJson.Number

/-!
# `zoho_utils.c` and the C string functions

The string helpers of the SDK, and the library functions (`strtok`, `strncat`, `snprintf`,
`fgets`) they and their callers use, on C strings as lists of bytes.
-/

namespace ZohoIotSdk

def minRetryInterval : ℤ := 2

def maxRetryInterval : ℤ := 1800

/-- A C string argument, which may be the null pointer. -/
abbrev CStringPtr := Option CString

/-- `isStringValid`: neither null nor empty. -/
def isStringValid (s : CStringPtr) : Bool :=
  match s with
  | none => false
  | some t => decide (t ≠ [])

/-- `isspace` in the C locale. -/
def isspace (c : Char) : Bool :=
  c = ' ' || c = '\t' || c = '\n' || c = '\x0b' || c = '\x0c' || c = '\r'

/-- `strndup`; a negative count turns into a huge unsigned one and copies everything. -/
def strndup (s : CString) (l : ℤ) : CString := if l < 0 then s else s.take l.toNat

/-- The first loop of `trim`: how long the string is without its trailing spaces. -/
def trimEnd (s : CString) : ℕ := (s.reverse.dropWhile isspace).length

/-- `trim`: the second loop moves the start forward and counts the length down. -/
def trim (s : CString) : CString :=
  let lead := (s.takeWhile isspace).length
  strndup (s.drop lead) ((trimEnd s : ℤ) - lead)

/-- `getRetryInterval`. -/
def getRetryInterval (currDelay : ℤ) : ℤ :=
  if currDelay ≤ 0 then minRetryInterval
  else if currDelay < maxRetryInterval then currDelay * 2
  else maxRetryInterval

/-- The tokens that repeated `strtok` calls return: `token` is the one being read. -/
def strtokFrom (delim : Char) : CString → CString → List CString
  | token, [] => if token = [] then [] else [token]
  | token, c :: cs =>
    if c = delim then
      if token = [] then strtokFrom delim [] cs else token :: strtokFrom delim [] cs
    else strtokFrom delim (token ++ [c]) cs

/-- The tokens of a string, for a single delimiter; empty ones are skipped. -/
def strtok (delim : Char) (s : CString) : List CString := strtokFrom delim [] s

theorem strtokFrom_ne_nil {delim : Char} {token s t : CString} (h : t ∈ strtokFrom delim token s) :
    t ≠ [] := by
  induction s generalizing token with
  | nil =>
    rw [strtokFrom] at h
    split at h
    · simp at h
    · rename_i hne
      rwa [List.mem_singleton.mp h]
  | cons c cs ih =>
    rw [strtokFrom] at h
    split at h
    · split at h
      · exact ih h
      · rename_i hne
        rcases List.mem_cons.mp h with rfl | hmem
        · exact hne
        · exact ih hmem
    · exact ih h

theorem strtokFrom_notMem {delim : Char} {token s t : CString} (htoken : delim ∉ token)
    (h : t ∈ strtokFrom delim token s) : delim ∉ t := by
  induction s generalizing token with
  | nil =>
    rw [strtokFrom] at h
    split at h
    · simp at h
    · rwa [List.mem_singleton.mp h]
  | cons c cs ih =>
    rw [strtokFrom] at h
    split at h
    · split at h
      · exact ih (by simp) h
      · rcases List.mem_cons.mp h with rfl | hmem
        · exact htoken
        · exact ih (by simp) hmem
    · rename_i hc
      refine ih ?_ h
      simp only [List.mem_append, List.mem_singleton, not_or]
      exact ⟨htoken, fun heq => hc heq.symm⟩

/-- A token is not empty and does not contain the delimiter. -/
theorem strtok_token {delim : Char} {s t : CString} (h : t ∈ strtok delim s) :
    t ≠ [] ∧ delim ∉ t :=
  ⟨strtokFrom_ne_nil h, strtokFrom_notMem (by simp) h⟩

/-- `strncat(buf, s, cap - strlen(buf) - 1)` on a buffer of `cap` bytes. -/
def strncat (cap : ℕ) (buf s : CString) : CString := buf ++ s.take (cap - buf.length - 1)

/-- What `snprintf` leaves in a buffer of `cap` bytes. -/
def snprintf (cap : ℕ) (text : CString) : CString := text.take (cap - 1)

/-- What `fgets` reads with `room` bytes left, and what it leaves. -/
def fgetsFrom : ℕ → List Char → List Char × List Char
  | 0, rest => ([], rest)
  | _ + 1, [] => ([], [])
  | room + 1, c :: rest =>
    if c = '\n' then ([c], rest)
    else ((c :: (fgetsFrom room rest).1), (fgetsFrom room rest).2)

/-- What is read and what is left make up the text. -/
theorem fgetsFrom_append (room : ℕ) (s : List Char) :
    (fgetsFrom room s).1 ++ (fgetsFrom room s).2 = s := by
  induction s generalizing room with
  | nil => cases room <;> rfl
  | cons c s ih =>
    cases room with
    | zero => rfl
    | succ room =>
      rw [fgetsFrom]
      split
      · rfl
      · rw [List.cons_append, ih]

end ZohoIotSdk
