import ZohoIotSdk.Files.Moves
import ZohoIotSdk.Log.Rotation

/-!
# How log files are moved

Whatever library calls fail during a call of `log_log`, and also if it goes on in `./`, a log
file is only given names of a higher rank (`logLog_moves`): the number in the name increases. The
files that are overwritten are compressed ones.
-/

namespace ZohoIotSdk

open Files (Directory)
open Files.Directory

/-! ## The rank of a name -/

/-- One more byte of a name. -/
def rankByte (rank : ℕ) (c : Char) : ℕ := 10 * rank + c.toNat

/-- Names with higher numbers have a higher rank. -/
def nameRank (name : CString) : ℕ := name.foldl rankByte 0

/-- The name of a compressed file. -/
def IsGz (name : CString) : Prop := gzFormat <:+ name

/-- A lower rank stays lower when both names go on alike. -/
theorem foldl_rankByte_lt {v w : ℕ} (h : v < w) (s : CString) :
    s.foldl rankByte v < s.foldl rankByte w := by
  induction s generalizing v w with
  | nil => exact h
  | cons c s ih =>
    apply ih
    show 10 * v + c.toNat < 10 * w + c.toNat
    omega

/-- The code of a digit character. -/
theorem toNat_digitChar {n : ℕ} (h : n < 10) : n.digitChar.toNat = 48 + n := by
  have hall : ∀ k < 10, (Nat.digitChar k).toNat = 48 + k := by decide
  exact hall n h

/-- The last digit of a number. -/
theorem foldl_toDigits (v : ℕ) {n : ℕ} (h : 10 ≤ n) : (Nat.toDigits 10 n).foldl rankByte v =
    10 * (Nat.toDigits 10 (n / 10)).foldl rankByte v + (48 + n % 10) := by
  rw [Nat.toDigits_of_base_le (by decide) h, List.foldl_append]
  show 10 * _ + (n % 10).digitChar.toNat = _
  rw [toNat_digitChar (Nat.mod_lt _ (by decide))]

/-- The rank grows with the number. -/
theorem foldl_toDigits_lt (v n : ℕ) :
    (Nat.toDigits 10 n).foldl rankByte v < (Nat.toDigits 10 (n + 1)).foldl rankByte v := by
  -- by the number without its last digit
  induction n using Nat.strongRecOn with
  | ind n ih =>
    by_cases hsmall : n + 1 < 10
    · rw [Nat.toDigits_of_lt_base (by omega), Nat.toDigits_of_lt_base hsmall]
      show 10 * v + n.digitChar.toNat < 10 * v + (n + 1).digitChar.toNat
      rw [toNat_digitChar (by omega), toNat_digitChar hsmall]
      omega
    · rw [foldl_toDigits v (show 10 ≤ n + 1 by omega)]
      by_cases hnine : n < 10
      · obtain rfl : n = 9 := by omega
        rw [Nat.toDigits_of_lt_base (by decide), Nat.toDigits_of_lt_base (by decide)]
        show 10 * v + 57 < 10 * (10 * v + 49) + 48
        omega
      · rw [foldl_toDigits v (show 10 ≤ n by omega)]
        by_cases hcarry : n % 10 = 9
        · have hdiv : (n + 1) / 10 = n / 10 + 1 := by omega
          have hlt := ih (n / 10) (by omega)
          rw [hdiv]
          omega
        · have hdiv : (n + 1) / 10 = n / 10 := by omega
          rw [hdiv]
          omega

theorem nameRank_append (s t : CString) : nameRank (s ++ t) = t.foldl rankByte (nameRank s) :=
  List.foldl_append

/-- Names keep their order when both go on alike. -/
theorem nameRank_append_lt {s t : CString} (h : nameRank s < nameRank t) (u : CString) :
    nameRank (s ++ u) < nameRank (t ++ u) := by
  rw [nameRank_append, nameRank_append]
  exact foldl_rankByte_lt h u

/-- The names in the order in which a file gets them. -/
theorem nameRank_fileName_lt (z : ZLog) (format : CString) :
    nameRank (z.fileName format) < nameRank (z.archiveName 1 format) := by
  apply nameRank_append_lt
  have hone : nameRank (z.logPath ++ z.logPrefix ++ "-".toList ++ intText 1) =
      10 * (10 * nameRank (z.logPath ++ z.logPrefix) + 45) + 49 := by
    rw [nameRank_append, nameRank_append]
    rfl
  omega

/-- A later archive has the higher rank. -/
theorem nameRank_archiveName_lt (z : ZLog) (format : CString) (i : ℕ) :
    nameRank (z.archiveName i format) < nameRank (z.archiveName (i + 1) format) := by
  have hcast : (i : ℤ) + 1 = ((i + 1 : ℕ) : ℤ) := by push_cast; rfl
  apply nameRank_append_lt
  rw [hcast, intText_natCast, intText_natCast, nameRank_append _ (Nat.toDigits 10 i),
    nameRank_append _ (Nat.toDigits 10 (i + 1))]
  exact foldl_toDigits_lt _ i

/-- A log file is no compressed file. -/
theorem not_isGz_log (name : CString) : ¬ IsGz (name ++ logFormat) := by
  rintro ⟨t, heq⟩
  have hlast := congrArg List.getLast? heq
  simp [gzFormat, logFormat] at hlast

/-! ## Rotation -/

/-- What can become of the log files. -/
abbrev FilesMove : Directory CString Char → Directory CString Char → Prop := Moves nameRank IsGz

theorem removeFile_moves (succeeds : Bool) (name : CString) (d : Directory CString Char) :
    FilesMove d (removeFile succeeds name d) := by
  unfold removeFile
  split
  · exact moves_remove name
  · exact .refl d

theorem compressAndSaveFile_moves (zl : Zlib) (ans : GzipAnswer) (source : CString)
    {compressed : CString} (hgz : IsGz compressed) (d : Directory CString Char) :
    FilesMove d (compressAndSaveFile zl ans source compressed d) := by
  have hwrite : ∀ content, FilesMove d
      ((d.openWrite compressed).2.write (d.openWrite compressed).1 content) := by
    intro content
    exact (moves_openWrite hgz).trans (moves_overwrite lookup_openWrite hgz content)
  unfold compressAndSaveFile
  split
  · simp only
    split
    · exact hwrite _
    · split
      · exact (hwrite _).trans (removeFile_moves _ _ _)
      · exact ((hwrite _).trans (removeFile_moves _ _ _)).trans (removeFile_moves _ _ _)
  · exact .refl d

theorem rotateStep_moves (zl : Zlib) (comp : Bool) (ans : LogAnswer) (z : ZLog) (i : ℕ)
    (d : Directory CString Char) : FilesMove d (rotateStep zl comp ans z i d) := by
  have hcompress : FilesMove d (if i = 0 ∧ comp = true then
      compressAndSaveFile zl ans.gzip (z.fileName logFormat) (z.fileName gzFormat) d else d) := by
    split
    · exact compressAndSaveFile_moves zl _ _ (List.suffix_append _ _) d
    · exact .refl d
  -- a file keeps its format
  have hscratch : ∀ name : CString, ∀ t : CString,
      IsGz (name ++ if comp then gzFormat else logFormat) →
      IsGz (t ++ if comp then gzFormat else logFormat) := by
    intro name t hgz
    cases comp with
    | true => exact List.suffix_append _ _
    | false => exact absurd hgz (not_isGz_log name)
  unfold rotateStep
  simp only
  split
  · refine hcompress.trans ?_
    by_cases hzero : i = 0
    · subst hzero
      rw [if_pos rfl]
      exact moves_rename (nameRank_fileName_lt z _) (hscratch _ _)
    · rw [if_neg hzero]
      exact moves_rename (nameRank_archiveName_lt z _ i) (hscratch _ _)
  · exact hcompress

theorem rotateLoop_moves (zl : Zlib) (comp : Bool) (ans : LogAnswer) (z : ZLog) (n : ℕ)
    (d : Directory CString Char) : FilesMove d (rotateLoop zl comp ans z n d) := by
  induction n generalizing d with
  | zero => exact .refl d
  | succ n ih => exact (rotateStep_moves zl comp ans z n d).trans (ih _)

/-! ## `log_log` -/

section Log

variable {b : LogBuild} {zl : Zlib} {ans : LogAnswer} {s s' : Logger}

theorem openLog_moves (succeeds : Bool) (s : Logger) :
    FilesMove s.files (openLog succeeds s).files := by
  unfold openLog
  split
  · exact moves_openAppend _
  · exact .refl s.files

theorem rotate_moves (h : rotate b zl ans s = some s') : FilesMove s.files s'.files := by
  have hopen : ∀ files : Directory CString Char,
      FilesMove files (openLog ans.openRotated { logFree s with files }).files :=
    fun files => openLog_moves _ { logFree s with files }
  unfold rotate at h
  simp only at h
  split at h
  · obtain rfl := Option.some.inj h
    exact (removeFile_moves _ _ _).trans (hopen _)
  · split at h
    · simp at h
    · obtain rfl := Option.some.inj h
      exact (rotateLoop_moves _ _ _ _ _ _).trans (hopen _)

theorem closeUnlinked_files (s : Logger) : (closeUnlinked s).files = s.files := by
  unfold closeUnlinked
  split
  · rfl
  · split
    · rfl
    · rfl

theorem ensureOpen_moves (ans : LogAnswer) (s : Logger) :
    FilesMove s.files (ensureOpen ans s).files := by
  unfold ensureOpen
  split
  · split
    · exact openLog_moves _ _
    · simp only
      split
      · exact openLog_moves _ { logFree s with zlog := _ }
      · exact .refl s.files
  · exact .refl s.files

theorem writeLine_moves {line : CString} (h : writeLine line s = some s') :
    FilesMove s.files s'.files := by
  unfold writeLine at h
  split at h
  · simp at h
  · obtain rfl := Option.some.inj h
    exact moves_append _ _

theorem logToFile_moves {call : LogCall} (h : logToFile b zl call ans s = some s') :
    FilesMove s.files s'.files := by
  unfold logToFile at h
  obtain ⟨s₁, hrotated, hwrite⟩ := Option.bind_eq_some_iff.mp h
  have hopen : FilesMove s.files (ensureOpen ans (closeUnlinked s)).files := by
    rw [← closeUnlinked_files s]
    exact ensureOpen_moves ans _
  have hrotate : FilesMove (ensureOpen ans (closeUnlinked s)).files s₁.files := by
    split at hrotated
    · exact rotate_moves hrotated
    · obtain rfl := Option.some.inj hrotated
      exact .refl _
  exact (hopen.trans hrotate).trans (writeLine_moves hwrite)

/-- One call of `log_log`. -/
theorem logLog_moves {call : LogCall} (h : logLog b zl call ans s = some s') :
    FilesMove s.files s'.files := by
  by_cases hwrites : s.Writes call
  · obtain ⟨out, hlog⟩ := logLog_of_writes b zl ans hwrites
    rw [hlog] at h
    have hmoves := logToFile_moves h
    exact hmoves
  · obtain ⟨out, hlog⟩ := logLog_of_not_writes b zl ans hwrites
    rw [hlog] at h
    obtain rfl := Option.some.inj h
    exact .refl s.files

/-- Any number of calls. -/
theorem logAll_moves {calls : List (LogCall × LogAnswer)} (h : logAll b zl calls s = some s') :
    FilesMove s.files s'.files := by
  induction calls generalizing s with
  | nil =>
    obtain rfl := Option.some.inj h
    exact .refl s.files
  | cons c calls ih =>
    obtain ⟨s₁, hlog, hrest⟩ := Option.bind_eq_some_iff.mp h
    exact (logLog_moves hlog).trans (ih hrest)

end Log

end ZohoIotSdk
