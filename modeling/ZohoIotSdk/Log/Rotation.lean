import ZohoIotSdk.Files.Rolling
import ZohoIotSdk.Log.Logger

/-!
# Rotation of the log files

The log files of a logger, and what the operations of `log_log` do to them. `Stores` relates
the directory to a rolling log (`Files.Rolling`): the current file holds the current lines, and
the file number `i` the `i`-th archive, compressed or not. The loop that renames the files from
the last one down is the rotation of the rolling log, because the archives have no gaps.
-/

namespace ZohoIotSdk

open Files (Directory Rolling)

/-! ## The names -/

/-- The files with which a logger can have to do. -/
inductive LogFile where
  | current
  /-- The compressed file before it is given a number. -/
  | compressed
  | archive (comp : Bool) (i : ℕ)
deriving DecidableEq

/-- The end of the name. -/
def LogFile.tail : LogFile → CString
  | current => logFormat
  | compressed => gzFormat
  | archive comp i => "-".toList ++ intText i ++ if comp then gzFormat else logFormat

def LogFile.name (z : ZLog) (f : LogFile) : CString := z.logPath ++ z.logPrefix ++ f.tail

/-- The digits of a number end where something else begins. -/
theorem toDigits_append_inj {m n : ℕ} {c d : Char} {s t : CString} (hc : c.isDigit = false)
    (hd : d.isDigit = false)
    (h : Nat.toDigits 10 m ++ c :: s = Nat.toDigits 10 n ++ d :: t) : m = n ∧ c :: s = d :: t := by
  have htake : ∀ (k : ℕ) (e : Char) (u : CString), e.isDigit = false →
      (Nat.toDigits 10 k ++ e :: u).takeWhile Char.isDigit = Nat.toDigits 10 k := by
    intro k e u he
    rw [List.takeWhile_append_of_pos, List.takeWhile_cons_of_neg (by simp [he]), List.append_nil]
    exact fun x hx => Nat.isDigit_of_mem_toDigits (by decide) (by decide) hx
  have hdigits : Nat.toDigits 10 m = Nat.toDigits 10 n := by
    rw [← htake m c s hc, ← htake n d t hd, h]
  have heq : m = n := by
    rw [← Nat.ofDigitChars_ten_toDigits (n := m), hdigits, Nat.ofDigitChars_ten_toDigits]
  refine ⟨heq, ?_⟩
  rw [hdigits] at h
  exact List.append_cancel_left h

theorem LogFile.tail_injective : Function.Injective LogFile.tail := by
  have harchive : ∀ comp i, (LogFile.archive comp i).tail =
      '-' :: (Nat.toDigits 10 i ++ '.' :: if comp then "gz".toList else "log".toList) := by
    intro comp i
    simp only [tail, intText_natCast]
    cases comp <;> rfl
  intro f g h
  cases f with
  | current =>
    cases g with
    | current => rfl
    | compressed => simp [tail, logFormat, gzFormat] at h
    | archive comp i =>
      rw [harchive] at h
      simp [tail, logFormat] at h
  | compressed =>
    cases g with
    | current => simp [tail, logFormat, gzFormat] at h
    | compressed => rfl
    | archive comp i =>
      rw [harchive] at h
      simp [tail, gzFormat] at h
  | archive comp i =>
    rw [harchive] at h
    cases g with
    | current => simp [tail, logFormat] at h
    | compressed => simp [tail, gzFormat] at h
    | archive comp' j =>
      rw [harchive] at h
      obtain ⟨rfl, hformat⟩ := toDigits_append_inj (by decide) (by decide)
        (List.cons.inj h).2
      cases comp <;> cases comp' <;> simp at hformat ⊢

/-- Two log files have different names. -/
theorem LogFile.name_injective (z : ZLog) : Function.Injective (LogFile.name z) := by
  intro f g h
  exact tail_injective (List.append_cancel_left h)

theorem LogFile.name_inj {z : ZLog} {f g : LogFile} : f.name z = g.name z ↔ f = g :=
  (name_injective z).eq_iff

theorem LogFile.ite_name {α : Type} (z : ZLog) (f g : LogFile) (a a' : α) :
    (if f.name z = g.name z then a else a') = if f = g then a else a' := by
  simp only [name_inj]

/-! ## What can be read in the log files -/

/-- What the log files hold. -/
abbrev LogView := LogFile → Option (List Char)

def view (z : ZLog) (d : Directory CString Char) : LogView := fun f => d.read (f.name z)

section View

variable {z : ZLog} {d : Directory CString Char} {f g : LogFile} {file : ℕ}

theorem view_write (h : d.lookup (f.name z) = some file) (content : List Char) :
    view z (d.write file content) = Function.update (view z d) f (some content) := by
  funext g
  rw [view, Directory.read_write h, Function.update_apply, LogFile.ite_name]
  rfl

theorem view_append (h : d.lookup (f.name z) = some file) (line : CString) :
    view z (d.append file line) =
      Function.update (view z d) f (some (((view z d) f).getD [] ++ line)) := by
  rw [Directory.append, view_write h, view, Directory.read_of_lookup h]
  rfl

theorem view_openAppend : view z (d.openAppend (f.name z)).2 =
    Function.update (view z d) f (some ((view z d f).getD [])) := by
  funext g
  rw [view, Directory.read_openAppend, Function.update_apply, LogFile.ite_name]
  rfl

theorem view_openWrite : view z (d.openWrite (f.name z)).2 =
    Function.update (view z d) f (some []) := by
  funext g
  rw [view, Directory.read_openWrite, Function.update_apply, LogFile.ite_name]
  rfl

theorem view_remove : view z (d.remove (f.name z)) = Function.update (view z d) f none := by
  funext g
  rw [view, Directory.read_remove, Function.update_apply, LogFile.ite_name]
  rfl

theorem view_rename {content : List Char} (h : view z d f = some content) (hne : f ≠ g) :
    view z (d.rename (f.name z) (g.name z)) =
      Function.update (Function.update (view z d) f none) g (some content) := by
  obtain ⟨file, hfile, -⟩ := Option.map_eq_some_iff.mp h
  funext k
  rw [view, Directory.read_rename hfile (mt LogFile.name_inj.mp hne), Function.update_apply,
    Function.update_apply, LogFile.ite_name, LogFile.ite_name]
  rw [show d.read (f.name z) = some content from h]
  rfl

/-- Renaming a missing file changes nothing. -/
theorem rename_of_view_none (h : view z d f = none) : d.rename (f.name z) (g.name z) = d :=
  Directory.rename_of_none (Directory.read_eq_none_iff.mp h)

end View

/-! ## Compression -/

/-- Both files can be opened, no read and no write fails, the compressed file is closed without an
error, and the source can be removed. -/
structure GzipAnswer.Succeeds (ans : GzipAnswer) : Prop where
  gzopen : ans.gzopen = true
  fopen : ans.fopen = true
  fread : ∀ k, 0 < ans.fread k
  gzwrite : ∀ k, ans.gzwrite k = true
  gzclose : ans.gzclose = none
  removeSource : ans.removeSource = true

/-- With every call granted, the loop writes the rest of the source. -/
theorem compressLoop_eq {ans : GzipAnswer} (hans : ans.Succeeds) {fuel k : ℕ}
    {rest done : List Char} (hfuel : rest.length < fuel) :
    compressLoop ans fuel k rest done = (done ++ rest, true) := by
  induction fuel generalizing k rest done with
  | zero => omega
  | succ fuel ih =>
    unfold compressLoop
    have hread := hans.fread k
    have hchunk : 0 < chunk := by decide
    by_cases hnil : rest.length = 0
    · have hzero : min (ans.fread k) (min chunk rest.length) = 0 := by omega
      simp only [hzero, if_true]
      rw [List.length_eq_zero_iff.mp hnil, List.append_nil]
    · have hpos : min (ans.fread k) (min chunk rest.length) ≠ 0 := by omega
      simp only [if_neg hpos, hans.gzwrite k, if_true]
      rw [ih (by rw [List.length_drop]; omega), List.append_assoc, List.take_append_drop]

/-- The compressed file takes the place of its source. -/
theorem view_compressAndSaveFile {z : ZLog} (zl : Zlib) {ans : GzipAnswer} (hans : ans.Succeeds)
    {d : Directory CString Char} {content : List Char}
    (hcurrent : view z d .current = some content) :
    view z (compressAndSaveFile zl ans (LogFile.current.name z) (LogFile.compressed.name z) d) =
      Function.update (Function.update (view z d) .compressed (some (zl.compress content)))
        .current none := by
  have hsource : (d.openWrite (LogFile.compressed.name z)).2.read (LogFile.current.name z) =
      some content := by
    rw [Directory.read_openWrite, LogFile.ite_name, if_neg (by simp)]
    exact hcurrent
  unfold compressAndSaveFile
  simp only [hans.gzopen, hans.fopen, if_true, hsource]
  rw [compressLoop_eq hans (Nat.lt_succ_self _)]
  simp only [hans.removeSource, removeFile, if_true, GzipAnswer.closed, hans.gzclose]
  rw [view_remove, view_write Directory.lookup_openWrite, view_openWrite, List.nil_append,
    Function.update_idem]

/-! ## Moving the files up -/

/-- Everything that a call of `log_log` needs succeeds. -/
structure LogAnswer.Succeeds (ans : LogAnswer) : Prop where
  openConfigured : ans.openConfigured = true
  openRotated : ans.openRotated = true
  remove : ans.remove = true
  rename : ∀ i, ans.rename i = true
  gzip : ans.gzip.Succeeds

/-- The content of an archive. -/
def packed (zl : Zlib) (comp : Bool) (content : List Char) : List Char :=
  if comp then zl.compress content else content

/-- What an archive was made of. -/
def unpacked (zl : Zlib) (comp : Bool) (content : List Char) : Option (List Char) :=
  if comp then zl.decompress content else some content

/-- A packed text is recovered, compressed or not. -/
theorem unpacked_packed (zl : Zlib) (comp : Bool) (content : List Char) :
    unpacked zl comp (packed zl comp content) = some content := by
  cases comp with
  | false => rfl
  | true => exact zl.lossless content

section Rotate

variable {zl : Zlib} {comp : Bool} {ans : LogAnswer} {z : ZLog} {d : Directory CString Char}

/-- The last step turns the current file into the first archive. -/
theorem view_rotateStep_zero (hans : ans.Succeeds) {content : List Char}
    (hcurrent : view z d .current = some content) (hcompressed : view z d .compressed = none) :
    view z (rotateStep zl comp ans z 0 d) = Function.update
      (Function.update (view z d) .current none) (.archive comp 1)
        (some (packed zl comp content)) := by
  cases comp with
  | false =>
    have hstep : rotateStep zl false ans z 0 d =
        d.rename (LogFile.current.name z) ((LogFile.archive false 1).name z) := by
      simp [rotateStep, hans.rename, LogFile.name, LogFile.tail, ZLog.fileName, ZLog.archiveName]
    rw [hstep, view_rename hcurrent (by simp)]
    rfl
  | true =>
    have hstep : rotateStep zl true ans z 0 d =
        (compressAndSaveFile zl ans.gzip (LogFile.current.name z) (LogFile.compressed.name z)
          d).rename (LogFile.compressed.name z) ((LogFile.archive true 1).name z) := by
      simp [rotateStep, hans.rename, LogFile.name, LogFile.tail, ZLog.fileName, ZLog.archiveName]
    have hview := view_compressAndSaveFile zl hans.gzip hcurrent
    have hpacked : view z (compressAndSaveFile zl ans.gzip (LogFile.current.name z)
        (LogFile.compressed.name z) d) .compressed = some (zl.compress content) := by
      rw [hview]
      simp
    rw [hstep, view_rename hpacked (by simp), hview]
    -- the name without a number is free again
    congr 1
    funext f
    cases f with
    | current => simp
    | compressed => simp [hcompressed]
    | archive c i => simp

/-- The other steps move an archive one place up. -/
theorem rotateStep_succ (hans : ans.Succeeds) (i : ℕ) : rotateStep zl comp ans z (i + 1) d =
    d.rename ((LogFile.archive comp (i + 1)).name z) ((LogFile.archive comp (i + 2)).name z) := by
  simp [rotateStep, hans.rename, LogFile.name, LogFile.tail, ZLog.archiveName, add_assoc]

/-- An archive moves up by one; if there is none, there is none above it either. -/
theorem view_rotateStep_succ (zl : Zlib) (hans : ans.Succeeds) {i : ℕ}
    (hgapless : view z d (.archive comp (i + 1)) = none →
      view z d (.archive comp (i + 2)) = none) (f : LogFile) :
    view z (rotateStep zl comp ans z (i + 1) d) f =
      if f = .archive comp (i + 2) then view z d (.archive comp (i + 1))
      else if f = .archive comp (i + 1) then none else view z d f := by
  rw [rotateStep_succ hans]
  cases hsource : view z d (.archive comp (i + 1)) with
  | none =>
    rw [rename_of_view_none hsource]
    by_cases htarget : f = .archive comp (i + 2)
    · rw [if_pos htarget, htarget, hgapless hsource]
    · rw [if_neg htarget]
      by_cases hf : f = .archive comp (i + 1)
      · rw [if_pos hf, hf, hsource]
      · rw [if_neg hf]
  | some content =>
    rw [view_rename hsource (by simp), Function.update_apply, Function.update_apply]

/-- The files after the loop over `n - 1, ..., 0`: the current one and the first archives have
moved up by one. -/
def shifted (zl : Zlib) (comp : Bool) (n : ℕ) (v : LogView) : LogView
  | .current => if n = 0 then v .current else none
  | .compressed => v .compressed
  | .archive c 0 => v (.archive c 0)
  | .archive c (i + 1) =>
    if c = comp ∧ i < n then
      if i = 0 then (v .current).map (packed zl comp) else v (.archive c i)
    else v (.archive c (i + 1))

/-- After the last step the files stand one place up. -/
theorem shifted_one {v : LogView} {content : List Char} (hcurrent : v .current = some content) :
    Function.update (Function.update v .current none) (.archive comp 1)
      (some (packed zl comp content)) = shifted zl comp 1 v := by
  funext f
  rcases f with _ | _ | ⟨c, _ | i⟩
  · simp [shifted]
  · simp [shifted]
  · simp [shifted]
  · by_cases hfirst : c = comp ∧ i < 1
    · obtain ⟨rfl, hi⟩ := hfirst
      obtain rfl : i = 0 := by omega
      simp [shifted, hcurrent]
    · have hne : LogFile.archive c (i + 1) ≠ .archive comp 1 := by
        intro heq
        simp only [LogFile.archive.injEq] at heq
        exact hfirst ⟨heq.1, by omega⟩
      rw [shifted, if_neg hfirst, Function.update_of_ne hne, Function.update_of_ne (by simp)]

/-- The turn for the archive `m + 1` and the turns after it. -/
theorem shifted_succ {v v' : LogView} {m : ℕ} (hstep : ∀ f, v' f =
      if f = .archive comp (m + 2) then v (.archive comp (m + 1))
      else if f = .archive comp (m + 1) then none else v f) :
    shifted zl comp (m + 1) v' = shifted zl comp (m + 2) v := by
  funext f
  rcases f with _ | _ | ⟨c, _ | i⟩
  · simp [shifted]
  · simp [shifted, hstep]
  · simp [shifted, hstep]
  · rw [shifted, shifted]
    by_cases hc : c = comp
    · subst hc
      rcases Nat.lt_trichotomy i (m + 1) with hlt | rfl | hgt
      · have hcurrent : v' .current = v .current := by
          rw [hstep, if_neg (by simp), if_neg (by simp)]
        have hbelow : v' (.archive c i) = v (.archive c i) := by
          rw [hstep, if_neg (by simp; omega), if_neg (by simp; omega)]
        have hlt' : i < m + 2 := by omega
        simp only [hlt, hlt', hcurrent, hbelow, and_self, if_true]
      -- the archive that has just moved is not moved again
      · rw [if_neg (by simp), if_pos ⟨rfl, by omega⟩, if_neg (by omega), hstep, if_pos rfl]
      · rw [if_neg (by omega), if_neg (by omega), hstep, if_neg (by simp; omega),
          if_neg (by simp; omega)]
    · rw [if_neg (by simp [hc]), if_neg (by simp [hc]), hstep, if_neg (by simp [hc]),
        if_neg (by simp [hc])]

/-- The loop moves all files up, if there is a current one and the archives have no gaps. -/
theorem view_rotateLoop (hans : ans.Succeeds) {content : List Char} {n : ℕ}
    (hcurrent : view z d .current = some content) (hcompressed : view z d .compressed = none)
    (hgapless : ∀ i, i + 1 < n → view z d (.archive comp (i + 1)) = none →
      view z d (.archive comp (i + 2)) = none) :
    view z (rotateLoop zl comp ans z n d) = shifted zl comp n (view z d) := by
  induction n generalizing d with
  | zero =>
    funext f
    rcases f with _ | _ | ⟨c, _ | i⟩ <;> simp [rotateLoop, shifted]
  | succ n ih =>
    rw [rotateLoop]
    cases n with
    | zero => rw [rotateLoop, view_rotateStep_zero hans hcurrent hcompressed, shifted_one hcurrent]
    | succ m =>
      have hstep := view_rotateStep_succ zl hans (hgapless m (by omega))
      have hcurrent' : view z (rotateStep zl comp ans z (m + 1) d) .current = some content := by
        rw [hstep, if_neg (by simp), if_neg (by simp), hcurrent]
      have hcompressed' : view z (rotateStep zl comp ans z (m + 1) d) .compressed = none := by
        rw [hstep, if_neg (by simp), if_neg (by simp), hcompressed]
      rw [ih hcurrent' hcompressed' ?_, shifted_succ hstep]
      intro i hi hnone
      by_cases htop : i + 1 = m
      · rw [hstep, if_neg (by simp; omega), if_pos (by rw [← htop])]
      · rw [hstep, if_neg (by simp; omega), if_neg (by simp; omega)] at hnone ⊢
        exact hgapless i (by omega) hnone

end Rotate

/-! ## The directory and the rolling log -/

/-- The log files hold the rolling log: the lines of an archive one after the other, compressed
or not, and no other files. -/
structure Stores (zl : Zlib) (comp : Bool) (v : LogView) (r : Rolling CString) : Prop where
  current : (v .current).getD [] = r.current.flatten
  archives : ∀ i, (v (.archive comp (i + 1))).map (unpacked zl comp) =
    (r.archives[i]?).map fun lines => some lines.flatten
  absent : ∀ f, f ≠ .current → (∀ i, f ≠ .archive comp (i + 1)) → v f = none

namespace Stores

variable {zl : Zlib} {comp : Bool} {v : LogView} {r : Rolling CString}

/-- An archive file is missing exactly where the rolling log has none. -/
theorem archive_eq_none_iff (h : Stores zl comp v r) (i : ℕ) :
    v (.archive comp (i + 1)) = none ↔ r.archives.length ≤ i := by
  rw [← List.getElem?_eq_none_iff,
    ← Option.map_eq_none_iff (f := fun lines : List CString => some lines.flatten),
    ← h.archives i, Option.map_eq_none_iff]

/-- Another content of the current file. -/
theorem update_current (h : Stores zl comp v r) {content : Option (List Char)}
    {lines : List CString} (hcontent : content.getD [] = lines.flatten) :
    Stores zl comp (Function.update v .current content) { r with current := lines } := by
  refine ⟨?_, fun i => ?_, fun f hne hf => ?_⟩
  · rw [Function.update_self]
    exact hcontent
  · rw [Function.update_of_ne (by simp)]
    exact h.archives i
  · rw [Function.update_of_ne hne]
    exact h.absent f hne hf

theorem opened (h : Stores zl comp v r) :
    Stores zl comp (Function.update v .current (some ((v .current).getD []))) r :=
  h.update_current h.current

theorem write (h : Stores zl comp v r) (line : CString) :
    Stores zl comp (Function.update v .current (some ((v .current).getD [] ++ line)))
      (r.write line) := by
  apply h.update_current
  rw [Option.getD_some, h.current, List.flatten_append, List.flatten_singleton]

/-- Without archives, the current file is removed. -/
theorem removed (h : Stores zl comp v r) (hnone : r.archives.length ≤ 0) :
    Stores zl comp (Function.update v .current none) (r.rotate 0) := by
  have hempty : Stores zl comp (Function.update v .current none) { r with current := [] } :=
    h.update_current rfl
  rw [List.length_eq_zero_iff.mp (Nat.le_zero.mp hnone)] at hempty
  exact hempty

/-- Otherwise the files move up. -/
theorem rotate (h : Stores zl comp v r) {content : List Char} (hcurrent : v .current = some content)
    {n : ℕ} (hn : n ≠ 0) (hbounded : r.archives.length ≤ n) :
    Stores zl comp (shifted zl comp n v) (r.rotate n) := by
  refine ⟨?_, fun i => ?_, fun f hne hf => ?_⟩
  · rw [shifted, if_neg hn]
    rfl
  · rw [shifted, Rolling.rotate, List.getElem?_take]
    by_cases hi : i < n
    · rw [if_pos ⟨rfl, hi⟩, if_pos hi]
      cases i with
      | zero =>
        have hlines := h.current
        rw [hcurrent, Option.getD_some] at hlines
        rw [if_pos rfl, hcurrent, Option.map_some, Option.map_some, unpacked_packed, hlines]
        rfl
      | succ j =>
        rw [if_neg (by omega), h.archives j]
        rfl
    -- nothing was stored beyond the limit
    · rw [if_neg (by omega), if_neg hi, h.archives i, List.getElem?_eq_none (by omega)]
  · rcases f with _ | _ | ⟨c, _ | i⟩
    · exact absurd rfl hne
    · exact h.absent _ hne hf
    · exact h.absent _ hne hf
    · have hc : c ≠ comp := by
        rintro rfl
        exact hf i rfl
      rw [shifted, if_neg (by simp [hc])]
      exact h.absent _ hne hf

end Stores

/-! ## The logger -/

/-- What the log files of the logger hold. -/
def Logger.view (s : Logger) : LogView := ZohoIotSdk.view s.zlog s.files

/-- The limit on the number of archives. -/
def Logger.limit (s : Logger) : ℕ := s.zlog.maxRollingLogFile.toNat

/-- The files hold the end of what was written, and the file that is open, if any, is the
current one. -/
structure Rolls (b : LogBuild) (zl : Zlib) (r : Rolling CString) (s : Logger) : Prop where
  stores : Stores zl (s.compressing b) s.view r
  kept : r.Kept s.limit (s.written.map Written.line)
  opened : ∀ file, s.zlog.fp = some file → s.files.lookup s.zlog.currentLogFile = some file

/-- Nothing was configured anew. -/
structure SameSetup (s s' : Logger) : Prop where
  zlog : s'.zlog = { s.zlog with fp := s'.zlog.fp }
  compression : s'.enableLogCompression = s.enableLogCompression

theorem SameSetup.refl (s : Logger) : SameSetup s s := ⟨rfl, rfl⟩

theorem SameSetup.trans {s₁ s₂ s₃ : Logger} (h : SameSetup s₁ s₂) (h' : SameSetup s₂ s₃) :
    SameSetup s₁ s₃ := by
  refine ⟨?_, h'.compression.trans h.compression⟩
  rw [h'.zlog, h.zlog]

section Log

variable {b : LogBuild} {zl : Zlib} {r : Rolling CString} {s : Logger}

theorem sameSetup_openLog (succeeds : Bool) (s : Logger) : SameSetup s (openLog succeeds s) := by
  unfold openLog
  split
  · exact ⟨rfl, rfl⟩
  · exact ⟨rfl, rfl⟩

theorem openLog_opens (s : Logger) : (openLog true s).zlog.fp.isSome := rfl

theorem Rolls.openLog (h : Rolls b zl r s) : Rolls b zl r (openLog true s) := by
  refine ⟨?_, h.kept, fun file hfile => ?_⟩
  · show Stores zl (s.compressing b)
      (ZohoIotSdk.view s.zlog (s.files.openAppend (LogFile.current.name s.zlog)).2) r
    rw [view_openAppend]
    exact h.stores.opened
  · obtain rfl : (s.files.openAppend s.zlog.currentLogFile).1 = file := Option.some.inj hfile
    show (s.files.openAppend s.zlog.currentLogFile).2.lookup s.zlog.currentLogFile = _
    rw [Directory.lookup_openAppend, if_pos rfl]

/-- The file that is open is never one that has lost its name. -/
theorem Rolls.closeUnlinked (h : Rolls b zl r s) : closeUnlinked s = s := by
  unfold ZohoIotSdk.closeUnlinked
  cases hfp : s.zlog.fp with
  | none => rfl
  | some file => exact if_neg (Directory.nlink_ne_zero (h.opened file hfp))

/-- Whatever becomes of the files, the current one is opened again. -/
theorem Rolls.reopened {ans : LogAnswer} (hans : ans.Succeeds) {files : Directory CString Char}
    (hstores : Stores zl (s.compressing b) (ZohoIotSdk.view s.zlog files) r)
    (hkept : r.Kept s.limit (s.written.map Written.line)) :
    SameSetup s (ZohoIotSdk.openLog ans.openRotated { logFree s with files }) ∧
    (ZohoIotSdk.openLog ans.openRotated { logFree s with files }).zlog.fp.isSome ∧
    Rolls b zl r (ZohoIotSdk.openLog ans.openRotated { logFree s with files }) := by
  rw [hans.openRotated]
  refine ⟨⟨rfl, rfl⟩, rfl, Rolls.openLog ⟨hstores, hkept, ?_⟩⟩
  intro file hnone
  simp [logFree] at hnone

/-- The rotation of the logger is that of the rolling log, unless the number of archives is
negative: then nothing is moved. -/
theorem rotate_rolls {ans : LogAnswer} (h : Rolls b zl r s) (hans : ans.Succeeds)
    (hopen : s.zlog.fp.isSome) (hint : s.zlog.maxRollingLogFile ≠ -2147483648) :
    ∃ s', rotate b zl ans s = some s' ∧ SameSetup s s' ∧ s'.zlog.fp.isSome ∧
      Rolls b zl (if 0 ≤ s.zlog.maxRollingLogFile then r.rotate s.limit else r) s' := by
  obtain ⟨file, hfile⟩ := Option.isSome_iff_exists.mp hopen
  have hread := Directory.read_of_lookup (h.opened file hfile)
  have hcurrent : s.view .current = some (s.files.contents file) := hread
  unfold rotate
  by_cases hzero : s.zlog.maxRollingLogFile = 0
  · have hlimit : s.limit = 0 := by rw [Logger.limit, hzero]; rfl
    rw [if_pos (by exact hzero), if_pos (by omega), hlimit]
    refine ⟨_, rfl, Rolls.reopened hans ?_ (hlimit ▸ h.kept.rotate)⟩
    rw [removeFile, if_pos hans.remove]
    show Stores zl _ (view s.zlog (s.files.remove (LogFile.current.name s.zlog))) _
    rw [view_remove]
    exact h.stores.removed (hlimit ▸ h.kept.bounded)
  · rw [if_neg (by exact hzero), if_neg (by exact hint)]
    by_cases hneg : 0 ≤ s.zlog.maxRollingLogFile
    · have hpos : s.limit ≠ 0 := by
        rw [Logger.limit]
        omega
      rw [if_pos hneg]
      refine ⟨_, rfl, Rolls.reopened hans ?_ h.kept.rotate⟩
      show Stores zl _ (view (logFree s).zlog
        (rotateLoop zl (s.compressing b) ans (logFree s).zlog s.limit s.files)) _
      have habsent : s.view .compressed = none := h.stores.absent _ (by simp) (by simp)
      rw [view_rotateLoop (z := (logFree s).zlog) hans hcurrent habsent ?_]
      · exact h.stores.rotate hcurrent hpos h.kept.bounded
      · intro i _ hnone
        have hlength := (h.stores.archive_eq_none_iff i).mp hnone
        exact (h.stores.archive_eq_none_iff (i + 1)).mpr (by omega)
    · have hnone : s.zlog.maxRollingLogFile.toNat = 0 := by omega
      rw [if_neg hneg]
      refine ⟨_, rfl, Rolls.reopened hans ?_ h.kept⟩
      show Stores zl _ (view (logFree s).zlog (rotateLoop zl (s.compressing b) ans (logFree s).zlog
        s.zlog.maxRollingLogFile.toNat s.files)) _
      rw [hnone]
      exact h.stores

/-- The call makes `log_log` give up the current file. -/
def Logger.Rotates (s : Logger) : Prop := s.zlog.maxLogFileSize < logSize s

instance (s : Logger) : Decidable s.Rotates := inferInstanceAs (Decidable (_ < _))

/-- The rolling log after the line was written. -/
def rolledWith (s : Logger) (line : CString) (r : Rolling CString) : Rolling CString :=
  (if s.Rotates ∧ 0 ≤ s.zlog.maxRollingLogFile then r.rotate s.limit else r).write line

theorem writeLine_rolls (h : Rolls b zl r s) (hopen : s.zlog.fp.isSome) (line : CString) :
    ∃ s', writeLine line s = some s' ∧ SameSetup s s' ∧ s'.zlog.fp.isSome ∧
      Rolls b zl (r.write line) s' := by
  obtain ⟨file, hfile⟩ := Option.isSome_iff_exists.mp hopen
  unfold writeLine
  rw [hfile]
  refine ⟨_, rfl, ⟨rfl, rfl⟩, ?_, ?_, ?_, ?_⟩
  · rw [hfile]
    rfl
  · show Stores zl _ (view s.zlog (s.files.append file line)) _
    rw [view_append (f := .current) (h.opened file hfile)]
    exact h.stores.write line
  · show (r.write line).Kept s.limit (List.map Written.line (s.written ++ [_]))
    rw [List.map_append]
    exact h.kept.write line
  · exact h.opened

/-- The log file is open before its size is looked at. -/
theorem ensureOpen_rolls {ans : LogAnswer} (h : Rolls b zl r s) (hans : ans.Succeeds) :
    SameSetup s (ensureOpen ans s) ∧ (ensureOpen ans s).zlog.fp.isSome ∧
      Rolls b zl r (ensureOpen ans s) := by
  unfold ensureOpen
  split
  · rw [if_pos hans.openConfigured]
    exact ⟨sameSetup_openLog _ _, openLog_opens s, h.openLog⟩
  · rename_i hfp
    exact ⟨.refl s, Option.isSome_iff_ne_none.mpr hfp, h⟩

/-- With every call granted, the line is written behind a rotation or at once. -/
theorem logToFile_eq {call : LogCall} {ans : LogAnswer} (h : Rolls b zl r s)
    (hans : ans.Succeeds) : logToFile b zl call ans s =
      (if s.Rotates then rotate b zl ans (ensureOpen ans s) else some (ensureOpen ans s)).bind
        (writeLine (call.text ans.date)) := by
  have hmax : (ensureOpen ans s).zlog.maxLogFileSize = s.zlog.maxLogFileSize := by
    rw [(ensureOpen_rolls h hans).1.zlog]
  unfold logToFile Logger.Rotates
  simp only [h.closeUnlinked, hmax]
  rfl

theorem logToFile_rolls (call : LogCall) {ans : LogAnswer} (h : Rolls b zl r s)
    (hans : ans.Succeeds) (hint : s.Rotates → s.zlog.maxRollingLogFile ≠ -2147483648) :
    ∃ s', logToFile b zl call ans s = some s' ∧ SameSetup s s' ∧ s'.zlog.fp.isSome ∧
      Rolls b zl (rolledWith s (call.text ans.date) r) s' := by
  obtain ⟨hsetup, hopen, hrolls⟩ := ensureOpen_rolls h hans
  have hrolling : (ensureOpen ans s).zlog.maxRollingLogFile = s.zlog.maxRollingLogFile := by
    rw [hsetup.zlog]
  have hlimit : (ensureOpen ans s).limit = s.limit := by
    rw [Logger.limit, hrolling]
    rfl
  rw [logToFile_eq h hans]
  by_cases hrotates : s.Rotates
  · obtain ⟨s₁, hrotate, hsetup₁, hopen₁, hrolls₁⟩ :=
      rotate_rolls hrolls hans hopen (hrolling ▸ hint hrotates)
    obtain ⟨s₂, hwrite, hsetup₂, hopen₂, hrolls₂⟩ :=
      writeLine_rolls hrolls₁ hopen₁ (call.text ans.date)
    rw [if_pos hrotates, hrotate]
    refine ⟨s₂, hwrite, (hsetup.trans hsetup₁).trans hsetup₂, hopen₂, ?_⟩
    rw [hrolling, hlimit] at hrolls₂
    simpa only [rolledWith, hrotates, true_and] using hrolls₂
  · obtain ⟨s₂, hwrite, hsetup₂, hopen₂, hrolls₂⟩ :=
      writeLine_rolls hrolls hopen (call.text ans.date)
    rw [if_neg hrotates]
    refine ⟨s₂, hwrite, hsetup.trans hsetup₂, hopen₂, ?_⟩
    simpa only [rolledWith, hrotates, false_and, if_false] using hrolls₂

/-- The call writes a line to the log file. -/
def Logger.Writes (s : Logger) (call : LogCall) : Prop :=
  s.zlog.level ≤ call.level.toInt ∧ s.zlog.fileLog = true

instance (s : Logger) (call : LogCall) : Decidable (s.Writes call) :=
  inferInstanceAs (Decidable (_ ∧ _))

/-- A call that writes does so whatever goes to the terminal. -/
theorem logLog_of_writes (b : LogBuild) (zl : Zlib) {call : LogCall} (ans : LogAnswer)
    (hwrites : s.Writes call) :
    ∃ out, logLog b zl call ans s = logToFile b zl call ans { s with stderr := out } := by
  have hlevel : ¬ call.level.toInt < s.zlog.level := Int.not_lt.mpr hwrites.1
  unfold logLog
  rw [if_neg hlevel]
  by_cases hquiet : s.zlog.quiet = true
  · exact ⟨s.stderr, by rw [if_pos hquiet]; exact if_pos hwrites.2⟩
  · exact ⟨s.stderr ++ call.stderrText ans.time, by rw [if_neg hquiet]; exact if_pos hwrites.2⟩

/-- A call that writes no line changes nothing but the standard error. -/
theorem logLog_of_not_writes (b : LogBuild) (zl : Zlib) {call : LogCall} (ans : LogAnswer)
    (hwrites : ¬ s.Writes call) :
    ∃ out, logLog b zl call ans s = some { s with stderr := out } := by
  unfold logLog
  by_cases hlevel : call.level.toInt < s.zlog.level
  · exact ⟨s.stderr, if_pos hlevel⟩
  · have hfile : ¬ s.zlog.fileLog = true := fun hfile => hwrites ⟨Int.not_lt.mp hlevel, hfile⟩
    rw [if_neg hlevel]
    by_cases hquiet : s.zlog.quiet = true
    · exact ⟨s.stderr, by rw [if_pos hquiet]; exact if_neg hfile⟩
    · exact ⟨s.stderr ++ call.stderrText ans.time, by rw [if_neg hquiet]; exact if_neg hfile⟩

theorem Rolls.stderr (h : Rolls b zl r s) (out : CString) : Rolls b zl r { s with stderr := out } :=
  ⟨h.stores, h.kept, h.opened⟩

/-- The rolling log after a call of `log_log`. -/
def rolledAfter (s : Logger) (call : LogCall) (ans : LogAnswer) (r : Rolling CString) :
    Rolling CString :=
  if s.Writes call then rolledWith s (call.text ans.date) r else r

/-- One call of `log_log`. -/
theorem logLog_rolls {call : LogCall} {ans : LogAnswer} (h : Rolls b zl r s)
    (hans : ans.Succeeds)
    (hint : s.Writes call → s.Rotates → s.zlog.maxRollingLogFile ≠ -2147483648) :
    ∃ s', logLog b zl call ans s = some s' ∧ SameSetup s s' ∧
      (s.zlog.fp.isSome → s'.zlog.fp.isSome) ∧ (¬ s.Writes call → s'.written = s.written) ∧
      Rolls b zl (rolledAfter s call ans r) s' := by
  unfold rolledAfter
  by_cases hwrites : s.Writes call
  · obtain ⟨out, hlog⟩ := logLog_of_writes b zl ans hwrites
    obtain ⟨s', hfile, hsetup, hopen, hrolls⟩ :=
      logToFile_rolls call (h.stderr out) hans (hint hwrites)
    rw [hlog, if_pos hwrites]
    exact ⟨s', hfile, ⟨hsetup.zlog, hsetup.compression⟩, fun _ => hopen,
      fun hno => absurd hwrites hno, hrolls⟩
  · obtain ⟨out, hlog⟩ := logLog_of_not_writes b zl ans hwrites
    rw [hlog, if_neg hwrites]
    exact ⟨_, rfl, ⟨rfl, rfl⟩, id, fun _ => rfl, h.stderr out⟩

/-- With the least `int` for the number of archives, the rotation is undefined. -/
theorem logLog_overflow {call : LogCall} {ans : LogAnswer} (h : Rolls b zl r s)
    (hans : ans.Succeeds) (hwrites : s.Writes call) (hrotates : s.Rotates)
    (hint : s.zlog.maxRollingLogFile = -2147483648) : logLog b zl call ans s = none := by
  obtain ⟨out, hlog⟩ := logLog_of_writes b zl ans hwrites
  have hsetup := (ensureOpen_rolls (h.stderr out) hans).1
  have hint' : (logFree (ensureOpen ans { s with stderr := out })).zlog.maxRollingLogFile =
      -2147483648 := by
    show (ensureOpen ans { s with stderr := out }).zlog.maxRollingLogFile = _
    rw [hsetup.zlog]
    exact hint
  have hrotates' : Logger.Rotates { s with stderr := out } := hrotates
  rw [hlog, logToFile_eq (h.stderr out) hans, if_pos hrotates', rotate]
  simp only [hint']
  rfl

end Log

end ZohoIotSdk
