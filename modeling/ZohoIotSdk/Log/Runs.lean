import ZohoIotSdk.Log.Lines

/-!
# Runs of the logger

`log_initialize` in a directory without log files, and calls of `log_log` after it, with every
file operation succeeding.

* `rotation_keeps_suffix`: the files from the oldest archive to the current one hold the end of
  what was written, in no more files than configured.
* `log_bounded_iff`: the current file stays within the configured size as long as a file that is
  too long is really given up, which a negative number of archives prevents.
-/

namespace ZohoIotSdk

open Files (Directory Rolling)

/-! ## Results that may be undefined -/

/-- The result, if there is one, satisfies `Q`, and there is one if `ok`. -/
def Gives (ok : Prop) (x : Option Logger) (Q : Logger → Prop) : Prop :=
  (ok → x.isSome) ∧ ∀ s, x = some s → Q s

namespace Gives

variable {ok : Prop} {x : Option Logger} {Q R : Logger → Prop}

theorem some {s : Logger} (h : Q s) : Gives ok (some s) Q := by
  refine ⟨fun _ => rfl, fun s' heq => ?_⟩
  obtain rfl := Option.some.inj heq
  exact h

theorem bind {f : Logger → Option Logger} (hx : Gives ok x Q) (hf : ∀ s, Q s → Gives ok (f s) R) :
    Gives ok (x.bind f) R := by
  cases x with
  | none => exact ⟨fun hok => absurd (hx.1 hok) (by simp), fun s heq => by simp at heq⟩
  | some s => exact hf s (hx.2 s rfl)

theorem mono_result (hx : Gives ok x Q) (h : ∀ s, Q s → x = .some s → R s) : Gives ok x R :=
  ⟨hx.1, fun s heq => h s (hx.2 s heq) heq⟩

theorem mono (hx : Gives ok x Q) (h : ∀ s, Q s → R s) : Gives ok x R :=
  hx.mono_result fun s hs _ => h s hs

end Gives

/-! ## Between the calls -/

/-- The rolling log that the files hold ends with the line that was written last. -/
structure Logging (b : LogBuild) (zl : Zlib) (r : Rolling CString) (s : Logger) : Prop
    extends Rolls b zl r s where
  latest : s.written ≠ [] → r.current ≠ []

variable {b : LogBuild} {zl : Zlib} {r : Rolling CString} {s : Logger}

/-- One call of `log_log`. -/
theorem Logging.logLog (h : Logging b zl r s) {ans : LogAnswer} (hans : ans.Succeeds)
    (call : LogCall) :
    Gives (s.zlog.maxRollingLogFile ≠ -2147483648) (logLog b zl call ans s) fun s' =>
      SameSetup s s' ∧ (s.zlog.fp.isSome → s'.zlog.fp.isSome) ∧
      Logging b zl (rolledAfter s call ans r) s' := by
  by_cases hint : s.Writes call → s.Rotates → s.zlog.maxRollingLogFile ≠ -2147483648
  · obtain ⟨s', hlog, hsetup, hopen, hwritten, hrolls⟩ := logLog_rolls h.toRolls hans hint
    rw [hlog]
    refine .some ⟨hsetup, hopen, hrolls, fun hne => ?_⟩
    by_cases hwrites : s.Writes call
    · simp [rolledAfter, hwrites, rolledWith, Rolling.write]
    · rw [rolledAfter, if_neg hwrites]
      rw [hwritten hwrites] at hne
      exact h.latest hne
  · obtain ⟨hwrites, hrest⟩ := Classical.not_imp.mp hint
    obtain ⟨hrotates, hleast⟩ := Classical.not_imp.mp hrest
    rw [not_not] at hleast
    rw [logLog_overflow h.toRolls hans hwrites hrotates hleast]
    exact ⟨fun hok => absurd hleast hok, fun s' heq => by simp at heq⟩

/-- `log_free` only closes the file. -/
theorem Logging.freeIf (h : Logging b zl r s) (c : Bool) : Logging b zl r (freeIf c s) := by
  unfold ZohoIotSdk.freeIf
  split
  · refine ⟨⟨h.stores, h.kept, fun file hfile => ?_⟩, h.latest⟩
    simp [logFree] at hfile
  · exact h

theorem sameSetup_freeIf (c : Bool) (s : Logger) : SameSetup s (freeIf c s) := by
  unfold freeIf
  split
  · exact ⟨rfl, rfl⟩
  · exact .refl s

theorem written_freeIf (c : Bool) (s : Logger) : (freeIf c s).written = s.written := by
  unfold freeIf
  split
  · rfl
  · rfl

/-- Without archives it does not matter whether they would be compressed. -/
theorem Logging.recode (h : Logging b zl r s) (harchives : r.archives = []) (compression : Bool) :
    Logging b zl r { s with enableLogCompression := compression } := by
  have habsent : ∀ f, f ≠ .current → s.view f = none := by
    intro f hne
    by_cases hf : ∃ i, f = .archive (s.compressing b) (i + 1)
    · obtain ⟨i, rfl⟩ := hf
      rw [h.stores.archive_eq_none_iff, harchives]
      exact Nat.zero_le i
    · exact h.stores.absent f hne fun i heq => hf ⟨i, heq⟩
  refine ⟨⟨⟨h.stores.current, fun i => ?_, fun f hne _ => ?_⟩, h.kept, h.opened⟩, h.latest⟩
  · rw [harchives]
    show (s.view _).map _ = _
    rw [habsent _ (by simp)]
    rfl
  · exact habsent f hne

/-! ## `log_initialize` -/

/-- The logger is set up as `z` says, apart from the maximum size, and has written the lines of the
calls. -/
structure SetUp (b : LogBuild) (zl : Zlib) (z : ZLog) (calls : List (LogCall × LogAnswer))
    (s : Logger) : Prop where
  logging : ∃ r, Logging b zl r s
  zlog : s.zlog = { z with fp := s.zlog.fp, maxLogFileSize := s.zlog.maxLogFileSize }
  lines : s.written.map Written.line = linesOf z calls

section Initialize

variable {z : ZLog} {ans : LogAnswer} {config : ZlogConfig} {calls : List (LogCall × LogAnswer)}

/-- The lines of a call, with the setup that the logger has. -/
theorem SetUp.linesOf_eq (h : SetUp b zl z calls s) (calls' : List (LogCall × LogAnswer)) :
    linesOf s.zlog calls' = linesOf z calls' := by
  rw [h.zlog]
  rfl

/-- A call that logs keeps the setup and adds itself to the calls. -/
theorem SetUp.logLog (h : SetUp b zl z calls s) (hans : ans.Succeeds) (call : LogCall) :
    Gives (z.maxRollingLogFile ≠ -2147483648) (logLog b zl call ans s) fun s' =>
      SetUp b zl z (calls ++ [(call, ans)]) s' ∧
        s'.zlog.maxLogFileSize = s.zlog.maxLogFileSize := by
  obtain ⟨r, hr⟩ := h.logging
  have hrolling : s.zlog.maxRollingLogFile = z.maxRollingLogFile := by rw [h.zlog]
  rw [← hrolling]
  refine (hr.logLog hans call).mono_result fun s' hs' hlog => ?_
  obtain ⟨hsetup, -, hlogging⟩ := hs'
  refine ⟨⟨⟨_, hlogging⟩, ?_, ?_⟩, ?_⟩
  · rw [hsetup.zlog, h.zlog]
  · rw [logLog_lines hlog, h.lines, h.linesOf_eq, linesOf_append]
  · rw [hsetup.zlog]

theorem SetUp.freeIf (h : SetUp b zl z calls s) (c : Bool) : SetUp b zl z calls (freeIf c s) := by
  obtain ⟨r, hr⟩ := h.logging
  refine ⟨⟨r, hr.freeIf c⟩, ?_, ?_⟩
  · rw [(sameSetup_freeIf c s).zlog, h.zlog]
  · rw [written_freeIf, h.lines]

theorem maxLogFileSize_freeIf (c : Bool) (s : Logger) :
    (freeIf c s).zlog.maxLogFileSize = s.zlog.maxLogFileSize := by
  rw [(sameSetup_freeIf c s).zlog]

theorem SetUp.logSetMaxLogSize (h : SetUp b zl z calls s) (size : ℤ) :
    SetUp b zl z calls (logSetMaxLogSize size s) := by
  obtain ⟨r, hr⟩ := h.logging
  refine ⟨⟨r, ⟨hr.stores, hr.kept, hr.opened⟩, hr.latest⟩, ?_, h.lines⟩
  show ({ s.zlog with maxLogFileSize := size } : ZLog) = _
  rw [h.zlog]
  rfl

/-- The configuration of the compression leads to the setup. -/
theorem configureCompression_setUp (h : Logging b zl r s) (harchives : r.archives = [])
    (hwritten : s.written = []) (hclosed : s.zlog.fp = none) (hmax : 0 ≤ s.zlog.maxLogFileSize)
    (hans : ans.Succeeds) :
    Gives (s.zlog.maxRollingLogFile ≠ -2147483648) (configureCompression b zl config ans s)
      (SetUp b zl s.zlog ((compressionCalls b config ans s).map LogStep.args)) := by
  -- the file was closed, so the first message does not make it rotate
  have hfirst : ∀ call, Gives (s.zlog.maxRollingLogFile ≠ -2147483648) (logLog b zl call ans s)
      fun s' => SameSetup s s' ∧ s'.written.map Written.line = linesOf s.zlog [(call, ans)] ∧
        ∃ r', r'.archives = [] ∧ Logging b zl r' s' := by
    intro call
    refine (h.logLog hans call).mono_result fun s' hs' hlog => ⟨hs'.1, ?_, _, ?_, hs'.2.2⟩
    · rw [logLog_lines hlog, hwritten, List.map_nil, List.nil_append]
    have hrotates : ¬ s.Rotates := by
      rw [Logger.Rotates, logSize, hclosed]
      exact Int.not_lt.mpr hmax
    unfold rolledAfter rolledWith
    simp only [hrotates, false_and, if_false]
    split
    · exact harchives
    · exact harchives
  unfold configureCompression compressionCalls
  by_cases hcompress : config.logCompress = true
  · simp only [if_pos hcompress]
    by_cases hbuild : b.compress = true
    · simp only [if_pos hbuild]
      refine (hfirst _).bind fun s₁ hs₁ => .some ?_
      obtain ⟨hsetup, hlines, r', hr', hlogging⟩ := hs₁
      refine ⟨⟨r', (hlogging.freeIf _).recode hr' true⟩, ?_, ?_⟩
      · show (ZohoIotSdk.freeIf _ s₁).zlog = _
        rw [(sameSetup_freeIf _ s₁).zlog, hsetup.zlog]
      · show (ZohoIotSdk.freeIf _ s₁).written.map Written.line = _
        rw [written_freeIf, hlines]
        rfl
    · simp only [if_neg hbuild]
      refine (hfirst _).bind fun s₁ hs₁ => .some ?_
      obtain ⟨hsetup, hlines, r', hr', hlogging⟩ := hs₁
      refine ⟨⟨r', hlogging.freeIf _⟩, ?_, ?_⟩
      · rw [(sameSetup_freeIf _ s₁).zlog, hsetup.zlog]
      · rw [written_freeIf, hlines]
        rfl
  · have hnone : s.written.map Written.line = linesOf s.zlog [] := by
      rw [hwritten, linesOf]
      split
      · rfl
      · rfl
    simp only [if_neg hcompress]
    split
    · exact .some ⟨⟨r, h.recode harchives false⟩, rfl, hnone⟩
    · exact .some ⟨⟨r, h⟩, rfl, hnone⟩

theorem minLogFileSize_le : minLogFileSize ≤ maxLogFileSize := by decide

/-- The maximum size is brought into its limits. -/
theorem configureSize_setUp (h : SetUp b zl z calls s) (hans : ans.Succeeds) :
    Gives (z.maxRollingLogFile ≠ -2147483648) (configureSize b zl config ans s) fun s' =>
      SetUp b zl z (calls ++ [(sizeCall config ans s).args]) s' ∧
        minLogFileSize ≤ s'.zlog.maxLogFileSize ∧ s'.zlog.maxLogFileSize ≤ maxLogFileSize := by
  unfold configureSize sizeCall
  by_cases hmax : config.maxLogFileSize ≤ maxLogFileSize
  · simp only [if_pos hmax]
    by_cases hmin : config.maxLogFileSize ≤ minLogFileSize
    · simp only [if_pos hmin]
      refine ((h.logSetMaxLogSize _).logLog hans _).bind fun s₁ hs₁ => .some ⟨hs₁.1.freeIf _, ?_⟩
      rw [maxLogFileSize_freeIf, hs₁.2]
      exact ⟨Int.le_refl minLogFileSize, minLogFileSize_le⟩
    · simp only [if_neg hmin]
      refine ((h.logSetMaxLogSize _).logLog hans _).bind fun s₁ hs₁ => .some ⟨hs₁.1.freeIf _, ?_⟩
      rw [maxLogFileSize_freeIf, hs₁.2]
      exact ⟨Int.le_of_lt (Int.not_le.mp hmin), hmax⟩
  · simp only [if_neg hmax]
    refine (h.logLog hans _).bind fun s₁ hs₁ => .some ⟨(hs₁.1.freeIf _).logSetMaxLogSize _, ?_⟩
    exact ⟨minLogFileSize_le, Int.le_refl maxLogFileSize⟩

/-- The logger is ready: it is set up as `z` says, and if it logs to a file, the file is open
and its maximum size is within the limits. -/
structure Ready (b : LogBuild) (zl : Zlib) (z : ZLog) (calls : List (LogCall × LogAnswer))
    (s : Logger) : Prop extends SetUp b zl z calls s where
  opened : z.fileLog = true → s.zlog.fp.isSome
  size : z.fileLog = true →
    minLogFileSize ≤ s.zlog.maxLogFileSize ∧ s.zlog.maxLogFileSize ≤ maxLogFileSize

/-- Everything that `log_initialize` needs succeeds. -/
structure InitAnswer.Succeeds (ans : InitAnswer) : Prop where
  compression : ans.compression.Succeeds
  size : ans.size.Succeeds
  openInitial : ans.openInitial = true

/-- Opening the first file makes the logger ready. -/
theorem openInitial_ready {ok : Prop} {ans : InitAnswer} (hans : ans.Succeeds)
    (h : SetUp b zl z calls s) (hsize : z.fileLog = true →
      minLogFileSize ≤ s.zlog.maxLogFileSize ∧ s.zlog.maxLogFileSize ≤ maxLogFileSize) :
    Gives ok (openInitial b zl ans s) (Ready b zl z calls) := by
  obtain ⟨r, hr⟩ := h.logging
  have hfileLog : s.zlog.fileLog = z.fileLog := by rw [h.zlog]
  unfold openInitial
  by_cases hfile : s.zlog.fileLog = true
  · rw [if_pos hfile, if_pos hans.openInitial]
    have hsetup := sameSetup_openLog true s
    refine .some ⟨⟨⟨r, hr.toRolls.openLog, hr.latest⟩, ?_, ?_⟩, fun _ => openLog_opens s, ?_⟩
    · rw [hsetup.zlog, h.zlog]
    · rw [openLog_written, h.lines]
    · rw [hsetup.zlog]
      exact hsize
  · rw [if_neg hfile]
    refine .some ⟨h, fun hz => ?_, hsize⟩
    rw [hfileLog] at hfile
    exact absurd hz hfile

/-- `Z_log` of the process at its start, with the level of the build. -/
def ZLog.atStart (b : LogBuild) : ZLog := { (Logger.start .empty).zlog with level := b.level }

/-- What `log_initialize` sets up. -/
def configured (b : LogBuild) : Option ZlogConfig → ZLog
  | none => (configureDefault b { zlog := .atStart b, files := .empty }).zlog
  | some config => ZLog.configure b config (.atStart b)

/-- There are no log files with the names that the logger uses. -/
def NoLogFiles (z : ZLog) (d : Directory CString Char) : Prop := ∀ f, view z d f = none

/-- A logger without files and lines corresponds to the empty rolling log. -/
theorem logging_empty (hnone : ∀ f, s.view f = none) (hwritten : s.written = [])
    (hclosed : s.zlog.fp = none) : Logging b zl .empty s := by
  refine ⟨⟨⟨?_, fun i => ?_, fun f _ _ => hnone f⟩, ?_, fun file hfile => ?_⟩, fun hne => ?_⟩
  · rw [hnone]
    rfl
  · rw [hnone]
    rfl
  · rw [hwritten]
    exact Rolling.kept_empty
  · rw [hclosed] at hfile
    simp at hfile
  · exact absurd hwritten hne

/-- `log_initialize` in a directory without log files. -/
theorem logInitialize_ready (zl : Zlib) {ans : InitAnswer} (hans : ans.Succeeds)
    (config : Option ZlogConfig) {d : Directory CString Char}
    (hd : NoLogFiles (configured b config) d) :
    Gives ((configured b config).maxRollingLogFile ≠ -2147483648)
      (logInitialize b zl config ans (.start d))
      (Ready b zl (configured b config) (initialCalls b config ans (.start d))) := by
  have hnone : ∀ z : ZLog, [] = linesOf z [] := by
    intro z
    unfold linesOf
    split
    · rfl
    · rfl
  unfold logInitialize
  refine Gives.bind (Q := fun s =>
    SetUp b zl (configured b config) (initialCalls b config ans (.start d)) s ∧
    ((configured b config).fileLog = true →
      minLogFileSize ≤ s.zlog.maxLogFileSize ∧ s.zlog.maxLogFileSize ≤ maxLogFileSize)) ?_
    fun s hs => openInitial_ready hans hs.1 hs.2
  cases config with
  | none =>
    unfold configured configureDefault at hd ⊢
    by_cases hlogging : b.logging = true
    · simp only [if_pos hlogging] at hd ⊢
      refine .some ⟨⟨⟨.empty, logging_empty hd rfl rfl⟩, rfl, hnone _⟩, fun _ => ?_⟩
      exact ⟨minLogFileSize_le, Int.le_refl maxLogFileSize⟩
    -- without a configuration and without the build option, no file is written
    · simp only [if_neg hlogging] at hd ⊢
      refine .some ⟨⟨⟨.empty, logging_empty hd rfl rfl⟩, rfl, hnone _⟩, fun hfile => ?_⟩
      exact absurd hfile Bool.false_ne_true
  | some config =>
    have hlogging : Logging b zl .empty { logFree (.start d) with
        logInitialized := true
        zlog := ZLog.configure b config (.atStart b) } :=
      logging_empty hd rfl rfl
    refine Gives.bind (configureCompression_setUp hlogging rfl rfl rfl (Int.le_refl 0)
      hans.compression) fun s hs => ?_
    rw [args_compressionCalls b config ans.compression _ (.start d)] at hs
    have hset : SetUp b zl (configured b (some config))
        ((compressionCalls b config ans.compression (.start d)).map LogStep.args)
        (if s.compressing b then logSetMaxLogSize config.maxLogFileSize s else s) := by
      split
      · exact hs.logSetMaxLogSize _
      · exact hs
    refine (configureSize_setUp hset hans.size).mono fun s' hs' => ⟨?_, fun _ => hs'.2⟩
    rw [initialCalls, Option.elim_some, List.map_append, List.map_singleton,
      args_sizeCall config ans.size _ (if s.compressing b then
        logSetMaxLogSize config.maxLogFileSize s else s)]
    exact hs'.1

end Initialize

/-! ## Calls of `log_log` -/

/-- A call that logs keeps the logger ready. -/
theorem Ready.logLog {z : ZLog} {calls : List (LogCall × LogAnswer)} (h : Ready b zl z calls s)
    {ans : LogAnswer} (hans : ans.Succeeds) (call : LogCall) :
    Gives (z.maxRollingLogFile ≠ -2147483648) (logLog b zl call ans s)
      (Ready b zl z (calls ++ [(call, ans)])) := by
  obtain ⟨r, hr⟩ := h.logging
  have hrolling : s.zlog.maxRollingLogFile = z.maxRollingLogFile := by rw [h.zlog]
  rw [← hrolling]
  refine (hr.logLog hans call).mono_result fun s' hs' hlog => ?_
  obtain ⟨hsetup, hopened, hlogging⟩ := hs'
  refine ⟨⟨⟨_, hlogging⟩, ?_, ?_⟩, fun hfile => hopened (h.opened hfile), ?_⟩
  · rw [hsetup.zlog, h.zlog]
  · rw [logLog_lines hlog, h.lines, h.linesOf_eq, linesOf_append]
  · rw [hsetup.zlog]
    exact h.size

theorem logAll_ready {z : ZLog} {calls before : List (LogCall × LogAnswer)}
    (hcalls : ∀ c ∈ calls, c.2.Succeeds) (h : Ready b zl z before s) :
    Gives (z.maxRollingLogFile ≠ -2147483648) (logAll b zl calls s)
      (Ready b zl z (before ++ calls)) := by
  induction calls generalizing s before with
  | nil =>
    rw [List.append_nil]
    exact .some h
  | cons c calls ih =>
    obtain ⟨hc, hrest⟩ := List.forall_mem_cons.mp hcalls
    refine (h.logLog hc c.1).bind fun s' hs' => ?_
    rw [List.append_cons]
    exact ih hrest hs'

/-! ## The end of what was written -/

/-- What is read from the archives, the oldest one first, and then from the current file;
archives are decompressed, and a missing file is empty. -/
def readBack (b : LogBuild) (zl : Zlib) (s : Logger) : List Char :=
  ((List.range s.limit).reverse.map fun i =>
    ((s.view (.archive (s.compressing b) (i + 1))).bind
      (unpacked zl (s.compressing b))).getD []).flatten ++ (s.view .current).getD []

/-- Reading the archives downwards gives the oldest item first. -/
theorem flatten_range_reverse {archives : List (List CString)} {n : ℕ}
    (h : archives.length ≤ n) :
    ((List.range n).reverse.map fun i => ((archives[i]?).map List.flatten).getD []).flatten =
      archives.reverse.flatten.flatten := by
  induction archives generalizing n with
  | nil =>
    have hnil : (List.range n).reverse.map (fun i =>
        ((([] : List (List CString))[i]?).map List.flatten).getD []) =
          (List.range n).reverse.map fun _ => [] := by simp
    rw [hnil]
    simp
  | cons a archives ih =>
    obtain ⟨m, rfl⟩ : ∃ m, n = m + 1 := by
      rw [List.length_cons] at h
      exact ⟨n - 1, by omega⟩
    have hrest := ih (n := m) (by rw [List.length_cons] at h; omega)
    rw [List.range_succ_eq_map, List.reverse_cons, List.map_append, List.flatten_append,
      ← List.map_reverse, List.map_map, List.reverse_cons, List.flatten_append,
      List.flatten_append, ← hrest]
    simp [Function.comp_def]

/-- The files read in their order give the kept items. -/
theorem Logging.readBack (h : Logging b zl r s) : readBack b zl s = r.items.flatten := by
  unfold ZohoIotSdk.readBack
  rw [h.stores.current, Rolling.items, List.flatten_append,
    ← flatten_range_reverse h.kept.bounded]
  have harchive : ∀ i, (s.view (.archive (s.compressing b) (i + 1))).bind
      (unpacked zl (s.compressing b)) = (r.archives[i]?).map List.flatten := by
    intro i
    have hstores := h.stores.archives i
    cases hview : s.view (.archive (s.compressing b) (i + 1)) with
    | none =>
      rw [hview, Option.map_none, eq_comm, Option.map_eq_none_iff] at hstores
      rw [hstores]
      rfl
    | some content =>
      rw [hview, Option.map_some, eq_comm, Option.map_eq_some_iff] at hstores
      obtain ⟨lines, hlines, hunpacked⟩ := hstores
      rw [hlines, Option.bind_some, ← hunpacked]
      rfl
  simp only [harchive]

/-- No more files than the current one and the configured number of archives. -/
theorem Logging.length_le (h : Logging b zl r s) {files : List LogFile} (hnodup : files.Nodup)
    (hfiles : ∀ f ∈ files, (s.view f).isSome) : files.length ≤ s.limit + 1 := by
  have hsubset : files ⊆ .current ::
      (List.range s.limit).map fun i => .archive (s.compressing b) (i + 1) := by
    intro f hf
    have hsome := hfiles f hf
    by_cases hcurrent : f = .current
    · rw [hcurrent]
      exact List.mem_cons_self
    · have harchive : ∃ i, f = .archive (s.compressing b) (i + 1) := by
        by_contra hno
        rw [h.stores.absent f hcurrent fun i heq => hno ⟨i, heq⟩] at hsome
        simp at hsome
      obtain ⟨i, rfl⟩ := harchive
      have hi : i < r.archives.length := by
        by_contra hle
        rw [(h.stores.archive_eq_none_iff i).mpr (Nat.not_lt.mp hle)] at hsome
        simp at hsome
      have hbounded := h.kept.bounded
      refine List.mem_cons_of_mem _ (List.mem_map.mpr ⟨i, List.mem_range.mpr ?_, rfl⟩)
      omega
  have hlength := hnodup.length_le_of_subset hsubset
  simpa using hlength

/-- After `log_initialize` in a directory without log files and any calls of `log_log`, with
every file operation succeeding, the files hold the end of the lines of these calls and of the
messages of `log_initialize`, up to the latest one, in no more than the configured number of
archives and the current file. -/
theorem rotation_keeps_suffix (b : LogBuild) (zl : Zlib) (config : Option ZlogConfig)
    (ans : InitAnswer) (calls : List (LogCall × LogAnswer)) (d : Directory CString Char)
    (hd : NoLogFiles (configured b config) d) (hans : ans.Succeeds)
    (hcalls : ∀ c ∈ calls, c.2.Succeeds)
    (hrolling : ∀ cfg ∈ config, 0 ≤ cfg.maxRollingLogFile) :
    ∃ s, (logInitialize b zl config ans (.start d)).bind (logAll b zl calls) = some s ∧
      (∃ lines, lines <:+ linesOf (configured b config)
          (initialCalls b config ans (.start d) ++ calls) ∧
        lines.getLast? = (linesOf (configured b config)
          (initialCalls b config ans (.start d) ++ calls)).getLast? ∧
        readBack b zl s = lines.flatten) ∧
      (∀ cfg ∈ config, s.zlog.maxRollingLogFile = cfg.maxRollingLogFile) ∧
      ∀ files : List LogFile, files.Nodup → (∀ f ∈ files, (s.view f).isSome) →
        files.length ≤ s.limit + 1 := by
  have hok : (configured b config).maxRollingLogFile ≠ -2147483648 := by
    cases config with
    | none =>
      show (configureDefault b _).zlog.maxRollingLogFile ≠ -2147483648
      unfold configureDefault
      split
      · show maxRollingLogFile ≠ -2147483648
        decide
      · show (0 : ℤ) ≠ -2147483648
        decide
    | some cfg =>
      have hcfg := hrolling cfg rfl
      show cfg.maxRollingLogFile ≠ -2147483648
      omega
  obtain ⟨hsome, hready⟩ := (logInitialize_ready zl hans config hd).bind fun s hs =>
    logAll_ready hcalls hs
  obtain ⟨s, hs⟩ := Option.isSome_iff_exists.mp (hsome hok)
  have h := hready s hs
  obtain ⟨r, hr⟩ := h.logging
  rw [← h.lines]
  refine ⟨s, hs, ⟨r.items, hr.kept.suffix, ?_, hr.readBack⟩, ?_, fun files => hr.length_le⟩
  · by_cases hwritten : s.written = []
    · have hnil := hr.kept.suffix
      rw [hwritten, List.map_nil, List.suffix_nil] at hnil
      rw [hnil, hwritten]
      rfl
    · have hitems : r.items ≠ [] := by simp [Rolling.items, hr.latest hwritten]
      obtain ⟨dropped, hdropped⟩ := hr.kept.suffix
      rw [← hdropped, List.getLast?_append_of_ne_nil _ hitems]
  · rintro cfg rfl
    rw [h.zlog]
    rfl

/-- In a build without compression, `zlib` is not used. -/
def unusedZlib : Zlib := ⟨id, some, fun _ => rfl⟩

def fileBuild : LogBuild := { compress := false, logging := true, level := 1 }

/-- Log files of the least size, with one archive; only fatal errors are logged. -/
def fatalConfig : ZlogConfig :=
  { setQuiet := 1, level := 5, enableFileLog := 1, maxRollingLogFile := 1 }

/-- A call that logs a message of the given length. -/
def fatalCall (length : ℕ) : LogCall × LogAnswer :=
  (⟨.fatal, "main.c".toList, 1, List.replicate length 'a'⟩, {})

theorem succeeds_default : ({} : LogAnswer).Succeeds := by
  have hchunk : 0 < chunk := by decide
  exact ⟨rfl, rfl, rfl, fun _ => rfl, rfl, rfl, fun _ => hchunk, fun _ => rfl, rfl, rfl⟩

theorem succeeds_fatalCalls (lengths : List ℕ) : ∀ c ∈ lengths.map fatalCall, c.2.Succeeds := by
  intro c hc
  obtain ⟨length, -, rfl⟩ := List.mem_map.mp hc
  exact succeeds_default

theorem noLogFiles_empty (z : ZLog) : NoLogFiles z .empty := fun _ => rfl

/-- The line of the call. -/
def fatalLine (length : ℕ) : CString := (fatalCall length).1.text (fatalCall length).2.date

/-- The fixed parts of the sample line have 20 characters. -/
theorem length_fatalLine (length : ℕ) : (fatalLine length).length = length + 20 := by
  have hone : (intText 1).length = 1 := by decide
  simp [fatalLine, LogCall.text, fatalCall, padded, LogLevel.name, hone]
  omega

/-- Three messages that do not fit into one file together: the last two lines are kept. -/
theorem rotation_keeps_suffix_sample : ∃ s,
    (logInitialize fileBuild unusedZlib (some fatalConfig) {} (.start .empty)).bind
      (logAll fileBuild unusedZlib ([10300, 10400, 10500].map fatalCall)) = some s ∧
    readBack fileBuild unusedZlib s = fatalLine 10400 ++ fatalLine 10500 ∧
    ∀ files : List LogFile, files.Nodup → (∀ f ∈ files, (s.view f).isSome) →
      files.length ≤ 2 := by
  obtain ⟨s, hrun, ⟨lines, hsuffix, -, hread⟩, hrolling, hfiles⟩ := rotation_keeps_suffix fileBuild
    unusedZlib (some fatalConfig) {} ([10300, 10400, 10500].map fatalCall) .empty
    (noLogFiles_empty _) ⟨succeeds_default, succeeds_default, rfl⟩
    (succeeds_fatalCalls _) (by simp [fatalConfig])
  have hall : linesOf (configured fileBuild (some fatalConfig))
      (initialCalls fileBuild (some fatalConfig) {} (.start .empty) ++
        [10300, 10400, 10500].map fatalCall) = [fatalLine 10300, fatalLine 10400, fatalLine 10500] :=
    rfl
  have hlength : ((logInitialize fileBuild unusedZlib (some fatalConfig) {} (.start .empty)).bind
      (logAll fileBuild unusedZlib ([10300, 10400, 10500].map fatalCall))).any (fun s =>
        decide ((readBack fileBuild unusedZlib s).length = 20940)) = true := by
    decide +kernel
  rw [hrun, Option.any_some, decide_eq_true_eq, hread] at hlength
  have htwo : lines = [fatalLine 10400, fatalLine 10500] := by
    rw [hall] at hsuffix
    rcases List.suffix_cons_iff.mp hsuffix with rfl | hsuffix
    · simp [length_fatalLine] at hlength
    rcases List.suffix_cons_iff.mp hsuffix with rfl | hsuffix
    · rfl
    rcases List.suffix_cons_iff.mp hsuffix with rfl | hsuffix
    · simp [length_fatalLine] at hlength
    rw [List.suffix_nil.mp hsuffix] at hlength
    simp at hlength
  refine ⟨s, hrun, ?_, ?_⟩
  · rw [hread, htwo, List.flatten_cons, List.flatten_singleton]
  have hlimit : s.limit = 1 := by
    rw [Logger.limit, hrolling fatalConfig rfl]
    rfl
  rwa [hlimit] at hfiles

/-! ## The length of the current file -/

/-- Every call of the run has the property, in the state it is made in. -/
def EachCall (b : LogBuild) (zl : Zlib) (P : Logger → LogCall × LogAnswer → Prop) :
    List (LogCall × LogAnswer) → Logger → Prop
  | [], _ => True
  | c :: rest, s => P s c ∧ ∀ s', logLog b zl c.1 c.2 s = some s' → EachCall b zl P rest s'

/-- The length of the current log file. -/
def Logger.currentLength (s : Logger) : ℕ := ((s.view .current).getD []).length

/-- If the call writes a line, then the current file is not longer afterwards than the maximum
size and the line. -/
def Bounded (b : LogBuild) (zl : Zlib) (s : Logger) (c : LogCall × LogAnswer) : Prop :=
  s.Writes c.1 → ∃ s', logLog b zl c.1 c.2 s = some s' ∧
    (s'.currentLength : ℤ) ≤ s'.zlog.maxLogFileSize + (c.1.text c.2.date).length

/-- If the call writes a line, then the current file is not too long before the call, or it is
given up: its length as an `int` is too large, and the number of archives is not negative. -/
def GivenUp (s : Logger) (c : LogCall × LogAnswer) : Prop :=
  s.Writes c.1 → (s.currentLength : ℤ) ≤ s.zlog.maxLogFileSize ∨
    (0 ≤ s.zlog.maxRollingLogFile ∧ s.zlog.maxLogFileSize < intOfSize s.currentLength)

/-- The file is rotated exactly when its length as an `int` is above the bound. -/
theorem Ready.rotates_iff {z : ZLog} {calls : List (LogCall × LogAnswer)}
    (h : Ready b zl z calls s) {call : LogCall}
    (hwrites : s.Writes call) :
    s.Rotates ↔ s.zlog.maxLogFileSize < intOfSize s.currentLength := by
  have hfile : z.fileLog = true := by
    rw [← hwrites.2, h.zlog]
  obtain ⟨file, hfp⟩ := Option.isSome_iff_exists.mp (h.opened hfile)
  obtain ⟨r, hr⟩ := h.logging
  have hread : s.view .current = some (s.files.contents file) :=
    Directory.read_of_lookup (hr.opened file hfp)
  rw [Logger.Rotates, logSize, hfp, Logger.currentLength, hread]
  rfl

/-- The length after the line was written. -/
theorem Logging.currentLength_after {s' : Logger} {line : CString}
    (h : Logging b zl (rolledWith s line r) s') (hbefore : Logging b zl r s) : s'.currentLength =
      (if s.Rotates ∧ 0 ≤ s.zlog.maxRollingLogFile then 0 else s.currentLength) + line.length := by
  rw [Logger.currentLength, h.stores.current, rolledWith, Rolling.write, List.flatten_append,
    List.flatten_singleton, List.length_append]
  split
  · rfl
  · rw [Logger.currentLength, hbefore.stores.current]

/-- Whatever a call that writes a line returns, the lengths before and after it are related like
this. -/
theorem Logging.length_after (h : Logging b zl r s) {call : LogCall} {ans : LogAnswer}
    (hans : ans.Succeeds) (hwrites : s.Writes call) {s' : Logger}
    (hlog : ZohoIotSdk.logLog b zl call ans s = some s') :
    s'.zlog.maxLogFileSize = s.zlog.maxLogFileSize ∧ s'.currentLength =
      (if s.Rotates ∧ 0 ≤ s.zlog.maxRollingLogFile then 0 else s.currentLength) +
        (call.text ans.date).length := by
  obtain ⟨hsetup, -, hlogging⟩ := (h.logLog hans call).2 s' hlog
  rw [rolledAfter, if_pos hwrites] at hlogging
  refine ⟨?_, hlogging.currentLength_after h⟩
  rw [hsetup.zlog]

/-- A length within the bound is read as itself. -/
theorem intOfSize_of_le {size : ℕ} (h : (size : ℤ) ≤ maxLogFileSize) : intOfSize size = size := by
  unfold maxLogFileSize at h
  unfold intOfSize
  rw [Int.bmod_def]
  omega

/-- The bound holds after the call exactly when the condition holds before it. -/
theorem bounded_iff_givenUp {z : ZLog} {calls : List (LogCall × LogAnswer)}
    (h : Ready b zl z calls s) {c : LogCall × LogAnswer} (hans : c.2.Succeeds) :
    Bounded b zl s c ↔ GivenUp s c := by
  obtain ⟨r, hr⟩ := h.logging
  refine forall_congr' fun hwrites => ?_
  have hfile : z.fileLog = true := by
    rw [← hwrites.2, h.zlog]
  obtain ⟨hmin, hmax⟩ := h.size hfile
  have hrotates := h.rotates_iff hwrites
  constructor
  · rintro ⟨s', hlog, hbound⟩
    obtain ⟨hsize, hlength⟩ := hr.length_after hans hwrites hlog
    by_cases hgiven : s.Rotates ∧ 0 ≤ s.zlog.maxRollingLogFile
    · exact .inr ⟨hgiven.2, hrotates.mp hgiven.1⟩
    · rw [if_neg hgiven] at hlength
      rw [hlength, hsize] at hbound
      left
      omega
  · intro hgiven
    have hint : s.Writes c.1 → s.Rotates → s.zlog.maxRollingLogFile ≠ -2147483648 := by
      intro _ hrot
      rcases hgiven with hle | ⟨hrolling, -⟩
      · have hlt := hrotates.mp hrot
        rw [intOfSize_of_le (by omega)] at hlt
        omega
      · omega
    obtain ⟨s', hlog, -⟩ := logLog_rolls hr.toRolls hans hint
    obtain ⟨hsize, hlength⟩ := hr.length_after hans hwrites hlog
    refine ⟨s', hlog, ?_⟩
    rw [hlength, hsize]
    unfold minLogFileSize at hmin
    split
    · omega
    · rename_i hno
      rcases hgiven with hle | ⟨hrolling, hlt⟩
      · omega
      · exact absurd ⟨hrotates.mpr hlt, hrolling⟩ hno

/-- For every configuration that `log_initialize` accepts, in a directory without log files, and
every run of `log_log` calls after it, with every file operation succeeding: after every call
the current file is not longer than the maximum size and the line just written if and only if
at every call a file that is too long is given up. -/
theorem log_bounded_iff (b : LogBuild) (zl : Zlib) (config : Option ZlogConfig)
    (ans : InitAnswer) (calls : List (LogCall × LogAnswer)) (d : Directory CString Char)
    (hd : NoLogFiles (configured b config) d) (hans : ans.Succeeds)
    (hcalls : ∀ c ∈ calls, c.2.Succeeds) (s : Logger)
    (hinit : logInitialize b zl config ans (.start d) = some s) :
    EachCall b zl (Bounded b zl) calls s ↔ EachCall b zl GivenUp calls s := by
  have hready := (logInitialize_ready zl hans config hd).2 s hinit
  clear hinit
  generalize initialCalls b config ans (.start d) = before at hready
  induction calls generalizing s before with
  | nil => exact Iff.rfl
  | cons c calls ih =>
    obtain ⟨hc, hrest⟩ := List.forall_mem_cons.mp hcalls
    refine and_congr (bounded_iff_givenUp hready hc) (forall_congr' fun s' => ?_)
    exact forall_congr' fun hlog => ih hrest s' _ ((hready.logLog hc c.1).2 s' hlog)

instance (s : Logger) (c : LogCall × LogAnswer) : Decidable (GivenUp s c) :=
  inferInstanceAs (Decidable (_ → _))

instance decidableEachCall (b : LogBuild) (zl : Zlib) (P : Logger → LogCall × LogAnswer → Prop)
    [∀ s c, Decidable (P s c)] : ∀ (calls : List (LogCall × LogAnswer)) (s : Logger),
    Decidable (EachCall b zl P calls s)
  | [], _ => .isTrue trivial
  | c :: rest, s =>
    have : ∀ s', Decidable (EachCall b zl P rest s') := decidableEachCall b zl P rest
    inferInstanceAs (Decidable (P s c ∧ ∀ s' ∈ logLog b zl c.1 c.2 s, EachCall b zl P rest s'))

/-- The first message makes the file too long, and the second one makes it an archive. -/
theorem log_bounded_rotated : ∃ s s',
    logInitialize fileBuild unusedZlib (some fatalConfig) {} (.start .empty) = some s ∧
    logAll fileBuild unusedZlib [fatalCall 10300, fatalCall 10] s = some s' ∧
    (s'.view (.archive false 1)).isSome ∧ s'.currentLength < 100 ∧
    EachCall fileBuild unusedZlib (Bounded fileBuild unusedZlib)
      [fatalCall 10300, fatalCall 10] s := by
  have htest : (logInitialize fileBuild unusedZlib (some fatalConfig) {} (.start .empty)).any
      (fun s => decide (EachCall fileBuild unusedZlib GivenUp
          [fatalCall 10300, fatalCall 10] s) &&
        (logAll fileBuild unusedZlib [fatalCall 10300, fatalCall 10] s).any fun s' =>
          decide ((s'.view (.archive false 1)).isSome ∧ s'.currentLength < 100)) = true := by
    decide +kernel
  obtain ⟨s, hinit, hboth⟩ := (Option.any_eq_true _ _).mp htest
  rw [Bool.and_eq_true, decide_eq_true_eq] at hboth
  obtain ⟨s', hrun, hrotated⟩ := (Option.any_eq_true _ _).mp hboth.2
  obtain ⟨harchive, hshort⟩ := of_decide_eq_true hrotated
  exact ⟨s, s', hinit, hrun, harchive, hshort,
    (log_bounded_iff fileBuild unusedZlib (some fatalConfig) {} [fatalCall 10300, fatalCall 10]
      .empty (noLogFiles_empty _) ⟨succeeds_default, succeeds_default, rfl⟩
      (succeeds_fatalCalls [10300, 10]) s hinit).mpr hboth.1⟩

def negativeConfig : ZlogConfig :=
  { setQuiet := 1, level := 5, enableFileLog := 1, maxRollingLogFile := -1 }

/-- With minus one archives, a file that is too long grows on: it is longer than the maximum
size before the second message, and keeps what it has. -/
theorem log_unbounded_negative : ∃ s,
    logInitialize fileBuild unusedZlib (some negativeConfig) {}
      (.start .empty) = some s ∧
    ¬ EachCall fileBuild unusedZlib (Bounded fileBuild unusedZlib)
      [fatalCall 10300, fatalCall 10] s := by
  have htest : (logInitialize fileBuild unusedZlib
      (some negativeConfig) {} (.start .empty)).any
        (fun s => (logLog fileBuild unusedZlib (fatalCall 10300).1 {} s).any fun s₁ =>
          decide (s₁.Writes (fatalCall 10).1) &&
          (logLog fileBuild unusedZlib (fatalCall 10).1 {} s₁).all fun s₂ =>
            decide (s₂.zlog.maxLogFileSize + (((fatalCall 10).1.text []).length : ℤ) <
              (s₂.currentLength : ℤ))) = true := by
    decide +kernel
  obtain ⟨s, hinit, hrest⟩ := (Option.any_eq_true _ _).mp htest
  obtain ⟨s₁, hfirst, hsecond⟩ := (Option.any_eq_true _ _).mp hrest
  rw [Bool.and_eq_true, decide_eq_true_eq] at hsecond
  refine ⟨s, hinit, fun hall => ?_⟩
  obtain ⟨s₂, hlog, hbound⟩ := (hall.2 s₁ hfirst).1 hsecond.1
  have hlong := hsecond.2
  rw [show logLog fileBuild unusedZlib (fatalCall 10).1 {} s₁ = some s₂ from hlog,
    Option.all_some, decide_eq_true_eq] at hlong
  exact absurd hbound (Int.not_le.mpr hlong)

end ZohoIotSdk
