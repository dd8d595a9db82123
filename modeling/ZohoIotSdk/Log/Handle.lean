import ZohoIotSdk.Log.Runs

/-!
# The handle of the log file

`log_log` tests `Zlog.fileLog` once, at the beginning. After that the handle may become null: the
file may have lost its name, opening it may fail where it was configured and in `./`, and so may
opening it after a rotation. If no opening has succeeded in the end, the line is written through
the null handle.

* `LogStep.Opens` is the exact condition, in the state before a call, under which this does not
  happen.
* `log_handle_iff`: in every run of `log_log`, `log_initialize` and `log_free`, whatever others do
  to the files in between, every line is written to an open file or skipped if and only if each
  call of `log_log` meets the condition. The calls that `log_initialize` makes itself count.
-/

namespace ZohoIotSdk

open Files (Directory)

/-! ## The handle within one call -/

section Call

variable {b : LogBuild} {zl : Zlib} {ans : LogAnswer} {s s' : Logger}

/-- The log file is open and has not lost its name. -/
def Logger.hasLogFile (s : Logger) : Bool := s.zlog.fp.any fun file => s.files.nlink file ≠ 0

/-- The file stays open exactly when it still has a name. -/
theorem closeUnlinked_isSome (s : Logger) : (closeUnlinked s).zlog.fp.isSome = s.hasLogFile := by
  unfold closeUnlinked Logger.hasLogFile
  cases hfp : s.zlog.fp with
  | none => simp [hfp]
  | some file =>
    by_cases hlink : s.files.nlink file = 0
    · simp [hlink, logFree]
    · simp [hlink, hfp]

/-- The file is open exactly when the call succeeds. -/
theorem openLog_isSome (succeeds : Bool) (s : Logger) :
    (openLog succeeds s).zlog.fp.isSome = succeeds := by
  cases succeeds with
  | false => rfl
  | true => rfl

/-- The file is open when it was, or when one of the two attempts succeeds. -/
theorem ensureOpen_isSome (ans : LogAnswer) (s : Logger) : (ensureOpen ans s).zlog.fp.isSome =
    (s.zlog.fp.isSome || ans.openConfigured || ans.openFallback) := by
  unfold ensureOpen
  cases hfp : s.zlog.fp with
  | some file => simp [hfp]
  | none =>
    cases ans.openConfigured with
    | true => rfl
    | false =>
      cases ans.openFallback with
      | true => rfl
      | false => rfl

/-- After a rotation the file is open if it could be opened again, unless the number of archives
is the least `int`. -/
theorem rotate_isSome_iff : (∃ s', rotate b zl ans s = some s' ∧ s'.zlog.fp.isSome) ↔
    s.zlog.maxRollingLogFile ≠ -2147483648 ∧ ans.openRotated = true := by
  have hzlog : (logFree s).zlog.maxRollingLogFile = s.zlog.maxRollingLogFile := rfl
  unfold rotate
  by_cases hzero : s.zlog.maxRollingLogFile = 0
  · simp [hzlog, hzero, openLog_isSome]
  · by_cases hint : s.zlog.maxRollingLogFile = -2147483648
    · simp [hzlog, hint]
    · simp [hzlog, hzero, hint, openLog_isSome]

/-- What has to succeed for the line to have an open file: after a rotation the opening of the
new file, and otherwise one of the two openings, unless the file is open. -/
def LogAnswer.Opens (ans : LogAnswer) (s : Logger) : Prop :=
  if s.Rotates then s.zlog.maxRollingLogFile ≠ -2147483648 ∧ ans.openRotated = true
  else s.hasLogFile = true ∨ ans.openConfigured = true ∨ ans.openFallback = true

instance (ans : LogAnswer) (s : Logger) : Decidable (ans.Opens s) :=
  if h : s.Rotates then decidable_of_iff _ (by rw [LogAnswer.Opens, if_pos h])
  else decidable_of_iff _ (by rw [LogAnswer.Opens, if_neg h])

/-- There is an open file for the line exactly when the answers open one. -/
theorem openForLine_isSome_iff (b : LogBuild) (zl : Zlib) :
    (∃ s', openForLine b zl ans s = some s' ∧ s'.zlog.fp.isSome) ↔ ans.Opens s := by
  rw [openForLine_eq]
  unfold LogAnswer.Opens
  by_cases hrotates : s.Rotates
  · have hrolling : (ensureOpen ans (closeUnlinked s)).zlog.maxRollingLogFile =
        s.zlog.maxRollingLogFile := by
      rw [(ensureOpen_limits ans _).2.1, closeUnlinked_zlog]
    rw [if_pos hrotates, if_pos hrotates, rotate_isSome_iff, hrolling]
  · have hopen := ensureOpen_isSome ans (closeUnlinked s)
    rw [closeUnlinked_isSome] at hopen
    rw [if_neg hrotates, if_neg hrotates]
    simp [hopen, or_assoc]

end Call

/-! ## The line of a call -/

namespace LogStep

variable {b : LogBuild} {zl : Zlib} {c : LogStep}

def result (b : LogBuild) (zl : Zlib) (c : LogStep) : Option Logger :=
  logLog b zl c.call c.ans c.state

def line (c : LogStep) : CString := c.call.text c.ans.date

/-- The line is written at the end of the file that is open, or no file is touched. -/
def WritesOrSkips (b : LogBuild) (zl : Zlib) (c : LogStep) : Prop :=
  ∃ s', c.result b zl = some s' ∧
    ((∃ file before, s'.zlog.fp = some file ∧ s'.files.contents file = before ++ c.line ∧
        s'.written = c.state.written ++ [⟨file, before.length, c.line⟩]) ∨
      (s'.files = c.state.files ∧ s'.written = c.state.written))

/-- If the line goes to the log file, then there is an open one. -/
def Opens (c : LogStep) : Prop := c.state.Writes c.call → c.ans.Opens c.state

instance (c : LogStep) : Decidable c.Opens := inferInstanceAs (Decidable (_ → _))

/-- Where the answers open a file the line is written or skipped. -/
theorem writesOrSkips_of_opens (b : LogBuild) (zl : Zlib) (h : c.Opens) : c.WritesOrSkips b zl := by
  unfold WritesOrSkips result
  by_cases hwrites : c.state.Writes c.call
  · obtain ⟨out, hlog⟩ := logLog_of_writes b zl c.ans hwrites
    have hopens : c.ans.Opens { c.state with stderr := out } := h hwrites
    obtain ⟨s₁, hopen, hsome⟩ := (openForLine_isSome_iff b zl).mpr hopens
    obtain ⟨file, hfp⟩ := Option.isSome_iff_exists.mp hsome
    have hwritten : s₁.written = ({ c.state with stderr := out } : Logger).written :=
      openForLine_written hopen
    rw [hlog, logToFile_eq_bind, hopen, Option.bind_some, writeLine, hfp]
    refine ⟨_, rfl, .inl ⟨file, s₁.files.contents file, hfp, ?_, ?_⟩⟩
    · exact Function.update_self ..
    · rw [← hwritten]
      rfl
  · obtain ⟨out, hlog⟩ := logLog_of_not_writes b zl c.ans hwrites
    rw [hlog]
    exact ⟨_, rfl, .inr ⟨rfl, rfl⟩⟩

/-- Where the call has a result the answers have opened a file. -/
theorem opens_of_result {s' : Logger} (h : c.result b zl = some s') : c.Opens := by
  intro hwrites
  obtain ⟨out, hlog⟩ := logLog_of_writes b zl c.ans hwrites
  rw [result, hlog, logToFile_eq_bind] at h
  obtain ⟨s₁, hopen, hwrite⟩ := Option.bind_eq_some_iff.mp h
  have hsome : s₁.zlog.fp.isSome := by
    cases hfp : s₁.zlog.fp with
    | none => simp [writeLine, hfp] at hwrite
    | some file => rfl
  have hopens : c.ans.Opens { c.state with stderr := out } :=
    (openForLine_isSome_iff b zl).mp ⟨s₁, hopen, hsome⟩
  exact hopens

/-- The call writes its line or skips it exactly when the answers open a file. -/
theorem writesOrSkips_iff : c.WritesOrSkips b zl ↔ c.Opens := by
  constructor
  · rintro ⟨s', hresult, -⟩
    exact opens_of_result hresult
  · exact writesOrSkips_of_opens b zl

/-- The call has a result exactly when the answers open a file. -/
theorem result_isSome_iff : (c.result b zl).isSome ↔ c.Opens := by
  constructor
  · intro hsome
    obtain ⟨s', hresult⟩ := Option.isSome_iff_exists.mp hsome
    exact opens_of_result hresult
  · intro hopens
    obtain ⟨s', hresult, -⟩ := writesOrSkips_of_opens b zl hopens
    rw [hresult]
    rfl

end LogStep

/-! ## The calls of `log_initialize` -/

/-- The calls of the branch for a configuration. -/
def configureCalls (b : LogBuild) (zl : Zlib) (config : ZlogConfig) (ans : InitAnswer)
    (s : Logger) : List LogStep :=
  let s := { s with zlog := s.zlog.configure b config }
  compressionCalls b config ans.compression s ++
    (configureCompression b zl config ans.compression s).elim [] fun s =>
      [sizeCall config ans.size
        (if s.compressing b then logSetMaxLogSize config.maxLogFileSize s else s)]

/-- The calls at the end of `log_initialize`. -/
def openInitialCalls (ans : InitAnswer) (s : Logger) : List LogStep :=
  if s.zlog.fileLog then
    if ans.openInitial then []
    else [⟨ownMessage .warn 229 "Error opening log file. Please check the permissions".toList,
      ans.failure, { s with logFile := none, zlog := { s.zlog with fileLog := false } }⟩]
  else []

/-- The calls of `log_log` that `log_initialize` makes, up to one without a result. -/
def initializeCalls (b : LogBuild) (zl : Zlib) (config : Option ZlogConfig) (ans : InitAnswer)
    (s : Logger) : List LogStep :=
  let s := logFree s
  let s := { s with logInitialized := true, zlog := { s.zlog with level := b.level } }
  match config with
  | none => openInitialCalls ans (configureDefault b s)
  | some config => configureCalls b zl config ans s ++
      (configure b zl config ans s).elim [] (openInitialCalls ans)

/-- `x` has a result if and only if all the calls have one. -/
def Traced (b : LogBuild) (zl : Zlib) (x : Option Logger) (calls : List LogStep) : Prop :=
  x.isSome ↔ ∀ c ∈ calls, (c.result b zl).isSome

section Traced

variable {b : LogBuild} {zl : Zlib} {x : Option Logger} {calls : List LogStep}

theorem Traced.some (s : Logger) : Traced b zl (some s) [] := by
  simp [Traced]

/-- A call, and something after it that always has a result. -/
theorem Traced.call (call : LogCall) (ans : LogAnswer) (s : Logger) (f : Logger → Logger) :
    Traced b zl ((logLog b zl call ans s).bind fun s => .some (f s)) [⟨call, ans, s⟩] := by
  cases hlog : logLog b zl call ans s with
  | none => simp [Traced, LogStep.result, hlog]
  | some s => simp [Traced, LogStep.result, hlog]

/-- Traces follow the sequence of the calls. -/
theorem Traced.bind {f : Logger → Option Logger} {next : Logger → List LogStep}
    (hx : Traced b zl x calls) (hf : ∀ s, Traced b zl (f s) (next s)) :
    Traced b zl (x.bind f) (calls ++ x.elim [] next) := by
  unfold Traced at hx hf ⊢
  rw [List.forall_mem_append, ← hx]
  cases x with
  | none => simp
  | some s => simpa using hf s

theorem configureCompression_traced (config : ZlogConfig) (ans : LogAnswer) (s : Logger) :
    Traced b zl (configureCompression b zl config ans s) (compressionCalls b config ans s) := by
  unfold configureCompression compressionCalls
  by_cases hcompress : config.logCompress = true
  · rw [if_pos hcompress, if_pos hcompress]
    by_cases hbuild : b.compress = true
    · rw [if_pos hbuild, if_pos hbuild]
      exact .call _ _ _ fun s =>
        { freeIf (LogLevel.info.toInt ≤ s.zlog.level) s with enableLogCompression := true }
    · rw [if_neg hbuild, if_neg hbuild]
      exact .call _ _ _ fun s => freeIf (LogLevel.warn.toInt ≤ s.zlog.level) s
  · rw [if_neg hcompress, if_neg hcompress]
    split
    · exact .some _
    · exact .some s

theorem configureSize_traced (config : ZlogConfig) (ans : LogAnswer) (s : Logger) :
    Traced b zl (configureSize b zl config ans s) [sizeCall config ans s] := by
  unfold configureSize sizeCall
  by_cases hmax : config.maxLogFileSize ≤ maxLogFileSize
  · rw [if_pos hmax, if_pos hmax]
    by_cases hmin : config.maxLogFileSize ≤ minLogFileSize
    · rw [if_pos hmin, if_pos hmin]
      exact .call _ _ _ fun s => freeIf (LogLevel.warn.toInt ≤ s.zlog.level) s
    · rw [if_neg hmin, if_neg hmin]
      exact .call _ _ _ fun s => freeIf (s.zlog.level < LogLevel.info.toInt) s
  · rw [if_neg hmax, if_neg hmax]
    exact .call _ _ _ fun s =>
      logSetMaxLogSize maxLogFileSize (freeIf (LogLevel.warn.toInt ≤ s.zlog.level) s)

theorem configure_traced (config : ZlogConfig) (ans : InitAnswer) (s : Logger) :
    Traced b zl (configure b zl config ans s) (configureCalls b zl config ans s) :=
  (configureCompression_traced config ans.compression _).bind fun _ =>
    configureSize_traced config ans.size _

theorem openInitial_traced (ans : InitAnswer) (s : Logger) :
    Traced b zl (openInitial b zl ans s) (openInitialCalls ans s) := by
  unfold openInitial openInitialCalls
  by_cases hfile : s.zlog.fileLog = true
  · rw [if_pos hfile, if_pos hfile]
    by_cases hopen : ans.openInitial = true
    · rw [if_pos hopen, if_pos hopen]
      exact .some _
    · rw [if_neg hopen, if_neg hopen]
      exact .call _ _ _ fun s => freeIf (LogLevel.warn.toInt ≤ s.zlog.level) s
  · rw [if_neg hfile, if_neg hfile]
    exact .some s

theorem logInitialize_traced (config : Option ZlogConfig) (ans : InitAnswer) (s : Logger) :
    Traced b zl (logInitialize b zl config ans s) (initializeCalls b zl config ans s) := by
  cases config with
  | none => exact openInitial_traced ans _
  | some config => exact (configure_traced config ans _).bind fun s => openInitial_traced ans s

end Traced

/-! ## Runs -/

/-- What happens to the logger, one thing after the other. -/
inductive LogOp where
  | log (call : LogCall) (ans : LogAnswer)
  | init (config : Option ZlogConfig) (ans : InitAnswer)
  | free
  /-- Other programs have changed the files. -/
  | outside (files : Directory CString Char)

def LogOp.run (b : LogBuild) (zl : Zlib) : LogOp → Logger → Option Logger
  | log call ans, s => logLog b zl call ans s
  | init config ans, s => logInitialize b zl config ans s
  | free, s => some (logFree s)
  | outside files, s => some { s with files }

/-- The calls of `log_log` that are made. -/
def LogOp.calls (b : LogBuild) (zl : Zlib) : LogOp → Logger → List LogStep
  | log call ans, s => [⟨call, ans, s⟩]
  | init config ans, s => initializeCalls b zl config ans s
  | free, _ => []
  | outside _, _ => []

def runOps (b : LogBuild) (zl : Zlib) : List LogOp → Logger → Option Logger
  | [], s => some s
  | op :: rest, s => (op.run b zl s).bind (runOps b zl rest)

def callsOf (b : LogBuild) (zl : Zlib) : List LogOp → Logger → List LogStep
  | [], _ => []
  | op :: rest, s => op.calls b zl s ++ (op.run b zl s).elim [] (callsOf b zl rest)

section Runs

variable {b : LogBuild} {zl : Zlib}

theorem LogOp.run_traced (op : LogOp) (s : Logger) :
    Traced b zl (op.run b zl s) (op.calls b zl s) := by
  cases op with
  | log call ans => simp [Traced, run, calls, LogStep.result]
  | init config ans => exact logInitialize_traced config ans s
  | free => exact .some _
  | outside files => exact .some _

/-- A run ends early only in a call of `log_log`. -/
theorem runOps_traced (ops : List LogOp) (s : Logger) :
    Traced b zl (runOps b zl ops s) (callsOf b zl ops s) := by
  induction ops generalizing s with
  | nil => exact .some s
  | cons op rest ih => exact (op.run_traced s).bind ih

end Runs

/-- Exactly if each call of `log_log` in the run that writes a line finds an open log file or can
open one, every line is written to an open file or skipped, and the run comes to its end. -/
theorem log_handle_iff (b : LogBuild) (zl : Zlib) (ops : List LogOp) (s : Logger) :
    ((∀ c ∈ callsOf b zl ops s, c.WritesOrSkips b zl) ∧ (runOps b zl ops s).isSome) ↔
      ∀ c ∈ callsOf b zl ops s, c.Opens := by
  have hrun : (runOps b zl ops s).isSome ↔ ∀ c ∈ callsOf b zl ops s, c.Opens := by
    refine (runOps_traced ops s).trans ?_
    exact forall₂_congr fun c _ => LogStep.result_isSome_iff
  have hlines : (∀ c ∈ callsOf b zl ops s, c.WritesOrSkips b zl) ↔
      ∀ c ∈ callsOf b zl ops s, c.Opens := forall₂_congr fun c _ => LogStep.writesOrSkips_iff
  rw [hrun, hlines, and_self]

/-- File logging at a level at which `log_initialize` has something to say itself. -/
def debugConfig : ZlogConfig := { setQuiet := 1, level := 1, enableFileLog := 1 }

/-- No file can be opened, neither where it was configured nor in `./`. -/
def noFileOpens : InitAnswer :=
  { size := { openConfigured := false, openFallback := false }, openInitial := false }

/-- `log_initialize` writes its message about the size through a null handle. -/
theorem log_null_write : ∃ c ∈ callsOf fileBuild unusedZlib
    [.init (some debugConfig) noFileOpens] (.start .empty), c.state.Writes c.call ∧
    (∃ s', openForLine fileBuild unusedZlib c.ans c.state = some s' ∧ s'.zlog.fp = none) ∧
    ¬ c.WritesOrSkips fileBuild unusedZlib := by
  refine ⟨sizeCall debugConfig noFileOpens.size
    { (Logger.start .empty) with
      logInitialized := true
      zlog := ZLog.configure fileBuild debugConfig { level := 1 } },
    List.mem_cons_self, by decide, ⟨_, rfl, rfl⟩, ?_⟩
  rintro ⟨s', hresult, -⟩
  have hnone : (none : Option Logger) = some s' := hresult
  simp at hnone

end ZohoIotSdk
