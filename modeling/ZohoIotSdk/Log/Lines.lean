import ZohoIotSdk.Log.Rotation

/-!
# The lines that are written

Which lines a call of `log_log` adds to those written so far, whatever becomes of the files: its
text, if its level and the setup say so (`logLog_lines`). The messages that `log_initialize` logs
itself are calls of `log_log` as well.
-/

namespace ZohoIotSdk

open Files (Directory)

/-! ## Before the line is written -/

section Call

variable {b : LogBuild} {zl : Zlib} {ans : LogAnswer} {s s' : Logger}

/-- The part of `log_log` before the line is written. -/
def openForLine (b : LogBuild) (zl : Zlib) (ans : LogAnswer) (s : Logger) : Option Logger :=
  let size := logSize s
  let s := ensureOpen ans (closeUnlinked s)
  if s.zlog.maxLogFileSize < size then rotate b zl ans s else some s

/-- The call opens the file and writes the line. -/
theorem logToFile_eq_bind (call : LogCall) : logToFile b zl call ans s =
    (openForLine b zl ans s).bind (writeLine (call.text ans.date)) := rfl

theorem closeUnlinked_zlog (s : Logger) :
    (closeUnlinked s).zlog = { s.zlog with fp := (closeUnlinked s).zlog.fp } := by
  unfold closeUnlinked
  split
  · rfl
  · split
    · rfl
    · rfl

theorem closeUnlinked_written (s : Logger) : (closeUnlinked s).written = s.written := by
  unfold closeUnlinked
  split
  · rfl
  · split
    · rfl
    · rfl

theorem openLog_written (succeeds : Bool) (s : Logger) :
    (openLog succeeds s).written = s.written := by
  cases succeeds with
  | false => rfl
  | true => rfl

/-- Opening the file keeps the limits. -/
theorem ensureOpen_limits (ans : LogAnswer) (s : Logger) :
    (ensureOpen ans s).zlog.maxLogFileSize = s.zlog.maxLogFileSize ∧
    (ensureOpen ans s).zlog.maxRollingLogFile = s.zlog.maxRollingLogFile ∧
    (ensureOpen ans s).written = s.written := by
  unfold ensureOpen
  split
  · split
    · exact ⟨rfl, rfl, rfl⟩
    · dsimp only
      split
      · exact ⟨rfl, rfl, rfl⟩
      · exact ⟨rfl, rfl, rfl⟩
  · exact ⟨rfl, rfl, rfl⟩

theorem rotate_written (h : rotate b zl ans s = some s') : s'.written = s.written := by
  unfold rotate at h
  dsimp only at h
  split at h
  · rw [← Option.some.inj h, openLog_written]
    rfl
  · split at h
    · simp at h
    · rw [← Option.some.inj h, openLog_written]
      rfl

/-- Before the line the file is opened and, when it is full, rotated. -/
theorem openForLine_eq (b : LogBuild) (zl : Zlib) (ans : LogAnswer) (s : Logger) :
    openForLine b zl ans s = if s.Rotates then rotate b zl ans (ensureOpen ans (closeUnlinked s))
      else some (ensureOpen ans (closeUnlinked s)) := by
  have hmax : (ensureOpen ans (closeUnlinked s)).zlog.maxLogFileSize = s.zlog.maxLogFileSize := by
    rw [(ensureOpen_limits ans _).1, closeUnlinked_zlog]
  unfold openForLine Logger.Rotates
  simp only [hmax]
  rfl

theorem openForLine_written (h : openForLine b zl ans s = some s') : s'.written = s.written := by
  have hbefore : (ensureOpen ans (closeUnlinked s)).written = s.written := by
    rw [(ensureOpen_limits ans _).2.2, closeUnlinked_written]
  rw [openForLine_eq] at h
  split at h
  · rw [rotate_written h, hbefore]
  · rw [← Option.some.inj h, hbefore]

end Call

/-! ## The lines of calls -/

/-- The lines that the calls write to the log file with the given setup. -/
def linesOf (z : ZLog) (calls : List (LogCall × LogAnswer)) : List CString :=
  if z.fileLog then
    (calls.filter fun c => z.level ≤ c.1.level.toInt).map fun c => c.1.text c.2.date
  else []

theorem linesOf_append (z : ZLog) (calls calls' : List (LogCall × LogAnswer)) :
    linesOf z (calls ++ calls') = linesOf z calls ++ linesOf z calls' := by
  unfold linesOf
  split
  · rw [List.filter_append, List.map_append]
  · rfl

/-- A call has its line when the logger writes it. -/
theorem linesOf_singleton (s : Logger) (call : LogCall) (ans : LogAnswer) :
    linesOf s.zlog [(call, ans)] = if s.Writes call then [call.text ans.date] else [] := by
  unfold linesOf Logger.Writes
  by_cases hfile : s.zlog.fileLog = true
  · by_cases hlevel : s.zlog.level ≤ call.level.toInt
    · simp [hfile, hlevel]
    · simp [hfile, hlevel]
  · simp [hfile]

/-- A call of `log_log` writes its line and no other one. -/
theorem logLog_lines {b : LogBuild} {zl : Zlib} {call : LogCall} {ans : LogAnswer} {s s' : Logger}
    (h : logLog b zl call ans s = some s') :
    s'.written.map Written.line = s.written.map Written.line ++ linesOf s.zlog [(call, ans)] := by
  rw [linesOf_singleton]
  by_cases hwrites : s.Writes call
  · obtain ⟨out, hlog⟩ := logLog_of_writes b zl ans hwrites
    rw [hlog, logToFile_eq_bind] at h
    obtain ⟨s₁, hopen, hwrite⟩ := Option.bind_eq_some_iff.mp h
    have hwritten : s₁.written = ({ s with stderr := out } : Logger).written :=
      openForLine_written hopen
    unfold writeLine at hwrite
    split at hwrite
    · simp at hwrite
    · rw [← Option.some.inj hwrite, if_pos hwrites, List.map_append, hwritten]
      rfl
  · obtain ⟨out, hlog⟩ := logLog_of_not_writes b zl ans hwrites
    rw [hlog] at h
    rw [← Option.some.inj h, if_neg hwrites, List.append_nil]

/-! ## The calls of `log_initialize` -/

/-- A call of `log_log`, with the state it is made in. -/
structure LogStep where
  call : LogCall
  ans : LogAnswer
  state : Logger

/-- The arguments of the call. -/
def LogStep.args (c : LogStep) : LogCall × LogAnswer := (c.call, c.ans)

/-- The calls of the branch on `logCompress`. -/
def compressionCalls (b : LogBuild) (config : ZlogConfig) (ans : LogAnswer) (s : Logger) :
    List LogStep :=
  if config.logCompress then
    if b.compress then [⟨ownMessage .info 159 "Enabled Log compression".toList, ans, s⟩]
    else [⟨ownMessage .warn 166
      "Log compression lib not included, continuing on without compression".toList, ans, s⟩]
  else []

/-- The call of the branches on the maximum size. -/
def sizeCall (config : ZlogConfig) (ans : LogAnswer) (s : Logger) : LogStep :=
  if config.maxLogFileSize ≤ maxLogFileSize then
    if config.maxLogFileSize ≤ minLogFileSize then
      ⟨ownMessage .warn 191
        ("Log File size is lesserthan Mn file size \n continuing on default min size ".toList ++
          intText minLogFileSize ++ " bytes".toList), ans, logSetMaxLogSize minLogFileSize s⟩
    else
      ⟨ownMessage .info 200 ("Log File size: ".toList ++ intText config.maxLogFileSize ++
        " bytes".toList), ans, logSetMaxLogSize config.maxLogFileSize s⟩
  else
    ⟨ownMessage .warn 209
      ("Log File size is greaterthan Max file size \n continuing on default max size ".toList ++
        intText maxLogFileSize ++ " bytes".toList), ans, s⟩

/-- The messages are the same in all states. -/
theorem args_compressionCalls (b : LogBuild) (config : ZlogConfig) (ans : LogAnswer)
    (s s' : Logger) : (compressionCalls b config ans s).map LogStep.args =
      (compressionCalls b config ans s').map LogStep.args := by
  unfold compressionCalls
  split
  · split
    · rfl
    · rfl
  · rfl

/-- The text of the call does not depend on the state. -/
theorem args_sizeCall (config : ZlogConfig) (ans : LogAnswer) (s s' : Logger) :
    (sizeCall config ans s).args = (sizeCall config ans s').args := by
  unfold sizeCall
  split
  · split
    · rfl
    · rfl
  · rfl

/-- The messages of `log_initialize`, in the order in which it logs them. -/
def initialCalls (b : LogBuild) (config : Option ZlogConfig) (ans : InitAnswer) (s : Logger) :
    List (LogCall × LogAnswer) :=
  config.elim [] fun config =>
    (compressionCalls b config ans.compression s ++ [sizeCall config ans.size s]).map LogStep.args

end ZohoIotSdk
