import ZohoIotSdk.Client.Ack
import ZohoIotSdk.Log.LastLines
import ZohoIotSdk.Log.Moves
import ZohoIotSdk.Log.Runs

/-!
# Uploads of the log

`get_cloud_log` reads the log file through a handle of its own while `log_log` appends to the
file, moves it and begins another one. It stores where the file has ended as the old end for the
next time; if the file is nearly as long as the maximum size, it takes this for a rotation,
opens the file anew and begins at zero.

Uploads write to the log themselves, and other threads write to it during an upload: each of
the messages stands in a `Gap` with the calls around it.

`uploads_apart`: no line is uploaded twice, in every run whose uploads do not begin anew with a
file that is still the same, and read to where they store the end.
-/

namespace ZohoIotSdk

open Files (Directory)
open Files.Directory

/-! ## The state -/

/-- `ZcloudLog` -/
structure ZCloudLog where
  currentLogFile : CString := []
  file : Option ℕ := none
  fileNewEndingPosition : ℕ := 0
  fileOldEndingPosition : ℕ := 0

/-- A result of `get_cloud_log`: which file it comes from, at which position, in pieces, and the
end of the file that is stored with it. -/
structure Returned where
  file : ℕ
  start : ℕ
  pieces : List (List Char)
  stored : ℕ

/-- Where the bytes of the result end in the file. -/
def Returned.stop (r : Returned) : ℕ := r.start + r.pieces.flatten.length

structure CloudLogger where
  logger : Logger
  cloud : ZCloudLog := {}
  /-- `NUM_LINES_TO_READ` -/
  numLinesToRead : ℤ := 100
  /-- The results so far; no function reads them. -/
  returned : List Returned := []

/-! ## Messages -/

/-- What other threads log before and after a message. -/
structure Gap where
  before : List (LogCall × LogAnswer) := []
  answer : LogAnswer := {}
  after : List (LogCall × LogAnswer) := []

def Gap.around (g : Gap) (own : LogCall) : List (LogCall × LogAnswer) :=
  g.before ++ (own, g.answer) :: g.after

def errorOpeningFile (line : ℤ) : LogCall := ownMessage .error line "Error opening file".toList

def oldFileClosed : LogCall := ownMessage .debug 490 "Old File closed\n".toList

/-- What the environment answers during an upload: whether the file can be opened again, and what
is logged along with the messages and between the two looks at the end of the file. -/
structure CloudAnswer where
  closed : Gap := {}
  fopen : Bool := true
  failed : Gap := {}
  between : List (LogCall × LogAnswer) := []
  requested : Gap := {}
  maximum : Gap := {}
  size : Gap := {}
  lines : Gap := {}

/-- What is logged during `get_last_lines`. -/
def lastLinesMessages (ans : CloudAnswer) (content : List Char) (numLines : ℤ) (oldEnd : ℕ) :
    List (LogCall × LogAnswer) :=
  let scan := scanFile content numLines oldEnd
  ans.requested.around (ownMessage .debug 429
    ("Lines requested to read by command: ".toList ++ intText numLines)) ++
  ans.maximum.around (ownMessage .debug 430
    "Maximum bytes in a file allowed to read : 800.000000 KB".toList) ++
  ans.size.around (ownMessage .info 453 ("Cloud logging : size of file readed : ".toList ++
    intText (content.length - scan.pointerPosition : ℕ))) ++
  ans.lines.around (ownMessage .info 454
    ("Cloud Logging: Actual number of lines_readed : ".toList ++ intText scan.linesRead))

/-! ## The functions -/

/-- `fopen` for reading. -/
def fopenRead (succeeds : Bool) (name : CString) (l : Logger) : Option ℕ :=
  if succeeds then l.files.lookup name else none

/-- `initialize_cloud_log`. -/
def initializeCloudLog (b : LogBuild) (zl : Zlib) (fopen : Bool) (ans : LogAnswer)
    (s : CloudLogger) : Option CloudLogger :=
  let currentLogFile := s.logger.zlog.currentLogFile
  match fopenRead fopen currentLogFile s.logger with
  | none => (logLog b zl (errorOpeningFile 472) ans s.logger).map fun logger =>
      { s with logger, cloud := { s.cloud with currentLogFile, file := none } }
  | some file =>
    some { s with cloud :=
      { s.cloud with currentLogFile, file := some file, fileOldEndingPosition := 0 } }

/-- The file is so long that `get_cloud_log` opens it again. -/
def CloudLogger.Reopens (s : CloudLogger) (file : ℕ) : Prop :=
  s.logger.zlog.maxLogFileSize - 5000 < (s.logger.files.contents file).length

instance (s : CloudLogger) (file : ℕ) : Decidable (s.Reopens file) :=
  inferInstanceAs (Decidable (_ < _))

/-- The part of `get_cloud_log` before the lines are read. -/
def findCloudLog (b : LogBuild) (zl : Zlib) (ans : CloudAnswer) (s : CloudLogger) :
    Option CloudLogger :=
  match s.cloud.file with
  | none => (logAll b zl (ans.failed.around (errorOpeningFile 481)) s.logger).map fun logger =>
      { s with logger }
  | some file =>
    if s.Reopens file then
      (logAll b zl (ans.closed.around oldFileClosed) s.logger).bind fun logger =>
        match fopenRead ans.fopen s.cloud.currentLogFile logger with
        | none => (logAll b zl (ans.failed.around (errorOpeningFile 494)) logger).map fun logger =>
            { s with logger, cloud := { s.cloud with
              file := none
              fileNewEndingPosition := (s.logger.files.contents file).length } }
        | some file => some { s with logger, cloud := { s.cloud with
            file := some file
            fileOldEndingPosition := 0
            fileNewEndingPosition := (logger.files.contents file).length } }
    else some { s with cloud := { s.cloud with
      fileNewEndingPosition := (s.logger.files.contents file).length } }

/-- The part of `get_cloud_log` that reads the lines; `content` is the file at the beginning of
`get_last_lines`. -/
def readCloudLog (b : LogBuild) (zl : Zlib) (ans : CloudAnswer) (s : CloudLogger) (file : ℕ)
    (content : List Char) (logger : Logger) : Option (LastLines × CloudLogger) :=
  let numLines := s.numLinesToRead
  let oldEnd := s.cloud.fileOldEndingPosition
  (logAll b zl (lastLinesMessages ans content numLines oldEnd) logger).map fun logger =>
    -- the lines are read from the file as it is now
    let growth := (logger.files.contents file).drop content.length
    (getLastLines content growth numLines oldEnd,
      { s with
        logger
        cloud := { s.cloud with fileOldEndingPosition := s.cloud.fileNewEndingPosition }
        returned := s.returned ++ [⟨file, (scanFile content numLines oldEnd).filePosition,
          lastPieces content growth numLines oldEnd, s.cloud.fileNewEndingPosition⟩] })

/-- `get_cloud_log`. -/
def getCloudLog (b : LogBuild) (zl : Zlib) (ans : CloudAnswer) (s : CloudLogger) :
    Option (Option LastLines × CloudLogger) :=
  (findCloudLog b zl ans s).bind fun s =>
    match s.cloud.file with
    | none => some (none, s)
    | some file =>
      (logAll b zl ans.between s.logger).bind fun logger =>
        (readCloudLog b zl ans s file (logger.files.contents file) logger).map fun r =>
          (some r.1, r.2)

/-- `cloud_logging_set_lines`. -/
def CloudLogger.cloudLoggingSetLines (b : LogBuild) (zl : Zlib) (line : CString)
    (ans : LogAnswer) (s : CloudLogger) : Option CloudLogger :=
  if atoi line < 1 then
    (logLog b zl (ownMessage .error 509 "cloud logging: number of lines is invalid".toList) ans
      s.logger).map fun logger => { s with logger }
  else some { s with numLinesToRead := atoi line }

/-! ## Runs -/

/-- What happens to the log, one after the other. -/
inductive CloudOp where
  | log (call : LogCall) (ans : LogAnswer)
  | upload (ans : CloudAnswer)
  | setLines (line : CString) (ans : LogAnswer)

def CloudOp.apply (b : LogBuild) (zl : Zlib) (s : CloudLogger) : CloudOp → Option CloudLogger
  | log call ans => (logLog b zl call ans s.logger).map fun logger => { s with logger }
  | upload ans => (getCloudLog b zl ans s).map Prod.snd
  | setLines line ans => s.cloudLoggingSetLines b zl line ans

def runCloud (b : LogBuild) (zl : Zlib) : List CloudOp → CloudLogger → Option CloudLogger
  | [], s => some s
  | op :: ops, s => (op.apply b zl s).bind (runCloud b zl ops)

/-- What a step returns. -/
def CloudOp.result (b : LogBuild) (zl : Zlib) (s : CloudLogger) : CloudOp → Option LastLines
  | upload ans => (getCloudLog b zl ans s).bind Prod.fst
  | _ => none

/-- What the uploads of a run return, one after the other. -/
def uploadResults (b : LogBuild) (zl : Zlib) : List CloudOp → CloudLogger → List LastLines
  | [], _ => []
  | op :: ops, s => (op.result b zl s).toList ++
    ((op.apply b zl s).map (uploadResults b zl ops)).getD []

/-! ## Uploads that read on where the last one has ended -/

/-- If the file is opened again, then it is another file than the one that was read, or nothing
was read of it. -/
def BeginsAnew (b : LogBuild) (zl : Zlib) (ans : CloudAnswer) (s : CloudLogger) : Prop :=
  ∀ file ∈ s.cloud.file, s.Reopens file →
    ∀ logger ∈ logAll b zl (ans.closed.around oldFileClosed) s.logger,
      fopenRead ans.fopen s.cloud.currentLogFile logger = some file →
        s.cloud.fileOldEndingPosition = 0

/-- Fewer newlines follow the old end than lines are asked for, and the file does not begin with
a newline. -/
def FewLines (content : List Char) (numLines : ℤ) (oldEnd : ℕ) : Prop :=
  ((content.drop oldEnd).count '\n' : ℤ) < numLines ∧ content[0]? ≠ some '\n'

/-- Nothing is appended to the file after its end was stored, unless few lines are read and the
file grows only after the second look at its end. -/
def StopsAtEnd (b : LogBuild) (zl : Zlib) (ans : CloudAnswer) (s : CloudLogger) : Prop :=
  ∀ s₁ ∈ findCloudLog b zl ans s, ∀ file ∈ s₁.cloud.file,
    ∀ logger ∈ logAll b zl ans.between s₁.logger,
      (logger.files.contents file).length = s₁.cloud.fileNewEndingPosition ∧
      ∀ logger' ∈ logAll b zl (lastLinesMessages ans (logger.files.contents file)
          s₁.numLinesToRead s₁.cloud.fileOldEndingPosition) logger,
        (logger'.files.contents file).length = s₁.cloud.fileNewEndingPosition ∨
        FewLines (logger.files.contents file) s₁.numLinesToRead s₁.cloud.fileOldEndingPosition

/-- The condition on a step. -/
def CloudOp.ReadsOn (b : LogBuild) (zl : Zlib) (s : CloudLogger) : CloudOp → Prop
  | upload ans => BeginsAnew b zl ans s ∧ StopsAtEnd b zl ans s
  | _ => True

/-- All steps of the run meet the condition. -/
def AllReadOn (b : LogBuild) (zl : Zlib) : List CloudOp → CloudLogger → Prop
  | [], _ => True
  | op :: ops, s => op.ReadsOn b zl s ∧ ∀ s' ∈ op.apply b zl s, AllReadOn b zl ops s'

section Decidable

variable (b : LogBuild) (zl : Zlib) (ans : CloudAnswer) (s : CloudLogger)

instance : Decidable (BeginsAnew b zl ans s) := by
  delta BeginsAnew
  infer_instance

instance (content : List Char) (numLines : ℤ) (oldEnd : ℕ) :
    Decidable (FewLines content numLines oldEnd) := inferInstanceAs (Decidable (_ ∧ _))

instance : Decidable (StopsAtEnd b zl ans s) := by
  delta StopsAtEnd
  infer_instance

instance (op : CloudOp) : Decidable (op.ReadsOn b zl s) :=
  match op with
  | .log _ _ => .isTrue trivial
  | .upload ans => inferInstanceAs (Decidable (BeginsAnew b zl ans s ∧ StopsAtEnd b zl ans s))
  | .setLines _ _ => .isTrue trivial

instance decidableAllReadOn : ∀ (ops : List CloudOp) (s : CloudLogger),
    Decidable (AllReadOn b zl ops s)
  | [], _ => .isTrue trivial
  | op :: ops, s =>
    have : ∀ s', Decidable (AllReadOn b zl ops s') := decidableAllReadOn ops
    inferInstanceAs (Decidable (op.ReadsOn b zl s ∧ ∀ s' ∈ op.apply b zl s, AllReadOn b zl ops s'))

end Decidable

/-! ## What the functions do -/

/-- A file that is opened for reading has the name. -/
theorem lookup_of_fopenRead {succeeds : Bool} {name : CString} {l : Logger} {file : ℕ}
    (h : fopenRead succeeds name l = some file) : l.files.lookup name = some file := by
  unfold fopenRead at h
  split at h
  · exact h
  · simp at h

/-- Before the lines are read, there is no file, or the file is the one that was read before, or
it was opened again. -/
inductive Found (b : LogBuild) (zl : Zlib) (ans : CloudAnswer) (s : CloudLogger) :
    CloudLogger → Prop where
  | none (logger : Logger) (newEnd : ℕ) (hmoves : FilesMove s.logger.files logger.files) :
    Found b zl ans s { s with logger, cloud := { s.cloud with
      file := none
      fileNewEndingPosition := newEnd } }
  | same (file : ℕ) (hfile : s.cloud.file = some file) :
    Found b zl ans s { s with cloud := { s.cloud with
      fileNewEndingPosition := (s.logger.files.contents file).length } }
  | again (file file' : ℕ) (logger : Logger) (hfile : s.cloud.file = some file)
      (hreopens : s.Reopens file)
      (hlog : logAll b zl (ans.closed.around oldFileClosed) s.logger = some logger)
      (hopen : fopenRead ans.fopen s.cloud.currentLogFile logger = some file') :
    Found b zl ans s { s with logger, cloud := { s.cloud with
      file := some file'
      fileOldEndingPosition := 0
      fileNewEndingPosition := (logger.files.contents file').length } }

/-- The search ends in one of the listed cases. -/
theorem findCloudLog_found {b : LogBuild} {zl : Zlib} {ans : CloudAnswer} {s s' : CloudLogger}
    (h : findCloudLog b zl ans s = some s') : Found b zl ans s s' := by
  unfold findCloudLog at h
  split at h
  · rename_i hfile
    obtain ⟨logger, hlog, rfl⟩ := Option.map_eq_some_iff.mp h
    have hfound : Found b zl ans s { s with logger, cloud := { s.cloud with file := none } } :=
      .none logger _ (logAll_moves hlog)
    rw [← hfile] at hfound
    exact hfound
  · rename_i file hfile
    split at h
    · rename_i hreopens
      obtain ⟨logger, hlog, hrest⟩ := Option.bind_eq_some_iff.mp h
      split at hrest
      · obtain ⟨logger', hlog', rfl⟩ := Option.map_eq_some_iff.mp hrest
        exact .none logger' _ ((logAll_moves hlog).trans (logAll_moves hlog'))
      · rename_i file' hopen
        obtain rfl := Option.some.inj hrest
        exact .again file file' logger hfile hreopens hlog hopen
    · obtain rfl := Option.some.inj h
      exact .same file hfile

/-- An upload finds no file, or it reads the lines. -/
theorem getCloudLog_cases {b : LogBuild} {zl : Zlib} {ans : CloudAnswer} {s s' : CloudLogger}
    {result : Option LastLines} (h : getCloudLog b zl ans s = some (result, s')) :
    ∃ s₁, findCloudLog b zl ans s = some s₁ ∧
      ((s₁.cloud.file = none ∧ result = none ∧ s' = s₁) ∨
      ∃ file logger lines, s₁.cloud.file = some file ∧
        logAll b zl ans.between s₁.logger = some logger ∧ result = some lines ∧
        readCloudLog b zl ans s₁ file (logger.files.contents file) logger = some (lines, s')) := by
  obtain ⟨s₁, hfind, hrest⟩ := Option.bind_eq_some_iff.mp h
  refine ⟨s₁, hfind, ?_⟩
  split at hrest
  · rename_i hfile
    obtain ⟨hresult, hstate⟩ := Prod.mk.inj (Option.some.inj hrest)
    exact .inl ⟨hfile, hresult.symm, hstate.symm⟩
  · rename_i file hfile
    obtain ⟨logger, hlog, hmap⟩ := Option.bind_eq_some_iff.mp hrest
    obtain ⟨⟨lines, s₂⟩, hread, heq⟩ := Option.map_eq_some_iff.mp hmap
    obtain ⟨hlines, hstate⟩ := Prod.mk.inj heq
    rw [show s₂ = s' from hstate] at hread
    exact .inr ⟨file, logger, lines, hfile, hlog, hlines.symm, hread⟩

/-! ## The results -/

/-- The strings of the result. -/
def Returned.lines (r : Returned) : List CString := r.pieces.map cstr

/-- The results so far, as the strings that were returned. -/
def CloudLogger.returnedLines (s : CloudLogger) : List (List CString) :=
  s.returned.map Returned.lines

/-- The strings that an upload returns are the pieces of the result that is recorded. -/
theorem getCloudLog_returned {b : LogBuild} {zl : Zlib} {ans : CloudAnswer} {s s' : CloudLogger}
    {result : Option LastLines} (h : getCloudLog b zl ans s = some (result, s')) :
    s'.returnedLines = s.returnedLines ++ result.toList.map LastLines.lines := by
  obtain ⟨s₁, hfind, hcase⟩ := getCloudLog_cases h
  have hsame : s₁.returned = s.returned := by
    cases findCloudLog_found hfind <;> rfl
  rcases hcase with ⟨-, rfl, rfl⟩ | ⟨file, logger, lines, -, -, rfl, hread⟩
  · rw [CloudLogger.returnedLines, hsame]
    exact (List.append_nil _).symm
  · obtain ⟨logger', -, heq⟩ := Option.map_eq_some_iff.mp hread
    obtain ⟨rfl, rfl⟩ := Prod.mk.inj heq
    simp [CloudLogger.returnedLines, hsame, Returned.lines, strings_getLastLines]

/-- A call appends the lines of its result, if it has one. -/
theorem CloudOp.apply_returnedLines {b : LogBuild} {zl : Zlib} {op : CloudOp}
    {s s' : CloudLogger} (h : op.apply b zl s = some s') :
    s'.returnedLines = s.returnedLines ++ (op.result b zl s).toList.map LastLines.lines := by
  cases op with
  | log call ans =>
    obtain ⟨logger, -, rfl⟩ := Option.map_eq_some_iff.mp h
    exact (List.append_nil _).symm
  | upload ans =>
    obtain ⟨⟨lines, s₁⟩, hupload, rfl⟩ := Option.map_eq_some_iff.mp h
    rw [CloudOp.result, hupload]
    exact getCloudLog_returned hupload
  | setLines line ans =>
    have hsame : s'.returned = s.returned := by
      change s.cloudLoggingSetLines b zl line ans = some s' at h
      unfold CloudLogger.cloudLoggingSetLines at h
      split at h
      · obtain ⟨logger, -, rfl⟩ := Option.map_eq_some_iff.mp h
        rfl
      · obtain rfl := Option.some.inj h
        rfl
    rw [CloudLogger.returnedLines, hsame]
    exact (List.append_nil _).symm

/-- The results that are recorded in a run are what its uploads return. -/
theorem runCloud_returnedLines {b : LogBuild} {zl : Zlib} {ops : List CloudOp}
    {s s' : CloudLogger} (h : runCloud b zl ops s = some s') :
    s'.returnedLines = s.returnedLines ++ (uploadResults b zl ops s).map LastLines.lines := by
  induction ops generalizing s with
  | nil =>
    obtain rfl := Option.some.inj h
    exact (List.append_nil _).symm
  | cons op ops ih =>
    obtain ⟨s₁, happly, hrun⟩ := Option.bind_eq_some_iff.mp h
    rw [ih hrun, op.apply_returnedLines happly, uploadResults, happly, Option.map_some,
      Option.getD_some, List.map_append, List.append_assoc]

/-! ## The invariant -/

/-- What the result has stands in the file. -/
def Returned.Stands (r : Returned) (d : Directory CString Char) : Prop :=
  r.pieces.flatten <+: (d.contents r.file).drop r.start

/-- The second result has at most one byte before the end that was stored with the first one. -/
def Returned.EndsBefore (r r' : Returned) : Prop := r.file = r'.file → r.stored ≤ r'.start + 1

/-- The file that is read, and the old end in it: the results that come from this file end
there, and the files of the other ones have passed the name. -/
structure Reads (s : CloudLogger) (file : ℕ) : Prop where
  lasting : Lasting IsGz s.logger.files file
  above : Above nameRank s.cloud.currentLogFile s.logger.files file
  oldEnd_le : s.cloud.fileOldEndingPosition ≤ (s.logger.files.contents file).length
  returned : ∀ r ∈ s.returned, (r.file = file ∧ r.stored ≤ s.cloud.fileOldEndingPosition) ∨
    (r.file ≠ file ∧ r.file < s.logger.files.next ∧
      Passed nameRank s.cloud.currentLogFile s.logger.files r.file)

structure Tracked (s : CloudLogger) : Prop where
  name : ¬ IsGz s.cloud.currentLogFile
  stands : ∀ r ∈ s.returned, Lasting IsGz s.logger.files r.file ∧ r.Stands s.logger.files
  stop_le : ∀ r ∈ s.returned, r.stop ≤ r.stored
  apart : s.returned.Pairwise Returned.EndsBefore
  reads : ∀ file, s.cloud.file = some file → Reads s file

section Steps

variable {b : LogBuild} {zl : Zlib} {s s' : CloudLogger} {file : ℕ}

/-- The log files may be moved. -/
theorem Reads.logger (h : Reads s file) {logger : Logger}
    (hmoves : FilesMove s.logger.files logger.files) : Reads { s with logger } file := by
  refine ⟨hmoves.lasting h.lasting, hmoves.above h.lasting.lt h.above, ?_, ?_⟩
  · have hgrown := (hmoves.grown file h.lasting.lt h.lasting.not_scratch).length_le
    exact Nat.le_trans h.oldEnd_le hgrown
  · intro r hr
    rcases h.returned r hr with hsame | ⟨hne, hlt, hpassed⟩
    · exact .inl hsame
    · exact .inr ⟨hne, Nat.lt_of_lt_of_le hlt hmoves.next_le, hmoves.passed hlt hpassed⟩

/-- What has been read stays in its file. -/
theorem Tracked.stands_of_moves (h : Tracked s) {d : Directory CString Char}
    (hmoves : FilesMove s.logger.files d) :
    ∀ r ∈ s.returned, Lasting IsGz d r.file ∧ r.Stands d := by
  intro r hr
  obtain ⟨hlasting, hstands⟩ := h.stands r hr
  have hgrown := hmoves.grown r.file hlasting.lt hlasting.not_scratch
  exact ⟨hmoves.lasting hlasting, hstands.trans (hgrown.drop r.start)⟩

/-- Moves of the log files keep the position tracked. -/
theorem Tracked.logger (h : Tracked s) {logger : Logger}
    (hmoves : FilesMove s.logger.files logger.files) : Tracked { s with logger } :=
  ⟨h.name, h.stands_of_moves hmoves, h.stop_le, h.apart,
    fun file hfile => (h.reads file hfile).logger hmoves⟩

/-- The file with the name is another one, or nothing was read of it: it is read from its
beginning. -/
theorem Reads.reopen (h : Reads s file) (hname : ¬ IsGz s.cloud.currentLogFile) {file' : ℕ}
    (hlookup : s.logger.files.lookup s.cloud.currentLogFile = some file')
    (hanew : file' = file → s.cloud.fileOldEndingPosition = 0) (newEnd : ℕ) :
    Reads { s with cloud := { s.cloud with
      file := some file'
      fileOldEndingPosition := 0
      fileNewEndingPosition := newEnd } } file' := by
  refine ⟨lasting_of_lookup hlookup hname, above_of_lookup hlookup, Nat.zero_le _, ?_⟩
  intro r hr
  rcases h.returned r hr with ⟨rfl, hstop⟩ | ⟨-, hlt, hpassed⟩
  · by_cases hsame : file' = r.file
    · rw [hanew hsame] at hstop
      exact .inl ⟨hsame.symm, hstop⟩
    · have hlost : s.logger.files.lookup s.cloud.currentLogFile ≠ some r.file := by
        rw [hlookup]
        exact fun heq => hsame (Option.some.inj heq)
      exact .inr ⟨Ne.symm hsame, h.lasting.lt, h.above.passed hlost⟩
  · refine .inr ⟨?_, hlt, hpassed⟩
    rintro rfl
    exact hpassed.lookup_ne hlookup

/-- The search keeps the position tracked. -/
theorem findCloudLog_tracked {ans : CloudAnswer} (h : Tracked s)
    (hanew : BeginsAnew b zl ans s) (hfind : findCloudLog b zl ans s = some s') : Tracked s' := by
  cases findCloudLog_found hfind with
  | none logger newEnd hmoves =>
    exact ⟨h.name, h.stands_of_moves hmoves, h.stop_le, h.apart, fun file hnone => by simp at hnone⟩
  | same file hfile =>
    refine ⟨h.name, h.stands, h.stop_le, h.apart, fun file' hfile' => ?_⟩
    have hreads := h.reads file' hfile'
    exact ⟨hreads.lasting, hreads.above, hreads.oldEnd_le, hreads.returned⟩
  | again file file' logger hfile hreopens hlog hopen =>
    have hreads : Reads { s with logger } file := (h.reads file hfile).logger (logAll_moves hlog)
    refine ⟨h.name, h.stands_of_moves (logAll_moves hlog), h.stop_le, h.apart,
      fun file₁ hfile₁ => ?_⟩
    obtain rfl : file' = file₁ := Option.some.inj hfile₁
    refine hreads.reopen h.name (lookup_of_fopenRead hopen) (fun hsame => ?_) _
    rw [hsame] at hopen
    exact hanew file hfile hreopens logger hlog hopen

/-- A result that begins at most one byte before the old end and ends at most at the new one,
which is the next old end. -/
theorem Tracked.add (h : Tracked s) (hfile : s.cloud.file = some file) {r : Returned}
    (hr : r.file = file) (hstored : r.stored = s.cloud.fileNewEndingPosition)
    (hstands : r.Stands s.logger.files)
    (hstart : s.cloud.fileOldEndingPosition ≤ r.start + 1)
    (hstop : r.stop ≤ r.stored)
    (hle : s.cloud.fileOldEndingPosition ≤ s.cloud.fileNewEndingPosition)
    (hlength : s.cloud.fileNewEndingPosition ≤ (s.logger.files.contents file).length) :
    Tracked { s with
      cloud := { s.cloud with fileOldEndingPosition := s.cloud.fileNewEndingPosition }
      returned := s.returned ++ [r] } := by
  have hreads := h.reads file hfile
  refine ⟨h.name, ?_, ?_, ?_, fun file' hfile' => ?_⟩
  · intro r' hr'
    rcases List.mem_append.mp hr' with hr' | hr'
    · exact h.stands r' hr'
    · rw [List.mem_singleton.mp hr']
      exact ⟨hr ▸ hreads.lasting, hstands⟩
  · intro r' hr'
    rcases List.mem_append.mp hr' with hr' | hr'
    · exact h.stop_le r' hr'
    · rw [List.mem_singleton.mp hr']
      exact hstop
  · refine List.pairwise_append.mpr ⟨h.apart, List.pairwise_singleton _ _, ?_⟩
    intro r₁ hr₁ r₂ hr₂ heq
    rw [List.mem_singleton.mp hr₂] at heq ⊢
    rcases hreads.returned r₁ hr₁ with ⟨-, hend⟩ | ⟨hne, -⟩
    · exact Nat.le_trans hend hstart
    · exact absurd (heq.trans hr) hne
  · obtain rfl : file = file' := by
      rw [hfile] at hfile'
      exact Option.some.inj hfile'
    refine ⟨hreads.lasting, hreads.above, hlength, fun r' hr' => ?_⟩
    rcases List.mem_append.mp hr' with hr' | hr'
    · rcases hreads.returned r' hr' with ⟨heq, hend⟩ | hother
      · exact .inl ⟨heq, Nat.le_trans hend hle⟩
      · exact .inr hother
    · rw [List.mem_singleton.mp hr']
      exact .inl ⟨hr, Nat.le_of_eq hstored⟩

/-- The lines that are read begin at most one byte before the old end, and end at the end that is
stored. -/
theorem readCloudLog_tracked {ans : CloudAnswer} {logger : Logger} {r : LastLines × CloudLogger}
    (h : Tracked { s with logger }) (hfile : s.cloud.file = some file)
    (hend : (logger.files.contents file).length = s.cloud.fileNewEndingPosition)
    (hstops : ∀ logger' ∈ logAll b zl (lastLinesMessages ans (logger.files.contents file)
        s.numLinesToRead s.cloud.fileOldEndingPosition) logger,
      (logger'.files.contents file).length = s.cloud.fileNewEndingPosition ∨
      FewLines (logger.files.contents file) s.numLinesToRead s.cloud.fileOldEndingPosition)
    (hread : readCloudLog b zl ans s file (logger.files.contents file) logger = some r) :
    Tracked r.2 := by
  unfold readCloudLog at hread
  obtain ⟨logger', hlog, rfl⟩ := Option.map_eq_some_iff.mp hread
  have hreads : Reads { s with logger } file := h.reads file hfile
  have hgrown := (logAll_moves hlog).grown file hreads.lasting.lt hreads.lasting.not_scratch
  have hgrowth : (logger'.files.contents file).drop (logger.files.contents file).length = [] ∨
      FewLines (logger.files.contents file) s.numLinesToRead s.cloud.fileOldEndingPosition := by
    rcases hstops logger' hlog with hsame | hfew
    · exact .inl (List.drop_eq_nil_of_le (by omega))
    · exact .inr hfew
  obtain ⟨hstart, hstop⟩ := lastPieces_within hreads.oldEnd_le hgrowth
  have hpieces := lastPieces_begins (logger.files.contents file)
    ((logger'.files.contents file).drop (logger.files.contents file).length)
    s.numLinesToRead s.cloud.fileOldEndingPosition
  -- the file as it is now is what it was, and the growth
  rw [List.prefix_iff_eq_append.mp hgrown] at hpieces
  have hold : s.cloud.fileOldEndingPosition ≤ s.cloud.fileNewEndingPosition :=
    hend ▸ hreads.oldEnd_le
  have hlength : s.cloud.fileNewEndingPosition ≤ (logger'.files.contents file).length :=
    hend ▸ hgrown.length_le
  exact (h.logger (logAll_moves hlog)).add hfile rfl rfl hpieces hstart (hend ▸ hstop) hold
    hlength

/-- An upload keeps the position tracked. -/
theorem getCloudLog_tracked {ans : CloudAnswer} {result : Option LastLines} (h : Tracked s)
    (hanew : BeginsAnew b zl ans s) (hstops : StopsAtEnd b zl ans s)
    (hget : getCloudLog b zl ans s = some (result, s')) : Tracked s' := by
  obtain ⟨s₁, hfind, hcase⟩ := getCloudLog_cases hget
  have htracked := findCloudLog_tracked h hanew hfind
  rcases hcase with ⟨-, -, rfl⟩ | ⟨file, logger, lines, hfile, hlog, -, hread⟩
  · exact htracked
  · obtain ⟨hend, hrest⟩ := hstops s₁ hfind file hfile logger hlog
    exact readCloudLog_tracked (htracked.logger (logAll_moves hlog)) hfile hend hrest hread

/-- One step. -/
theorem CloudOp.apply_tracked {op : CloudOp} (h : Tracked s) (hok : op.ReadsOn b zl s)
    (happly : op.apply b zl s = some s') : Tracked s' := by
  cases op with
  | log call ans =>
    obtain ⟨logger, hlog, rfl⟩ := Option.map_eq_some_iff.mp happly
    exact h.logger (logLog_moves hlog)
  | upload ans =>
    obtain ⟨⟨result, s₁⟩, hget, rfl⟩ := Option.map_eq_some_iff.mp happly
    exact getCloudLog_tracked h hok.1 hok.2 hget
  | setLines line ans =>
    have hset : s.cloudLoggingSetLines b zl line ans = some s' := happly
    unfold CloudLogger.cloudLoggingSetLines at hset
    split at hset
    · obtain ⟨logger, hlog, rfl⟩ := Option.map_eq_some_iff.mp hset
      exact h.logger (logLog_moves hlog)
    · obtain rfl := Option.some.inj hset
      refine ⟨h.name, h.stands, h.stop_le, h.apart, fun file hfile => ?_⟩
      have hreads := h.reads file hfile
      exact ⟨hreads.lasting, hreads.above, hreads.oldEnd_le, hreads.returned⟩

/-- A run. -/
theorem runCloud_tracked {ops : List CloudOp} (h : Tracked s) (hok : AllReadOn b zl ops s)
    (hrun : runCloud b zl ops s = some s') : Tracked s' := by
  induction ops generalizing s with
  | nil =>
    obtain rfl := Option.some.inj hrun
    exact h
  | cons op ops ih =>
    obtain ⟨s₁, happly, hrest⟩ := Option.bind_eq_some_iff.mp hrun
    exact ih (op.apply_tracked h hok.1 happly) (hok.2 s₁ happly) hrest

end Steps

/-! ## No line twice -/

/-- A line stands at the position in the file. -/
def Logger.HasLine (l : Logger) (file position : ℕ) (line : CString) : Prop :=
  (∃ (call : LogCall) (date : CString), line = call.text date) ∧
    line <+: (l.files.contents file).drop position

/-- The result contains what stands at the position in the file. -/
def Returned.Contains (r : Returned) (file position : ℕ) (line : CString) : Prop :=
  r.file = file ∧ r.start ≤ position ∧ position + line.length ≤ r.stop

instance (r : Returned) (file position : ℕ) (line : CString) :
    Decidable (r.Contains file position line) := inferInstanceAs (Decidable (_ ∧ _))

/-- No line of the log is contained in the results of two uploads. -/
def NoLineTwice (s : CloudLogger) : Prop :=
  s.returned.Pairwise fun r r' => ∀ file position line, s.logger.HasLine file position line →
    ¬ (r.Contains file position line ∧ r'.Contains file position line)

/-- The lines that an upload returns end after the ends that were stored before. -/
def OnlyNewLines (s : CloudLogger) : Prop :=
  s.returned.Pairwise fun r r' => ∀ file position line, s.logger.HasLine file position line →
    r'.Contains file position line → r.file = file → r.stored < position + line.length

/-- A line is longer than the byte that two results may have in common. -/
theorem LogCall.two_le_length_text (call : LogCall) (date : CString) :
    2 ≤ (call.text date).length := by
  have hbracket : (" [".toList).length = 2 := rfl
  simp only [text, List.length_append]
  omega

/-- While the position is tracked only new lines are returned. -/
theorem Tracked.onlyNewLines {s : CloudLogger} (h : Tracked s) : OnlyNewLines s := by
  refine h.apart.imp ?_
  rintro r r' hbefore file position line ⟨⟨call, date, rfl⟩, -⟩ ⟨hfile, hstart, -⟩ hsame
  have hlength := call.two_le_length_text date
  have hstored := hbefore (hsame.trans hfile.symm)
  omega

theorem Tracked.noLineTwice {s : CloudLogger} (h : Tracked s) : NoLineTwice s := by
  have hstop : s.returned.Pairwise fun r _ => r.stop ≤ r.stored :=
    List.pairwise_of_forall_mem_list fun r hr _ _ => h.stop_le r hr
  refine (h.onlyNewLines.and hstop).imp ?_
  rintro r r' ⟨hnew, hle⟩ file position line hline ⟨hfirst, hsecond⟩
  have hstored := hnew file position line hline hsecond hfirst.1
  have hend := hfirst.2.2
  omega

/-- Nothing has been returned after the initialisation. -/
theorem initializeCloudLog_returnedLines {b : LogBuild} {zl : Zlib} {fopen : Bool} {ans : LogAnswer}
    {l : Logger} {s : CloudLogger}
    (h : initializeCloudLog b zl fopen ans { logger := l } = some s) : s.returnedLines = [] := by
  unfold initializeCloudLog at h
  simp only at h
  split at h
  · obtain ⟨logger, -, rfl⟩ := Option.map_eq_some_iff.mp h
    rfl
  · obtain rfl := Option.some.inj h
    rfl

/-- The position is tracked after the initialisation. -/
theorem initializeCloudLog_tracked {b : LogBuild} {zl : Zlib} {fopen : Bool} {ans : LogAnswer}
    {l : Logger} {s : CloudLogger}
    (h : initializeCloudLog b zl fopen ans { logger := l } = some s) : Tracked s := by
  unfold initializeCloudLog at h
  simp only at h
  split at h
  · obtain ⟨logger, -, rfl⟩ := Option.map_eq_some_iff.mp h
    exact ⟨not_isGz_log _, by simp, by simp, .nil, fun file hnone => by simp at hnone⟩
  · rename_i file hopen
    obtain rfl := Option.some.inj h
    refine ⟨not_isGz_log _, by simp, by simp, .nil, fun file' hfile' => ?_⟩
    obtain rfl : file = file' := Option.some.inj hfile'
    have hlookup := lookup_of_fopenRead hopen
    exact ⟨lasting_of_lookup hlookup (not_isGz_log _), above_of_lookup hlookup, Nat.zero_le _,
      by simp⟩

/-- A message of the given length, as a step of a run. -/
def fatalOp (length : ℕ) : CloudOp := .log (fatalCall length).1 (fatalCall length).2

/-- Two messages, an upload, two more messages, and another upload. -/
def linesAndUploads : List CloudOp :=
  [fatalOp 10, fatalOp 20, .upload {}, fatalOp 30, fatalOp 40, .upload {}]

def shortCall : LogCall := ⟨.fatal, [], 1, []⟩

/-- A message of more than half the size of the log file and two short ones, and then two uploads
of the last two lines. -/
def repeatingOps : List CloudOp :=
  [fatalOp 5300, .log shortCall {}, .log shortCall {}, .setLines ['2'] {}, .upload {}, .upload {}]

end ZohoIotSdk
