import ZohoIotSdk.Files.Directory
import ZohoIotSdk.Utils

/-!
# The logger

`zoho_log.c` up to the functions that upload logs: `log_initialize`, `log_free`, and `log_log`
with the rotation of the log files, which are kept as they are or compressed.

The functions work on a `Logger`: the variables of the file and the directory the log files are
in. The environment answers which library calls succeed (`LogAnswer`). A write through a null
file pointer is undefined behaviour, and has no result.
-/

namespace ZohoIotSdk

open Files (Directory)

/-- The build options of the logger: `Z_LOG_COMPRESS`, `Z_LOGGING` and `Z_LOG_LEVEL`. -/
structure LogBuild where
  compress : Bool
  logging : Bool
  level : ℤ

/-- What `zlib` makes of a file, and back, if the file is one that it has made. -/
structure Zlib where
  compress : List Char → List Char
  decompress : List Char → Option (List Char)
  lossless : ∀ content, decompress (compress content) = some content

/-! ## Levels and lines -/

inductive LogLevel where
  | trace
  | debug
  | info
  | warn
  | error
  | fatal
deriving DecidableEq, Repr

def LogLevel.toInt : LogLevel → ℤ
  | trace => 0
  | debug => 1
  | info => 2
  | warn => 3
  | error => 4
  | fatal => 5

/-- `level_names` -/
def LogLevel.name : LogLevel → CString
  | trace => "TRACE".toList
  | debug => "DEBUG".toList
  | info => "INFO".toList
  | warn => "WARN".toList
  | error => "ERROR".toList
  | fatal => "FATAL".toList

/-- `level_colors` -/
def LogLevel.color : LogLevel → CString
  | trace => "\x1b[94m".toList
  | debug => "\x1b[36m".toList
  | info => "\x1b[32m".toList
  | warn => "\x1b[33m".toList
  | error => "\x1b[31m".toList
  | fatal => "\x1b[35m".toList

/-- `%-5s` -/
def padded (s : CString) : CString := s ++ List.replicate (5 - s.length) ' '

/-- The arguments of a call of `log_log`, with the message already formatted. -/
structure LogCall where
  level : LogLevel
  file : CString
  line : ℤ
  message : CString

/-- The line for the log file. -/
def LogCall.text (call : LogCall) (date : CString) : CString :=
  date ++ " [".toList ++ padded call.level.name ++ "] ".toList ++ call.file ++ ":".toList ++
    intText call.line ++ ": ".toList ++ call.message ++ "\n".toList

/-- The line for the terminal. -/
def LogCall.stderrText (call : LogCall) (time : CString) : CString :=
  time ++ " ".toList ++ call.level.color ++ padded call.level.name ++ "\x1b[0m \x1b[90m".toList ++
    call.file ++ ":".toList ++ intText call.line ++ ":\x1b[0m ".toList ++ call.message ++
    "\n".toList

/-! ## The state -/

/-- The length of the longest file name that is made: that of the last archive, in the given
directory or in `./`. -/
def longestName (logPath logPrefix : CString) (maxRollingLogFile : ℤ) : ℕ :=
  max 2 logPath.length + logPrefix.length +
    (if 0 < maxRollingLogFile then 1 + (intText maxRollingLogFile).length else 0) + 4

/-- `Z_log`. An open file is the number of the file it was opened on. The names are made with
`sprintf` in buffers of 100 bytes, and fit there. -/
structure ZLog where
  fp : Option ℕ := none
  level : ℤ := 0
  quiet : Bool := false
  fileLog : Bool := false
  logPath : CString := []
  logPrefix : CString := []
  maxLogFileSize : ℤ := 0
  maxRollingLogFile : ℤ := 0
  names_fit : longestName logPath logPrefix maxRollingLogFile < 100 := by decide

/-- A line that was written: to which file, at which position. -/
structure Written where
  file : ℕ
  position : ℕ
  line : CString

structure Logger where
  zlog : ZLog := {}
  logFile : Option ℕ := none
  logInitialized : Bool := false
  enableLogCompression : Bool := true
  files : Directory CString Char
  stderr : CString := []
  /-- The lines written so far; no function reads them. -/
  written : List Written := []

/-! ## Names -/

/-- `LOG_PATH` -/
def defaultLogPath : CString := "./".toList

/-- `LOG_PREFIX` -/
def defaultLogPrefix : CString := "zoho_SDK_logs".toList

/-- `LOG_FORMAT` -/
def logFormat : CString := ".log".toList

def gzFormat : CString := ".gz".toList

/-- `MAX_LOG_FILE_SIZE` -/
def maxLogFileSize : ℤ := 5242880

/-- `MIN_LOG_FILE_SIZE` -/
def minLogFileSize : ℤ := 10240

/-- `MAX_ROLLING_LOG_FILE` -/
def maxRollingLogFile : ℤ := 2

/-- The name made by the format `%s%s%s`. -/
def ZLog.fileName (z : ZLog) (format : CString) : CString := z.logPath ++ z.logPrefix ++ format

/-- The name made by the format `%s%s-%d%s`. -/
def ZLog.archiveName (z : ZLog) (i : ℤ) (format : CString) : CString :=
  z.logPath ++ z.logPrefix ++ "-".toList ++ intText i ++ format

/-- The name of a log file fits in its buffer, with the NUL. -/
theorem ZLog.length_fileName_lt (z : ZLog) {format : CString} (hformat : format.length ≤ 4) :
    (z.fileName format).length < 100 := by
  have hfit := z.names_fit
  unfold longestName at hfit
  simp only [ZLog.fileName, List.length_append]
  omega

/-- The name of an archive fits in its buffer, with the NUL. -/
theorem ZLog.length_archiveName_lt (z : ZLog) {i : ℤ} (hi : 0 < i) (hle : i ≤ z.maxRollingLogFile)
    {format : CString} (hformat : format.length ≤ 4) :
    (z.archiveName i format).length < 100 := by
  have hfit := z.names_fit
  have hdigits := length_intText_mono (Int.le_of_lt hi) hle
  have hdash : ("-".toList : CString).length = 1 := rfl
  rw [longestName, if_pos (by omega)] at hfit
  simp only [ZLog.archiveName, List.length_append]
  omega

/-- The name of the current log file. -/
def ZLog.currentLogFile (z : ZLog) : CString := z.fileName logFormat

/-! ## Compression -/

/-- `CHUNK` -/
def chunk : ℕ := 32768

/-- What the environment answers during a compression: whether the files can be opened, how
much a read returns at most, whether a write succeeds, whether the compressed file is closed
without an error or has lost what follows its first bytes, and whether a file can be removed. -/
structure GzipAnswer where
  gzopen : Bool := true
  fopen : Bool := true
  fread : ℕ → ℕ := fun _ => chunk
  gzwrite : ℕ → Bool := fun _ => true
  gzclose : Option ℕ := none
  removeCompressed : Bool := true
  removeSource : Bool := true

/-- The loop of `compressAndSaveFile`, in turn `k`, with `rest` still to be read: what was
written, and whether the last `fread` returned zero. -/
def compressLoop (ans : GzipAnswer) : ℕ → ℕ → List Char → List Char → List Char × Bool
  | 0, _, _, done => (done, true)
  | fuel + 1, k, rest, done =>
    let bytesRead := min (ans.fread k) (min chunk rest.length)
    if bytesRead = 0 then (done, true)
    else if ans.gzwrite k then
      compressLoop ans fuel (k + 1) (rest.drop bytesRead) (done ++ rest.take bytesRead)
    else (done, false)

/-- What `gzclose` leaves in the compressed file: if it fails, only the first bytes. -/
def GzipAnswer.closed (ans : GzipAnswer) (content : List Char) : List Char :=
  match ans.gzclose with
  | none => content
  | some n => content.take n

/-- `remove`, which may fail. -/
def removeFile (succeeds : Bool) (name : CString) (d : Directory CString Char) :
    Directory CString Char :=
  if succeeds then d.remove name else d

/-- `compressAndSaveFile`. -/
def compressAndSaveFile (z : Zlib) (ans : GzipAnswer) (sourceFileName compressedFileName : CString)
    (d : Directory CString Char) : Directory CString Char :=
  if ans.gzopen then
    let (compressedFile, d) := d.openWrite compressedFileName
    match if ans.fopen then d.read sourceFileName else none with
    | none => d.write compressedFile (ans.closed (z.compress []))
    | some source =>
      -- every turn but the last one reads something
      let (compressed, complete) := compressLoop ans (source.length + 1) 0 source []
      let d := d.write compressedFile (ans.closed (z.compress compressed))
      if complete then removeFile ans.removeSource sourceFileName d
      else removeFile ans.removeSource sourceFileName
        (removeFile ans.removeCompressed compressedFileName d)
  else d

/-! ## Rotation -/

/-- What the environment answers to a call of `log_log`: the texts of the time, whether the
log file can be opened (where it was configured, in `./`, and after a rotation), and whether
the files can be removed, renamed and compressed. -/
structure LogAnswer where
  time : CString := []
  date : CString := []
  openConfigured : Bool := true
  openFallback : Bool := true
  openRotated : Bool := true
  remove : Bool := true
  rename : ℕ → Bool := fun _ => true
  gzip : GzipAnswer := {}

/-- One turn of the loop that moves the files up; `comp` says whether they are compressed. -/
def rotateStep (zl : Zlib) (comp : Bool) (ans : LogAnswer) (z : ZLog) (i : ℕ)
    (d : Directory CString Char) : Directory CString Char :=
  let format := if comp then gzFormat else logFormat
  let tempFile := z.archiveName (i + 1) format
  let d := if i = 0 ∧ comp = true then
      compressAndSaveFile zl ans.gzip (z.fileName logFormat) (z.fileName gzFormat) d
    else d
  let currentLogFile := if i = 0 then z.fileName format else z.archiveName i format
  if ans.rename i then d.rename currentLogFile tempFile else d

/-- The loop over `i - 1, ..., 0`. -/
def rotateLoop (zl : Zlib) (comp : Bool) (ans : LogAnswer) (z : ZLog) :
    ℕ → Directory CString Char → Directory CString Char
  | 0, d => d
  | i + 1, d => rotateLoop zl comp ans z i (rotateStep zl comp ans z i d)

/-- `log_free`. -/
def logFree (s : Logger) : Logger :=
  { s with logFile := none, zlog := { s.zlog with fp := none } }

/-- Open the current log file at its end, if that works. -/
def openLog (succeeds : Bool) (s : Logger) : Logger :=
  if succeeds then
    let (file, files) := s.files.openAppend s.zlog.currentLogFile
    { s with files, logFile := some file, zlog := { s.zlog with fp := some file } }
  else { s with logFile := none, zlog := { s.zlog with fp := none } }

/-- Whether log files are compressed. -/
def Logger.compressing (b : LogBuild) (s : Logger) : Bool := b.compress && s.enableLogCompression

/-- The part of `log_log` that gives up the current log file. -/
def rotate (b : LogBuild) (zl : Zlib) (ans : LogAnswer) (s : Logger) : Option Logger :=
  let s := logFree s
  if s.zlog.maxRollingLogFile = 0 then
    let files := removeFile ans.remove s.zlog.currentLogFile s.files
    some (openLog ans.openRotated { s with files })
  -- `INT_MIN - 1` overflows
  else if s.zlog.maxRollingLogFile = -2147483648 then none
  else
    -- a negative number means no turn of the loop
    let turns := s.zlog.maxRollingLogFile.toNat
    let files := rotateLoop zl (s.compressing b) ans s.zlog turns s.files
    some (openLog ans.openRotated { s with files })

/-! ## `log_log` -/

/-- The log files are kept in `./` from now on. -/
def ZLog.inWorkingDirectory (z : ZLog) : ZLog :=
  { z with
    logPath := "./".toList
    names_fit := by
      have hfit := z.names_fit
      unfold longestName at hfit ⊢
      have hlength : ("./".toList : CString).length = 2 := rfl
      omega }

/-- A file size as an `int`. -/
def intOfSize (size : ℕ) : ℤ := Int.bmod size 4294967296

/-- The size of the open log file. -/
def logSize (s : Logger) : ℤ :=
  match s.zlog.fp with
  | none => 0
  | some file => intOfSize (s.files.contents file).length

/-- A file that has lost its name is closed. -/
def closeUnlinked (s : Logger) : Logger :=
  match s.zlog.fp with
  | none => s
  | some file => if s.files.nlink file = 0 then logFree s else s

/-- Open the log file if it is not open, in `./` if need be. -/
def ensureOpen (ans : LogAnswer) (s : Logger) : Logger :=
  if s.zlog.fp = none then
    if ans.openConfigured then openLog true s
    else
      let s := logFree s
      let s := { s with zlog := s.zlog.inWorkingDirectory }
      if ans.openFallback then openLog true s
      else { s with logFile := none, zlog := { s.zlog with fileLog := false } }
  else s

/-- Write a line to the open log file. -/
def writeLine (line : CString) (s : Logger) : Option Logger :=
  match s.zlog.fp with
  | none => none
  | some file =>
    some { s with
      files := s.files.append file line
      written := s.written ++ [⟨file, (s.files.contents file).length, line⟩] }

/-- The part of `log_log` that writes to the log file. -/
def logToFile (b : LogBuild) (zl : Zlib) (call : LogCall) (ans : LogAnswer) (s : Logger) :
    Option Logger :=
  let size := logSize s
  let s := ensureOpen ans (closeUnlinked s)
  (if s.zlog.maxLogFileSize < size then rotate b zl ans s else some s).bind
    (writeLine (call.text ans.date))

/-- `log_log`. -/
def logLog (b : LogBuild) (zl : Zlib) (call : LogCall) (ans : LogAnswer) (s : Logger) :
    Option Logger :=
  if call.level.toInt < s.zlog.level then some s
  else
    let s := if s.zlog.quiet then s else { s with stderr := s.stderr ++ call.stderrText ans.time }
    if s.zlog.fileLog then logToFile b zl call ans s else some s

/-! ## `log_initialize` -/

/-- The string, or the default if it is null or empty. -/
def validOr (default : CString) (s : CStringPtr) : CString :=
  if isStringValid s then s.getD default else default

/-- `ZlogConfig`. `log_initialize` does not check the lengths of the path and the prefix. -/
structure ZlogConfig where
  setQuiet : ℤ := 0
  level : ℤ := 0
  enableFileLog : ℤ := 0
  logPath : CStringPtr := none
  logPrefix : CStringPtr := none
  maxLogFileSize : ℤ := 0
  maxRollingLogFile : ℤ := 0
  logCompress : Bool := false
  names_fit : longestName (validOr defaultLogPath logPath) (validOr defaultLogPrefix logPrefix)
    maxRollingLogFile < 100 := by decide

/-- A message of `zoho_log.c` itself. -/
def ownMessage (level : LogLevel) (line : ℤ) (message : CString) : LogCall :=
  { level, file := "zoho_log.c".toList, line, message }

/-- What the environment answers to the calls that `log_initialize` makes. -/
structure InitAnswer where
  compression : LogAnswer := {}
  size : LogAnswer := {}
  failure : LogAnswer := {}
  openInitial : Bool := true

/-- `log_free` after a message, where the level says so. -/
def freeIf (c : Bool) (s : Logger) : Logger := if c then logFree s else s

/-- The branch on `logCompress`. -/
def configureCompression (b : LogBuild) (zl : Zlib) (config : ZlogConfig) (ans : LogAnswer)
    (s : Logger) : Option Logger :=
  if config.logCompress then
    if b.compress then do
      let s ← logLog b zl (ownMessage .info 159 "Enabled Log compression".toList) ans s
      let s := freeIf (LogLevel.info.toInt ≤ s.zlog.level) s
      pure { s with enableLogCompression := true }
    else do
      let s ← logLog b zl (ownMessage .warn 166
        "Log compression lib not included, continuing on without compression".toList) ans s
      pure (freeIf (LogLevel.warn.toInt ≤ s.zlog.level) s)
  else if b.compress then some { s with enableLogCompression := false }
  else some s

/-- `log_set_maxLogSize`. -/
def logSetMaxLogSize (size : ℤ) (s : Logger) : Logger :=
  { s with zlog := { s.zlog with maxLogFileSize := size } }

/-- The branches on the maximum size. -/
def configureSize (b : LogBuild) (zl : Zlib) (config : ZlogConfig) (ans : LogAnswer)
    (s : Logger) : Option Logger :=
  if config.maxLogFileSize ≤ maxLogFileSize then
    if config.maxLogFileSize ≤ minLogFileSize then do
      let s ← logLog b zl (ownMessage .warn 191
        ("Log File size is lesserthan Mn file size \n continuing on default min size ".toList ++
          intText minLogFileSize ++ " bytes".toList)) ans (logSetMaxLogSize minLogFileSize s)
      pure (freeIf (LogLevel.warn.toInt ≤ s.zlog.level) s)
    else do
      let s ← logLog b zl (ownMessage .info 200 ("Log File size: ".toList ++
        intText config.maxLogFileSize ++ " bytes".toList)) ans
        (logSetMaxLogSize config.maxLogFileSize s)
      -- here the comparison is the other way round
      pure (freeIf (s.zlog.level < LogLevel.info.toInt) s)
  else do
    let s ← logLog b zl (ownMessage .warn 209
      ("Log File size is greaterthan Max file size \n continuing on default max size ".toList ++
        intText maxLogFileSize ++ " bytes".toList)) ans s
    pure (logSetMaxLogSize maxLogFileSize (freeIf (LogLevel.warn.toInt ≤ s.zlog.level) s))

/-- The assignments at the beginning of the branch for a configuration. -/
def ZLog.configure (b : LogBuild) (config : ZlogConfig) (z : ZLog) : ZLog :=
  { z with
    quiet := decide (config.setQuiet ≠ 0)
    fileLog := decide (config.enableFileLog ≠ 0)
    logPath := validOr defaultLogPath config.logPath
    logPrefix := validOr defaultLogPrefix config.logPrefix
    maxRollingLogFile := config.maxRollingLogFile
    level := if 0 ≤ config.level ∧ config.level ≤ 5 then config.level else b.level
    names_fit := config.names_fit }

/-- The branch of `log_initialize` for a configuration. -/
def configure (b : LogBuild) (zl : Zlib) (config : ZlogConfig) (ans : InitAnswer) (s : Logger) :
    Option Logger := do
  let s ← configureCompression b zl config ans.compression
    { s with zlog := s.zlog.configure b config }
  let s := if s.compressing b then logSetMaxLogSize config.maxLogFileSize s else s
  configureSize b zl config ans.size s

/-- The branch of `log_initialize` without a configuration. -/
def configureDefault (b : LogBuild) (s : Logger) : Logger :=
  if b.logging then
    { s with zlog := { s.zlog with
      fileLog := true
      logPath := defaultLogPath
      logPrefix := defaultLogPrefix
      maxLogFileSize := maxLogFileSize
      maxRollingLogFile := maxRollingLogFile
      names_fit := by decide } }
  else { s with zlog := { s.zlog with quiet := true } }

/-- The end of `log_initialize`. -/
def openInitial (b : LogBuild) (zl : Zlib) (ans : InitAnswer) (s : Logger) : Option Logger :=
  if s.zlog.fileLog then
    if ans.openInitial then some (openLog true s)
    else do
      let s ← logLog b zl (ownMessage .warn 229
        "Error opening log file. Please check the permissions".toList) ans.failure
        { s with logFile := none, zlog := { s.zlog with fileLog := false } }
      pure (freeIf (LogLevel.warn.toInt ≤ s.zlog.level) s)
  else some s

/-- `log_initialize`. -/
def logInitialize (b : LogBuild) (zl : Zlib) (config : Option ZlogConfig) (ans : InitAnswer)
    (s : Logger) : Option Logger :=
  let s := logFree s
  let s := { s with logInitialized := true, zlog := { s.zlog with level := b.level } }
  (match config with
    | none => some (configureDefault b s)
    | some config => configure b zl config ans s).bind (openInitial b zl ans)

/-- Calls of `log_log` one after the other. -/
def logAll (b : LogBuild) (zl : Zlib) : List (LogCall × LogAnswer) → Logger → Option Logger
  | [], s => some s
  | (call, ans) :: rest, s => (logLog b zl call ans s).bind (logAll b zl rest)

/-- The process when it starts, in the given directory. -/
def Logger.start (d : Directory CString Char) : Logger := { files := d }

end ZohoIotSdk
