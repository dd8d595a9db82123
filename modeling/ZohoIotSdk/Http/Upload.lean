import ZohoIotSdk.Http.Request
import ZohoIotSdk.MessageHandler

/-!
# The response messages of the uploads

`http_post`, `http_post_cloud_logging` and `publishOfflineData` report through a buffer of their
caller, which nobody clears: `handle_cloud_logging` hands over a local array, and
`publishOfflineData` fresh memory. Here they work on the bytes of that buffer.

`responses_written_iff`: what is read out of the buffer afterwards does not depend on what was in
it before, unless `SSL_CTX_load_verify_locations` fails. This exit writes no message.
`httpPost_isSome`: every other exit has room for its message.
-/

namespace ZohoIotSdk

open Machine Text

/-! ## `parse_http_response` -/

/-- `strstr`: the string from the first occurrence on. -/
def strstr (needle : CString) : CString → CStringPtr
  | [] => if needle = [] then some [] else none
  | c :: rest => if needle <+: c :: rest then some (c :: rest) else strstr needle rest

/-- `strchr`: the string from the first occurrence on. -/
def strchr (c : Char) (s : CString) : CStringPtr :=
  if c ∈ s then some (s.dropWhile (· ≠ c)) else none

/-- `atoi(sp + 1)` in the status line, if there is one: an `int` made of a `long`. -/
def httpStatus (str : CString) : Option ℤ :=
  if "HTTP/".toList <+: str then (strchr ' ' str).map fun sp => toSigned 32 (atol (sp.drop 1))
  else none

/-- The text from the first brace behind the header to the last brace of the response. -/
def jsonText (str : CString) : CStringPtr :=
  let searchStart := match strstr headerEnd str with
    | some body => body.drop 4
    | none => str
  (strchr '\x7b' searchStart).bind fun start =>
    let text := (start.reverse.dropWhile (· ≠ '\x7d')).reverse
    if text = [] then none else some text

/-- `parse_http_response`; `allocated` says whether there is memory for the text. -/
def parseHttpResponse (allocated : Bool) (str : CString) : Bool :=
  if (httpStatus str).any fun status => status < 200 || status ≥ 300 then false
  else
    match jsonText str with
    | none => false
    | some text =>
      if allocated = false then false
      else
        match cJSONParse text with
        | none => false
        | some json =>
          match stringValue (cJSONGetObjectItem json "status".toList) with
          | none => false
          | some status => eqIgnoreCase status "success".toList

/-! ## `http_post` -/

/-- What the calls of `http_post` return: those of OpenSSL, and the allocations of the buffer for
the response and of the one for its JSON. -/
structure HttpAnswer where
  ctxNew : Bool := true
  loadVerifyLocations : Bool := true
  newSslConnect : Bool := true
  getSsl : Bool := true
  doConnect : ℤ := 1
  verifyResult : ℤ := 0
  writeRequest : ℤ := 1
  writeData : ℤ := 1
  reads : BioReads
  stream : CString
  bufferAllocated : Bool := true
  jsonAllocated : Bool := true

/-- What `http_post` leaves: its result, the buffer for the message, and what it has passed to
`BIO_write`. -/
structure HttpPost where
  rc : ℤ
  responseMessage : List Char
  writes : List CString
deriving DecidableEq

/-- `strcpy`; there is no result if the text does not fit. -/
def strcpy (mem : List Char) (text : CString) : Option (List Char) :=
  store mem 0 (text ++ ['\x00'])

/-- An exit that writes a message. -/
def httpExit (mem : List Char) (rc : ℤ) (message : CString) (writes : List CString) :
    Option HttpPost :=
  (strcpy mem message).map fun mem => { rc := rc, responseMessage := mem, writes := writes }

/-- `SSL_CTX_load_verify_locations` is called, and fails. -/
def LoadFails (b : Build) (c : ZohoIOTclient) (ans : HttpAnswer) : Prop :=
  b.secureConnection = true ∧ c.certs.caCrt.isSome = true ∧ ans.loadVerifyLocations = false

instance (b : Build) (c : ZohoIOTclient) (ans : HttpAnswer) : Decidable (LoadFails b c ans) :=
  inferInstanceAs (Decidable (_ ∧ _))

/-- `http_post` from the reading of the response on. -/
def httpResponse (ans : HttpAnswer) (mem : List Char) (writes : List CString) :
    Option HttpPost :=
  (readResponse ans.reads ans.bufferAllocated { turn := 0, remaining := ans.stream }).bind
    fun buf =>
      match buf with
      | none => httpExit mem zfailure "Memory allocation failed".toList writes
      | some buf =>
        if parseHttpResponse ans.jsonAllocated buf = false then
          httpExit mem zfailure "Error in parsing the http response".toList writes
        else httpExit mem zsuccess "Http publish successful".toList writes

/-- `http_post`. -/
def httpPost (b : Build) (c : ZohoIOTclient) (request : HttpRequest) (ans : HttpAnswer)
    (mem : List Char) : Option HttpPost :=
  if ans.ctxNew = false then httpExit mem zfailure "Error creating SSL context".toList []
  -- the message is missing here
  else if LoadFails b c ans then some { rc := zfailure, responseMessage := mem, writes := [] }
  else if ans.newSslConnect = false then httpExit mem zfailure "Error creating BIO".toList []
  else if ans.getSsl = false then
    httpExit mem zfailure "Error establishing SSL connection".toList []
  else if ans.doConnect ≤ 0 then httpExit mem zfailure "Error connecting to server".toList []
  else if ans.verifyResult ≠ 0 then
    httpExit mem zfailure "Certificate verification failed".toList []
  else if ans.writeRequest ≤ 0 then
    httpExit mem zfailure "Error sending POST request".toList [request.requestUrl]
  else if ans.writeData ≤ 0 then
    httpExit mem zfailure "Error sending data".toList [request.requestUrl, request.bodySent]
  else httpResponse ans mem [request.requestUrl, request.bodySent]

/-! ## The callers -/

/-- What the calls of a log upload return; the last two are what `get_cloud_log` has counted. -/
structure UploadAnswer extends HttpAnswer where
  cloudLog : Option CStringPtr
  numberOfLinesRead : ℤ
  sizeOfLogRead : ℤ

/-- The message of a log upload that succeeds. -/
def logPublished (numberOfLinesRead sizeOfLogRead : ℤ) : CString :=
  "Log Published Successfully. Number of lines read - ".toList ++ (intText numberOfLinesRead ++
    (", Size of log read - ".toList ++ (intText sizeOfLogRead ++ " KB".toList)))

/-- `http_post_cloud_logging`, on the bytes of the buffer. -/
def httpPostCloudLoggingBytes (b : Build) (g : Globals) (c : ZohoIOTclient) (ans : UploadAnswer)
    (mem : List Char) : Option HttpPost :=
  match cloudLogRequest b g c ans.cloudLog with
  | .error message => httpExit mem zfailure message []
  | .ok request =>
    (httpPost b c request ans.toHttpAnswer mem).bind fun post =>
      if post.rc = zsuccess then
        httpExit post.responseMessage zsuccess
          (logPublished ans.numberOfLinesRead ans.sizeOfLogRead) post.writes
      else some { post with rc := zfailure }

/-- The arguments with which `handle_cloud_logging` calls `zclient_publishCommandAck`. -/
structure CommandAck where
  payload : CString
  code : ℤ
  responseMessage : CString
deriving DecidableEq

/-- `handle_cloud_logging` up to the ACK; `mem` is its local array. -/
def handleCloudLoggingBytes (b : Build) (g : Globals) (c : ZohoIOTclient) (payload : CString)
    (ans : UploadAnswer) (mem : List Char) : Option CommandAck :=
  if b.httpPublishEnable then
    (httpPostCloudLoggingBytes b g c ans mem).bind fun post =>
      (bufferText post.responseMessage).map fun text =>
        { payload := payload, responseMessage := text,
          code := if post.rc = zsuccess then successfullyExecuted else executionFailure }
  else
    (strcpy mem "Http Publish is not enabled for cloud logging".toList).bind fun mem =>
      (bufferText mem).map fun text =>
        { payload := payload, code := executionFailure, responseMessage := text }

/-- `OfflinePublishResponse`, with the text in `responseMessage`. -/
structure OfflinePublishResponse where
  status : ℤ
  responseMessage : CString
deriving DecidableEq

/-- `publishOfflineData`; `mem` is the memory of its response message. Without memory for the
response a null pointer is followed. -/
def publishOfflineData (b : Build) (g : Globals) (c : ZohoIOTclient) (payload : CString)
    (responseAllocated : Bool) (ans : HttpAnswer) (mem : List Char) :
    Option OfflinePublishResponse :=
  if responseAllocated = false then none
  else
    (match offlineRequest b g c payload with
      | .error message => httpExit mem zfailure message []
      | .ok request => httpPost b c request ans mem).bind fun post =>
        (bufferText post.responseMessage).map fun text =>
          { status := post.rc, responseMessage := text }

/-! ## Exits -/

section Exits

variable {b : Build} {g : Globals} {c : ZohoIOTclient} {request : HttpRequest} {ans : HttpAnswer}
  {f f' : List Char → Option HttpPost} {mem : List Char} {rc : ℤ} {message : CString}
  {writes : List CString}

/-- The copy has a result exactly when there is room for the terminator. -/
theorem strcpy_eq (mem : List Char) (message : CString) :
    strcpy mem message =
      if message.length < mem.length then some (filled mem (message ++ ['\x00'])) else none := by
  have hlength : (message ++ ['\x00']).length = message.length + 1 := List.length_append
  by_cases hroom : message.length < mem.length
  · have hstore := store_filled mem [] (message ++ ['\x00'])
      (by rw [hlength, List.length_nil]; omega)
    rw [filled_nil, List.length_nil, List.nil_append] at hstore
    rw [if_pos hroom, strcpy, hstore]
  · rw [if_neg hroom, strcpy, store, hlength, if_neg (by omega)]

/-- An exit has a result exactly when its message fits. -/
theorem httpExit_eq (mem : List Char) (rc : ℤ) (message : CString) (writes : List CString) :
    httpExit mem rc message writes =
      if message.length < mem.length then
        some { rc := rc, responseMessage := filled mem (message ++ ['\x00']), writes := writes }
      else none := by
  rw [httpExit, strcpy_eq]
  split
  · rfl
  · rfl

/-- The message is what is read out of the buffer. -/
theorem bufferText_filled (hplain : '\x00' ∉ message) (mem : List Char) :
    bufferText (filled mem (message ++ ['\x00'])) = some message :=
  bufferText_of_holds ⟨⟨_, List.append_assoc ..⟩, hplain⟩

/-- The function leaves through an exit that writes a message, or not at all. Which one does not
depend on the buffer. -/
def Exits (f : List Char → Option HttpPost) : Prop :=
  ∃ outcome : Option (ℤ × CString × List CString), (∀ o, outcome = some o → '\x00' ∉ o.2.1) ∧
    ∀ mem, f mem = outcome.bind fun o => httpExit mem o.1 o.2.1 o.2.2

theorem exits_httpExit (hplain : '\x00' ∉ message) (rc : ℤ) (writes : List CString) :
    Exits fun mem => httpExit mem rc message writes := by
  refine ⟨some (rc, message, writes), fun o ho => ?_, fun _ => rfl⟩
  obtain rfl := Option.some.inj ho
  exact hplain

theorem exits_none : Exits fun _ => none := ⟨none, fun _ ho => absurd ho (by simp), fun _ => rfl⟩

/-- A branch between two exits is an exit. -/
theorem Exits.ite {p : Prop} [Decidable p] (hf : p → Exits f) (hf' : ¬ p → Exits f') :
    Exits fun mem => if p then f mem else f' mem := by
  by_cases hp : p
  · simpa only [if_pos hp] using hf hp
  · simpa only [if_neg hp] using hf' hp

/-- Every response ends the call with an exit. -/
theorem httpResponse_exits (ans : HttpAnswer) (writes : List CString) :
    Exits fun mem => httpResponse ans mem writes := by
  unfold httpResponse
  cases readResponse ans.reads ans.bufferAllocated { turn := 0, remaining := ans.stream } with
  | none => exact exits_none
  | some buf =>
    cases buf with
    | none => exact exits_httpExit (by decide) _ _
    | some buf =>
      exact .ite (fun _ => exits_httpExit (by decide) _ _) fun _ => exits_httpExit (by decide) _ _

/-- Every exit of `http_post` but one writes a message. -/
theorem httpPost_exits (request : HttpRequest) (h : ans.ctxNew = true → ¬ LoadFails b c ans) :
    Exits (httpPost b c request ans) := by
  refine .ite (fun _ => exits_httpExit (by decide) _ _) fun hctx => ?_
  have hloads : ¬ LoadFails b c ans := h (by simpa using hctx)
  refine .ite (fun hfails => absurd hfails hloads) fun _ => ?_
  refine .ite (fun _ => exits_httpExit (by decide) _ _) fun _ => ?_
  refine .ite (fun _ => exits_httpExit (by decide) _ _) fun _ => ?_
  refine .ite (fun _ => exits_httpExit (by decide) _ _) fun _ => ?_
  refine .ite (fun _ => exits_httpExit (by decide) _ _) fun _ => ?_
  refine .ite (fun _ => exits_httpExit (by decide) _ _) fun _ => ?_
  refine .ite (fun _ => exits_httpExit (by decide) _ _) fun _ => ?_
  exact httpResponse_exits ans _

/-- The exit without a message. -/
theorem httpPost_of_loadFails (request : HttpRequest) (hctx : ans.ctxNew = true)
    (hfails : LoadFails b c ans) (mem : List Char) : httpPost b c request ans mem =
      some { rc := zfailure, responseMessage := mem, writes := [] } := by
  rw [httpPost, hctx, if_neg (by simp), if_pos hfails]

/-! ## Room for the messages -/

/-- An exit with a message that fits has a result. -/
theorem httpExit_isSome (h : message.length < mem.length) (rc : ℤ) (writes : List CString) :
    (httpExit mem rc message writes).isSome := by
  rw [httpExit_eq, if_pos h]
  rfl

/-- Whatever the server sends, no exit of `http_post` writes past a buffer of 35 bytes. The two
that its callers hand over have 100 and 500. -/
theorem httpPost_isSome (request : HttpRequest) (ans : HttpAnswer) (hroom : 34 < mem.length) :
    (httpPost b c request ans mem).isSome := by
  have hexit : ∀ rc writes message, message.length ≤ 34 →
      (httpExit mem rc message writes).isSome := by
    intro rc writes message hlength
    exact httpExit_isSome (lt_of_le_of_lt hlength hroom) rc writes
  have hresponse : ∀ writes, (httpResponse ans mem writes).isSome := by
    intro writes
    obtain ⟨buf, hbuf⟩ := Option.isSome_iff_exists.mp
      (readResponse_isSome ans.reads ans.bufferAllocated ans.stream)
    rw [httpResponse, hbuf, Option.bind_some]
    cases buf with
    | none => exact hexit _ _ _ (by decide)
    | some buf =>
      dsimp only
      split
      · exact hexit _ _ _ (by decide)
      · exact hexit _ _ _ (by decide)
  unfold httpPost
  split_ifs
  · exact hexit _ _ _ (by decide)
  · rfl
  · exact hexit _ _ _ (by decide)
  · exact hexit _ _ _ (by decide)
  · exact hexit _ _ _ (by decide)
  · exact hexit _ _ _ (by decide)
  · exact hexit _ _ _ (by decide)
  · exact hexit _ _ _ (by decide)
  · exact hresponse _

/-! ## What is read afterwards -/

/-- The result of a function and the text in the buffer. -/
def HttpPost.read (post : HttpPost) : Option (ℤ × CString) :=
  (bufferText post.responseMessage).map fun text => (post.rc, text)

/-- What is read after an exit that writes a message depends on the size of the buffer only. -/
theorem httpExit_read (hplain : '\x00' ∉ message) (mem : List Char) (rc : ℤ)
    (writes : List CString) : (httpExit mem rc message writes).bind HttpPost.read =
      if message.length < mem.length then some (rc, message) else none := by
  rw [httpExit_eq]
  split
  · rw [Option.bind_some, HttpPost.read, bufferText_filled hplain, Option.map_some]
  · rfl

/-- What is read of an exit depends on the size of the memory only. -/
theorem Exits.read (h : Exits f) :
    ∃ outcome : ℕ → Option (ℤ × CString),
      ∀ mem, (f mem).bind HttpPost.read = outcome mem.length := by
  obtain ⟨exit, hplain, heq⟩ := h
  cases exit with
  | none => exact ⟨fun _ => none, fun mem => by rw [heq]; rfl⟩
  | some o =>
    refine ⟨fun n => if o.2.1.length < n then some (o.1, o.2.1) else none, fun mem => ?_⟩
    rw [heq, Option.bind_some, httpExit_read (hplain o rfl)]

theorem notMem_intText (n : ℤ) : '\x00' ∉ intText n := by
  have hdigits : ∀ k, '\x00' ∉ Nat.toDigits 10 k := by
    intro k hmem
    have hdigit := Nat.isDigit_of_mem_toDigits (by decide) (by decide) hmem
    exact absurd hdigit (by decide)
  unfold intText
  split
  · rw [List.mem_cons, not_or]
    exact ⟨by decide, hdigits _⟩
  · exact hdigits _

theorem notMem_logPublished (lines size : ℤ) : '\x00' ∉ logPublished lines size := by
  have hfirst : '\x00' ∉ "Log Published Successfully. Number of lines read - ".toList := by decide
  have hsecond : '\x00' ∉ ", Size of log read - ".toList := by decide
  have hthird : '\x00' ∉ " KB".toList := by decide
  have happend : ∀ s t : CString, '\x00' ∉ s → '\x00' ∉ t → '\x00' ∉ s ++ t := by
    intro s t hs ht hmem
    exact (List.mem_append.mp hmem).elim hs ht
  exact happend _ _ hfirst (happend _ _ (notMem_intText lines)
    (happend _ _ hsecond (happend _ _ (notMem_intText size) hthird)))

theorem notMem_of_cloudLogRequest {cloudLog : Option CStringPtr} {message : CString}
    (h : cloudLogRequest b g c cloudLog = .error message) : '\x00' ∉ message := by
  unfold cloudLogRequest at h
  split at h
  · obtain rfl := Except.error.inj h
    decide +kernel
  · split at h
    · obtain rfl := Except.error.inj h
      decide +kernel
    · obtain rfl := Except.error.inj h
      decide +kernel
    · exact absurd h (by simp)

theorem notMem_of_offlineRequest {payload message : CString}
    (h : offlineRequest b g c payload = .error message) : '\x00' ∉ message := by
  unfold offlineRequest at h
  split at h
  · obtain rfl := Except.error.inj h
    decide +kernel
  · split at h
    · obtain rfl := Except.error.inj h
      decide +kernel
    · exact absurd h (by simp)

/-- The log upload: after a message of `http_post` it writes its own if that has succeeded. -/
theorem httpPostCloudLoggingBytes_read (b : Build) (g : Globals) (c : ZohoIOTclient)
    (ans : UploadAnswer) (h : ∀ request, cloudLogRequest b g c ans.cloudLog = .ok request →
      Exits (httpPost b c request ans.toHttpAnswer)) :
    ∃ outcome : ℕ → Option (ℤ × CString), ∀ mem,
      (httpPostCloudLoggingBytes b g c ans mem).bind HttpPost.read = outcome mem.length := by
  unfold httpPostCloudLoggingBytes
  cases hrequest : cloudLogRequest b g c ans.cloudLog with
  | error message => exact (exits_httpExit (notMem_of_cloudLogRequest hrequest) _ _).read
  | ok request =>
    obtain ⟨exit, hplain, heq⟩ := h request hrequest
    cases exit with
    | none => exact ⟨fun _ => none, fun mem => by simp only [heq]; rfl⟩
    | some o =>
      obtain ⟨rc, message, writes⟩ := o
      have hmessage := hplain _ rfl
      have hpublished := notMem_logPublished ans.numberOfLinesRead ans.sizeOfLogRead
      refine ⟨fun n => if message.length < n then
          if rc = zsuccess then
            if (logPublished ans.numberOfLinesRead ans.sizeOfLogRead).length < n then
              some (zsuccess, logPublished ans.numberOfLinesRead ans.sizeOfLogRead)
            else none
          else some (zfailure, message)
        else none, fun mem => ?_⟩
      simp only [heq, Option.bind_some, httpExit_eq mem rc]
      split
      · rename_i hroom
        have hlength : (filled mem (message ++ ['\x00'])).length = mem.length :=
          length_filled (by rw [List.length_append, List.length_singleton]; omega)
        rw [Option.bind_some]
        dsimp only
        split
        · rw [httpExit_read hpublished, hlength]
        · rw [Option.bind_some, HttpPost.read, bufferText_filled hmessage, Option.map_some]
      · rfl

end Exits

/-! ## The two runs -/

/-- The ACK of a log upload is the same for every content of the local array. -/
def AckDetermined (b : Build) (g : Globals) (c : ZohoIOTclient) (payload : CString)
    (ans : UploadAnswer) : Prop :=
  ∀ mem mem' : List Char, mem.length = 100 → mem'.length = 100 →
    handleCloudLoggingBytes b g c payload ans mem = handleCloudLoggingBytes b g c payload ans mem'

/-- The response of `publishOfflineData` is the same for every content of its fresh memory. -/
def ResponseDetermined (b : Build) (g : Globals) (c : ZohoIOTclient) (payload : CString)
    (responseAllocated : Bool) (ans : HttpAnswer) : Prop :=
  ∀ mem mem' : List Char, mem.length = 500 → mem'.length = 500 →
    publishOfflineData b g c payload responseAllocated ans mem =
      publishOfflineData b g c payload responseAllocated ans mem'

section TwoRuns

variable {b : Build} {g : Globals} {c : ZohoIOTclient}

/-- Two contents of a buffer that are read as different texts. -/
theorem exists_bufferText_ne (n : ℕ) : ∃ mem mem' : List Char, mem.length = n + 2 ∧
    mem'.length = n + 2 ∧ bufferText mem = some [] ∧ bufferText mem' = some ['a'] := by
  refine ⟨List.replicate (n + 2) '\x00', 'a' :: List.replicate (n + 1) '\x00',
    List.length_replicate, by rw [List.length_cons, List.length_replicate], ?_, ?_⟩
  · exact bufferText_of_holds ⟨⟨List.replicate (n + 1) '\x00', List.replicate_succ⟩, by simp⟩
  · exact bufferText_of_holds ⟨⟨List.replicate n '\x00', by rw [List.replicate_succ]; rfl⟩,
      by decide⟩

/-- The handler publishes what the post call leaves in the message buffer. -/
theorem handleCloudLoggingBytes_eq (henable : b.httpPublishEnable = true) (payload : CString)
    (ans : UploadAnswer) (mem : List Char) : handleCloudLoggingBytes b g c payload ans mem =
      ((httpPostCloudLoggingBytes b g c ans mem).bind HttpPost.read).map fun read : ℤ × CString =>
        { payload := payload, responseMessage := read.2,
          code := if read.1 = zsuccess then successfullyExecuted else executionFailure } := by
  rw [handleCloudLoggingBytes, if_pos henable, Option.map_bind]
  congr 1
  funext post
  rw [Function.comp_apply, HttpPost.read, Option.map_map]
  rfl

/-- The call publishes what the post call leaves in the message buffer. -/
theorem publishOfflineData_eq (payload : CString) (ans : HttpAnswer) (mem : List Char) :
    publishOfflineData b g c payload true ans mem =
      ((match offlineRequest b g c payload with
        | .error message => httpExit mem zfailure message []
        | .ok request => httpPost b c request ans mem).bind HttpPost.read).map
          fun read : ℤ × CString => { status := read.1, responseMessage := read.2 } := by
  rw [publishOfflineData, if_neg (by simp), Option.map_bind]
  congr 1
  funext post
  rw [Function.comp_apply, HttpPost.read, Option.map_map]
  rfl

/-- The ACK depends on the array exactly if `http_post` is reached and leaves without a message. -/
theorem ackDetermined_iff (payload : CString) (ans : UploadAnswer) :
    AckDetermined b g c payload ans ↔
      ¬ (b.httpPublishEnable = true ∧
        (∃ request, cloudLogRequest b g c ans.cloudLog = .ok request) ∧ ans.ctxNew = true ∧
        LoadFails b c ans.toHttpAnswer) := by
  constructor
  · rintro hdetermined ⟨henable, ⟨request, hrequest⟩, hctx, hfails⟩
    have hack : ∀ mem, handleCloudLoggingBytes b g c payload ans mem =
        (bufferText mem).map fun text =>
          { payload := payload, code := executionFailure, responseMessage := text } := by
      intro mem
      rw [handleCloudLoggingBytes, if_pos henable, httpPostCloudLoggingBytes, hrequest]
      simp only [httpPost_of_loadFails request hctx hfails, Option.bind_some]
      rw [if_neg (by decide), Option.bind_some]
      rfl
    obtain ⟨mem, mem', hmem, hmem', hempty, hletter⟩ := exists_bufferText_ne 98
    have hequal := hdetermined mem mem' hmem hmem'
    rw [hack, hack, hempty, hletter] at hequal
    exact absurd hequal (by simp)
  · intro hnot mem mem' hmem hmem'
    by_cases henable : b.httpPublishEnable = true
    · obtain ⟨outcome, houtcome⟩ := httpPostCloudLoggingBytes_read b g c ans
        fun request hrequest => httpPost_exits request fun hctx hfails =>
          hnot ⟨henable, ⟨request, hrequest⟩, hctx, hfails⟩
      rw [handleCloudLoggingBytes_eq henable, handleCloudLoggingBytes_eq henable, houtcome,
        houtcome, hmem, hmem']
    · have hplain : '\x00' ∉ "Http Publish is not enabled for cloud logging".toList := by decide
      rw [handleCloudLoggingBytes, handleCloudLoggingBytes, if_neg henable, if_neg henable,
        strcpy_eq, strcpy_eq, hmem, hmem']
      split
      · rw [Option.bind_some, Option.bind_some, bufferText_filled hplain, bufferText_filled hplain]
      · rfl

/-- The response depends on the memory exactly if `http_post` is reached and leaves without a
message. -/
theorem responseDetermined_iff (payload : CString) (responseAllocated : Bool) (ans : HttpAnswer) :
    ResponseDetermined b g c payload responseAllocated ans ↔
      ¬ (responseAllocated = true ∧ (∃ request, offlineRequest b g c payload = .ok request) ∧
        ans.ctxNew = true ∧ LoadFails b c ans) := by
  cases responseAllocated with
  | false =>
    refine iff_of_true (fun mem mem' _ _ => ?_) (by simp)
    rw [publishOfflineData, publishOfflineData, if_pos rfl, if_pos rfl]
  | true =>
    constructor
    · rintro hdetermined ⟨-, ⟨request, hrequest⟩, hctx, hfails⟩
      have hresponse : ∀ mem, publishOfflineData b g c payload true ans mem =
          (bufferText mem).map fun text => { status := zfailure, responseMessage := text } := by
        intro mem
        rw [publishOfflineData, if_neg (by simp), hrequest]
        simp only [httpPost_of_loadFails request hctx hfails, Option.bind_some]
      obtain ⟨mem, mem', hmem, hmem', hempty, hletter⟩ := exists_bufferText_ne 498
      have hequal := hdetermined mem mem' hmem hmem'
      rw [hresponse, hresponse, hempty, hletter] at hequal
      exact absurd hequal (by simp)
    · intro hnot mem mem' hmem hmem'
      rw [publishOfflineData_eq, publishOfflineData_eq]
      cases hrequest : offlineRequest b g c payload with
      | error message =>
        obtain ⟨outcome, houtcome⟩ :=
          (exits_httpExit (notMem_of_offlineRequest hrequest) zfailure []).read
        simp only [houtcome, hmem, hmem']
      | ok request =>
        obtain ⟨outcome, houtcome⟩ := (httpPost_exits request fun hctx hfails =>
          hnot ⟨rfl, ⟨request, hrequest⟩, hctx, hfails⟩).read
        simp only [houtcome, hmem, hmem']

/-- A log request is formed when no client certificates are in use and there is a log text. -/
theorem exists_cloudLogRequest_iff {cloudLog : Option CStringPtr} :
    (∃ request, cloudLogRequest b g c cloudLog = .ok request) ↔
      clientCertsInUse b g = false ∧ ∃ text, cloudLog = some (some text) := by
  unfold cloudLogRequest
  cases clientCertsInUse b g with
  | true => simp
  | false =>
    match cloudLog with
    | none => simp
    | some none => simp
    | some (some text) => simp

/-- A data request is formed when no client certificates are in use and the payload is within its
bound. -/
theorem exists_offlineRequest_iff {payload : CString} :
    (∃ request, offlineRequest b g c payload = .ok request) ↔
      clientCertsInUse b g = false ∧ payload.length ≤ maxOfflineDataSize := by
  unfold offlineRequest
  cases clientCertsInUse b g with
  | true => simp
  | false =>
    by_cases hlong : payload.length > maxOfflineDataSize
    · have hnot : ¬ payload.length ≤ maxOfflineDataSize := by omega
      simp [hlong, hnot]
    · have hfits : payload.length ≤ maxOfflineDataSize := by omega
      simp [hlong, hfits]

/-- For every build, client and sequence of results: the ACK of a log upload and the response of
`publishOfflineData` do not depend on what was in the buffer of the message, except where
`http_post` is called and the certificate of the authority cannot be loaded. -/
theorem responses_written_iff (b : Build) (g : Globals) (c : ZohoIOTclient) :
    (∀ payload ans, AckDetermined b g c payload ans ↔
      ¬ (b.httpPublishEnable = true ∧ clientCertsInUse b g = false ∧
        (∃ log, ans.cloudLog = some (some log)) ∧ ans.ctxNew = true ∧
        LoadFails b c ans.toHttpAnswer)) ∧
    ∀ payload responseAllocated ans, ResponseDetermined b g c payload responseAllocated ans ↔
      ¬ (responseAllocated = true ∧ clientCertsInUse b g = false ∧
        payload.length ≤ maxOfflineDataSize ∧ ans.ctxNew = true ∧ LoadFails b c ans) := by
  refine ⟨fun payload ans => ?_, fun payload responseAllocated ans => ?_⟩
  · rw [ackDetermined_iff, exists_cloudLogRequest_iff, and_assoc]
  · rw [responseDetermined_iff, exists_offlineRequest_iff, and_assoc]

/-- What `handle_cloud_logging` finds out is one of the answers with which the upload goes on. -/
theorem uploadLogs_exec {payload : CString} {ans : UploadAnswer} {mem : List Char}
    {ack : CommandAck} (h : handleCloudLoggingBytes b g c payload ans mem = some ack) (s : Sdk) :
    (uploadLogs b).Exec s (ack.code, ack.responseMessage) [] s := by
  by_cases henable : b.httpPublishEnable = true
  · rw [handleCloudLoggingBytes_eq henable] at h
    obtain ⟨read, -, rfl⟩ := Option.map_eq_some_iff.mp h
    rw [uploadLogs, if_pos henable]
    exact ⟨{ rc := read.1, text := read.2 }, [], rfl, rfl, rfl, rfl⟩
  · have hplain : '\x00' ∉ "Http Publish is not enabled for cloud logging".toList := by decide
    rw [handleCloudLoggingBytes, if_neg henable, strcpy_eq] at h
    rw [uploadLogs, if_neg henable]
    split at h
    · rw [Option.bind_some, bufferText_filled hplain] at h
      obtain rfl := Option.some.inj h
      exact ⟨rfl, rfl, rfl⟩
    · exact absurd h (by simp)

end TwoRuns

/-! ## The certificate of the authority -/

def secureHttpBuild : Build :=
  { pahoC := false, secureConnection := true, useClientCerts := false, httpPublishEnable := true }

def secureHttpGlobals : Globals := .initial secureHttpBuild

/-- A client with a certificate of an authority. -/
def caClient : ZohoIOTclient := { certs := { caCrt := some "ca.pem".toList } }

/-- The certificate cannot be loaded. -/
def loadFailure : UploadAnswer where
  loadVerifyLocations := false
  reads := (bioPieces 0).toBioReads
  stream := []
  cloudLog := some (some "[]".toList)
  numberOfLinesRead := 0
  sizeOfLogRead := 0

/-- The ACK contains what was left in the array. -/
theorem load_failure_leaks :
    handleCloudLoggingBytes secureHttpBuild secureHttpGlobals caClient "[]".toList loadFailure
        ("left".toList ++ List.replicate 96 '\x00') =
      some { payload := "[]".toList, code := executionFailure,
             responseMessage := "left".toList } ∧
    (¬ ∀ payload ans, AckDetermined secureHttpBuild secureHttpGlobals caClient payload ans) ∧
    ¬ ∀ payload responseAllocated ans,
      ResponseDetermined secureHttpBuild secureHttpGlobals caClient payload responseAllocated ans := by
  have hfails : LoadFails secureHttpBuild caClient loadFailure.toHttpAnswer := by decide
  refine ⟨by decide +kernel, fun h => ?_, fun h => ?_⟩
  · exact (ackDetermined_iff "[]".toList loadFailure).mp (h _ _)
      ⟨rfl, exists_cloudLogRequest_iff.mpr ⟨rfl, _, rfl⟩, rfl, hfails⟩
  · exact (responseDetermined_iff "[]".toList true loadFailure.toHttpAnswer).mp (h _ _ _)
      ⟨rfl, exists_offlineRequest_iff.mpr ⟨rfl, by decide⟩, rfl, hfails⟩

end ZohoIotSdk
