import ZohoIotSdk.Http.Response
import ZohoIotSdk.Process.Whitespace

/-!
# The requests to the HTTP server

What `publishOfflineData` and `http_post_cloud_logging` hand to `http_post`: a request header in
a buffer of 1000 bytes, and the body. `snprintf` cuts a header off that does not fit.

`requests_complete_iff`: after a `zclient_init` that succeeds, a header is complete if and only if
device id, token and host leave room for the rest of it. Nothing bounds the token.
-/

namespace ZohoIotSdk

open Machine

/-- `MAX_OFFLINE_DATA_SIZE` -/
def maxOfflineDataSize : ℕ := 1048576

/-- A request: the text in `request_url`, and the body. -/
structure HttpRequest where
  requestUrl : CString
  publishPayload : CString
deriving DecidableEq

/-- Client certificates are in use. -/
def clientCertsInUse (b : Build) (g : Globals) : Bool := b.useClientCerts && g.tlsClientCerts

/-! ## The headers -/

/-- A header of four fixed parts with three texts between them, and with a length at its end. -/
def requestText (start second third fourth x y z length : CString) : CString :=
  start ++ (x ++ (second ++ (y ++ (third ++ (z ++ (fourth ++ (length ++ headerEnd)))))))

/-- The end of both headers, up to the length. -/
def lengthPart : CString := "\r\nContent-Type: application/json\r\nContent-Length: ".toList

/-- The header for offline data; `length` is printed with `%zu`. -/
def offlineRequestText (clientId password hostname : CString) (length : ℕ) : CString :=
  requestText "POST /v1/iot/telemetry/import?device_id=".toList "&device_token=".toList
    "&allow_partial_import=true HTTP/1.1\r\nHost: ".toList lengthPart clientId password hostname
    (Nat.toDigits 10 length)

/-- The header for a log; `length` is printed with `%d`. -/
def cloudLogRequestText (clientId hostname password : CString) (length : ℤ) : CString :=
  requestText "POST /v1/iot/logs/import?device_id=".toList " HTTP/1.1\r\nHost: ".toList
    "\r\nAuthorization: Bearer ".toList lengthPart clientId hostname password (intText length)

/-- `publishOfflineData` up to the call of `http_post`: the request, or the response message. -/
def offlineRequest (b : Build) (g : Globals) (c : ZohoIOTclient) (payload : CString) :
    Except CString HttpRequest :=
  if clientCertsInUse b g then
    .error ("publishofflineData not supported in Authentication Type -> " ++
      "Client Certificate with TLS").toList
  else if payload.length > maxOfflineDataSize then .error "Offline data size exceeds 1 MB".toList
  else
    .ok { requestUrl := snprintf 1000 (offlineRequestText (c.config.clientId.getD [])
            (c.config.authToken.getD []) (c.config.hostname.getD []) payload.length),
          publishPayload := payload }

/-- `http_post_cloud_logging` up to the call of `http_post`. `get_cloud_log` may return nothing,
and so may `cJSON_Print`; the length of the text is kept in an `int`. -/
def cloudLogRequest (b : Build) (g : Globals) (c : ZohoIOTclient) (cloudLog : Option CStringPtr) :
    Except CString HttpRequest :=
  if clientCertsInUse b g then
    .error ("Cloud Logging not supported in Authentication Type -> " ++
      "Client Certificate with TLS").toList
  else
    match cloudLog with
    | none => .error "Error in fetching the log from the file".toList
    | some none => .error "Error in parsing cloudlog array to string".toList
    | some (some cloudLogString) =>
      .ok { requestUrl := snprintf 1000 (cloudLogRequestText (c.config.clientId.getD [])
              (c.config.hostname.getD []) (c.config.authToken.getD [])
              (toSigned 32 cloudLogString.length)),
            publishPayload := cloudLogString }

/-- The bytes of the body that `http_post` passes to `BIO_write`, whose length is an `int`. -/
def HttpRequest.bodySent (request : HttpRequest) : CString :=
  request.publishPayload.take (toSigned 32 request.publishPayload.length).toNat

/-! ## Complete headers -/

/-- The header has not been cut off: it has the device id, the token and the host, and ends with
the length of the body that is sent after it. -/
structure CompleteRequest (text : ℕ → CString) (clientId token host : CString)
    (request : HttpRequest) : Prop where
  whole : request.requestUrl = text request.bodySent.length
  clientId : clientId <:+: request.requestUrl
  token : token <:+: request.requestUrl
  host : host <:+: request.requestUrl
  contentLength :
    "Content-Length: ".toList ++ (Nat.toDigits 10 request.bodySent.length ++ headerEnd) <:+
      request.requestUrl

section Header

variable {start second third x y z length : CString} {request : HttpRequest}

/-- The length of a request, as the sum over its pieces. -/
theorem length_requestText (start second third fourth x y z length : CString) :
    (requestText start second third fourth x y z length).length =
      start.length + second.length + third.length + fourth.length + 4 +
        (x.length + y.length + z.length + length.length) := by
  have hend : headerEnd.length = 4 := by decide
  simp only [requestText, List.length_append, hend]
  omega

/-- The fixed parts of this request have 151 bytes. -/
theorem length_offlineRequestText (clientId token host : CString) (n : ℕ) :
    (offlineRequestText clientId token host n).length =
      151 + (clientId.length + token.length + host.length + (Nat.toDigits 10 n).length) := by
  have hparts : "POST /v1/iot/telemetry/import?device_id=".toList.length +
      "&device_token=".toList.length +
      "&allow_partial_import=true HTTP/1.1\r\nHost: ".toList.length + lengthPart.length + 4 =
        151 := by decide +kernel
  rw [offlineRequestText, length_requestText, hparts]

/-- The fixed parts of this request have 130 bytes. -/
theorem length_cloudLogRequestText (clientId host token : CString) (n : ℤ) :
    (cloudLogRequestText clientId host token n).length =
      130 + (clientId.length + host.length + token.length + (intText n).length) := by
  have hparts : "POST /v1/iot/logs/import?device_id=".toList.length +
      " HTTP/1.1\r\nHost: ".toList.length + "\r\nAuthorization: Bearer ".toList.length +
      lengthPart.length + 4 = 130 := by decide +kernel
  rw [cloudLogRequestText, length_requestText, hparts]

/-- The values stand in the request whole. -/
theorem infix_requestText (start second third fourth x y z length : CString) :
    x <:+: requestText start second third fourth x y z length ∧
      y <:+: requestText start second third fourth x y z length ∧
      z <:+: requestText start second third fourth x y z length := by
  unfold requestText
  refine ⟨List.infix_append' .., ?_, ?_⟩
  · exact ((List.infix_append' second y _).trans (List.suffix_append x _).isInfix).trans
      (List.suffix_append start _).isInfix
  · have hlast := (List.infix_append' third z (fourth ++ (length ++ headerEnd))).trans
      (List.suffix_append y _).isInfix
    exact ((hlast.trans (List.suffix_append second _).isInfix).trans
      (List.suffix_append x _).isInfix).trans (List.suffix_append start _).isInfix

/-- The request ends with the length of the body and an empty line. -/
theorem suffix_requestText (start second third x y z length : CString) :
    "Content-Length: ".toList ++ (length ++ headerEnd) <:+
      requestText start second third lengthPart x y z length := by
  have hpart : lengthPart = "\r\nContent-Type: application/json\r\n".toList ++
      "Content-Length: ".toList := by decide +kernel
  unfold requestText
  rw [hpart, List.append_assoc]
  exact ((((((List.suffix_append _ _).trans (List.suffix_append z _)).trans
    (List.suffix_append third _)).trans (List.suffix_append y _)).trans
    (List.suffix_append second _)).trans (List.suffix_append x _)).trans
    (List.suffix_append start _)

/-- `snprintf` leaves a text whole if it has room for it. -/
theorem snprintf_eq_iff (text : CString) : snprintf 1000 text = text ↔ text.length ≤ 999 :=
  List.take_eq_self_iff _

/-- Where the length is below zero, a minus sign takes the place of the first digit. -/
theorem snprintf_ne_of_neg {n : ℤ} (hneg : n < 0) (k : ℕ) :
    snprintf 1000 (requestText start second third fourth x y z (intText n)) ≠
      requestText start second third fourth x y z (Nat.toDigits 10 k) := by
  intro heq
  have hminus : intText n = '-' :: Nat.toDigits 10 n.natAbs := if_pos hneg
  obtain ⟨c, cs, hdigits⟩ := List.exists_cons_of_ne_nil (Nat.toDigits_ne_nil (n := k) (b := 10))
  have hdigit : c.isDigit = true :=
    Nat.isDigit_of_mem_toDigits (b := 10) (n := k) (by decide) (by decide)
      (by rw [hdigits]; exact List.mem_cons_self ..)
  have hstart := List.take_prefix 999 (requestText start second third fourth x y z (intText n))
  rw [show List.take 999 _ = _ from heq] at hstart
  unfold requestText at hstart
  simp only [hminus, hdigits, List.prefix_append_right_inj, List.cons_append,
    List.cons_prefix_cons] at hstart
  rw [hstart.1] at hdigit
  exact absurd hdigit (by decide)

/-- The request for stored data holds all its values. -/
theorem offlineRequestText_content (clientId token host : CString) (n : ℕ) :
    clientId <:+: offlineRequestText clientId token host n ∧
      token <:+: offlineRequestText clientId token host n ∧
      host <:+: offlineRequestText clientId token host n ∧
      "Content-Length: ".toList ++ (Nat.toDigits 10 n ++ headerEnd) <:+
        offlineRequestText clientId token host n := by
  obtain ⟨hid, htoken, hhost⟩ := infix_requestText
    "POST /v1/iot/telemetry/import?device_id=".toList "&device_token=".toList
    "&allow_partial_import=true HTTP/1.1\r\nHost: ".toList lengthPart clientId token host
    (Nat.toDigits 10 n)
  exact ⟨hid, htoken, hhost, suffix_requestText ..⟩

/-- The request for the logs holds all its values. -/
theorem cloudLogRequestText_content (clientId token host : CString) (n : ℕ) :
    clientId <:+: cloudLogRequestText clientId host token n ∧
      token <:+: cloudLogRequestText clientId host token n ∧
      host <:+: cloudLogRequestText clientId host token n ∧
      "Content-Length: ".toList ++ (Nat.toDigits 10 n ++ headerEnd) <:+
        cloudLogRequestText clientId host token n := by
  rw [cloudLogRequestText, intText_natCast]
  obtain ⟨hid, hhost, htoken⟩ := infix_requestText
    "POST /v1/iot/logs/import?device_id=".toList " HTTP/1.1\r\nHost: ".toList
    "\r\nAuthorization: Bearer ".toList lengthPart clientId host token (Nat.toDigits 10 n)
  exact ⟨hid, htoken, hhost, suffix_requestText ..⟩

/-- A header that is whole has everything that it is made of. -/
theorem completeRequest_iff {text : ℕ → CString} {clientId token host : CString}
    (hcontent : ∀ n, clientId <:+: text n ∧ token <:+: text n ∧ host <:+: text n ∧
      "Content-Length: ".toList ++ (Nat.toDigits 10 n ++ headerEnd) <:+ text n) :
    CompleteRequest text clientId token host request ↔
      request.requestUrl = text request.bodySent.length := by
  refine ⟨CompleteRequest.whole, fun h => ?_⟩
  obtain ⟨hid, htoken, hhost, hlength⟩ := hcontent request.bodySent.length
  rw [← h] at hid htoken hhost hlength
  exact ⟨h, hid, htoken, hhost, hlength⟩

theorem bodySent_of_lt (h : request.publishPayload.length < 2 ^ 31) :
    request.bodySent = request.publishPayload := by
  rw [HttpRequest.bodySent, toSigned_natCast (by decide) h, Int.toNat_natCast, List.take_length]

end Header

section Requests

variable {b : Build} {g : Globals} {c : ZohoIOTclient} {id token host : CString}

/-- The header for offline data is complete if there is room for it, or is not built. -/
theorem offlineRequest_complete_iff (hid : c.config.clientId = some id)
    (htoken : c.config.authToken = some token) (hhost : c.config.hostname = some host)
    {payload : CString} (hpayload : payload.length ≤ maxOfflineDataSize) :
    (∀ request, offlineRequest b g c payload = .ok request →
      CompleteRequest (offlineRequestText id token host) id token host request) ↔
    clientCertsInUse b g = true ∨
      151 + (id.length + token.length + host.length +
        (Nat.toDigits 10 payload.length).length) ≤ 999 := by
  have hsmall : payload.length < 2 ^ 31 := by
    unfold maxOfflineDataSize at hpayload
    omega
  cases hcerts : clientCertsInUse b g with
  | true => simp [offlineRequest, hcerts]
  | false =>
    have hrequest : offlineRequest b g c payload = .ok
        { requestUrl := snprintf 1000 (offlineRequestText id token host payload.length),
          publishPayload := payload } := by
      rw [offlineRequest, hcerts, hid, htoken, hhost, if_neg (by simp), if_neg (by omega)]
      rfl
    rw [hrequest]
    simp only [Except.ok.injEq, forall_eq', Bool.false_eq_true, false_or]
    rw [completeRequest_iff (offlineRequestText_content id token host), bodySent_of_lt hsmall,
      snprintf_eq_iff, length_offlineRequestText]

/-- The header for a log is complete if there is room for it and the length of the log does not
turn negative, or is not built. -/
theorem cloudLogRequest_complete_iff (hid : c.config.clientId = some id)
    (htoken : c.config.authToken = some token) (hhost : c.config.hostname = some host)
    (log : CString) :
    (∀ request, cloudLogRequest b g c (some (some log)) = .ok request →
      CompleteRequest (fun n => cloudLogRequestText id host token n) id token host request) ↔
    clientCertsInUse b g = true ∨
      0 ≤ toSigned 32 log.length ∧
        130 + (id.length + host.length + token.length +
          (intText (toSigned 32 log.length)).length) ≤ 999 := by
  cases hcerts : clientCertsInUse b g with
  | true => simp [cloudLogRequest, hcerts]
  | false =>
    have hrequest : cloudLogRequest b g c (some (some log)) = .ok
        { requestUrl := snprintf 1000 (cloudLogRequestText id host token
            (toSigned 32 log.length)),
          publishPayload := log } := by
      rw [cloudLogRequest, hcerts, hid, htoken, hhost]
      rfl
    rw [hrequest]
    simp only [Except.ok.injEq, forall_eq', Bool.false_eq_true, false_or]
    rw [completeRequest_iff (cloudLogRequestText_content id token host), HttpRequest.bodySent]
    by_cases hneg : toSigned 32 log.length < 0
    · refine iff_of_false ?_ fun h => absurd h.1 (by omega)
      rw [cloudLogRequestText, cloudLogRequestText, intText_natCast]
      exact snprintf_ne_of_neg hneg _
    · have hsent : ((log.take (toSigned 32 log.length).toNat).length : ℤ) =
          toSigned 32 log.length := by
        have hle := toSigned_le (w := 32) log.length
        rw [List.length_take]
        omega
      rw [hsent, snprintf_eq_iff, length_cloudLogRequestText]
      exact ⟨fun h => ⟨by omega, h⟩, fun h => h.2⟩

variable {args : InitArgs} {w : Answer} {s : Sdk}

/-- A client that is initialised has a device id, a token and a host name. -/
theorem initSdk_strings (h : (initSdk b args w s).1 = zsuccess) :
    ∃ id token host, (initSdk b args w s).2.client.config.clientId = some id ∧
      (initSdk b args w s).2.client.config.authToken = some token ∧
      (initSdk b args w s).2.client.config.hostname = some host := by
  obtain ⟨config, hconfig, -, -, heq⟩ := initSdk_success h
  cases hname : args.mqttUserName with
  | none =>
    have hinvalid : credentialsValid b s.globals args = false := by
      simp [credentialsValid, isStringValid, hname]
    rw [initConfig, if_pos hinvalid] at hconfig
    exact absurd hconfig (by simp)
  | some userName =>
    rw [initConfig_eq hname] at hconfig
    split at hconfig
    · rename_i hvalid
      have hfive := hvalid.2.2
      obtain rfl := Option.some.inj hconfig
      have htoken : ∃ token, (parsedConfig b s.globals args userName).authToken = some token := by
        unfold parsedConfig
        split
        · exact ⟨_, rfl⟩
        · exact ⟨_, rfl⟩
      obtain ⟨token, htoken⟩ := htoken
      have hstored : (initSdk b args w s).2.client.config.authToken = some token := by
        rw [heq]
        unfold initClient initFields
        simp only []
        split
        · exact htoken
        · split <;> exact htoken
      obtain ⟨-, hhost, hid⟩ := initSdk_stored hname h
      exact ⟨_, token, _, hid.trans (List.getElem?_eq_getElem (by omega)), hstored,
        hhost.trans (List.getElem?_eq_getElem (by omega))⟩
    · simp at hconfig

/-- For every client that `zclient_init` accepts, every payload of at most 1 MB and every log: the
header of the request has everything, and the length of the body that follows, if and only if it
fits into 999 bytes, and a log is shorter than `2 ^ 31` bytes, modulo `2 ^ 32`; or if client
certificates are in use, so that there is no request. -/
theorem requests_complete_iff (h : (initSdk b args w s).1 = zsuccess) :
    ∃ id token host, (initSdk b args w s).2.client.config.clientId = some id ∧
      (initSdk b args w s).2.client.config.authToken = some token ∧
      (initSdk b args w s).2.client.config.hostname = some host ∧
      ∀ g : Globals,
        (∀ payload, payload.length ≤ maxOfflineDataSize →
          ((∀ request, offlineRequest b g (initSdk b args w s).2.client payload = .ok request →
            CompleteRequest (offlineRequestText id token host) id token host request) ↔
          clientCertsInUse b g = true ∨
            151 + (id.length + token.length + host.length +
              (Nat.toDigits 10 payload.length).length) ≤ 999)) ∧
        ∀ log : CString,
          (∀ request, cloudLogRequest b g (initSdk b args w s).2.client (some (some log)) =
              .ok request →
            CompleteRequest (fun n => cloudLogRequestText id host token n) id token host request) ↔
          clientCertsInUse b g = true ∨
            0 ≤ toSigned 32 log.length ∧
              130 + (id.length + host.length + token.length +
                (intText (toSigned 32 log.length)).length) ≤ 999 := by
  obtain ⟨id, token, host, hid, htoken, hhost⟩ := initSdk_strings h
  refine ⟨id, token, host, hid, htoken, hhost, fun g => ⟨fun payload hpayload => ?_, fun log => ?_⟩⟩
  · exact offlineRequest_complete_iff hid htoken hhost hpayload
  · exact cloudLogRequest_complete_iff hid htoken hhost log

end Requests

def httpEmbeddedBuild : Build := { embeddedBuild with httpPublishEnable := true }

/-- The client of a device whose token has `n` bytes. -/
def tokenClient (n : ℕ) : ℤ × Sdk :=
  initSdk httpEmbeddedBuild { sampleArgs with mqttPassword := some (List.replicate n 'a') } {} {}

/-- The header for a short token. -/
theorem short_token_complete : CompleteRequest
    (offlineRequestText "7".toList (List.replicate 5 'a') "host".toList) "7".toList
    (List.replicate 5 'a') "host".toList
    { requestUrl := offlineRequestText "7".toList (List.replicate 5 'a') "host".toList 2,
      publishPayload := "[]".toList } := by
  have hinit : (tokenClient 5).1 = zsuccess := by decide +kernel
  obtain ⟨id, token, host, hid, htoken, hhost, hcomplete⟩ := requests_complete_iff hinit
  obtain rfl : id = "7".toList := Option.some.inj (hid.symm.trans (by decide +kernel))
  obtain rfl : token = List.replicate 5 'a' :=
    Option.some.inj (htoken.symm.trans (by decide +kernel))
  obtain rfl : host = "host".toList := Option.some.inj (hhost.symm.trans (by decide +kernel))
  exact ((hcomplete {}).1 "[]".toList (by decide)).mpr (.inr (by decide)) _ (by decide +kernel)

/-- The header for a token of 1000 bytes ends within the token. -/
theorem long_token_cut : (tokenClient 1000).1 = zsuccess ∧
    ∃ request, offlineRequest httpEmbeddedBuild {} (tokenClient 1000).2.client "[]".toList =
        .ok request ∧
      request.requestUrl.length = 999 ∧ ¬ headerEnd <:+ request.requestUrl ∧
      ¬ CompleteRequest (offlineRequestText "7".toList (List.replicate 1000 'a') "host".toList)
        "7".toList (List.replicate 1000 'a') "host".toList request := by
  have hcut : (offlineRequest httpEmbeddedBuild {} (tokenClient 1000).2.client "[]".toList).map
      (fun request => decide (request.requestUrl.length = 999 ∧
        ¬ headerEnd <:+ request.requestUrl)) = .ok true := by decide +kernel
  refine ⟨by decide +kernel, ?_⟩
  cases hrequest : offlineRequest httpEmbeddedBuild {} (tokenClient 1000).2.client "[]".toList with
  | error message =>
    rw [hrequest] at hcut
    exact absurd hcut (by simp [Except.map])
  | ok request =>
    rw [hrequest] at hcut
    obtain ⟨hlength, hend⟩ := of_decide_eq_true (Except.ok.inj hcut)
    refine ⟨request, rfl, hlength, hend, fun hcomplete => hend ?_⟩
    have hsuffix := hcomplete.contentLength
    rw [← List.append_assoc] at hsuffix
    exact (List.suffix_append _ _).trans hsuffix

end ZohoIotSdk
