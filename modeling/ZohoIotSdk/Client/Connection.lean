import ZohoIotSdk.Client.Telemetry

/-!
# Connecting, subscribing, reconnecting

`zclient_init`, `zclient_connect`, `zclient_disconnect`, the subscriptions,
`zclient_yield`, and `zclient_reconnect` with the replay of the retained ACK and event.
-/

namespace ZohoIotSdk

open Atomic (Prog)

/-! ## Initialisation -/

/-- The loop of `populateConfigObject`: `rest` are the tokens after the current one, which
is not null. Returns the number of tokens counted and the client id. -/
def populateLoop : List CString → ℕ → CStringPtr → ℕ × CStringPtr
  | [], itrCnt, clientId => (itrCnt + 1, if itrCnt + 1 = 3 then none else clientId)
  | token :: rest, itrCnt, clientId =>
    populateLoop rest (itrCnt + 1) (if itrCnt + 1 = 3 then some token else clientId)

/-- `populateConfigObject`: the host name and the client id, or failure. -/
def populateConfigObject (userName : CString) (config : Zconfig) : ℤ × Zconfig :=
  if 64 ≤ userName.length then (zfailure, config)
  else
    let (itrCnt, hostname, clientId) := match strtok '/' userName with
      | [] => (0, none, config.clientId)
      | token :: rest =>
        let (n, id) := populateLoop rest 0 config.clientId
        (n, some token, id)
    if itrCnt ≠ 5 then (zfailure, { config with hostname := none, clientId := none })
    else (zsuccess, { config with hostname := hostname, clientId := clientId })

/-- The arguments of `zclient_init` other than the client. -/
structure InitArgs where
  mqttUserName : CStringPtr
  mqttPassword : CStringPtr
  mode : CertsParseMode
  caCrt : CStringPtr
  clientCert : CStringPtr
  clientKey : CStringPtr
  certPassword : CStringPtr

/-- The check of the credentials; with client certificates over TLS no password is
needed. -/
def credentialsValid (b : Build) (g : Globals) (args : InitArgs) : Bool :=
  if b.useClientCerts ∧ g.tlsClientCerts ∧ g.tlsMode then isStringValid args.mqttUserName
  else isStringValid args.mqttUserName && isStringValid args.mqttPassword

/-- A topic of the client: `TOPIC_PRE/client_id` and a suffix. -/
def topicText (clientId suffix : CString) : CString :=
  "/devices".toList ++ '/' :: (clientId ++ suffix)

/-- The six topics, in the order in which they are written: where, and the suffix. -/
def topicWrites : List ((ZohoIOTclient → CString → ZohoIOTclient) × CString) :=
  [(fun c t => { c with dataTopic := t }, "/telemetry".toList),
   (fun c t => { c with commandTopic := t }, "/commands".toList),
   (fun c t => { c with commandAckTopic := t }, "/commands/ack".toList),
   (fun c t => { c with eventTopic := t }, "/events".toList),
   (fun c t => { c with configTopic := t }, "/configsettings".toList),
   (fun c t => { c with configAckTopic := t }, "/configsettings/ack".toList)]

/-- The chain of `snprintf` calls: it stops at the first topic that does not fit. -/
def writeTopics (clientId : CString) :
    List ((ZohoIOTclient → CString → ZohoIOTclient) × CString) → ZohoIOTclient →
      Bool × ZohoIOTclient
  | [], c => (true, c)
  | (set, suffix) :: rest, c =>
    let c := set c (snprintf 64 (topicText clientId suffix))
    if 64 ≤ (topicText clientId suffix).length then (false, c) else writeTopics clientId rest c

/-- The certificates: what is stored, and whether everything needed is there. -/
def initCerts (b : Build) (g : Globals) (args : InitArgs) (w : Answer)
    (certs : ZclientCertificates) : Bool × ZclientCertificates :=
  let missing (path : CStringPtr) : Bool :=
    match path with
    | none => true
    | some p => decide (args.mode = .reference) && !w.fileExists p
  if b.secureConnection = false ∨ g.tlsMode = false then (true, certs)
  else if missing args.caCrt then (false, certs)
  else
    let certs := { certs with caCrt := args.caCrt }
    if b.useClientCerts = false ∨ g.tlsClientCerts = false then (true, certs)
    else if missing args.clientCert ∨ missing args.clientKey ∨ args.certPassword = none then
      (false, certs)
    else (true, { certs with clientCert := args.clientCert, clientKey := args.clientKey,
                             certPassword := args.certPassword })

/-- The fields that `zclient_init` resets; the current state is set last, if the mutex can
be created. -/
def resetClient (c : ZohoIOTclient) : ZohoIOTclient :=
  { c with
    messageData := some cJSONCreateObject
    eventDataObject := some cJSONCreateObject
    startTime := 0
    retryCount := 0
    retryACK := false
    retryEvent := false
    yieldTime := 0
    yieldInterval := 1
    otaReceived := false
    onOTAHandler := none
    cloudLoggingInProcessing := false
    cloudLogging := false
    onCommandMessageHandler := none
    onConfigMessageHandler := none
    failedACK := {}
    failedEvent := {}
    connectionStringBuff := [] }

/-- The configuration that a user name and a password give, if they can be used. -/
def initConfig (b : Build) (g : Globals) (args : InitArgs) : Option Zconfig :=
  if credentialsValid b g args = false then none
  else
    let (rc, config) := populateConfigObject (args.mqttUserName.getD [])
      { clientId := some [], hostname := some [], authToken := some [], mqttUserName := some [] }
    if rc = zfailure then none
    else
      let config := { config with mqttUserName := some (trim (args.mqttUserName.getD [])) }
      if b.useClientCerts = true ∧ g.tlsClientCerts = true then some config
      else some { config with authToken := some (trim (args.mqttPassword.getD [])) }

/-- The end of `zclient_init`: the port, the fields of the client, and the mutex, whose
creation is answered by `rc`. -/
def initFields (b : Build) (w : Answer) (s : Sdk) : ℤ × Sdk :=
  let globals := if b.secureConnection = true ∧ s.globals.tlsMode = false then
    { s.globals with zport := 1883 } else s.globals
  let client := resetClient s.client
  if w.rc ≠ 0 then (zfailure, { client := client, globals := globals })
  else (zsuccess, { client := { client with currentState := .initialized }, globals := globals })

/-- `zclient_init` once the configuration and the topics are there. -/
def initClient (b : Build) (args : InitArgs) (w : Answer) (config : Zconfig) (s : Sdk) :
    ℤ × Sdk :=
  let certs := initCerts b s.globals args w s.client.certs
  let client := { s.client with
    config := { config with retryLimit := 5, payloadSize := defaultPayloadSize }
    parseMode := args.mode
    certs := certs.2 }
  if certs.1 = false then (zfailure, { s with client := client })
  else initFields b w { s with client := client }

/-- The result of `zclient_init` and the state it leaves; every early return leaves what
was written before it. -/
def initSdk (b : Build) (args : InitArgs) (w : Answer) (s : Sdk) : ℤ × Sdk :=
  match initConfig b s.globals args with
  | none => (zfailure, s)
  | some config =>
    let written := writeTopics (config.clientId.getD []) topicWrites
      { s.client with zretryInterval := minRetryInterval }
    if written.1 = false then (zfailure, { s with client := written.2 })
    else initClient b args w config { s with client := written.2 }

/-- `zclient_init`, on a client pointer that is not null. No other thread knows the client
yet, so it is one step; `rc` of the answer is the result of `pthread_mutex_init`. -/
def zclientInit (b : Build) (args : InitArgs) : ClientM ℤ :=
  Prog.act (fun w s => (initSdk b args w s).2) (fun w s => [.init (initSdk b args w s).1])
    fun w s => (initSdk b args w s).1

/-- `zclient_setMaxPayloadSize`. -/
def zclientSetMaxPayloadSize (size : ℤ) : ClientM ℤ := do
  let newSize := if maxPayloadSize < size then maxPayloadSize
    else if size < 1 then defaultPayloadSize else size
  modifyClient fun c => { c with config := { c.config with payloadSize := newSize } }
  pure (if maxPayloadSize < size ∨ size < 1 then -1 else 0)

/-! ## The connection string -/

/-- `zclient_addConnectionParameter`, on the 256-byte buffer. -/
def addConnectionParameter (buf key value : CString) : CString :=
  strncat 256 (strncat 256 (strncat 256 (strncat 256 buf key) "=".toList) value) "&".toList

/-- The parameters that are present. -/
def connectionParameters (sdkVersion : CString) (g : Globals)
    (osDetails : Option (CString × CString)) : List (CString × CString) :=
  [("sdk_name".toList, "zoho-iot-sdk-c".toList), ("sdk_version".toList, sdkVersion)]
    ++ (if g.agentName ≠ [] ∧ g.agentVersion ≠ [] then
        [("agent_name".toList, g.agentName), ("agent_version".toList, g.agentVersion)] else [])
    ++ (if g.platform ≠ [] then [("agent_platform".toList, g.platform)] else [])
    ++ (match osDetails with
      | none => []
      | some (name, version) => [("os_name".toList, name), ("os_version".toList, version)])

/-- `formConnectionString`: what it leaves in the buffer. -/
def formConnectionString (sdkVersion : CString) (g : Globals)
    (osDetails : Option (CString × CString)) (username : CString) : CString :=
  let buf := (connectionParameters sdkVersion g osDetails).foldl
    (fun buf (key, value) => addConnectionParameter buf key value)
    (strncat 256 (strncat 256 [] username) "?".toList)
  if buf.getLast? = some '&' then buf.dropLast else buf

/-- `formConnectionString` on the client. The version text is generated by the build
system, so it is an answer of the environment, like the details of the system. -/
def connectionString : ClientM CString :=
  let text (w : Answer) (s : Sdk) :=
    formConnectionString w.text s.globals w.osDetails (s.client.config.mqttUserName.getD [])
  Prog.act (fun w s => { s with client := { s.client with connectionStringBuff := text w s } })
    (fun _ _ => []) text

/-! ## Connecting -/

/-- Close the network connection: `NetworkDisconnect`, or `MQTTClient_destroy`. -/
def closeNetwork (b : Build) : ClientM Unit :=
  ask (fun _ => if b.pahoC then .mqttDestroy else .networkDisconnect) fun _ => ()

/-- Leave the MQTT session, if there is one. -/
def leaveSession : ClientM ℤ := do
  let state ← readClient (·.currentState)
  if state = .connected then ask (fun w => .mqttDisconnect w.rc) (·.rc) else pure zsuccess

/-- `zclient_disconnect`. -/
def zclientDisconnect (b : Build) : ClientM ℤ := do
  let rc ← leaveSession
  let state ← readClient (·.currentState)
  if state ≠ .initialized then do
    closeNetwork b
    setCurrentState .disconnected
    pure rc
  else do
    setCurrentState .disconnected
    pure rc

/-- The end of `zclient_connect`: `rc` is the result of the MQTT connection. -/
def finishConnect (b : Build) (rc : ℤ) : ClientM ℤ :=
  if rc = 0 then do
    setCurrentState .connected
    pure rc
  else do
    let state ← readClient (·.currentState)
    if b.pahoC = true ∧ state ≠ .initialized then pure rc
    else do
      closeNetwork b
      pure rc

/-- The address of the server in the Paho C build. -/
def serverAddress (b : Build) (s : Sdk) : CString :=
  (if b.secureConnection = true ∧ s.globals.tlsMode = true then "ssl://".toList
      else "tcp://".toList)
    ++ s.client.config.hostname.getD [] ++ ':' :: intText s.globals.zport

/-- An initialised client gets a new handle; the result is that of a failed step. -/
def createHandle (b : Build) : ClientM (Option ℤ) := do
  let state ← readClient (·.currentState)
  if state = .initialized then do
    Prog.modify fun s => { s with client := { s.client with address := serverAddress b s } }
    let rc ← ask (fun w => .mqttCreate w.rc) (·.rc)
    if rc ≠ 0 then pure (some zfailure)
    else ask (fun w => .mqttSetCallbacks w.rc) fun w => if w.rc ≠ 0 then some w.rc else none
  else pure none

/-- The Paho C variant of `zclient_connect`. -/
def connectPahoC (b : Build) : ClientM ℤ := do
  let failed ← createHandle b
  match failed with
  | some rc => pure rc
  | none => do
    let username ← connectionString
    let rc ← ask (fun w => .mqttConnect username w.rc) (·.rc)
    finishConnect b rc

/-- The embedded variant of `zclient_connect`: the buffers get the size that is configured
now. -/
def connectEmbedded (b : Build) : ClientM ℤ := do
  let buffSize ← readClient fun c => c.config.payloadSize.toNat
  modifyClient fun c => { c with config :=
    { c.config with mqttBuff := some buffSize, mqttReadBuff := some buffSize } }
  let rc ← Prog.act (fun _ s => s) (fun w s => [.networkConnect s.globals.zport w.rc])
    fun w _ => w.rc
  if rc ≠ zsuccess then
    -- the device time has changed
    if rc = -11 then do
      let _ ← zclientDisconnect b
      modifyClient fun c => { c with startTime := 0 }
      pure zfailure
    else pure zfailure
  else do
    modifyClient fun c => { c with mqttClient := { bufSize := buffSize } }
    let username ← connectionString
    let rc ← ask (fun w => .mqttConnect username w.rc) (·.rc)
    finishConnect b rc

/-- `zclient_connect`. -/
def zclientConnect (b : Build) : ClientM ℤ := do
  let rc ← validateClientState
  if rc ≠ 0 then pure rc
  else do
    let state ← readClient (·.currentState)
    if state = .connected then pure zsuccess
    else if b.pahoC then connectPahoC b
    else connectEmbedded b

/-! ## Subscribing and yielding -/

/-- The two subscribe functions. -/
def subscribe (setHandler : Option ℕ → ZohoIOTclient → ZohoIOTclient)
    (topic : ZohoIOTclient → CString) (onMessage : Option ℕ) : ClientM ℤ := do
  let rc ← validateClientState
  if rc ≠ 0 then pure rc
  else if onMessage = none then pure zfailure
  else do
    modifyClient (setHandler onMessage)
    let state ← readClient (·.currentState)
    if state ≠ .connected then pure zfailure
    else do
      let rc ← Prog.act (fun _ s => s) (fun w s => [.subscribe (topic s.client) w.rc])
        fun w _ => w.rc
      if rc = zsuccess then pure rc
      else do
        -- both branches on the state of the transport force a reconnection
        let _ ← transportConnected
        setCurrentState .disconnected
        pure rc

/-- `zclient_command_subscribe`. -/
def zclientCommandSubscribe (onMessage : Option ℕ) : ClientM ℤ :=
  subscribe (fun h c => { c with onCommandMessageHandler := h }) (·.commandTopic) onMessage

/-- `zclient_config_subscribe`. -/
def zclientConfigSubscribe (onMessage : Option ℕ) : ClientM ℤ :=
  subscribe (fun h c => { c with onConfigMessageHandler := h }) (·.configTopic) onMessage

/-- `zclient_yield`. -/
def zclientYield (b : Build) (timeOut : ℤ) : ClientM ℤ := do
  let rc ← validateClientState
  if rc ≠ 0 then pure rc
  else if b.pahoC then do
    let connected ← transportConnected
    if connected then pure 0
    else do
      setCurrentState .disconnected
      pure zfailure
  else do
    let now ← getCurrentTime
    let tooEarly ← readClient fun c => decide (now - c.yieldTime < c.yieldInterval)
    -- two calls within one interval
    if tooEarly then pure 2
    else do
      let now ← getCurrentTime
      modifyClient fun c => { c with yieldTime := now }
      if timeOut ≤ 0 then pure zfailure
      else do
        let rc ← ask (fun w => .yield w.rc) (·.rc)
        if rc = zfailure then do
          let connected ← transportConnected
          if connected then pure rc
          else do
            setCurrentState .disconnected
            pure zfailure
        else pure rc

/-! ## Reconnecting -/

/-- The section that serialises the retained ACK. -/
def serializeFailedACK : ClientM (Option CJson) :=
  Prog.act (fun _ s => s) (fun _ s => [.serializeACK s.client.failedACK.ackPayload])
    fun _ s => s.client.failedACK.ackPayload

/-- The section that drops the retained ACK. -/
def clearFailedACK : ClientM Unit :=
  Prog.act
    (fun _ s => { s with client := { s.client with
      failedACK := { s.client.failedACK with ackPayload := none }, retryACK := false } })
    (fun _ s => [.clearACK s.client.failedACK.ackPayload]) fun _ _ => ()

/-- The replay of the retained ACK in `zclient_reconnect`. The payload is taken in one
section; the topic is read later, when it is published. `false` is the early return of a
failed serialisation. -/
def replayFailedACK (b : Build) : ClientM Bool := do
  let doRetryACK ← readClient (·.retryACK)
  if doRetryACK = false then pure true
  else do
    let doc ← serializeFailedACK
    match doc with
    | none => pure false
    | some ackPayload => do
      -- the lock is not held here
      let rc ← publishMessage b (.replayACK ackPayload) (·.failedACK.topic)
        (cJSONPrint ackPayload)
      if rc = zsuccess then do
        -- whatever the slot holds by now
        clearFailedACK
        pure true
      else pure true

/-- The section that compares the age of the retained event with 300 seconds, in 64-bit
unsigned arithmetic. -/
def eventExpired : ClientM Bool :=
  Prog.act (fun _ s => s)
    (fun w s => [.expiryTest s.client.failedEvent.eventPayload w.time
      (decide (s.client.failedEvent.eventPayloadTime + 300 < w.time))])
    fun w s => decide (s.client.failedEvent.eventPayloadTime + 300 < w.time)

/-- The section that serialises the retained event. -/
def serializeFailedEvent : ClientM (Option CJson) :=
  Prog.act (fun _ s => s) (fun _ s => [.serializeEvent s.client.failedEvent.eventPayload])
    fun _ s => s.client.failedEvent.eventPayload

/-- The section that drops the retained event. -/
def clearFailedEvent : ClientM Unit :=
  Prog.act
    (fun _ s => { s with client := { s.client with
      failedEvent := { s.client.failedEvent with eventPayload := none }, retryEvent := false } })
    (fun _ s => [.clearEvent s.client.failedEvent.eventPayload]) fun _ _ => ()

/-- The replay of the retained event in `zclient_reconnect`, unless it has expired. -/
def replayFailedEvent (b : Build) : ClientM Bool := do
  let doRetryEvent ← readClient (·.retryEvent)
  if doRetryEvent = false then pure true
  else do
    let expired ← eventExpired
    -- an expired event is dropped without another attempt
    if expired then do
      clearFailedEvent
      pure true
    else do
      let doc ← serializeFailedEvent
      match doc with
      | none => pure false
      | some eventPayload => do
        let rc ← publishMessage b (.replayEvent eventPayload) (·.eventTopic)
          (cJSONPrint eventPayload)
        if rc = zsuccess then do
          clearFailedEvent
          pure true
        else pure true

/-- Subscribe again if a handler is set. -/
def resubscribe (handler : ZohoIOTclient → Option ℕ) (sub : Option ℕ → ClientM ℤ) :
    ClientM ℤ := do
  let onMessage ← readClient handler
  if onMessage = none then pure zsuccess else sub onMessage

/-- `zclient_reconnect` after the connection is up again. -/
def resumeSession (b : Build) : ClientM ℤ := do
  setCurrentState .connected
  modifyClient fun c =>
    { c with retryCount := 0, startTime := 0, zretryInterval := minRetryInterval }
  let subscribeRc ← resubscribe (·.onCommandMessageHandler) zclientCommandSubscribe
  if subscribeRc ≠ zsuccess then pure zfailure
  else do
    let subscribeRc ← resubscribe (·.onConfigMessageHandler) zclientConfigSubscribe
    if subscribeRc ≠ zsuccess then pure zfailure
    else do
      -- a replay that is refused does not fail the reconnection
      let ackDone ← replayFailedACK b
      if ackDone = false then pure zfailure
      else do
        let eventDone ← replayFailedEvent b
        if eventDone = false then pure zfailure else pure zsuccess

/-- `zclient_reconnect` sets the start time at the first call after a disconnection. -/
def recordStartTime : ClientM Unit := do
  let startTime ← readClient (·.startTime)
  if startTime = 0 then do
    let now ← getCurrentTime
    modifyClient fun c => { c with startTime := now }
  else pure ()

/-- A disconnected client is closed before it is connected again. -/
def closeStale (b : Build) : ClientM Unit := do
  let state ← readClient (·.currentState)
  if state ≠ .initialized then do
    closeNetwork b
    setCurrentState .initialized
  else pure ()

/-- `zclient_reconnect` after a failed attempt: back off. -/
def backOff : ClientM ℤ := do
  let now ← getCurrentTime
  modifyClient fun c =>
    { c with startTime := now, zretryInterval := getRetryInterval c.zretryInterval,
             retryCount := c.retryCount + 1 }
  let state ← readClient (·.currentState)
  if state ≠ .disconnected ∧ state ≠ .connected then pure zconnectionError else pure zfailure

/-- `getCurrentTime() - client->start_time > delay`, in unsigned 64-bit arithmetic. -/
def delayPassed (now startTime : UInt64) (delay : ℤ) : Bool :=
  decide ((delay % 2 ^ 64).toNat < (now - startTime).toNat)

/-- `zclient_reconnect`. -/
def zclientReconnect (b : Build) : ClientM ℤ := do
  let rc ← validateClientState
  if rc ≠ 0 then pure rc
  else do
    let state ← readClient (·.currentState)
    if state = .connected then pure zsuccess
    else do
      recordStartTime
      let delay ← readClient (·.zretryInterval)
      let now ← getCurrentTime
      let startTime ← readClient (·.startTime)
      -- too early for the next attempt
      if delayPassed now startTime delay = false then pure zfailure
      else do
        closeStale b
        let rc ← zclientConnect b
        if rc = zsuccess then resumeSession b else backOff

/-- `zclient_free`: the memory is released, the fields keep their values. -/
def zclientFree (b : Build) : ClientM ℤ := do
  let state ← readClient (·.currentState)
  if state = .connected then do
    let _ ← zclientDisconnect b
    if b.pahoC then do
      closeNetwork b
      pure zsuccess
    else pure zsuccess
  else if b.pahoC then do
    closeNetwork b
    pure zsuccess
  else pure zsuccess

end ZohoIotSdk
