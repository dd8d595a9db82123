import ZohoIotSdk.Client.Connection

/-!
# Received messages

`zoho_message_handler.c` and the handlers it calls: a message on the command topic is
acknowledged, and then handed to `handle_OTA`, to `handle_cloud_logging` or to the command
handler of the application, as the flags recorded while the ACK was built say. Every
message is processed by a thread of its own, and the ACK is published by another one.
-/

namespace ZohoIotSdk

open Atomic (Prog)

/-! ## The routing flags -/

/-- `get_OTA_status`, one guarded section. -/
def getOTAStatus : ClientM Bool :=
  Prog.act (fun _ s => s) (fun _ s => [.otaStatus s.client.otaReceived])
    fun _ s => s.client.otaReceived

/-- `get_cloud_logging_status`, one guarded section. -/
def getCloudLoggingStatus : ClientM Bool :=
  readClient fun c => c.cloudLogging && !c.cloudLoggingInProcessing

/-! ## OTA commands -/

/-- `zclient_ota_handler`. -/
def zclientOtaHandler (onOTA : Option ℕ) : ClientM ℤ :=
  if onOTA = none then pure zfailure
  else do
    modifyClient fun c => { c with onOTAHandler := onOTA }
    pure zsuccess

/-- The local variables of `handle_OTA`. -/
structure OtaFields where
  otaURL : CStringPtr := none
  hash : CStringPtr := none
  correlationId : CStringPtr := none
  edgeCommandKey : CStringPtr := none

/-- The `valuestring` of an item that is a string. -/
def stringValue (item : Option CJson) : CStringPtr :=
  if cJSONIsString item then item.bind CJson.valuestring else none

/-- One turn of the loop over the attributes. -/
def otaAttribute (fields : OtaFields) (item : CJson) : OtaFields :=
  match stringValue (cJSONGetObjectItem item "field".toList),
      stringValue (cJSONGetObjectItem item "value".toList) with
  | some field, some value =>
    if field = "OTA_URL".toList then { fields with otaURL := some value }
    else if field = "HASH".toList then { fields with hash := some value }
    else fields
  | _, _ => fields

/-- How `handle_OTA` ends before it reaches the handler: silently, or with an ACK. -/
inductive OtaExit where
  | silent
  | ack (correlationId : CStringPtr) (responseMessage : CString)

/-- One turn of the loop over the commands. -/
def otaCommand (fields : OtaFields) (commandMessage : CJson) : Except OtaExit OtaFields :=
  match stringValue (cJSONGetObjectItem commandMessage correlationIdKey) with
  | none => .error .silent
  | some corrId =>
    match (cJSONGetObjectItem commandMessage "payload".toList).bind (cJSONGetArrayItem · 0) with
    | none => .error (.ack (some corrId) "Invalid OTA payload".toList)
    | some payloadMessage =>
      match stringValue (cJSONGetObjectItem payloadMessage "edge_command_key".toList) with
      | none => .error (.ack (some corrId) "Invalid OTA payload".toList)
      | some key =>
        let attributes := match cJSONGetObjectItem payloadMessage "attributes".toList with
          | none => []
          | some item => item.child
        -- the fields of a later command overwrite those of an earlier one
        .ok (attributes.foldl otaAttribute
          { fields with correlationId := some corrId, edgeCommandKey := some key })

/-- The loop over the commands. -/
def otaCommands : List CJson → OtaFields → Except OtaExit OtaFields
  | [], fields => .ok fields
  | commandMessage :: rest, fields =>
    match otaCommand fields commandMessage with
    | .error e => .error e
    | .ok fields => otaCommands rest fields

/-- Publish a failure ACK and stop. -/
def otaFailure (b : Build) (correlationId : CStringPtr) (responseMessage : String) :
    ClientM Unit := do
  let _ ← zclientPublishOTAAck b correlationId executionFailure (some responseMessage.toList)
  pure ()

/-- The end of `handle_OTA`, after the fields have been collected. -/
def runOTA (b : Build) (fields : OtaFields) : ClientM Unit := do
  let handler ← readClient (·.onOTAHandler)
  if handler = none then otaFailure b fields.correlationId "OTA Handler is not set"
  else
    match fields.otaURL, fields.edgeCommandKey with
    | none, _ => otaFailure b fields.correlationId "OTA URL is NULL"
    -- `strcmp` on a null key
    | some _, none => Prog.fault
    | some url, some key =>
      if key = "YES".toList ∧ fields.hash = none then
        otaFailure b fields.correlationId "Hash is NULL"
      else ask (fun _ => .otaHandler url fields.hash (decide (key = "YES".toList))
        fields.correlationId) fun _ => ()

/-- `handle_OTA`. -/
def handleOTA (b : Build) (payload : CString) : ClientM Unit :=
  match cJSONParse payload with
  | none => pure ()
  | some commandMessageArray =>
    if cJSONIsArray (some commandMessageArray) then
      match otaCommands commandMessageArray.child {} with
      | .error .silent => pure ()
      | .error (.ack corrId response) => otaFailure b corrId (String.ofList response)
      | .ok fields => runOTA b fields
    else pure ()

/-! ## Log uploads -/

/-- `http_post_cloud_logging`: the environment answers its result and response. -/
def httpPostCloudLogging : ClientM (ℤ × CString) :=
  Prog.act (fun _ s => s) (fun _ _ => []) fun w _ => (w.rc, w.text)

/-- The status code and the response of a log upload. -/
def uploadLogs (b : Build) : ClientM (ℤ × CString) :=
  if b.httpPublishEnable then do
    let (rc, text) ← httpPostCloudLogging
    pure (if rc = zsuccess then successfullyExecuted else executionFailure, text)
  else pure (executionFailure, "Http Publish is not enabled for cloud logging".toList)

/-- `handle_cloud_logging`. -/
def handleCloudLogging (b : Build) (payload : CString) : ClientM Unit := do
  modifyClient fun c => { c with cloudLoggingInProcessing := true }
  let (code, response) ← uploadLogs b
  let _ ← zclientPublishCommandAck b (some payload) code (some response)
  modifyClient fun c => { c with cloudLoggingInProcessing := false }

/-! ## Processing a message -/

/-- `publishCommandAck` and `publishConfigAck`: the thread that sends the ACK. -/
def publishAckThread (b : Build) (topic payload : CString) : ClientM Unit := do
  let _ ← publishMessage b .receivedACK (fun _ => topic) payload
  pure ()

/-- Start the thread that publishes the ACK; `rc` is the result of `pthread_create`. -/
def spawnPublish (topic : ZohoIOTclient → CString) (payload : CString) : ClientM Unit :=
  Prog.act (fun _ s => s)
    (fun w s => if w.rc = 0 then [.spawnPublish (topic s.client) payload] else []) fun _ _ => ()

/-- Record where the message goes. -/
def route (dest : Destination) : ClientM Unit := ask (fun _ => .routed dest) fun _ => ()

/-- Hand the message to a handler of the application, if there is one. -/
def callHandler (handler : ZohoIOTclient → Option ℕ) (dest : Destination) : ClientM Unit := do
  let onMessage ← readClient handler
  if onMessage = none then route .noHandler else route dest

/-- The routing of a command message whose ACK has been built. -/
def routeCommand (b : Build) (payload : CString) : ClientM Unit := do
  -- the flags are read back in sections of their own
  let ota ← getOTAStatus
  if ota then do
    route .handleOTA
    handleOTA b payload
  else do
    let logging ← getCloudLoggingStatus
    if logging then do
      route .handleCloudLogging
      handleCloudLogging b payload
    else callHandler (·.onCommandMessageHandler) .commandHandler

/-- The command branch of `processMessageReceived`. -/
def processCommand (b : Build) (payload : CString) : ClientM Unit := do
  let ack ← zclientFormReceivedACK b (some payload)
  match ack with
  | none => pure ()
  | some commandAckObject => do
    spawnPublish (·.commandAckTopic) (cJSONPrint commandAckObject)
    routeCommand b payload

/-- The config branch of `processMessageReceived`. -/
def processConfig (b : Build) (payload : CString) : ClientM Unit := do
  let ack ← zclientFormReceivedACK b (some payload)
  match ack with
  | none => pure ()
  | some configAckObject => do
    spawnPublish (·.configAckTopic) (cJSONPrint configAckObject)
    callHandler (·.onConfigMessageHandler) .configHandler

/-- `processMessageReceived`, for the client that the topic belongs to; the Paho C build
runs the same code as `subscribe_ack_function`. The payload is seen as a C string. -/
def processMessageReceived (b : Build) (topic : CString) (message : List Char) : ClientM Unit := do
  let isCommand ← readClient fun c => decide (topic = c.commandTopic)
  if isCommand then processCommand b (cstr message)
  else do
    let isConfig ← readClient fun c => decide (topic = c.configTopic)
    if isConfig then processConfig b (cstr message) else pure ()

end ZohoIotSdk
