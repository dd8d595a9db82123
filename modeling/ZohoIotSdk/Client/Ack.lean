import ZohoIotSdk.Client.State

/-!
# Acknowledgements

`publishMessage`, the construction of ACK documents (`generateACKPayload` and what calls
it) and the three functions that publish an ACK and retain it when the connection is
lost.

While an ACK for a received command is built, the kind of the command is recorded in the
two flags of the client (`OTA_RECEIVED`, `CLOUD_LOGGING`), once for every element of the
message that has a `command_name`.
-/

namespace ZohoIotSdk

open Atomic (Prog)

/-! ## Publishing -/

/-- The size check of `publishMessage`, which only the embedded build makes. -/
def payloadTooLarge (b : Build) (c : ZohoIOTclient) (payload : CString) : Prop :=
  b.pahoC = false ∧ c.config.payloadSize < payload.length

instance (b : Build) (c : ZohoIOTclient) (payload : CString) :
    Decidable (payloadTooLarge b c payload) :=
  inferInstanceAs (Decidable (_ ∧ _))

/-- The result of `publishMessage`: a payload that is too large is refused, otherwise the
MQTT library decides. -/
def publishResult (b : Build) (c : ZohoIOTclient) (payload : CString) (w : Answer) : ℤ :=
  if payloadTooLarge b c payload then zfailure else w.rc

/-- `publishMessage`, one step; the topic argument is read from the client in that step. -/
def publishMessage (b : Build) (source : PublishSource) (topic : ZohoIOTclient → CString)
    (payload : CString) : ClientM ℤ :=
  Prog.act (fun _ s => s)
    (fun w s => [.publish source (topic s.client) payload (publishResult b s.client payload w)])
    fun w s => publishResult b s.client payload w

/-! ## ACK documents -/

def correlationIdKey : CString := "correlation_id".toList

def commandNameKey : CString := "command_name".toList

/-- The name of the OTA command. -/
def zOTA : CString := "Z_OTA".toList

/-- The name of the log upload command. -/
def zPublishDeviceLogs : CString := "Z_PUBLISH_DEVICE_LOGS".toList

/-- `atoi`. -/
def atoi (s : CString) : ℤ :=
  let (neg, _, rest) := splitSign (s.dropWhile isspace)
  let n : ℤ := digitsVal (rest.takeWhile Char.isDigit)
  if neg then -n else n

/-- `cloud_logging_set_lines`. -/
def cloudLoggingSetLines (line : CString) : ClientM Unit :=
  Prog.modify fun s =>
    -- a number below one is ignored
    if atoi line < 1 then s
    else { s with globals := { s.globals with numLinesToRead := atoi line } }

/-- The section of `generateACKPayload` that records the kind of a command. -/
def recordCommandName (name : CString) : ClientM Unit :=
  Prog.act
    (fun _ s => { s with client := { s.client with
      otaReceived := decide (name = zOTA)
      cloudLogging := decide (name = zPublishDeviceLogs) } })
    (fun _ _ => [.setFlags name]) fun _ _ => ()

/-- The number of lines asked for by a log upload command. -/
def requestedLines (commandMessage : CJson) : CStringPtr :=
  (((cJSONGetObjectItem commandMessage "payload".toList).bind (cJSONGetArrayItem · 0)).bind
    (cJSONGetObjectItem · "value".toList)).bind CJson.valuestring

/-- The part of the loop body that looks at the `command_name`; `strcmp` on the null
`valuestring` of an item that is not a string is undefined behaviour. -/
def noteCommandName (b : Build) (commandMessage : CJson) : ClientM Unit :=
  match cJSONGetObjectItem commandMessage commandNameKey with
  | none => pure ()
  | some commandNameJson =>
    match commandNameJson.valuestring with
    | none => Prog.fault
    | some commandName => do
      recordCommandName commandName
      -- outside the guarded section
      if commandName = zPublishDeviceLogs ∧ b.httpPublishEnable = true then
        match requestedLines commandMessage with
        | none => pure ()
        | some value => cloudLoggingSetLines value
      else pure ()

/-- The ACK for one command: status code, response and, if the command has a member
`is_new_config`, whether that is `true`. -/
def commandAckObj (commandMessage : CJson) (statusCode : ℤ) (responseMessage : CStringPtr) :
    CJson :=
  let ack := cJSONAddNumberToObject cJSONCreateObject "status_code".toList (Double.ofInt statusCode)
  let ack := cJSONAddStringToObject ack "response".toList responseMessage
  match cJSONGetObjectItem commandMessage "is_new_config".toList with
  | none => ack
  | some newConfig =>
    cJSONAddBoolToObject ack "is_new_config".toList (decide (newConfig.type = .true))

/-- The string value of the `correlation_id` of a command. -/
def correlationId (commandMessage : CJson) : CStringPtr :=
  (cJSONGetObjectItem commandMessage correlationIdKey).bind CJson.valuestring

/-- The loop of `generateACKPayload` over the elements that are left. -/
def generateACKLoop (b : Build) (statusCode : ℤ) (responseMessage : CStringPtr) :
    List CJson → CJson → ClientM (Option CJson)
  | [], commandAckObject => pure (some commandAckObject)
  | commandMessage :: rest, commandAckObject =>
    match correlationId commandMessage with
    -- the whole ACK is given up; flags recorded for earlier elements stay
    | none => pure none
    | some corrId => do
      noteCommandName b commandMessage
      generateACKLoop b statusCode responseMessage rest
        (cJSONAddItemToObject commandAckObject (some corrId)
          (some (commandAckObj commandMessage statusCode responseMessage)))

/-- `generateACKPayload`. -/
def generateACKPayload (b : Build) (payload : CStringPtr) (statusCode : ℤ)
    (responseMessage : CStringPtr) : ClientM (Option CJson) :=
  match payload.bind cJSONParse with
  | none => pure none
  | some commandMessageArray =>
    if cJSONIsArray (some commandMessageArray) then
      generateACKLoop b statusCode responseMessage commandMessageArray.child cJSONCreateObject
    else pure none

/-- `zclient_FormReceivedACK`. -/
def zclientFormReceivedACK (b : Build) (payload : CStringPtr) : ClientM (Option CJson) :=
  generateACKPayload b payload receivedAckCode (some [])

/-- `generateProcessedACK`. -/
def generateProcessedACK (b : Build) (payload : CStringPtr) (statusCode : ℤ)
    (responseMessage : CStringPtr) : ClientM (Option CJson) :=
  if responseMessage = none then pure none
  else if statusCode ∈ commandAckResponseCodes then
    generateACKPayload b payload statusCode responseMessage
  else pure none

/-! ## Publishing an ACK, and retaining it -/

/-- The section that puts a failed ACK into the retry slot. -/
def storeFailedACK (kind : AckKind) (topic : ZohoIOTclient → CString) (ackPayload : CJson) :
    ClientM Unit :=
  Prog.act
    (fun _ s => { s with client := { s.client with
      failedACK := { topic := topic s.client, ackPayload := some (cJSONDuplicate ackPayload) }
      retryACK := true } })
    (fun _ s => [.storeACK kind ackPayload (topic s.client)]) fun _ _ => ()

/-- The common tail of the three ACK functions. -/
def publishAck (b : Build) (kind : AckKind) (topic : ZohoIOTclient → CString)
    (ackPayload : CJson) : ClientM ℤ := do
  let rc ← publishMessage b (.ack kind ackPayload) topic (cJSONPrint ackPayload)
  if rc = zsuccess then pure rc
  else do
    let connected ← transportConnected
    -- with the connection up the ACK is lost
    if connected then pure rc
    else do
      setCurrentState .disconnected
      storeFailedACK kind topic ackPayload
      pure rc

/-- `zclient_publishCommandAck` and `zclient_publishConfigAck` up to the topic. -/
def publishProcessedAck (b : Build) (kind : AckKind) (topic : ZohoIOTclient → CString)
    (payload : CStringPtr) (statusCode : ℤ) (responseMessage : CStringPtr) : ClientM ℤ := do
  let rc ← validateClientState
  if rc ≠ 0 then pure rc
  else do
    let ack ← generateProcessedACK b payload statusCode responseMessage
    match ack with
    | none => pure zfailure
    | some ackPayload => publishAck b kind topic ackPayload

/-- `zclient_publishCommandAck`. -/
def zclientPublishCommandAck (b : Build) (payload : CStringPtr) (statusCode : ℤ)
    (responseMessage : CStringPtr) : ClientM ℤ :=
  publishProcessedAck b .command (·.commandAckTopic) payload statusCode responseMessage

/-- `zclient_publishConfigAck`. -/
def zclientPublishConfigAck (b : Build) (payload : CStringPtr) (statusCode : ℤ)
    (responseMessage : CStringPtr) : ClientM ℤ :=
  publishProcessedAck b .config (·.configAckTopic) payload statusCode responseMessage

/-- The ACK document of `zclient_publishOTAAck`; a null correlation id adds nothing. -/
def otaAckPayload (correlationId : CStringPtr) (statusCode : ℤ) (responseMessage : CStringPtr) :
    CJson :=
  let otaAckObj := cJSONAddNumberToObject cJSONCreateObject "status_code".toList
    (Double.ofInt statusCode)
  cJSONAddItemToObject cJSONCreateObject correlationId
    (some (cJSONAddStringToObject otaAckObj "response".toList responseMessage))

/-- `zclient_publishOTAAck`. -/
def zclientPublishOTAAck (b : Build) (correlationId : CStringPtr) (statusCode : ℤ)
    (responseMessage : CStringPtr) : ClientM ℤ := do
  let rc ← validateClientState
  if rc ≠ 0 then pure rc
  else
    publishAck b .ota (·.commandAckTopic)
      (otaAckPayload correlationId statusCode responseMessage)

end ZohoIotSdk
