import ZohoIotSdk.Atomic.Log
import ZohoIotSdk.MessageHandler

/-!
# Public operations

The calls an application makes on one client, with the message handling that the MQTT
library starts on its behalf, and the program of each. `SingleThreaded` are the runs in
which one call ends before the next begins.
-/

namespace ZohoIotSdk

open Atomic (Prog Runs)

/-! ## Settings of the process -/

/-- `zclient_set_tls`. -/
def zclientSetTls (state : Bool) : ClientM Unit :=
  Prog.modify fun s => { s with globals := { s.globals with tlsMode := state } }

/-- `zclient_set_client_certs`. -/
def zclientSetClientCerts (state : Bool) : ClientM Unit :=
  Prog.modify fun s => { s with globals := { s.globals with tlsClientCerts := state } }

/-- `zclient_setAgentNameandVersion`, on buffers of 100 bytes. -/
def zclientSetAgentNameandVersion (name version : CStringPtr) : ClientM Bool :=
  if isStringValid name && isStringValid version then do
    Prog.modify fun s => { s with globals := { s.globals with
      agentName := snprintf 100 (name.getD [])
      agentVersion := snprintf 100 (version.getD []) } }
    pure true
  else pure false

/-- `zclient_setPlatformName`, on a buffer of 100 bytes. -/
def zclientSetPlatformName (platformName : CStringPtr) : ClientM Bool :=
  if isStringValid platformName then do
    Prog.modify fun s => { s with globals := { s.globals with
      platform := snprintf 100 (platformName.getD []) } }
    pure true
  else pure false

/-- `zclient_addConnectionParameter`. -/
def zclientAddConnectionParameter (key value : CString) : ClientM Unit :=
  modifyClient fun c =>
    { c with connectionStringBuff := addConnectionParameter c.connectionStringBuff key value }

/-! ## Calls -/

/-- A call of a public function, on one client. -/
inductive Call where
  | init (args : InitArgs)
  | free
  | setTls (state : Bool)
  | setClientCerts (state : Bool)
  | setAgentNameandVersion (name version : CStringPtr)
  | setPlatformName (platformName : CStringPtr)
  | setMaxPayloadSize (size : ℤ)
  | addConnectionParameter (key value : CString)
  | connect
  | disconnect
  | reconnect
  | yield (timeOut : ℤ)
  | commandSubscribe (onMessage : Option ℕ)
  | configSubscribe (onMessage : Option ℕ)
  | otaHandler (onOTA : Option ℕ)
  | addNumber (key : CStringPtr) (value : Double) (assetName : CStringPtr)
  | addString (key value assetName : CStringPtr)
  | addObject (key : CStringPtr) (object : Option CJson) (assetName : CStringPtr)
  | markDataPointAsError (key assetName : CStringPtr)
  | publish (payload : CString)
  | dispatch
  | addEventDataNumber (key : CStringPtr) (value : Double)
  | addEventDataString (key value : CStringPtr)
  | addEventDataObject (key : CStringPtr) (object : Option CJson)
  | dispatchEventFromJSONString
      (eventType eventDescription eventDataJSONString assetName : CStringPtr)
  | dispatchEventFromEventDataObject (eventType eventDescription assetName : CStringPtr)
  | publishCommandAck (payload : CStringPtr) (statusCode : ℤ) (responseMessage : CStringPtr)
  | publishConfigAck (payload : CStringPtr) (statusCode : ℤ) (responseMessage : CStringPtr)
  | publishOTAAck (correlationId : CStringPtr) (statusCode : ℤ) (responseMessage : CStringPtr)
  | formReceivedACK (payload : CStringPtr)
  | publishMessage (topic payload : CString)
  | getOTAStatus
  | getCloudLoggingStatus
  | handleOTA (payload : CString)
  | handleCloudLogging (payload : CString)
  | processMessageReceived (topic : CString) (message : List Char)
  | publishReceivedAck (topic payload : CString)

/-- Run a function for its effects. -/
def discard {α : Type} (p : ClientM α) : ClientM Unit := do
  let _ ← p
  pure ()

/-- The program of a call. -/
def Call.prog (b : Build) : Call → ClientM Unit
  | init args => discard (zclientInit b args)
  | free => discard (zclientFree b)
  | setTls state => zclientSetTls state
  | setClientCerts state => zclientSetClientCerts state
  | setAgentNameandVersion name version => discard (zclientSetAgentNameandVersion name version)
  | setPlatformName platformName => discard (zclientSetPlatformName platformName)
  | setMaxPayloadSize size => discard (zclientSetMaxPayloadSize size)
  | addConnectionParameter key value => zclientAddConnectionParameter key value
  | connect => discard (zclientConnect b)
  | disconnect => discard (zclientDisconnect b)
  | reconnect => discard (zclientReconnect b)
  | yield timeOut => discard (zclientYield b timeOut)
  | commandSubscribe onMessage => discard (zclientCommandSubscribe onMessage)
  | configSubscribe onMessage => discard (zclientConfigSubscribe onMessage)
  | otaHandler onOTA => discard (zclientOtaHandler onOTA)
  | addNumber key value assetName => discard (zclientAddNumber key value assetName)
  | addString key value assetName => discard (zclientAddString key value assetName)
  | addObject key object assetName => discard (zclientAddObject key object assetName)
  | markDataPointAsError key assetName => discard (zclientMarkDataPointAsError key assetName)
  | publish payload => discard (zclientPublish b payload)
  | dispatch => discard (zclientDispatch b)
  | addEventDataNumber key value => discard (zclientAddEventDataNumber key value)
  | addEventDataString key value => discard (zclientAddEventDataString key value)
  | addEventDataObject key object => discard (zclientAddEventDataObject key object)
  | dispatchEventFromJSONString eventType eventDescription json assetName =>
    discard (zclientDispatchEventFromJSONString b eventType eventDescription json assetName)
  | dispatchEventFromEventDataObject eventType eventDescription assetName =>
    discard (zclientDispatchEventFromEventDataObject b eventType eventDescription assetName)
  | publishCommandAck payload statusCode responseMessage =>
    discard (zclientPublishCommandAck b payload statusCode responseMessage)
  | publishConfigAck payload statusCode responseMessage =>
    discard (zclientPublishConfigAck b payload statusCode responseMessage)
  | publishOTAAck correlationId statusCode responseMessage =>
    discard (zclientPublishOTAAck b correlationId statusCode responseMessage)
  | formReceivedACK payload => discard (zclientFormReceivedACK b payload)
  | publishMessage topic payload =>
    discard (ZohoIotSdk.publishMessage b .application (fun _ => topic) payload)
  | getOTAStatus => discard ZohoIotSdk.getOTAStatus
  | getCloudLoggingStatus => discard ZohoIotSdk.getCloudLoggingStatus
  | handleOTA payload => ZohoIotSdk.handleOTA b payload
  | handleCloudLogging payload => ZohoIotSdk.handleCloudLogging b payload
  | processMessageReceived topic message => ZohoIotSdk.processMessageReceived b topic message
  | publishReceivedAck topic payload => publishAckThread b topic payload

/-- A thread of the application that makes some calls one after the other. -/
def callSequence (b : Build) : List Call → ClientM Unit
  | [] => pure ()
  | call :: calls => do
    call.prog b
    callSequence b calls

/-- `SingleThreaded b P s tr s'`: a run of calls that satisfy `P`, one after the other. -/
def SingleThreaded (b : Build) (P : Call → Prop) : Sdk → List Effect → Sdk → Prop :=
  Runs fun p => ∃ call, P call ∧ p = call.prog b

/-- One call, run on the listed answers, makes a run longer. -/
theorem SingleThreaded.snoc_run {b : Build} {P : Call → Prop} {s s' s'' : Sdk}
    {tr es : List Effect} (h : SingleThreaded b P s tr s') (call : Call) (hcall : P call)
    (ws : List Answer) (hrun : (call.prog b).run ws s' = some ((), es, s'')) :
    SingleThreaded b P s (tr ++ es) s'' :=
  .snoc h ⟨call, hcall, rfl⟩ (Prog.exec_of_run hrun)

/-- A function run on the listed answers where a run has led. -/
theorem SingleThreaded.exec_run {b : Build} {P : Call → Prop} {s s' s'' : Sdk}
    {tr es : List Effect} {α : Type} {a : α} (_ : SingleThreaded b P s tr s') (p : ClientM α)
    (ws : List Answer) (hrun : p.run ws s' = some (a, es, s'')) : p.Exec s' a es s'' :=
  Prog.exec_of_run hrun

/-- The run of no calls where a function has led. -/
theorem SingleThreaded.nil_after {b : Build} {P : Call → Prop} {s s' : Sdk} {es : List Effect}
    {α : Type} {a : α} {p : ClientM α} (_ : p.Exec s a es s') : SingleThreaded b P s' [] s' :=
  .nil s'

/-! ## Recorded runs -/

/-- A call that was made, with a log of its steps. -/
abbrev CallRecord := Atomic.Record Call Sdk Answer Effect

/-- `CallRun b s records s'`: a run of calls, one after the other, with a record of each. -/
abbrev CallRun (b : Build) : Sdk → List CallRecord → Sdk → Prop := Atomic.Recorded (Call.prog b)

/-- What the function behind a call does. -/
theorem exec_of_discard {α : Type} {p : ClientM α} {s s' : Sdk} {es : List Effect}
    (h : (discard p).Exec s () es s') : ∃ a, p.Exec s a es s' := by
  obtain ⟨a, es₁, s₁, es₂, hp, ⟨-, rfl, rfl⟩, rfl⟩ := Prog.exec_bind.mp h
  rw [List.append_nil]
  exact ⟨a, hp⟩

/-! ## A client for concrete runs -/

/-- The Paho C build without TLS. -/
def plainBuild : Build :=
  { pahoC := true, secureConnection := false, useClientCerts := false, httpPublishEnable := false }

/-- The embedded build without TLS. -/
def embeddedBuild : Build :=
  { pahoC := false, secureConnection := false, useClientCerts := false, httpPublishEnable := false }

def sampleArgs : InitArgs where
  mqttUserName := some "host/v1/devices/7/connect".toList
  mqttPassword := some "token".toList
  mode := .reference
  caCrt := none
  clientCert := none
  clientKey := none
  certPassword := none

/-- What `zclient_init` makes of a zeroed client. -/
def sampleSdk : Sdk := (initSdk plainBuild sampleArgs {} {}).2

theorem sampleSdk_init :
    (zclientInit plainBuild sampleArgs).Exec {} zsuccess [.init zsuccess] sampleSdk :=
  ⟨{}, [], rfl, rfl, rfl, rfl⟩

/-- The same in the embedded build. -/
def embeddedSdk : Sdk := (initSdk embeddedBuild sampleArgs {} {}).2

theorem embeddedSdk_init :
    (zclientInit embeddedBuild sampleArgs).Exec {} zsuccess [.init zsuccess] embeddedSdk :=
  ⟨{}, [], rfl, rfl, rfl, rfl⟩

/-- Answers of a network that cannot be reached, while the clock advances by large steps. -/
def unreachableAnswers (day : ℕ) : List Answer :=
  (List.range 20).map fun i => { rc := -1, time := UInt64.ofNat (1000000 * (day + 1) + 10000 * i) }

end ZohoIotSdk
