import ZohoIotSdk.Atomic.Pool
import ZohoIotSdk.CJson.Text
import ZohoIotSdk.Utils

/-!
# The client structure

The types of `zoho_iot_client.h`, the process-wide variables, and the programs that the
SDK functions are modelled as: atomic steps (`Atomic.Prog`) on one client and the
process-wide variables. A section guarded by `client->lock`, a call into the MQTT
library and an unguarded access to a shared field are one step each.

Memory allocation is assumed to succeed, and log output is left out.
-/

namespace ZohoIotSdk

/-- The compile-time switches of the build. -/
structure Build where
  pahoC : Bool
  secureConnection : Bool
  useClientCerts : Bool
  httpPublishEnable : Bool
deriving DecidableEq

/-! ## Return codes and constants -/

def zsuccess : ℤ := 0

def zfailure : ℤ := -1

def zconnectionError : ℤ := -2

def receivedAckCode : ℤ := 1000

def maxPayloadSize : ℤ := 100000

def defaultPayloadSize : ℤ := 40000

/-- `ZcommandAckResponseCodes`. -/
def commandAckResponseCodes : List ℤ :=
  [1001, 1003, 4000, 4001, 4002, 4003, 4004, 4005, 4006, 4008]

def successfullyExecuted : ℤ := 1001

def executionFailure : ℤ := 4000

/-! ## The client -/

/-- `ZclientConnectionState`; `zeroed` is the state of a structure that was never
initialised. -/
inductive ZclientConnectionState where
  | zeroed
  | initialized
  | connected
  | disconnected
deriving DecidableEq, Repr

/-- `certsParseMode`. -/
inductive CertsParseMode where
  | reference
  | embed
deriving DecidableEq

structure Zconfig where
  clientId : CStringPtr := none
  hostname : CStringPtr := none
  authToken : CStringPtr := none
  mqttUserName : CStringPtr := none
  retryLimit : ℤ := 0
  payloadSize : ℤ := 0
  /-- The sizes of the two allocated buffers. -/
  mqttBuff : Option ℕ := none
  mqttReadBuff : Option ℕ := none

structure ZclientCertificates where
  caCrt : CStringPtr := none
  clientCert : CStringPtr := none
  clientKey : CStringPtr := none
  certPassword : CStringPtr := none

/-- The retained ACK. Its topic points to one of the two ACK topics of the client and is
kept as the text there, which only `zclient_init` changes; that of an empty slot is
never read. -/
structure ZfailedACK where
  topic : CString := []
  ackPayload : Option CJson := none

structure ZfailedEvent where
  eventPayloadTime : UInt64 := 0
  eventPayload : Option CJson := none

/-- The part of the embedded `MQTTClient` the SDK depends on: the size of the send buffer
that `MQTTClientInit` was given. -/
structure MqttClient where
  bufSize : ℕ := 0

/-- `ZohoIOTclient`, zeroed by default. Function pointers are kept as names. -/
structure ZohoIOTclient where
  mqttClient : MqttClient := {}
  config : Zconfig := {}
  currentState : ZclientConnectionState := .zeroed
  /-- `message.data` -/
  messageData : Option CJson := none
  zretryInterval : ℤ := 0
  certs : ZclientCertificates := {}
  dataTopic : CString := []
  commandTopic : CString := []
  eventTopic : CString := []
  configTopic : CString := []
  commandAckTopic : CString := []
  configAckTopic : CString := []
  connectionStringBuff : CString := []
  parseMode : CertsParseMode := .reference
  startTime : UInt64 := 0
  retryCount : ℤ := 0
  onCommandMessageHandler : Option ℕ := none
  onConfigMessageHandler : Option ℕ := none
  eventDataObject : Option CJson := none
  retryACK : Bool := false
  failedACK : ZfailedACK := {}
  retryEvent : Bool := false
  failedEvent : ZfailedEvent := {}
  yieldTime : UInt64 := 0
  yieldInterval : UInt64 := 0
  otaReceived : Bool := false
  onOTAHandler : Option ℕ := none
  cloudLoggingInProcessing : Bool := false
  cloudLogging : Bool := false
  /-- The Paho C server address. -/
  address : CString := []

/-- The process-wide variables, by default those of a build without TLS. -/
structure Globals where
  tlsMode : Bool := true
  tlsClientCerts : Bool := true
  zport : ℤ := 1883
  agentName : CString := []
  agentVersion : CString := []
  platform : CString := []
  numLinesToRead : ℤ := 100

/-- The variables before the first call: `ZPORT` depends on the build. -/
def Globals.initial (b : Build) : Globals :=
  { zport := if b.secureConnection then 8883 else 1883 }

/-- The state the SDK functions work on. -/
structure Sdk where
  client : ZohoIOTclient := {}
  globals : Globals := {}

/-! ## The environment, and what can be observed -/

/-- One answer of the environment: the result of the library call of a step, what the
transport reports about its connection, the clock, a text (a time stamp, a response),
the details of the operating system, and which files exist. -/
structure Answer where
  rc : ℤ := 0
  connected : Bool := true
  time : UInt64 := 0
  text : CString := []
  osDetails : Option (CString × CString) := none
  fileExists : CString → Bool := fun _ => true

instance : Inhabited Answer := ⟨{}⟩

/-- The three functions that publish an ACK on behalf of the application. -/
inductive AckKind where
  | command
  | config
  | ota
deriving DecidableEq, Repr

/-- Which code called `publishMessage`, and with which document. -/
inductive PublishSource where
  | telemetry
  | event (assetName : CStringPtr) (doc : CJson)
  | ack (kind : AckKind) (doc : CJson)
  | replayACK (doc : CJson)
  | replayEvent (doc : CJson)
  | receivedACK
  | application

/-- Where a received message goes. -/
inductive Destination where
  | handleOTA
  | handleCloudLogging
  | commandHandler
  | configHandler
  | noHandler
deriving DecidableEq, Repr

/-- What a step can be observed to do. The steps on the retry slots and on the routing
flags are recorded too, with what they read or wrote. -/
inductive Effect where
  | clock (time : UInt64)
  | networkConnect (port : ℤ) (rc : ℤ)
  | networkDisconnect
  | mqttCreate (rc : ℤ)
  | mqttSetCallbacks (rc : ℤ)
  | mqttDestroy
  | mqttConnect (username : CString) (rc : ℤ)
  | mqttDisconnect (rc : ℤ)
  | subscribe (topic : CString) (rc : ℤ)
  | yield (rc : ℤ)
  | publish (source : PublishSource) (topic payload : CString) (rc : ℤ)
  | transport (connected : Bool)
  | storeACK (kind : AckKind) (doc : CJson) (topic : CString)
  | serializeACK (doc : Option CJson)
  | clearACK (doc : Option CJson)
  | storeEvent (doc : CJson) (time : UInt64)
  | expiryTest (doc : Option CJson) (now : UInt64) (expired : Bool)
  | serializeEvent (doc : Option CJson)
  | clearEvent (doc : Option CJson)
  | setFlags (commandName : CString)
  | otaStatus (received : Bool)
  | spawnPublish (topic payload : CString)
  | routed (dest : Destination)
  | otaHandler (url : CString) (hash : CStringPtr) (validityCheck : Bool)
      (correlationId : CStringPtr)
  | init (rc : ℤ)

/-- A function of the SDK. -/
abbrev ClientM (α : Type) := Atomic.Prog Sdk Answer Effect α

open Atomic (Prog)

/-- An unguarded read of a field of the client. -/
def readClient {α : Type} (f : ZohoIOTclient → α) : ClientM α := Prog.read fun s => f s.client

/-- An unguarded write to the client. -/
def modifyClient (f : ZohoIOTclient → ZohoIOTclient) : ClientM Unit :=
  Prog.modify fun s => { s with client := f s.client }

/-- A step that leaves the state alone and reports what the environment answered. -/
def ask {α : Type} (effect : Answer → Effect) (ret : Answer → α) : ClientM α :=
  Prog.act (fun _ s => s) (fun w _ => [effect w]) fun w _ => ret w

def setCurrentState (st : ZclientConnectionState) : ClientM Unit :=
  modifyClient fun c => { c with currentState := st }

/-- `getCurrentTime`. -/
def getCurrentTime : ClientM UInt64 := ask (fun w => .clock w.time) (·.time)

/-- `mqtt_client.isconnected`, or `MQTTClient_isConnected` in the Paho C build. -/
def transportConnected : ClientM Bool := ask (fun w => .transport w.connected) (·.connected)

/-- The result of `validateClientState`, for a client pointer that is not null. -/
def clientStateCode (c : ZohoIOTclient) : ℤ :=
  if c.currentState = .initialized ∨ c.currentState = .connected ∨
      c.currentState = .disconnected then zsuccess else -2

/-- `validateClientState`. -/
def validateClientState : ClientM ℤ := readClient clientStateCode

/-! ## Weakest preconditions of the basic steps -/

section

variable {α : Type} {Q : α → Sdk → List Effect → Prop} {s : Sdk} {tr : List Effect}

/-- Reading a field of the client asks nothing and changes nothing. -/
@[simp] theorem wlp_readClient (f : ZohoIOTclient → α) :
    (readClient f).wlp Q s tr ↔ Q (f s.client) s tr := by
  simp [readClient, Prog.read]

@[simp] theorem wlp_validateClientState {Q : ℤ → Sdk → List Effect → Prop} :
    validateClientState.wlp Q s tr ↔ Q (clientStateCode s.client) s tr :=
  wlp_readClient clientStateCode

/-- Writing a field of the client has no effect to record. -/
@[simp] theorem wlp_modifyClient {Q : Unit → Sdk → List Effect → Prop}
    (f : ZohoIOTclient → ZohoIOTclient) :
    (modifyClient f).wlp Q s tr ↔ Q () { s with client := f s.client } tr := by
  simp [modifyClient, Prog.modify]

/-- A question to the outside must be met for each of its answers. -/
@[simp] theorem wlp_ask (effect : Answer → Effect) (ret : Answer → α) :
    (ask effect ret).wlp Q s tr ↔ ∀ w, Q (ret w) s (tr ++ [effect w]) := by
  simp [ask]

@[simp] theorem wlp_setCurrentState {Q : Unit → Sdk → List Effect → Prop}
    (st : ZclientConnectionState) :
    (setCurrentState st).wlp Q s tr ↔
      Q () { s with client := { s.client with currentState := st } } tr := by
  simp [setCurrentState]

/-- The transport is asked, and either answer is possible. -/
@[simp] theorem wlp_transportConnected {Q : Bool → Sdk → List Effect → Prop} :
    transportConnected.wlp Q s tr ↔
      ∀ w : Answer, Q w.connected s (tr ++ [.transport w.connected]) := by
  simp [transportConnected]

end

/-! ## Executions that start with a basic step -/

section

variable {α β : Type} {s s' : Sdk} {b : β} {es : List Effect}

/-- A run past a read goes on with the value read. -/
theorem exec_readClient_bind {f : ZohoIOTclient → α} {g : α → ClientM β} :
    (readClient f >>= g).Exec s b es s' ↔ (g (f s.client)).Exec s b es s' := by
  constructor
  · rintro ⟨_, es', rfl, h⟩
    exact h
  · intro h
    exact ⟨default, es, rfl, h⟩

/-- A run past a write goes on from the client written. -/
theorem exec_modifyClient_bind {f : ZohoIOTclient → ZohoIOTclient} {g : Unit → ClientM β} :
    (modifyClient f >>= g).Exec s b es s' ↔
      (g ()).Exec { s with client := f s.client } b es s' := by
  constructor
  · rintro ⟨_, es', rfl, h⟩
    exact h
  · intro h
    exact ⟨default, es, rfl, h⟩

/-- A run past a clock reading goes on with some reading, which it has recorded. -/
theorem exec_getCurrentTime_bind {g : UInt64 → ClientM β} :
    (getCurrentTime >>= g).Exec s b es s' ↔
      ∃ t es', es = .clock t :: es' ∧ (g t).Exec s b es' s' := by
  constructor
  · rintro ⟨w, es', rfl, h⟩
    exact ⟨w.time, es', rfl, h⟩
  · rintro ⟨t, es', rfl, h⟩
    exact ⟨{ time := t }, es', rfl, h⟩

end

end ZohoIotSdk
