import ZohoIotSdk.Calls

/-!
# What the functions of the SDK leave alone

Relations between the state before a function and the state after it:

* `Quiet`: no connection is opened or closed and no client initialised; the current state
  can only drop to `DISCONNECTED`, and not from that of a client that was never initialised;
* `SameStaged`: the staged telemetry and the staged event data are as they were;
* `Inert`: both;
* `ConnectionStep`: only the fields of the connection have been written.

Most functions are inert. Those that put something into the staged data or dispatch it are
quiet, those that connect or disconnect write the fields of the connection, and only
`zclient_init` writes more (`Call.quiet`, `Call.sameStaged`).
-/

namespace ZohoIotSdk

open Atomic (Prog)
open Atomic.Prog (Relates Composable relates_act relates_ite relates_fault)

/-! ## The relations -/

/-- The client has been initialised at some time: `validateClientState` lets it pass. -/
def Live (s : Sdk) : Prop := s.client.currentState ≠ .zeroed

/-- The guard lets exactly the live clients pass. -/
theorem clientStateCode_eq_zero_iff (s : Sdk) : clientStateCode s.client = 0 ↔ Live s := by
  unfold clientStateCode Live zsuccess
  cases s.client.currentState <;> simp

/-- The opening and closing of connections and the initialisation of a client. -/
def Effect.isSession : Effect → Bool
  | .networkConnect _ _ | .networkDisconnect | .init _ => true
  | _ => false

/-- The calls that open and close a connection, and the readings of the clock. -/
def Effect.isConnection : Effect → Bool
  | .clock _ | .networkConnect _ _ | .networkDisconnect | .mqttCreate _ | .mqttSetCallbacks _
  | .mqttDestroy | .mqttConnect _ _ | .mqttDisconnect _ => true
  | _ => false

/-- The client without the fields that `zclient_connect`, `zclient_disconnect` and
`zclient_reconnect` write on the way to a connection. -/
def ZohoIOTclient.unconnected (c : ZohoIOTclient) : ZohoIOTclient :=
  { c with mqttClient := {}, config := {}, currentState := .zeroed, zretryInterval := 0,
           connectionStringBuff := [], startTime := 0, retryCount := 0, address := [] }

structure Quiet (s s' : Sdk) (es : List Effect) : Prop where
  state : s'.client.currentState = s.client.currentState ∨
    (Live s ∧ s'.client.currentState = .disconnected)
  interval : s'.client.zretryInterval = s.client.zretryInterval
  effects : ∀ e ∈ es, e.isSession = false

structure SameStaged (s s' : Sdk) (es : List Effect) : Prop where
  messageData : s'.client.messageData = s.client.messageData
  eventDataObject : s'.client.eventDataObject = s.client.eventDataObject
  noInit : ∀ rc, .init rc ∉ es

structure Inert (s s' : Sdk) (es : List Effect) : Prop where
  quiet : Quiet s s' es
  staged : SameStaged s s' es

/-- Quiet steps keep the client live. -/
theorem Quiet.live {s s' : Sdk} {es : List Effect} (h : Quiet s s' es) (hs : Live s) :
    Live s' := by
  unfold Live at *
  rcases h.state with heq | ⟨-, heq⟩
  · rwa [heq]
  · rw [heq]
    simp

theorem Quiet.trans {s s' s'' : Sdk} {es es' : List Effect} (h : Quiet s s' es)
    (h' : Quiet s' s'' es') : Quiet s s'' (es ++ es') where
  state := by
    rcases h'.state with heq' | ⟨hlive, heq'⟩
    · rw [heq']
      exact h.state
    · refine .inr ⟨?_, heq'⟩
      rcases h.state with heq | ⟨hlive', -⟩
      · unfold Live at *
        rwa [← heq]
      · exact hlive'
  interval := by rw [h'.interval, h.interval]
  effects := by
    intro e he
    exact (List.mem_append.mp he).elim (h.effects e) (h'.effects e)

theorem SameStaged.trans {s s' s'' : Sdk} {es es' : List Effect} (h : SameStaged s s' es)
    (h' : SameStaged s' s'' es') : SameStaged s s'' (es ++ es') where
  messageData := by rw [h'.messageData, h.messageData]
  eventDataObject := by rw [h'.eventDataObject, h.eventDataObject]
  noInit := by
    intro rc he
    exact (List.mem_append.mp he).elim (h.noInit rc) (h'.noInit rc)

/-- Any state. -/
abbrev Always (_ : Sdk) : Prop := True

theorem quiet : Composable Always Quiet where
  refl _ := ⟨.inl rfl, rfl, by simp⟩
  trans h h' := h.trans h'
  keeps _ _ := trivial

theorem quietLive : Composable Live Quiet where
  refl _ := ⟨.inl rfl, rfl, by simp⟩
  trans h h' := h.trans h'
  keeps hs h := h.live hs

theorem sameStaged : Composable Always SameStaged where
  refl _ := ⟨rfl, rfl, by simp⟩
  trans h h' := h.trans h'
  keeps _ _ := trivial

theorem inert : Composable Always Inert where
  refl s := ⟨quiet.refl s, sameStaged.refl s⟩
  trans h h' := ⟨h.quiet.trans h'.quiet, h.staged.trans h'.staged⟩
  keeps _ _ := trivial

theorem inertLive : Composable Live Inert where
  refl s := ⟨quiet.refl s, sameStaged.refl s⟩
  trans h h' := ⟨h.quiet.trans h'.quiet, h.staged.trans h'.staged⟩
  keeps hs h := h.quiet.live hs

section Rules

variable {α : Type} {p : ClientM α} {P : Sdk → Prop} {φ : Sdk → Sdk → List Effect → Prop}

/-- What is related from every state is related from the live ones. -/
theorem live_of_always (h : Relates Always φ p) : Relates Live φ p := h.weaken fun _ _ => trivial

theorem quiet_of_inert (h : Relates P Inert p) : Relates P Quiet p :=
  h.mono fun _ _ _ _ hφ => hφ.quiet

theorem sameStaged_of_inert (h : Relates P Inert p) : Relates P SameStaged p :=
  h.mono fun _ _ _ _ hφ => hφ.staged

theorem relates_readClient (h : Composable P φ) (f : ZohoIOTclient → α) :
    Relates P φ (readClient f) :=
  relates_act fun _ s _ => h.refl s

/-- The functions that check the state of the client first. -/
theorem relates_validated (h : Composable Always φ) {p : ClientM ℤ} (hp : Relates Live φ p) :
    Relates Always φ (do
      let rc ← validateClientState
      if rc ≠ 0 then pure rc else p) := by
  intro s a es s' _ hexec
  rw [validateClientState, exec_readClient_bind] at hexec
  split at hexec
  · rcases hexec with ⟨-, rfl, rfl⟩
    exact h.refl _
  · rename_i hcode
    exact hp s a es s' ((clientStateCode_eq_zero_iff s).mp (not_not.mp hcode)) hexec

/-- Discarding the result keeps the relation. -/
theorem relates_discard (h : Composable P φ) (hp : Relates P φ p) : Relates P φ (discard p) :=
  h.bind hp fun _ => h.pure ()

end Rules

/-! ## Single steps -/

section Primitives

variable {α : Type} {b : Build}

/-- A step that leaves the client alone. -/
theorem inert_of_client {s s' : Sdk} {es : List Effect} (h : s'.client = s.client)
    (hes : ∀ e ∈ es, e.isSession = false) : Inert s s' es := by
  refine ⟨⟨.inl (by rw [h]), by rw [h], hes⟩, ⟨by rw [h], by rw [h], fun rc hmem => ?_⟩⟩
  have hinit := hes _ hmem
  simp [Effect.isSession] at hinit

theorem inert_ask {effect : Answer → Effect} {ret : Answer → α}
    (h : ∀ w, (effect w).isSession = false) : Relates Always Inert (ask effect ret) :=
  relates_act fun w _ _ => inert_of_client rfl (by simp [h w])

/-- A write to fields that none of the relations is about. -/
theorem inert_modifyClient {f : ZohoIOTclient → ZohoIOTclient}
    (hstate : ∀ c, (f c).currentState = c.currentState)
    (hinterval : ∀ c, (f c).zretryInterval = c.zretryInterval)
    (hdata : ∀ c, (f c).messageData = c.messageData)
    (hevent : ∀ c, (f c).eventDataObject = c.eventDataObject) :
    Relates Always Inert (modifyClient f) :=
  relates_act fun _ s _ =>
    ⟨⟨.inl (hstate _), hinterval _, by simp⟩, ⟨hdata _, hevent _, by simp⟩⟩

theorem inert_modifyGlobals (f : Sdk → Globals) :
    Relates Always Inert (Prog.modify fun s => { s with globals := f s } : ClientM Unit) :=
  relates_act fun _ _ _ => inert_of_client rfl (by simp)

theorem inert_transportConnected : Relates Always Inert transportConnected :=
  inert_ask fun _ => rfl

theorem inert_getCurrentTime : Relates Always Inert getCurrentTime := inert_ask fun _ => rfl

theorem inert_publishMessage (source : PublishSource) (topic : ZohoIOTclient → CString)
    (payload : CString) : Relates Always Inert (publishMessage b source topic payload) :=
  relates_act fun _ _ _ => inert_of_client rfl (by simp [Effect.isSession])

/-- A client that passed the check is marked as disconnected. -/
theorem inert_setDisconnected : Relates Live Inert (setCurrentState .disconnected) :=
  relates_act fun _ _ hs => ⟨⟨.inr ⟨hs, rfl⟩, rfl, by simp⟩, ⟨rfl, rfl, by simp⟩⟩

end Primitives

/-! ## ACKs -/

section Functions

variable {b : Build}

theorem inert_noteCommandName (commandMessage : CJson) :
    Relates Always Inert (noteCommandName b commandMessage) := by
  unfold noteCommandName
  split
  · exact inert.pure _
  · split
    · exact relates_fault
    · refine inert.bind (relates_act fun _ _ _ => ?_) fun _ => relates_ite ?_ (inert.pure _)
      · exact ⟨⟨.inl rfl, rfl, by simp [Effect.isSession]⟩, ⟨rfl, rfl, by simp⟩⟩
      · split
        · exact inert.pure _
        · refine relates_act fun _ s _ => inert_of_client ?_ (by simp)
          split <;> rfl

theorem inert_generateACKPayload (payload : CStringPtr) (statusCode : ℤ)
    (responseMessage : CStringPtr) :
    Relates Always Inert (generateACKPayload b payload statusCode responseMessage) := by
  have hloop : ∀ messages ack,
      Relates Always Inert (generateACKLoop b statusCode responseMessage messages ack) := by
    intro messages
    induction messages with
    | nil => exact fun _ => inert.pure _
    | cons commandMessage rest ih =>
      intro ack
      unfold generateACKLoop
      split
      · exact inert.pure _
      · exact inert.bind (inert_noteCommandName _) fun _ => ih _
  unfold generateACKPayload
  split
  · exact inert.pure _
  · exact relates_ite (hloop _ _) (inert.pure _)

theorem inert_publishAck (kind : AckKind) (topic : ZohoIOTclient → CString) (ack : CJson) :
    Relates Live Inert (publishAck b kind topic ack) := by
  refine inertLive.bind (live_of_always (inert_publishMessage _ _ _)) fun _ => ?_
  refine relates_ite (inertLive.pure _) ?_
  refine inertLive.bind (live_of_always inert_transportConnected) fun _ => ?_
  refine relates_ite (inertLive.pure _) ?_
  refine inertLive.bind inert_setDisconnected fun _ => ?_
  refine inertLive.bind (relates_act fun _ _ _ => ?_) fun _ => inertLive.pure _
  exact ⟨⟨.inl rfl, rfl, by simp [Effect.isSession]⟩, ⟨rfl, rfl, by simp⟩⟩

theorem inert_publishProcessedAck (kind : AckKind) (topic : ZohoIOTclient → CString)
    (payload : CStringPtr) (statusCode : ℤ) (responseMessage : CStringPtr) :
    Relates Always Inert
      (publishProcessedAck b kind topic payload statusCode responseMessage) := by
  refine relates_validated inert (inertLive.bind (relates_ite (inertLive.pure _) ?_) fun ack => ?_)
  · exact relates_ite (live_of_always (inert_generateACKPayload _ _ _)) (inertLive.pure _)
  · split
    · exact inertLive.pure _
    · exact inert_publishAck kind topic _

theorem inert_publishOTAAck (correlationId : CStringPtr) (statusCode : ℤ)
    (responseMessage : CStringPtr) :
    Relates Always Inert (zclientPublishOTAAck b correlationId statusCode responseMessage) :=
  relates_validated inert (inert_publishAck _ _ _)

/-! ## Staging and dispatching -/

theorem quiet_addEventData (valid : Bool) (key : CStringPtr) (item : Option CJson) :
    Relates Always Quiet (addEventData valid key item) :=
  relates_act fun _ _ _ => ⟨.inl rfl, rfl, by simp⟩

theorem inert_publishEvent (assetName : CStringPtr) (doc : CJson) :
    Relates Live Inert (publishEvent b assetName doc) := by
  have hstore : Relates Live Inert (storeFailedEvent doc) := relates_act fun _ _ _ =>
    ⟨⟨.inl rfl, rfl, by simp [Effect.isSession]⟩, ⟨rfl, rfl, by simp⟩⟩
  refine inertLive.bind (live_of_always (inert_publishMessage _ _ _)) fun _ => ?_
  refine relates_ite (inertLive.pure _) ?_
  refine inertLive.bind (live_of_always inert_transportConnected) fun _ => relates_ite ?_ ?_
  · exact inertLive.bind hstore fun _ => inertLive.pure _
  · refine inertLive.bind inert_setDisconnected fun _ => ?_
    exact inertLive.bind hstore fun _ => inertLive.pure _

theorem inert_dispatchEventFromJSONString
    (eventType eventDescription eventDataJSONString assetName : CStringPtr) :
    Relates Always Inert (zclientDispatchEventFromJSONString b eventType eventDescription
      eventDataJSONString assetName) := by
  refine relates_validated inert (inertLive.bind (relates_readClient inertLive _) fun _ => ?_)
  refine relates_ite (inertLive.pure _) ?_
  split
  · exact inertLive.pure _
  · refine inertLive.bind (relates_act fun _ s _ => inertLive.refl s) fun _ => ?_
    exact relates_ite (inertLive.pure _) (inert_publishEvent _ _)

theorem quiet_dispatchEventFromEventDataObject
    (eventType eventDescription assetName : CStringPtr) :
    Relates Always Quiet
      (zclientDispatchEventFromEventDataObject b eventType eventDescription assetName) := by
  refine relates_validated quiet (quietLive.bind (relates_readClient quietLive _) fun _ => ?_)
  refine quietLive.bind ?_ fun _ => quietLive.bind ?_ fun _ => quietLive.pure _
  · exact live_of_always (quiet_of_inert (inert_dispatchEventFromJSONString _ _ _ _))
  · exact relates_act fun _ _ _ => ⟨.inl rfl, rfl, by simp⟩

theorem quiet_addToPayload (checked : Bool) (key : CStringPtr) (item : Option CJson)
    (assetName : CStringPtr) : Relates Always Quiet (addToPayload checked key item assetName) := by
  refine relates_validated quiet (relates_ite (quietLive.pure _) ?_)
  exact relates_act fun _ _ _ => ⟨.inl rfl, rfl, by simp⟩

theorem inert_publish (payload : CString) : Relates Always Inert (zclientPublish b payload) := by
  refine relates_validated inert (inertLive.bind (relates_readClient inertLive _) fun _ => ?_)
  refine relates_ite (inertLive.pure _) ?_
  refine inertLive.bind (live_of_always (inert_publishMessage _ _ _)) fun _ => ?_
  refine relates_ite (inertLive.pure _) ?_
  refine inertLive.bind (live_of_always inert_transportConnected) fun _ => ?_
  refine relates_ite (inertLive.pure _) ?_
  exact inertLive.bind inert_setDisconnected fun _ => inertLive.pure _

/-- Dispatching keeps quiet about the connection. -/
theorem quiet_dispatch : Relates Always Quiet (zclientDispatch b) := by
  refine relates_validated quiet (quietLive.bind (relates_readClient quietLive _) fun _ => ?_)
  refine relates_ite (quietLive.pure _) ?_
  refine quietLive.bind (relates_readClient quietLive _) fun data => ?_
  split
  · exact quietLive.pure _
  · refine quietLive.bind (live_of_always (quiet_of_inert (inert_publish _))) fun _ => ?_
    exact quietLive.bind (relates_act fun _ _ _ => ⟨.inl rfl, rfl, by simp⟩) fun _ =>
      quietLive.pure _

/-! ## Subscribing and yielding -/

theorem inert_subscribe {setHandler : Option ℕ → ZohoIOTclient → ZohoIOTclient}
    (hset : ∀ h, Relates Always Inert (modifyClient (setHandler h)))
    (topic : ZohoIOTclient → CString) (onMessage : Option ℕ) :
    Relates Always Inert (subscribe setHandler topic onMessage) := by
  refine relates_validated inert (relates_ite (inertLive.pure _) ?_)
  refine inertLive.bind (live_of_always (hset _)) fun _ => ?_
  refine inertLive.bind (relates_readClient inertLive _) fun _ => ?_
  refine relates_ite (inertLive.pure _) (inertLive.bind (relates_act fun _ _ _ => ?_) fun _ => ?_)
  · exact inert_of_client rfl (by simp [Effect.isSession])
  · refine relates_ite (inertLive.pure _) ?_
    refine inertLive.bind (live_of_always inert_transportConnected) fun _ => ?_
    exact inertLive.bind inert_setDisconnected fun _ => inertLive.pure _

theorem inert_commandSubscribe (onMessage : Option ℕ) :
    Relates Always Inert (zclientCommandSubscribe onMessage) := by
  refine inert_subscribe (fun _ => ?_) _ onMessage
  exact inert_modifyClient (fun _ => rfl) (fun _ => rfl) (fun _ => rfl) fun _ => rfl

theorem inert_configSubscribe (onMessage : Option ℕ) :
    Relates Always Inert (zclientConfigSubscribe onMessage) := by
  refine inert_subscribe (fun _ => ?_) _ onMessage
  exact inert_modifyClient (fun _ => rfl) (fun _ => rfl) (fun _ => rfl) fun _ => rfl

theorem inert_yield (timeOut : ℤ) : Relates Always Inert (zclientYield b timeOut) := by
  -- both variants end with the same check of the transport
  have hcheck : ∀ rc, Relates Live Inert (do
      let connected ← transportConnected
      if connected then pure rc
      else do
        setCurrentState .disconnected
        pure zfailure : ClientM ℤ) := fun rc => by
    refine inertLive.bind (live_of_always inert_transportConnected) fun _ => ?_
    exact relates_ite (inertLive.pure _) <|
      inertLive.bind inert_setDisconnected fun _ => inertLive.pure _
  refine relates_validated inert (relates_ite (hcheck 0) ?_)
  refine inertLive.bind (live_of_always inert_getCurrentTime) fun _ => ?_
  refine inertLive.bind (relates_readClient inertLive _) fun _ => relates_ite (inertLive.pure _) ?_
  refine inertLive.bind (live_of_always inert_getCurrentTime) fun _ => ?_
  refine inertLive.bind (live_of_always ?_) fun _ => relates_ite (inertLive.pure _) ?_
  · exact inert_modifyClient (fun _ => rfl) (fun _ => rfl) (fun _ => rfl) fun _ => rfl
  · refine inertLive.bind (live_of_always (inert_ask fun _ => rfl)) fun rc => ?_
    exact relates_ite (hcheck rc) (inertLive.pure _)

/-! ## Received messages -/

theorem inert_otaFailure (correlationId : CStringPtr) (responseMessage : String) :
    Relates Always Inert (otaFailure b correlationId responseMessage) :=
  inert.bind (inert_publishOTAAck _ _ _) fun _ => inert.pure _

theorem inert_handleOTA (payload : CString) : Relates Always Inert (handleOTA b payload) := by
  unfold handleOTA
  split
  · exact inert.pure _
  · refine relates_ite ?_ (inert.pure _)
    split
    · exact inert.pure _
    · exact inert_otaFailure _ _
    · refine inert.bind (relates_readClient inert _) fun _ => relates_ite (inert_otaFailure _ _) ?_
      split
      · exact inert_otaFailure _ _
      · exact relates_fault
      · exact relates_ite (inert_otaFailure _ _) (inert_ask fun _ => rfl)

theorem inert_handleCloudLogging (payload : CString) :
    Relates Always Inert (handleCloudLogging b payload) := by
  refine inert.bind ?_ fun _ => inert.bind ?_ fun result => ?_
  · exact inert_modifyClient (fun _ => rfl) (fun _ => rfl) (fun _ => rfl) fun _ => rfl
  · refine relates_ite (inert.bind (relates_act fun _ s _ => inert.refl s) fun _ => ?_) ?_
    · exact inert.pure _
    · exact inert.pure _
  · refine inert.bind (inert_publishProcessedAck _ _ _ _ _) fun _ => ?_
    exact inert_modifyClient (fun _ => rfl) (fun _ => rfl) (fun _ => rfl) fun _ => rfl

theorem inert_callHandler (handler : ZohoIOTclient → Option ℕ) (dest : Destination) :
    Relates Always Inert (callHandler handler dest) :=
  inert.bind (relates_readClient inert _) fun _ =>
    relates_ite (inert_ask fun _ => rfl) (inert_ask fun _ => rfl)

theorem inert_getOTAStatus : Relates Always Inert getOTAStatus :=
  relates_act fun _ _ _ => inert_of_client rfl (by simp [Effect.isSession])

theorem inert_spawnPublish (topic : ZohoIOTclient → CString) (payload : CString) :
    Relates Always Inert (spawnPublish topic payload) := by
  refine relates_act fun w s _ => inert_of_client rfl ?_
  split <;> simp [Effect.isSession]

theorem inert_processMessageReceived (topic : CString) (message : List Char) :
    Relates Always Inert (processMessageReceived b topic message) := by
  refine inert.bind (relates_readClient inert _) fun _ => relates_ite ?_ ?_
  · refine inert.bind (inert_generateACKPayload _ _ _) fun ack => ?_
    split
    · exact inert.pure _
    · refine inert.bind (inert_spawnPublish _ _) fun _ => ?_
      refine inert.bind inert_getOTAStatus fun _ => relates_ite ?_ ?_
      · exact inert.bind (inert_ask fun _ => rfl) fun _ => inert_handleOTA _
      · refine inert.bind (relates_readClient inert _) fun _ => relates_ite ?_ ?_
        · exact inert.bind (inert_ask fun _ => rfl) fun _ => inert_handleCloudLogging _
        · exact inert_callHandler _ _
  · refine inert.bind (relates_readClient inert _) fun _ => relates_ite ?_ (inert.pure _)
    refine inert.bind (inert_generateACKPayload _ _ _) fun ack => ?_
    split
    · exact inert.pure _
    · exact inert.bind (inert_spawnPublish _ _) fun _ => inert_callHandler _ _

/-! ## Connecting -/

/-- A step that touches nothing but the fields of the connection, and whose effects are calls
about the connection or readings of the clock. -/
structure ConnectionStep (s s' : Sdk) (es : List Effect) : Prop where
  fields : s'.client.unconnected = s.client.unconnected
  globals : s'.globals = s.globals
  effects : ∀ e ∈ es, e.isConnection = true

theorem ConnectionStep.trans {s s' s'' : Sdk} {es es' : List Effect} (h : ConnectionStep s s' es)
    (h' : ConnectionStep s' s'' es') : ConnectionStep s s'' (es ++ es') where
  fields := h'.fields.trans h.fields
  globals := h'.globals.trans h.globals
  effects := by
    intro e he
    exact (List.mem_append.mp he).elim (h.effects e) (h'.effects e)

theorem connectionStep : Composable Always ConnectionStep where
  refl _ := ⟨rfl, rfl, by simp⟩
  trans h h' := h.trans h'
  keeps _ _ := trivial

/-- A question about the connection is a step of it. -/
theorem connectionStep_ask {α : Type} {effect : Answer → Effect} {ret : Answer → α}
    (h : ∀ w, (effect w).isConnection = true) : Relates Always ConnectionStep (ask effect ret) :=
  relates_act fun w _ _ => ⟨rfl, rfl, by simpa using h w⟩

/-- A write to the fields of the connection. -/
theorem connectionStep_modifyClient {f : ZohoIOTclient → ZohoIOTclient}
    (h : ∀ c, (f c).unconnected = c.unconnected) :
    Relates Always ConnectionStep (modifyClient f) :=
  relates_act fun _ _ _ => ⟨h _, rfl, by simp⟩

theorem connectionStep_setCurrentState (st : ZclientConnectionState) :
    Relates Always ConnectionStep (setCurrentState st) :=
  connectionStep_modifyClient fun _ => rfl

theorem connectionStep_getCurrentTime : Relates Always ConnectionStep getCurrentTime :=
  connectionStep_ask fun _ => rfl

theorem connectionStep_closeNetwork : Relates Always ConnectionStep (closeNetwork b) := by
  refine connectionStep_ask fun _ => ?_
  split <;> rfl

theorem connectionStep_disconnect : Relates Always ConnectionStep (zclientDisconnect b) := by
  refine connectionStep.bind ?_ fun _ =>
    connectionStep.bind (relates_readClient connectionStep _) fun _ => ?_
  · refine connectionStep.bind (relates_readClient connectionStep _) fun _ => ?_
    exact relates_ite (connectionStep_ask fun _ => rfl) (connectionStep.pure _)
  · refine relates_ite (connectionStep.bind connectionStep_closeNetwork fun _ => ?_) ?_
    · exact connectionStep.bind (connectionStep_setCurrentState _) fun _ => connectionStep.pure _
    · exact connectionStep.bind (connectionStep_setCurrentState _) fun _ => connectionStep.pure _

theorem connectionStep_connectionString : Relates Always ConnectionStep connectionString :=
  relates_act fun _ _ _ => ⟨rfl, rfl, by simp⟩

/-- From the MQTT connection on, which both variants of `zclient_connect` share. -/
theorem connectionStep_mqttConnect : Relates Always ConnectionStep (do
    let username ← connectionString
    let rc ← ask (fun w => .mqttConnect username w.rc) (·.rc)
    finishConnect b rc) := by
  refine connectionStep.bind connectionStep_connectionString fun _ => ?_
  refine connectionStep.bind (connectionStep_ask fun _ => rfl) fun _ => relates_ite ?_ ?_
  · exact connectionStep.bind (connectionStep_setCurrentState _) fun _ => connectionStep.pure _
  · refine connectionStep.bind (relates_readClient connectionStep _) fun _ => ?_
    refine relates_ite (connectionStep.pure _) ?_
    exact connectionStep.bind connectionStep_closeNetwork fun _ => connectionStep.pure _

theorem connectionStep_createHandle : Relates Always ConnectionStep (createHandle b) := by
  refine connectionStep.bind (relates_readClient connectionStep _) fun _ => ?_
  refine relates_ite ?_ (connectionStep.pure _)
  refine connectionStep.bind (relates_act fun _ _ _ => ⟨rfl, rfl, by simp⟩) fun _ => ?_
  refine connectionStep.bind (connectionStep_ask fun _ => rfl) fun _ => ?_
  exact relates_ite (connectionStep.pure _) (connectionStep_ask fun _ => rfl)

theorem connectionStep_connect : Relates Always ConnectionStep (zclientConnect b) := by
  refine relates_validated connectionStep (live_of_always ?_)
  refine connectionStep.bind (relates_readClient connectionStep _) fun _ => ?_
  refine relates_ite (connectionStep.pure _) (relates_ite ?_ ?_)
  · refine connectionStep.bind connectionStep_createHandle fun failed => ?_
    split
    · exact connectionStep.pure _
    · exact connectionStep_mqttConnect
  · refine connectionStep.bind (relates_readClient connectionStep _) fun buffSize => ?_
    refine connectionStep.bind (connectionStep_modifyClient fun _ => rfl) fun _ => ?_
    refine connectionStep.bind (relates_act fun _ _ _ => ⟨rfl, rfl, ?_⟩) fun rc => ?_
    · simp [Effect.isConnection]
    refine relates_ite (relates_ite ?_ (connectionStep.pure _)) ?_
    · refine connectionStep.bind connectionStep_disconnect fun _ => ?_
      refine connectionStep.bind (connectionStep_modifyClient fun _ => rfl) fun _ => ?_
      exact connectionStep.pure _
    · refine connectionStep.bind (connectionStep_modifyClient fun _ => rfl) fun _ => ?_
      exact connectionStep_mqttConnect

theorem connectionStep_recordStartTime : Relates Always ConnectionStep recordStartTime := by
  refine connectionStep.bind (relates_readClient connectionStep _) fun _ => ?_
  refine relates_ite ?_ (connectionStep.pure _)
  refine connectionStep.bind connectionStep_getCurrentTime fun _ => ?_
  exact connectionStep_modifyClient fun _ => rfl

theorem connectionStep_closeStale : Relates Always ConnectionStep (closeStale b) := by
  refine connectionStep.bind (relates_readClient connectionStep _) fun _ => ?_
  refine relates_ite (connectionStep.bind connectionStep_closeNetwork fun _ => ?_)
    (connectionStep.pure _)
  exact connectionStep_setCurrentState _

theorem connectionStep_backOff : Relates Always ConnectionStep backOff := by
  refine connectionStep.bind connectionStep_getCurrentTime fun _ => ?_
  refine connectionStep.bind (connectionStep_modifyClient fun _ => rfl) fun _ => ?_
  refine connectionStep.bind (relates_readClient connectionStep _) fun _ => ?_
  exact relates_ite (connectionStep.pure _) (connectionStep.pure _)

/-- Steps of the connection leave what is staged. -/
theorem ConnectionStep.sameStaged {s s' : Sdk} {es : List Effect} (h : ConnectionStep s s' es) :
    SameStaged s s' es := by
  refine ⟨?_, ?_, fun rc hmem => ?_⟩
  · have hdata := congrArg ZohoIOTclient.messageData h.fields
    exact hdata
  · have hevent := congrArg ZohoIOTclient.eventDataObject h.fields
    exact hevent
  · have hconnection := h.effects _ hmem
    simp [Effect.isConnection] at hconnection

/-- Programs of such steps leave what is staged. -/
theorem sameStaged_of_connectionStep {α : Type} {p : ClientM α}
    (h : Relates Always ConnectionStep p) : Relates Always SameStaged p :=
  h.mono fun _ _ _ _ hstep => hstep.sameStaged

theorem inert_replayFailedACK : Relates Always Inert (replayFailedACK b) := by
  refine inert.bind (relates_readClient inert _) fun _ => relates_ite (inert.pure _) ?_
  refine inert.bind (relates_act fun _ _ _ => ?_) fun doc => ?_
  · exact inert_of_client rfl (by simp [Effect.isSession])
  · split
    · exact inert.pure _
    · refine inert.bind (inert_publishMessage _ _ _) fun _ => relates_ite ?_ (inert.pure _)
      refine inert.bind (relates_act fun _ _ _ => ?_) fun _ => inert.pure _
      exact ⟨⟨.inl rfl, rfl, by simp [Effect.isSession]⟩, ⟨rfl, rfl, by simp⟩⟩

theorem inert_replayFailedEvent : Relates Always Inert (replayFailedEvent b) := by
  have hclear : Relates Always Inert clearFailedEvent := relates_act fun _ _ _ =>
    ⟨⟨.inl rfl, rfl, by simp [Effect.isSession]⟩, ⟨rfl, rfl, by simp⟩⟩
  refine inert.bind (relates_readClient inert _) fun _ => relates_ite (inert.pure _) ?_
  refine inert.bind (relates_act fun _ _ _ => ?_) fun _ => relates_ite ?_ ?_
  · exact inert_of_client rfl (by simp [Effect.isSession])
  · exact inert.bind hclear fun _ => inert.pure _
  · refine inert.bind (relates_act fun _ _ _ => ?_) fun doc => ?_
    · exact inert_of_client rfl (by simp [Effect.isSession])
    · split
      · exact inert.pure _
      · refine inert.bind (inert_publishMessage _ _ _) fun _ => relates_ite ?_ (inert.pure _)
        exact inert.bind hclear fun _ => inert.pure _

theorem inert_resubscribe {handler : ZohoIOTclient → Option ℕ} {sub : Option ℕ → ClientM ℤ}
    (h : ∀ onMessage, Relates Always Inert (sub onMessage)) :
    Relates Always Inert (resubscribe handler sub) :=
  inert.bind (relates_readClient inert _) fun _ => relates_ite (inert.pure _) (h _)

/-- The part of `zclient_reconnect` that comes after the client was marked as connected. -/
def restoreSession (b : Build) : ClientM ℤ := do
  let subscribeRc ← resubscribe (·.onCommandMessageHandler) zclientCommandSubscribe
  if subscribeRc ≠ zsuccess then pure zfailure
  else do
    let subscribeRc ← resubscribe (·.onConfigMessageHandler) zclientConfigSubscribe
    if subscribeRc ≠ zsuccess then pure zfailure
    else do
      let ackDone ← replayFailedACK b
      if ackDone = false then pure zfailure
      else do
        let eventDone ← replayFailedEvent b
        if eventDone = false then pure zfailure else pure zsuccess

/-- The session is marked connected before it is restored. -/
theorem resumeSession_eq (b : Build) : resumeSession b = (do
    setCurrentState .connected
    modifyClient fun c =>
      { c with retryCount := 0, startTime := 0, zretryInterval := minRetryInterval }
    restoreSession b) := rfl

theorem inert_restoreSession : Relates Always Inert (restoreSession b) := by
  refine inert.bind (inert_resubscribe inert_commandSubscribe) fun _ => ?_
  refine relates_ite (inert.pure _) ?_
  refine inert.bind (inert_resubscribe inert_configSubscribe) fun _ => ?_
  refine relates_ite (inert.pure _) ?_
  refine inert.bind inert_replayFailedACK fun _ => relates_ite (inert.pure _) ?_
  exact inert.bind inert_replayFailedEvent fun _ => relates_ite (inert.pure _) (inert.pure _)

/-- Reconnecting leaves what is staged. -/
theorem sameStaged_reconnect : Relates Always SameStaged (zclientReconnect b) := by
  have hconnection {α : Type} {p : ClientM α} (h : Relates Always ConnectionStep p) :
      Relates Always SameStaged p := sameStaged_of_connectionStep h
  refine relates_validated sameStaged (live_of_always ?_)
  refine sameStaged.bind (relates_readClient sameStaged _) fun _ => ?_
  refine relates_ite (sameStaged.pure _) ?_
  refine sameStaged.bind (hconnection connectionStep_recordStartTime) fun _ => ?_
  refine sameStaged.bind (relates_readClient sameStaged _) fun _ => ?_
  refine sameStaged.bind (hconnection connectionStep_getCurrentTime) fun _ => ?_
  refine sameStaged.bind (relates_readClient sameStaged _) fun _ => ?_
  refine relates_ite (sameStaged.pure _) ?_
  refine sameStaged.bind (hconnection connectionStep_closeStale) fun _ => ?_
  refine sameStaged.bind (hconnection connectionStep_connect) fun _ => relates_ite ?_ ?_
  · rw [resumeSession_eq]
    refine sameStaged.bind (hconnection (connectionStep_setCurrentState _)) fun _ => ?_
    refine sameStaged.bind ?_ fun _ => sameStaged_of_inert inert_restoreSession
    exact hconnection (connectionStep_modifyClient fun _ => rfl)
  · exact hconnection connectionStep_backOff

theorem connectionStep_free : Relates Always ConnectionStep (zclientFree b) := by
  refine connectionStep.bind (relates_readClient connectionStep _) fun _ => relates_ite ?_ ?_
  · refine connectionStep.bind connectionStep_disconnect fun _ => relates_ite ?_
      (connectionStep.pure _)
    exact connectionStep.bind connectionStep_closeNetwork fun _ => connectionStep.pure _
  · refine relates_ite ?_ (connectionStep.pure _)
    exact connectionStep.bind connectionStep_closeNetwork fun _ => connectionStep.pure _

/-! ## The public functions -/

/-- The calls that connect, disconnect, initialise or free the client. -/
def Call.isSession : Call → Bool
  | .init _ | .free | .connect | .disconnect | .reconnect => true
  | _ => false

/-- The calls that write the staged data. -/
def Call.isStaging : Call → Bool
  | .init _ | .addNumber _ _ _ | .addString _ _ _ | .addObject _ _ _ | .markDataPointAsError _ _
  | .dispatch | .addEventDataNumber _ _ | .addEventDataString _ _ | .addEventDataObject _ _
  | .dispatchEventFromEventDataObject _ _ _ => true
  | _ => false

/-- The calls that do neither. -/
theorem Call.inert (call : Call) (hsession : call.isSession = false)
    (hstaging : call.isStaging = false) : Relates Always Inert (call.prog b) := by
  have hsetting : ∀ {f : Sdk → Globals}, Relates Always Inert (do
      Prog.modify fun s => { s with globals := f s }
      pure true : ClientM Bool) := fun {f} =>
    ZohoIotSdk.inert.bind (inert_modifyGlobals f) fun _ => ZohoIotSdk.inert.pure _
  have hfunction {α : Type} {p : ClientM α} (hp : Relates Always Inert p) :
      Relates Always Inert (discard p) := relates_discard ZohoIotSdk.inert hp
  cases call with
  | setTls state => exact inert_modifyGlobals _
  | setClientCerts state => exact inert_modifyGlobals _
  | setAgentNameandVersion name version =>
    exact hfunction (relates_ite hsetting (ZohoIotSdk.inert.pure _))
  | setPlatformName platformName =>
    exact hfunction (relates_ite hsetting (ZohoIotSdk.inert.pure _))
  | setMaxPayloadSize size =>
    refine hfunction (ZohoIotSdk.inert.bind ?_ fun _ => ZohoIotSdk.inert.pure _)
    exact inert_modifyClient (fun _ => rfl) (fun _ => rfl) (fun _ => rfl) fun _ => rfl
  | addConnectionParameter key value =>
    show Relates Always Inert (zclientAddConnectionParameter key value)
    unfold zclientAddConnectionParameter
    exact inert_modifyClient (fun _ => rfl) (fun _ => rfl) (fun _ => rfl) fun _ => rfl
  | yield timeOut => exact hfunction (inert_yield timeOut)
  | commandSubscribe onMessage => exact hfunction (inert_commandSubscribe onMessage)
  | configSubscribe onMessage => exact hfunction (inert_configSubscribe onMessage)
  | otaHandler onOTA =>
    refine hfunction (relates_ite (ZohoIotSdk.inert.pure _) ?_)
    refine ZohoIotSdk.inert.bind ?_ fun _ => ZohoIotSdk.inert.pure _
    exact inert_modifyClient (fun _ => rfl) (fun _ => rfl) (fun _ => rfl) fun _ => rfl
  | publish payload => exact hfunction (inert_publish payload)
  | dispatchEventFromJSONString _ _ _ _ =>
    exact hfunction (inert_dispatchEventFromJSONString _ _ _ _)
  | publishCommandAck _ _ _ => exact hfunction (inert_publishProcessedAck _ _ _ _ _)
  | publishConfigAck _ _ _ => exact hfunction (inert_publishProcessedAck _ _ _ _ _)
  | publishOTAAck _ _ _ => exact hfunction (inert_publishOTAAck _ _ _)
  | formReceivedACK payload => exact hfunction (inert_generateACKPayload _ _ _)
  | publishMessage topic payload => exact hfunction (inert_publishMessage _ _ _)
  | getOTAStatus => exact hfunction inert_getOTAStatus
  | getCloudLoggingStatus => exact hfunction (relates_readClient ZohoIotSdk.inert _)
  | handleOTA payload => exact inert_handleOTA payload
  | handleCloudLogging payload => exact inert_handleCloudLogging payload
  | processMessageReceived topic message => exact inert_processMessageReceived topic message
  | publishReceivedAck topic payload => exact hfunction (inert_publishMessage _ _ _)
  | init _ | free | connect | disconnect | reconnect => simp [Call.isSession] at hsession
  | addNumber _ _ _ | addString _ _ _ | addObject _ _ _ | markDataPointAsError _ _
  | dispatch | addEventDataNumber _ _ | addEventDataString _ _ | addEventDataObject _ _
  | dispatchEventFromEventDataObject _ _ _ => simp [Call.isStaging] at hstaging

/-- A call that does not concern the connection is quiet. -/
theorem Call.quiet (call : Call) (h : call.isSession = false) :
    Relates Always Quiet (call.prog b) := by
  by_cases hstaging : call.isStaging = false
  · exact quiet_of_inert (call.inert h hstaging)
  · cases call with
    | addNumber _ _ _ | addString _ _ _ | addObject _ _ _ | markDataPointAsError _ _ =>
      exact relates_discard ZohoIotSdk.quiet (quiet_addToPayload _ _ _ _)
    | dispatch => exact relates_discard ZohoIotSdk.quiet quiet_dispatch
    | addEventDataNumber _ _ | addEventDataString _ _ | addEventDataObject _ _ =>
      exact relates_discard ZohoIotSdk.quiet (quiet_addEventData _ _ _)
    | dispatchEventFromEventDataObject _ _ _ =>
      exact relates_discard ZohoIotSdk.quiet (quiet_dispatchEventFromEventDataObject _ _ _)
    | init _ => simp [Call.isSession] at h
    | _ => simp [Call.isStaging] at hstaging

/-- A call that does not concern the staged data keeps it. -/
theorem Call.sameStaged (call : Call) (h : call.isStaging = false) :
    Relates Always SameStaged (call.prog b) := by
  by_cases hsession : call.isSession = false
  · exact sameStaged_of_inert (call.inert hsession h)
  · cases call with
    | free =>
      exact relates_discard ZohoIotSdk.sameStaged (sameStaged_of_connectionStep connectionStep_free)
    | connect =>
      refine relates_discard ZohoIotSdk.sameStaged ?_
      exact sameStaged_of_connectionStep connectionStep_connect
    | disconnect =>
      refine relates_discard ZohoIotSdk.sameStaged ?_
      exact sameStaged_of_connectionStep connectionStep_disconnect
    | reconnect => exact relates_discard ZohoIotSdk.sameStaged sameStaged_reconnect
    | init _ => simp [Call.isStaging] at h
    | _ => simp [Call.isSession] at hsession

end Functions

end ZohoIotSdk
