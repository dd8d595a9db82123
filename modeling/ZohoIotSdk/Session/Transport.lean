import ZohoIotSdk.Session.Outcomes

/-!
# What the functions do after a transport call has failed

After a transport call that failed, the functions that use the transport ask whether it is
still connected, and mark the client as `DISCONNECTED` if it is not. What the transport would
report is part of every answer, whether or not the code asks for it, so the calls are looked
at with their logs. `Notices` are the programs after which a loss has been noticed.
-/

namespace ZohoIotSdk

open Atomic (Prog LogEntry)

/-! ## What happens at the transport -/

/-- The transport calls whose failure is not followed by a look at the connection. -/
inductive TransportKind where
  | checked
  | replay
  | yield
deriving DecidableEq

/-- A call of the transport with its result, or a question whether it is connected, and what
the transport reports about its connection then. -/
inductive TransportEvent where
  | call (kind : TransportKind) (rc : ℤ) (connected : Bool)
  | query (connected : Bool)
deriving DecidableEq

/-- Is the transport connected at that moment? -/
def TransportEvent.connected : TransportEvent → Bool
  | .call _ _ connected => connected
  | .query connected => connected

def TransportEvent.failed : TransportEvent → Bool
  | .call _ rc _ => decide (rc ≠ 0)
  | .query _ => false

/-- Which code publishes. -/
def PublishSource.kind : PublishSource → TransportKind
  | .replayACK _ | .replayEvent _ => .replay
  | _ => .checked

/-- What an effect of a step means at the transport. A payload that is too large does not
reach it. -/
def transportEvent (b : Build) (entry : LogEntry Sdk Answer Effect) :
    Effect → List TransportEvent
  | .networkConnect _ rc | .mqttCreate rc | .mqttSetCallbacks rc | .mqttConnect _ rc
  | .mqttDisconnect rc | .subscribe _ rc => [.call .checked rc entry.answer.connected]
  | .yield rc => [.call .yield rc entry.answer.connected]
  | .publish source _ payload rc =>
    if payloadTooLarge b entry.state.client payload then []
    else [.call source.kind rc entry.answer.connected]
  | .transport connected => [.query connected]
  | _ => []

/-- What happened at the transport during some steps. -/
def transportEvents (b : Build) (log : List (LogEntry Sdk Answer Effect)) : List TransportEvent :=
  log.flatMap fun entry => entry.effects.flatMap (transportEvent b entry)

@[simp] theorem transportEvents_nil (b : Build) : transportEvents b [] = [] := rfl

@[simp] theorem transportEvents_cons (b : Build) (entry : LogEntry Sdk Answer Effect)
    (log : List (LogEntry Sdk Answer Effect)) : transportEvents b (entry :: log) =
      entry.effects.flatMap (transportEvent b entry) ++ transportEvents b log := rfl

@[simp] theorem transportEvents_append (b : Build) (log log' : List (LogEntry Sdk Answer Effect)) :
    transportEvents b (log ++ log') = transportEvents b log ++ transportEvents b log' :=
  List.flatMap_append

/-- A transport call failed, and in the end the transport reports that it is not connected. -/
def Lost (events : List TransportEvent) : Prop :=
  (∃ e ∈ events, e.failed = true) ∧ events.getLast?.map TransportEvent.connected = some false

/-- The failures that are not checked lose nothing: neither a replay that fails, nor an
`MQTTYield` on a connected client with a result that is neither success nor failure, comes with
a report at the end that the transport is not connected. -/
structure LossNoticed (s : Sdk) (events : List TransportEvent) : Prop where
  replay : ∀ rc connected, .call .replay rc connected ∈ events → rc ≠ 0 →
    events.getLast?.map TransportEvent.connected ≠ some false
  yield : s.client.currentState = .connected → ∀ rc connected, .call .yield rc connected ∈ events →
    rc ≠ 0 → rc ≠ zfailure → events.getLast?.map TransportEvent.connected ≠ some false

/-! ## Functions that check every failure -/

/-- Is this no failure, or one that the code checks? -/
def TransportEvent.isChecked : TransportEvent → Bool
  | .call kind _ _ => decide (kind = .checked)
  | .query _ => true

/-- A loss is noticed, and all failures are checked. -/
structure Noticed (s' : Sdk) (events : List TransportEvent) : Prop where
  lost : Lost events → s'.client.currentState ≠ .connected
  checked : events.all TransportEvent.isChecked = true

/-- A call that notices its losses also meets `LossNoticed`. -/
theorem Noticed.iff {s s' : Sdk} {events : List TransportEvent} (h : Noticed s' events) :
    (Lost events → s'.client.currentState ≠ .connected) ↔ LossNoticed s events := by
  have hchecked := List.all_eq_true.mp h.checked
  refine ⟨fun _ => ⟨?_, ?_⟩, fun _ => h.lost⟩
  · intro rc connected hmem
    exact absurd (hchecked _ hmem) (by simp [TransportEvent.isChecked])
  · intro _ rc connected hmem
    exact absurd (hchecked _ hmem) (by simp [TransportEvent.isChecked])

/-- Where no call of the transport fails nothing is lost. -/
theorem noticed_of_ok {s' : Sdk} {events : List TransportEvent}
    (hchecked : events.all TransportEvent.isChecked = true)
    (hok : events.any TransportEvent.failed = false) : Noticed s' events := by
  refine ⟨fun ⟨⟨e, he, hfailed⟩, _⟩ => ?_, hchecked⟩
  exact absurd hfailed (by simp [List.any_eq_false.mp hok e he])

/-- The code has asked, and the transport was connected. -/
theorem noticed_of_connected {s' : Sdk} {events : List TransportEvent}
    (hchecked : events.all TransportEvent.isChecked = true) :
    Noticed s' (events ++ [.query true]) := by
  refine ⟨fun ⟨_, hlast⟩ => ?_, ?_⟩
  · simp [TransportEvent.connected] at hlast
  · simp [hchecked, TransportEvent.isChecked]

/-- The client has been marked, or was not connected before. -/
theorem noticed_of_state {s' : Sdk} {events : List TransportEvent}
    (hchecked : events.all TransportEvent.isChecked = true)
    (hstate : s'.client.currentState ≠ .connected) : Noticed s' events :=
  ⟨fun _ => hstate, hchecked⟩

section Steps

variable {α : Type}

@[simp] theorem logged_readClient (f : ZohoIOTclient → α) : (readClient f).logged =
    Prog.act (fun _ s => s) (fun w s => [⟨s, w, []⟩]) fun _ s => f s.client := rfl

@[simp] theorem logged_validateClientState : validateClientState.logged =
    Prog.act (fun _ s => s) (fun w s => [⟨s, w, []⟩]) fun _ s => clientStateCode s.client := rfl

@[simp] theorem logged_modifyClient (f : ZohoIOTclient → ZohoIOTclient) :
    (modifyClient f).logged = Prog.act (fun _ s => { s with client := f s.client })
      (fun w s => [⟨s, w, []⟩]) fun _ _ => () := rfl

@[simp] theorem logged_setCurrentState (st : ZclientConnectionState) :
    (setCurrentState st).logged =
      Prog.act (fun _ s => { s with client := { s.client with currentState := st } })
        (fun w s => [⟨s, w, []⟩]) fun _ _ => () := rfl

@[simp] theorem logged_ask (effect : Answer → Effect) (ret : Answer → α) :
    (ask effect ret).logged =
      Prog.act (fun _ s => s) (fun w s => [⟨s, w, [effect w]⟩]) fun w _ => ret w := rfl

@[simp] theorem logged_transportConnected : transportConnected.logged =
    Prog.act (fun _ s => s) (fun w s => [⟨s, w, [.transport w.connected]⟩])
      fun w _ => w.connected := rfl

@[simp] theorem logged_getCurrentTime : getCurrentTime.logged =
    Prog.act (fun _ s => s) (fun w s => [⟨s, w, [.clock w.time]⟩]) fun w _ => w.time := rfl

end Steps

variable {b : Build}

/-- What publishing means at the transport. -/
theorem transportEvent_publish (source : PublishSource) (topic payload : CString) (s : Sdk)
    (w : Answer) :
    transportEvent b ⟨s, w, [.publish source topic payload (publishResult b s.client payload w)]⟩
      (.publish source topic payload (publishResult b s.client payload w)) =
    if payloadTooLarge b s.client payload then [] else [.call source.kind w.rc w.connected] := by
  unfold transportEvent publishResult
  by_cases hlarge : payloadTooLarge b s.client payload
  · simp [hlarge]
  · simp [hlarge]

/-- Does the effect mean anything at the transport? -/
def Effect.isTransport : Effect → Bool
  | .networkConnect _ _ | .mqttCreate _ | .mqttSetCallbacks _ | .mqttConnect _ _
  | .mqttDisconnect _ | .subscribe _ _ | .yield _ | .publish _ _ _ _ | .transport _ => true
  | _ => false

/-- Other effects are no calls of the transport. -/
theorem transportEvent_eq_nil {e : Effect} (h : e.isTransport = false)
    (entry : LogEntry Sdk Answer Effect) : transportEvent b entry e = [] := by
  cases e <;> simp_all [Effect.isTransport, transportEvent]

/-- A program that does not reach the transport. -/
def Silent {α : Type} (b : Build) (p : ClientM α) : Prop :=
  ∀ s a log s', p.logged.Exec s a log s' → transportEvents b log = []

/-- A program after which `R` holds of the client and of what happened at the transport. -/
def Ensures {α : Type} (b : Build) (R : Sdk → List TransportEvent → Prop) (p : ClientM α) : Prop :=
  ∀ s a log s', p.logged.Exec s a log s' → R s' (transportEvents b log)

/-- A program that notices a loss. -/
abbrev Notices {α : Type} (b : Build) (p : ClientM α) : Prop := Ensures b Noticed p

section Rules

variable {α β : Type} {R : Sdk → List TransportEvent → Prop}

theorem silent_pure (a : α) : Silent b (pure a : ClientM α) := by
  rintro s _ _ _ ⟨-, rfl, -⟩
  rfl

theorem silent_fault : Silent b (Prog.fault : ClientM α) := fun _ _ _ _ h => h.elim

theorem silent_act {upd : Answer → Sdk → Sdk} {emit : Answer → Sdk → List Effect}
    {ret : Answer → Sdk → α} (h : ∀ w s, ∀ e ∈ emit w s, e.isTransport = false) :
    Silent b (Prog.act upd emit ret) := by
  rintro s _ _ _ ⟨w, _, rfl, -, rfl, -⟩
  rw [List.append_nil, transportEvents_cons, transportEvents_nil, List.append_nil,
    List.flatMap_eq_nil_iff]
  exact fun e he => transportEvent_eq_nil (h w s e he) _

theorem silent_bind {p : ClientM α} {f : α → ClientM β} (hp : Silent b p)
    (hf : ∀ a, Silent b (f a)) : Silent b (p >>= f) := by
  intro s c log s' h
  rw [Prog.logged_bind] at h
  obtain ⟨a, log₁, s₁, log₂, h₁, h₂, rfl⟩ := Prog.exec_bind.mp h
  rw [transportEvents_append, hp _ _ _ _ h₁, hf _ _ _ _ _ h₂]
  rfl

theorem silent_ite {c : Prop} [Decidable c] {p q : ClientM α} (hp : Silent b p)
    (hq : Silent b q) : Silent b (if c then p else q) := by
  split
  · exact hp
  · exact hq

theorem silent_readClient (f : ZohoIOTclient → α) : Silent b (readClient f) :=
  silent_act (by simp)

theorem silent_modifyClient (f : ZohoIOTclient → ZohoIOTclient) : Silent b (modifyClient f) :=
  silent_act (by simp)

theorem silent_getCurrentTime : Silent b getCurrentTime :=
  silent_act (by simp [Effect.isTransport])

/-- A silent program ensures what holds of no calls. -/
theorem Silent.ensures {p : ClientM α} (h : Silent b p) (hnil : ∀ s, R s []) : Ensures b R p := by
  intro s a log s' hexec
  rw [h s a log s' hexec]
  exact hnil s'

/-- A silent program has nothing to notice. -/
theorem Silent.notices {p : ClientM α} (h : Silent b p) : Notices b p :=
  h.ensures fun _ => noticed_of_ok rfl rfl

/-- A program that begins without the transport. -/
theorem Silent.bind_ensures {p : ClientM α} {f : α → ClientM β} (hp : Silent b p)
    (hf : ∀ a, Ensures b R (f a)) : Ensures b R (p >>= f) := by
  intro s c log s' h
  rw [Prog.logged_bind] at h
  obtain ⟨a, log₁, s₁, log₂, h₁, h₂, rfl⟩ := Prog.exec_bind.mp h
  rw [transportEvents_append, hp _ _ _ _ h₁]
  exact hf _ _ _ _ _ h₂

/-- A program that ends without the transport and with the state it came to. -/
theorem Notices.bind_silent {p : ClientM α} {f : α → ClientM β} (hp : Notices b p)
    (hf : ∀ a, Silent b (f a)) (hstate : ∀ a s c es s', (f a).Exec s c es s' →
      s'.client.currentState = s.client.currentState) : Notices b (p >>= f) := by
  intro s c log s' h
  rw [Prog.logged_bind] at h
  obtain ⟨a, log₁, s₁, log₂, h₁, h₂, rfl⟩ := Prog.exec_bind.mp h
  have hnoticed := hp _ _ _ _ h₁
  rw [transportEvents_append, hf _ _ _ _ _ h₂, List.append_nil]
  exact ⟨by rw [hstate _ _ _ _ _ (Prog.exec_of_logged h₂)]; exact hnoticed.lost,
    hnoticed.checked⟩

theorem ensures_ite {c : Prop} [Decidable c] {p q : ClientM α} (hp : Ensures b R p)
    (hq : Ensures b R q) : Ensures b R (if c then p else q) := by
  split
  · exact hp
  · exact hq

/-- The guard in front changes nothing where a refusal is allowed. -/
theorem ensures_validated {p : ClientM ℤ} (hnil : ∀ s, R s []) (hp : Ensures b R p) :
    Ensures b R (do
      let rc ← validateClientState
      if rc ≠ 0 then pure rc else p) :=
  (silent_readClient _).bind_ensures fun _ => ensures_ite ((silent_pure _).ensures hnil) hp

theorem notices_validated {p : ClientM ℤ} (hp : Notices b p) : Notices b (do
    let rc ← validateClientState
    if rc ≠ 0 then pure rc else p) :=
  ensures_validated (fun _ => noticed_of_ok rfl rfl) hp

theorem ensures_discard {p : ClientM α} (hp : Ensures b R p) : Ensures b R (discard p) := by
  intro s _ log s' h
  rw [discard, Prog.logged_bind] at h
  obtain ⟨a, log₁, s₁, log₂, h₁, ⟨-, rfl, rfl⟩, rfl⟩ := Prog.exec_bind.mp h
  rw [List.append_nil]
  exact hp _ _ _ _ h₁

end Rules

section Publishing

variable {α : Type} {source : PublishSource} {topic : ZohoIOTclient → CString} {payload : CString}
  {onSuccess onConnected onLost : ℤ → ClientM α}

/-- Publishing, followed by a look at the connection if it failed. -/
theorem notices_publishMessage (hsource : source.kind = .checked)
    (hsuccess : ∀ rc, Silent b (onSuccess rc)) (hconnected : ∀ rc, Silent b (onConnected rc))
    (hlost : ∀ rc, Silent b (onLost rc))
    (hstate : ∀ rc s a es s', (onLost rc).Exec s a es s' →
      s'.client.currentState = s.client.currentState) : Notices b (do
      let rc ← publishMessage b source topic payload
      if rc = zsuccess then onSuccess rc
      else do
        let connected ← transportConnected
        if connected then onConnected rc
        else do
          setCurrentState .disconnected
          onLost rc : ClientM α) := by
  intro s a log s' h
  unfold publishMessage at h
  simp only [Prog.logged_bind, Prog.logged_ite, Prog.logged_act, logged_setCurrentState,
    logged_transportConnected, Prog.exec_act_bind] at h
  obtain ⟨w, log₁, rfl, h⟩ := h
  rw [transportEvents_append, transportEvents_cons, List.flatMap_singleton,
    transportEvent_publish, hsource, transportEvents_nil, List.append_nil]
  -- a payload that is too large counts as refused, but has not reached the transport
  have hchecked : (if payloadTooLarge b s.client payload then []
      else [TransportEvent.call .checked w.rc w.connected]).all TransportEvent.isChecked =
      true := by
    split <;> rfl
  split at h
  · rename_i hrc
    rw [hsuccess _ _ _ _ _ h, List.append_nil]
    refine noticed_of_ok hchecked ?_
    split
    · rfl
    · rename_i hlarge
      rw [publishResult, if_neg hlarge] at hrc
      simp [TransportEvent.failed, hrc, zsuccess]
  · rw [Prog.exec_act_bind] at h
    obtain ⟨w', log₂, rfl, h⟩ := h
    rw [transportEvents_append, transportEvents_cons, List.flatMap_singleton,
      transportEvents_nil, List.append_nil]
    split at h
    · rename_i hconn
      rw [hconnected _ _ _ _ _ h, List.append_nil, hconn]
      exact noticed_of_connected hchecked
    · rename_i hconn
      obtain ⟨_, log₃, rfl, h⟩ := h
      rw [transportEvents_append, transportEvents_cons, List.flatMap_nil, transportEvents_nil,
        hlost _ _ _ _ _ h]
      refine noticed_of_state ?_ ?_
      · simp [hchecked, transportEvent, TransportEvent.isChecked]
      · rw [hstate _ _ _ _ _ (Prog.exec_of_logged h)]
        simp

end Publishing

/-- The end of a function. -/
theorem state_of_pure {α : Type} {a a' : α} {s s' : Sdk} {es : List Effect}
    (h : (pure a : ClientM α).Exec s a' es s') :
    s'.client.currentState = s.client.currentState := by
  rw [h.2.2]

theorem notices_publish (payload : CString) : Notices b (zclientPublish b payload) := by
  refine notices_validated ((silent_readClient _).bind_ensures fun _ => ?_)
  refine ensures_ite (silent_pure _).notices (notices_publishMessage rfl ?_ ?_ ?_ ?_)
  · exact fun _ => silent_pure _
  · exact fun _ => silent_pure _
  · exact fun _ => silent_pure _
  · exact fun _ _ _ _ _ => state_of_pure

theorem notices_dispatch : Notices b (zclientDispatch b) := by
  refine notices_validated ((silent_readClient _).bind_ensures fun _ => ?_)
  refine ensures_ite (silent_pure _).notices ((silent_readClient _).bind_ensures fun data => ?_)
  split
  · exact (silent_pure _).notices
  · refine (notices_publish _).bind_silent (fun _ => ?_) ?_
    · exact silent_bind (silent_modifyClient _) fun _ => silent_pure _
    · intro _ _ _ _ _ h
      rw [exec_modifyClient_bind] at h
      rw [state_of_pure h]

theorem notices_publishAck {kind : AckKind} {topic : ZohoIOTclient → CString} {ack : CJson} :
    Notices b (publishAck b kind topic ack) := by
  refine notices_publishMessage rfl ?_ ?_ ?_ ?_
  · exact fun _ => silent_pure _
  · exact fun _ => silent_pure _
  · exact fun _ => silent_bind (silent_act (by simp [Effect.isTransport])) fun _ => silent_pure _
  · rintro _ _ _ _ _ ⟨_, _, rfl, -, -, rfl⟩
    rfl

theorem silent_generateACKPayload (payload : CStringPtr) (statusCode : ℤ)
    (responseMessage : CStringPtr) :
    Silent b (generateACKPayload b payload statusCode responseMessage) := by
  have hnote : ∀ message, Silent b (noteCommandName b message) := by
    intro message
    unfold noteCommandName
    split
    · exact silent_pure _
    · split
      · exact silent_fault
      · refine silent_bind (silent_act (by simp [Effect.isTransport])) fun _ => ?_
        refine silent_ite ?_ (silent_pure _)
        split
        · exact silent_pure _
        · exact silent_act (by simp)
  have hloop : ∀ messages ack,
      Silent b (generateACKLoop b statusCode responseMessage messages ack) := by
    intro messages
    induction messages with
    | nil => exact fun _ => silent_pure _
    | cons message rest ih =>
      intro ack
      unfold generateACKLoop
      split
      · exact silent_pure _
      · exact silent_bind (hnote _) fun _ => ih _
  unfold generateACKPayload
  split
  · exact silent_pure _
  · exact silent_ite (hloop _ _) (silent_pure _)

theorem notices_publishProcessedAck {kind : AckKind} {topic : ZohoIOTclient → CString}
    (payload : CStringPtr) (statusCode : ℤ) (responseMessage : CStringPtr) :
    Notices b (publishProcessedAck b kind topic payload statusCode responseMessage) := by
  refine notices_validated (Silent.bind_ensures ?_ fun ack => ?_)
  · exact silent_ite (silent_pure _) (silent_ite (silent_generateACKPayload _ _ _) (silent_pure _))
  · split
    · exact (silent_pure _).notices
    · exact notices_publishAck

theorem notices_publishEvent {assetName : CStringPtr} {doc : CJson} :
    Notices b (publishEvent b assetName doc) := by
  have hstore : ∀ rc : ℤ, Silent b (do
      storeFailedEvent doc
      pure rc) := fun _ =>
    silent_bind (silent_act (by simp [Effect.isTransport])) fun _ => silent_pure _
  refine notices_publishMessage rfl ?_ hstore hstore ?_
  · exact fun _ => silent_pure _
  · rintro _ _ _ _ _ ⟨_, _, rfl, -, -, rfl⟩
    rfl

theorem notices_dispatchEventFromJSONString
    {eventType eventDescription eventDataJSONString assetName : CStringPtr} :
    Notices b (zclientDispatchEventFromJSONString b eventType eventDescription
      eventDataJSONString assetName) := by
  refine notices_validated ((silent_readClient _).bind_ensures fun _ => ?_)
  refine ensures_ite (silent_pure _).notices ?_
  split
  · exact (silent_pure _).notices
  · refine (silent_act (by simp)).bind_ensures fun _ => ?_
    exact ensures_ite (silent_pure _).notices notices_publishEvent

theorem notices_dispatchEventFromEventDataObject
    {eventType eventDescription assetName : CStringPtr} :
    Notices b (zclientDispatchEventFromEventDataObject b eventType eventDescription assetName) := by
  refine notices_validated ((silent_readClient _).bind_ensures fun _ => ?_)
  refine notices_dispatchEventFromJSONString.bind_silent (fun _ => ?_) ?_
  · exact silent_bind (silent_modifyClient _) fun _ => silent_pure _
  · intro _ _ _ _ _ h
    rw [exec_modifyClient_bind] at h
    rw [state_of_pure h]

theorem notices_publishOTAAck (correlationId : CStringPtr) (statusCode : ℤ)
    (responseMessage : CStringPtr) :
    Notices b (zclientPublishOTAAck b correlationId statusCode responseMessage) :=
  notices_validated notices_publishAck

end ZohoIotSdk
