import ZohoIotSdk.Calls
import ZohoIotSdk.Client.Outcomes

/-!
# What the public operations are built from

Most steps of the SDK have nothing to do with the retry slots; `Frame` says what such a
step leaves alone. The others stand in four blocks: publishing an ACK, publishing an event,
and the replay of each. `Built` are the programs put together from these, and
`Call.built` says that every call other than `zclient_init` is one.

`Built.keeps` and `Built.steps` are how the later modules use this: a property of runs or
of single steps is proved for a `Frame` step and for the four blocks, and not for each
function again.
-/

namespace ZohoIotSdk

open Atomic (Prog)

/-! ## Steps that leave the retry slots alone -/

/-- Calls of `publishMessage` that neither send nor resend an ACK or an event of the
application. -/
def PublishSource.isPlain : PublishSource → Bool
  | .telemetry | .receivedACK | .application => true
  | .event _ _ | .ack _ _ | .replayACK _ | .replayEvent _ => false

/-- The effects that do not concern the retry slots. -/
def Effect.isPlain : Effect → Bool
  | .publish source _ _ _ => source.isPlain
  | .storeACK _ _ _ | .serializeACK _ | .clearACK _ => false
  | .storeEvent _ _ | .expiryTest _ _ _ | .serializeEvent _ | .clearEvent _ => false
  | .init _ => false
  | _ => true

/-- `OTA_RECEIVED` after an effect. -/
def otaAfter (received : Bool) : Effect → Bool
  | .setFlags commandName => decide (commandName = zOTA)
  | _ => received

/-- Two clients with the same retry slots, ACK topics and command topic; the payload size
does not become negative. -/
structure SameSlots (c c' : ZohoIOTclient) : Prop where
  retryACK : c'.retryACK = c.retryACK
  failedACK : c'.failedACK = c.failedACK
  retryEvent : c'.retryEvent = c.retryEvent
  failedEvent : c'.failedEvent = c.failedEvent
  commandAckTopic : c'.commandAckTopic = c.commandAckTopic
  configAckTopic : c'.configAckTopic = c.configAckTopic
  commandTopic : c'.commandTopic = c.commandTopic
  payloadSize : 0 ≤ c.config.payloadSize → 0 ≤ c'.config.payloadSize

theorem SameSlots.refl (c : ZohoIOTclient) : SameSlots c c :=
  ⟨rfl, rfl, rfl, rfl, rfl, rfl, rfl, id⟩

/-- A step that does not concern the retry slots. -/
structure Frame (s s' : Sdk) (es : List Effect) : Prop where
  slots : SameSlots s.client s'.client
  ota : s'.client.otaReceived = es.foldl otaAfter s.client.otaReceived
  plain : ∀ e ∈ es, e.isPlain = true

/-- A step that changes nothing and has at most plain effects. -/
theorem Frame.of_effects {s : Sdk} {es : List Effect} (hplain : ∀ e ∈ es, e.isPlain = true)
    (hota : ∀ e ∈ es, ∀ name, e ≠ .setFlags name) : Frame s s es := by
  refine ⟨.refl _, ?_, hplain⟩
  -- no effect is one that records a name, so the flag stays
  induction es with
  | nil => rfl
  | cons e es ih =>
    have hkeep : otaAfter s.client.otaReceived e = s.client.otaReceived := by
      cases e with
      | setFlags name => exact absurd rfl (hota _ (List.mem_cons_self ..) name)
      | _ => rfl
    rw [List.foldl_cons, hkeep]
    exact ih (fun e' h => hplain e' (List.mem_cons_of_mem _ h))
      fun e' h => hota e' (List.mem_cons_of_mem _ h)

/-! ## Programs built from blocks -/

/-- The programs put together from `Frame` steps and the four blocks; `r` says whether the
two replays may be among them. -/
inductive Built (b : Build) (r : Bool) : {α : Type} → ClientM α → Prop
  | pure {α : Type} (a : α) : Built b r (Pure.pure a : ClientM α)
  | fault {α : Type} : Built b r (Prog.fault : ClientM α)
  | bind {α β : Type} {p : ClientM α} {f : α → ClientM β} (hp : Built b r p)
      (hf : ∀ a, Built b r (f a)) : Built b r (p >>= f)
  | act {α : Type} {upd : Answer → Sdk → Sdk} {emit : Answer → Sdk → List Effect}
      {ret : Answer → Sdk → α} (h : ∀ w s, Frame s (upd w s) (emit w s)) :
      Built b r (Prog.act upd emit ret)
  | publishAck (kind : AckKind) (doc : CJson) : Built b r (publishAck b kind kind.topic doc)
  | publishEvent (assetName : CStringPtr) (doc : CJson) : Built b r (publishEvent b assetName doc)
  | replayFailedACK (hr : r = true) : Built b r (replayFailedACK b)
  | replayFailedEvent (hr : r = true) : Built b r (replayFailedEvent b)

/-- An invariant that `Frame` steps and the four blocks keep. -/
structure KeptByBlocks (b : Build) (I : Sdk → List Effect → Prop) : Prop where
  frame : ∀ s s' tr es, I s tr → Frame s s' es → I s' (tr ++ es)
  publishAck : ∀ kind doc, Prog.Keeps I (publishAck b kind kind.topic doc)
  publishEvent : ∀ assetName doc, Prog.Keeps I (publishEvent b assetName doc)
  replayFailedACK : Prog.Keeps I (replayFailedACK b)
  replayFailedEvent : Prog.Keeps I (replayFailedEvent b)

namespace Built

variable {b : Build} {r : Bool} {α : Type}

/-- What the blocks keep, a program built from them keeps. -/
theorem keeps {I : Sdk → List Effect → Prop} (hI : KeptByBlocks b I) {p : ClientM α}
    (h : Built b r p) : Prog.Keeps I p := by
  induction h with
  | pure a => exact Prog.keeps_pure a
  | fault => exact Prog.keeps_fault
  | bind _ _ ihp ihf => exact Prog.keeps_bind ihp ihf
  | act h =>
    intro s tr hs w
    exact hI.frame _ _ _ _ hs (h w s)
  | publishAck kind doc => exact hI.publishAck kind doc
  | publishEvent assetName doc => exact hI.publishEvent assetName doc
  | replayFailedACK _ => exact hI.replayFailedACK
  | replayFailedEvent _ => exact hI.replayFailedEvent

theorem ite {c : Prop} [Decidable c] {p q : ClientM α} (hp : Built b r p) (hq : Built b r q) :
    Built b r (if c then p else q) := by
  split
  · exact hp
  · exact hq

theorem ask {effect : Answer → Effect} {ret : Answer → α}
    (hplain : ∀ w, (effect w).isPlain = true) (hota : ∀ w name, effect w ≠ .setFlags name) :
    Built b r (ask effect ret) := by
  refine .act fun w s => .of_effects ?_ ?_
  · intro e he
    rw [List.mem_singleton.mp he]
    exact hplain w
  · intro e he name
    rw [List.mem_singleton.mp he]
    exact hota w name

theorem read (f : Sdk → α) : Built b r (Prog.read f) :=
  .act fun _ _ => .of_effects (by simp) (by simp)

theorem readClient (f : ZohoIOTclient → α) : Built b r (readClient f) := read _

/-- An update of the client that leaves the slots alone. -/
theorem modifyClient {f : ZohoIOTclient → ZohoIOTclient} (h : ∀ c, SameSlots c (f c))
    (hota : ∀ c, (f c).otaReceived = c.otaReceived) : Built b r (modifyClient f) :=
  .act fun _ s => ⟨h s.client, hota s.client, by simp⟩

/-- An update of the process-wide variables. -/
theorem modifyGlobals (f : Sdk → Globals) :
    Built b r (Prog.modify fun s => { s with globals := f s }) :=
  .act fun _ s => ⟨.refl s.client, rfl, by simp⟩

theorem setCurrentState (st : ZclientConnectionState) : Built b r (setCurrentState st) :=
  .modifyClient (fun _ => ⟨rfl, rfl, rfl, rfl, rfl, rfl, rfl, id⟩) fun _ => rfl

theorem validateClientState : Built b r validateClientState := .readClient _

theorem getCurrentTime : Built b r getCurrentTime := .ask (fun _ => rfl) (by simp)

theorem transportConnected : Built b r transportConnected := .ask (fun _ => rfl) (by simp)

/-- The guard that most operations begin with. -/
theorem validated {p : ClientM ℤ} (hp : Built b r p) :
    Built b r (do
      let rc ← ZohoIotSdk.validateClientState
      if rc ≠ 0 then Pure.pure rc else p) :=
  .bind validateClientState fun rc => .ite (.pure rc) hp

theorem discard {p : ClientM α} (hp : Built b r p) : Built b r (discard p) :=
  .bind hp fun _ => .pure ()

/-- A call of `publishMessage` with a plain source. -/
theorem publishMessage {source : PublishSource} (h : source.isPlain = true)
    (topic : ZohoIOTclient → CString) (payload : CString) :
    Built b r (publishMessage b source topic payload) := by
  refine .act fun w s => .of_effects ?_ (by simp)
  intro e he
  rw [List.mem_singleton.mp he]
  exact h

end Built

/-! ## What single steps do -/

/-- The effects of the two replays. -/
def Effect.isReplay : Effect → Bool
  | .publish (.replayACK _) _ _ _ | .publish (.replayEvent _) _ _ _ => true
  | .serializeACK _ | .clearACK _ => true
  | .expiryTest _ _ _ | .serializeEvent _ | .clearEvent _ => true
  | _ => false

/-- The effects that record a change of a flag or of a slot. -/
def Effect.isWrite : Effect → Bool
  | .setFlags _ | .storeACK _ _ _ | .clearACK _ | .storeEvent _ _ | .clearEvent _ => true
  | _ => false

/-- The slot of the retained ACK after an effect. -/
def ackSlotAfter (slot : ZfailedACK) : Effect → ZfailedACK
  | .storeACK _ doc topic => { topic := topic, ackPayload := some doc }
  | .clearACK _ => { slot with ackPayload := none }
  | _ => slot

/-- The retained event after an effect. -/
def eventSlotAfter (slot : Option CJson) : Effect → Option CJson
  | .storeEvent doc _ => some doc
  | .clearEvent _ => none
  | _ => slot

/-- What a step does to the topics, the flag and the slots, as its effects tell; a run of
steps does the same. -/
structure SdkStep (s s' : Sdk) (es : List Effect) : Prop where
  commandTopic : s'.client.commandTopic = s.client.commandTopic
  ackTopic : ∀ kind : AckKind, kind.topic s'.client = kind.topic s.client
  ota : s'.client.otaReceived = es.foldl otaAfter s.client.otaReceived
  failedACK : s'.client.failedACK = es.foldl ackSlotAfter s.client.failedACK
  failedEvent : s'.client.failedEvent.eventPayload =
    es.foldl eventSlotAfter s.client.failedEvent.eventPayload
  storedTopic : ∀ kind doc topic, .storeACK kind doc topic ∈ es → topic = kind.topic s.client

theorem SdkStep.refl (s : Sdk) : SdkStep s s [] :=
  ⟨rfl, fun _ => rfl, rfl, rfl, rfl, by simp⟩

theorem SdkStep.trans {s₁ s₂ s₃ : Sdk} {es es' : List Effect} (h : SdkStep s₁ s₂ es)
    (h' : SdkStep s₂ s₃ es') : SdkStep s₁ s₃ (es ++ es') := by
  refine ⟨h'.commandTopic.trans h.commandTopic,
    fun kind => (h'.ackTopic kind).trans (h.ackTopic kind), ?_, ?_, ?_, ?_⟩
  · rw [List.foldl_append, ← h.ota, h'.ota]
  · rw [List.foldl_append, ← h.failedACK, h'.failedACK]
  · rw [List.foldl_append, ← h.failedEvent, h'.failedEvent]
  · intro kind doc topic hmem
    rcases List.mem_append.mp hmem with hmem | hmem
    · exact h.storedTopic kind doc topic hmem
    · rw [h'.storedTopic kind doc topic hmem, h.ackTopic]

/-- An effect that is not recorded as a change changes nothing. -/
theorem SdkStep.of_effects {s : Sdk} {es : List Effect} (h : ∀ e ∈ es, e.isWrite = false) :
    SdkStep s s es := by
  induction es with
  | nil => exact .refl s
  | cons e es ih =>
    have he := h e (List.mem_cons_self ..)
    have hfirst : SdkStep s s [e] := by
      cases e with
      | setFlags | storeACK | clearACK | storeEvent | clearEvent => simp [Effect.isWrite] at he
      | _ => exact ⟨rfl, fun _ => rfl, rfl, rfl, rfl, by simp⟩
    exact hfirst.trans (ih fun e' h' => h e' (List.mem_cons_of_mem _ h'))

/-- A plain effect is no replay. -/
theorem isReplay_of_isPlain {e : Effect} (h : e.isPlain = true) : e.isReplay = false := by
  cases e with
  | publish source =>
    cases source with
    | replayACK | replayEvent => simp [Effect.isPlain, PublishSource.isPlain] at h
    | _ => rfl
  | serializeACK | clearACK | expiryTest | serializeEvent | clearEvent => simp [Effect.isPlain] at h
  | _ => rfl

/-- Plain effects leave the slots alone. -/
theorem slotAfter_of_isPlain {e : Effect} (h : e.isPlain = true) :
    (∀ slot, ackSlotAfter slot e = slot) ∧ (∀ slot, eventSlotAfter slot e = slot) := by
  cases e with
  | storeACK | clearACK | storeEvent | clearEvent => simp [Effect.isPlain] at h
  | _ => exact ⟨fun _ => rfl, fun _ => rfl⟩

theorem foldl_eq_self {α β : Type} {f : α → β → α} {es : List β} (h : ∀ e ∈ es, ∀ a, f a e = a)
    (a : α) : es.foldl f a = a := by
  induction es with
  | nil => rfl
  | cons e es ih =>
    rw [List.foldl_cons, h e (List.mem_cons_self ..)]
    exact ih fun e' h' => h e' (List.mem_cons_of_mem _ h')

/-- What frames the slots is a step of the interface. -/
theorem Frame.sdkStep {s s' : Sdk} {es : List Effect} (h : Frame s s' es) : SdkStep s s' es := by
  refine ⟨h.slots.commandTopic, ?_, h.ota, ?_, ?_, ?_⟩
  · intro kind
    cases kind with
    | config => exact h.slots.configAckTopic
    | _ => exact h.slots.commandAckTopic
  · rw [h.slots.failedACK, foldl_eq_self fun e he => (slotAfter_of_isPlain (h.plain e he)).1]
  · rw [h.slots.failedEvent, foldl_eq_self fun e he => (slotAfter_of_isPlain (h.plain e he)).2]
  · intro kind doc topic hmem
    have := h.plain _ hmem
    simp [Effect.isPlain] at this

/-- What a step of a program does; without replays it has no effect of a replay. -/
def BuiltStep (r : Bool) (s s' : Sdk) (es : List Effect) : Prop :=
  SdkStep s s' es ∧ (r = false → ∀ e ∈ es, e.isReplay = false)

/-- Effects that neither write nor replay are a step without a change of state. -/
theorem BuiltStep.of_effects {r : Bool} {s : Sdk} {es : List Effect}
    (h : ∀ e ∈ es, e.isWrite = false ∧ e.isReplay = false) : BuiltStep r s s es :=
  ⟨.of_effects fun e he => (h e he).1, fun _ e he => (h e he).2⟩

section Steps

variable (b : Build) {r : Bool}

theorem publishMessage_steps {source : PublishSource} (topic : ZohoIOTclient → CString)
    (payload : CString)
    (h : ∀ rc topic, (Effect.publish source topic payload rc).isReplay = false) :
    (publishMessage b source topic payload).Steps (BuiltStep r) := by
  refine (Prog.steps_act _ _ _).mpr fun w s => .of_effects fun e he => ?_
  rw [List.mem_singleton.mp he]
  exact ⟨rfl, h _ _⟩

theorem transportConnected_steps : transportConnected.Steps (BuiltStep r) := by
  refine (Prog.steps_act _ _ _).mpr fun w s => .of_effects fun e he => ?_
  rw [List.mem_singleton.mp he]
  exact ⟨rfl, rfl⟩

theorem setCurrentState_steps (st : ZclientConnectionState) :
    (setCurrentState st).Steps (BuiltStep r) := by
  refine (Prog.steps_act _ _ _).mpr fun w s => ⟨⟨rfl, fun kind => ?_, rfl, rfl, rfl, ?_⟩, ?_⟩
  · cases kind <;> rfl
  · simp
  · simp

theorem storeFailedACK_steps (kind : AckKind) (doc : CJson) :
    (storeFailedACK kind kind.topic doc).Steps (BuiltStep r) := by
  refine (Prog.steps_act _ _ _).mpr fun w s => ⟨⟨rfl, fun kind' => ?_, rfl, ?_, rfl, ?_⟩, ?_⟩
  · cases kind' <;> rfl
  · rw [cJSONDuplicate_eq]
    rfl
  · intro kind' doc' topic hmem
    obtain ⟨rfl, rfl, rfl⟩ := Effect.storeACK.inj (List.mem_singleton.mp hmem)
    rfl
  · intro _ e he
    rw [List.mem_singleton.mp he]
    rfl

theorem storeFailedEvent_steps (doc : CJson) : (storeFailedEvent doc).Steps (BuiltStep r) := by
  refine (Prog.steps_act _ _ _).mpr fun w s => ⟨⟨rfl, fun kind => ?_, rfl, rfl, ?_, by simp⟩, ?_⟩
  · cases kind <;> rfl
  · rw [cJSONDuplicate_eq]
    rfl
  · intro _ e he
    rw [List.mem_singleton.mp he]
    rfl

theorem publishAck_steps (kind : AckKind) (doc : CJson) :
    (publishAck b kind kind.topic doc).Steps (BuiltStep r) := by
  refine Prog.steps_bind (publishMessage_steps b _ _ fun _ _ => rfl) fun rc => ?_
  refine Prog.steps_ite (Prog.steps_pure _) ?_
  apply Prog.steps_bind transportConnected_steps
  intro connected
  refine Prog.steps_ite (Prog.steps_pure _) ?_
  -- the connection is lost
  refine Prog.steps_bind (setCurrentState_steps _) fun _ => ?_
  exact Prog.steps_bind (storeFailedACK_steps kind doc) fun _ => Prog.steps_pure _

theorem publishEvent_steps (assetName : CStringPtr) (doc : CJson) :
    (publishEvent b assetName doc).Steps (BuiltStep r) := by
  refine Prog.steps_bind (publishMessage_steps b _ _ fun _ _ => rfl) fun rc => ?_
  refine Prog.steps_ite (Prog.steps_pure _) ?_
  refine Prog.steps_bind transportConnected_steps fun connected => Prog.steps_ite ?_ ?_
  · exact Prog.steps_bind (storeFailedEvent_steps doc) fun _ => Prog.steps_pure _
  · refine Prog.steps_bind (setCurrentState_steps _) fun _ => ?_
    exact Prog.steps_bind (storeFailedEvent_steps doc) fun _ => Prog.steps_pure _

/-- A step of a replay that changes nothing. -/
theorem steps_replay {α : Type} {emit : Answer → Sdk → List Effect} {ret : Answer → Sdk → α}
    (h : ∀ w s, ∀ e ∈ emit w s, e.isWrite = false) :
    (Prog.act (fun _ s => s) emit ret : ClientM α).Steps (BuiltStep true) :=
  (Prog.steps_act _ _ _).mpr fun w s => ⟨.of_effects (h w s), by simp⟩

theorem clearFailedACK_steps : clearFailedACK.Steps (BuiltStep true) := by
  refine (Prog.steps_act _ _ _).mpr fun w s => ⟨⟨rfl, fun kind => ?_, rfl, rfl, rfl, ?_⟩, ?_⟩
  · cases kind <;> rfl
  · simp
  · simp

theorem clearFailedEvent_steps : clearFailedEvent.Steps (BuiltStep true) := by
  refine (Prog.steps_act _ _ _).mpr fun w s => ⟨⟨rfl, fun kind => ?_, rfl, rfl, rfl, ?_⟩, ?_⟩
  · cases kind <;> rfl
  · simp
  · simp

theorem replayFailedACK_steps : (replayFailedACK b).Steps (BuiltStep true) := by
  refine Prog.steps_bind (steps_replay (by simp)) fun flag => ?_
  refine Prog.steps_ite (Prog.steps_pure _) ?_
  refine Prog.steps_bind (steps_replay (by simp [Effect.isWrite])) fun doc => ?_
  split
  · exact Prog.steps_pure _
  · refine Prog.steps_bind (steps_replay (by simp [Effect.isWrite])) fun rc => ?_
    refine Prog.steps_ite ?_ (Prog.steps_pure _)
    exact Prog.steps_bind clearFailedACK_steps fun _ => Prog.steps_pure _

theorem replayFailedEvent_steps : (replayFailedEvent b).Steps (BuiltStep true) := by
  refine Prog.steps_bind (steps_replay (by simp)) fun flag => ?_
  refine Prog.steps_ite (Prog.steps_pure _) ?_
  refine Prog.steps_bind (steps_replay (by simp [Effect.isWrite])) fun expired => ?_
  apply Prog.steps_ite
  · exact Prog.steps_bind clearFailedEvent_steps fun _ => Prog.steps_pure _
  · refine Prog.steps_bind (steps_replay (by simp [Effect.isWrite])) fun doc => ?_
    split
    · exact Prog.steps_pure _
    · refine Prog.steps_bind (steps_replay (by simp [Effect.isWrite])) fun rc => ?_
      refine Prog.steps_ite ?_ (Prog.steps_pure _)
      exact Prog.steps_bind clearFailedEvent_steps fun _ => Prog.steps_pure _

variable {b}

/-- What the single steps of a program built from the blocks do. -/
theorem Built.steps {α : Type} {p : ClientM α} (h : Built b r p) : p.Steps (BuiltStep r) := by
  induction h with
  | pure a => exact Prog.steps_pure a
  | fault => exact Prog.steps_fault
  | bind _ _ ihp ihf => exact Prog.steps_bind ihp ihf
  | act h =>
    -- a frame step has plain effects only, and none of these replays
    refine (Prog.steps_act _ _ _).mpr fun w s => ⟨(h w s).sdkStep, fun _ e he => ?_⟩
    exact isReplay_of_isPlain ((h w s).plain e he)
  | publishAck kind doc => exact publishAck_steps b kind doc
  | publishEvent assetName doc => exact publishEvent_steps b assetName doc
  | replayFailedACK hr =>
    rw [hr]
    exact replayFailedACK_steps b
  | replayFailedEvent hr =>
    rw [hr]
    exact replayFailedEvent_steps b

end Steps

/-! ## The functions of the SDK -/

section Functions

variable {b : Build} {r : Bool}

theorem recordCommandName_built (name : CString) : Built b r (recordCommandName name) :=
  .act fun _ _ => ⟨⟨rfl, rfl, rfl, rfl, rfl, rfl, rfl, id⟩, rfl, by simp [Effect.isPlain]⟩

theorem cloudLoggingSetLines_built (line : CString) : Built b r (cloudLoggingSetLines line) := by
  refine .act fun _ s => ?_
  -- only the process-wide line count changes
  have hclient : (if atoi line < 1 then s
      else { s with globals := { s.globals with numLinesToRead := atoi line } }).client
        = s.client := by
    split <;> rfl
  refine ⟨?_, ?_, by simp⟩
  · rw [hclient]
    exact .refl _
  · rw [hclient]
    rfl

theorem noteCommandName_built (commandMessage : CJson) :
    Built b r (noteCommandName b commandMessage) := by
  unfold noteCommandName
  split
  · exact .pure _
  · split
    · exact .fault
    · refine .bind (recordCommandName_built _) fun _ => .ite ?_ (.pure _)
      split
      · exact .pure _
      · exact cloudLoggingSetLines_built _

theorem generateACKLoop_built (statusCode : ℤ) (responseMessage : CStringPtr)
    (messages : List CJson) (ack : CJson) :
    Built b r (generateACKLoop b statusCode responseMessage messages ack) := by
  induction messages generalizing ack with
  | nil => exact .pure _
  | cons commandMessage rest ih =>
    unfold generateACKLoop
    split
    · exact .pure _
    · exact .bind (noteCommandName_built _) fun _ => ih _

theorem generateACKPayload_built (payload : CStringPtr) (statusCode : ℤ)
    (responseMessage : CStringPtr) :
    Built b r (generateACKPayload b payload statusCode responseMessage) := by
  unfold generateACKPayload
  split
  · exact .pure _
  · exact .ite (generateACKLoop_built _ _ _ _) (.pure _)

theorem publishProcessedAck_built (kind : AckKind) (payload : CStringPtr) (statusCode : ℤ)
    (responseMessage : CStringPtr) :
    Built b r (publishProcessedAck b kind kind.topic payload statusCode responseMessage) := by
  refine .validated (.bind (.ite (.pure _) (.ite (generateACKPayload_built _ _ _) (.pure _))) ?_)
  intro ack
  split
  · exact .pure _
  · exact .publishAck kind _

theorem zclientPublishOTAAck_built (correlationId : CStringPtr) (statusCode : ℤ)
    (responseMessage : CStringPtr) :
    Built b r (zclientPublishOTAAck b correlationId statusCode responseMessage) :=
  .validated (.publishAck .ota _)

theorem addEventData_built (valid : Bool) (key : CStringPtr) (item : Option CJson) :
    Built b r (addEventData valid key item) :=
  .act fun _ _ => ⟨⟨rfl, rfl, rfl, rfl, rfl, rfl, rfl, id⟩, rfl, by simp⟩

theorem zclientDispatchEventFromJSONString_built
    (eventType eventDescription eventDataJSONString assetName : CStringPtr) :
    Built b r (zclientDispatchEventFromJSONString b eventType eventDescription
      eventDataJSONString assetName) := by
  refine .validated (.bind (.readClient _) fun _ => .ite (.pure _) ?_)
  split
  · exact .pure _
  · refine .bind (.act fun _ _ => .of_effects (by simp) (by simp)) fun _ => ?_
    exact .ite (.pure _) (.publishEvent assetName _)

theorem zclientDispatchEventFromEventDataObject_built
    (eventType eventDescription assetName : CStringPtr) :
    Built b r (zclientDispatchEventFromEventDataObject b eventType eventDescription assetName) := by
  refine .validated (.bind (.readClient _) fun _ => ?_)
  refine .bind (zclientDispatchEventFromJSONString_built _ _ _ _) fun _ => ?_
  refine .bind (.modifyClient ?_ ?_) fun _ => .pure _
  · exact fun _ => ⟨rfl, rfl, rfl, rfl, rfl, rfl, rfl, id⟩
  · exact fun _ => rfl

theorem addToPayload_built (checked : Bool) (key : CStringPtr) (item : Option CJson)
    (assetName : CStringPtr) : Built b r (addToPayload checked key item assetName) := by
  refine .validated (.ite (.pure _) (.act fun _ _ => ?_))
  exact ⟨⟨rfl, rfl, rfl, rfl, rfl, rfl, rfl, id⟩, rfl, by simp⟩

theorem zclientPublish_built (payload : CString) : Built b r (zclientPublish b payload) := by
  refine .validated (.bind (.readClient _) fun _ => .ite (.pure _) ?_)
  refine .bind (.publishMessage rfl _ _) fun _ => .ite (.pure _) ?_
  exact .bind .transportConnected fun _ => .ite (.pure _) <|
    .bind (.setCurrentState _) fun _ => .pure _

theorem zclientDispatch_built : Built b r (zclientDispatch b) := by
  refine .validated (.bind (.readClient _) fun _ => .ite (.pure _) ?_)
  refine .bind (.readClient _) fun data => ?_
  split
  · exact .pure _
  · refine .bind (zclientPublish_built _) fun _ => .bind (.modifyClient ?_ ?_) fun _ => .pure _
    · exact fun _ => ⟨rfl, rfl, rfl, rfl, rfl, rfl, rfl, id⟩
    · exact fun _ => rfl

theorem zclientSetMaxPayloadSize_built (size : ℤ) : Built b r (zclientSetMaxPayloadSize size) := by
  refine .bind (.modifyClient ?_ fun _ => rfl) fun _ => .pure _
  refine fun _ => ⟨rfl, rfl, rfl, rfl, rfl, rfl, rfl, fun _ => ?_⟩
  show 0 ≤ if maxPayloadSize < size then maxPayloadSize
    else if size < 1 then defaultPayloadSize else size
  unfold maxPayloadSize defaultPayloadSize
  split
  · omega
  · split <;> omega

theorem closeNetwork_built : Built b r (closeNetwork b) := by
  refine .ask ?_ ?_
  · intro _
    split <;> rfl
  · intro _ name
    split <;> simp

theorem zclientDisconnect_built : Built b r (zclientDisconnect b) := by
  refine .bind (.bind (.readClient _) fun _ => .ite (.ask (fun _ => rfl) (by simp)) (.pure _)) ?_
  intro rc
  refine .bind (.readClient _) fun _ => .ite ?_ ?_
  · exact .bind closeNetwork_built fun _ => .bind (.setCurrentState _) fun _ => .pure _
  · exact .bind (.setCurrentState _) fun _ => .pure _

theorem finishConnect_built (rc : ℤ) : Built b r (finishConnect b rc) := by
  unfold finishConnect
  refine .ite (.bind (.setCurrentState _) fun _ => .pure _) ?_
  exact .bind (.readClient _) fun _ => .ite (.pure _) <| .bind closeNetwork_built fun _ => .pure _

theorem connectionString_built : Built b r connectionString :=
  .act fun _ _ => ⟨⟨rfl, rfl, rfl, rfl, rfl, rfl, rfl, id⟩, rfl, by simp⟩

theorem createHandle_built : Built b r (createHandle b) := by
  refine .bind (.readClient _) fun _ => .ite ?_ (.pure _)
  refine .bind (.act fun _ _ => ?_) fun _ => ?_
  · exact ⟨⟨rfl, rfl, rfl, rfl, rfl, rfl, rfl, id⟩, rfl, by simp⟩
  · refine .bind (.ask (fun _ => rfl) (by simp)) fun _ => ?_
    exact .ite (.pure _) (.ask (fun _ => rfl) (by simp))

theorem connectPahoC_built : Built b r (connectPahoC b) := by
  refine .bind createHandle_built fun failed => ?_
  split
  · exact .pure _
  · refine .bind connectionString_built fun _ => ?_
    exact .bind (.ask (fun _ => rfl) (by simp)) fun _ => finishConnect_built _

theorem connectEmbedded_built : Built b r (connectEmbedded b) := by
  refine .bind (.readClient _) fun buffSize => .bind (.modifyClient ?_ fun _ => rfl) fun _ => ?_
  · exact fun _ => ⟨rfl, rfl, rfl, rfl, rfl, rfl, rfl, id⟩
  refine .bind (.act fun _ _ => .of_effects (by simp [Effect.isPlain]) (by simp)) fun _ => ?_
  refine .ite ?_ ?_
  · refine .ite (.bind zclientDisconnect_built fun _ => ?_) (.pure _)
    refine .bind (.modifyClient ?_ fun _ => rfl) fun _ => .pure _
    exact fun _ => ⟨rfl, rfl, rfl, rfl, rfl, rfl, rfl, id⟩
  · refine .bind (.modifyClient ?_ fun _ => rfl) fun _ => .bind connectionString_built fun _ => ?_
    · exact fun _ => ⟨rfl, rfl, rfl, rfl, rfl, rfl, rfl, id⟩
    · exact .bind (.ask (fun _ => rfl) (by simp)) fun _ => finishConnect_built _

theorem zclientConnect_built : Built b r (zclientConnect b) := by
  refine .validated (.bind (.readClient _) fun _ => .ite (.pure _) ?_)
  exact .ite connectPahoC_built connectEmbedded_built

/-- `setHandler` is the assignment of one of the two message handlers. -/
theorem subscribe_built {setHandler : Option ℕ → ZohoIOTclient → ZohoIOTclient}
    {topic : ZohoIOTclient → CString} (h : ∀ f c, SameSlots c (setHandler f c))
    (hota : ∀ f c, (setHandler f c).otaReceived = c.otaReceived) (onMessage : Option ℕ) :
    Built b r (subscribe setHandler topic onMessage) := by
  refine .validated (.ite (.pure _) (.bind (.modifyClient (h _) (hota _)) fun _ => ?_))
  refine .bind (.readClient _) fun _ => .ite (.pure _) ?_
  refine .bind (.act fun _ _ => .of_effects (by simp [Effect.isPlain]) (by simp)) fun _ => ?_
  exact .ite (.pure _) <| .bind .transportConnected fun _ =>
    .bind (.setCurrentState _) fun _ => .pure _

theorem zclientCommandSubscribe_built (onMessage : Option ℕ) :
    Built b r (zclientCommandSubscribe onMessage) := by
  refine subscribe_built ?_ ?_ onMessage
  · exact fun _ _ => ⟨rfl, rfl, rfl, rfl, rfl, rfl, rfl, id⟩
  · exact fun _ _ => rfl

theorem zclientConfigSubscribe_built (onMessage : Option ℕ) :
    Built b r (zclientConfigSubscribe onMessage) := by
  refine subscribe_built ?_ ?_ onMessage
  · exact fun _ _ => ⟨rfl, rfl, rfl, rfl, rfl, rfl, rfl, id⟩
  · exact fun _ _ => rfl

theorem zclientYield_built (timeOut : ℤ) : Built b r (zclientYield b timeOut) := by
  refine .validated (.ite ?_ ?_)
  · exact .bind .transportConnected fun _ => .ite (.pure _) <|
      .bind (.setCurrentState _) fun _ => .pure _
  · refine .bind .getCurrentTime fun _ => .bind (.readClient _) fun _ => .ite (.pure _) ?_
    refine .bind .getCurrentTime fun now => .bind (.modifyClient ?_ fun _ => rfl) fun _ => ?_
    · exact fun _ => ⟨rfl, rfl, rfl, rfl, rfl, rfl, rfl, id⟩
    refine .ite (.pure _) (.bind (.ask (fun _ => rfl) (by simp)) fun _ => .ite ?_ (.pure _))
    exact .bind .transportConnected fun _ => .ite (.pure _) <|
      .bind (.setCurrentState _) fun _ => .pure _

theorem resubscribe_built {handler : ZohoIOTclient → Option ℕ} {sub : Option ℕ → ClientM ℤ}
    (h : ∀ f, Built b r (sub f)) : Built b r (resubscribe handler sub) :=
  .bind (.readClient _) fun _ => .ite (.pure _) (h _)

theorem recordStartTime_built : Built b r recordStartTime := by
  refine .bind (.readClient _) fun _ => .ite (.bind .getCurrentTime fun _ => ?_) (.pure _)
  exact .modifyClient (fun _ => ⟨rfl, rfl, rfl, rfl, rfl, rfl, rfl, id⟩) fun _ => rfl

theorem closeStale_built : Built b r (closeStale b) := by
  refine .bind (.readClient _) fun _ => .ite ?_ (.pure _)
  exact .bind closeNetwork_built fun _ => .setCurrentState _

theorem backOff_built : Built b r backOff := by
  refine .bind .getCurrentTime fun _ => .bind (.modifyClient ?_ fun _ => rfl) fun _ => ?_
  · exact fun _ => ⟨rfl, rfl, rfl, rfl, rfl, rfl, rfl, id⟩
  · exact .bind (.readClient _) fun _ => .ite (.pure _) (.pure _)

theorem resumeSession_built : Built b true (resumeSession b) := by
  refine .bind (.setCurrentState _) fun _ => .bind (.modifyClient ?_ fun _ => rfl) fun _ => ?_
  · exact fun _ => ⟨rfl, rfl, rfl, rfl, rfl, rfl, rfl, id⟩
  refine .bind (resubscribe_built zclientCommandSubscribe_built) fun _ => .ite (.pure _) ?_
  refine .bind (resubscribe_built zclientConfigSubscribe_built) fun _ => .ite (.pure _) ?_
  refine .bind (.replayFailedACK rfl) fun _ => .ite (.pure _) ?_
  exact .bind (.replayFailedEvent rfl) fun _ => .ite (.pure _) (.pure _)

theorem zclientReconnect_built : Built b true (zclientReconnect b) := by
  refine .validated (.bind (.readClient _) fun _ => .ite (.pure _) ?_)
  refine .bind recordStartTime_built fun _ => .bind (.readClient _) fun _ => ?_
  refine .bind .getCurrentTime fun _ => .bind (.readClient _) fun _ => .ite (.pure _) ?_
  refine .bind closeStale_built fun _ => .bind zclientConnect_built fun _ => ?_
  exact .ite resumeSession_built backOff_built

theorem zclientFree_built : Built b r (zclientFree b) := by
  refine .bind (.readClient _) fun _ => .ite (.bind zclientDisconnect_built fun _ => ?_) ?_
  · exact .ite (.bind closeNetwork_built fun _ => .pure _) (.pure _)
  · exact .ite (.bind closeNetwork_built fun _ => .pure _) (.pure _)

theorem getOTAStatus_built : Built b r getOTAStatus :=
  .act fun _ _ => .of_effects (by simp [Effect.isPlain]) (by simp)

theorem zclientOtaHandler_built (onOTA : Option ℕ) : Built b r (zclientOtaHandler onOTA) := by
  refine .ite (.pure _) (.bind (.modifyClient ?_ fun _ => rfl) fun _ => .pure _)
  exact fun _ => ⟨rfl, rfl, rfl, rfl, rfl, rfl, rfl, id⟩

theorem otaFailure_built (correlationId : CStringPtr) (responseMessage : String) :
    Built b r (otaFailure b correlationId responseMessage) :=
  .bind (zclientPublishOTAAck_built _ _ _) fun _ => .pure _

theorem handleOTA_built (payload : CString) : Built b r (handleOTA b payload) := by
  unfold handleOTA
  split
  · exact .pure _
  · refine .ite ?_ (.pure _)
    split
    · exact .pure _
    · exact otaFailure_built _ _
    · refine .bind (.readClient _) fun _ => .ite (otaFailure_built _ _) ?_
      split
      · exact otaFailure_built _ _
      · exact .fault
      · exact .ite (otaFailure_built _ _) (.ask (fun _ => rfl) (by simp))

theorem uploadLogs_built : Built b r (uploadLogs b) := by
  refine .ite (.bind (.act fun _ _ => ?_) fun _ => .pure _) (.pure _)
  exact .of_effects (by simp) (by simp)

theorem handleCloudLogging_built (payload : CString) :
    Built b r (handleCloudLogging b payload) := by
  refine .bind (.modifyClient ?_ fun _ => rfl) fun _ => ?_
  · exact fun _ => ⟨rfl, rfl, rfl, rfl, rfl, rfl, rfl, id⟩
  refine .bind uploadLogs_built fun result => ?_
  refine .bind (publishProcessedAck_built .command _ _ _) fun _ => .modifyClient ?_ fun _ => rfl
  exact fun _ => ⟨rfl, rfl, rfl, rfl, rfl, rfl, rfl, id⟩

theorem spawnPublish_built (topic : ZohoIOTclient → CString) (payload : CString) :
    Built b r (spawnPublish topic payload) := by
  refine .act fun w s => .of_effects ?_ ?_
  · intro e he
    split at he
    · rw [List.mem_singleton.mp he]
      rfl
    · simp at he
  · intro e he name
    split at he
    · rw [List.mem_singleton.mp he]
      simp
    · simp at he

theorem route_built (dest : Destination) : Built b r (route dest) := .ask (fun _ => rfl) (by simp)

theorem callHandler_built (handler : ZohoIOTclient → Option ℕ) (dest : Destination) :
    Built b r (callHandler handler dest) :=
  .bind (.readClient _) fun _ => .ite (route_built _) (route_built _)

theorem routeCommand_built (payload : CString) : Built b r (routeCommand b payload) := by
  refine .bind getOTAStatus_built fun _ => .ite ?_ ?_
  · exact .bind (route_built _) fun _ => handleOTA_built _
  · refine .bind (.readClient _) fun _ => .ite ?_ (callHandler_built _ _)
    exact .bind (route_built _) fun _ => handleCloudLogging_built _

theorem processMessageReceived_built (topic : CString) (message : List Char) :
    Built b r (processMessageReceived b topic message) := by
  refine .bind (.readClient _) fun _ => .ite ?_ ?_
  · refine .bind (generateACKPayload_built _ _ _) fun ack => ?_
    split
    · exact .pure _
    · exact .bind (spawnPublish_built _ _) fun _ => routeCommand_built _
  · refine .bind (.readClient _) fun _ => .ite ?_ (.pure _)
    refine .bind (generateACKPayload_built _ _ _) fun ack => ?_
    split
    · exact .pure _
    · exact .bind (spawnPublish_built _ _) fun _ => callHandler_built _ _

/-- Every call other than `zclient_init` is built from the blocks, and only
`zclient_reconnect` needs the replays. -/
theorem Call.built (call : Call) (h : ∀ args, call ≠ .init args)
    (hr : call = .reconnect → r = true) : Built b r (call.prog b) := by
  cases call with
  | init args => exact absurd rfl (h args)
  | free => exact .discard zclientFree_built
  | setTls state => exact .modifyGlobals _
  | setClientCerts state => exact .modifyGlobals _
  | setAgentNameandVersion name version =>
    exact .discard (.ite (.bind (.modifyGlobals _) fun _ => .pure _) (.pure _))
  | setPlatformName platformName =>
    exact .discard (.ite (.bind (.modifyGlobals _) fun _ => .pure _) (.pure _))
  | setMaxPayloadSize size => exact .discard (zclientSetMaxPayloadSize_built size)
  | addConnectionParameter key value =>
    show Built b r (zclientAddConnectionParameter key value)
    unfold zclientAddConnectionParameter
    exact .modifyClient (fun _ => ⟨rfl, rfl, rfl, rfl, rfl, rfl, rfl, id⟩) fun _ => rfl
  | connect => exact .discard zclientConnect_built
  | disconnect => exact .discard zclientDisconnect_built
  | reconnect =>
    rw [hr rfl]
    exact .discard zclientReconnect_built
  | yield timeOut => exact .discard (zclientYield_built timeOut)
  | commandSubscribe onMessage => exact .discard (zclientCommandSubscribe_built onMessage)
  | configSubscribe onMessage => exact .discard (zclientConfigSubscribe_built onMessage)
  | otaHandler onOTA => exact .discard (zclientOtaHandler_built onOTA)
  | addNumber key value assetName => exact .discard (addToPayload_built _ _ _ _)
  | addString key value assetName => exact .discard (addToPayload_built _ _ _ _)
  | addObject key object assetName => exact .discard (addToPayload_built _ _ _ _)
  | markDataPointAsError key assetName => exact .discard (addToPayload_built _ _ _ _)
  | publish payload => exact .discard (zclientPublish_built payload)
  | dispatch => exact .discard zclientDispatch_built
  | addEventDataNumber key value => exact .discard (addEventData_built _ _ _)
  | addEventDataString key value => exact .discard (addEventData_built _ _ _)
  | addEventDataObject key object => exact .discard (addEventData_built _ _ _)
  | dispatchEventFromJSONString _ _ _ _ =>
    exact .discard (zclientDispatchEventFromJSONString_built _ _ _ _)
  | dispatchEventFromEventDataObject _ _ _ =>
    exact .discard (zclientDispatchEventFromEventDataObject_built _ _ _)
  | publishCommandAck _ _ _ => exact .discard (publishProcessedAck_built .command _ _ _)
  | publishConfigAck _ _ _ => exact .discard (publishProcessedAck_built .config _ _ _)
  | publishOTAAck _ _ _ => exact .discard (zclientPublishOTAAck_built _ _ _)
  | formReceivedACK payload => exact .discard (generateACKPayload_built _ _ _)
  | publishMessage topic payload => exact .discard (.publishMessage rfl _ _)
  | getOTAStatus => exact .discard getOTAStatus_built
  | getCloudLoggingStatus => exact .discard (.readClient _)
  | handleOTA payload => exact handleOTA_built payload
  | handleCloudLogging payload => exact handleCloudLogging_built payload
  | processMessageReceived topic message => exact processMessageReceived_built topic message
  | publishReceivedAck topic payload => exact .discard (.publishMessage rfl _ _)

theorem callSequence_built {calls : List Call} (h : ∀ call ∈ calls, Built b r (call.prog b)) :
    Built b r (callSequence b calls) := by
  induction calls with
  | nil => exact .pure _
  | cons call calls ih =>
    refine .bind (h call (List.mem_cons_self ..)) fun _ => ?_
    exact ih fun call' hcall => h call' (List.mem_cons_of_mem _ hcall)

end Functions

/-! ## Interleavings -/

/-- The state is what the events make of the state at the beginning. -/
def Tracks {τ : Type} (s : Sdk) (W : Atomic.World τ Sdk Effect) : Prop :=
  SdkStep s W.state (W.trace.map Prod.snd)

/-- In every interleaving of programs built from the blocks, the events account for the
state. -/
theorem tracks_of_reaches {τ : Type} [DecidableEq τ] {b : Build}
    {C : Atomic.Config.Condition τ Sdk Effect} {c c' : Atomic.Config τ Sdk Answer Effect}
    (hreach : c.Reaches C c') (hbuilt : ∀ t, ∃ r, Built b r (c.pool t))
    (hstart : c.world.trace = []) :
    Tracks c.world.state c'.world := by
  have hsteps : ∀ t, (c.pool t).Steps SdkStep := by
    intro t
    obtain ⟨r, hr⟩ := hbuilt t
    exact Prog.steps_mono hr.steps fun _ _ _ h => h.1
  obtain ⟨-, new, htrace, hnew⟩ := Atomic.Config.steps_of_reaches .refl
    (fun _ _ _ _ _ h h' => h.trans h') hreach hsteps
  rw [hstart, List.nil_append] at htrace
  rw [Tracks, htrace]
  exact hnew

/-! ## Initialisation -/

/-- What `zclient_init` leaves in the retry slots: what was there, or nothing. -/
structure RetrySlots where
  retryACK : Bool
  failedACK : ZfailedACK
  retryEvent : Bool
  failedEvent : ZfailedEvent

/-- The retry slots of a client. -/
def ZohoIOTclient.retrySlots (c : ZohoIOTclient) : RetrySlots :=
  ⟨c.retryACK, c.failedACK, c.retryEvent, c.failedEvent⟩

/-- Writing the topics keeps every field that none of them sets. -/
theorem writeTopics_keeps {α : Type} (f : ZohoIOTclient → α) (clientId : CString)
    (writes : List ((ZohoIOTclient → CString → ZohoIOTclient) × CString))
    (h : ∀ x ∈ writes, ∀ c t, f (x.1 c t) = f c) (c : ZohoIOTclient) :
    f (writeTopics clientId writes c).2 = f c := by
  induction writes generalizing c with
  | nil => rfl
  | cons x writes ih =>
    have hset := h x (List.mem_cons_self ..)
    have hrest := ih fun y hy => h y (List.mem_cons_of_mem _ hy)
    unfold writeTopics
    split
    · exact hset _ _
    · rw [hrest]
      exact hset _ _

/-- The slots that `zclient_init` may leave, given those before it and its result. -/
def InitSlots (before : RetrySlots) (rc : ℤ) (after : RetrySlots) : Prop :=
  after = ⟨false, {}, false, {}⟩ ∨ (rc ≠ zsuccess ∧ after = before)

theorem zfailure_ne_zsuccess : zfailure ≠ zsuccess := by decide

/-- The initialisation empties the slots, or it fails and leaves them. -/
theorem initClient_slots (b : Build) (args : InitArgs) (w : Answer) (config : Zconfig) (s : Sdk) :
    InitSlots s.client.retrySlots (initClient b args w config s).1
      (initClient b args w config s).2.client.retrySlots := by
  unfold initClient initFields
  simp only []
  split
  · exact .inr ⟨zfailure_ne_zsuccess, rfl⟩
  · left
    split
    · rfl
    · rfl

/-- The initialisation sets the default size of the buffer. -/
theorem initClient_payloadSize (b : Build) (args : InitArgs) (w : Answer) (config : Zconfig)
    (s : Sdk) :
    (initClient b args w config s).2.client.config.payloadSize = defaultPayloadSize := by
  unfold initClient initFields
  simp only []
  split
  · rfl
  · split
    · rfl
    · rfl

/-- Every return of `zclient_init` leaves the slots as they were or empty; a successful one
leaves them empty. -/
theorem initSdk_slots (b : Build) (args : InitArgs) (w : Answer) (s : Sdk) :
    InitSlots s.client.retrySlots (initSdk b args w s).1
      (initSdk b args w s).2.client.retrySlots := by
  have htopics : ∀ clientId c, (writeTopics clientId topicWrites c).2.retrySlots = c.retrySlots :=
    fun clientId => writeTopics_keeps _ clientId topicWrites (by
      simp [topicWrites, ZohoIOTclient.retrySlots])
  -- the early returns come before anything is written to the slots
  unfold initSdk
  split
  · exact .inr ⟨zfailure_ne_zsuccess, rfl⟩
  · rename_i config _
    simp only []
    split
    · exact .inr ⟨zfailure_ne_zsuccess, htopics _ _⟩
    · have h := initClient_slots b args w config { s with client :=
        (writeTopics (config.clientId.getD []) topicWrites
          { s.client with zretryInterval := minRetryInterval }).2 }
      rw [htopics] at h
      exact h

/-- An initialisation does not make the size of the buffer negative. -/
theorem initSdk_payloadSize (b : Build) (args : InitArgs) (w : Answer) (s : Sdk)
    (h : 0 ≤ s.client.config.payloadSize) :
    0 ≤ (initSdk b args w s).2.client.config.payloadSize := by
  have hconfig : ∀ clientId c, (writeTopics clientId topicWrites c).2.config = c.config :=
    fun clientId => writeTopics_keeps _ clientId topicWrites (by simp [topicWrites])
  unfold initSdk
  split
  · exact h
  · simp only []
    split
    · rw [hconfig]
      exact h
    · rw [initClient_payloadSize]
      decide

end ZohoIotSdk
