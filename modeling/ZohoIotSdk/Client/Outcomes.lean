import ZohoIotSdk.Client.Connection

/-!
# What the blocks that touch the retry slots can do

Four parts of the SDK write the retry slots: the end of the three ACK functions, the end
of the event dispatch, and the two replays of `zclient_reconnect`. For each one, an
inductive predicate lists its possible outcomes, run without interruption: the result, the
effects and the state.
-/

namespace ZohoIotSdk

open Atomic (Prog)

/-- The topic on which an ACK of that kind is sent. -/
def AckKind.topic : AckKind → ZohoIOTclient → CString
  | .command => (·.commandAckTopic)
  | .config => (·.configAckTopic)
  | .ota => (·.commandAckTopic)

/-! ## The states they leave -/

/-- The client after an ACK was retained. -/
def Sdk.withFailedACK (s : Sdk) (doc : CJson) (topic : CString) : Sdk :=
  { s with client := { s.client with
      currentState := .disconnected
      failedACK := { topic := topic, ackPayload := some doc }
      retryACK := true } }

/-- The client after the retained ACK was dropped. -/
def Sdk.withoutFailedACK (s : Sdk) : Sdk :=
  { s with client := { s.client with
      failedACK := { s.client.failedACK with ackPayload := none }
      retryACK := false } }

/-- The client after an event was retained. -/
def Sdk.withFailedEvent (s : Sdk) (st : ZclientConnectionState) (doc : CJson) (time : UInt64) :
    Sdk :=
  { s with client := { s.client with
      currentState := st
      failedEvent := { eventPayloadTime := time, eventPayload := some doc }
      retryEvent := true } }

/-- The client after the retained event was dropped. -/
def Sdk.withoutFailedEvent (s : Sdk) : Sdk :=
  { s with client := { s.client with
      failedEvent := { s.client.failedEvent with eventPayload := none }
      retryEvent := false } }

/-! ## Sending -/

/-- What publishing an ACK can do: it is sent; it is refused with the connection up; or it
is retained. -/
inductive AckOutcome (kind : AckKind) (doc : CJson) (topic : CString) (s : Sdk) :
    ℤ → List Effect → Sdk → Prop
  | sent : AckOutcome kind doc topic s zsuccess
      [.publish (.ack kind doc) topic (cJSONPrint doc) zsuccess] s
  | refused {rc : ℤ} (hrc : rc ≠ zsuccess) : AckOutcome kind doc topic s rc
      [.publish (.ack kind doc) topic (cJSONPrint doc) rc, .transport true] s
  | retained {rc : ℤ} (hrc : rc ≠ zsuccess) : AckOutcome kind doc topic s rc
      [.publish (.ack kind doc) topic (cJSONPrint doc) rc, .transport false,
        .storeACK kind doc topic] (s.withFailedACK doc topic)

/-- Every run of `publishAck` has one of the listed outcomes. -/
theorem publishAck_cases {b : Build} {kind : AckKind} {doc : CJson} {s s' : Sdk} {rc : ℤ}
    {es : List Effect} (h : (publishAck b kind kind.topic doc).Exec s rc es s') :
    AckOutcome kind doc (kind.topic s.client) s rc es s' := by
  refine Prog.Exec.of_wlp ?_ h
  unfold publishAck publishMessage storeFailedACK
  simp only [Prog.wlp_bind, Prog.wlp_act, Prog.wlp_ite, Prog.wlp_pure, wlp_transportConnected,
    wlp_setCurrentState]
  intro w
  split
  · rename_i hrc
    rw [hrc]
    exact .sent
  · rename_i hrc
    intro w'
    cases hconn : w'.connected with
    | true => exact .refused hrc
    | false =>
      intro _
      rw [cJSONDuplicate_eq]
      -- each kind reads a topic that the new state leaves alone
      cases kind <;> exact .retained hrc

/-- What publishing an event can do: it is sent, or retained with the time of the failure,
whether or not the connection is lost. -/
inductive EventOutcome (assetName : CStringPtr) (doc : CJson) (s : Sdk) :
    ℤ → List Effect → Sdk → Prop
  | sent : EventOutcome assetName doc s zsuccess
      [.publish (.event assetName doc) s.client.eventTopic
        (cJSONPrint (eventDispatchObject assetName doc)) zsuccess] s
  | retained {rc : ℤ} (hrc : rc ≠ zsuccess) (connected : Bool) (st : ZclientConnectionState)
      (time : UInt64) : EventOutcome assetName doc s rc
      [.publish (.event assetName doc) s.client.eventTopic
        (cJSONPrint (eventDispatchObject assetName doc)) rc,
        .transport connected, .storeEvent doc time] (s.withFailedEvent st doc time)

/-- Every run of `publishEvent` has one of the listed outcomes. -/
theorem publishEvent_cases {b : Build} {assetName : CStringPtr} {doc : CJson} {s s' : Sdk}
    {rc : ℤ} {es : List Effect} (h : (publishEvent b assetName doc).Exec s rc es s') :
    EventOutcome assetName doc s rc es s' := by
  refine Prog.Exec.of_wlp ?_ h
  unfold publishEvent publishMessage storeFailedEvent
  simp only [Prog.wlp_bind, Prog.wlp_act, Prog.wlp_ite, Prog.wlp_pure, wlp_transportConnected,
    wlp_setCurrentState]
  intro w
  split
  · rename_i hrc
    rw [hrc]
    exact .sent
  · rename_i hrc
    intro w'
    -- the two branches on the transport differ in the state of the client only
    split
    · intro w''
      rw [cJSONDuplicate_eq]
      exact .retained hrc w'.connected s.client.currentState w''.time
    · intro w''
      rw [cJSONDuplicate_eq]
      exact .retained hrc w'.connected .disconnected w''.time

/-! ## Replaying -/

/-- What the replay of the retained ACK can do: nothing to replay; nothing to serialise; it
is sent and dropped; or it is refused and stays. -/
inductive ReplayACKOutcome (s : Sdk) : Bool → List Effect → Sdk → Prop
  | idle (hflag : s.client.retryACK = false) : ReplayACKOutcome s true [] s
  | empty (hdoc : s.client.failedACK.ackPayload = none) :
      ReplayACKOutcome s false [.serializeACK none] s
  | sent {doc : CJson} (hdoc : s.client.failedACK.ackPayload = some doc) :
      ReplayACKOutcome s true
        [.serializeACK (some doc),
          .publish (.replayACK doc) s.client.failedACK.topic (cJSONPrint doc) zsuccess,
          .clearACK (some doc)] s.withoutFailedACK
  | refused {doc : CJson} (hdoc : s.client.failedACK.ackPayload = some doc) {rc : ℤ}
      (hrc : rc ≠ zsuccess) : ReplayACKOutcome s true
        [.serializeACK (some doc),
          .publish (.replayACK doc) s.client.failedACK.topic (cJSONPrint doc) rc] s

/-- Every replay of the failed ACK has one of the listed outcomes. -/
theorem replayFailedACK_cases {b : Build} {s s' : Sdk} {done : Bool} {es : List Effect}
    (h : (replayFailedACK b).Exec s done es s') : ReplayACKOutcome s done es s' := by
  refine Prog.Exec.of_wlp ?_ h
  unfold replayFailedACK publishMessage serializeFailedACK clearFailedACK
  simp only [Prog.wlp_bind, Prog.wlp_act, Prog.wlp_ite, Prog.wlp_pure, wlp_readClient]
  split
  · rename_i hflag
    exact .idle hflag
  · intro _
    cases hdoc : s.client.failedACK.ackPayload with
    | none => exact .empty hdoc
    | some doc =>
      simp only [Prog.wlp_bind, Prog.wlp_act, Prog.wlp_ite, Prog.wlp_pure]
      intro w
      split
      · rename_i hrc
        intro _
        rw [hrc, hdoc]
        exact .sent hdoc
      · rename_i hrc
        exact .refused hdoc hrc

/-- What the replay of the retained event can do. -/
inductive ReplayEventOutcome (s : Sdk) : Bool → List Effect → Sdk → Prop
  | idle (hflag : s.client.retryEvent = false) : ReplayEventOutcome s true [] s
  | expired {now : UInt64} (hflag : s.client.retryEvent = true)
      (hnow : s.client.failedEvent.eventPayloadTime + 300 < now) :
      ReplayEventOutcome s true
        [.expiryTest s.client.failedEvent.eventPayload now true,
          .clearEvent s.client.failedEvent.eventPayload] s.withoutFailedEvent
  | empty {now : UInt64} (hflag : s.client.retryEvent = true)
      (hdoc : s.client.failedEvent.eventPayload = none) :
      ReplayEventOutcome s false [.expiryTest none now false, .serializeEvent none] s
  | sent {now : UInt64} {doc : CJson} (hflag : s.client.retryEvent = true)
      (hnow : ¬ s.client.failedEvent.eventPayloadTime + 300 < now)
      (hdoc : s.client.failedEvent.eventPayload = some doc) :
      ReplayEventOutcome s true
        [.expiryTest (some doc) now false, .serializeEvent (some doc),
          .publish (.replayEvent doc) s.client.eventTopic (cJSONPrint doc) zsuccess,
          .clearEvent (some doc)] s.withoutFailedEvent
  | refused {now : UInt64} {doc : CJson} (hflag : s.client.retryEvent = true)
      (hnow : ¬ s.client.failedEvent.eventPayloadTime + 300 < now)
      (hdoc : s.client.failedEvent.eventPayload = some doc) {rc : ℤ} (hrc : rc ≠ zsuccess) :
      ReplayEventOutcome s true
        [.expiryTest (some doc) now false, .serializeEvent (some doc),
          .publish (.replayEvent doc) s.client.eventTopic (cJSONPrint doc) rc] s

/-- Every replay of the failed event has one of the listed outcomes. -/
theorem replayFailedEvent_cases {b : Build} {s s' : Sdk} {done : Bool} {es : List Effect}
    (h : (replayFailedEvent b).Exec s done es s') : ReplayEventOutcome s done es s' := by
  refine Prog.Exec.of_wlp ?_ h
  unfold replayFailedEvent eventExpired publishMessage serializeFailedEvent clearFailedEvent
  simp only [Prog.wlp_bind, Prog.wlp_act, Prog.wlp_ite, Prog.wlp_pure, wlp_readClient]
  split
  · rename_i hflag
    exact .idle hflag
  · rename_i hflag
    rw [Bool.not_eq_false] at hflag
    intro w
    by_cases hnow : s.client.failedEvent.eventPayloadTime + 300 < w.time
    · simp only [hnow, decide_true, if_true]
      intro _
      exact .expired hflag hnow
    · simp only [hnow, decide_false, Bool.false_eq_true, if_false]
      intro _
      cases hdoc : s.client.failedEvent.eventPayload with
      | none => exact .empty hflag hdoc
      | some doc =>
        simp only [Prog.wlp_bind, Prog.wlp_act, Prog.wlp_ite, Prog.wlp_pure]
        intro w'
        split
        · rename_i hrc
          intro _
          rw [hrc, hdoc]
          exact .sent hflag hnow hdoc
        · rename_i hrc
          exact .refused hflag hnow hdoc hrc

end ZohoIotSdk
