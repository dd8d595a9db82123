import ZohoIotSdk.Client.Outcomes
import ZohoIotSdk.Calls

/-!
# Dispatching the staged data

What `zclient_dispatch` and the two event dispatchers can do, as lists of outcomes.
`refused_dispatch_iff` is about a client that is not connected: a refused `zclient_dispatch`
keeps the staged telemetry, but a refused event dispatch drops the staged event data.
-/

namespace ZohoIotSdk

open Atomic (Prog)

/-! ## Outcomes -/

/-- The result of a dispatch by a client that is not connected. -/
def refusalCode (c : ZohoIOTclient) : ℤ :=
  if clientStateCode c ≠ 0 then clientStateCode c else zfailure

/-- The functions that check the state of the client and then want a connection. -/
theorem exec_guarded {p : ClientM ℤ} {s s' : Sdk} {rc : ℤ} {es : List Effect}
    (h : (do
      let rc ← validateClientState
      if rc ≠ 0 then pure rc
      else do
        let state ← readClient (·.currentState)
        if state ≠ .connected then pure zfailure else p : ClientM ℤ).Exec s rc es s') :
    (s.client.currentState ≠ .connected ∧ rc = refusalCode s.client ∧ es = [] ∧ s' = s) ∨
      (s.client.currentState = .connected ∧ p.Exec s rc es s') := by
  rw [validateClientState, exec_readClient_bind] at h
  split at h
  · rename_i hcode
    rcases h with ⟨rfl, rfl, rfl⟩
    refine .inl ⟨fun hstate => hcode ?_, by rw [refusalCode, if_pos hcode], rfl, rfl⟩
    simp [clientStateCode, hstate, zsuccess]
  · rename_i hcode
    rw [exec_readClient_bind] at h
    split at h
    · rename_i hstate
      rcases h with ⟨rfl, rfl, rfl⟩
      exact .inl ⟨hstate, by rw [refusalCode, if_neg hcode], rfl, rfl⟩
    · rename_i hstate
      exact .inr ⟨not_not.mp hstate, h⟩

/-- The client without staged telemetry. -/
def Sdk.dropData (s : Sdk) : Sdk := { s with client := { s.client with messageData := none } }

/-- The client with new staged event data. -/
def Sdk.freshEventData (s : Sdk) : Sdk :=
  { s with client := { s.client with eventDataObject := some cJSONCreateObject } }

/-- What `zclient_dispatch` can do. -/
inductive DispatchOutcome (b : Build) (s : Sdk) : ℤ → List Effect → Sdk → Prop
  | refused (hstate : s.client.currentState ≠ .connected) :
      DispatchOutcome b s (refusalCode s.client) [] s
  | empty (hstate : s.client.currentState = .connected) (hdata : s.client.messageData = none) :
      DispatchOutcome b s zfailure [] s
  | published {tree : CJson} {rc : ℤ} {es : List Effect} {s' : Sdk}
      (hstate : s.client.currentState = .connected) (hdata : s.client.messageData = some tree)
      (hpublish : (zclientPublish b (cJSONPrint tree)).Exec s rc es s') :
      DispatchOutcome b s rc es s'.dropData

/-- Every run of `zclient_dispatch` has one of the listed outcomes. -/
theorem dispatch_cases {b : Build} {s s' : Sdk} {rc : ℤ} {es : List Effect}
    (h : (zclientDispatch b).Exec s rc es s') : DispatchOutcome b s rc es s' := by
  rcases exec_guarded h with ⟨hstate, rfl, rfl, rfl⟩ | ⟨hstate, h⟩
  · exact .refused hstate
  · rw [exec_readClient_bind] at h
    cases hdata : s.client.messageData with
    | none =>
      rw [hdata] at h
      rcases h with ⟨rfl, rfl, rfl⟩
      exact .empty hstate hdata
    | some tree =>
      rw [hdata] at h
      obtain ⟨status, es₁, s₁, es₂, hpublish, hend, rfl⟩ := Prog.exec_bind.mp h
      rw [exec_modifyClient_bind] at hend
      rcases hend with ⟨rfl, rfl, rfl⟩
      rw [List.append_nil]
      exact .published hstate hdata hpublish

/-- What `zclient_dispatchEventFromJSONString` can do. -/
inductive EventDispatchOutcome (b : Build) (eventType eventDescription json assetName : CStringPtr)
    (s : Sdk) : ℤ → List Effect → Sdk → Prop
  | refused (hstate : s.client.currentState ≠ .connected) :
      EventDispatchOutcome b eventType eventDescription json assetName s (refusalCode s.client) [] s
  /-- The text cannot be parsed, or an argument is missing. -/
  | rejected (hstate : s.client.currentState = .connected) :
      EventDispatchOutcome b eventType eventDescription json assetName s zfailure [] s
  | published {data : CJson} {timeVal : CStringPtr} {rc : ℤ} {es : List Effect} {s' : Sdk}
      (hstate : s.client.currentState = .connected) (hdata : json.bind cJSONParse = some data)
      (hpublish : EventOutcome assetName (makeEventObject eventType eventDescription timeVal data) s
        rc es s') :
      EventDispatchOutcome b eventType eventDescription json assetName s rc es s'

/-- Every dispatch of an event from JSON has one of the listed outcomes. -/
theorem dispatchEvent_cases {b : Build} {eventType eventDescription json assetName : CStringPtr}
    {s s' : Sdk} {rc : ℤ} {es : List Effect}
    (h : (zclientDispatchEventFromJSONString b eventType eventDescription json assetName).Exec
      s rc es s') :
    EventDispatchOutcome b eventType eventDescription json assetName s rc es s' := by
  rcases exec_guarded h with ⟨hstate, rfl, rfl, rfl⟩ | ⟨hstate, h⟩
  · exact .refused hstate
  · split at h
    · rcases h with ⟨rfl, rfl, rfl⟩
      exact .rejected hstate
    · rename_i data hdata
      rcases h with ⟨w, es₁, rfl, h⟩
      split at h
      · rcases h with ⟨rfl, rfl, rfl⟩
        exact .rejected hstate
      · exact .published hstate hdata (publishEvent_cases h)

/-- `zclient_dispatchEventFromEventDataObject` starts the staged event data anew, unless the
client was never initialised. -/
theorem dispatchEventObject_cases {b : Build} {eventType eventDescription assetName : CStringPtr}
    {s s' : Sdk} {rc : ℤ} {es : List Effect}
    (h : (zclientDispatchEventFromEventDataObject b eventType eventDescription assetName).Exec
      s rc es s') :
    (clientStateCode s.client ≠ 0 ∧ rc = clientStateCode s.client ∧ es = [] ∧ s' = s) ∨
    ∃ s₁, clientStateCode s.client = 0 ∧ EventDispatchOutcome b eventType eventDescription
      (s.client.eventDataObject.map cJSONPrint) assetName s rc es s₁ ∧ s' = s₁.freshEventData := by
  rw [zclientDispatchEventFromEventDataObject, validateClientState, exec_readClient_bind] at h
  split at h
  · rename_i hcode
    rcases h with ⟨rfl, rfl, rfl⟩
    exact .inl ⟨hcode, rfl, rfl, rfl⟩
  · rename_i hcode
    rw [exec_readClient_bind] at h
    obtain ⟨rc₁, es₁, s₁, es₂, hdispatch, hend, rfl⟩ := Prog.exec_bind.mp h
    rw [exec_modifyClient_bind] at hend
    rcases hend with ⟨rfl, rfl, rfl⟩
    rw [List.append_nil]
    exact .inr ⟨s₁, not_not.mp hcode, dispatchEvent_cases hdispatch, rfl⟩

/-! ## Refused dispatches -/

/-- For every client that is `INITIALIZED` or `DISCONNECTED`, whatever is staged and for all
arguments: that both dispatches return `ZFAILURE` and leave the data they are about as it was is
so if and only if the staged event data is an empty object. -/
theorem refused_dispatch_iff (b : Build) {s : Sdk}
    (hstate : s.client.currentState = .initialized ∨ s.client.currentState = .disconnected)
    {rc : ℤ} {es : List Effect} {s' : Sdk} (hdispatch : (zclientDispatch b).Exec s rc es s')
    {eventType eventDescription assetName : CStringPtr} {rc₁ : ℤ} {es₁ : List Effect} {s₁ : Sdk}
    (hevent : (zclientDispatchEventFromEventDataObject b eventType eventDescription assetName).Exec
      s rc₁ es₁ s₁) :
    (rc = zfailure ∧ s'.client.messageData = s.client.messageData ∧
      rc₁ = zfailure ∧ s₁.client.eventDataObject = s.client.eventDataObject) ↔
    s.client.eventDataObject = some cJSONCreateObject := by
  have hconnected : s.client.currentState ≠ .connected := by
    rcases hstate with h | h <;> simp [h]
  have hcode : clientStateCode s.client = 0 := by
    rcases hstate with h | h <;> simp [clientStateCode, h, zsuccess]
  have hrefusal : refusalCode s.client = zfailure := by simp [refusalCode, hcode]
  have htelemetry : rc = zfailure ∧ s' = s := by
    cases dispatch_cases hdispatch with
    | refused _ => exact ⟨hrefusal, rfl⟩
    | empty h _ | published h _ _ => exact absurd h hconnected
  have hdropped : rc₁ = zfailure ∧ s₁.client.eventDataObject = some cJSONCreateObject := by
    rcases dispatchEventObject_cases hevent with ⟨hne, -⟩ | ⟨s₂, -, houtcome, rfl⟩
    · exact absurd hcode hne
    · cases houtcome with
      | refused _ => exact ⟨hrefusal, rfl⟩
      | rejected h | published h _ _ => exact absurd h hconnected
  obtain ⟨rfl, rfl⟩ := htelemetry
  obtain ⟨rfl, hfresh⟩ := hdropped
  simp only [hfresh, true_and, eq_comm]

/-- The refused event dispatch ends, with new staged event data. -/
theorem exec_dispatchEventObject_refused (b : Build) {s : Sdk}
    (hcode : clientStateCode s.client = 0) (hstate : s.client.currentState ≠ .connected)
    (eventType eventDescription assetName : CStringPtr) :
    (zclientDispatchEventFromEventDataObject b eventType eventDescription assetName).Exec
      s zfailure [] s.freshEventData := by
  have hinner : ∀ json, (zclientDispatchEventFromJSONString b eventType eventDescription json
      assetName).Exec s zfailure [] s := by
    intro json
    rw [zclientDispatchEventFromJSONString, validateClientState, exec_readClient_bind, hcode,
      if_neg (by simp), exec_readClient_bind, if_pos hstate]
    exact ⟨rfl, rfl, rfl⟩
  rw [zclientDispatchEventFromEventDataObject, validateClientState, exec_readClient_bind, hcode,
    if_neg (by simp), exec_readClient_bind]
  refine Prog.exec_bind.mpr ⟨zfailure, [], s, [], hinner _, ?_, rfl⟩
  rw [exec_modifyClient_bind]
  exact ⟨rfl, rfl, rfl⟩

/-- An object with one number. -/
def stagedObject : CJson :=
  putMember cJSONCreateObject "k".toList (some (cJSONCreateNumber (.ofInt 1)))

/-- The sample client with a number in its telemetry. -/
def stagedTelemetrySdk : Sdk :=
  { sampleSdk with client := { sampleSdk.client with messageData := some stagedObject } }

/-- A client that has never been connected, with telemetry and no event data: the telemetry is
kept. -/
theorem refused_dispatch_new : ∃ (rc rc₁ : ℤ) (es es₁ es₂ : List Effect) (s' s₁ : Sdk),
    (zclientAddNumber (some "k".toList) (.ofInt 1) none).Exec sampleSdk zsuccess es₂
      stagedTelemetrySdk ∧
    (zclientDispatch plainBuild).Exec stagedTelemetrySdk rc es s' ∧
    (zclientDispatchEventFromEventDataObject plainBuild (some "type".toList) (some "text".toList)
      none).Exec stagedTelemetrySdk rc₁ es₁ s₁ ∧
    s'.client.messageData = some stagedObject ∧
    rc = zfailure ∧ s'.client.messageData = stagedTelemetrySdk.client.messageData ∧
    rc₁ = zfailure ∧
      s₁.client.eventDataObject = stagedTelemetrySdk.client.eventDataObject := by
  have hadd : (zclientAddNumber (some "k".toList) (.ofInt 1) none).run [{}, {}] sampleSdk =
      some (zsuccess, [], stagedTelemetrySdk) := rfl
  have hrun : (zclientDispatch plainBuild).run [{}, {}, {}] stagedTelemetrySdk =
      some (zfailure, [], stagedTelemetrySdk) := rfl
  have hdispatch := Prog.exec_of_run hrun
  have hevent := exec_dispatchEventObject_refused plainBuild
    (show clientStateCode stagedTelemetrySdk.client = 0 from rfl) (by decide) (some "type".toList)
    (some "text".toList) none
  exact ⟨_, _, _, _, _, _, _, Prog.exec_of_run hadd, hdispatch, hevent, rfl,
    (refused_dispatch_iff plainBuild (.inl rfl) hdispatch hevent).mpr rfl⟩

/-- The sample client with a number in its event data. -/
def stagedEventSdk : Sdk :=
  { sampleSdk with client := { sampleSdk.client with eventDataObject := some stagedObject } }

/-- Event data that was staged before the client was connected: the refused dispatch drops
it. -/
theorem refused_dispatch_drops : ∃ (es es₁ : List Effect) (s₁ : Sdk),
    (zclientAddEventDataNumber (some "k".toList) (.ofInt 1)).Exec sampleSdk zsuccess es
      stagedEventSdk ∧
    stagedEventSdk.client.currentState = .initialized ∧
    (zclientDispatchEventFromEventDataObject plainBuild (some "type".toList) (some "text".toList)
      none).Exec stagedEventSdk zfailure es₁ s₁ ∧
    s₁.client.eventDataObject ≠ stagedEventSdk.client.eventDataObject := by
  have hadd : (zclientAddEventDataNumber (some "k".toList) (.ofInt 1)).run [{}] sampleSdk =
      some (zsuccess, [], stagedEventSdk) := rfl
  refine ⟨_, _, _, Prog.exec_of_run hadd, rfl,
    exec_dispatchEventObject_refused plainBuild rfl (by decide) _ _ _, fun heq => ?_⟩
  -- the number of members differs
  have hlength := congrArg (Option.map fun j => j.child.length) heq
  revert hlength
  decide +kernel

end ZohoIotSdk
