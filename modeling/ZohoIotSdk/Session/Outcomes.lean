import ZohoIotSdk.Blocks
import ZohoIotSdk.Session.Inert

/-!
# What the connection functions can do

For `zclient_connect`, `zclient_disconnect` and `zclient_reconnect`, an inductive predicate
lists the possible outcomes of a call: the result, what was emitted, and the state of the
client and its retry interval afterwards. The same for `zclient_init`, with the staged data,
and a lemma for `zclient_free`.
-/

namespace ZohoIotSdk

open Atomic (Prog)

/-- The client is in the state `st`, and its retry interval is as before. -/
structure Moves (s : Sdk) (st : ZclientConnectionState) (s' : Sdk) : Prop where
  state : s'.client.currentState = st
  interval : s'.client.zretryInterval = s.client.zretryInterval

/-- A library call that was answered by an error code. -/
def Effect.failed : Effect → Bool
  | .networkConnect _ rc | .mqttCreate rc | .mqttSetCallbacks rc | .mqttConnect _ rc
  | .mqttDisconnect rc | .subscribe _ rc | .yield rc | .publish _ _ _ rc => decide (rc ≠ 0)
  | _ => false

/-- An attempt to reach the server begins with this call. -/
def Effect.isAttempt : Effect → Bool
  | .networkConnect _ _ | .mqttCreate _ => true
  | _ => false

/-- The server accepted the MQTT connection. -/
def Effect.isAccept : Effect → Bool
  | .mqttConnect _ rc => decide (rc = 0)
  | _ => false

/-- The handle of the Paho C library is created, used or destroyed. -/
def Effect.isHandle : Effect → Bool
  | .mqttCreate _ | .mqttSetCallbacks _ | .mqttConnect _ _ | .mqttDestroy => true
  | _ => false

/-- How a network connection is closed. -/
def closeEffect (b : Build) : Effect := if b.pahoC then .mqttDestroy else .networkDisconnect

/-- Closing the network is one effect. -/
@[simp] theorem wlp_closeNetwork {b : Build} {Q : Unit → Sdk → List Effect → Prop} {s : Sdk}
    {tr : List Effect} : (closeNetwork b).wlp Q s tr ↔ Answer → Q () s (tr ++ [closeEffect b]) := by
  simp [closeNetwork, closeEffect]

/-! ## Disconnecting -/

/-- What `zclient_disconnect` emits: a session that is up is left, and unless the client was
only initialised its connection is closed. -/
inductive DisconnectEffects (b : Build) : ZclientConnectionState → List Effect → Prop
  | initialized : DisconnectEffects b .initialized []
  | connected (rc : ℤ) : DisconnectEffects b .connected [.mqttDisconnect rc, closeEffect b]
  | other {st : ZclientConnectionState} (hinit : st ≠ .initialized) (hconn : st ≠ .connected) :
      DisconnectEffects b st [closeEffect b]

/-- What a run of `zclient_disconnect` does. -/
theorem disconnect_cases {b : Build} {s s' : Sdk} {rc : ℤ} {es : List Effect}
    (h : (zclientDisconnect b).Exec s rc es s') :
    DisconnectEffects b s.client.currentState es ∧
      s' = { s with client := { s.client with currentState := .disconnected } } := by
  refine Prog.Exec.of_wlp (Q := fun _ es s' => DisconnectEffects b s.client.currentState es ∧
    s' = { s with client := { s.client with currentState := .disconnected } }) ?_ h
  unfold zclientDisconnect leaveSession
  simp only [Prog.wlp_bind, Prog.wlp_ite, Prog.wlp_pure, wlp_readClient, wlp_ask,
    wlp_closeNetwork, wlp_setCurrentState]
  cases hstate : s.client.currentState with
  | zeroed => exact fun _ => ⟨.other (by simp) (by simp), trivial⟩
  | initialized => exact ⟨.initialized, trivial⟩
  | connected => exact fun w _ => ⟨.connected w.rc, trivial⟩
  | disconnected => exact fun _ => ⟨.other (by simp) (by simp), trivial⟩

/-! ## Connecting -/

/-- What `zclient_connect` can do. -/
inductive ConnectOutcome (b : Build) (s : Sdk) : ℤ → List Effect → Sdk → Prop
  /-- The client was never initialised. -/
  | refused (hlive : ¬ Live s) : ConnectOutcome b s (-2) [] s
  | already (hstate : s.client.currentState = .connected) : ConnectOutcome b s zsuccess [] s
  /-- In the Paho C build only the library handle is concerned. -/
  | pahoC {rc : ℤ} {es : List Effect} {s' : Sdk} (hb : b.pahoC = true) (hlive : Live s)
      (hstate : s.client.currentState ≠ .connected)
      (hhandle : ∀ e ∈ es, e.isHandle = true) (hok : rc = 0 → ∀ e ∈ es, e.failed = false)
      (hattempt : s.client.currentState = .initialized → es.any Effect.isAttempt = true)
      (haccept : es.any Effect.isAccept = decide (rc = 0))
      (hmoves : Moves s (if rc = 0 then .connected else s.client.currentState) s') :
      ConnectOutcome b s rc es s'
  /-- The network connection could not be opened. -/
  | unreachable {port rc : ℤ} {s' : Sdk} (hb : b.pahoC = false) (hlive : Live s)
      (hstate : s.client.currentState ≠ .connected) (hrc : rc ≠ 0) (hrc' : rc ≠ -11)
      (hmoves : Moves s s.client.currentState s') :
      ConnectOutcome b s zfailure [.networkConnect port rc] s'
  /-- It could not be opened, and the code says that the device time has changed. -/
  | timeChanged {port : ℤ} {s' : Sdk} (hb : b.pahoC = false) (hlive : Live s)
      (hstate : s.client.currentState ≠ .connected) (hmoves : Moves s .disconnected s') :
      ConnectOutcome b s zfailure (.networkConnect port (-11) ::
        if s.client.currentState = .initialized then [] else [.networkDisconnect]) s'
  /-- The server refused the MQTT connection. -/
  | rejected {port rc : ℤ} {username : CString} {s' : Sdk} (hb : b.pahoC = false) (hlive : Live s)
      (hstate : s.client.currentState ≠ .connected) (hrc : rc ≠ 0)
      (hmoves : Moves s s.client.currentState s') :
      ConnectOutcome b s rc
        [.networkConnect port 0, .mqttConnect username rc, .networkDisconnect] s'
  | connected {port : ℤ} {username : CString} {s' : Sdk} (hb : b.pahoC = false) (hlive : Live s)
      (hstate : s.client.currentState ≠ .connected) (hmoves : Moves s .connected s') :
      ConnectOutcome b s zsuccess [.networkConnect port 0, .mqttConnect username 0] s'

/-- The end of `zclient_connect`, once the network connection or the handle is there. -/
def connectSession (b : Build) : ClientM ℤ := do
  let username ← connectionString
  let rc ← ask (fun w => .mqttConnect username w.rc) (·.rc)
  finishConnect b rc

/-- What it can do: the server accepts the client, or it refuses and the connection is
closed again. -/
theorem connectSession_cases {b : Build} {s s' : Sdk} {rc : ℤ} {es : List Effect}
    (h : (connectSession b).Exec s rc es s') : ∃ username,
    (rc = 0 ∧ es = [.mqttConnect username 0] ∧ Moves s .connected s') ∨
    (rc ≠ 0 ∧ Moves s s.client.currentState s' ∧ es = .mqttConnect username rc ::
      if b.pahoC = true ∧ s.client.currentState ≠ .initialized then [] else [closeEffect b]) := by
  refine Prog.Exec.of_wlp (Q := fun rc es s' => ∃ username,
    (rc = 0 ∧ es = [.mqttConnect username 0] ∧ Moves s .connected s') ∨
    (rc ≠ 0 ∧ Moves s s.client.currentState s' ∧ es = .mqttConnect username rc ::
      if b.pahoC = true ∧ s.client.currentState ≠ .initialized then [] else [closeEffect b])) ?_ h
  unfold connectSession connectionString finishConnect
  simp only [Prog.wlp_bind, Prog.wlp_act, Prog.wlp_ite, Prog.wlp_pure, wlp_readClient, wlp_ask,
    wlp_closeNetwork, wlp_setCurrentState, List.append_nil, List.nil_append]
  intro w w'
  split
  · rename_i hrc
    exact ⟨_, .inl ⟨hrc, by rw [hrc], rfl, rfl⟩⟩
  · rename_i hrc
    split
    · exact ⟨_, .inr ⟨hrc, ⟨rfl, rfl⟩, rfl⟩⟩
    · exact fun _ => ⟨_, .inr ⟨hrc, ⟨rfl, rfl⟩, rfl⟩⟩

/-- `zclient_disconnect` for a client that is not connected, in the embedded build. -/
theorem disconnectEffects_of_not_connected {b : Build} (hb : b.pahoC = false)
    {st : ZclientConnectionState} (hst : st ≠ .connected) {es : List Effect}
    (h : DisconnectEffects b st es) :
    es = if st = .initialized then [] else [.networkDisconnect] := by
  have hclose : closeEffect b = .networkDisconnect := by simp [closeEffect, hb]
  cases h with
  | initialized => rfl
  | connected rc => exact absurd rfl hst
  | other hinit hconn => rw [if_neg hinit, hclose]

/-- What a run of the connect does with the embedded client. -/
theorem connectEmbedded_cases {b : Build} (hb : b.pahoC = false) {s s' : Sdk} {rc : ℤ}
    {es : List Effect} (hlive : Live s) (hstate : s.client.currentState ≠ .connected)
    (h : (connectEmbedded b).Exec s rc es s') : ConnectOutcome b s rc es s' := by
  have hclose : closeEffect b = .networkDisconnect := by simp [closeEffect, hb]
  have hsession : connectEmbedded b = (do
      let buffSize ← readClient fun c => c.config.payloadSize.toNat
      modifyClient fun c => { c with config :=
        { c.config with mqttBuff := some buffSize, mqttReadBuff := some buffSize } }
      let rc ← Prog.act (fun _ s => s) (fun w s => [.networkConnect s.globals.zport w.rc])
        fun w _ => w.rc
      if rc ≠ zsuccess then
        if rc = -11 then do
          let _ ← zclientDisconnect b
          modifyClient fun c => { c with startTime := 0 }
          pure zfailure
        else pure zfailure
      else do
        modifyClient fun c => { c with mqttClient := { bufSize := buffSize } }
        connectSession b) := rfl
  refine Prog.Exec.of_wlp ?_ h
  rw [hsession]
  simp only [Prog.wlp_bind, Prog.wlp_act, Prog.wlp_ite, Prog.wlp_pure, wlp_readClient,
    wlp_modifyClient, List.nil_append]
  intro w
  split
  · rename_i hrc
    split
    · rename_i htime
      rw [Prog.wlp_iff, htime]
      intro _ es' s₁ hdisc
      obtain ⟨heffects, rfl⟩ := disconnect_cases hdisc
      rw [disconnectEffects_of_not_connected hb hstate heffects]
      exact .timeChanged hb hlive hstate ⟨rfl, rfl⟩
    · rename_i htime
      exact .unreachable hb hlive hstate hrc htime ⟨rfl, rfl⟩
  · rename_i hrc
    rw [Prog.wlp_iff, not_not.mp hrc]
    intro rc' es' s₁ hend
    obtain ⟨username, ⟨rfl, rfl, hmoves⟩ | ⟨hrc', hmoves, rfl⟩⟩ := connectSession_cases hend
    · exact .connected hb hlive hstate ⟨hmoves.state, hmoves.interval⟩
    · rw [if_neg (by simp [hb]), hclose]
      exact .rejected hb hlive hstate hrc' ⟨hmoves.state, hmoves.interval⟩

/-- What creating the handle of an initialised client can do. -/
theorem createHandle_cases {b : Build} {s s' : Sdk} {failed : Option ℤ} {es : List Effect}
    (h : (createHandle b).Exec s failed es s') :
    Moves s s.client.currentState s' ∧ (∀ e ∈ es, e.isHandle = true) ∧
    (∀ rc, failed = some rc → rc ≠ 0) ∧ (failed = none → ∀ e ∈ es, e.failed = false) ∧
    (s.client.currentState = .initialized → es.any Effect.isAttempt = true) ∧
    es.any Effect.isAccept = false := by
  refine Prog.Exec.of_wlp (Q := fun failed es s' =>
    Moves s s.client.currentState s' ∧ (∀ e ∈ es, e.isHandle = true) ∧
    (∀ rc, failed = some rc → rc ≠ 0) ∧ (failed = none → ∀ e ∈ es, e.failed = false) ∧
    (s.client.currentState = .initialized → es.any Effect.isAttempt = true) ∧
    es.any Effect.isAccept = false) ?_ h
  unfold createHandle Prog.modify
  simp only [Prog.wlp_bind, Prog.wlp_act, Prog.wlp_ite, Prog.wlp_pure, wlp_readClient, wlp_ask]
  split
  · intro _ w
    by_cases hrc : w.rc = 0
    · rw [if_neg (not_not.mpr hrc)]
      intro w'
      refine ⟨⟨rfl, rfl⟩, by simp [Effect.isHandle], ?_, ?_, fun _ => rfl, rfl⟩
      · by_cases hrc' : w'.rc = 0 <;> simp [hrc']
      · by_cases hrc' : w'.rc = 0 <;> simp [hrc, hrc', Effect.failed]
    · rw [if_pos hrc]
      exact ⟨⟨rfl, rfl⟩, by simp [Effect.isHandle], by simp [zfailure], by simp, fun _ => rfl, rfl⟩
  · rename_i hstate
    exact ⟨⟨rfl, rfl⟩, by simp, by simp, by simp, fun h => absurd h hstate, rfl⟩

/-- What a run of the connect does with the Paho C client. -/
theorem connectPahoC_cases {b : Build} (hb : b.pahoC = true) {s s' : Sdk} {rc : ℤ}
    {es : List Effect} (hlive : Live s) (hstate : s.client.currentState ≠ .connected)
    (h : (connectPahoC b).Exec s rc es s') : ConnectOutcome b s rc es s' := by
  have hclose : closeEffect b = .mqttDestroy := by simp [closeEffect, hb]
  obtain ⟨failed, es₁, s₁, es₂, hcreate, hrest, rfl⟩ := Prog.exec_bind.mp h
  obtain ⟨hmoves, hhandle, hne, hok, hattempt, haccept⟩ := createHandle_cases hcreate
  have hattempt' : s.client.currentState = .initialized →
      (es₁ ++ es₂).any Effect.isAttempt = true := by
    intro hinit
    rw [List.any_append, hattempt hinit, Bool.true_or]
  cases failed with
  | some rc' =>
    rcases hrest with ⟨rfl, rfl, rfl⟩
    rw [List.append_nil] at *
    have hrc := hne rc rfl
    refine .pahoC hb hlive hstate hhandle (fun h0 => absurd h0 hrc) hattempt' ?_
      ⟨?_, hmoves.interval⟩
    · rw [haccept, decide_eq_false hrc]
    · rw [hmoves.state, if_neg hrc]
  | none =>
    obtain ⟨username, ⟨rfl, rfl, hmoves'⟩ | ⟨hrc, hmoves', rfl⟩⟩ := connectSession_cases hrest
    · refine .pahoC hb hlive hstate ?_ (fun _ => ?_) hattempt' ?_ ⟨hmoves'.state, ?_⟩
      · simpa [Effect.isHandle, or_imp, forall_and] using hhandle
      · simpa [Effect.failed, or_imp, forall_and] using hok rfl
      · simp [haccept, Effect.isAccept]
      · rw [hmoves'.interval, hmoves.interval]
    · have hend : ∀ e ∈ Effect.mqttConnect username rc :: (if b.pahoC = true ∧
          s₁.client.currentState ≠ .initialized then [] else [closeEffect b]),
          e.isHandle = true ∧ e.isAccept = false := by
        rw [hclose]
        split <;> simp [Effect.isHandle, Effect.isAccept, hrc]
      refine .pahoC hb hlive hstate ?_ (fun h0 => absurd h0 hrc) hattempt' ?_ ⟨?_, ?_⟩
      · intro e he
        exact (List.mem_append.mp he).elim (hhandle e) fun he' => (hend e he').1
      · rw [List.any_append, haccept, Bool.false_or, decide_eq_false hrc]
        exact List.any_eq_false.mpr fun e he => by simp [(hend e he).2]
      · rw [hmoves'.state, hmoves.state, if_neg hrc]
      · rw [hmoves'.interval, hmoves.interval]

/-- Every run of `zclient_connect` has one of the listed outcomes. -/
theorem connect_cases {b : Build} {s s' : Sdk} {rc : ℤ} {es : List Effect}
    (h : (zclientConnect b).Exec s rc es s') : ConnectOutcome b s rc es s' := by
  unfold zclientConnect validateClientState at h
  rw [exec_readClient_bind] at h
  by_cases hlive : Live s
  · rw [if_neg (not_not.mpr ((clientStateCode_eq_zero_iff s).mpr hlive)),
      exec_readClient_bind] at h
    split at h
    · rename_i hstate
      rcases h with ⟨rfl, rfl, rfl⟩
      exact .already hstate
    · rename_i hstate
      split at h
      · rename_i hb
        exact connectPahoC_cases hb hlive hstate h
      · rename_i hb
        exact connectEmbedded_cases (by simpa using hb) hlive hstate h
  · have hcode : clientStateCode s.client = -2 := by
      unfold Live at hlive
      simp [clientStateCode, not_not.mp hlive]
    rw [hcode] at h
    rcases h with ⟨rfl, rfl, rfl⟩
    exact .refused hlive

/-- Success leaves the client connected. -/
theorem ConnectOutcome.connected_of_success {b : Build} {s s' : Sdk} {es : List Effect}
    (h : ConnectOutcome b s zsuccess es s') : s'.client.currentState = .connected := by
  generalize hrc : zsuccess = rc at h
  cases h with
  | refused _ => exact absurd hrc (by decide)
  | already hstate => exact hstate
  | pahoC _ _ _ _ _ _ _ hmoves => rw [hmoves.state, ← hrc]; rfl
  | unreachable _ _ _ _ _ _ => exact absurd hrc (by decide)
  | timeChanged _ _ _ _ => exact absurd hrc (by decide)
  | rejected _ _ _ hne _ => exact absurd hrc.symm hne
  | connected _ _ _ hmoves => exact hmoves.state

/-- An attempt from the initialised state emits that it was made, and is accepted exactly
when it succeeds. -/
theorem ConnectOutcome.attempt {b : Build} {s s' : Sdk} {rc : ℤ} {es : List Effect}
    (h : ConnectOutcome b s rc es s') (hstate : s.client.currentState = .initialized) :
    es.any Effect.isAttempt = true ∧ es.any Effect.isAccept = decide (rc = 0) := by
  cases h with
  | refused hlive => exact absurd (by simp [Live, hstate]) hlive
  | already hconn => rw [hstate] at hconn; simp at hconn
  | pahoC _ _ _ _ _ hattempt haccept _ => exact ⟨hattempt hstate, haccept⟩
  | unreachable _ _ _ _ _ _ => exact ⟨rfl, rfl⟩
  | timeChanged _ _ _ _ => simp [hstate, Effect.isAttempt, Effect.isAccept, zfailure]
  | rejected _ _ _ hrc _ => simp [Effect.isAttempt, Effect.isAccept, hrc]
  | connected _ _ _ _ => exact ⟨rfl, rfl⟩

/-! ## Reconnecting -/

/-- The start time that `zclient_reconnect` uses: the one that is recorded, or else the time
`t` at which it looks. -/
def startTimeAt (c : ZohoIOTclient) (t : UInt64) : UInt64 :=
  if c.startTime = 0 then t else c.startTime

/-- The clock is read for the start time only if none is recorded. -/
def startClock (c : ZohoIOTclient) (t : UInt64) : List Effect :=
  if c.startTime = 0 then [.clock t] else []

/-- The client after the start time was looked up. -/
def Sdk.startedAt (s : Sdk) (start : UInt64) : Sdk :=
  { s with client := { s.client with startTime := start } }

/-- The client at an attempt to reconnect, after a connection that was lost has been closed. -/
def Sdk.attempting (s : Sdk) (start : UInt64) : Sdk :=
  { s with client := { s.client with startTime := start, currentState := .initialized } }

/-- The client after an attempt that failed at the time `t`. -/
def Sdk.backedOff (s : Sdk) (t : UInt64) : Sdk :=
  { s with client := { s.client with startTime := t,
                                     zretryInterval := getRetryInterval s.client.zretryInterval,
                                     retryCount := s.client.retryCount + 1 } }

/-- The client after an attempt that succeeded. -/
def Sdk.resumed (s : Sdk) : Sdk :=
  { s with client := { s.client with currentState := .connected, retryCount := 0, startTime := 0,
                                     zretryInterval := minRetryInterval } }

/-- What closing the connection of a client that was connected before emits. -/
def staleClose (b : Build) (st : ZclientConnectionState) : List Effect :=
  if st = .initialized then [] else [closeEffect b]

/-- The result of an attempt that failed. -/
def backOffCode (st : ZclientConnectionState) : ℤ :=
  if st ≠ .disconnected ∧ st ≠ .connected then zconnectionError else zfailure

/-- What `zclient_reconnect` can do. `t` and `now` are its readings of the clock. -/
inductive ReconnectOutcome (b : Build) (s : Sdk) : ℤ → List Effect → Sdk → Prop
  | refused (hlive : ¬ Live s) : ReconnectOutcome b s (-2) [] s
  | already (hstate : s.client.currentState = .connected) : ReconnectOutcome b s zsuccess [] s
  /-- The retry interval is not over yet. -/
  | early {t now : UInt64} (hlive : Live s) (hstate : s.client.currentState ≠ .connected)
      (hearly : delayPassed now (startTimeAt s.client t) s.client.zretryInterval = false) :
      ReconnectOutcome b s zfailure (startClock s.client t ++ [.clock now])
        (s.startedAt (startTimeAt s.client t))
  /-- The attempt fails, and the interval grows. -/
  | failed {t now t' : UInt64} {rc : ℤ} {es : List Effect} {s' : Sdk} (hlive : Live s)
      (hstate : s.client.currentState ≠ .connected)
      (hdue : delayPassed now (startTimeAt s.client t) s.client.zretryInterval = true)
      (hconnect : ConnectOutcome b (s.attempting (startTimeAt s.client t)) rc es s')
      (hrc : rc ≠ zsuccess) :
      ReconnectOutcome b s (backOffCode s'.client.currentState) (startClock s.client t
        ++ [.clock now] ++ staleClose b s.client.currentState ++ es ++ [.clock t'])
        (s'.backedOff t')
  /-- The attempt succeeds, and the session is restored. -/
  | restored {t now : UInt64} {rc : ℤ} {es es' : List Effect} {s' s'' : Sdk} (hlive : Live s)
      (hstate : s.client.currentState ≠ .connected)
      (hdue : delayPassed now (startTimeAt s.client t) s.client.zretryInterval = true)
      (hconnect : ConnectOutcome b (s.attempting (startTimeAt s.client t)) zsuccess es s')
      (hrestore : (restoreSession b).Exec s'.resumed rc es' s'') :
      ReconnectOutcome b s rc (startClock s.client t ++ [.clock now]
        ++ staleClose b s.client.currentState ++ es ++ es') s''

/-- `zclient_reconnect` by its parts: the same cases, with the run of `zclient_connect` in the
place of its outcome. -/
inductive ReconnectSplit (b : Build) (s : Sdk) : ℤ → List Effect → Sdk → Prop
  | refused (hlive : ¬ Live s) : ReconnectSplit b s (-2) [] s
  | already (hstate : s.client.currentState = .connected) : ReconnectSplit b s zsuccess [] s
  | early {t now : UInt64} (hlive : Live s) (hstate : s.client.currentState ≠ .connected)
      (hearly : delayPassed now (startTimeAt s.client t) s.client.zretryInterval = false) :
      ReconnectSplit b s zfailure (startClock s.client t ++ [.clock now])
        (s.startedAt (startTimeAt s.client t))
  | failed {t now t' : UInt64} {rc : ℤ} {es : List Effect} {s' : Sdk} (hlive : Live s)
      (hstate : s.client.currentState ≠ .connected)
      (hdue : delayPassed now (startTimeAt s.client t) s.client.zretryInterval = true)
      (hconnect : (zclientConnect b).Exec (s.attempting (startTimeAt s.client t)) rc es s')
      (hrc : rc ≠ zsuccess) :
      ReconnectSplit b s (backOffCode s'.client.currentState) (startClock s.client t
        ++ [.clock now] ++ staleClose b s.client.currentState ++ es ++ [.clock t'])
        (s'.backedOff t')
  | restored {t now : UInt64} {rc : ℤ} {es es' : List Effect} {s' s'' : Sdk} (hlive : Live s)
      (hstate : s.client.currentState ≠ .connected)
      (hdue : delayPassed now (startTimeAt s.client t) s.client.zretryInterval = true)
      (hconnect : (zclientConnect b).Exec (s.attempting (startTimeAt s.client t)) zsuccess es s')
      (hrestore : (restoreSession b).Exec s'.resumed rc es' s'') :
      ReconnectSplit b s rc (startClock s.client t ++ [.clock now]
        ++ staleClose b s.client.currentState ++ es ++ es') s''

/-- The start time is read from the clock unless it is set. -/
theorem recordStartTime_cases {s s' : Sdk} {es : List Effect}
    (h : recordStartTime.Exec s () es s') : ∃ t, es = startClock s.client t ∧
      s' = s.startedAt (startTimeAt s.client t) := by
  unfold recordStartTime at h
  unfold startClock startTimeAt Sdk.startedAt
  rw [exec_readClient_bind] at h
  split at h
  · rename_i hzero
    rw [exec_getCurrentTime_bind] at h
    rcases h with ⟨t, _, rfl, _, _, rfl, -, rfl, rfl⟩
    exact ⟨t, by simp [hzero], by simp [hzero]⟩
  · rename_i hzero
    rcases h with ⟨-, rfl, rfl⟩
    exact ⟨0, by simp [hzero], by simp [hzero]⟩

/-- What is closed before the client connects again. -/
theorem closeStale_cases {b : Build} {s s' : Sdk} {es : List Effect}
    (h : (closeStale b).Exec s () es s') : es = staleClose b s.client.currentState ∧
      s' = { s with client := { s.client with currentState := .initialized } } := by
  unfold closeStale at h
  rw [exec_readClient_bind] at h
  split at h
  · rename_i hstate
    rcases h with ⟨_, _, rfl, _, _, rfl, -, rfl, rfl⟩
    exact ⟨by simp [staleClose, hstate, closeEffect], rfl⟩
  · rename_i hstate
    rcases h with ⟨-, rfl, rfl⟩
    refine ⟨by simp [staleClose, not_not.mp hstate], ?_⟩
    rw [← not_not.mp hstate]

/-- A failed attempt reads the clock and sets the next interval. -/
theorem backOff_cases {s s' : Sdk} {rc : ℤ} {es : List Effect} (h : backOff.Exec s rc es s') :
    ∃ t, rc = backOffCode s.client.currentState ∧ es = [.clock t] ∧ s' = s.backedOff t := by
  unfold backOff at h
  rw [exec_getCurrentTime_bind] at h
  obtain ⟨t, es', rfl, hend⟩ := h
  rw [exec_modifyClient_bind, exec_readClient_bind] at hend
  unfold backOffCode
  split at hend
  · rename_i hstate
    obtain ⟨rfl, rfl, rfl⟩ := hend
    exact ⟨t, (if_pos hstate).symm, rfl, rfl⟩
  · rename_i hstate
    obtain ⟨rfl, rfl, rfl⟩ := hend
    exact ⟨t, (if_neg hstate).symm, rfl, rfl⟩

/-- Every run of `zclient_reconnect`, by its parts. -/
theorem reconnect_split {b : Build} {s s' : Sdk} {rc : ℤ} {es : List Effect}
    (h : (zclientReconnect b).Exec s rc es s') : ReconnectSplit b s rc es s' := by
  unfold zclientReconnect validateClientState at h
  rw [exec_readClient_bind] at h
  by_cases hlive : Live s
  · rw [if_neg (not_not.mpr ((clientStateCode_eq_zero_iff s).mpr hlive)),
      exec_readClient_bind] at h
    split at h
    · rename_i hstate
      rcases h with ⟨rfl, rfl, rfl⟩
      exact .already hstate
    · rename_i hstate
      obtain ⟨_, es₁, s₁, _, hstart, hrest, rfl⟩ := Prog.exec_bind.mp h
      obtain ⟨t, rfl, rfl⟩ := recordStartTime_cases hstart
      rw [exec_readClient_bind, exec_getCurrentTime_bind] at hrest
      obtain ⟨now, es₂, rfl, hrest⟩ := hrest
      rw [exec_readClient_bind] at hrest
      split at hrest
      · rename_i hearly
        rcases hrest with ⟨rfl, rfl, rfl⟩
        exact .early hlive hstate hearly
      · rename_i hdue
        obtain ⟨_, _, _, es₃, hclose, hattempt, rfl⟩ := Prog.exec_bind.mp hrest
        obtain ⟨rfl, rfl⟩ := closeStale_cases hclose
        obtain ⟨rc', es₄, s₂, es₅, hconnect, hend, rfl⟩ := Prog.exec_bind.mp hattempt
        have hconnect : (zclientConnect b).Exec (s.attempting (startTimeAt s.client t)) rc' es₄
            s₂ := hconnect
        have hdue' : delayPassed now (startTimeAt s.client t) s.client.zretryInterval = true := by
          simpa [Sdk.startedAt] using hdue
        have hassoc : startClock s.client t ++ .clock now ::
            (staleClose b (s.startedAt (startTimeAt s.client t)).client.currentState
              ++ (es₄ ++ es₅)) = startClock s.client t ++ [.clock now]
              ++ staleClose b s.client.currentState ++ es₄ ++ es₅ := by
          simp [Sdk.startedAt]
        rw [hassoc]
        split at hend
        · rename_i hrc
          rw [hrc] at hconnect
          rw [resumeSession_eq, setCurrentState, exec_modifyClient_bind,
            exec_modifyClient_bind] at hend
          exact .restored hlive hstate hdue' hconnect hend
        · rename_i hrc
          obtain ⟨t', rfl, rfl, rfl⟩ := backOff_cases hend
          exact .failed hlive hstate hdue' hconnect hrc
  · have hcode : clientStateCode s.client = -2 := by
      unfold Live at hlive
      simp [clientStateCode, not_not.mp hlive]
    rw [hcode] at h
    rcases h with ⟨rfl, rfl, rfl⟩
    exact .refused hlive

/-- Every run of `zclient_reconnect` has one of the listed outcomes. -/
theorem reconnect_cases {b : Build} {s s' : Sdk} {rc : ℤ} {es : List Effect}
    (h : (zclientReconnect b).Exec s rc es s') : ReconnectOutcome b s rc es s' := by
  cases reconnect_split h with
  | refused hlive => exact .refused hlive
  | already hstate => exact .already hstate
  | early hlive hstate hearly => exact .early hlive hstate hearly
  | failed hlive hstate hdue hconnect hrc =>
    exact .failed hlive hstate hdue (connect_cases hconnect) hrc
  | restored hlive hstate hdue hconnect hrestore =>
    exact .restored hlive hstate hdue (connect_cases hconnect) hrestore

/-- What `zclient_reconnect` emits before it connects is neither an attempt nor accepted. -/
theorem reconnect_preamble (b : Build) (c : ZohoIOTclient) (t now : UInt64) :
    (startClock c t ++ [Effect.clock now]).any Effect.isAttempt = false ∧
    (startClock c t ++ [Effect.clock now]).any Effect.isAccept = false ∧
    (staleClose b c.currentState).any Effect.isAccept = false := by
  unfold startClock staleClose closeEffect
  refine ⟨?_, ?_, ?_⟩
  · split <;> rfl
  · split <;> rfl
  · split
    · rfl
    · split <;> rfl

/-! ## Initialising and freeing -/

/-- Both staging objects are there and empty. -/
def FreshStaged (s : Sdk) : Prop :=
  s.client.messageData = some cJSONCreateObject ∧ s.client.eventDataObject = some cJSONCreateObject

/-- What `zclient_init` can do, by its result. -/
inductive InitOutcome (b : Build) (args : InitArgs) (s : Sdk) : ℤ → Sdk → Prop
  /-- The credentials cannot be used: nothing has been written yet. -/
  | rejected (hconfig : initConfig b s.globals args = none) : InitOutcome b args s zfailure s
  /-- A later step fails: the state is the old one. -/
  | failed {s' : Sdk} (hconfig : (initConfig b s.globals args).isSome)
      (hstate : s'.client.currentState = s.client.currentState)
      (hinterval : s'.client.zretryInterval = minRetryInterval)
      (hstaged : SameStaged s s' [] ∨ FreshStaged s') : InitOutcome b args s zfailure s'
  | initialized {s' : Sdk} (hconfig : (initConfig b s.globals args).isSome)
      (hstate : s'.client.currentState = .initialized)
      (hinterval : s'.client.zretryInterval = minRetryInterval) (hstaged : FreshStaged s') :
      InitOutcome b args s zsuccess s'

/-- The fields that an outcome of `zclient_init` speaks about. -/
def ZohoIOTclient.sessionFields (c : ZohoIOTclient) :
    ZclientConnectionState × ℤ × Option CJson × Option CJson :=
  (c.currentState, c.zretryInterval, c.messageData, c.eventDataObject)

/-- Every initialisation has one of the listed outcomes. -/
theorem initSdk_cases (b : Build) (args : InitArgs) (w : Answer) (s : Sdk) :
    InitOutcome b args s (initSdk b args w s).1 (initSdk b args w s).2 := by
  -- writing the topics changes none of the fields that count here
  have htopics : ∀ clientId c,
      (writeTopics clientId topicWrites c).2.sessionFields = c.sessionFields :=
    fun clientId => writeTopics_keeps _ clientId topicWrites (by
      simp [topicWrites, ZohoIOTclient.sessionFields])
  simp only [ZohoIOTclient.sessionFields, Prod.mk.injEq] at htopics
  unfold initSdk
  split
  · rename_i hconfig
    exact .rejected hconfig
  · rename_i config hconfig
    have hsome : (initConfig b s.globals args).isSome := by rw [hconfig]; rfl
    simp only []
    obtain ⟨hstate, hinterval, hdata, hevent⟩ := htopics (config.clientId.getD [])
      { s.client with zretryInterval := minRetryInterval }
    split
    · exact .failed hsome hstate hinterval (.inl ⟨hdata, hevent, by simp⟩)
    · unfold initClient initFields
      simp only []
      split
      · exact .failed hsome hstate hinterval (.inl ⟨hdata, hevent, by simp⟩)
      · split
        · exact .failed hsome hstate hinterval (.inr ⟨rfl, rfl⟩)
        · exact .initialized hsome rfl hinterval ⟨rfl, rfl⟩

/-- Every run of `zclient_init` has one of the listed outcomes. -/
theorem init_cases {b : Build} {args : InitArgs} {s s' : Sdk} {rc : ℤ} {es : List Effect}
    (h : (zclientInit b args).Exec s rc es s') : es = [.init rc] ∧ InitOutcome b args s rc s' := by
  rcases h with ⟨w, _, rfl, rfl, rfl, rfl⟩
  exact ⟨rfl, initSdk_cases b args w s⟩

/-- `zclient_free` leaves a session that is up, and the Paho C build destroys its handle in
any case. -/
theorem free_cases {b : Build} {s s' : Sdk} {rc : ℤ} {es : List Effect}
    (h : (zclientFree b).Exec s rc es s') :
    (s.client.currentState = .connected ∧
      s' = { s with client := { s.client with currentState := .disconnected } } ∧
      ∃ rc', es = [.mqttDisconnect rc', closeEffect b] ++ if b.pahoC then [closeEffect b] else []) ∨
    (s.client.currentState ≠ .connected ∧ s' = s ∧
      es = if b.pahoC then [closeEffect b] else []) := by
  unfold zclientFree at h
  rw [exec_readClient_bind] at h
  split at h
  · rename_i hstate
    obtain ⟨_, es₁, s₁, es₂, hdisc, hend, rfl⟩ := Prog.exec_bind.mp h
    obtain ⟨heffects, rfl⟩ := disconnect_cases hdisc
    rw [hstate] at heffects
    cases heffects with
    | connected rc' =>
      left
      split at hend
      · rename_i hb
        rcases hend with ⟨_, _, rfl, -, rfl, rfl⟩
        exact ⟨hstate, rfl, rc', by simp [closeEffect, hb]⟩
      · rename_i hb
        rcases hend with ⟨-, rfl, rfl⟩
        exact ⟨hstate, rfl, rc', by simp [hb]⟩
    | other _ hconn => exact absurd rfl hconn
  · rename_i hstate
    right
    split at h
    · rename_i hb
      rcases h with ⟨_, _, rfl, -, rfl, rfl⟩
      exact ⟨hstate, rfl, by simp [closeEffect, hb]⟩
    · rename_i hb
      rcases h with ⟨-, rfl, rfl⟩
      exact ⟨hstate, rfl, by simp [hb]⟩

/-! ## Any call -/

/-- What a call can do to the session. -/
inductive CallOutcome (b : Build) (call : Call) (s : Sdk) (es : List Effect) (s' : Sdk) : Prop
  | quiet (hcall : call.isSession = false) (hquiet : Quiet s s' es)
  | init (args : InitArgs) (rc : ℤ) (hcall : call = .init args) (hes : es = [.init rc])
      (houtcome : InitOutcome b args s rc s')
  /-- `zclient_free` on a client that is connected. -/
  | left (rc : ℤ) (hcall : call = .free) (hstate : s.client.currentState = .connected)
      (hafter : s' = { s with client := { s.client with currentState := .disconnected } })
      (hes : es = [.mqttDisconnect rc, closeEffect b] ++ if b.pahoC then [closeEffect b] else [])
  | free (hcall : call = .free) (hafter : s' = s)
      (hes : es = if b.pahoC then [closeEffect b] else [])
  | connect (rc : ℤ) (hcall : call = .connect) (houtcome : ConnectOutcome b s rc es s')
  | disconnect (hcall : call = .disconnect) (hes : DisconnectEffects b s.client.currentState es)
      (hafter : s' = { s with client := { s.client with currentState := .disconnected } })
  | reconnect (rc : ℤ) (hcall : call = .reconnect) (houtcome : ReconnectOutcome b s rc es s')

/-- Every call has one of the outcomes of its function. -/
theorem call_cases {b : Build} {call : Call} {s s' : Sdk} {es : List Effect}
    (h : (call.prog b).Exec s () es s') : CallOutcome b call s es s' := by
  by_cases hsession : call.isSession = false
  · exact .quiet hsession (call.quiet hsession _ _ _ _ trivial h)
  · cases call with
    | init args =>
      obtain ⟨rc, hexec⟩ := exec_of_discard h
      obtain ⟨hes, houtcome⟩ := init_cases hexec
      exact .init args rc rfl hes houtcome
    | free =>
      obtain ⟨rc, hexec⟩ := exec_of_discard h
      rcases free_cases hexec with ⟨hstate, hafter, rc', hes⟩ | ⟨-, hafter, hes⟩
      · exact .left rc' rfl hstate hafter hes
      · exact .free rfl hafter hes
    | connect =>
      obtain ⟨rc, hexec⟩ := exec_of_discard h
      exact .connect rc rfl (connect_cases hexec)
    | disconnect =>
      obtain ⟨rc, hexec⟩ := exec_of_discard h
      obtain ⟨hes, hafter⟩ := disconnect_cases hexec
      exact .disconnect rfl hes hafter
    | reconnect =>
      obtain ⟨rc, hexec⟩ := exec_of_discard h
      exact .reconnect rc rfl (reconnect_cases hexec)
    | _ => simp [Call.isSession] at hsession

end ZohoIotSdk
