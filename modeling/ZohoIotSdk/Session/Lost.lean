import ZohoIotSdk.Session.Transport

/-!
# Lost connections

Which calls notice that the connection is lost. `loss_noticed_iff` says for every call of a run
exactly when a loss is noticed: the replay of `zclient_reconnect` does not look, and neither does
`zclient_yield` for a result other than a failure.
-/

namespace ZohoIotSdk

open Atomic (Prog LogEntry)

variable {b : Build}

/-! ## Subscribing -/

/-- The result of a function tells whether the client is connected now; if it is, then no
transport call failed. -/
structure ResultNoticed (s' : Sdk) (rc : ℤ) (events : List TransportEvent) : Prop where
  checked : events.all TransportEvent.isChecked = true
  success : rc = zsuccess →
    s'.client.currentState = .connected ∧ events.any TransportEvent.failed = false
  failure : rc ≠ zsuccess → s'.client.currentState ≠ .connected

/-- A loss that the result shows is noticed. -/
theorem ResultNoticed.noticed {s' : Sdk} {rc : ℤ} {events : List TransportEvent}
    (h : ResultNoticed s' rc events) : Noticed s' events := by
  by_cases hrc : rc = zsuccess
  · exact noticed_of_ok h.checked (h.success hrc).2
  · exact noticed_of_state h.checked (h.failure hrc)

section Subscribing

variable {setHandler : Option ℕ → ZohoIOTclient → ZohoIOTclient} {topic : ZohoIOTclient → CString}
  {onMessage : Option ℕ} {s s' : Sdk} {rc : ℤ} {log : List (LogEntry Sdk Answer Effect)}

/-- A subscription notices a loss in its result. -/
theorem subscribe_noticed (h : (subscribe setHandler topic onMessage).logged.Exec s rc log s')
    (hset : ∀ h c, (setHandler h c).currentState = c.currentState) (hsome : onMessage ≠ none) :
    ResultNoticed s' rc (transportEvents b log) := by
  refine Prog.Exec.of_wlp (Q := fun rc log s' => ResultNoticed s' rc (transportEvents b log)) ?_ h
  unfold subscribe
  simp only [Prog.logged_bind, Prog.logged_ite, Prog.logged_act, Prog.logged_pure,
    logged_validateClientState, logged_modifyClient, logged_readClient, logged_transportConnected,
    logged_setCurrentState, Prog.wlp_bind, Prog.wlp_ite, Prog.wlp_act, Prog.wlp_pure, hset]
  intro _
  split
  · rename_i hcode
    have hzeroed : s.client.currentState = .zeroed := by
      by_contra hlive
      exact hcode ((clientStateCode_eq_zero_iff s).mpr hlive)
    exact ⟨rfl, fun h0 => absurd h0 hcode, fun _ => by simp [hzeroed]⟩
  · intro _ _
    split
    · rename_i hstate
      exact ⟨rfl, fun h0 => absurd h0 (by decide), fun _ => by rwa [hset]⟩
    · rename_i hstate
      intro w
      split
      · rename_i hrc
        refine ⟨rfl, fun _ => ⟨?_, ?_⟩, fun hne => absurd hrc hne⟩
        · rw [hset]
          exact not_not.mp hstate
        · simp [transportEvent, TransportEvent.failed, hrc, zsuccess]
      · rename_i hrc
        exact fun _ _ => ⟨rfl, fun h0 => absurd h0 hrc, fun _ => by simp⟩

/-- Subscribing to commands notices a loss in its result. -/
theorem commandSubscribe_noticed (h : (zclientCommandSubscribe onMessage).logged.Exec s rc log s')
    (hsome : onMessage ≠ none) : ResultNoticed s' rc (transportEvents b log) := by
  unfold zclientCommandSubscribe at h
  exact subscribe_noticed h (fun _ _ => rfl) hsome

/-- Subscribing to configurations notices a loss in its result. -/
theorem configSubscribe_noticed (h : (zclientConfigSubscribe onMessage).logged.Exec s rc log s')
    (hsome : onMessage ≠ none) : ResultNoticed s' rc (transportEvents b log) := by
  unfold zclientConfigSubscribe at h
  exact subscribe_noticed h (fun _ _ => rfl) hsome

/-- Without a handler nothing happens. -/
theorem silent_subscribe : Silent b (subscribe setHandler topic none) := by
  refine silent_bind (silent_readClient _) fun _ => silent_ite (silent_pure _) ?_
  rw [if_pos rfl]
  exact silent_pure _

theorem notices_subscribe (hset : ∀ h c, (setHandler h c).currentState = c.currentState) :
    Notices b (subscribe setHandler topic onMessage) := by
  intro s rc log s' h
  by_cases hnone : onMessage = none
  · rw [hnone] at h
    exact silent_subscribe.notices _ _ _ _ h
  · exact (subscribe_noticed h hset hnone).noticed

end Subscribing

/-! ## Connecting -/

/-- The calls that `zclient_connect` makes. -/
def Effect.isConnecting : Effect → Bool
  | .networkConnect _ _ | .networkDisconnect => true
  | e => e.isHandle

/-- Connecting has no other effects than those of connecting. -/
theorem ConnectOutcome.connecting {s s' : Sdk} {rc : ℤ} {es : List Effect}
    (h : ConnectOutcome b s rc es s') : ∀ e ∈ es, e.isConnecting = true := by
  cases h with
  | refused _ => simp
  | already _ => simp
  | pahoC _ _ _ hhandle _ _ _ _ =>
    intro e he
    have := hhandle e he
    cases e <;> simp_all [Effect.isConnecting, Effect.isHandle]
  | unreachable _ _ _ _ _ _ => simp [Effect.isConnecting]
  | timeChanged _ _ _ _ => split <;> simp [Effect.isConnecting]
  | rejected _ _ _ _ _ => simp [Effect.isConnecting, Effect.isHandle]
  | connected _ _ _ _ => simp [Effect.isConnecting, Effect.isHandle]

/-- In a successful connect no effect has failed. -/
theorem ConnectOutcome.not_failed {s s' : Sdk} {es : List Effect}
    (h : ConnectOutcome b s zsuccess es s') : ∀ e ∈ es, e.failed = false := by
  generalize hrc : zsuccess = rc at h
  cases h with
  | refused _ => simp
  | already _ => simp
  | pahoC _ _ _ _ hok _ _ _ => exact hok hrc.symm
  | unreachable _ _ _ _ _ _ => exact absurd hrc (by decide)
  | timeChanged _ _ _ _ => exact absurd hrc (by decide)
  | rejected _ _ _ hne _ => exact absurd hrc.symm hne
  | connected _ _ _ _ => simp [Effect.failed]

/-- After an attempt that failed the client is not connected. -/
theorem ConnectOutcome.state_of_failure {s s' : Sdk} {rc : ℤ} {es : List Effect}
    (h : ConnectOutcome b s rc es s') (hrc : rc ≠ zsuccess) :
    s'.client.currentState ≠ .connected := by
  cases h with
  | refused hlive => simp [not_not.mp hlive]
  | already _ => exact absurd rfl hrc
  | pahoC _ _ hstate _ _ _ _ hmoves =>
    have hne : rc ≠ 0 := hrc
    rw [hmoves.state, if_neg hne]
    exact hstate
  | unreachable _ _ hstate _ _ hmoves => rw [hmoves.state]; exact hstate
  | timeChanged _ _ _ hmoves => simp [hmoves.state]
  | rejected _ _ hstate _ hmoves => rw [hmoves.state]; exact hstate
  | connected _ _ _ _ => exact absurd rfl hrc

/-- The transport calls of connecting are checked. -/
theorem transportEvent_connecting {e : Effect} (h : e.isConnecting = true)
    (entry : LogEntry Sdk Answer Effect) : ∀ event ∈ transportEvent b entry e,
      event.isChecked = true ∧ event.failed = e.failed := by
  cases e <;> simp_all [Effect.isConnecting, Effect.isHandle, transportEvent,
    TransportEvent.isChecked, TransportEvent.failed, Effect.failed]

/-- Connecting notices a loss in its result. -/
theorem connect_noticed {s s' : Sdk} {rc : ℤ} {log : List (LogEntry Sdk Answer Effect)}
    (h : (zclientConnect b).logged.Exec s rc log s') :
    ResultNoticed s' rc (transportEvents b log) := by
  have houtcome := connect_cases (Prog.exec_of_logged h)
  have hevent : ∀ event ∈ transportEvents b log, event.isChecked = true ∧
      ∃ e ∈ log.flatMap LogEntry.effects, event.failed = e.failed := by
    intro event hmem
    obtain ⟨entry, hentry, hmem⟩ := List.mem_flatMap.mp hmem
    obtain ⟨e, he, hmem⟩ := List.mem_flatMap.mp hmem
    have he' : e ∈ log.flatMap LogEntry.effects := List.mem_flatMap.mpr ⟨entry, hentry, he⟩
    obtain ⟨hchecked, hfailed⟩ :=
      transportEvent_connecting (houtcome.connecting e he') entry event hmem
    exact ⟨hchecked, e, he', hfailed⟩
  refine ⟨?_, ?_, houtcome.state_of_failure⟩
  · exact List.all_eq_true.mpr fun event hmem => (hevent event hmem).1
  · rintro rfl
    refine ⟨houtcome.connected_of_success, List.any_eq_false.mpr fun event hmem => ?_⟩
    obtain ⟨-, e, he, hfailed⟩ := hevent event hmem
    simp [hfailed, houtcome.not_failed e he]

/-! ## Yielding -/

/-- The transport is connected in the end. -/
theorem loss_noticed_of_last {s s' : Sdk} {events : List TransportEvent}
    (hlast : events.getLast?.map TransportEvent.connected ≠ some false) :
    (Lost events → s'.client.currentState ≠ .connected) ↔ LossNoticed s events :=
  ⟨fun _ => ⟨fun _ _ _ _ => hlast, fun _ _ _ _ _ _ => hlast⟩, fun _ hlost => absurd hlost.2 hlast⟩

/-- The transport was not asked after a yield. -/
theorem loss_noticed_of_yield {s s' : Sdk} (hstate : s'.client.currentState = s.client.currentState)
    {rc : ℤ} (hrc : rc ≠ zfailure) {connected : Bool} :
    (Lost [.call .yield rc connected] → s'.client.currentState ≠ .connected) ↔
      LossNoticed s [.call .yield rc connected] := by
  constructor
  · intro h
    refine ⟨by simp, fun hconn rc' connected' hmem hne _ hlast => ?_⟩
    simp only [List.mem_singleton, TransportEvent.call.injEq] at hmem
    rcases hmem with ⟨-, rfl, rfl⟩
    refine h ⟨⟨_, List.mem_singleton_self _, ?_⟩, hlast⟩ (by rw [hstate, hconn])
    simp [TransportEvent.failed, hne]
  · rintro h ⟨⟨e, he, hfailed⟩, hlast⟩ hconn
    rw [hstate] at hconn
    have hne : rc ≠ 0 := by
      rw [List.mem_singleton.mp he] at hfailed
      simpa [TransportEvent.failed] using hfailed
    exact h.yield hconn rc connected (List.mem_singleton_self _) hne hrc hlast

/-- A yield notices a loss exactly under `LossNoticed`. -/
theorem yield_noticed_iff {timeOut : ℤ} {s s' : Sdk} {rc : ℤ}
    {log : List (LogEntry Sdk Answer Effect)}
    (h : (zclientYield b timeOut).logged.Exec s rc log s') :
    (Lost (transportEvents b log) → s'.client.currentState ≠ .connected) ↔
      LossNoticed s (transportEvents b log) := by
  refine Prog.Exec.of_wlp (Q := fun _ log s' =>
    (Lost (transportEvents b log) → s'.client.currentState ≠ .connected) ↔
      LossNoticed s (transportEvents b log)) ?_ h
  unfold zclientYield
  simp only [Prog.logged_bind, Prog.logged_ite, Prog.logged_pure, logged_ask,
    logged_validateClientState, logged_modifyClient, logged_readClient, logged_transportConnected,
    logged_getCurrentTime, logged_setCurrentState, Prog.wlp_bind, Prog.wlp_ite, Prog.wlp_act,
    Prog.wlp_pure]
  intro _
  split
  · exact loss_noticed_of_last (by simp)
  · split
    · -- the Paho C build only asks
      intro w
      split
      · rename_i hconn
        exact loss_noticed_of_last (by simp [transportEvent, TransportEvent.connected, hconn])
      · intro _
        exact ⟨fun _ => ⟨by simp [transportEvent], by simp [transportEvent]⟩, fun _ _ => by simp⟩
    · intro _ _
      split
      · exact loss_noticed_of_last (by simp [transportEvent])
      · intro _ _
        split
        · exact loss_noticed_of_last (by simp [transportEvent])
        · intro w
          split
          · rename_i hrc
            intro w'
            split
            · rename_i hconn
              exact loss_noticed_of_last (by simp [transportEvent, TransportEvent.connected, hconn])
            · intro _
              refine ⟨fun _ => ⟨?_, ?_⟩, fun _ _ => by simp⟩
              · simp [transportEvent]
              · simp [transportEvent, hrc]
          · rename_i hrc
            -- any other result is passed on
            exact loss_noticed_of_yield rfl hrc

/-! ## Reconnecting -/

def TransportEvent.isReplay : TransportEvent → Bool
  | .call kind _ _ => decide (kind = .replay)
  | .query _ => false

/-- Nothing failed but replays. -/
def ReplayFailures (events : List TransportEvent) : Prop :=
  ∀ e ∈ events, (e.isChecked = true ∧ e.failed = false) ∨ e.isReplay = true

theorem ReplayFailures.append {events events' : List TransportEvent} (h : ReplayFailures events)
    (h' : ReplayFailures events') : ReplayFailures (events ++ events') := by
  intro e he
  exact (List.mem_append.mp he).elim (h e) (h' e)

/-- In a call that succeeds nothing fails. -/
theorem ResultNoticed.replayFailures {s' : Sdk} {events : List TransportEvent}
    (h : ResultNoticed s' zsuccess events) : ReplayFailures events := by
  intro e he
  have hok := List.any_eq_false.mp (h.success rfl).2 e he
  exact .inl ⟨List.all_eq_true.mp h.checked e he, by simpa using hok⟩

/-- If only replays failed, and the client counts as connected: a loss at the end is one that a
replay suffered. -/
theorem ReplayFailures.iff {s s' : Sdk} {events : List TransportEvent} (h : ReplayFailures events)
    (hstate : s'.client.currentState = .connected) :
    (Lost events → s'.client.currentState ≠ .connected) ↔ LossNoticed s events := by
  constructor
  · intro hlost
    refine ⟨fun rc connected hmem hne hlast => ?_, fun _ rc connected hmem => ?_⟩
    · exact hlost ⟨⟨_, hmem, by simp [TransportEvent.failed, hne]⟩, hlast⟩ hstate
    · have := h _ hmem
      simp [TransportEvent.isChecked, TransportEvent.isReplay] at this
  · rintro hnoticed ⟨⟨e, he, hfailed⟩, hlast⟩ -
    rcases h e he with ⟨-, hok⟩ | hreplay
    · simp [hok] at hfailed
    · cases e with
      | query connected => simp [TransportEvent.isReplay] at hreplay
      | call kind rc connected =>
        simp only [TransportEvent.isReplay, decide_eq_true_eq] at hreplay
        simp only [TransportEvent.failed, decide_eq_true_eq] at hfailed
        rw [hreplay] at he
        exact hnoticed.replay rc connected he hfailed hlast

/-- What `zclient_reconnect` comes to. -/
def Resumed (s' : Sdk) (events : List TransportEvent) : Prop :=
  Noticed s' events ∨ (s'.client.currentState = .connected ∧ ReplayFailures events)

/-- After a resumed session a loss is noticed exactly under `LossNoticed`. -/
theorem Resumed.iff {s s' : Sdk} {events : List TransportEvent} (h : Resumed s' events) :
    (Lost events → s'.client.currentState ≠ .connected) ↔ LossNoticed s events :=
  h.elim Noticed.iff fun ⟨hstate, hreplays⟩ => hreplays.iff hstate

/-- Nothing is lost before a call that succeeded. -/
theorem ResultNoticed.resumed {s₁ s' : Sdk} {events events' : List TransportEvent}
    (h : ResultNoticed s₁ zsuccess events) (h' : Resumed s' events') :
    Resumed s' (events ++ events') := by
  rcases h' with hnoticed | ⟨hstate, hreplays⟩
  · refine .inl ⟨fun hlost => hnoticed.lost ?_, ?_⟩
    · rcases hlost with ⟨⟨e, he, hfailed⟩, hlast⟩
      have hmem : e ∈ events' := (List.mem_append.mp he).resolve_left fun hmem =>
        List.any_eq_false.mp (h.success rfl).2 e hmem hfailed
      rw [List.getLast?_append_of_ne_nil _ (List.ne_nil_of_mem hmem)] at hlast
      exact ⟨⟨e, hmem, hfailed⟩, hlast⟩
    · rw [List.all_append, h.checked, hnoticed.checked, Bool.and_self]
  · exact .inr ⟨hstate, h.replayFailures.append hreplays⟩

theorem resumed_nil (s : Sdk) : Resumed s [] := .inl (noticed_of_ok rfl rfl)

/-- Subscribing again leaves the client connected, or its result says that it is not. -/
theorem resubscribe_noticed {handler : ZohoIOTclient → Option ℕ} {sub : Option ℕ → ClientM ℤ}
    (hsub : ∀ onMessage s rc log s', (sub onMessage).logged.Exec s rc log s' → onMessage ≠ none →
      ResultNoticed s' rc (transportEvents b log)) {s s' : Sdk} {rc : ℤ}
    {log : List (LogEntry Sdk Answer Effect)}
    (h : (resubscribe handler sub).logged.Exec s rc log s')
    (hstate : s.client.currentState = .connected) :
    ResultNoticed s' rc (transportEvents b log) := by
  unfold resubscribe at h
  simp only [Prog.logged_bind, Prog.logged_ite, logged_readClient, Prog.exec_act_bind] at h
  obtain ⟨_, log', rfl, h⟩ := h
  rw [transportEvents_append, transportEvents_cons, List.flatMap_nil, transportEvents_nil,
    List.append_nil, List.nil_append]
  split at h
  · rcases h with ⟨rfl, rfl, rfl⟩
    exact ⟨rfl, fun _ => ⟨hstate, rfl⟩, fun hne => absurd rfl hne⟩
  · rename_i hsome
    exact hsub _ _ _ _ _ h hsome

/-- A program that keeps the current state and publishes replays only. -/
def Replaying {α : Type} (b : Build) (p : ClientM α) : Prop :=
  ∀ s a log s', p.logged.Exec s a log s' →
    s'.client.currentState = s.client.currentState ∧ ReplayFailures (transportEvents b log)

section Replays

variable {α β : Type}

theorem replaying_pure (a : α) : Replaying b (pure a : ClientM α) := by
  rintro s _ _ _ ⟨-, rfl, rfl⟩
  exact ⟨rfl, by simp [ReplayFailures]⟩

/-- An atomic step that keeps the state and fails in replays only. -/
theorem replaying_act {upd : Answer → Sdk → Sdk} {emit : Answer → Sdk → List Effect}
    {ret : Answer → Sdk → α}
    (hstate : ∀ w s, (upd w s).client.currentState = s.client.currentState)
    (hemit : ∀ w s, ReplayFailures ((emit w s).flatMap (transportEvent b ⟨s, w, emit w s⟩))) :
    Replaying b (Prog.act upd emit ret) := by
  rintro s _ _ _ ⟨w, _, rfl, -, rfl, rfl⟩
  rw [List.append_nil, transportEvents_cons, transportEvents_nil, List.append_nil]
  exact ⟨hstate w s, hemit w s⟩

/-- Replaying programs in a row are replaying. -/
theorem replaying_bind {p : ClientM α} {f : α → ClientM β} (hp : Replaying b p)
    (hf : ∀ a, Replaying b (f a)) : Replaying b (p >>= f) := by
  intro s c log s' h
  rw [Prog.logged_bind] at h
  obtain ⟨a, log₁, s₁, log₂, h₁, h₂, rfl⟩ := Prog.exec_bind.mp h
  obtain ⟨hstate₁, hevents₁⟩ := hp _ _ _ _ h₁
  obtain ⟨hstate₂, hevents₂⟩ := hf _ _ _ _ _ h₂
  rw [transportEvents_append]
  exact ⟨by rw [hstate₂, hstate₁], hevents₁.append hevents₂⟩

theorem replaying_ite {c : Prop} [Decidable c] {p q : ClientM α} (hp : Replaying b p)
    (hq : Replaying b q) : Replaying b (if c then p else q) := by
  split
  · exact hp
  · exact hq

theorem replaying_readClient (f : ZohoIOTclient → α) : Replaying b (readClient f) :=
  replaying_act (fun _ _ => rfl) (by simp [ReplayFailures])

/-- Publishing a replay is replaying. -/
theorem replaying_publishMessage {source : PublishSource} (hsource : source.kind = .replay)
    (topic : ZohoIOTclient → CString) (payload : CString) :
    Replaying b (publishMessage b source topic payload) := by
  refine replaying_act (fun _ _ => rfl) fun w s => ?_
  rw [List.flatMap_singleton, transportEvent_publish, hsource]
  intro e he
  split at he
  · simp at he
  · rw [List.mem_singleton.mp he]
    exact .inr rfl

theorem replaying_replayFailedACK : Replaying b (replayFailedACK b) := by
  refine replaying_bind (replaying_readClient _) fun _ => replaying_ite (replaying_pure _) ?_
  refine replaying_bind (replaying_act (fun _ _ => rfl) ?_) fun doc => ?_
  · simp [ReplayFailures, transportEvent]
  · split
    · exact replaying_pure _
    · refine replaying_bind (replaying_publishMessage rfl _ _) fun _ => ?_
      refine replaying_ite (replaying_bind (replaying_act (fun _ _ => rfl) ?_) fun _ => ?_) ?_
      · simp [ReplayFailures, transportEvent]
      · exact replaying_pure _
      · exact replaying_pure _

theorem replaying_clearFailedEvent : Replaying b clearFailedEvent :=
  replaying_act (fun _ _ => rfl) (by simp [ReplayFailures, transportEvent])

theorem replaying_replayFailedEvent : Replaying b (replayFailedEvent b) := by
  refine replaying_bind (replaying_readClient _) fun _ => replaying_ite (replaying_pure _) ?_
  refine replaying_bind (replaying_act (fun _ _ => rfl) ?_) fun _ => replaying_ite ?_ ?_
  · simp [ReplayFailures, transportEvent]
  · exact replaying_bind replaying_clearFailedEvent fun _ => replaying_pure _
  · refine replaying_bind (replaying_act (fun _ _ => rfl) ?_) fun doc => ?_
    · simp [ReplayFailures, transportEvent]
    · split
      · exact replaying_pure _
      · refine replaying_bind (replaying_publishMessage rfl _ _) fun _ => ?_
        refine replaying_ite (replaying_bind replaying_clearFailedEvent fun _ => ?_) ?_
        · exact replaying_pure _
        · exact replaying_pure _

end Replays

/-- The end of `zclient_reconnect`, once the subscriptions are there again. -/
theorem replaying_replays : Replaying b (do
    let ackDone ← replayFailedACK b
    if ackDone = false then pure zfailure
    else do
      let eventDone ← replayFailedEvent b
      if eventDone = false then pure zfailure else pure zsuccess) := by
  refine replaying_bind replaying_replayFailedACK fun _ => replaying_ite (replaying_pure _) ?_
  refine replaying_bind replaying_replayFailedEvent fun _ => ?_
  exact replaying_ite (replaying_pure _) (replaying_pure _)

/-- A call whose failure ends the reconnection. -/
theorem resumed_bind {p : ClientM ℤ} {f : ClientM ℤ} {s s' : Sdk} {rc : ℤ}
    {log : List (LogEntry Sdk Answer Effect)}
    (hp : ∀ rc log s', p.logged.Exec s rc log s' → ResultNoticed s' rc (transportEvents b log))
    (hf : ∀ s rc log s', f.logged.Exec s rc log s' → s.client.currentState = .connected →
      Resumed s' (transportEvents b log))
    (h : (do
      let rc ← p
      if rc ≠ zsuccess then pure zfailure else f : ClientM ℤ).logged.Exec s rc log s') :
    Resumed s' (transportEvents b log) := by
  simp only [Prog.logged_bind, Prog.logged_ite] at h
  obtain ⟨rc₁, log₁, s₁, log₂, h₁, h₂, rfl⟩ := Prog.exec_bind.mp h
  have hresult := hp _ _ _ h₁
  rw [transportEvents_append]
  split at h₂
  · rcases h₂ with ⟨-, rfl, rfl⟩
    rw [transportEvents_nil, List.append_nil]
    exact .inl hresult.noticed
  · rename_i hrc
    rw [not_not.mp hrc] at hresult
    exact hresult.resumed (hf _ _ _ _ h₂ (hresult.success rfl).1)

/-- Restoring a session notices all losses but those in replays. -/
theorem restoreSession_resumed {s s' : Sdk} {rc : ℤ} {log : List (LogEntry Sdk Answer Effect)}
    (h : (restoreSession b).logged.Exec s rc log s')
    (hstate : s.client.currentState = .connected) : Resumed s' (transportEvents b log) := by
  refine resumed_bind (fun _ _ _ h₁ => ?_) (fun s₁ _ _ _ h₁ hstate₁ => ?_) h
  · exact resubscribe_noticed (fun _ _ _ _ _ => commandSubscribe_noticed) h₁ hstate
  · refine resumed_bind (fun _ _ _ h₂ => ?_) (fun s₂ _ _ _ h₂ hstate₂ => ?_) h₁
    · exact resubscribe_noticed (fun _ _ _ _ _ => configSubscribe_noticed) h₂ hstate₁
    · obtain ⟨hsame, hreplays⟩ := replaying_replays _ _ _ _ h₂
      exact .inr ⟨by rw [hsame, hstate₂], hreplays⟩

theorem silent_closeNetwork : Silent b (closeNetwork b) := by
  refine silent_act fun _ _ e he => ?_
  rw [List.mem_singleton.mp he]
  split <;> rfl

theorem silent_recordStartTime : Silent b recordStartTime :=
  silent_bind (silent_readClient _) fun _ => silent_ite
    (silent_bind silent_getCurrentTime fun _ => silent_modifyClient _) (silent_pure _)

theorem silent_closeStale : Silent b (closeStale b) :=
  silent_bind (silent_readClient _) fun _ => silent_ite
    (silent_bind silent_closeNetwork fun _ => silent_modifyClient _) (silent_pure _)

theorem silent_backOff : Silent b backOff :=
  silent_bind silent_getCurrentTime fun _ => silent_bind (silent_modifyClient _) fun _ =>
    silent_bind (silent_readClient _) fun _ => silent_ite (silent_pure _) (silent_pure _)

/-- Backing off keeps the state of the connection. -/
theorem state_of_backOff {s s' : Sdk} {rc : ℤ} {es : List Effect} (h : backOff.Exec s rc es s') :
    s'.client.currentState = s.client.currentState := by
  obtain ⟨t, -, -, rfl⟩ := backOff_cases h
  rfl

/-- The client is marked as connected before the session is restored. -/
theorem resumeSession_resumed : Ensures b Resumed (resumeSession b) := by
  intro s rc log s' h
  rw [resumeSession_eq] at h
  simp only [Prog.logged_bind, logged_setCurrentState, logged_modifyClient, Prog.exec_act_bind] at h
  obtain ⟨_, log₁, rfl, _, log₂, rfl, h⟩ := h
  simp only [transportEvents_append, transportEvents_cons, List.flatMap_nil, transportEvents_nil,
    List.append_nil, List.nil_append]
  exact restoreSession_resumed h rfl

/-- Reconnecting notices all losses but those in replays. -/
theorem reconnect_resumed : Ensures b Resumed (zclientReconnect b) := by
  refine ensures_validated resumed_nil ((silent_readClient _).bind_ensures fun _ => ?_)
  refine ensures_ite ((silent_pure _).ensures resumed_nil) ?_
  refine silent_recordStartTime.bind_ensures fun _ => (silent_readClient _).bind_ensures fun _ => ?_
  refine silent_getCurrentTime.bind_ensures fun _ => (silent_readClient _).bind_ensures fun _ => ?_
  refine ensures_ite ((silent_pure _).ensures resumed_nil) ?_
  refine silent_closeStale.bind_ensures fun _ => ?_
  intro s rc log s' h
  simp only [Prog.logged_bind, Prog.logged_ite] at h
  obtain ⟨rc₁, log₁, s₁, log₂, h₁, h₂, rfl⟩ := Prog.exec_bind.mp h
  have hresult := connect_noticed h₁
  rw [transportEvents_append]
  split at h₂
  · rename_i hrc
    rw [hrc] at hresult
    exact hresult.resumed (resumeSession_resumed _ _ _ _ h₂)
  · rename_i hrc
    rw [silent_backOff _ _ _ _ h₂, List.append_nil]
    refine .inl (noticed_of_state hresult.checked ?_)
    rw [state_of_backOff (Prog.exec_of_logged h₂)]
    exact hresult.failure hrc

/-! ## Runs -/

/-- The public operations that use the transport. -/
def Call.usesTransport : Call → Bool
  | connect | reconnect | publish _ | dispatch | dispatchEventFromJSONString _ _ _ _
  | dispatchEventFromEventDataObject _ _ _ | publishCommandAck _ _ _ | publishConfigAck _ _ _
  | publishOTAAck _ _ _ | commandSubscribe _ | configSubscribe _ | yield _ => true
  | _ => false

/-- The calls that use the transport notice a loss exactly under `LossNoticed`. -/
theorem call_noticed_iff {call : Call} (huses : call.usesTransport = true) {s s' : Sdk}
    {log : List (LogEntry Sdk Answer Effect)} (h : (call.prog b).logged.Exec s () log s') :
    (Lost (transportEvents b log) → s'.client.currentState ≠ .connected) ↔
      LossNoticed s (transportEvents b log) := by
  have hchecked : ∀ {α : Type} {p : ClientM α}, (discard p).logged.Exec s () log s' →
      Notices b p → ((Lost (transportEvents b log) → s'.client.currentState ≠ .connected) ↔
        LossNoticed s (transportEvents b log)) :=
    fun h hp => (ensures_discard hp _ _ _ _ h).iff
  cases call with
  | connect => exact hchecked h fun _ _ _ _ hconnect => (connect_noticed hconnect).noticed
  | reconnect => exact (ensures_discard reconnect_resumed _ _ _ _ h).iff
  | publish payload => exact hchecked h (notices_publish payload)
  | dispatch => exact hchecked h notices_dispatch
  | dispatchEventFromJSONString _ _ _ _ => exact hchecked h notices_dispatchEventFromJSONString
  | dispatchEventFromEventDataObject _ _ _ =>
    exact hchecked h notices_dispatchEventFromEventDataObject
  | publishCommandAck _ _ _ => exact hchecked h (notices_publishProcessedAck _ _ _)
  | publishConfigAck _ _ _ => exact hchecked h (notices_publishProcessedAck _ _ _)
  | publishOTAAck _ _ _ => exact hchecked h (notices_publishOTAAck _ _ _)
  | commandSubscribe onMessage => exact hchecked h (notices_subscribe fun _ _ => rfl)
  | configSubscribe onMessage => exact hchecked h (notices_subscribe fun _ _ => rfl)
  | yield timeOut =>
    simp only [Call.prog, discard, Prog.logged_bind] at h
    obtain ⟨rc, log₁, s₁, log₂, hyield, ⟨-, rfl, rfl⟩, rfl⟩ := Prog.exec_bind.mp h
    rw [List.append_nil]
    exact yield_noticed_iff hyield
  | _ => simp [Call.usesTransport] at huses

/-- For every run of calls and all results of the transport, and for every call of the run
that uses the transport: that a loss leaves the client in a state other than `CONNECTED` is so
if and only if it is not one of the losses that the code does not look for. These are a replay
in `zclient_reconnect` that fails, and an `MQTTYield` on a connected client with a result that is
neither success nor failure, when the transport reports in the end that it is not connected. -/
theorem loss_noticed_iff (b : Build) {s s' : Sdk} {records : List CallRecord}
    (hrun : CallRun b s records s') : ∀ r ∈ records, r.call.usesTransport = true →
    ((Lost (transportEvents b r.log) → r.after.client.currentState ≠ .connected) ↔
      LossNoticed r.before (transportEvents b r.log)) :=
  fun _ hr huses => call_noticed_iff huses (hrun.exec_of_mem hr)

/-- The answers of a transport that works. -/
def workingAnswers (n : ℕ) (time : UInt64) : List Answer := List.replicate n { time := time }

/-- The answers of a transport whose connection has just broken. -/
def brokenAnswers : List Answer := List.replicate 12 { rc := -1, connected := false }

/-- A telemetry message that is refused because the connection broke. -/
theorem loss_noticed_publish : ∃ records s, CallRun plainBuild sampleSdk records s ∧
    records.map Atomic.Record.call = [.connect, .publish "x".toList] ∧
    ∃ r ∈ records, Lost (transportEvents plainBuild r.log) ∧
      r.after.client.currentState ≠ .connected := by
  obtain ⟨records, s, hrun, hcalls, htest⟩ := Atomic.exists_recorded (Call.prog plainBuild)
    [(.connect, workingAnswers 12 0), (.publish "x".toList, brokenAnswers)] sampleSdk
    (fun x => x.1.getLast?.any fun (r : CallRecord) => r.call.usesTransport &&
      decide (transportEvents plainBuild r.log = [.call .checked (-1) false, .query false]))
    (by decide +kernel)
  obtain ⟨r, hlast, hr⟩ := (Option.any_eq_true _ _).mp htest
  simp only [Bool.and_eq_true, decide_eq_true_eq] at hr
  have hmem := List.mem_of_getLast? hlast
  have hlost : Lost (transportEvents plainBuild r.log) := by
    rw [hr.2]
    exact ⟨⟨_, List.mem_cons_self, rfl⟩, rfl⟩
  refine ⟨records, s, hrun, hcalls, r, hmem, hlost, ?_⟩
  refine (loss_noticed_iff plainBuild hrun r hmem hr.1).mpr ⟨?_, ?_⟩ hlost
  · simp [hr.2]
  · simp [hr.2]

/-- The connection breaks while an ACK is published, and again while it is replayed: the client
still counts as connected. -/
theorem loss_unnoticed_replay : ∃ records s, CallRun plainBuild sampleSdk records s ∧
    records.map Atomic.Record.call =
      [.connect, .publishOTAAck (some "1".toList) 1001 (some "done".toList), .reconnect] ∧
    ∃ r ∈ records, r.call.usesTransport = true ∧ Lost (transportEvents plainBuild r.log) ∧
      r.after.client.currentState = .connected := by
  obtain ⟨records, s, hrun, hcalls, htest⟩ := Atomic.exists_recorded (Call.prog plainBuild)
    [(.connect, workingAnswers 12 0),
      (.publishOTAAck (some "1".toList) 1001 (some "done".toList), brokenAnswers),
      (.reconnect, workingAnswers 6 1000 ++ workingAnswers 19 2000 ++ brokenAnswers)] sampleSdk
    (fun x => x.1.getLast?.any fun (r : CallRecord) => r.call.usesTransport &&
      decide (r.after.client.currentState = .connected) &&
      decide ((transportEvents plainBuild r.log).getLast? = some (.call .replay (-1) false)))
    (by decide +kernel)
  obtain ⟨r, hlast, hr⟩ := (Option.any_eq_true _ _).mp htest
  simp only [Bool.and_eq_true, decide_eq_true_eq] at hr
  have hlost : Lost (transportEvents plainBuild r.log) := by
    refine ⟨⟨_, List.mem_of_getLast? hr.2, rfl⟩, ?_⟩
    rw [hr.2]
    rfl
  exact ⟨records, s, hrun, hcalls, r, List.mem_of_getLast? hlast, hr.1.1, hlost, hr.1.2⟩

end ZohoIotSdk
