import ZohoIotSdk.Session.Outcomes

/-!
# Restoring the session

The MQTT session is a clean one, so `zclient_reconnect` has to subscribe again to the topics
that have a handler, before it sends what was retained. `reconnect_resubscribes` says that it
does, and what is left alone when a subscription fails.
-/

namespace ZohoIotSdk

open Atomic (Prog)
open Atomic.Prog (Relates Composable relates_act relates_ite)

/-! ## The subscriptions of a client -/

/-- The successful subscription to a topic, if the topic has a handler. -/
def subscription (handler : Option ℕ) (topic : CString) : List Effect :=
  if handler = none then [] else [.subscribe topic 0]

/-- The successful subscriptions that a client needs, in order. -/
def subscriptions (c : ZohoIOTclient) : List Effect :=
  subscription c.onCommandMessageHandler c.commandTopic ++
    subscription c.onConfigMessageHandler c.configTopic

/-- The subscriptions that are wanted have succeeded. -/
theorem subscription_ok {c : ZohoIOTclient} {topic : CString} {rc : ℤ}
    (h : .subscribe topic rc ∈ subscriptions c) : rc = 0 := by
  unfold subscriptions subscription at h
  split at h <;> split at h <;> simp at h
  · exact h.2
  · exact h.2
  · exact h.elim And.right And.right

/-- The fields in which a client keeps what could not be published. -/
def ZohoIOTclient.retained (c : ZohoIOTclient) : Bool × ZfailedACK × Bool × ZfailedEvent :=
  (c.retryACK, c.failedACK, c.retryEvent, c.failedEvent)

/-- A subscription failed: one that was tried, or one that is needed after the server has
accepted the client and was not made. -/
def SubscriptionFailed (c : ZohoIOTclient) (es : List Effect) : Prop :=
  (∃ topic rc, .subscribe topic rc ∈ es ∧ rc ≠ 0) ∨
    (es.any Effect.isAccept = true ∧ ∃ e ∈ subscriptions c, e ∉ es)

/-- Steps of the connection leave the subscriptions. -/
theorem ConnectionStep.subscriptions {s s' : Sdk} {es : List Effect}
    (h : ConnectionStep s s' es) :
    ZohoIotSdk.subscriptions s'.client = ZohoIotSdk.subscriptions s.client := by
  have hfields := congrArg ZohoIotSdk.subscriptions h.fields
  exact hfields

/-- Steps of the connection leave the stored messages. -/
theorem ConnectionStep.retained {s s' : Sdk} {es : List Effect} (h : ConnectionStep s s' es) :
    s'.client.retained = s.client.retained := by
  have hfields := congrArg ZohoIOTclient.retained h.fields
  exact hfields

theorem Effect.isPlain_of_isConnection {e : Effect} (h : e.isConnection = true) :
    e.isPlain = true := by
  cases e <;> simp_all [Effect.isConnection, Effect.isPlain]

/-- Steps of the connection subscribe to nothing. -/
theorem ConnectionStep.no_subscribe {s s' : Sdk} {es : List Effect} (h : ConnectionStep s s' es)
    (topic : CString) (rc : ℤ) : .subscribe topic rc ∉ es := by
  intro hmem
  have hconnection := h.effects _ hmem
  simp [Effect.isConnection] at hconnection

/-! ## Subscribing again -/

/-- The client after a subscription has failed. -/
def Sdk.dropped (s : Sdk) : Sdk :=
  { s with client := { s.client with currentState := .disconnected } }

/-- What subscribing again to one topic can do: the handler is missing and nothing happens,
or the subscription succeeds, or it fails and the client is disconnected. -/
inductive ResubscribeOutcome (handler : Option ℕ) (topic : CString) (s : Sdk) :
    ℤ → List Effect → Sdk → Prop
  | done : ResubscribeOutcome handler topic s zsuccess (subscription handler topic) s
  | failed {rc : ℤ} (connected : Bool) (hrc : rc ≠ zsuccess) :
      ResubscribeOutcome handler topic s rc [.subscribe topic rc, .transport connected] s.dropped

/-- A subscription is renewed exactly when a handler is set. -/
theorem resubscribe_cases {handler : ZohoIOTclient → Option ℕ}
    {setHandler : Option ℕ → ZohoIOTclient → ZohoIOTclient} {topic : ZohoIOTclient → CString}
    (hset : ∀ c, setHandler (handler c) c = c) {s s' : Sdk} {rc : ℤ} {es : List Effect}
    (hstate : s.client.currentState = .connected)
    (h : (resubscribe handler (subscribe setHandler topic)).Exec s rc es s') :
    ResubscribeOutcome (handler s.client) (topic s.client) s rc es s' := by
  have hcode : clientStateCode s.client = 0 :=
    (clientStateCode_eq_zero_iff s).mpr (by simp [Live, hstate])
  refine Prog.Exec.of_wlp ?_ h
  unfold resubscribe subscribe validateClientState
  simp only [Prog.wlp_bind, Prog.wlp_act, Prog.wlp_ite, Prog.wlp_pure, wlp_readClient,
    wlp_modifyClient, wlp_transportConnected, wlp_setCurrentState, hcode, List.nil_append]
  split
  · rename_i hnone
    have hdone : [] = subscription (handler s.client) (topic s.client) := by
      simp [subscription, hnone]
    rw [hdone]
    exact .done
  · rename_i hsome
    -- the handler that is set is the one that was read
    simp only [hset, hstate, ne_eq, not_true_eq_false, if_false]
    intro w
    split
    · rename_i hrc
      have hdone : [Effect.subscribe (topic s.client) w.rc] =
          subscription (handler s.client) (topic s.client) := by
        simp [subscription, hsome, hrc, zsuccess]
      rw [hdone, hrc]
      exact .done
    · rename_i hrc
      exact fun w' => .failed w'.connected hrc

/-- The end of `zclient_reconnect`, once the subscriptions are there again. -/
def replayRetained (b : Build) : ClientM ℤ := do
  let ackDone ← replayFailedACK b
  if ackDone = false then pure zfailure
  else do
    let eventDone ← replayFailedEvent b
    if eventDone = false then pure zfailure else pure zsuccess

/-- What the two replays emit. -/
def ReplaysOnly (_ _ : Sdk) (es : List Effect) : Prop := ∀ e ∈ es, e.isReplay = true

theorem replaysOnly : Composable Always ReplaysOnly where
  refl _ := by simp [ReplaysOnly]
  trans h h' := by
    intro e he
    exact (List.mem_append.mp he).elim (h e) (h' e)
  keeps _ _ := trivial

/-- An atomic step whose effects are replays. -/
theorem replaysOnly_act {α : Type} {upd : Answer → Sdk → Sdk} {emit : Answer → Sdk → List Effect}
    {ret : Answer → Sdk → α} (h : ∀ w s, ∀ e ∈ emit w s, e.isReplay = true) :
    Relates Always ReplaysOnly (Prog.act upd emit ret : ClientM α) :=
  relates_act fun w s _ => h w s

theorem replaysOnly_replayFailedACK {b : Build} :
    Relates Always ReplaysOnly (replayFailedACK b) := by
  refine replaysOnly.bind (relates_readClient replaysOnly _) fun _ => ?_
  refine relates_ite (replaysOnly.pure _) (replaysOnly.bind ?_ fun doc => ?_)
  · exact replaysOnly_act (by simp [Effect.isReplay])
  · split
    · exact replaysOnly.pure _
    · refine replaysOnly.bind (replaysOnly_act (by simp [Effect.isReplay])) fun _ => ?_
      refine relates_ite (replaysOnly.bind ?_ fun _ => replaysOnly.pure _) (replaysOnly.pure _)
      exact replaysOnly_act (by simp [Effect.isReplay])

theorem replaysOnly_replayFailedEvent {b : Build} :
    Relates Always ReplaysOnly (replayFailedEvent b) := by
  have hclear : Relates Always ReplaysOnly clearFailedEvent :=
    replaysOnly_act (by simp [Effect.isReplay])
  refine replaysOnly.bind (relates_readClient replaysOnly _) fun _ => ?_
  refine relates_ite (replaysOnly.pure _) (replaysOnly.bind ?_ fun _ => relates_ite ?_ ?_)
  · exact replaysOnly_act (by simp [Effect.isReplay])
  · exact replaysOnly.bind hclear fun _ => replaysOnly.pure _
  · refine replaysOnly.bind (replaysOnly_act (by simp [Effect.isReplay])) fun doc => ?_
    split
    · exact replaysOnly.pure _
    · refine replaysOnly.bind (replaysOnly_act (by simp [Effect.isReplay])) fun _ => ?_
      exact relates_ite (replaysOnly.bind hclear fun _ => replaysOnly.pure _) (replaysOnly.pure _)

/-- The replays have no effects but replays. -/
theorem replaysOnly_replayRetained {b : Build} :
    Relates Always ReplaysOnly (replayRetained b) := by
  refine replaysOnly.bind replaysOnly_replayFailedACK fun _ => ?_
  refine relates_ite (replaysOnly.pure _) ?_
  refine replaysOnly.bind replaysOnly_replayFailedEvent fun _ => ?_
  exact relates_ite (replaysOnly.pure _) (replaysOnly.pure _)

/-- What restoring the session can do: the subscriptions are made and the replays follow, or
one of them fails and the client is disconnected. -/
inductive RestoreOutcome (s : Sdk) : List Effect → Sdk → Prop
  | replayed {es : List Effect} {s' : Sdk} (hreplay : ∀ e ∈ es, e.isReplay = true) :
      RestoreOutcome s (subscriptions s.client ++ es) s'
  | failed {es : List Effect} (hplain : ∀ e ∈ es, e.isPlain = true) :
      RestoreOutcome s es s.dropped

/-- Every run of restoring the session has one of the listed outcomes. -/
theorem restoreSession_cases {b : Build} {s s' : Sdk} {rc : ℤ} {es : List Effect}
    (hstate : s.client.currentState = .connected)
    (h : (restoreSession b).Exec s rc es s') : RestoreOutcome s es s' := by
  obtain ⟨rc₁, es₁, s₁, es₂, hcommand, h, rfl⟩ := Prog.exec_bind.mp h
  have hfirst : ResubscribeOutcome s.client.onCommandMessageHandler s.client.commandTopic s
      rc₁ es₁ s₁ := resubscribe_cases (fun _ => rfl) hstate hcommand
  cases hfirst with
  | failed connected hrc =>
    rw [if_pos hrc] at h
    rcases h with ⟨-, rfl, rfl⟩
    exact .failed (by simp [Effect.isPlain])
  | done =>
    rw [if_neg (not_not.mpr rfl)] at h
    obtain ⟨rc₂, es₃, s₂, es₄, hconfig, h, rfl⟩ := Prog.exec_bind.mp h
    have hsecond : ResubscribeOutcome s.client.onConfigMessageHandler s.client.configTopic s
        rc₂ es₃ s₂ := resubscribe_cases (fun _ => rfl) hstate hconfig
    cases hsecond with
    | failed connected hrc =>
      rw [if_pos hrc] at h
      rcases h with ⟨-, rfl, rfl⟩
      refine .failed fun e he => ?_
      unfold subscription at he
      split at he
      · simp at he
        rcases he with rfl | rfl <;> rfl
      · simp at he
        rcases he with rfl | rfl | rfl <;> rfl
    | done =>
      rw [if_neg (not_not.mpr rfl)] at h
      have hreplay : (replayRetained b).Exec s rc es₄ s' := h
      rw [← List.append_assoc]
      exact .replayed (replaysOnly_replayRetained _ _ _ _ trivial hreplay)

/-! ## Reconnecting -/

/-- What `zclient_reconnect` can do with the subscriptions and the retained documents. -/
inductive ResumeOutcome (s : Sdk) : List Effect → Sdk → Prop
  /-- No connection is made. -/
  | offline {es : List Effect} {s' : Sdk} (hstep : ConnectionStep s s' es)
      (hstate : s'.client.currentState ≠ .connected)
      (haccept : es.any Effect.isAccept = false) : ResumeOutcome s es s'
  | resumed {es es' : List Effect} {s₁ s' : Sdk} (hstep : ConnectionStep s s₁ es)
      (haccept : es.any Effect.isAccept = true) (hrestore : RestoreOutcome s₁ es' s') :
      ResumeOutcome s (es ++ es') s'

/-- An attempt that failed leaves the client unconnected. -/
theorem ConnectOutcome.not_connected {b : Build} {s s' : Sdk} {rc : ℤ} {es : List Effect}
    (h : ConnectOutcome b s rc es s') (hstate : s.client.currentState = .initialized)
    (hrc : rc ≠ zsuccess) : s'.client.currentState ≠ .connected := by
  cases h with
  | refused _ => simp [hstate]
  | already hconn => rw [hstate] at hconn; simp at hconn
  | pahoC _ _ _ _ _ _ _ hmoves =>
    have hrc' : ¬ rc = 0 := hrc
    simp [hmoves.state, hrc', hstate]
  | unreachable _ _ _ _ _ hmoves => simp [hmoves.state, hstate]
  | timeChanged _ _ _ hmoves => simp [hmoves.state]
  | rejected _ _ _ _ hmoves => simp [hmoves.state, hstate]
  | connected _ _ _ _ => exact absurd rfl hrc

/-- The client as it stands right before and right after an attempt. -/
theorem connectionStep_attempt {b : Build} {s s₁ : Sdk} {t : UInt64} (now : UInt64) {rc : ℤ}
    {es : List Effect}
    (hconnect : (zclientConnect b).Exec (s.attempting (startTimeAt s.client t)) rc es s₁) :
    ConnectionStep s s₁
      (startClock s.client t ++ [.clock now] ++ staleClose b s.client.currentState ++ es) := by
  have hbefore : ConnectionStep s (s.attempting (startTimeAt s.client t))
      (startClock s.client t ++ [.clock now] ++ staleClose b s.client.currentState) := by
    refine ⟨rfl, rfl, fun e he => ?_⟩
    unfold startClock staleClose closeEffect at he
    simp only [List.mem_append, List.mem_singleton] at he
    rcases he with (he | rfl) | he
    · split at he
      · rw [List.mem_singleton.mp he]
        rfl
      · simp at he
    · rfl
    · split at he
      · simp at he
      · rw [List.mem_singleton.mp he]
        split <;> rfl
  exact hbefore.trans (connectionStep_connect _ _ _ _ trivial hconnect)

/-- The server accepts the client exactly when the attempt succeeds. -/
theorem accept_of_attempt {b : Build} {s s₁ : Sdk} {t : UInt64} (now : UInt64) {rc : ℤ}
    {es : List Effect}
    (hconnect : ConnectOutcome b (s.attempting (startTimeAt s.client t)) rc es s₁) :
    (startClock s.client t ++ [Effect.clock now] ++ staleClose b s.client.currentState
      ++ es).any Effect.isAccept = decide (rc = 0) := by
  obtain ⟨-, hpre, hclose⟩ := reconnect_preamble b s.client t now
  obtain ⟨-, haccept⟩ := hconnect.attempt rfl
  rw [List.any_append, List.any_append, hpre, hclose, haccept, Bool.false_or, Bool.false_or]

/-- Every reconnect of a lost session has one of the listed outcomes. -/
theorem resume_cases {b : Build} {s s' : Sdk} {rc : ℤ} {es : List Effect}
    (h : (zclientReconnect b).Exec s rc es s') (hstate : s.client.currentState ≠ .connected) :
    ResumeOutcome s es s' := by
  cases reconnect_split h with
  | refused _ => exact .offline (connectionStep.refl s) hstate rfl
  | already hconn => exact absurd hconn hstate
  | @early t now _ _ _ =>
    refine .offline ⟨rfl, rfl, fun e he => ?_⟩ hstate (reconnect_preamble b s.client t now).2.1
    unfold startClock at he
    split at he
    · simp only [List.singleton_append, List.mem_cons, List.not_mem_nil, or_false] at he
      rcases he with rfl | rfl <;> rfl
    · simp only [List.nil_append, List.mem_singleton] at he
      rw [he]
      rfl
  | @failed t now t' rc' es₁ s₁ _ _ _ hconnect hrc =>
    have hstep := connectionStep_attempt now hconnect
    have haccept := accept_of_attempt now (connect_cases hconnect)
    refine .offline (hstep.trans ⟨rfl, rfl, by simp [Effect.isConnection]⟩) ?_ ?_
    · exact (connect_cases hconnect).not_connected rfl hrc
    · rw [List.any_append, haccept, decide_eq_false (show ¬ rc' = 0 from hrc)]
      simp [Effect.isAccept]
  | @restored t now rc' es₁ es₂ s₁ s₂ _ _ _ hconnect hrestore =>
    have hstep := connectionStep_attempt now hconnect
    have haccept := accept_of_attempt now (connect_cases hconnect)
    have hresumed : ConnectionStep s s₁.resumed _ := ⟨hstep.fields, hstep.globals, hstep.effects⟩
    exact .resumed hresumed haccept (restoreSession_cases rfl hrestore)

/-- For every client that is not connected, and all results of the transport. If
`zclient_reconnect` leaves the client connected, the server has accepted it, and what follows
begins with the successful subscription of every topic that has a handler; a retained ACK or
event is published after that only. If a subscription fails, the client ends up disconnected
and the retained ACK and event are neither published nor dropped. -/
theorem reconnect_resubscribes (b : Build) {s s' : Sdk} {rc : ℤ} {es : List Effect}
    (h : (zclientReconnect b).Exec s rc es s') (hstate : s.client.currentState ≠ .connected) :
    (s'.client.currentState = .connected → ∃ connecting replays,
      es = connecting ++ subscriptions s.client ++ replays ∧
      connecting.any Effect.isAccept = true ∧ ∀ e ∈ connecting, e.isPlain = true) ∧
    (SubscriptionFailed s.client es → s'.client.currentState = .disconnected ∧
      s'.client.retained = s.client.retained ∧ ∀ e ∈ es, e.isPlain = true) := by
  cases resume_cases h hstate with
  | offline hstep hoff haccept =>
    refine ⟨fun hconn => absurd hconn hoff, ?_⟩
    rintro (⟨topic, rc', hmem, -⟩ | ⟨haccept', -⟩)
    · exact absurd hmem (hstep.no_subscribe topic rc')
    · rw [haccept] at haccept'
      simp at haccept'
  | @resumed es₁ es₂ s₁ _ hstep haccept hrestore =>
    have hplain : ∀ e ∈ es₁, e.isPlain = true := fun e he =>
      Effect.isPlain_of_isConnection (hstep.effects e he)
    cases hrestore with
    | @replayed replays _ hreplay =>
      rw [hstep.subscriptions]
      refine ⟨fun _ => ⟨es₁, replays, by simp, haccept, hplain⟩, ?_⟩
      rintro (⟨topic, rc', hmem, hrc⟩ | ⟨-, e, he, hmissing⟩)
      · rcases List.mem_append.mp hmem with hmem | hmem
        · exact absurd hmem (hstep.no_subscribe topic rc')
        · rcases List.mem_append.mp hmem with hmem | hmem
          · exact absurd (subscription_ok hmem) hrc
          · have hsubscribe := hreplay _ hmem
            simp [Effect.isReplay] at hsubscribe
      · simp [he] at hmissing
    | failed hplain' =>
      refine ⟨by simp [Sdk.dropped], fun _ => ⟨rfl, hstep.retained, ?_⟩⟩
      intro e he
      exact (List.mem_append.mp he).elim (hplain e) (hplain' e)

/-- A client that lost its connection, with a handler for commands and a retained ACK. -/
def lostSdk : Sdk :=
  { embeddedSdk with client := { embeddedSdk.client with
      currentState := .disconnected, startTime := 1, onCommandMessageHandler := some 1,
      retryACK := true, failedACK := { ackPayload := some cJSONCreateObject } } }

/-- Is the effect this subscription? -/
def Effect.isSubscribe (topic : CString) (rc : ℤ) : Effect → Bool
  | .subscribe topic' rc' => decide (topic' = topic ∧ rc' = rc)
  | _ => false

theorem Effect.any_isSubscribe_iff (topic : CString) (rc : ℤ) (es : List Effect) :
    es.any (Effect.isSubscribe topic rc) = true ↔ .subscribe topic rc ∈ es := by
  rw [List.any_eq_true]
  constructor
  · rintro ⟨e, he, hsubscribe⟩
    cases e with
    | subscribe topic' rc' =>
      obtain ⟨rfl, rfl⟩ := of_decide_eq_true hsubscribe
      exact he
    | _ => simp [Effect.isSubscribe] at hsubscribe
  · intro hmem
    exact ⟨_, hmem, by simp [Effect.isSubscribe]⟩

/-- Such a client subscribes to the command topic again, or stays disconnected and keeps the
ACK. -/
theorem reconnect_resubscribes_lost :
    (∃ rc es s', (zclientReconnect embeddedBuild).Exec lostSdk rc es s' ∧
      s'.client.currentState = .connected ∧ ∃ connecting replays,
        es = connecting ++ [.subscribe lostSdk.client.commandTopic 0] ++ replays) ∧
    ∃ rc es s', (zclientReconnect embeddedBuild).Exec lostSdk rc es s' ∧
      .subscribe lostSdk.client.commandTopic (-1) ∈ es ∧
      s'.client.currentState = .disconnected ∧ s'.client.retryACK = true := by
  have hstate : lostSdk.client.currentState ≠ .connected := by decide +kernel
  constructor
  · have hrun : ((zclientReconnect embeddedBuild).run (List.replicate 60 { time := 1000 })
        lostSdk).any (fun x => decide (x.2.2.client.currentState = .connected)) = true := by
      decide +kernel
    obtain ⟨rc, es, s', hexec, hconn⟩ := Prog.exists_exec_of_run hrun
    have hconn' : s'.client.currentState = .connected := of_decide_eq_true hconn
    obtain ⟨connecting, replays, hes, -⟩ :=
      (reconnect_resubscribes embeddedBuild hexec hstate).1 hconn'
    exact ⟨rc, es, s', hexec, hconn', connecting, replays, hes⟩
  · -- the server accepts the client, and the answers turn to errors before the subscription
    have hrun : ((zclientReconnect embeddedBuild).run (List.replicate 20 { time := 1000 } ++
        List.replicate 20 { rc := -1, time := 1000 }) lostSdk).any (fun x =>
          x.2.1.any (Effect.isSubscribe lostSdk.client.commandTopic (-1))) = true := by
      decide +kernel
    obtain ⟨rc, es, s', hexec, htried⟩ := Prog.exists_exec_of_run hrun
    have hmem := (Effect.any_isSubscribe_iff _ _ es).mp htried
    obtain ⟨hdisconnected, hretained, -⟩ := (reconnect_resubscribes embeddedBuild hexec hstate).2
      (.inl ⟨_, _, hmem, by decide⟩)
    exact ⟨rc, es, s', hexec, hmem, hdisconnected, congrArg Prod.fst hretained⟩

end ZohoIotSdk
