import ZohoIotSdk.Session.Outcomes

/-!
# Closing the network connection

In the embedded build the SDK closes the network connection of a client when it leaves
`CONNECTED`, and also when it meets a client that is `DISCONNECTED`. That state does not say
whether the connection was lost, and is still open, or has been closed already.
`closed_when_open_iff` gives the runs in which only an open connection is closed.
-/

namespace ZohoIotSdk

open Atomic (Prog EachAfter eachAfter_cons eachAfter_append emitted)

/-! ## The connection, as the network calls leave it -/

/-- Is the connection of the client open after an effect? `zclient_connect` forgets the old
connection (`NetworkInit`) before it opens a new one. -/
def openAfter (isOpen : Bool) : Effect → Bool
  | .networkConnect _ rc => decide (rc = 0)
  | .networkDisconnect => false
  | _ => isOpen

/-- Is the connection open after some effects? -/
def openFrom (isOpen : Bool) (es : List Effect) : Bool := es.foldl openAfter isOpen

@[simp] theorem openFrom_nil (o : Bool) : openFrom o [] = o := rfl

@[simp] theorem openFrom_cons (o : Bool) (e : Effect) (es : List Effect) :
    openFrom o (e :: es) = openFrom (openAfter o e) es := rfl

@[simp] theorem openFrom_append (o : Bool) (es es' : List Effect) :
    openFrom o (es ++ es') = openFrom (openFrom o es) es' := List.foldl_append

/-- Every `NetworkDisconnect` meets an open connection, which was open before if `isOpen`. -/
def ClosedWhenOpen (isOpen : Bool) (es : List Effect) : Prop :=
  EachAfter (fun before e => e = .networkDisconnect → openFrom isOpen before = true) es

@[simp] theorem closedWhenOpen_nil (o : Bool) : ClosedWhenOpen o [] := Atomic.eachAfter_nil

/-- The first effect is judged before it takes place. -/
@[simp] theorem closedWhenOpen_cons (o : Bool) (e : Effect) (es : List Effect) :
    ClosedWhenOpen o (e :: es) ↔
      (e = .networkDisconnect → o = true) ∧ ClosedWhenOpen (openAfter o e) es :=
  eachAfter_cons

/-- The second part is judged from where the first one ends. -/
@[simp] theorem closedWhenOpen_append (o : Bool) (es es' : List Effect) :
    ClosedWhenOpen o (es ++ es') ↔ ClosedWhenOpen o es ∧ ClosedWhenOpen (openFrom o es) es' := by
  unfold ClosedWhenOpen
  rw [eachAfter_append]
  simp only [openFrom_append]

/-- Does the effect close the connection? -/
def Effect.isClose : Effect → Bool
  | .networkDisconnect => true
  | _ => false

theorem Effect.isClose_iff (e : Effect) : e.isClose = true ↔ e = .networkDisconnect := by
  cases e <;> simp [Effect.isClose]

instance decidableClosedWhenOpen : (o : Bool) → (es : List Effect) →
    Decidable (ClosedWhenOpen o es)
  | o, [] => isTrue (closedWhenOpen_nil o)
  | o, e :: es =>
    have := decidableClosedWhenOpen (openAfter o e) es
    decidable_of_iff ((e.isClose = true → o = true) ∧ ClosedWhenOpen (openAfter o e) es)
      (by rw [closedWhenOpen_cons, e.isClose_iff])

/-- Effects that are no part of the session. -/
theorem network_untouched {es : List Effect} (h : ∀ e ∈ es, e.isSession = false) (o : Bool) :
    ClosedWhenOpen o es ∧ openFrom o es = o := by
  induction es with
  | nil => simp
  | cons e es ih =>
    rw [List.forall_mem_cons] at h
    have hopen : openAfter o e = o := by
      cases e <;> simp_all [openAfter, Effect.isSession]
    rw [closedWhenOpen_cons, openFrom_cons, hopen]
    refine ⟨⟨?_, (ih h.2).1⟩, (ih h.2).2⟩
    rintro rfl
    simp [Effect.isSession] at h

/-! ## One call -/

/-- The readings of the clock. -/
def clockReadings (es : List Effect) : List UInt64 :=
  es.filterMap fun
    | .clock t => some t
    | _ => none

/-- Is the waiting time of `zclient_reconnect` over, by its readings of the clock? -/
def reconnectDue (c : ZohoIOTclient) (readings : List UInt64) : Bool :=
  delayPassed (if c.startTime = 0 then readings.getD 1 0 else readings.getD 0 0)
    (startTimeAt c (readings.getD 0 0)) c.zretryInterval

/-- A call on a client that is `DISCONNECTED` may close its connection only if that is open. -/
structure ClosesOpen (isOpen : Bool) (r : CallRecord) : Prop where
  disconnect : r.call = .disconnect → isOpen = true
  reconnect : r.call = .reconnect →
    reconnectDue r.before.client (clockReadings r.effects) = true → isOpen = true
  connect : r.call = .connect → ∀ port, .networkConnect port (-11) ∉ r.effects

/-- What is known of a client in a run: it has been initialised, and its connection is open
while it is connected. -/
structure OpenWhileConnected (isOpen : Bool) (s : Sdk) : Prop where
  live : Live s
  connected : s.client.currentState = .connected → isOpen = true

/-- Whether the reconnect is due, from the two clock readings it takes. -/
theorem reconnectDue_of_readings (c : ZohoIOTclient) (t now : UInt64) (rest : List Effect) :
    reconnectDue c (clockReadings (startClock c t ++ [.clock now] ++ rest)) =
      delayPassed now (startTimeAt c t) c.zretryInterval := by
  unfold reconnectDue clockReadings startClock startTimeAt
  by_cases hzero : c.startTime = 0
  · simp [hzero]
  · simp [hzero]

variable {b : Build}

/-- An attempt to connect closes a connection of a client that is not connected only after
the device time has changed. -/
theorem ConnectOutcome.closedWhenOpen_iff (hb : b.pahoC = false) {s s' : Sdk} {rc : ℤ}
    {es : List Effect} (h : ConnectOutcome b s rc es s') {o : Bool} (hs : OpenWhileConnected o s) :
    (ClosedWhenOpen o es ↔ (s.client.currentState = .disconnected →
      ∀ port, .networkConnect port (-11) ∉ es)) ∧ OpenWhileConnected (openFrom o es) s' := by
  cases h with
  | refused hlive => exact absurd hs.live hlive
  | already _ => exact ⟨by simp, hs⟩
  | pahoC hb' => rw [hb] at hb'; simp at hb'
  | unreachable _ hlive hstate hrc hrc' hmoves =>
    refine ⟨by simp [Ne.symm hrc'], ?_, fun hconn => ?_⟩
    · unfold Live
      rwa [hmoves.state]
    · rw [hmoves.state] at hconn
      exact absurd hconn hstate
  | timeChanged _ hlive hstate hmoves =>
    refine ⟨?_, ?_, ?_⟩
    · cases hst : s.client.currentState with
      | zeroed => exact absurd hst hlive
      | connected => exact absurd hst hstate
      | initialized => simp [openAfter]
      | disconnected => simp [openAfter]
    · simp [Live, hmoves.state]
    · simp [hmoves.state]
  | rejected _ hlive hstate hrc hmoves =>
    refine ⟨by simp [openAfter], ?_, fun hconn => ?_⟩
    · unfold Live
      rwa [hmoves.state]
    · rw [hmoves.state] at hconn
      exact absurd hconn hstate
  | connected _ hlive hstate hmoves =>
    refine ⟨by simp [openAfter], ?_, ?_⟩
    · simp [Live, hmoves.state]
    · simp [openAfter]

/-- A call that is quiet. -/
theorem OpenWhileConnected.quiet {o : Bool} {s s' : Sdk} {es : List Effect}
    (hs : OpenWhileConnected o s) (h : Quiet s s' es) :
    ClosedWhenOpen o es ∧ OpenWhileConnected (openFrom o es) s' := by
  obtain ⟨hclosed, hopen⟩ := network_untouched h.effects o
  rw [hopen]
  refine ⟨hclosed, h.live hs.live, fun hconn => ?_⟩
  rcases h.state with heq | ⟨-, heq⟩
  · exact hs.connected (heq ▸ hconn)
  · rw [heq] at hconn
    simp at hconn

/-- A connection that is closed before the client is connected again. -/
theorem closedWhenOpen_staleClose (hb : b.pahoC = false) {o : Bool} {s : Sdk}
    (hs : OpenWhileConnected o s) (hstate : s.client.currentState ≠ .connected) :
    ClosedWhenOpen o (staleClose b s.client.currentState) ↔
      (s.client.currentState = .disconnected → o = true) := by
  unfold staleClose closeEffect
  cases hst : s.client.currentState with
  | zeroed => exact absurd hst hs.live
  | connected => exact absurd hst hstate
  | initialized => simp
  | disconnected => simp [hb]

/-- The readings of the clock leave the connection alone. -/
theorem network_startClock (c : ZohoIOTclient) (t now : UInt64) (o : Bool) :
    ClosedWhenOpen o (startClock c t ++ [.clock now]) ∧
      openFrom o (startClock c t ++ [.clock now]) = o := by
  refine network_untouched (fun e he => ?_) o
  unfold startClock at he
  split at he
  · simp only [List.mem_append, List.mem_singleton] at he
    rcases he with rfl | rfl <;> rfl
  · simp only [List.nil_append, List.mem_singleton] at he
    rw [he]
    rfl

/-- Closing a connection and connecting again, from the state in which the attempt is made. -/
theorem closedWhenOpen_attempt (hb : b.pahoC = false) {s s₁ : Sdk} {o : Bool}
    (hs : OpenWhileConnected o s) (hstate : s.client.currentState ≠ .connected) (now : UInt64)
    {t : UInt64} {rc : ℤ} {es₁ : List Effect}
    (hconnect : ConnectOutcome b (s.attempting (startTimeAt s.client t)) rc es₁ s₁) :
    (ClosedWhenOpen o (startClock s.client t ++ [.clock now]
      ++ staleClose b s.client.currentState ++ es₁) ↔
      (s.client.currentState = .disconnected → o = true)) ∧
    OpenWhileConnected (openFrom o (startClock s.client t ++ [.clock now]
      ++ staleClose b s.client.currentState ++ es₁)) s₁ := by
  obtain ⟨hclosed, hopen⟩ := network_startClock s.client t now o
  obtain ⟨hiff, hs₁⟩ := hconnect.closedWhenOpen_iff hb
    (o := openFrom o (staleClose b s.client.currentState)) ⟨by simp [Live, Sdk.attempting],
      by simp [Sdk.attempting]⟩
  generalize startClock s.client t ++ [.clock now] = clocks at hclosed hopen ⊢
  rw [closedWhenOpen_append, closedWhenOpen_append, openFrom_append, openFrom_append,
    openFrom_append, hopen]
  refine ⟨?_, hs₁⟩
  rw [hiff, closedWhenOpen_staleClose hb hs hstate]
  simp [hclosed, Sdk.attempting]

/-- A reconnect closes a network that is not open when it is due on a disconnected client. -/
theorem ReconnectOutcome.closedWhenOpen_iff (hb : b.pahoC = false) {s s' : Sdk} {rc : ℤ}
    {es : List Effect} (h : ReconnectOutcome b s rc es s') {o : Bool}
    (hs : OpenWhileConnected o s) :
    (ClosedWhenOpen o es ↔ (s.client.currentState = .disconnected →
      reconnectDue s.client (clockReadings es) = true → o = true)) ∧
    OpenWhileConnected (openFrom o es) s' := by
  cases h with
  | refused hlive => exact absurd hs.live hlive
  | already hstate => exact ⟨by simp [hstate], hs⟩
  | @early t now _ hstate hearly =>
    obtain ⟨hclosed, hopen⟩ := network_startClock s.client t now o
    have hreadings := reconnectDue_of_readings s.client t now []
    rw [List.append_nil, hearly] at hreadings
    rw [hopen]
    exact ⟨by simp [hclosed, hreadings], hs.live, hs.connected⟩
  | @failed t now t' rc' es₁ s₁ hlive hstate hdue hconnect hrc =>
    obtain ⟨hiff, hs₁⟩ := closedWhenOpen_attempt hb hs hstate now hconnect
    have hreadings := reconnectDue_of_readings s.client t now
      (staleClose b s.client.currentState ++ es₁ ++ [.clock t'])
    simp only [← List.append_assoc] at hreadings
    rw [hreadings, hdue]
    generalize startClock s.client t ++ [.clock now] ++ staleClose b s.client.currentState ++ es₁ =
      attempt at hiff hs₁ ⊢
    rw [closedWhenOpen_append, openFrom_append, hiff]
    exact ⟨by simp, hs₁.live, hs₁.connected⟩
  | @restored t now rc' es₁ es₂ s₁ s₂ hlive hstate hdue hconnect hrestore =>
    obtain ⟨hiff, hs₁⟩ := closedWhenOpen_attempt hb hs hstate now hconnect
    have hreadings := reconnectDue_of_readings s.client t now
      (staleClose b s.client.currentState ++ es₁ ++ es₂)
    simp only [← List.append_assoc] at hreadings
    rw [hreadings, hdue]
    generalize startClock s.client t ++ [.clock now] ++ staleClose b s.client.currentState ++ es₁ =
      attempt at hiff hs₁ ⊢
    have hresumed : OpenWhileConnected (openFrom o attempt) s₁.resumed :=
      ⟨by simp [Live, Sdk.resumed], fun _ => hs₁.connected hconnect.connected_of_success⟩
    obtain ⟨hclosed, hs₂⟩ :=
      hresumed.quiet (inert_restoreSession _ _ _ _ trivial hrestore).quiet
    rw [closedWhenOpen_append, openFrom_append, hiff]
    exact ⟨by simp [hclosed], hs₂⟩

/-- A disconnect closes a network that is not open when the client is disconnected already. -/
theorem DisconnectEffects.closedWhenOpen_iff (hb : b.pahoC = false) {s : Sdk} {es : List Effect}
    (h : DisconnectEffects b s.client.currentState es) {o : Bool} (hs : OpenWhileConnected o s) :
    ClosedWhenOpen o es ↔ (s.client.currentState = .disconnected → o = true) := by
  have hclose : closeEffect b = .networkDisconnect := by simp [closeEffect, hb]
  generalize hstate : s.client.currentState = st at h
  cases h with
  | initialized => simp
  | connected rc => simp [hclose, openAfter, hs.connected hstate]
  | other hinit hconn =>
    cases st with
    | zeroed => exact absurd hstate hs.live
    | initialized => exact absurd rfl hinit
    | connected => exact absurd rfl hconn
    | disconnected => simp [hclose]

theorem InitOutcome.openWhileConnected {args : InitArgs} {s s' : Sdk} {rc : ℤ}
    (h : InitOutcome b args s rc s') {o : Bool} (hs : OpenWhileConnected o s) :
    OpenWhileConnected o s' := by
  cases h with
  | rejected _ => exact hs
  | failed _ hstate _ _ =>
    refine ⟨?_, fun hconn => hs.connected (hstate ▸ hconn)⟩
    unfold Live
    rw [hstate]
    exact hs.live
  | initialized _ hstate _ _ => exact ⟨by simp [Live, hstate], by simp [hstate]⟩

/-- One call closes open connections only if and only if, where it finds the client
`DISCONNECTED`, it meets the condition. -/
theorem closedWhenOpen_step (hb : b.pahoC = false) {r : CallRecord}
    (h : (r.call.prog b).Exec r.before () r.effects r.after) {o : Bool}
    (hs : OpenWhileConnected o r.before) :
    (ClosedWhenOpen o r.effects ↔
      (r.before.client.currentState = .disconnected → ClosesOpen o r)) ∧
    OpenWhileConnected (openFrom o r.effects) r.after := by
  -- calls that close nothing, or only what is open
  have hother : r.call ≠ .disconnect → r.call ≠ .reconnect → r.call ≠ .connect →
      ClosedWhenOpen o r.effects → (ClosedWhenOpen o r.effects ↔
        (r.before.client.currentState = .disconnected → ClosesOpen o r)) := by
    intro hd hr hc hclosed
    exact ⟨fun _ _ => ⟨fun h => absurd h hd, fun h => absurd h hr, fun h => absurd h hc⟩,
      fun _ => hclosed⟩
  have hclose : closeEffect b = .networkDisconnect := by simp [closeEffect, hb]
  cases call_cases h with
  | quiet hcall hquiet =>
    obtain ⟨hclosed, hs'⟩ := hs.quiet hquiet
    refine ⟨hother ?_ ?_ ?_ hclosed, hs'⟩
    all_goals
      intro heq
      simp [heq, Call.isSession] at hcall
  | init args rc hcall hes houtcome =>
    refine ⟨hother (by simp [hcall]) (by simp [hcall]) (by simp [hcall]) (by simp [hes]), ?_⟩
    rw [hes]
    exact houtcome.openWhileConnected hs
  | left rc hcall hstate hafter hes =>
    have hopen := hs.connected hstate
    simp only [hb, hclose, Bool.false_eq_true, if_false, List.append_nil] at hes
    refine ⟨hother (by simp [hcall]) (by simp [hcall]) (by simp [hcall]) ?_, ?_⟩
    · simp [hes, hopen, openAfter]
    · rw [hafter]
      exact ⟨by simp [Live], by simp⟩
  | free hcall hafter hes =>
    simp only [hb, Bool.false_eq_true, if_false] at hes
    refine ⟨hother (by simp [hcall]) (by simp [hcall]) (by simp [hcall]) (by simp [hes]), ?_⟩
    rw [hes, hafter]
    exact hs
  | disconnect hcall heffects hafter =>
    have hiff : ClosesOpen o r ↔ o = true :=
      ⟨fun h => h.disconnect hcall, fun h => ⟨fun _ => h, by simp [hcall], by simp [hcall]⟩⟩
    rw [hiff, hafter]
    exact ⟨heffects.closedWhenOpen_iff hb hs, by simp [Live], by simp⟩
  | connect rc hcall houtcome =>
    obtain ⟨hiff, hs'⟩ := houtcome.closedWhenOpen_iff hb hs
    refine ⟨hiff.trans (forall_congr' fun _ => ?_), hs'⟩
    exact ⟨fun h => ⟨by simp [hcall], by simp [hcall], fun _ => h⟩, fun h => h.connect hcall⟩
  | reconnect rc hcall houtcome =>
    obtain ⟨hiff, hs'⟩ := houtcome.closedWhenOpen_iff hb hs
    refine ⟨hiff.trans (forall_congr' fun _ => ?_), hs'⟩
    exact ⟨fun h => ⟨by simp [hcall], fun _ => h, by simp [hcall]⟩, fun h => h.reconnect hcall⟩

/-! ## Runs -/

/-- In the embedded build, for every run of calls after a successful `zclient_init` and all
results of the network and MQTT calls: every `NetworkDisconnect` meets a connection that was
opened and has not been closed since if and only if every call that finds the client
`DISCONNECTED` meets `ClosesOpen`: `zclient_disconnect`, and a `zclient_reconnect` whose waiting
time is over, find the connection open, and in `zclient_connect` the network does not report
that the device time has changed. -/
theorem closed_when_open_iff (b : Build) (hb : b.pahoC = false) {args : InitArgs} {s₀ s s' : Sdk}
    {es : List Effect} (hinit : (zclientInit b args).Exec s₀ zsuccess es s)
    {records : List CallRecord} (hrun : CallRun b s records s') :
    ClosedWhenOpen false (emitted records) ↔
    EachAfter (fun before r => r.before.client.currentState = .disconnected →
      ClosesOpen (openFrom false (emitted before)) r) records := by
  have hstart : s.client.currentState = .initialized := by
    obtain ⟨-, houtcome⟩ := init_cases hinit
    generalize hrc : zsuccess = rc at houtcome
    cases houtcome with
    | rejected _ => exact absurd hrc.symm zfailure_ne_zsuccess
    | failed _ _ _ _ => exact absurd hrc.symm zfailure_ne_zsuccess
    | initialized _ hstate _ _ => exact hstate
  -- along the run, together with what is known of the client
  suffices h : (ClosedWhenOpen false (emitted records) ↔
      EachAfter (fun before r => r.before.client.currentState = .disconnected →
        ClosesOpen (openFrom false (emitted before)) r) records) ∧
      OpenWhileConnected (openFrom false (emitted records)) s' from h.1
  refine hrun.invariant (I := fun s' records => (ClosedWhenOpen false (emitted records) ↔
      EachAfter (fun before r => r.before.client.currentState = .disconnected →
        ClosesOpen (openFrom false (emitted before)) r) records) ∧
      OpenWhileConnected (openFrom false (emitted records)) s') ?_ ?_
  · exact ⟨by simp [emitted], by simp [Live, hstart], by simp [hstart]⟩
  · rintro s₁ records call log s₂ ⟨hiff, hs₁⟩ hexec
    have hstep := closedWhenOpen_step hb (r := ⟨s₁, call, log, s₂⟩) (Prog.exec_of_logged hexec) hs₁
    rw [Atomic.emitted_snoc, closedWhenOpen_append, openFrom_append, Atomic.eachAfter_snoc, hiff,
      hstep.1]
    exact ⟨Iff.rfl, hstep.2⟩

/-- The connection is lost, and closed by `zclient_disconnect`: it was open. -/
theorem closed_when_open_lost : ∃ records s, CallRun embeddedBuild embeddedSdk records s ∧
    records.map Atomic.Record.call = [.connect, .yield 1000, .disconnect] ∧
    ClosedWhenOpen false (emitted records) := by
  obtain ⟨records, s, hrun, hcalls, htest⟩ :=
    Atomic.exists_recorded (Call.prog embeddedBuild)
      [(.connect, List.replicate 12 {}),
        (.yield 1000, List.replicate 12 { rc := -1, connected := false, time := 100 }),
        (.disconnect, List.replicate 5 {})]
      embeddedSdk
      (fun x => Atomic.checkAfter (fun before (r : CallRecord) =>
        decide (r.before.client.currentState ≠ .disconnected) ||
        (openFrom false (emitted before) && !r.effects.any Effect.isAttempt)) x.1)
      (by decide +kernel)
  refine ⟨records, s, hrun, hcalls, ?_⟩
  refine (closed_when_open_iff embeddedBuild rfl embeddedSdk_init hrun).mpr ?_
  refine Atomic.eachAfter_of_check htest fun before r hr hstate => ?_
  simp only [hstate, ne_eq, not_true_eq_false, decide_false, Bool.false_or, Bool.and_eq_true,
    Bool.not_eq_true', List.any_eq_false] at hr
  refine ⟨fun _ => hr.1, fun _ _ => hr.1, fun _ port hmem => ?_⟩
  exact hr.2 _ hmem rfl

/-- A connection that `zclient_disconnect` has closed is closed once more by the next
`zclient_reconnect`, and one that was never opened is closed by the second of two
`zclient_disconnect` calls. -/
theorem closed_when_not_open :
    (∃ records s, CallRun embeddedBuild embeddedSdk records s ∧
      records.map Atomic.Record.call = [.connect, .disconnect, .reconnect] ∧
      ¬ ClosedWhenOpen false (emitted records)) ∧
    ∃ records s, CallRun embeddedBuild embeddedSdk records s ∧
      records.map Atomic.Record.call = [.disconnect, .disconnect] ∧
      ¬ ClosedWhenOpen false (emitted records) := by
  have hclosed : ∀ calls : List (Call × List Answer),
      ((Atomic.recordAll (Call.prog embeddedBuild) calls embeddedSdk).any fun x =>
        !decide (ClosedWhenOpen false (emitted x.1))) = true →
      ∃ records s, CallRun embeddedBuild embeddedSdk records s ∧
        records.map Atomic.Record.call = calls.map Prod.fst ∧
        ¬ ClosedWhenOpen false (emitted records) := by
    intro calls h
    obtain ⟨records, s, hrun, hcalls, htest⟩ := Atomic.exists_recorded _ _ _ _ h
    exact ⟨records, s, hrun, hcalls, by simpa using htest⟩
  constructor
  · exact hclosed [(.connect, List.replicate 12 {}), (.disconnect, List.replicate 5 {}),
      (.reconnect, unreachableAnswers 0)] (by decide +kernel)
  · exact hclosed [(.disconnect, List.replicate 5 {}), (.disconnect, List.replicate 5 {})]
      (by decide +kernel)

end ZohoIotSdk
