import ZohoIotSdk.Session.Outcomes

/-!
# Which clients pass `validateClientState`

Most public functions refuse a client whose state is not one of the three of
`ZclientConnectionState` (`guarded_refused`). The check looks at one field only, which
`zclient_free` leaves as it is, a failed `zclient_init` does not reset, and
`zclient_disconnect` sets without looking. `guard_passed_iff` compares it with the history of
the client.
-/

namespace ZohoIotSdk

open Atomic (Prog)

/-! ## The guarded functions -/

/-- The calls that begin with `validateClientState`. -/
def Call.isGuarded : Call → Bool
  | .connect | .reconnect | .yield _ | .commandSubscribe _ | .configSubscribe _
  | .addNumber _ _ _ | .addString _ _ _ | .addObject _ _ _ | .markDataPointAsError _ _
  | .publish _ | .dispatch | .dispatchEventFromJSONString _ _ _ _
  | .dispatchEventFromEventDataObject _ _ _ | .publishCommandAck _ _ _ | .publishConfigAck _ _ _
  | .publishOTAAck _ _ _ => true
  | _ => false

/-- A call that the guard refuses does nothing. -/
theorem validated_refused {p : ClientM ℤ} {s s' : Sdk} {es : List Effect}
    (hcode : clientStateCode s.client ≠ 0) (h : (discard do
      let rc ← validateClientState
      if rc ≠ 0 then pure rc else p).Exec s () es s') : es = [] ∧ s' = s := by
  obtain ⟨rc, hexec⟩ := exec_of_discard h
  rw [validateClientState, exec_readClient_bind, if_pos hcode] at hexec
  exact hexec.2

/-- A client that does not pass is refused: nothing is done. -/
theorem guarded_refused {b : Build} {call : Call} (hguard : call.isGuarded = true) {s s' : Sdk}
    {es : List Effect} (hcode : clientStateCode s.client ≠ 0)
    (h : (call.prog b).Exec s () es s') : es = [] ∧ s' = s := by
  cases call with
  | connect | reconnect | yield _ | commandSubscribe _ | configSubscribe _ | addNumber _ _ _
  | addString _ _ _ | addObject _ _ _ | markDataPointAsError _ _ | publish _ | dispatch
  | dispatchEventFromJSONString _ _ _ _ | dispatchEventFromEventDataObject _ _ _
  | publishCommandAck _ _ _ | publishConfigAck _ _ _ | publishOTAAck _ _ _ =>
    exact validated_refused hcode h
  | _ => simp [Call.isGuarded] at hguard

/-! ## How a client comes to pass -/

/-- A `zclient_init` that returned `ZSUCCESS`. -/
def InitSucceeded (r : CallRecord) : Prop :=
  (∃ args, r.call = .init args) ∧ .init zsuccess ∈ r.effects

/-- Connecting neither initialises nor frees the client. -/
theorem ConnectOutcome.live_iff {b : Build} {s s' : Sdk} {rc : ℤ} {es : List Effect}
    (h : ConnectOutcome b s rc es s') : Live s' ↔ Live s := by
  have hmoves : ∀ {st}, Live s → st ≠ .zeroed → Moves s st s' → (Live s' ↔ Live s) := by
    intro st hlive hst hm
    refine ⟨fun _ => hlive, fun _ => ?_⟩
    unfold Live
    rwa [hm.state]
  cases h with
  | refused _ => rfl
  | already _ => rfl
  | pahoC _ hlive _ _ _ _ _ hm =>
    refine hmoves hlive ?_ hm
    split
    · simp
    · exact hlive
  | unreachable _ hlive _ _ _ hm => exact hmoves hlive hlive hm
  | timeChanged _ hlive _ hm => exact hmoves hlive (by simp) hm
  | rejected _ hlive _ _ hm => exact hmoves hlive hlive hm
  | connected _ hlive _ hm => exact hmoves hlive (by simp) hm

/-- Reconnecting neither initialises nor frees the client. -/
theorem ReconnectOutcome.live_iff {b : Build} {s s' : Sdk} {rc : ℤ} {es : List Effect}
    (h : ReconnectOutcome b s rc es s') : Live s' ↔ Live s := by
  cases h with
  | refused _ => rfl
  | already _ => rfl
  | early _ _ _ => rfl
  | failed hlive _ _ hconnect _ =>
    refine ⟨fun _ => hlive, fun _ => ?_⟩
    exact hconnect.live_iff.mpr (by simp [Live, Sdk.attempting])
  | restored hlive _ _ _ hrestore =>
    refine ⟨fun _ => hlive, fun _ => ?_⟩
    have hquiet := (inert_restoreSession _ _ _ _ trivial hrestore).quiet
    exact hquiet.live (by simp [Live, Sdk.resumed])

/-- One call: only a successful `zclient_init` and `zclient_disconnect` make a client pass
that did not pass before, and none makes it fail again. -/
theorem live_step {b : Build} {r : CallRecord}
    (h : (r.call.prog b).Exec r.before () r.effects r.after) :
    Live r.after ↔ Live r.before ∨ InitSucceeded r ∨ r.call = .disconnect := by
  have hother : (∀ args, r.call ≠ .init args) → r.call ≠ .disconnect →
      (Live r.after ↔ Live r.before) →
      (Live r.after ↔ Live r.before ∨ InitSucceeded r ∨ r.call = .disconnect) := by
    intro hinit hdisconnect hiff
    have hno : ¬ InitSucceeded r := fun ⟨⟨args, hargs⟩, _⟩ => hinit args hargs
    simp [hiff, hno, hdisconnect]
  cases call_cases h with
  | quiet hcall hquiet =>
    refine hother ?_ ?_ ⟨fun hlive => ?_, hquiet.live⟩
    · rintro args heq
      simp [heq, Call.isSession] at hcall
    · intro heq
      simp [heq, Call.isSession] at hcall
    · unfold Live at *
      rcases hquiet.state with heq | ⟨hlive', -⟩
      · rwa [← heq]
      · exact hlive'
  | init args rc hcall hes houtcome =>
    have hsucceeded : InitSucceeded r ↔ rc = zsuccess := by
      unfold InitSucceeded
      rw [hes, hcall]
      simp [eq_comm]
    rw [hsucceeded, hcall]
    unfold Live
    generalize r.after = s' at houtcome
    cases houtcome with
    | rejected _ => simp [zfailure_ne_zsuccess]
    | failed _ hstate _ _ => simp [hstate, zfailure_ne_zsuccess]
    | initialized _ hstate _ _ => simp [hstate]
  | disconnect hcall _ hafter =>
    unfold Live
    rw [hafter]
    simp [hcall]
  | reconnect rc hcall houtcome =>
    exact hother (by simp [hcall]) (by simp [hcall]) houtcome.live_iff
  | connect rc hcall houtcome =>
    exact hother (by simp [hcall]) (by simp [hcall]) houtcome.live_iff
  | left _ hcall hstate hafter _ =>
    refine hother (by simp [hcall]) (by simp [hcall]) ?_
    unfold Live
    simp [hafter, hstate]
  | free hcall hafter _ => exact hother (by simp [hcall]) (by simp [hcall]) (by rw [hafter])

/-- A run of calls on a client that starts zeroed. -/
theorem live_iff_of_run {b : Build} {g : Globals} {s : Sdk} {records : List CallRecord}
    (hrun : CallRun b { client := {}, globals := g } records s) :
    Live s ↔ ∃ r ∈ records, InitSucceeded r ∨ r.call = .disconnect := by
  refine hrun.invariant (I := fun s records =>
    Live s ↔ ∃ r ∈ records, InitSucceeded r ∨ r.call = .disconnect) ?_ ?_
  · simp [Live]
  · intro s records call log s' hiff hexec
    have hstep := live_step (r := ⟨s, call, log, s'⟩) (Prog.exec_of_logged hexec)
    simp only [List.mem_append, List.mem_singleton, or_and_right, exists_or, exists_eq_left]
    rw [← hiff]
    exact hstep

/-! ## The guard and the history -/

/-- Whether the last `zclient_init` or `zclient_free` was a `zclient_init` that returned
`ZSUCCESS`, given whether that was so before the call. -/
def readyAfter (ready : Bool) (r : CallRecord) : Bool :=
  match r.call with
  | .init _ => r.effects.any fun
    | .init rc => decide (rc = zsuccess)
    | _ => false
  | .free => false
  | _ => ready

/-- The last `zclient_init` or `zclient_free` of the records was a successful
`zclient_init`. -/
def lastInitSucceeded (records : List CallRecord) : Bool := records.foldl readyAfter false

/-- For every run of calls on a client that starts zeroed, in the state it leads to: that the
client passes the guard only if its last `zclient_init` or `zclient_free` was a successful
`zclient_init` is so if and only if that was the last one, or there has been neither a
successful `zclient_init` nor a `zclient_disconnect` so far. -/
theorem guard_passed_iff (b : Build) {g : Globals} {s : Sdk} {records : List CallRecord}
    (hrun : CallRun b { client := {}, globals := g } records s) :
    (clientStateCode s.client = 0 → lastInitSucceeded records = true) ↔
      lastInitSucceeded records = true ∨
      ∀ r ∈ records, ¬ InitSucceeded r ∧ r.call ≠ .disconnect := by
  rw [clientStateCode_eq_zero_iff, live_iff_of_run hrun]
  constructor
  · intro h
    by_cases hready : lastInitSucceeded records = true
    · exact .inl hready
    · refine .inr fun r hr => ⟨fun hinit => ?_, fun hdisconnect => ?_⟩
      · exact hready (h ⟨r, hr, .inl hinit⟩)
      · exact hready (h ⟨r, hr, .inr hdisconnect⟩)
  · rintro (hready | hnone) ⟨r, hr, hmade⟩
    · exact hready
    · exact (hmade.elim (hnone r hr).1 (hnone r hr).2).elim

/-- A client that was initialised and disconnected passes, as it should. -/
theorem guard_passed_disconnected : ∃ records s,
    CallRun embeddedBuild { client := {}, globals := {} } records s ∧
    records.map Atomic.Record.call = [.init sampleArgs, .disconnect] ∧
    clientStateCode s.client = 0 ∧
    (clientStateCode s.client = 0 → lastInitSucceeded records = true) := by
  obtain ⟨records, s, hrun, hcalls, htest⟩ :=
    Atomic.exists_recorded (Call.prog embeddedBuild)
      [(.init sampleArgs, [{}]), (.disconnect, List.replicate 5 {})]
      { client := {}, globals := {} }
      (fun x => decide (clientStateCode x.2.client = 0) && lastInitSucceeded x.1)
      (by decide +kernel)
  simp only [Bool.and_eq_true, decide_eq_true_eq] at htest
  exact ⟨records, s, hrun, hcalls, htest.1,
    (guard_passed_iff embeddedBuild hrun).mpr (.inl htest.2)⟩

/-- A client that was freed still passes, and so does one that was never initialised but
disconnected. -/
theorem guard_passed_freed :
    (∃ records s, CallRun embeddedBuild { client := {}, globals := {} } records s ∧
      records.map Atomic.Record.call = [.init sampleArgs, .free] ∧
      ¬ (clientStateCode s.client = 0 → lastInitSucceeded records = true)) ∧
    ∃ records s, CallRun embeddedBuild { client := {}, globals := {} } records s ∧
      records.map Atomic.Record.call = [.disconnect] ∧
      ¬ (clientStateCode s.client = 0 → lastInitSucceeded records = true) := by
  have hpassed : ∀ calls : List (Call × List Answer),
      ((Atomic.recordAll (Call.prog embeddedBuild) calls { client := {}, globals := {} }).any
        fun x => decide (clientStateCode x.2.client = 0) && !lastInitSucceeded x.1) = true →
      ∃ records s, CallRun embeddedBuild { client := {}, globals := {} } records s ∧
        records.map Atomic.Record.call = calls.map Prod.fst ∧
        ¬ (clientStateCode s.client = 0 → lastInitSucceeded records = true) := by
    intro calls h
    obtain ⟨records, s, hrun, hcalls, htest⟩ := Atomic.exists_recorded _ _ _ _ h
    simp only [Bool.and_eq_true, decide_eq_true_eq, Bool.not_eq_true'] at htest
    exact ⟨records, s, hrun, hcalls, by simp [htest.1, htest.2]⟩
  exact ⟨hpassed [(.init sampleArgs, [{}]), (.free, [{}])] (by decide +kernel),
    hpassed [(.disconnect, List.replicate 5 {})] (by decide +kernel)⟩

end ZohoIotSdk
