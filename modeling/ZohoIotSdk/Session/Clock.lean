import ZohoIotSdk.Session.Backoff
import ZohoIotSdk.Session.Network

/-!
# The clock of `zclient_reconnect`

`zclient_reconnect` subtracts the recorded start time from a reading of the clock in unsigned
64-bit arithmetic. A reading before the start time gives a difference close to `2 ^ 64`, and
the attempt is made at once. `reconnect_waits_iff` says in which runs every attempt waits for
the retry interval.
-/

namespace ZohoIotSdk

open Atomic (Prog)

/-! ## The comparison -/

/-- The clock has not gone back behind the start time, or so far that the difference, taken
modulo `2 ^ 64`, is still within the interval. -/
def ClockForward (now startTime : UInt64) (delay : ℤ) : Prop :=
  startTime ≤ now ∨ (now.toNat : ℤ) + 2 ^ 64 ≤ startTime.toNat + delay

instance (now startTime : UInt64) (delay : ℤ) : Decidable (ClockForward now startTime delay) :=
  inferInstanceAs (Decidable (_ ∨ _))

/-- The difference that the code computes, over the integers. -/
theorem toNat_sub_cases (now startTime : UInt64) :
    ((now - startTime).toNat : ℤ) =
      if startTime ≤ now then (now.toNat : ℤ) - startTime.toNat
      else now.toNat + 2 ^ 64 - startTime.toNat := by
  have hnow := now.toNat_lt
  have hstart := startTime.toNat_lt
  split
  · rename_i hle
    have hle' : startTime.toNat ≤ now.toNat := UInt64.le_iff_toNat_le.mp hle
    rw [UInt64.toNat_sub_of_le _ _ hle]
    omega
  · rename_i hlt
    have hlt' : now.toNat < startTime.toNat := by
      rw [UInt64.le_iff_toNat_le] at hlt
      omega
    rw [UInt64.toNat_sub, Nat.mod_eq_of_lt (by omega)]
    omega

/-- The test is right, as one of integers, if and only if the clock went forward. -/
theorem delayPassed_sound_iff {now startTime : UInt64} {delay : ℤ} (hlow : 0 ≤ delay)
    (hhigh : delay < 2 ^ 64) :
    (delayPassed now startTime delay = true → (startTime.toNat : ℤ) + delay < now.toNat) ↔
      ClockForward now startTime delay := by
  have hnow := now.toNat_lt
  have hstart := startTime.toNat_lt
  have hmod : ((delay % 2 ^ 64).toNat : ℤ) = delay := by
    rw [Int.emod_eq_of_lt hlow hhigh, Int.toNat_of_nonneg hlow]
  have hdiff := toNat_sub_cases now startTime
  have hpassed : delayPassed now startTime delay = true ↔
      delay < ((now - startTime).toNat : ℤ) := by
    unfold delayPassed
    rw [decide_eq_true_eq, ← Int.ofNat_lt, hmod]
  rw [hpassed, hdiff]
  unfold ClockForward
  split
  · rename_i hle
    simp only [hle, true_or, iff_true]
    omega
  · rename_i hlt
    have hlt' : now.toNat < startTime.toNat := by
      rw [UInt64.le_iff_toNat_le] at hlt
      omega
    simp only [hlt, false_or]
    omega

/-! ## One call -/

/-- The start time that a `zclient_reconnect` compares with. -/
def CallRecord.startTime (r : CallRecord) : UInt64 :=
  startTimeAt r.before.client ((clockReadings r.effects).getD 0 0)

/-- The reading of the clock at which a `zclient_reconnect` decides: its first one, unless that
was taken to record the start time. -/
def CallRecord.decidedAt (r : CallRecord) : UInt64 :=
  (clockReadings r.effects).getD (if r.before.client.startTime = 0 then 1 else 0) 0

/-- An attempt to connect is made only at a reading of the clock that exceeds the start time by
more than the retry interval. -/
def AttemptsAfterDelay (r : CallRecord) : Prop :=
  r.effects.any Effect.isAttempt = true →
    (r.startTime.toNat : ℤ) + r.before.client.zretryInterval < r.decidedAt.toNat

instance (r : CallRecord) : Decidable (AttemptsAfterDelay r) :=
  inferInstanceAs (Decidable (_ → _))

/-- The readings of a `zclient_reconnect` that got as far as its decision. -/
theorem CallRecord.readings_of_effects {r : CallRecord} {t now : UInt64} {rest : List Effect}
    (h : r.effects = startClock r.before.client t ++ [.clock now] ++ rest) :
    r.startTime = startTimeAt r.before.client t ∧ r.decidedAt = now := by
  unfold CallRecord.startTime CallRecord.decidedAt clockReadings startTimeAt
  rw [h]
  unfold startClock
  by_cases hzero : r.before.client.startTime = 0
  · simp [hzero]
  · simp [hzero]

/-- A call makes an attempt exactly when the delay has passed, by its own test. -/
theorem reconnect_attempt_iff {b : Build} {r : CallRecord} {rc : ℤ}
    (h : ReconnectOutcome b r.before rc r.effects r.after) (hlive : Live r.before)
    (hstate : r.before.client.currentState ≠ .connected) :
    r.effects.any Effect.isAttempt = true ↔
      delayPassed r.decidedAt r.startTime r.before.client.zretryInterval = true := by
  generalize hes : r.effects = es at h
  generalize hafter : r.after = s' at h
  cases h with
  | refused hdead => exact absurd hlive hdead
  | already hconn => exact absurd hconn hstate
  | early _ _ hearly =>
    obtain ⟨hstart, hnow⟩ := CallRecord.readings_of_effects (hes.trans (List.append_nil _).symm)
    rw [(reconnect_preamble b _ _ _).1, hstart, hnow, hearly]
  | failed _ _ hdue hconnect _ =>
    have hattempt := (hconnect.attempt rfl).1
    simp only [List.append_assoc] at hes
    obtain ⟨hstart, hnow⟩ := CallRecord.readings_of_effects (r := r) (by
      rw [hes]; simp only [List.append_assoc]; rfl)
    rw [hstart, hnow, hdue]
    simp [hattempt]
  | restored _ _ hdue hconnect _ =>
    have hattempt := (hconnect.attempt rfl).1
    simp only [List.append_assoc] at hes
    obtain ⟨hstart, hnow⟩ := CallRecord.readings_of_effects (r := r) (by
      rw [hes]; simp only [List.append_assoc]; rfl)
    rw [hstart, hnow, hdue]
    simp [hattempt]

/-- A call on a client that is connected, or was never initialised, makes no attempt. -/
theorem reconnect_idle {b : Build} {r : CallRecord} {rc : ℤ}
    (h : ReconnectOutcome b r.before rc r.effects r.after)
    (hidle : ¬ (Live r.before ∧ r.before.client.currentState ≠ .connected)) :
    r.effects.any Effect.isAttempt = false := by
  generalize hes : r.effects = es at h
  generalize hafter : r.after = s' at h
  cases h with
  | refused _ => rfl
  | already _ => rfl
  | early hlive hstate _ => exact absurd ⟨hlive, hstate⟩ hidle
  | failed hlive hstate _ _ _ => exact absurd ⟨hlive, hstate⟩ hidle
  | restored hlive hstate _ _ _ => exact absurd ⟨hlive, hstate⟩ hidle

/-- The condition on one `zclient_reconnect`: where it decides at all, the clock has gone
forward. -/
def ReadsForward (r : CallRecord) : Prop :=
  Live r.before → r.before.client.currentState ≠ .connected →
    ClockForward r.decidedAt r.startTime r.before.client.zretryInterval

/-- The attempt comes after the delay exactly when the clock reads forward. -/
theorem attemptsAfterDelay_iff {b : Build} {r : CallRecord} {rc : ℤ}
    (h : ReconnectOutcome b r.before rc r.effects r.after)
    (hlow : 0 ≤ r.before.client.zretryInterval) (hhigh : r.before.client.zretryInterval < 2 ^ 64) :
    AttemptsAfterDelay r ↔ ReadsForward r := by
  by_cases hdecides : Live r.before ∧ r.before.client.currentState ≠ .connected
  · obtain ⟨hlive, hstate⟩ := hdecides
    unfold AttemptsAfterDelay ReadsForward
    rw [reconnect_attempt_iff h hlive hstate, delayPassed_sound_iff hlow hhigh]
    exact ⟨fun hforward _ _ => hforward, fun hforward => hforward hlive hstate⟩
  · have hnone := reconnect_idle h hdecides
    refine ⟨fun _ hlive hstate => absurd ⟨hlive, hstate⟩ hdecides, fun _ hattempt => ?_⟩
    rw [hnone] at hattempt
    simp at hattempt

/-! ## Runs -/

/-- The retry interval of a run is a small number: it is never negative, and at most twice the
maximum. -/
def SmallInterval (s : Sdk) : Prop :=
  0 ≤ s.client.zretryInterval ∧ s.client.zretryInterval ≤ 2 * maxRetryInterval

/-- A step keeps the interval within its bound. -/
theorem IntervalStep.small {b : Build} {r : CallRecord} (h : IntervalStep b r)
    (hs : SmallInterval r.before) : SmallInterval r.after := by
  have hmin : (0 : ℤ) ≤ minRetryInterval ∧ minRetryInterval ≤ 2 * maxRetryInterval := by decide
  obtain ⟨hlow, hhigh⟩ := hs
  unfold SmallInterval
  cases h with
  | same heq _ _ => rw [heq]; exact ⟨hlow, hhigh⟩
  | init heq _ => rw [heq]; exact hmin
  | reconnected heq _ _ => rw [heq]; exact hmin
  | failed heq _ _ =>
    rw [heq]
    unfold getRetryInterval
    split
    · exact hmin
    · split
      · omega
      · exact ⟨by decide, by decide⟩

/-- The interval is within its bound in every reached state. -/
theorem smallInterval_of_run {b : Build} {g : Globals} {s : Sdk} {records : List CallRecord}
    (hrun : CallRun b { client := {}, globals := g } records s) :
    ∀ r ∈ records, SmallInterval r.before := by
  suffices h : SmallInterval s ∧ ∀ r ∈ records, SmallInterval r.before from h.2
  refine hrun.invariant (I := fun s records =>
    SmallInterval s ∧ ∀ r ∈ records, SmallInterval r.before) ?_ ?_
  · refine ⟨⟨?_, ?_⟩, by simp⟩
    · show (0 : ℤ) ≤ 0
      omega
    · show (0 : ℤ) ≤ 2 * maxRetryInterval
      decide
  · rintro s records call log s' ⟨hs, hall⟩ hexec
    have hstep : IntervalStep b ⟨s, call, log, s'⟩ :=
      intervalStep_of_exec (Prog.exec_of_logged hexec)
    refine ⟨hstep.small hs, ?_⟩
    simp only [List.mem_append, List.mem_singleton, or_imp, forall_and, forall_eq]
    exact ⟨hall, hs⟩

/-- For every run of calls on a client that starts zeroed, with any results of the transport
and any readings of the clock: every `zclient_reconnect` tries to connect only at a reading
that exceeds the start time by more than the retry interval, if and only if no
`zclient_reconnect` decides at a reading before the start time (or one so far before it that
the wrapped difference is within the interval). -/
theorem reconnect_waits_iff (b : Build) {g : Globals} {s : Sdk} {records : List CallRecord}
    (hrun : CallRun b { client := {}, globals := g } records s) :
    (∀ r ∈ records, r.call = .reconnect → AttemptsAfterDelay r) ↔
      ∀ r ∈ records, r.call = .reconnect → ReadsForward r := by
  refine forall₂_congr fun r hr => forall_congr' fun hcall => ?_
  obtain ⟨hlow, hhigh⟩ := smallInterval_of_run hrun r hr
  have hexec := Prog.exec_of_logged (hrun.exec_of_mem hr)
  rw [hcall] at hexec
  obtain ⟨rc, hexec⟩ := exec_of_discard hexec
  have hmax : 2 * maxRetryInterval < 2 ^ 64 := by decide
  exact attemptsAfterDelay_iff (reconnect_cases hexec) hlow (by omega)

/-- Two attempts that fail, with a clock that advances. -/
theorem reconnect_waits_forward : ∃ records s,
    CallRun embeddedBuild { client := {}, globals := {} } records s ∧
    records.map Atomic.Record.call = [.init sampleArgs, .reconnect, .reconnect] ∧
    s.client.retryCount = 2 ∧ ∀ r ∈ records, r.call = .reconnect → AttemptsAfterDelay r := by
  obtain ⟨records, s, hrun, hcalls, htest⟩ := Atomic.exists_recorded (Call.prog embeddedBuild)
    (failingReconnects 2) { client := {}, globals := {} }
    (fun x => decide (x.2.client.retryCount = 2) && x.1.all fun (r : CallRecord) =>
      decide (ClockForward r.decidedAt r.startTime r.before.client.zretryInterval))
    (by decide +kernel)
  simp only [Bool.and_eq_true, decide_eq_true_eq, List.all_eq_true] at htest
  refine ⟨records, s, hrun, hcalls, htest.1, (reconnect_waits_iff embeddedBuild hrun).mpr ?_⟩
  exact fun r hr _ _ _ => htest.2 r hr

/-- Answers of a network that cannot be reached, during a call at the time `t`. -/
def unreachableAt (t : UInt64) : List Answer := List.replicate 20 { rc := -1, time := t }

/-- The clock is set back by an hour after an attempt at 1000000 has failed: the next call
tries again at once, 3600 seconds before the start time it compares with. -/
theorem reconnect_clock_back : ∃ records s,
    CallRun embeddedBuild { client := {}, globals := {} } records s ∧
    records.map Atomic.Record.call = [.init sampleArgs, .reconnect, .reconnect, .reconnect] ∧
    ¬ ∀ r ∈ records, r.call = .reconnect → AttemptsAfterDelay r := by
  obtain ⟨records, s, hrun, hcalls, htest⟩ := Atomic.exists_recorded (Call.prog embeddedBuild)
    [(.init sampleArgs, [{}]), (.reconnect, unreachableAt 999000),
      (.reconnect, unreachableAt 1000000), (.reconnect, unreachableAt 996400)]
    { client := {}, globals := {} }
    (fun x => x.1.getLast?.any fun (r : CallRecord) => decide (¬ AttemptsAfterDelay r))
    (by decide +kernel)
  obtain ⟨r, hr, hearly⟩ := (Option.any_eq_true _ _).mp htest
  have hcall : r.call = .reconnect := by
    have hlast := congrArg List.getLast? hcalls
    rw [List.getLast?_map, hr] at hlast
    simpa using hlast
  exact ⟨records, s, hrun, hcalls, fun hall =>
    of_decide_eq_true hearly (hall r (List.mem_of_getLast? hr) hcall)⟩

end ZohoIotSdk
