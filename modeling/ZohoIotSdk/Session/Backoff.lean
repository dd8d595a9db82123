import ZohoIotSdk.Session.Outcomes

/-!
# The retry interval

`zclient_reconnect` waits for `ZretryInterval` seconds and doubles it after an attempt that
failed. `getRetryInterval` compares with the maximum before it doubles, so an interval
between half the maximum and the maximum leaves the range, and the next failure takes it
back down. `retryInterval_bounded_iff` says in which runs this does not happen.
-/

namespace ZohoIotSdk

open Atomic (Prog)

/-! ## One call -/

/-- A `zclient_reconnect` whose attempt was accepted by the server. -/
def Reconnected (r : CallRecord) : Prop :=
  r.call = .reconnect ∧ r.effects.any Effect.isAccept = true

/-- A `zclient_reconnect` that tried to connect and failed. -/
def FailedAttempt (r : CallRecord) : Prop :=
  r.call = .reconnect ∧ r.effects.any Effect.isAttempt = true ∧
    r.effects.any Effect.isAccept = false

/-- A failed attempt does not reconnect. -/
theorem FailedAttempt.not_reconnected {r : CallRecord} (h : FailedAttempt r) : ¬ Reconnected r := by
  intro hreconnected
  have haccept := hreconnected.2
  rw [h.2.2] at haccept
  simp at haccept

/-- A `zclient_init` that can use its credentials. -/
def AcceptedInit (b : Build) (r : CallRecord) : Prop :=
  ∃ args, r.call = .init args ∧ (initConfig b r.before.globals args).isSome

/-- The arguments of a `zclient_init`. -/
def Call.initArgs? : Call → Option InitArgs
  | .init args => some args
  | _ => none

theorem acceptedInit_iff (b : Build) (r : CallRecord) : AcceptedInit b r ↔
    (r.call.initArgs?.any fun args => (initConfig b r.before.globals args).isSome) = true := by
  unfold AcceptedInit
  cases r.call <;> simp [Call.initArgs?]

instance (b : Build) (r : CallRecord) : Decidable (AcceptedInit b r) :=
  decidable_of_iff _ (acceptedInit_iff b r).symm

/-- What is asked of the interval after a call. -/
structure IntervalKept (r : CallRecord) : Prop where
  lower : minRetryInterval ≤ r.after.client.zretryInterval
  upper : r.after.client.zretryInterval ≤ maxRetryInterval
  grows : r.after.client.zretryInterval < r.before.client.zretryInterval →
    (∃ args, r.call = .init args) ∨ Reconnected r

/-- What a call can do to the interval. -/
inductive IntervalStep (b : Build) (r : CallRecord) : Prop
  | same (h : r.after.client.zretryInterval = r.before.client.zretryInterval)
      (hinit : ¬ AcceptedInit b r) (hattempt : ¬ FailedAttempt r)
  | init (h : r.after.client.zretryInterval = minRetryInterval) (hinit : AcceptedInit b r)
  | reconnected (h : r.after.client.zretryInterval = minRetryInterval)
      (hlive : Live r.before) (hreconnected : Reconnected r)
  | failed (h : r.after.client.zretryInterval = getRetryInterval r.before.client.zretryInterval)
      (hlive : Live r.before) (hattempt : FailedAttempt r)

/-- Connecting leaves the interval. -/
theorem ConnectOutcome.interval {b : Build} {s s' : Sdk} {rc : ℤ} {es : List Effect}
    (h : ConnectOutcome b s rc es s') :
    s'.client.zretryInterval = s.client.zretryInterval := by
  cases h with
  | refused _ => rfl
  | already _ => rfl
  | pahoC _ _ _ _ _ _ _ hmoves => exact hmoves.interval
  | unreachable _ _ _ _ _ hmoves => exact hmoves.interval
  | timeChanged _ _ _ hmoves => exact hmoves.interval
  | rejected _ _ _ _ hmoves => exact hmoves.interval
  | connected _ _ _ hmoves => exact hmoves.interval

/-- Every outcome of reconnecting makes a step of the interval. -/
theorem reconnect_interval {b : Build} {r : CallRecord} (hcall : r.call = .reconnect)
    {rc : ℤ} (h : ReconnectOutcome b r.before rc r.effects r.after) : IntervalStep b r := by
  have hinit : ¬ AcceptedInit b r := by
    rintro ⟨args, hargs, -⟩
    rw [hcall] at hargs
    simp at hargs
  have hidle : r.effects.any Effect.isAttempt = false →
      r.after.client.zretryInterval = r.before.client.zretryInterval → IntervalStep b r := by
    intro hno hsame
    refine .same hsame hinit fun hattempt => ?_
    exact absurd hattempt.2.1 (by simp [hno])
  generalize hes : r.effects = es at h hidle
  generalize hafter : r.after = s' at h hidle
  cases h with
  | refused _ => exact hidle rfl rfl
  | already _ => exact hidle rfl rfl
  | early _ _ _ => exact hidle (reconnect_preamble b _ _ _).1 rfl
  | failed hlive hstate _ hconnect hrc =>
    obtain ⟨hattempt, haccept⟩ := hconnect.attempt rfl
    obtain ⟨-, hpre, hclose⟩ := reconnect_preamble b r.before.client _ _
    refine .failed ?_ hlive ⟨hcall, ?_, ?_⟩
    · rw [hafter]
      show getRetryInterval _ = _
      rw [hconnect.interval]
      rfl
    · rw [hes]
      simp only [List.any_append, hattempt, Bool.or_true, Bool.true_or]
    · rw [hes, List.any_append, List.any_append, List.any_append, hpre, hclose, haccept]
      simpa [Effect.isAccept, zsuccess] using hrc
  | restored hlive hstate _ hconnect hrestore =>
    obtain ⟨-, haccept⟩ := hconnect.attempt rfl
    have hquiet := (inert_restoreSession _ _ _ _ trivial hrestore).quiet
    refine .reconnected ?_ hlive ⟨hcall, ?_⟩
    · rw [hafter, hquiet.interval]
      rfl
    · rw [hes]
      simp only [List.any_append, haccept, zsuccess, decide_true, Bool.or_true, Bool.true_or]

/-- What every call does to the interval. -/
theorem intervalStep_of_exec {b : Build} {r : CallRecord}
    (h : (r.call.prog b).Exec r.before () r.effects r.after) : IntervalStep b r := by
  have hother : (∀ args, r.call ≠ .init args) → r.call ≠ .reconnect →
      r.after.client.zretryInterval = r.before.client.zretryInterval → IntervalStep b r := by
    intro hinit hreconnect hsame
    exact .same hsame (fun ⟨args, hargs, _⟩ => hinit args hargs) fun hattempt =>
      hreconnect hattempt.1
  cases call_cases h with
  | quiet hcall hquiet =>
    refine hother ?_ ?_ hquiet.interval
    · rintro args heq
      simp [heq, Call.isSession] at hcall
    · intro heq
      simp [heq, Call.isSession] at hcall
  | init args rc hcall _ houtcome =>
    generalize hafter : r.after = s' at houtcome
    cases houtcome with
    | rejected hconfig =>
      refine .same (by rw [hafter]) ?_ ?_
      · rintro ⟨args', hargs, hsome⟩
        rw [hcall] at hargs
        obtain rfl : args = args' := by simpa using hargs
        rw [hconfig] at hsome
        simp at hsome
      · rintro ⟨hreconnect, -⟩
        rw [hcall] at hreconnect
        simp at hreconnect
    | failed hconfig _ hinterval _ =>
      exact .init (by rw [hafter]; exact hinterval) ⟨args, hcall, hconfig⟩
    | initialized hconfig _ hinterval _ =>
      exact .init (by rw [hafter]; exact hinterval) ⟨args, hcall, hconfig⟩
  | reconnect rc hcall houtcome => exact reconnect_interval hcall houtcome
  | connect rc hcall houtcome =>
    exact hother (by simp [hcall]) (by simp [hcall]) houtcome.interval
  | disconnect hcall _ hafter | left _ hcall _ hafter _ | free hcall hafter _ =>
    exact hother (by simp [hcall]) (by simp [hcall]) (by rw [hafter])

/-! ## Runs -/

/-- Doubling the interval stays within the maximum, or the interval is the maximum already. -/
def Doublable (interval : ℤ) : Prop :=
  2 * interval ≤ maxRetryInterval ∨ interval = maxRetryInterval

/-- From an interval in the range, a failed attempt keeps it there, and does not lower it, if
and only if it can be doubled. -/
theorem getRetryInterval_iff {d : ℤ} (hlower : minRetryInterval ≤ d)
    (hupper : d ≤ maxRetryInterval) :
    (minRetryInterval ≤ getRetryInterval d ∧ getRetryInterval d ≤ maxRetryInterval ∧
      d ≤ getRetryInterval d) ↔ Doublable d := by
  unfold getRetryInterval Doublable
  unfold minRetryInterval maxRetryInterval at *
  split
  · omega
  · split <;> omega

/-- One call, made where the interval is in the range. -/
theorem intervalKept_iff {b : Build} {r : CallRecord} (h : IntervalStep b r)
    (hlower : minRetryInterval ≤ r.before.client.zretryInterval)
    (hupper : r.before.client.zretryInterval ≤ maxRetryInterval) :
    IntervalKept r ↔ (FailedAttempt r → Doublable r.before.client.zretryInterval) := by
  have hrange : minRetryInterval ≤ maxRetryInterval := by decide
  cases h with
  | same heq _ hattempt =>
    refine ⟨fun _ h => absurd h hattempt, fun _ => ⟨?_, ?_, ?_⟩⟩
    · rwa [heq]
    · rwa [heq]
    · intro hlt
      omega
  | init heq hinit =>
    obtain ⟨args, hcall, -⟩ := hinit
    refine ⟨fun _ h => ?_, fun _ => ⟨?_, ?_, fun _ => .inl ⟨args, hcall⟩⟩⟩
    · rw [h.1] at hcall
      simp at hcall
    · exact Int.le_of_eq heq.symm
    · rwa [heq]
  | reconnected heq _ hreconnected =>
    refine ⟨fun _ h => ?_, fun _ => ⟨?_, ?_, fun _ => .inr hreconnected⟩⟩
    · exact absurd hreconnected h.not_reconnected
    · exact Int.le_of_eq heq.symm
    · rwa [heq]
  | failed heq _ hattempt =>
    have hiff := getRetryInterval_iff hlower hupper
    rw [← heq] at hiff
    constructor
    · intro hkept _
      refine hiff.mp ⟨hkept.lower, hkept.upper, ?_⟩
      by_contra hlt
      rcases hkept.grows (by omega) with ⟨args, hcall⟩ | hreconnected
      · rw [hattempt.1] at hcall
        simp at hcall
      · exact hattempt.not_reconnected hreconnected
    · intro hdouble
      obtain ⟨hlow, hup, hle⟩ := hiff.mpr (hdouble hattempt)
      exact ⟨hlow, hup, fun hlt => by omega⟩

/-- The first call, made on a client whose fields are all zero. -/
theorem intervalKept_first {b : Build} {r : CallRecord} (h : IntervalStep b r)
    (hzero : r.before.client = {}) :
    IntervalKept r ↔ AcceptedInit b r ∧
      (FailedAttempt r → Doublable r.before.client.zretryInterval) := by
  have hdead : ¬ Live r.before := by simp [Live, hzero]
  cases h with
  | same heq hinit _ =>
    refine ⟨fun hkept => ?_, fun h => absurd h.1 hinit⟩
    have hlow := hkept.lower
    rw [heq, hzero] at hlow
    exact absurd hlow (by decide)
  | init heq hinit =>
    refine ⟨fun _ => ⟨hinit, fun _ => .inl ?_⟩, fun _ => ⟨?_, ?_, fun _ => ?_⟩⟩
    · rw [hzero]
      decide
    · exact Int.le_of_eq heq.symm
    · rw [heq]
      decide
    · obtain ⟨args, hcall, -⟩ := hinit
      exact .inl ⟨args, hcall⟩
  | reconnected _ hlive _ => exact absurd hlive hdead
  | failed _ hlive _ => exact absurd hlive hdead

/-- For every run of calls on a client that starts zeroed, with any results of the transport
and any readings of the clock: after every call the interval lies between the minimum and the
maximum and has not decreased, except at a `zclient_init` or an accepted reconnection, if and
only if the first call is a `zclient_init` that can use its credentials, and every
reconnection that fails is tried with an interval that can be doubled. -/
theorem retryInterval_bounded_iff (b : Build) {g : Globals} {s : Sdk} {records : List CallRecord}
    (hrun : CallRun b { client := {}, globals := g } records s) :
    (∀ r ∈ records, IntervalKept r) ↔
      (∀ r, records.head? = some r → AcceptedInit b r) ∧
      ∀ r ∈ records, FailedAttempt r → Doublable r.before.client.zretryInterval := by
  -- along the run, together with the range the next call starts from
  suffices h : ((∀ r ∈ records, IntervalKept r) ↔
      (∀ r, records.head? = some r → AcceptedInit b r) ∧
      ∀ r ∈ records, FailedAttempt r → Doublable r.before.client.zretryInterval) ∧
      (records = [] → s.client = {}) ∧ (records ≠ [] → (∀ r ∈ records, IntervalKept r) →
        minRetryInterval ≤ s.client.zretryInterval ∧
        s.client.zretryInterval ≤ maxRetryInterval) from h.1
  refine hrun.invariant (I := fun s records => ((∀ r ∈ records, IntervalKept r) ↔
      (∀ r, records.head? = some r → AcceptedInit b r) ∧
      ∀ r ∈ records, FailedAttempt r → Doublable r.before.client.zretryInterval) ∧
      (records = [] → s.client = {}) ∧ (records ≠ [] → (∀ r ∈ records, IntervalKept r) →
        minRetryInterval ≤ s.client.zretryInterval ∧
        s.client.zretryInterval ≤ maxRetryInterval)) ?_ ?_
  · exact ⟨by simp, fun _ => rfl, fun h => absurd rfl h⟩
  · rintro s records call log s' ⟨hiff, hempty, hrange⟩ hexec
    have hstep : IntervalStep b ⟨s, call, log, s'⟩ :=
      intervalStep_of_exec (Prog.exec_of_logged hexec)
    have hlast : (∀ r ∈ records ++ [⟨s, call, log, s'⟩], IntervalKept r) →
        minRetryInterval ≤ s'.client.zretryInterval ∧
        s'.client.zretryInterval ≤ maxRetryInterval := fun hall => by
      have hkept := hall ⟨s, call, log, s'⟩ (by simp)
      exact ⟨hkept.lower, hkept.upper⟩
    refine ⟨?_, by simp, fun _ => hlast⟩
    simp only [List.mem_append, List.mem_singleton, or_imp, forall_and, forall_eq]
    by_cases hnil : records = []
    · subst hnil
      simpa using intervalKept_first hstep (hempty rfl)
    · rw [List.head?_append_of_ne_nil _ hnil, ← and_assoc, ← hiff]
      refine and_congr_right fun hall => ?_
      obtain ⟨hlower, hupper⟩ := hrange hnil hall
      exact intervalKept_iff hstep hlower hupper

/-- An initialisation and some reconnections that fail. -/
def failingReconnects (n : ℕ) : List (Call × List Answer) :=
  (.init sampleArgs, [{}]) :: (List.range n).map fun day => (.reconnect, unreachableAnswers day)

/-- Nine failed attempts in a row take the interval to 1024 seconds. -/
theorem retryInterval_nine_failures : ∃ records s,
    CallRun embeddedBuild { client := {}, globals := {} } records s ∧
    s.client.zretryInterval = 1024 ∧ ∀ r ∈ records, IntervalKept r := by
  obtain ⟨records, s, hrun, -, htest⟩ := Atomic.exists_recorded (Call.prog embeddedBuild)
    (failingReconnects 9) { client := {}, globals := {} }
    (fun x => decide (x.2.client.zretryInterval = 1024) &&
      (x.1.head?.all fun r => decide (AcceptedInit embeddedBuild r)) &&
      x.1.all fun r => decide (2 * r.before.client.zretryInterval ≤ 1800))
    (by decide +kernel)
  simp only [Bool.and_eq_true, decide_eq_true_eq, List.all_eq_true, Option.all_eq_true] at htest
  refine ⟨records, s, hrun, htest.1.1, (retryInterval_bounded_iff embeddedBuild hrun).mpr ⟨?_, ?_⟩⟩
  · exact htest.1.2
  · exact fun r hr _ => .inl (htest.2 r hr)

/-- The tenth failure doubles 1024 to 2048. -/
theorem retryInterval_tenth_failure : ∃ records s,
    CallRun embeddedBuild { client := {}, globals := {} } records s ∧
    s.client.zretryInterval = 2048 ∧ ¬ ∀ r ∈ records, IntervalKept r := by
  obtain ⟨records, s, hrun, -, htest⟩ := Atomic.exists_recorded (Call.prog embeddedBuild)
    (failingReconnects 10) { client := {}, globals := {} }
    (fun x => decide (x.2.client.zretryInterval = 2048) &&
      x.1.getLast?.any fun (r : CallRecord) => decide (r.after.client.zretryInterval = 2048))
    (by decide +kernel)
  simp only [Bool.and_eq_true, decide_eq_true_eq, Option.any_eq_true] at htest
  obtain ⟨hinterval, r, hr, hlast⟩ := htest
  refine ⟨records, s, hrun, hinterval, fun hall => ?_⟩
  have hupper := (hall r (List.mem_of_getLast? hr)).upper
  rw [hlast] at hupper
  exact absurd hupper (by decide)

end ZohoIotSdk
