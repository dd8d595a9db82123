import ZohoIotSdk.Atomic.Trace
import ZohoIotSdk.Blocks

/-!
# The retained event in single-threaded runs

* `FailedAt tr doc time`: the dispatch of `doc` failed, its failure was recorded at `time`,
  and since then it was neither republished successfully, nor found expired, nor replaced.
* `event_replays_in_time`: whatever `zclient_reconnect` publishes on the event topic is
  such an event, no more than 300 seconds old.
-/

namespace ZohoIotSdk

open Atomic (Prog EachAfter)

/-! ## The event that is owed, from the trace -/

/-- The effects after which a retained event is no longer the one to be replayed: another
one is retained, it was republished, or it was found expired. -/
def Effect.settlesEvent : Effect → Bool
  | .storeEvent _ _ => true
  | .publish (.replayEvent _) _ _ rc => decide (rc = zsuccess)
  | .expiryTest _ _ expired => expired
  | _ => false

/-- The dispatch of `doc` failed, with the clock reading `time` recorded at the failure,
and nothing has settled it since. -/
def FailedAt (tr : List Effect) (doc : CJson) (time : UInt64) : Prop :=
  ∃ before assetName topic payload rc connected after,
    tr = before ++ [.publish (.event assetName doc) topic payload rc, .transport connected,
      .storeEvent doc time] ++ after ∧
    rc ≠ zsuccess ∧ ∀ e ∈ after, e.settlesEvent = false

theorem FailedAt.append {tr es : List Effect} {doc : CJson} {time : UInt64}
    (h : FailedAt tr doc time) (hes : ∀ e ∈ es, e.settlesEvent = false) :
    FailedAt (tr ++ es) doc time := by
  rcases h with ⟨before, assetName, topic, payload, rc, connected, after, rfl, hrc, hafter⟩
  refine ⟨before, assetName, topic, payload, rc, connected, after ++ es, by simp, hrc, ?_⟩
  intro e he
  rcases List.mem_append.mp he with h | h
  · exact hafter e h
  · exact hes e h

/-- A plain effect settles no event. -/
theorem Effect.settlesEvent_of_isPlain {e : Effect} (h : e.isPlain = true) :
    e.settlesEvent = false := by
  cases e with
  | publish source topic payload rc =>
    cases source with
    | replayEvent doc => simp [Effect.isPlain, PublishSource.isPlain] at h
    | _ => rfl
  | storeEvent doc time => simp [Effect.isPlain] at h
  | expiryTest doc now expired => simp [Effect.isPlain] at h
  | _ => rfl

/-- What holds when the events `before` are followed by a replay of an event: its age was
tested just before, and the test read a clock not later than 300 seconds after the
failure. -/
def ReplayInTime (before : List Effect) (e : Effect) : Prop :=
  ∀ doc topic payload rc, e = .publish (.replayEvent doc) topic payload rc →
    ∃ earlier now time,
      before = earlier ++ [.expiryTest (some doc) now false, .serializeEvent (some doc)] ∧
      FailedAt before doc time ∧ now.toNat ≤ time.toNat + 300

/-- An effect that is no replay of an event. -/
theorem replayInTime_of_ne {e : Effect}
    (h : ∀ doc topic payload rc, e ≠ .publish (.replayEvent doc) topic payload rc)
    (before : List Effect) : ReplayInTime before e :=
  fun doc topic payload rc heq => absurd heq (h doc topic payload rc)

/-- Effects that replay nothing keep the condition. -/
theorem replays_append {tr es : List Effect} (h : EachAfter ReplayInTime tr)
    (hes : ∀ e ∈ es, ∀ doc topic payload rc, e ≠ .publish (.replayEvent doc) topic payload rc) :
    EachAfter ReplayInTime (tr ++ es) :=
  h.append_of_forall fun e he => replayInTime_of_ne (hes e he)

/-- The 64-bit sum can only be smaller than the sum of the numbers. -/
theorem toNat_le_of_not_lt {time now : UInt64} (h : ¬ time + 300 < now) :
    now.toNat ≤ time.toNat + 300 := by
  rw [UInt64.lt_iff_toNat_lt, UInt64.toNat_add] at h
  have hmod : (time.toNat + (300 : UInt64).toNat) % 2 ^ 64 ≤ time.toNat + 300 := Nat.mod_le _ _
  omega

/-! ## The invariant -/

/-- A filled event slot is the owed event with the time of its failure, and all replays so
far were in time. -/
structure EventStore (s : Sdk) (tr : List Effect) : Prop where
  owed : s.client.retryEvent = true → ∃ doc, s.client.failedEvent.eventPayload = some doc ∧
    FailedAt tr doc s.client.failedEvent.eventPayloadTime
  replays : EachAfter ReplayInTime tr

/-- Effects that neither settle nor replay an event, with the event slot as it was. -/
theorem EventStore.append {s s' : Sdk} {tr es : List Effect} (h : EventStore s tr)
    (hflag : s'.client.retryEvent = s.client.retryEvent)
    (hslot : s'.client.failedEvent = s.client.failedEvent)
    (hsettles : ∀ e ∈ es, e.settlesEvent = false)
    (hreplays : ∀ e ∈ es, ∀ doc topic payload rc,
      e ≠ .publish (.replayEvent doc) topic payload rc) :
    EventStore s' (tr ++ es) := by
  constructor
  · intro hretry
    rw [hflag] at hretry
    obtain ⟨doc, hdoc, hfailed⟩ := h.owed hretry
    rw [hslot]
    exact ⟨doc, hdoc, hfailed.append hsettles⟩
  · exact replays_append h.replays hreplays

theorem eventStore_frame {s s' : Sdk} {tr es : List Effect} (h : EventStore s tr)
    (hframe : Frame s s' es) : EventStore s' (tr ++ es) := by
  apply h.append hframe.slots.retryEvent hframe.slots.failedEvent
  · exact fun e he => Effect.settlesEvent_of_isPlain (hframe.plain e he)
  · intro e he doc topic payload rc heq
    have hplain := hframe.plain e he
    rw [heq] at hplain
    simp [Effect.isPlain, PublishSource.isPlain] at hplain

theorem eventStore_publishAck (b : Build) (kind : AckKind) (doc : CJson) :
    Prog.Keeps EventStore (publishAck b kind kind.topic doc) := by
  apply Prog.keeps_of_exec
  intro s tr rc es s' h hexec
  cases publishAck_cases hexec with
  | sent => exact h.append rfl rfl (by simp [Effect.settlesEvent]) (by simp)
  | refused hrc => exact h.append rfl rfl (by simp [Effect.settlesEvent]) (by simp)
  | retained hrc => exact h.append rfl rfl (by simp [Effect.settlesEvent]) (by simp)

theorem eventStore_publishEvent (b : Build) (assetName : CStringPtr) (doc : CJson) :
    Prog.Keeps EventStore (publishEvent b assetName doc) := by
  apply Prog.keeps_of_exec
  intro s tr rc es s' h hexec
  cases publishEvent_cases hexec with
  | sent => exact h.append rfl rfl (by simp [Effect.settlesEvent]) (by simp)
  | retained hrc connected st time =>
    constructor
    -- the event has just failed, and nothing has settled it since
    · intro _
      refine ⟨doc, rfl, ?_⟩
      exact ⟨tr, assetName, s.client.eventTopic, cJSONPrint (eventDispatchObject assetName doc),
        rc, connected, [], (List.append_nil _).symm, hrc, by simp⟩
    · exact replays_append h.replays (by simp)

theorem eventStore_replayFailedACK (b : Build) : Prog.Keeps EventStore (replayFailedACK b) := by
  apply Prog.keeps_of_exec
  intro s tr done es s' h hexec
  cases replayFailedACK_cases hexec with
  | idle hflag => exact h.append rfl rfl (by simp) (by simp)
  | empty hdoc => exact h.append rfl rfl (by simp [Effect.settlesEvent]) (by simp)
  | sent hdoc => exact h.append rfl rfl (by simp [Effect.settlesEvent]) (by simp)
  | refused hdoc hrc => exact h.append rfl rfl (by simp [Effect.settlesEvent]) (by simp)

/-- The publish of a replay, after the age test and the serialisation. -/
theorem EventStore.replay {s : Sdk} {tr : List Effect} (h : EventStore s tr) {doc : CJson}
    {now : UInt64} (hflag : s.client.retryEvent = true)
    (hdoc : s.client.failedEvent.eventPayload = some doc)
    (hnow : ¬ s.client.failedEvent.eventPayloadTime + 300 < now) (topic payload : CString)
    (rc : ℤ) :
    EachAfter ReplayInTime (tr ++ [.expiryTest (some doc) now false, .serializeEvent (some doc)] ++
      [.publish (.replayEvent doc) topic payload rc]) := by
  have htested : EventStore s
      (tr ++ [.expiryTest (some doc) now false, .serializeEvent (some doc)]) :=
    h.append rfl rfl (by simp [Effect.settlesEvent]) (by simp)
  rw [Atomic.eachAfter_snoc]
  refine ⟨htested.replays, ?_⟩
  intro doc' topic' payload' rc' heq
  obtain rfl : doc = doc' := by simp at heq; exact heq.1
  obtain ⟨doc'', hdoc'', hfailed⟩ := htested.owed hflag
  obtain rfl : doc = doc'' := by rw [hdoc] at hdoc''; exact Option.some.inj hdoc''
  exact ⟨tr, now, _, rfl, hfailed, toNat_le_of_not_lt hnow⟩

theorem eventStore_replayFailedEvent (b : Build) :
    Prog.Keeps EventStore (replayFailedEvent b) := by
  apply Prog.keeps_of_exec
  intro s tr done es s' h hexec
  cases replayFailedEvent_cases hexec with
  | idle hflag => exact h.append rfl rfl (by simp) (by simp)
  | expired hflag hnow =>
    constructor
    · intro hretry
      simp [Sdk.withoutFailedEvent] at hretry
    · exact replays_append h.replays (by simp)
  | empty hflag hdoc => exact h.append rfl rfl (by simp [Effect.settlesEvent]) (by simp)
  | @sent now doc hflag hnow hdoc =>
    constructor
    · intro hretry
      simp [Sdk.withoutFailedEvent] at hretry
    · have hreplay := h.replay hflag hdoc hnow s.client.eventTopic (cJSONPrint doc) zsuccess
      have hcleared : EachAfter ReplayInTime (_ ++ [.clearEvent (some doc)]) :=
        replays_append hreplay (by simp)
      simpa using hcleared
  | @refused now doc hflag hnow hdoc rc hrc =>
    constructor
    -- a refused replay settles nothing
    · intro hretry
      obtain ⟨doc', hdoc', hfailed⟩ := h.owed hretry
      exact ⟨doc', hdoc', hfailed.append (by simp [Effect.settlesEvent, hrc])⟩
    · have hreplay := h.replay hflag hdoc hnow s.client.eventTopic (cJSONPrint doc) rc
      simpa using hreplay

theorem eventStore_kept (b : Build) : KeptByBlocks b EventStore where
  frame _ _ _ _ h hframe := eventStore_frame h hframe
  publishAck := eventStore_publishAck b
  publishEvent := eventStore_publishEvent b
  replayFailedACK := eventStore_replayFailedACK b
  replayFailedEvent := eventStore_replayFailedEvent b

/-- `zclient_init` empties the event slot or leaves it as it is. -/
theorem eventStore_zclientInit (b : Build) (args : InitArgs) :
    Prog.Keeps EventStore (zclientInit b args) := by
  intro s tr h w
  have hslots := initSdk_slots b args w s
  rcases hslots with hempty | ⟨-, hsame⟩
  · simp only [ZohoIOTclient.retrySlots, RetrySlots.mk.injEq] at hempty
    constructor
    · intro hretry
      rw [hempty.2.2.1] at hretry
      simp at hretry
    · exact replays_append h.replays (by simp)
  · simp only [ZohoIOTclient.retrySlots, RetrySlots.mk.injEq] at hsame
    exact h.append hsame.2.2.1 hsame.2.2.2 (by simp [Effect.settlesEvent]) (by simp)

theorem Call.keeps_eventStore (b : Build) (call : Call) :
    Prog.Keeps EventStore (call.prog b) := by
  by_cases hinit : ∃ args, call = .init args
  · rcases hinit with ⟨args, rfl⟩
    exact Prog.keeps_bind (eventStore_zclientInit b args) fun _ => Prog.keeps_pure ()
  · exact (call.built (fun args heq => hinit ⟨args, heq⟩) fun _ => rfl).keeps (eventStore_kept b)

/-! ## Runs -/

/-- In every run of calls on a client that starts without a retained event: whenever
`zclient_reconnect` publishes a document as an event, it is the document of a failed
dispatch, at a clock reading (the one of the age test just made) not later than 300
seconds after the one recorded when the dispatch failed; and since that failure it has
neither been republished successfully nor found expired. -/
theorem event_replays_in_time (b : Build) {s s' : Sdk} {tr : List Effect}
    (hstart : s.client.retryEvent = false)
    (hrun : SingleThreaded b (fun _ => True) s tr s')
    {before : List Effect} {doc : CJson} {topic payload : CString} {rc : ℤ}
    (hpublish : before ++ [.publish (.replayEvent doc) topic payload rc] <+: tr) :
    ∃ earlier now time,
      before = earlier ++ [.expiryTest (some doc) now false, .serializeEvent (some doc)] ∧
      FailedAt before doc time ∧ now.toNat ≤ time.toNat + 300 := by
  have hinit : EventStore s [] := by
    constructor
    · intro hretry
      rw [hstart] at hretry
      simp at hretry
    · exact Atomic.eachAfter_nil
  have hstore : EventStore s' tr := by
    refine hrun.invariant ?_ hinit
    rintro p ⟨call, -, rfl⟩
    exact call.keeps_eventStore b
  exact hstore.replays before _ hpublish doc topic payload rc rfl

/-- An event that fails to be dispatched at the time 5 and is replayed at the time 20. -/
theorem event_replays_in_time_sample : ∃ tr s before doc topic payload rc,
    SingleThreaded plainBuild (fun _ => True) sampleSdk tr s ∧
    before ++ [.publish (.replayEvent doc) topic payload rc] <+: tr ∧
    ∃ earlier now time,
      before = earlier ++ [.expiryTest (some doc) now false, .serializeEvent (some doc)] ∧
      FailedAt before doc time ∧ now.toNat ≤ time.toNat + 300 := by
  have hconnect := SingleThreaded.snoc_run (b := plainBuild) (P := fun _ => True) (.nil sampleSdk)
    .connect trivial (List.replicate 12 {}) rfl
  have hfail := hconnect.snoc_run
    (.dispatchEventFromJSONString (some ['e']) (some []) (some "\x7b\x7d".toList) none) trivial
    [{}, {}, {}, { rc := -1 }, { connected := false }, {}, { time := 5 }] rfl
  have hreplay := hfail.snoc_run .reconnect trivial
    ({} :: {} :: {} :: { time := 10 } :: List.replicate 26 { time := 20 }) rfl
  refine ⟨_, _, [_, _, _, _, _, _, _, _, _, _, _, _, _, _], _, _, _, _, hreplay,
    ⟨[.clearEvent _], rfl⟩, ?_⟩
  exact event_replays_in_time plainBuild rfl hreplay ⟨[.clearEvent _], rfl⟩

end ZohoIotSdk
