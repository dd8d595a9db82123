import ZohoIotSdk.Atomic.Trace
import ZohoIotSdk.Blocks
import ZohoIotSdk.CJson.TextTheorems

/-!
# The document of a replayed event

`zclient_dispatchEventFromJSONString` sends the event under the name of its asset, but
retains the bare event. `replay_equals_dispatch` says when the replay sends the document
of the failed dispatch: exactly when there was no asset name to lose.
-/

namespace ZohoIotSdk

open Atomic (Prog EachAfter)

/-! ## The two documents -/

/-- The text of an event sent under an asset name is not that of the bare event. -/
theorem cJSONPrint_eventDispatchObject_eq_iff (assetName : CStringPtr) (doc : CJson) :
    cJSONPrint doc = cJSONPrint (eventDispatchObject assetName doc) ↔
      isStringValid assetName = false := by
  unfold eventDispatchObject
  by_cases hvalid : isStringValid assetName = true
  · rw [if_pos hvalid]
    have hlonger := length_cJSONPrint_lt_wrapped (assetName.getD []) doc
    constructor
    · intro heq
      have hlength := congrArg List.length heq
      have hlt : (cJSONPrint doc).length < (cJSONPrint
        (cJSONAddItemReferenceToObject cJSONCreateObject (assetName.getD []) doc)).length := hlonger
      omega
    · intro hinvalid
      rw [hvalid] at hinvalid
      exact absurd hinvalid (by decide)
  · rw [if_neg hvalid]
    exact ⟨fun _ => by simpa using hvalid, fun _ => rfl⟩

/-- A dispatch whose publish fails leaves the bare event in the slot. -/
theorem zclientDispatchEvent_failed {b : Build}
    {eventType eventDescription eventDataJSONString assetName : CStringPtr} {s s' : Sdk} {rc : ℤ}
    {es : List Effect} (hexec : (zclientDispatchEventFromJSONString b eventType eventDescription
      eventDataJSONString assetName).Exec s rc es s')
    {doc : CJson} {topic payload : CString} {rc' : ℤ}
    (hpublish : .publish (.event assetName doc) topic payload rc' ∈ es) (hrc : rc' ≠ zsuccess) :
    payload = cJSONPrint (eventDispatchObject assetName doc) ∧
      s'.client.failedEvent.eventPayload = some doc := by
  revert hpublish
  refine Prog.Exec.of_wlp (Q := fun _ es s' =>
    .publish (.event assetName doc) topic payload rc' ∈ es →
      payload = cJSONPrint (eventDispatchObject assetName doc) ∧
      s'.client.failedEvent.eventPayload = some doc) ?_ hexec
  unfold zclientDispatchEventFromJSONString
  simp only [Prog.wlp_bind, Prog.wlp_ite, Prog.wlp_pure, wlp_readClient, wlp_validateClientState]
  split
  · simp
  split
  · simp
  split
  · simp
  · unfold timeText
    simp only [Prog.wlp_bind, Prog.wlp_act, Prog.wlp_ite, Prog.wlp_pure, List.append_nil]
    intro w
    split
    · simp
    -- everything before the first send is silent
    apply Prog.wlp_iff.mpr
    intro rc₁ es₁ s₁ hsend hpublish
    rw [List.nil_append] at hpublish
    cases publishEvent_cases hsend with
    | sent =>
      simp only [List.mem_singleton, Effect.publish.injEq] at hpublish
      exact absurd hpublish.2.2.2 hrc
    | retained hrc₁ connected st time =>
      simp only [List.mem_cons, Effect.publish.injEq, PublishSource.event.injEq, reduceCtorEq,
        List.not_mem_nil, or_false] at hpublish
      rcases hpublish with ⟨⟨-, rfl⟩, -, rfl, -⟩
      exact ⟨rfl, rfl⟩

/-! ## While no other event is retained -/

/-- Another event goes into the slot. -/
def Effect.isStoreEvent : Effect → Bool
  | .storeEvent _ _ => true
  | _ => false

/-- A replay of an event, before which none was stored, sends the text of `doc`. -/
def SendsOnly (doc : CJson) (before : List Effect) (e : Effect) : Prop :=
  (∀ e' ∈ before, e'.isStoreEvent = false) → ∀ doc' topic payload rc,
    e = .publish (.replayEvent doc') topic payload rc → payload = cJSONPrint doc

/-- As long as no other event is stored, the slot holds `doc` or nothing, and only `doc` is
replayed. -/
structure Held (doc : CJson) (s : Sdk) (tr : List Effect) : Prop where
  slot : (∀ e ∈ tr, e.isStoreEvent = false) →
    ∀ doc', s.client.failedEvent.eventPayload = some doc' → doc' = doc
  replays : EachAfter (SendsOnly doc) tr

section

variable {doc : CJson} {s s' : Sdk} {tr es : List Effect}

/-- Effects that replay nothing keep the condition. -/
theorem sendsOnly_append (h : EachAfter (SendsOnly doc) tr)
    (hes : ∀ e ∈ es, ∀ doc' topic payload rc, e ≠ .publish (.replayEvent doc') topic payload rc) :
    EachAfter (SendsOnly doc) (tr ++ es) :=
  h.append_of_forall fun e he _ _ doc' topic payload rc heq =>
    absurd heq (hes e he doc' topic payload rc)

/-- Effects that replay nothing, with a slot that was not filled anew. -/
theorem Held.append (h : Held doc s tr)
    (hslot : ∀ doc', s'.client.failedEvent.eventPayload = some doc' →
      s.client.failedEvent.eventPayload = some doc')
    (hes : ∀ e ∈ es, ∀ doc' topic payload rc, e ≠ .publish (.replayEvent doc') topic payload rc) :
    Held doc s' (tr ++ es) := by
  refine ⟨fun hnone doc' hdoc' => ?_, sendsOnly_append h.replays hes⟩
  refine h.slot (fun e he => hnone e ?_) doc' (hslot doc' hdoc')
  exact List.mem_append_left _ he

theorem held_publishAck (b : Build) (kind : AckKind) (ack : CJson) :
    Prog.Keeps (Held doc) (publishAck b kind kind.topic ack) := by
  apply Prog.keeps_of_exec
  intro s tr rc es s' h hexec
  cases publishAck_cases hexec with
  | sent => exact h.append (fun _ => id) (by simp)
  | refused hrc => exact h.append (fun _ => id) (by simp)
  | retained hrc => exact h.append (fun _ => id) (by simp)

theorem held_publishEvent (b : Build) (assetName : CStringPtr) (event : CJson) :
    Prog.Keeps (Held doc) (publishEvent b assetName event) := by
  apply Prog.keeps_of_exec
  intro s tr rc es s' h hexec
  cases publishEvent_cases hexec with
  | sent => exact h.append (fun _ => id) (by simp)
  | retained hrc connected st time =>
    refine ⟨fun hnone => ?_, sendsOnly_append h.replays (by simp)⟩
    -- a stored event ends what is claimed
    have hstored := hnone (.storeEvent event time) (by simp)
    exact absurd hstored (by simp [Effect.isStoreEvent])

theorem held_replayFailedACK (b : Build) : Prog.Keeps (Held doc) (replayFailedACK b) := by
  apply Prog.keeps_of_exec
  intro s tr done es s' h hexec
  cases replayFailedACK_cases hexec with
  | idle hflag => exact h.append (fun _ => id) (by simp)
  | empty hdoc => exact h.append (fun _ => id) (by simp)
  | sent hdoc => exact h.append (fun _ => id) (by simp)
  | refused hdoc hrc => exact h.append (fun _ => id) (by simp)

/-- The publish of a replay sends what is in the slot. -/
theorem Held.replay (h : Held doc s tr) {event : CJson}
    (hevent : s.client.failedEvent.eventPayload = some event) (now : UInt64) (topic : CString)
    (rc : ℤ) :
    EachAfter (SendsOnly doc) (tr ++
      [.expiryTest (some event) now false, .serializeEvent (some event)] ++
      [.publish (.replayEvent event) topic (cJSONPrint event) rc]) := by
  have htested : Held doc s
      (tr ++ [.expiryTest (some event) now false, .serializeEvent (some event)]) :=
    h.append (fun _ => id) (by simp)
  rw [Atomic.eachAfter_snoc]
  refine ⟨htested.replays, fun hnone doc' topic' payload' rc' heq => ?_⟩
  have hdoc := htested.slot hnone event hevent
  simp only [Effect.publish.injEq] at heq
  rw [← heq.2.2.1, hdoc]

/-- Replaying the event sends the one held. -/
theorem held_replayFailedEvent (b : Build) : Prog.Keeps (Held doc) (replayFailedEvent b) := by
  apply Prog.keeps_of_exec
  intro s tr done es s' h hexec
  cases replayFailedEvent_cases hexec with
  | idle hflag => exact h.append (fun _ => id) (by simp)
  | expired hflag hnow => exact h.append (by simp [Sdk.withoutFailedEvent]) (by simp)
  | empty hflag hdoc => exact h.append (fun _ => id) (by simp)
  | @sent now event hflag hnow hdoc =>
    refine ⟨by simp [Sdk.withoutFailedEvent], ?_⟩
    have hreplay := h.replay hdoc now s.client.eventTopic zsuccess
    have hcleared : EachAfter (SendsOnly doc) (_ ++ [.clearEvent (some event)]) :=
      sendsOnly_append hreplay (by simp)
    simpa using hcleared
  | @refused now event hflag hnow hdoc rc hrc =>
    refine ⟨fun hnone => h.slot fun e he => hnone e (List.mem_append_left _ he), ?_⟩
    have hreplay := h.replay hdoc now s.client.eventTopic rc
    simpa using hreplay

theorem held_kept (b : Build) (doc : CJson) : KeptByBlocks b (Held doc) where
  frame s s' tr es h hframe := by
    refine h.append (fun doc' hdoc' => ?_) fun e he doc' topic payload rc heq => ?_
    · rw [← hframe.slots.failedEvent]
      exact hdoc'
    · have hplain := hframe.plain e he
      rw [heq] at hplain
      simp [Effect.isPlain, PublishSource.isPlain] at hplain
  publishAck := held_publishAck b
  publishEvent := held_publishEvent b
  replayFailedACK := held_replayFailedACK b
  replayFailedEvent := held_replayFailedEvent b

theorem held_zclientInit (b : Build) (args : InitArgs) :
    Prog.Keeps (Held doc) (zclientInit b args) := by
  intro s tr h w
  refine h.append (fun doc' hdoc' => ?_) (by simp)
  rcases initSdk_slots b args w s with hempty | ⟨-, hsame⟩
  · simp only [ZohoIOTclient.retrySlots, RetrySlots.mk.injEq] at hempty
    rw [hempty.2.2.2] at hdoc'
    simp at hdoc'
  · simp only [ZohoIOTclient.retrySlots, RetrySlots.mk.injEq] at hsame
    rw [← hsame.2.2.2]
    exact hdoc'

theorem Call.keeps_held (b : Build) (doc : CJson) (call : Call) :
    Prog.Keeps (Held doc) (call.prog b) := by
  by_cases hinit : ∃ args, call = .init args
  · rcases hinit with ⟨args, rfl⟩
    exact Prog.keeps_bind (held_zclientInit b args) fun _ => Prog.keeps_pure ()
  · exact (call.built (fun args heq => hinit ⟨args, heq⟩) fun _ => rfl).keeps (held_kept b doc)

end

/-! ## Runs -/

/-- The text that a replay sends in a run after a failed dispatch, as long as no other event
was retained: the bare event. -/
theorem replay_payload {b : Build} {doc : CJson} {s s' : Sdk} {tr before : List Effect}
    (hslot : s.client.failedEvent.eventPayload = some doc)
    (hrun : SingleThreaded b (fun _ => True) s tr s') {doc' : CJson} {topic payload : CString}
    {rc : ℤ} (hreplay : before ++ [.publish (.replayEvent doc') topic payload rc] <+: tr)
    (hheld : ∀ e ∈ before, e.isStoreEvent = false) : payload = cJSONPrint doc := by
  have hstart : Held doc s [] := by
    refine ⟨fun _ doc'' hdoc'' => ?_, Atomic.eachAfter_nil⟩
    rw [hslot] at hdoc''
    exact (Option.some.inj hdoc'').symm
  -- of the calls of the run, only the blocks touch the slot
  have hend : Held doc s' tr := by
    refine hrun.invariant ?_ hstart
    rintro p ⟨call, -, rfl⟩
    exact call.keeps_held b doc
  exact hend.replays before _ hreplay hheld doc' topic payload rc rfl

/-- A dispatch fails to publish, and a later `zclient_reconnect` replays the event while it
is still in the retry slot: the replay publishes the document that the dispatch tried to
publish if and only if the asset name is null or empty. -/
theorem replay_equals_dispatch (b : Build)
    {eventType eventDescription eventDataJSONString assetName : CStringPtr} {s₁ s₂ s₃ : Sdk}
    {rc : ℤ} {es tr : List Effect}
    (hdispatch : (zclientDispatchEventFromJSONString b eventType eventDescription
      eventDataJSONString assetName).Exec s₁ rc es s₂)
    {doc : CJson} {topic payload : CString} {rc₁ : ℤ}
    (hpublish : .publish (.event assetName doc) topic payload rc₁ ∈ es) (hfailed : rc₁ ≠ zsuccess)
    (hrun : SingleThreaded b (fun _ => True) s₂ tr s₃)
    (before : List Effect) {doc' : CJson} {topic' payload' : CString} {rc₂ : ℤ}
    (hreplay : before ++ [.publish (.replayEvent doc') topic' payload' rc₂] <+: tr)
    (hheld : ∀ e ∈ before, e.isStoreEvent = false) :
    payload' = payload ↔ isStringValid assetName = false := by
  obtain ⟨hpayload, hslot⟩ := zclientDispatchEvent_failed hdispatch hpublish hfailed
  rw [hpayload, replay_payload hslot hrun hreplay hheld]
  exact cJSONPrint_eventDispatchObject_eq_iff assetName doc

/-- The same run for an event without an asset. -/
theorem replay_equals_dispatch_sample : ∃ s₁ s₂ s₃ rc es tr before doc topic payload rc₁ doc'
    topic' payload' rc₂,
    (zclientDispatchEventFromJSONString plainBuild (some ['e']) (some [])
      (some "\x7b\x7d".toList) none).Exec s₁ rc es s₂ ∧
    .publish (.event none doc) topic payload rc₁ ∈ es ∧ rc₁ ≠ zsuccess ∧
    SingleThreaded plainBuild (fun _ => True) s₂ tr s₃ ∧
    before ++ [.publish (.replayEvent doc') topic' payload' rc₂] <+: tr ∧
    (∀ e ∈ before, e.isStoreEvent = false) ∧ payload' = payload := by
  have hconnect := SingleThreaded.snoc_run (b := plainBuild) (P := fun _ => True) (.nil sampleSdk)
    .connect trivial (List.replicate 12 {}) rfl
  have hdispatch := hconnect.exec_run (zclientDispatchEventFromJSONString plainBuild
      (some ['e']) (some []) (some "\x7b\x7d".toList) none)
    [{}, {}, {}, { rc := -1 }, { connected := false }, {}, { time := 5 }] rfl
  have hreplay := (SingleThreaded.nil_after (b := plainBuild) (P := fun _ => True)
    hdispatch).snoc_run .reconnect trivial
      ({} :: {} :: {} :: { time := 10 } :: List.replicate 26 { time := 20 }) rfl
  refine ⟨_, _, _, _, _, _, [_, _, _, _, _, _, _, _], _, _, _, _, _, _, _, _,
    hdispatch, .head _, by decide, hreplay, ⟨[.clearEvent _], rfl⟩, by decide, ?_⟩
  exact (replay_equals_dispatch plainBuild hdispatch (.head _) (by decide) hreplay
    [_, _, _, _, _, _, _, _] ⟨[.clearEvent _], rfl⟩ (by decide)).mpr rfl

/-- An event of the asset `a` whose dispatch fails: the replay sends it without the asset. -/
theorem replay_loses_asset : ∃ s₁ s₂ s₃ rc es tr₀ tr before doc topic payload rc₁ doc' topic'
    payload' rc₂,
    SingleThreaded plainBuild (fun _ => True) sampleSdk tr₀ s₁ ∧
    (zclientDispatchEventFromJSONString plainBuild (some ['e']) (some [])
      (some "\x7b\x7d".toList) (some ['a'])).Exec s₁ rc es s₂ ∧
    .publish (.event (some ['a']) doc) topic payload rc₁ ∈ es ∧ rc₁ ≠ zsuccess ∧
    SingleThreaded plainBuild (fun _ => True) s₂ tr s₃ ∧
    before ++ [.publish (.replayEvent doc') topic' payload' rc₂] <+: tr ∧
    (∀ e ∈ before, e.isStoreEvent = false) ∧ payload' ≠ payload := by
  have hconnect := SingleThreaded.snoc_run (b := plainBuild) (P := fun _ => True) (.nil sampleSdk)
    .connect trivial (List.replicate 12 {}) rfl
  have hdispatch := hconnect.exec_run (zclientDispatchEventFromJSONString plainBuild
      (some ['e']) (some []) (some "\x7b\x7d".toList) (some ['a']))
    [{}, {}, {}, { rc := -1 }, { connected := false }, {}, { time := 5 }] rfl
  have hreplay := (SingleThreaded.nil_after (b := plainBuild) (P := fun _ => True)
    hdispatch).snoc_run .reconnect trivial
      ({} :: {} :: {} :: { time := 10 } :: List.replicate 26 { time := 20 }) rfl
  refine ⟨_, _, _, _, _, _, _, [_, _, _, _, _, _, _, _], _, _, _, _, _, _, _, _, hconnect,
    hdispatch, .head _, by decide, hreplay, ⟨[.clearEvent _], rfl⟩, ?_, ?_⟩
  · decide
  · intro heq
    have hinvalid := (cJSONPrint_eventDispatchObject_eq_iff (some ['a']) _).mp heq
    exact absurd hinvalid (by decide)

end ZohoIotSdk
