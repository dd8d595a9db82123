import ZohoIotSdk.Blocks

/-!
# The retained ACK in single-threaded runs

`lastUndelivered` reads off the trace which ACK is still owed to the server: the one of
the most recent ACK call that failed while the transport was down, unless a replay has
succeeded since. `AckStore` says that the retry slot of the client is this ACK, and it is
kept by every call other than `zclient_init`.
-/

namespace ZohoIotSdk

open Atomic (Prog)

/-! ## The owed ACK, from the trace -/

/-- What the effects so far say about ACKs: one that was sent in the last effect without
success, and the one that is owed. -/
structure AckLog where
  attempt : Option (CJson × CString) := none
  undelivered : Option (CJson × CString) := none

/-- The log after one more effect. -/
def AckLog.note (log : AckLog) : Effect → AckLog
  | .publish (.ack _ doc) topic _ rc =>
    { log with attempt := if rc = zsuccess then none else some (doc, topic) }
  | .publish (.replayACK _) _ _ rc =>
    { attempt := none, undelivered := if rc = zsuccess then none else log.undelivered }
  | .transport connected =>
    -- a failed attempt counts when the transport turns out to be down
    if connected then { log with attempt := none }
    else { attempt := none, undelivered := log.attempt.or log.undelivered }
  | _ => { log with attempt := none }

def ackLog (tr : List Effect) : AckLog := tr.foldl AckLog.note {}

/-- The document and the topic of the most recent ACK call that failed with the transport
disconnected, if no replay has succeeded since. -/
def lastUndelivered (tr : List Effect) : Option (CJson × CString) := (ackLog tr).undelivered

/-- The log is computed effect by effect. -/
theorem ackLog_append (tr es : List Effect) :
    ackLog (tr ++ es) = es.foldl AckLog.note (ackLog tr) :=
  List.foldl_append ..

@[simp] theorem ackLog_snoc (tr : List Effect) (e : Effect) :
    ackLog (tr ++ [e]) = (ackLog tr).note e := ackLog_append tr [e]

/-- Without a pending attempt, an effect that does not concern the slots changes nothing. -/
theorem AckLog.note_plain {log : AckLog} (hidle : log.attempt = none) {e : Effect}
    (he : e.isPlain = true) : log.note e = log := by
  rcases log with ⟨attempt, undelivered⟩
  obtain rfl : attempt = none := hidle
  cases e with
  | publish source topic payload rc =>
    cases source with
    | ack kind doc => simp [Effect.isPlain, PublishSource.isPlain] at he
    | replayACK doc => simp [Effect.isPlain, PublishSource.isPlain] at he
    | _ => rfl
  | transport connected => cases connected <;> rfl
  | _ => rfl

/-- Plain effects leave the log when no attempt is open. -/
theorem ackLog_plain {tr es : List Effect} (hidle : (ackLog tr).attempt = none)
    (hplain : ∀ e ∈ es, e.isPlain = true) : ackLog (tr ++ es) = ackLog tr := by
  induction es generalizing tr with
  | nil => rw [List.append_nil]
  | cons e es ih =>
    have hstep : ackLog (tr ++ [e]) = ackLog tr := by
      rw [ackLog_snoc]
      exact AckLog.note_plain hidle (hplain e (List.mem_cons_self ..))
    rw [List.append_cons, ih _ fun e' h => hplain e' (List.mem_cons_of_mem _ h)]
    · exact hstep
    · rw [hstep]
      exact hidle

/-! ## The invariant -/

/-- The retry flags agree with the slots, and the ACK slot is the owed ACK. -/
structure AckStore (s : Sdk) (tr : List Effect) : Prop where
  ackFlag : s.client.retryACK = s.client.failedACK.ackPayload.isSome
  eventFlag : s.client.retryEvent = s.client.failedEvent.eventPayload.isSome
  idle : (ackLog tr).attempt = none
  slot : (ackLog tr).undelivered =
    s.client.failedACK.ackPayload.map fun doc => (doc, s.client.failedACK.topic)

theorem ackStore_frame {s s' : Sdk} {tr es : List Effect} (h : AckStore s tr)
    (hframe : Frame s s' es) : AckStore s' (tr ++ es) := by
  have hlog := ackLog_plain h.idle hframe.plain
  have hslots := hframe.slots
  refine ⟨?_, ?_, ?_, ?_⟩
  · rw [hslots.retryACK, hslots.failedACK]
    exact h.ackFlag
  · rw [hslots.retryEvent, hslots.failedEvent]
    exact h.eventFlag
  · rw [hlog]
    exact h.idle
  · rw [hlog, hslots.failedACK]
    exact h.slot

theorem ackStore_publishAck (b : Build) (kind : AckKind) (doc : CJson) :
    Prog.Keeps AckStore (publishAck b kind kind.topic doc) := by
  apply Prog.keeps_of_exec
  intro s tr rc es s' h hexec
  cases publishAck_cases hexec with
  | sent =>
    refine ⟨h.ackFlag, h.eventFlag, ?_, ?_⟩
    · simp [AckLog.note]
    · simp [AckLog.note, h.slot]
  | refused hrc =>
    -- with the connection up a failed ACK is not owed
    refine ⟨h.ackFlag, h.eventFlag, ?_, ?_⟩
    · simp [ackLog_append, AckLog.note]
    · simp [ackLog_append, AckLog.note, h.slot]
  | retained hrc =>
    refine ⟨rfl, h.eventFlag, ?_, ?_⟩
    · simp [ackLog_append, AckLog.note]
    -- the failed attempt is now the owed ACK, and it is what was put into the slot
    · simp [ackLog_append, AckLog.note, hrc, Sdk.withFailedACK]

theorem ackStore_publishEvent (b : Build) (assetName : CStringPtr) (doc : CJson) :
    Prog.Keeps AckStore (publishEvent b assetName doc) := by
  apply Prog.keeps_of_exec
  intro s tr rc es s' h hexec
  have hidle := h.idle
  cases publishEvent_cases hexec with
  | sent =>
    refine ⟨h.ackFlag, h.eventFlag, ?_, ?_⟩
    · simp [AckLog.note]
    · simp [AckLog.note, h.slot]
  | retained hrc connected st time =>
    refine ⟨h.ackFlag, rfl, ?_, ?_⟩
    · simp [ackLog_append, AckLog.note]
    · cases connected
      · simp [ackLog_append, AckLog.note, h.slot, Sdk.withFailedEvent]
      · simp [ackLog_append, AckLog.note, h.slot, Sdk.withFailedEvent]

theorem ackStore_replayFailedACK (b : Build) : Prog.Keeps AckStore (replayFailedACK b) := by
  apply Prog.keeps_of_exec
  intro s tr done es s' h hexec
  cases replayFailedACK_cases hexec with
  | idle hflag =>
    rw [List.append_nil]
    exact h
  | empty hdoc =>
    refine ⟨h.ackFlag, h.eventFlag, ?_, ?_⟩
    · simp [AckLog.note]
    · simp [AckLog.note, h.slot]
  | sent hdoc =>
    -- the owed ACK is settled and the slot is empty
    refine ⟨rfl, h.eventFlag, ?_, ?_⟩
    · simp [ackLog_append, AckLog.note]
    · simp [ackLog_append, AckLog.note, Sdk.withoutFailedACK]
  | refused hdoc hrc =>
    refine ⟨h.ackFlag, h.eventFlag, ?_, ?_⟩
    · simp [ackLog_append, AckLog.note]
    · simp [ackLog_append, AckLog.note, hrc, h.slot]

theorem ackStore_replayFailedEvent (b : Build) : Prog.Keeps AckStore (replayFailedEvent b) := by
  apply Prog.keeps_of_exec
  intro s tr done es s' h hexec
  cases replayFailedEvent_cases hexec with
  | idle hflag =>
    rw [List.append_nil]
    exact h
  | expired hflag hnow =>
    refine ⟨h.ackFlag, rfl, ?_, ?_⟩
    · simp [ackLog_append, AckLog.note]
    · simp [ackLog_append, AckLog.note, h.slot, Sdk.withoutFailedEvent]
  | empty hflag hdoc =>
    refine ⟨h.ackFlag, h.eventFlag, ?_, ?_⟩
    · simp [ackLog_append, AckLog.note]
    · simp [ackLog_append, AckLog.note, h.slot]
  | sent hflag hnow hdoc =>
    refine ⟨h.ackFlag, rfl, ?_, ?_⟩
    · simp [ackLog_append, AckLog.note]
    · simp [ackLog_append, AckLog.note, h.slot, Sdk.withoutFailedEvent]
  | refused hflag hnow hdoc hrc =>
    refine ⟨h.ackFlag, h.eventFlag, ?_, ?_⟩
    · simp [ackLog_append, AckLog.note]
    · simp [ackLog_append, AckLog.note, h.slot]

theorem ackStore_kept (b : Build) : KeptByBlocks b AckStore where
  frame _ _ _ _ h hframe := ackStore_frame h hframe
  publishAck := ackStore_publishAck b
  publishEvent := ackStore_publishEvent b
  replayFailedACK := ackStore_replayFailedACK b
  replayFailedEvent := ackStore_replayFailedEvent b

/-! ## Runs -/

/-- A successful `zclient_init` leaves the slots empty. -/
theorem zclientInit_slots {b : Build} {args : InitArgs} {s s' : Sdk} {es : List Effect}
    (h : (zclientInit b args).Exec s zsuccess es s') :
    s'.client.retrySlots = ⟨false, {}, false, {}⟩ := by
  rcases h with ⟨w, es', -, hrc, -, rfl⟩
  have hslots := initSdk_slots b args w s
  rcases hslots with hempty | hfailed
  · exact hempty
  · exact absurd hrc.symm hfailed.1

/-- In every run of calls after a successful `zclient_init`, the retry flags say whether the
slots are filled, and a filled ACK slot holds the document and the topic of the most recent
ACK call that failed with the transport disconnected and has not been replayed since. -/
theorem retry_store_consistent (b : Build) (args : InitArgs) {s₀ s s' : Sdk}
    {es tr : List Effect} (hinit : (zclientInit b args).Exec s₀ zsuccess es s)
    (hrun : SingleThreaded b (fun call => call ≠ .free ∧ ∀ args, call ≠ .init args) s tr s') :
    (s'.client.retryACK = true ↔ s'.client.failedACK.ackPayload ≠ none) ∧
    (s'.client.retryEvent = true ↔ s'.client.failedEvent.eventPayload ≠ none) ∧
    (s'.client.retryACK = true → ∃ doc, s'.client.failedACK.ackPayload = some doc ∧
      lastUndelivered tr = some (doc, s'.client.failedACK.topic)) := by
  have hslots := zclientInit_slots hinit
  have hstart : AckStore s [] := by
    simp only [ZohoIOTclient.retrySlots, RetrySlots.mk.injEq] at hslots
    rcases hslots with ⟨hflag, hack, heventFlag, hevent⟩
    refine ⟨?_, ?_, rfl, ?_⟩
    · rw [hflag, hack]
      rfl
    · rw [heventFlag, hevent]
      rfl
    · rw [hack]
      rfl
  have hstore : AckStore s' tr := by
    refine hrun.invariant ?_ hstart
    rintro p ⟨call, hcall, rfl⟩
    exact (call.built hcall.2 fun _ => rfl).keeps (ackStore_kept b)
  refine ⟨?_, ?_, ?_⟩
  · rw [hstore.ackFlag, Option.isSome_iff_ne_none]
  · rw [hstore.eventFlag, Option.isSome_iff_ne_none]
  · intro hretry
    rw [hstore.ackFlag, Option.isSome_iff_exists] at hretry
    rcases hretry with ⟨doc, hdoc⟩
    refine ⟨doc, hdoc, ?_⟩
    show (ackLog tr).undelivered = _
    rw [hstore.slot, hdoc]
    rfl

/-- An OTA ACK that fails with the transport down: the slot is filled. -/
theorem retry_store_consistent_sample : ∃ tr s,
    SingleThreaded plainBuild (fun call => call ≠ .free ∧ ∀ args, call ≠ .init args)
      sampleSdk tr s ∧
    s.client.retryACK = true ∧
    ∃ doc, s.client.failedACK.ackPayload = some doc ∧
      lastUndelivered tr = some (doc, s.client.failedACK.topic) := by
  have hrun := SingleThreaded.snoc_run (b := plainBuild)
    (P := fun call => call ≠ .free ∧ ∀ args, call ≠ .init args) (.nil sampleSdk)
    (.publishOTAAck (some "7".toList) executionFailure (some [])) (by simp)
    [{}, { rc := -1 }, { connected := false }, {}, {}] rfl
  have hstore := retry_store_consistent plainBuild sampleArgs sampleSdk_init hrun
  exact ⟨_, _, hrun, rfl, hstore.2.2 rfl⟩

end ZohoIotSdk
