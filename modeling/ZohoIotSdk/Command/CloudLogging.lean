import ZohoIotSdk.Atomic.Gate
import ZohoIotSdk.Atomic.Pool
import ZohoIotSdk.Command.Destination

/-!
# Log uploads side by side

A log upload command is handed to `handle_cloud_logging` if `get_cloud_logging_status` finds
that no upload is going on, and the upload is marked in a later step, at the beginning of
`handle_cloud_logging`. The threads that process messages go through a gate of this kind
(`Atomic.Gate`): `uploads_exclusive` says of every interleaving of theirs that the uploads
exclude each other as long as no thread passes the test while another one has passed it and
has not marked its upload yet.
-/

namespace ZohoIotSdk

open Atomic (Prog Config World Gate GatePhase)

/-! ## Steps that have nothing to do with the gate -/

/-- The step leaves the mark of an upload as it is, and routes nothing. -/
def OffGate (s s' : Sdk) (es : List Effect) : Prop :=
  s'.client.cloudLoggingInProcessing = s.client.cloudLoggingInProcessing ∧ routedTo es = none

/-- The step leaves the mark of an upload as it is, and routes nothing to
`handle_cloud_logging`. -/
def NoUpload (s s' : Sdk) (es : List Effect) : Prop :=
  s'.client.cloudLoggingInProcessing = s.client.cloudLoggingInProcessing ∧
    .routed .handleCloudLogging ∉ es

/-- A step off the gate is no upload. -/
theorem OffGate.noUpload {s s' : Sdk} {es : List Effect} (h : OffGate s s' es) :
    NoUpload s s' es := by
  refine ⟨h.1, fun hmem => ?_⟩
  obtain ⟨before, after, rfl⟩ := List.append_of_mem hmem
  have hnone := h.2
  rw [routedTo_append] at hnone
  cases hbefore : routedTo before <;> simp [hbefore, routedTo] at hnone

section Steps

variable {α : Type} {b : Build}

theorem read_offGate (f : Sdk → α) : (Prog.read f : ClientM α).Steps OffGate := by
  refine (Prog.steps_act _ _ _).mpr ?_
  intro w s
  exact ⟨rfl, rfl⟩

theorem readClient_offGate (f : ZohoIOTclient → α) : (readClient f).Steps OffGate := read_offGate _

theorem modifyClient_offGate {f : ZohoIOTclient → ZohoIOTclient}
    (h : ∀ c, (f c).cloudLoggingInProcessing = c.cloudLoggingInProcessing) :
    (modifyClient f).Steps OffGate := by
  refine (Prog.steps_act _ _ _).mpr ?_
  intro w s
  exact ⟨h s.client, rfl⟩

theorem ask_offGate {effect : Answer → Effect} {ret : Answer → α}
    (h : ∀ w, routedTo [effect w] = none) : (ask effect ret).Steps OffGate := by
  refine (Prog.steps_act _ _ _).mpr ?_
  intro w s
  exact ⟨rfl, h w⟩

theorem recordCommandName_offGate (name : CString) : (recordCommandName name).Steps OffGate := by
  refine (Prog.steps_act _ _ _).mpr ?_
  intro w s
  exact ⟨rfl, rfl⟩

theorem cloudLoggingSetLines_offGate (line : CString) :
    (cloudLoggingSetLines line).Steps OffGate := by
  refine (Prog.steps_act _ _ _).mpr ?_
  intro w s
  refine ⟨?_, rfl⟩
  split <;> rfl

theorem noteCommandName_offGate (commandMessage : CJson) :
    (noteCommandName b commandMessage).Steps OffGate := by
  unfold noteCommandName
  split
  · exact Prog.steps_pure _
  · split
    · exact Prog.steps_fault
    · refine Prog.steps_bind (recordCommandName_offGate _) fun _ => Prog.steps_ite ?_ ?_
      · split
        · exact Prog.steps_pure _
        · exact cloudLoggingSetLines_offGate _
      · exact Prog.steps_pure _

theorem generateACKLoop_offGate (statusCode : ℤ) (responseMessage : CStringPtr)
    (messages : List CJson) (ack : CJson) :
    (generateACKLoop b statusCode responseMessage messages ack).Steps OffGate := by
  induction messages generalizing ack with
  | nil => exact Prog.steps_pure _
  | cons commandMessage rest ih =>
    unfold generateACKLoop
    split
    · exact Prog.steps_pure _
    · exact Prog.steps_bind (noteCommandName_offGate _) fun _ => ih _

theorem generateACKPayload_offGate (payload : CStringPtr) (statusCode : ℤ)
    (responseMessage : CStringPtr) :
    (generateACKPayload b payload statusCode responseMessage).Steps OffGate := by
  unfold generateACKPayload
  split
  · exact Prog.steps_pure _
  · exact Prog.steps_ite (generateACKLoop_offGate _ _ _ _) (Prog.steps_pure _)

theorem publishMessage_offGate (source : PublishSource) (topic : ZohoIOTclient → CString)
    (payload : CString) : (publishMessage b source topic payload).Steps OffGate := by
  refine (Prog.steps_act _ _ _).mpr ?_
  intro w s
  exact ⟨rfl, rfl⟩

theorem storeFailedACK_offGate (kind : AckKind) (topic : ZohoIOTclient → CString) (doc : CJson) :
    (storeFailedACK kind topic doc).Steps OffGate := by
  refine (Prog.steps_act _ _ _).mpr ?_
  intro w s
  exact ⟨rfl, rfl⟩

theorem publishAck_offGate (kind : AckKind) (topic : ZohoIOTclient → CString) (doc : CJson) :
    (publishAck b kind topic doc).Steps OffGate := by
  refine Prog.steps_bind (publishMessage_offGate _ _ _) fun rc =>
    Prog.steps_ite (Prog.steps_pure _) ?_
  refine Prog.steps_bind (ask_offGate fun _ => rfl) fun connected =>
    Prog.steps_ite (Prog.steps_pure _) ?_
  refine Prog.steps_bind (modifyClient_offGate fun _ => rfl) fun _ => ?_
  exact Prog.steps_bind (storeFailedACK_offGate _ _ _) fun _ => Prog.steps_pure _

theorem publishProcessedAck_offGate (kind : AckKind) (topic : ZohoIOTclient → CString)
    (payload : CStringPtr) (statusCode : ℤ) (responseMessage : CStringPtr) :
    (publishProcessedAck b kind topic payload statusCode responseMessage).Steps OffGate := by
  refine Prog.steps_bind (readClient_offGate _) fun rc => Prog.steps_ite (Prog.steps_pure _) ?_
  refine Prog.steps_bind ?_ fun ack => ?_
  · refine Prog.steps_ite (Prog.steps_pure _) (Prog.steps_ite ?_ (Prog.steps_pure _))
    exact generateACKPayload_offGate _ _ _
  · split
    · exact Prog.steps_pure _
    · exact publishAck_offGate _ _ _

theorem otaFailure_offGate (correlationId : CStringPtr) (responseMessage : String) :
    (otaFailure b correlationId responseMessage).Steps OffGate := by
  refine Prog.steps_bind ?_ fun _ => Prog.steps_pure _
  refine Prog.steps_bind (readClient_offGate _) fun rc => Prog.steps_ite (Prog.steps_pure _) ?_
  exact publishAck_offGate _ _ _

theorem handleOTA_offGate (payload : CString) : (handleOTA b payload).Steps OffGate := by
  unfold handleOTA
  split
  · exact Prog.steps_pure _
  · refine Prog.steps_ite ?_ (Prog.steps_pure _)
    split
    · exact Prog.steps_pure _
    · exact otaFailure_offGate _ _
    · refine Prog.steps_bind (readClient_offGate _) fun _ =>
        Prog.steps_ite (otaFailure_offGate _ _) ?_
      split
      · exact otaFailure_offGate _ _
      · exact Prog.steps_fault
      · exact Prog.steps_ite (otaFailure_offGate _ _) (ask_offGate fun _ => rfl)

theorem uploadLogs_offGate : (uploadLogs b).Steps OffGate := by
  refine Prog.steps_ite (Prog.steps_bind ?_ fun _ => Prog.steps_pure _) (Prog.steps_pure _)
  refine (Prog.steps_act _ _ _).mpr ?_
  intro w s
  exact ⟨rfl, rfl⟩

theorem spawnPublish_offGate (topic : ZohoIOTclient → CString) (payload : CString) :
    (spawnPublish topic payload).Steps OffGate := by
  refine (Prog.steps_act _ _ _).mpr ?_
  intro w s
  refine ⟨rfl, ?_⟩
  split <;> rfl

theorem route_noUpload {dest : Destination} (h : dest ≠ .handleCloudLogging) :
    (route dest).Steps NoUpload := by
  refine (Prog.steps_act _ _ _).mpr ?_
  intro w s
  refine ⟨rfl, ?_⟩
  simpa using h.symm

theorem callHandler_noUpload (handler : ZohoIOTclient → Option ℕ) {dest : Destination}
    (h : dest ≠ .handleCloudLogging) : (callHandler handler dest).Steps NoUpload := by
  refine Prog.steps_bind ?_ fun _ => Prog.steps_ite (route_noUpload (by simp)) (route_noUpload h)
  exact Prog.steps_mono (readClient_offGate _) fun _ _ _ => OffGate.noUpload

end Steps

/-! ## The way through the gate -/

/-- What is left of `routeCommand` when `get_cloud_logging_status` is called. -/
def testCloudLogging (b : Build) (payload : CString) : ClientM Unit := do
  let logging ← getCloudLoggingStatus
  if logging then do
    route .handleCloudLogging
    handleCloudLogging b payload
  else callHandler (·.onCommandMessageHandler) .commandHandler

/-- What is left when the test was passed. -/
def enterCloudLogging (b : Build) (payload : CString) : ClientM Unit := do
  route .handleCloudLogging
  handleCloudLogging b payload

/-- What is left of `handle_cloud_logging` when the upload is marked. -/
def runCloudLogging (b : Build) (payload : CString) : ClientM Unit := do
  let (code, response) ← uploadLogs b
  let _ ← zclientPublishCommandAck b (some payload) code (some response)
  modifyClient fun c => { c with cloudLoggingInProcessing := false }

/-- What is left of `handle_cloud_logging` when all but its last step is done. -/
def endCloudLogging : ClientM Unit :=
  modifyClient fun c => { c with cloudLoggingInProcessing := false }

/-- A thread with the program `p`, which has emitted `own`, stands at the phase. -/
inductive UploadPhase (b : Build) (payload : CString) (own : List Effect) :
    GatePhase → ClientM Unit → Prop
  /-- It has routed nothing, and may come to the test. -/
  | before {p : ClientM Unit} (hown : routedTo own = none)
      (hp : Prog.Until OffGate
        (fun q => q = testCloudLogging b payload ∨ q.Steps NoUpload) p) :
      UploadPhase b payload own .outside p
  | elsewhere {p : ClientM Unit} (hown : routedTo own ≠ some .handleCloudLogging)
      (hp : p.Steps NoUpload) : UploadPhase b payload own .outside p
  | passed (hown : routedTo own = none) :
      UploadPhase b payload own .entering (enterCloudLogging b payload)
  | called (hown : routedTo own = some .handleCloudLogging) :
      UploadPhase b payload own .entering (handleCloudLogging b payload)
  | running {p : ClientM Unit} (hown : routedTo own = some .handleCloudLogging)
      (hp : Prog.Until OffGate (fun q => q = endCloudLogging) p) :
      UploadPhase b payload own .inside p
  | returned : UploadPhase b payload own .outside (pure ())

/-- Past the test the program stays off the gate until it opens it. -/
theorem runCloudLogging_until (b : Build) (payload : CString) :
    Prog.Until OffGate (fun q => q = endCloudLogging) (runCloudLogging b payload) := by
  refine Prog.until_bind uploadLogs_offGate fun result => ?_
  exact Prog.until_bind (publishProcessedAck_offGate _ _ _ _ _) fun _ => .here rfl

section

variable (b : Build) (payload : CString)

/-- The routing stays off the gate until the test, or it uploads nothing. -/
theorem routeCommand_until : Prog.Until OffGate
    (fun q => q = testCloudLogging b payload ∨ q.Steps NoUpload) (routeCommand b payload) := by
  refine Prog.until_bind ?_ fun ota => Prog.until_ite (.here (.inr ?_)) (.here (.inl rfl))
  · refine (Prog.steps_act _ _ _).mpr ?_
    intro w s
    exact ⟨rfl, rfl⟩
  · refine Prog.steps_bind (route_noUpload (by simp)) fun _ => ?_
    exact Prog.steps_mono (handleOTA_offGate _) fun _ _ _ => OffGate.noUpload

/-- A message stays off the gate until the test, or it uploads nothing. -/
theorem processMessageReceived_until (topic : CString) (message : List Char) :
    Prog.Until OffGate
      (fun q => q = testCloudLogging b (cstr message) ∨ q.Steps NoUpload)
      (processMessageReceived b topic message) := by
  refine Prog.until_bind (readClient_offGate _) fun isCommand => Prog.until_ite ?_ ?_
  · refine Prog.until_bind (generateACKPayload_offGate _ _ _) fun ack => ?_
    split
    · exact .here (.inr (Prog.steps_pure _))
    · exact Prog.until_bind (spawnPublish_offGate _ _) fun _ => routeCommand_until b _
  · refine Prog.until_bind (readClient_offGate _) fun isConfig => Prog.until_ite ?_ ?_
    · refine Prog.until_bind (generateACKPayload_offGate _ _ _) fun ack => ?_
      split
      · exact .here (.inr (Prog.steps_pure _))
      · refine Prog.until_bind (spawnPublish_offGate _ _) fun _ => .here (.inr ?_)
        exact callHandler_noUpload _ (by simp)
    · exact .here (.inr (Prog.steps_pure _))

end

/-! ## One step of a thread -/

section

variable {b : Build} {payload : CString} {own : List Effect} {phase : GatePhase} {p : ClientM Unit}

/-- A thread that has routed its message elsewhere has no way back. -/
theorem noUpload_own (hown : routedTo own ≠ some .handleCloudLogging) {es : List Effect}
    (hes : .routed .handleCloudLogging ∉ es) :
    routedTo (own ++ es) ≠ some .handleCloudLogging := by
  rw [routedTo_append]
  cases hdest : routedTo own with
  | some dest =>
    rw [hdest] at hown
    exact hown
  | none =>
    rw [Option.none_or]
    induction es with
    | nil => simp [routedTo]
    | cons e es ih =>
      obtain ⟨hfirst, hrest⟩ := not_or.mp (mt List.mem_cons.mpr hes)
      cases e with
      | routed dest =>
        intro heq
        apply hfirst
        rw [Option.some.inj heq]
      | _ => exact ih hrest

/-- Once a thread has routed its message it has routed it. -/
theorem routed_own {dest : Destination} (hown : routedTo own = some dest) (es : List Effect) :
    routedTo (own ++ es) = some dest := by
  rw [routedTo_append, hown]
  rfl

section

variable {upd : Answer → Sdk → Sdk} {emit : Answer → Sdk → List Effect}
  {next : Answer → Sdk → ClientM Unit}

/-- A thread that cannot come to the test any more. -/
theorem UploadPhase.step_elsewhere (hown : routedTo own ≠ some .handleCloudLogging)
    (hp : (Prog.step upd emit next : ClientM Unit).Steps NoUpload) (w : Answer) (s : Sdk) :
    UploadPhase b payload (own ++ emit w s) .outside (next w s) ∧
      Gate.Move .outside s.client.cloudLoggingInProcessing .outside
        (upd w s).client.cloudLoggingInProcessing := by
  obtain ⟨⟨hflag, hes⟩, hnext⟩ := hp w s
  refine ⟨.elsewhere (noUpload_own hown hes) hnext, ?_⟩
  rw [hflag]
  exact .stay _ _

/-- The test: an upload begins if one was asked for and none is going on. -/
theorem UploadPhase.step_test (hown : routedTo own = none)
    (hp : testCloudLogging b payload = .step upd emit next) (w : Answer) (s : Sdk) :
    ∃ phase', UploadPhase b payload (own ++ emit w s) phase' (next w s) ∧
      Gate.Move .outside s.client.cloudLoggingInProcessing phase'
        (upd w s).client.cloudLoggingInProcessing ∧
      (phase' = .entering →
        s.client.cloudLogging = true ∧ s.client.cloudLoggingInProcessing = false) := by
  obtain ⟨rfl, rfl, rfl⟩ := Prog.step.inj hp
  show ∃ phase', UploadPhase b payload (own ++ []) phase'
    (if s.client.cloudLogging && !s.client.cloudLoggingInProcessing then
      enterCloudLogging b payload
    else callHandler (·.onCommandMessageHandler) .commandHandler) ∧ _
  rw [List.append_nil]
  split
  · rename_i hstatus
    rw [Bool.and_eq_true, Bool.not_eq_true'] at hstatus
    refine ⟨.entering, .passed hown, ?_, fun _ => hstatus⟩
    show Gate.Move _ s.client.cloudLoggingInProcessing _ s.client.cloudLoggingInProcessing
    rw [hstatus.2]
    exact .pass
  · refine ⟨.outside, .elsewhere (by simp [hown]) ?_, .stay _ _, by simp⟩
    exact callHandler_noUpload _ (by simp)

/-- A step of a thread moves it through the gate, and it passes the test only where it calls
`get_cloud_logging_status` and gets a positive answer. -/
theorem UploadPhase.step (h : UploadPhase b payload own phase p) (hp : p = .step upd emit next)
    (w : Answer) (s : Sdk) :
    ∃ phase', UploadPhase b payload (own ++ emit w s) phase' (next w s) ∧
      Gate.Move phase s.client.cloudLoggingInProcessing phase'
        (upd w s).client.cloudLoggingInProcessing ∧
      (phase = .outside → phase' = .entering → p = testCloudLogging b payload ∧
        s.client.cloudLogging = true ∧ s.client.cloudLoggingInProcessing = false) := by
  cases h with
  | before hown huntil =>
    cases huntil with
    | here hhere =>
      rcases hhere with rfl | hsteps
      · obtain ⟨phase', hphase, hmove, hpass⟩ := step_test hown hp w s
        exact ⟨phase', hphase, hmove, fun _ henter => ⟨rfl, hpass henter⟩⟩
      · have hown' : routedTo own ≠ some .handleCloudLogging := by simp [hown]
        obtain ⟨hphase, hmove⟩ := step_elsewhere hown' (hp ▸ hsteps) w s
        exact ⟨.outside, hphase, hmove, by simp⟩
    | fault => simp at hp
    | @step _ emit' _ hstep hnext =>
      obtain ⟨rfl, rfl, rfl⟩ := Prog.step.inj hp
      obtain ⟨hflag, hes⟩ := hstep w s
      have hown' : routedTo (own ++ emit' w s) = none := by
        rw [routedTo_append, hown, hes]
        rfl
      refine ⟨.outside, .before hown' (hnext w s), ?_, by simp⟩
      rw [hflag]
      exact .stay _ _
  | elsewhere hown hsteps =>
    obtain ⟨hphase, hmove⟩ := step_elsewhere hown (hp ▸ hsteps) w s
    exact ⟨.outside, hphase, hmove, by simp⟩
  | passed hown =>
    obtain ⟨rfl, rfl, rfl⟩ := Prog.step.inj hp
    refine ⟨.entering, .called ?_, .stay _ _, by simp⟩
    rw [routedTo_append, hown]
    rfl
  | called hown =>
    obtain ⟨rfl, rfl, rfl⟩ := Prog.step.inj hp
    exact ⟨.inside, .running (routed_own hown _) (runCloudLogging_until b payload), .enter _,
      by simp⟩
  | running hown huntil =>
    cases huntil with
    | here hhere =>
      obtain rfl : p = endCloudLogging := hhere
      obtain ⟨rfl, rfl, rfl⟩ := Prog.step.inj hp
      exact ⟨.outside, .returned, .leave _, by simp⟩
    | fault => simp at hp
    | step hstep hnext =>
      obtain ⟨rfl, rfl, rfl⟩ := Prog.step.inj hp
      refine ⟨.inside, .running (routed_own hown _) (hnext w s), ?_, by simp⟩
      rw [(hstep w s).1]
      exact .stay _ _
  | returned => simp at hp

end

end

/-! ## All threads together -/

section

variable {τ : Type} [DecidableEq τ] (b : Build) (topic : τ → CString) (message : τ → List Char)

/-- One thread for each received message, before their first steps. -/
def uploadSystem (s : Sdk) : Config τ Sdk Answer Effect where
  pool t := processMessageReceived b (topic t) (message t)
  world := { state := s, trace := [] }

/-- The thread has called `handle_cloud_logging` and has not returned from it. -/
def Uploading (t : τ) (c : Config τ Sdk Answer Effect) : Prop :=
  routedTo (c.world.own t) = some .handleCloudLogging ∧ c.pool t ≠ pure ()

omit [DecidableEq τ] in
/-- The thread has passed the test, and has not marked its upload yet. -/
def Entering (t : τ) (c : Config τ Sdk Answer Effect) : Prop :=
  c.pool t = enterCloudLogging b (cstr (message t)) ∨
    c.pool t = handleCloudLogging b (cstr (message t))

/-- If the thread is about to pass the test, no other thread has passed it without having
marked its upload. -/
def PassesAlone (t : τ) (c : Config τ Sdk Answer Effect) : Prop :=
  c.pool t = testCloudLogging b (cstr (message t)) → c.world.state.client.cloudLogging = true →
    c.world.state.client.cloudLoggingInProcessing = false → ∀ t' ≠ t, ¬ Entering b message t' c

/-- The threads stand as an exclusive gate has them. -/
def Gated (c : Config τ Sdk Answer Effect) : Prop :=
  ∃ g : Gate τ, g.Exclusive ∧ g.raised = c.world.state.client.cloudLoggingInProcessing ∧
    ∀ t, UploadPhase b (cstr (message t)) (c.world.own t) (g.phase t) (c.pool t)

variable {b topic message}

theorem gated_uploadSystem (s : Sdk) : Gated b message (uploadSystem b topic message s) := by
  refine ⟨⟨s.client.cloudLoggingInProcessing, fun _ => .outside⟩, ⟨?_, ?_⟩, rfl, fun t => ?_⟩
  · intro t t' h
    exact absurd rfl h
  · intro t h
    simp at h
  · exact .before rfl (processMessageReceived_until b (topic t) (message t))

/-- One step of any thread keeps the gate, provided it passes the test alone. -/
theorem Gated.step {c c' : Config τ Sdk Answer Effect} (h : Gated b message c) {t : τ}
    {w : Answer} (hfire : c.fire t w = some c') (halone : PassesAlone b message t c) :
    Gated b message c' := by
  rcases h with ⟨g, hexclusive, hraised, hphases⟩
  obtain ⟨upd, emit, next, hhead, hpool, hworld⟩ := Config.fire_eq_some hfire
  obtain ⟨phase', hphase, hmove, hpass⟩ := (hphases t).step hhead w c.world.state
  refine ⟨g.move t phase' (upd w c.world.state).client.cloudLoggingInProcessing, ?_, ?_, ?_⟩
  · rw [← hraised] at hmove
    refine hexclusive.step hmove fun hout henter t' hne hentering => ?_
    obtain ⟨htest, hlogging, hidle⟩ := hpass hout henter
    -- a thread on its way in stands where the condition forbids it to stand
    apply halone htest hlogging hidle t' hne
    have hother := hphases t'
    rw [hentering] at hother
    generalize hrest : c.pool t' = rest at hother
    cases hother with
    | passed => exact .inl hrest
    | called => exact .inr hrest
  · rw [hworld]
    rfl
  · intro t'
    rw [hworld, hpool]
    by_cases ht : t' = t
    · subst ht
      rw [World.own_after_self, Function.update_self]
      show UploadPhase _ _ _ (Function.update g.phase t' phase' t') _
      rw [Function.update_self]
      exact hphase
    · rw [World.own_after_of_ne _ (Ne.symm ht), Function.update_of_ne ht]
      show UploadPhase _ _ _ (Function.update g.phase t phase' t') _
      rw [Function.update_of_ne ht]
      exact hphases t'

/-- The gate is kept in every reachable configuration. -/
theorem gated_of_reaches {s : Sdk} {c : Config τ Sdk Answer Effect}
    (h : (uploadSystem b topic message s).ReachesFrom (PassesAlone b message) c) :
    Gated b message c := by
  induction h with
  | refl => exact gated_uploadSystem s
  | tail _ hstep ih =>
    obtain ⟨t, w, hfire, halone⟩ := hstep
    exact ih.step hfire halone

/-- In every interleaving of the threads that process messages in which a thread passes the test
of `get_cloud_logging_status` only while no other thread is between that test and the mark at
the beginning of `handle_cloud_logging`, at most one thread at a time is in
`handle_cloud_logging`. -/
theorem uploads_exclusive (b : Build) (topic : τ → CString) (message : τ → List Char) (s : Sdk)
    {c : Config τ Sdk Answer Effect}
    (hrun : (uploadSystem b topic message s).ReachesFrom (PassesAlone b message) c) (t t' : τ)
    (ht : Uploading t c) (ht' : Uploading t' c) : t = t' := by
  obtain ⟨g, hexclusive, -, hphases⟩ := gated_of_reaches hrun
  have hwithin : ∀ t, Uploading t c → g.phase t ≠ .outside := by
    intro t hup hout
    have hphase := hphases t
    rw [hout] at hphase
    generalize hrest : c.pool t = rest at hphase
    cases hphase with
    | before hown =>
      rw [Uploading, hown] at hup
      simp at hup
    | elsewhere hown => exact hown hup.1
    | returned => exact hup.2 hrest
  exact hexclusive.alone t t' (hwithin t ht) (hwithin t' ht')

end

/-! ## Two log upload commands -/

def httpBuild : Build := { plainBuild with httpPublishEnable := true }

/-- A message with one log upload command. -/
def uploadMessage : List Char :=
  "[\x7b\"correlation_id\":\"1\",\"command_name\":\"Z_PUBLISH_DEVICE_LOGS\"\x7d]".toList

/-- Two threads that process such a message each. -/
def twoUploads : Config Bool Sdk Answer Effect :=
  uploadSystem httpBuild (fun _ => sampleSdk.client.commandTopic) (fun _ => uploadMessage)
    sampleSdk

/-- A test for `Uploading`. -/
def uploading (t : Bool) (c : Config Bool Sdk Answer Effect) : Bool :=
  decide (routedTo (c.world.own t) = some .handleCloudLogging) && (c.fire t {}).isSome

theorem uploading_of_check {t : Bool} {c : Config Bool Sdk Answer Effect}
    (h : uploading t c = true) : Uploading t c := by
  rw [uploading, Bool.and_eq_true, decide_eq_true_eq] at h
  refine ⟨h.1, fun hpure => ?_⟩
  have hfire := h.2
  rw [Config.fire, hpure] at hfire
  simp [Pure.pure] at hfire

/-- The next step of the thread neither emits anything nor marks an upload. -/
def idle (t : Bool) (c : Config Bool Sdk Answer Effect) : Bool :=
  match c.pool t with
  | .step upd emit _ => (emit {} {}).isEmpty && !(upd {} {}).client.cloudLoggingInProcessing
  | _ => true

/-- A thread passes alone while the other one is idle. -/
theorem passesAlone_of_idle {t : Bool} {c : Config Bool Sdk Answer Effect}
    (h : idle (!t) c = true) : PassesAlone httpBuild (fun _ => uploadMessage) t c := by
  intro _ _ _ t' hne hentering
  obtain rfl : t' = !t := by
    revert hne
    cases t <;> cases t' <;> simp
  -- the next step of a thread on its way in routes its message or marks its upload
  rcases hentering with hpool | hpool
  · rw [idle, hpool] at h
    exact absurd h (by simp [enterCloudLogging, route, ask, Prog.act])
  · rw [idle, hpool] at h
    exact absurd h (by simp [handleCloudLogging, modifyClient, Prog.modify, Prog.act])

/-- One thread tests after the other one has marked its upload: only one of them uploads. -/
theorem uploads_exclusive_marked : ∃ c,
    twoUploads.ReachesFrom (PassesAlone httpBuild fun _ => uploadMessage) c ∧
    Uploading false c ∧ ∀ t, Uploading t c → t = false := by
  have hrun : (Config.scheduleFrom (fun t => idle !t)
      [(false, {}), (false, {}), (false, {}), (false, {}), (false, {}), (false, {}), (false, {}),
        (true, {}), (true, {}), (true, {}), (true, {}), (true, {}), (true, {}), (true, {})]
      twoUploads).any (uploading false) = true := by
    decide +kernel
  obtain ⟨c, hreach, htest⟩ :=
    Config.reachesFrom_of_schedule (fun _ _ => passesAlone_of_idle) hrun
  have hfirst := uploading_of_check htest
  refine ⟨c, hreach, hfirst, fun t ht => ?_⟩
  exact uploads_exclusive httpBuild (fun _ => sampleSdk.client.commandTopic)
    (fun _ => uploadMessage) sampleSdk hreach t false ht hfirst

/-- Both threads test before either of them has marked its upload: both upload. -/
theorem uploads_concurrent : ∃ c,
    twoUploads.ReachesFrom (fun _ _ => True) c ∧ Uploading false c ∧ Uploading true c := by
  have hrun : (Config.scheduleFrom (fun _ _ => true)
      [(false, {}), (false, {}), (false, {}), (false, {}), (false, {}), (true, {}), (true, {}),
        (true, {}), (true, {}), (true, {}), (false, {}), (false, {}), (true, {}), (true, {})]
      twoUploads).any (fun c => uploading false c && uploading true c) = true := by
    decide +kernel
  obtain ⟨c, hreach, htest⟩ := Config.reachesFrom_of_schedule (fun _ _ _ => trivial) hrun
  rw [Bool.and_eq_true] at htest
  exact ⟨c, hreach, uploading_of_check htest.1, uploading_of_check htest.2⟩

end ZohoIotSdk
