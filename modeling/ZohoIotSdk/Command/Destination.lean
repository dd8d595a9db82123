import ZohoIotSdk.Command.AckSafety

/-!
# Where a command message goes

`processMessageReceived` decides from the two flags of the client, which the construction
of the ACK has just written: once for each command of the message that has a
`command_name`, so that the last one counts, and not at all if none has one.

* `processMessageReceived_routes`: the destination of a message, from the names in it and
  the client it meets.
* `routing_independent_iff`: when it does not depend on the flags left by earlier messages.
* `ota_handled_iff`: when it agrees with whether the message contains an OTA command.
-/

namespace ZohoIotSdk

open Atomic (Prog)

/-! ## The flags after the ACK has been built -/

/-- The name of a command, if it has one. -/
def commandName (commandMessage : CJson) : CStringPtr :=
  (cJSONGetObjectItem commandMessage commandNameKey).bind CJson.valuestring

/-- A `command_name` that is there has a string value. -/
def NamedByString (commandMessage : CJson) : Prop :=
  (cJSONGetObjectItem commandMessage commandNameKey).isSome → (commandName commandMessage).isSome

instance (commandMessage : CJson) : Decidable (NamedByString commandMessage) :=
  inferInstanceAs (Decidable (_ → _))

/-- The client after a command of that name was noted. -/
def ZohoIOTclient.recordName (c : ZohoIOTclient) (name : CString) : ZohoIOTclient :=
  { c with
    otaReceived := decide (name = zOTA)
    cloudLogging := decide (name = zPublishDeviceLogs) }

/-- The client after the commands of those names were noted one after the other: only the
last one counts. -/
theorem foldl_recordName (c : ZohoIOTclient) (names : List CString) :
    names.foldl ZohoIOTclient.recordName c =
      match names.getLast? with
      | none => c
      | some name => c.recordName name := by
  induction names using List.reverseRecOn with
  | nil => rfl
  | append_singleton names name ih =>
    rw [List.foldl_append, List.getLast?_concat, List.foldl_cons, List.foldl_nil, ih]
    split <;> rfl

/-- The first destination in a trace. -/
def routedTo : List Effect → Option Destination
  | [] => none
  | .routed dest :: _ => some dest
  | _ :: es => routedTo es

/-- The first destination of a trace counts. -/
theorem routedTo_append (tr es : List Effect) :
    routedTo (tr ++ es) = (routedTo tr).or (routedTo es) := by
  induction tr with
  | nil => simp [routedTo]
  | cons e tr ih =>
    cases e with
    | routed dest => simp [routedTo]
    | _ => simpa only [List.cons_append, routedTo] using ih

/-- Whatever is done after the routing, the first destination stays. -/
theorem keeps_routedTo {α : Type} (dest : Destination) (p : ClientM α) :
    Prog.Keeps (fun _ tr => routedTo tr = some dest) p := by
  apply Prog.keeps_of_exec
  intro s tr a es s' h _
  rw [routedTo_append, h]
  rfl

/-- Noting a name routes nothing, needs a string and records it in the client. -/
theorem noteCommandName_exec {b : Build} {commandMessage : CJson} {s s' : Sdk} {es : List Effect}
    (h : (noteCommandName b commandMessage).Exec s () es s') :
    routedTo es = none ∧ NamedByString commandMessage ∧
    s'.client = match commandName commandMessage with
      | none => s.client
      | some name => s.client.recordName name := by
  refine Prog.Exec.of_wlp (Q := fun _ es s' => routedTo es = none ∧
    NamedByString commandMessage ∧ s'.client = match commandName commandMessage with
      | none => s.client
      | some name => s.client.recordName name) ?_ h
  unfold noteCommandName NamedByString commandName
  cases hitem : cJSONGetObjectItem commandMessage commandNameKey with
  | none => exact ⟨rfl, by simp, rfl⟩
  | some item =>
    cases hvalue : item.valuestring with
    | none =>
      simp only [hvalue]
      trivial
    | some name =>
      simp only [hvalue, Option.bind_some]
      unfold recordCommandName cloudLoggingSetLines Prog.modify
      simp only [Prog.wlp_bind, Prog.wlp_act, Prog.wlp_ite, Prog.wlp_pure]
      intro _
      split
      · split
        · exact ⟨rfl, fun _ => rfl, rfl⟩
        · simp only [Prog.wlp_act]
          intro _
          -- the number of lines is not part of the client
          refine ⟨rfl, fun _ => rfl, ?_⟩
          split <;> rfl
      · exact ⟨rfl, fun _ => rfl, rfl⟩

/-- An ACK is built exactly when every command has a string `correlation_id`; the client
then has noted all the names. -/
theorem generateACKLoop_exec {b : Build} {statusCode : ℤ} {responseMessage : CStringPtr}
    {messages : List CJson} {ack : CJson} {s s' : Sdk} {r : Option CJson} {es : List Effect}
    (h : (generateACKLoop b statusCode responseMessage messages ack).Exec s r es s') :
    routedTo es = none ∧ (r.isSome ↔ ∀ m ∈ messages, (correlationId m).isSome) ∧
    (r.isSome → (∀ m ∈ messages, NamedByString m) ∧ s'.client =
      (messages.filterMap commandName).foldl ZohoIOTclient.recordName s.client) := by
  induction messages generalizing ack s es with
  | nil =>
    rcases h with ⟨rfl, rfl, rfl⟩
    exact ⟨rfl, by simp, fun _ => ⟨by simp, rfl⟩⟩
  | cons message rest ih =>
    rw [generateACKLoop] at h
    cases hid : correlationId message with
    | none =>
      -- no ACK, so nothing is claimed about the flags
      simp only [hid] at h
      rcases h with ⟨rfl, rfl, rfl⟩
      exact ⟨rfl, by simp [hid], fun hsome => absurd hsome (by simp)⟩
    | some corrId =>
      simp only [hid] at h
      obtain ⟨_, es₁, s₁, es₂, hnote, hloop, rfl⟩ := Prog.exec_bind.mp h
      -- the names of the rest are noted after the name of this element
      obtain ⟨hrouted, hnamed, hclient⟩ := noteCommandName_exec hnote
      obtain ⟨hrouted', hformed, hrest⟩ := ih hloop
      refine ⟨by rw [routedTo_append, hrouted, hrouted']; rfl, by simp [hid, hformed], ?_⟩
      intro hsome
      obtain ⟨hnamed', hclient'⟩ := hrest hsome
      refine ⟨List.forall_mem_cons.mpr ⟨hnamed, hnamed'⟩, ?_⟩
      rw [hclient', hclient]
      cases hname : commandName message with
      | none => rw [List.filterMap_cons_none hname]
      | some name => rw [List.filterMap_cons_some hname, List.foldl_cons]

/-- The commands of a payload. -/
def commands (payload : CString) : List CJson :=
  match cJSONParse payload with
  | none => []
  | some array => array.child

theorem commands_eq {payload : CString} {array : CJson} (h : cJSONParse payload = some array) :
    commands payload = array.child := by
  rw [commands, h]

/-- The names in a payload. -/
def commandNames (payload : CString) : List CString := (commands payload).filterMap commandName

/-- The payloads for which an ACK is built: arrays whose elements all have a string
`correlation_id`. -/
def AckFormed (payload : CString) : Prop :=
  ∃ array, cJSONParse payload = some array ∧ array.type = .array ∧
    ∀ m ∈ array.child, (correlationId m).isSome

theorem ackFormed_iff (payload : CString) : AckFormed payload ↔
    ((cJSONParse payload).any fun array => decide (array.type = .array) &&
      array.child.all fun m => (correlationId m).isSome) = true := by
  unfold AckFormed
  cases cJSONParse payload <;> simp

instance (payload : CString) : Decidable (AckFormed payload) :=
  decidable_of_iff _ (ackFormed_iff payload).symm

/-- Forming the ACK routes nothing and notes the names of the commands. -/
theorem generateACKPayload_exec {b : Build} {payload : CString} {statusCode : ℤ}
    {responseMessage : CStringPtr} {s s' : Sdk} {r : Option CJson} {es : List Effect}
    (h : (generateACKPayload b (some payload) statusCode responseMessage).Exec s r es s') :
    routedTo es = none ∧ (r.isSome ↔ AckFormed payload) ∧
    (r.isSome → (∀ m ∈ commands payload, NamedByString m) ∧ s'.client =
      (commandNames payload).foldl ZohoIOTclient.recordName s.client) := by
  unfold generateACKPayload at h
  unfold commandNames commands AckFormed
  rw [Option.bind_some] at h
  cases hparse : cJSONParse payload with
  | none =>
    simp only [hparse] at h
    rcases h with ⟨rfl, rfl, rfl⟩
    exact ⟨rfl, by simp, fun hsome => absurd hsome (by simp)⟩
  | some array =>
    simp only [hparse] at h
    by_cases harray : array.type = .array
    · rw [cJSONIsArray, Option.map_some, harray, decide_eq_true rfl, if_pos rfl] at h
      obtain ⟨hrouted, hformed, hclient⟩ := generateACKLoop_exec h
      exact ⟨hrouted, by simp [harray, hformed], hclient⟩
    · rw [cJSONIsArray, Option.map_some, if_neg (by simpa using harray)] at h
      rcases h with ⟨rfl, rfl, rfl⟩
      exact ⟨rfl, by simp [harray], fun hsome => absurd hsome (by simp)⟩

/-- The elements of the payload, if it is an array, carry a `command_name` only as a string. -/
def NamesAreStrings (payload : CString) : Prop :=
  ∀ array, cJSONParse payload = some array → array.type = .array →
    ∀ m ∈ array.child, NamedByString m

/-- The names are strings when those of all commands are. -/
theorem namesAreStrings_of_commands {payload : CString}
    (h : ∀ m ∈ commands payload, NamedByString m) : NamesAreStrings payload := by
  intro array hparse _
  rwa [commands_eq hparse] at h

/-- A payload whose `command_name`s are all strings crashes nothing. -/
theorem NamesAreStrings.not_crashingPayload {payload : CString} (h : NamesAreStrings payload) :
    ¬ CrashingPayload (some payload) := by
  intro ⟨array, hparse, harray, before, message, after, hchild, _, _, item, hitem, htype⟩
  rw [Option.bind_some] at hparse
  have hmem : message ∈ array.child := by
    rw [hchild]
    exact List.mem_append_right _ (List.mem_cons_self ..)
  have htyped : item.WellTyped :=
    ((cJSONParse_wellTyped hparse).of_mem_child hmem).member hitem
  have hnamed := h array hparse harray message hmem
  unfold NamedByString commandName at hnamed
  rw [hitem] at hnamed
  exact htype (htyped.valuestring_isSome.mp (hnamed rfl))

/-- Where an ACK is built for such a payload. -/
theorem exists_formReceivedACK (b : Build) {payload : CString} (hformed : AckFormed payload)
    (hnamed : ∀ m ∈ commands payload, NamedByString m) (s : Sdk) :
    ∃ ack es s', (zclientFormReceivedACK b (some payload)).Exec s (some ack) es s' ∧
      s'.client = (commandNames payload).foldl ZohoIOTclient.recordName s.client := by
  obtain ⟨r, es, s', hexec⟩ := ((generateACKPayload_safe b (some payload) receivedAckCode (some [])
    s).mpr ((namesAreStrings_of_commands hnamed).not_crashingPayload)).exists_exec
  obtain ⟨-, hiff, hclient⟩ := generateACKPayload_exec hexec
  obtain ⟨ack, rfl⟩ := Option.isSome_iff_exists.mp (hiff.mpr hformed)
  exact ⟨ack, es, s', hexec, (hclient rfl).2⟩

/-! ## Routing -/

/-- Where a command message goes, by the flags and the handler of the client. -/
def destination (c : ZohoIOTclient) : Destination :=
  if c.otaReceived then .handleOTA
  else if c.cloudLogging && !c.cloudLoggingInProcessing then .handleCloudLogging
  else if c.onCommandMessageHandler = none then .noHandler
  else .commandHandler

/-- The destination is the OTA handler exactly when its flag is set. -/
theorem destination_eq_handleOTA_iff (c : ZohoIOTclient) :
    destination c = .handleOTA ↔ c.otaReceived = true := by
  unfold destination
  split
  · rename_i hota
    exact ⟨fun _ => hota, fun _ => rfl⟩
  · rename_i hota
    refine ⟨fun h => absurd h ?_, fun h => absurd h hota⟩
    split
    · simp
    · split <;> simp

/-- Every run of the routing reaches the destination of the state it began in. -/
theorem routeCommand_routes {b : Build} {payload : CString} {s s' : Sdk} {es : List Effect}
    (h : (routeCommand b payload).Exec s () es s') : routedTo es = some (destination s.client) := by
  refine Prog.Exec.of_wlp (Q := fun _ es _ => routedTo es = some (destination s.client)) ?_ h
  unfold routeCommand getOTAStatus getCloudLoggingStatus callHandler route destination
  simp only [Prog.wlp_bind, Prog.wlp_act, Prog.wlp_ite, wlp_readClient, wlp_ask]
  intro _
  split
  · rename_i hota
    intro _
    -- what `handle_OTA` does comes after the routing
    exact keeps_routedTo .handleOTA _ _ _ (by simp [routedTo])
  · split
    · intro _
      exact keeps_routedTo .handleCloudLogging _ _ _ (by simp [routedTo])
    · split
      · intro _
        simp [routedTo]
      · intro _
        simp [routedTo]

/-- A command message for which an ACK is built goes where the names in it and the client
say. -/
theorem processMessageReceived_routes {b : Build} {message : List Char} {s s' : Sdk}
    {es : List Effect}
    (h : (processMessageReceived b s.client.commandTopic message).Exec s () es s')
    (hack : AckFormed (cstr message)) :
    routedTo es = some (destination
      ((commandNames (cstr message)).foldl ZohoIOTclient.recordName s.client)) := by
  refine Prog.Exec.of_wlp (Q := fun _ es _ => routedTo es = some (destination
    ((commandNames (cstr message)).foldl ZohoIOTclient.recordName s.client))) ?_ h
  unfold processMessageReceived
  simp only [Prog.wlp_bind, wlp_readClient, decide_true, if_true]
  unfold processCommand
  rw [Prog.wlp_bind, Prog.wlp_iff]
  -- building the ACK routes nothing and notes the names
  intro r es₁ s₁ hexec
  obtain ⟨hrouted, hformed, hclient⟩ := generateACKPayload_exec hexec
  obtain ⟨ack, rfl⟩ := Option.isSome_iff_exists.mp (hformed.mpr hack)
  simp only [Prog.wlp_bind, spawnPublish, Prog.wlp_act, List.nil_append]
  intro w
  rw [Prog.wlp_iff]
  intro _ es₂ s₂ hroute
  -- neither does starting the thread that publishes it
  have hspawn : routedTo (if w.rc = 0 then [Effect.spawnPublish s₁.client.commandAckTopic
      (cJSONPrint ack)] else []) = none := by
    split <;> rfl
  rw [routedTo_append, routedTo_append, hrouted, hspawn, routeCommand_routes hroute,
    (hclient rfl).2]
  rfl

/-! ## Independence of earlier messages -/

/-- Two states that differ at most in the two flags of the client. -/
def SameButFlags (s₁ s₂ : Sdk) : Prop :=
  ∃ ota logging, s₂ = { s₁ with client :=
    { s₁.client with otaReceived := ota, cloudLogging := logging } }

/-- The flags that some name has overwritten do not matter. -/
theorem destination_sameButFlags {s₁ s₂ : Sdk} (h : SameButFlags s₁ s₂) {names : List CString}
    (hnames : names ≠ []) :
    destination (names.foldl ZohoIOTclient.recordName s₁.client) =
      destination (names.foldl ZohoIOTclient.recordName s₂.client) := by
  rcases h with ⟨ota, logging, rfl⟩
  rw [foldl_recordName, foldl_recordName, List.getLast?_eq_some_getLast hnames]
  rfl

theorem commandNames_ne_nil_iff {payload : CString}
    (h : ∀ m ∈ commands payload, NamedByString m) : commandNames payload ≠ [] ↔
      ∃ m ∈ commands payload, (cJSONGetObjectItem m commandNameKey).isSome := by
  unfold commandNames
  constructor
  · intro hne
    obtain ⟨name, hname⟩ := List.exists_mem_of_ne_nil _ hne
    obtain ⟨m, hm, hmname⟩ := List.mem_filterMap.mp hname
    refine ⟨m, hm, ?_⟩
    obtain ⟨item, hitem, -⟩ := Option.bind_eq_some_iff.mp hmname
    rw [hitem]
    rfl
  · intro ⟨m, hm, hitem⟩
    obtain ⟨name, hname⟩ := Option.isSome_iff_exists.mp (h m hm hitem)
    exact List.ne_nil_of_mem (List.mem_filterMap.mpr ⟨m, hm, hname⟩)

/-- For a payload whose ACK is built, on the command topic of the client: the destination
is the same in every two states that differ only in the flags `OTA_RECEIVED` and
`CLOUD_LOGGING` if and only if some command of the payload has a `command_name`. -/
theorem routing_independent_iff (b : Build) (message : List Char) {s₀ s₀' : Sdk} {ack : CJson}
    {es₀ : List Effect}
    (hack : (zclientFormReceivedACK b (some (cstr message))).Exec s₀ (some ack) es₀ s₀') :
    (∀ s₁ s₂, SameButFlags s₁ s₂ → ∀ es₁ s₁' es₂ s₂',
      (processMessageReceived b s₁.client.commandTopic message).Exec s₁ () es₁ s₁' →
      (processMessageReceived b s₂.client.commandTopic message).Exec s₂ () es₂ s₂' →
      routedTo es₁ = routedTo es₂) ↔
    ∃ m ∈ commands (cstr message), (cJSONGetObjectItem m commandNameKey).isSome := by
  obtain ⟨-, hformed, hnotes⟩ := generateACKPayload_exec hack
  have hformed : AckFormed (cstr message) := hformed.mp rfl
  have hnames := commandNames_ne_nil_iff (hnotes rfl).1
  constructor
  · intro hsame
    by_contra hunnamed
    -- no name overwrites the flags, so they alone decide
    have hnil : commandNames (cstr message) = [] := by
      by_contra hne
      exact hunnamed (hnames.mp hne)
    have hsafe := (namesAreStrings_of_commands (hnotes rfl).1).not_crashingPayload
    let stale (ota : Bool) : Sdk := { client := { otaReceived := ota } }
    have hends := fun ota => (processMessageReceived_safe b (stale ota).client.commandTopic hsafe
      (stale ota)).exists_exec
    obtain ⟨_, es₁, s₁', hexec₁⟩ := hends true
    obtain ⟨_, es₂, s₂', hexec₂⟩ := hends false
    have hroutes := hsame (stale true) (stale false) ⟨false, false, rfl⟩ es₁ s₁' es₂ s₂'
      hexec₁ hexec₂
    rw [processMessageReceived_routes hexec₁ hformed, processMessageReceived_routes hexec₂ hformed,
      hnil] at hroutes
    exact absurd hroutes (by decide)
  · intro hnamed s₁ s₂ hsame es₁ s₁' es₂ s₂' hexec₁ hexec₂
    rw [processMessageReceived_routes hexec₁ hformed, processMessageReceived_routes hexec₂ hformed,
      destination_sameButFlags hsame (hnames.mpr hnamed)]

/-- A message with one OTA command. -/
def otaMessage : List Char :=
  "[\x7b\"correlation_id\":\"1\",\"command_name\":\"Z_OTA\"\x7d]".toList

/-- The message with one OTA command is routed whatever came before it. -/
theorem routing_independent_ota : AckFormed (cstr otaMessage) ∧
    ∀ s₁ s₂, SameButFlags s₁ s₂ → ∀ es₁ s₁' es₂ s₂',
      (processMessageReceived plainBuild s₁.client.commandTopic otaMessage).Exec s₁ () es₁ s₁' →
      (processMessageReceived plainBuild s₂.client.commandTopic otaMessage).Exec s₂ () es₂ s₂' →
      routedTo es₁ = routedTo es₂ := by
  have hformed : AckFormed (cstr otaMessage) := by decide +kernel
  have hnamed : ∀ m ∈ commands (cstr otaMessage), NamedByString m := by decide +kernel
  have hsome : ∃ m ∈ commands (cstr otaMessage), (cJSONGetObjectItem m commandNameKey).isSome := by
    decide +kernel
  -- the text is not needed any more, and evaluating it is slow
  generalize otaMessage = message at hformed hnamed hsome ⊢
  obtain ⟨ack, es₀, s₀', hack, -⟩ := exists_formReceivedACK plainBuild hformed hnamed sampleSdk
  exact ⟨hformed, (routing_independent_iff plainBuild message hack).mpr hsome⟩

/-- After an OTA message, an empty array of commands goes to `handle_OTA`; without it, it
does not. -/
theorem routing_stale_flag : ∃ tr s₁ s₂ es₁ s₁' es₂ s₂' ack es₀ s₀',
    SingleThreaded plainBuild (fun _ => True) sampleSdk tr s₁ ∧ SameButFlags s₁ s₂ ∧
    (zclientFormReceivedACK plainBuild (some (cstr "[]".toList))).Exec s₁ (some ack) es₀ s₀' ∧
    (processMessageReceived plainBuild s₁.client.commandTopic "[]".toList).Exec s₁ () es₁ s₁' ∧
    (processMessageReceived plainBuild s₂.client.commandTopic "[]".toList).Exec s₂ () es₂ s₂' ∧
    routedTo es₁ ≠ routedTo es₂ := by
  have hota : ((processMessageReceived plainBuild sampleSdk.client.commandTopic otaMessage).run
      (List.replicate 8 {}) sampleSdk).any (fun result => result.2.2.client.otaReceived) =
        true := by
    decide +kernel
  have hformed : AckFormed (cstr "[]".toList) := by decide
  have hnamed : ∀ m ∈ commands (cstr "[]".toList), NamedByString m := by decide
  have hnames : commandNames (cstr "[]".toList) = [] := by decide
  generalize otaMessage = before at hota
  generalize "[]".toList = message at hformed hnamed hnames ⊢
  -- the earlier message leaves the flag set
  obtain ⟨_, tr, s₁, hbefore, hflag⟩ := Prog.exists_exec_of_run hota
  have hrun : SingleThreaded plainBuild (fun _ => True) sampleSdk ([] ++ tr) s₁ :=
    .snoc (.nil _) ⟨.processMessageReceived _ before, trivial, rfl⟩ hbefore
  let s₂ : Sdk :=
    { s₁ with client := { s₁.client with otaReceived := false, cloudLogging := false } }
  obtain ⟨ack, es₀, s₀', hack, -⟩ := exists_formReceivedACK plainBuild hformed hnamed s₁
  have hsafe := processMessageReceived_safe plainBuild s₁.client.commandTopic
    ((namesAreStrings_of_commands hnamed).not_crashingPayload)
  obtain ⟨_, es₁, s₁', hexec₁⟩ := (hsafe s₁).exists_exec
  obtain ⟨_, es₂, s₂', hexec₂⟩ := (hsafe s₂).exists_exec
  refine ⟨_, s₁, s₂, es₁, s₁', es₂, s₂', ack, es₀, s₀', hrun, ⟨false, false, rfl⟩, hack, hexec₁,
    hexec₂, ?_⟩
  have hroute₂ := processMessageReceived_routes (s := s₂) hexec₂ hformed
  rw [processMessageReceived_routes hexec₁ hformed, hroute₂, hnames]
  have hfirst : destination s₁.client = .handleOTA := (destination_eq_handleOTA_iff _).mpr hflag
  intro heq
  have hsecond : destination s₂.client = .handleOTA := (Option.some.inj heq).symm.trans hfirst
  exact Bool.false_ne_true ((destination_eq_handleOTA_iff _).mp hsecond)

/-! ## Batches of commands -/

/-- The name of a command that has a string one. -/
theorem commandName_isSome_of_hasString {m : CJson} (htyped : m.WellTyped)
    (h : m.hasString commandNameKey) : (commandName m).isSome := by
  rcases h with ⟨item, hitem, htype⟩
  rw [commandName, hitem]
  exact (htyped.member hitem).valuestring_isSome.mpr htype

/-- The last name of a batch in which every command has one. -/
theorem getLast?_filterMap_commandName {messages : List CJson}
    (h : ∀ m ∈ messages, (commandName m).isSome) :
    (messages.filterMap commandName).getLast? = messages.getLast?.bind commandName := by
  induction messages using List.reverseRecOn with
  | nil => rfl
  | append_singleton messages m _ =>
    obtain ⟨name, hname⟩ := Option.isSome_iff_exists.mp (h m (by simp))
    rw [List.filterMap_append, List.filterMap_cons_some hname, List.filterMap_nil,
      List.getLast?_concat, List.getLast?_concat, Option.bind_some, hname]

/-- A payload that is an array of commands, objects with a string `correlation_id` and a
string `command_name`. -/
def CommandArray (payload : CString) : Prop :=
  ∃ array, cJSONParse payload = some array ∧ array.type = .array ∧
    ∀ m ∈ array.child, m.type = .object ∧ m.hasString correlationIdKey ∧
      m.hasString commandNameKey

theorem commandArray_iff (payload : CString) : CommandArray payload ↔
    ((cJSONParse payload).any fun array => decide (array.type = .array ∧ ∀ m ∈ array.child,
      m.type = .object ∧ m.hasString correlationIdKey ∧ m.hasString commandNameKey)) = true := by
  unfold CommandArray
  cases cJSONParse payload <;> simp

instance (payload : CString) : Decidable (CommandArray payload) :=
  decidable_of_iff _ (commandArray_iff payload).symm

/-- A well formed array of commands gets its ACK. -/
theorem CommandArray.ackFormed {payload : CString} (h : CommandArray payload) :
    AckFormed payload := by
  rcases h with ⟨array, hparse, harray, hcommands⟩
  refine ⟨array, hparse, harray, fun m hm => ?_⟩
  exact (correlationId_isSome_iff ((cJSONParse_wellTyped hparse).of_mem_child hm)).mpr
    (hcommands m hm).2.1

/-- Every command of such a payload has a name. -/
theorem CommandArray.named {payload : CString} (h : CommandArray payload) {m : CJson}
    (hm : m ∈ commands payload) : (commandName m).isSome := by
  rcases h with ⟨array, hparse, -, hcommands⟩
  rw [commands_eq hparse] at hm
  exact commandName_isSome_of_hasString ((cJSONParse_wellTyped hparse).of_mem_child hm)
    (hcommands m hm).2.2

/-- Such a payload is processed to the end. -/
theorem CommandArray.processMessageReceived_safe {message : List Char}
    (h : CommandArray (cstr message)) (b : Build) (topic : CString) (s : Sdk) :
    (processMessageReceived b topic message).Safe s :=
  ZohoIotSdk.processMessageReceived_safe b topic
    (namesAreStrings_of_commands fun _ hm _ => h.named hm).not_crashingPayload s

/-- The last name decides about `handle_OTA`. -/
theorem CommandArray.handleOTA_iff_last {b : Build} {message : List Char}
    (h : CommandArray (cstr message)) (hne : commands (cstr message) ≠ []) {s s' : Sdk}
    {es : List Effect}
    (hexec : (processMessageReceived b s.client.commandTopic message).Exec s () es s') :
    routedTo es = some .handleOTA ↔
      (commands (cstr message)).getLast?.bind commandName = some zOTA := by
  obtain ⟨last, hlast⟩ : ∃ last, (commands (cstr message)).getLast? = some last :=
    ⟨_, List.getLast?_eq_some_getLast hne⟩
  obtain ⟨name, hname⟩ := Option.isSome_iff_exists.mp (h.named (List.mem_of_getLast? hlast))
  have hlastName : (commandNames (cstr message)).getLast? = some name := by
    rw [commandNames, getLast?_filterMap_commandName fun _ hm => h.named hm, hlast]
    exact hname
  rw [processMessageReceived_routes hexec h.ackFormed, foldl_recordName, hlastName, hlast,
    Option.bind_some, hname]
  simp only [Option.some.injEq, destination_eq_handleOTA_iff, ZohoIOTclient.recordName,
    decide_eq_true_eq]

/-- An array of at least one command, each with a string `correlation_id` and a string
`command_name`, is processed to the end, and `handle_OTA` is then invoked exactly when some
command is an OTA command, if and only if the last command is one or none is. -/
theorem ota_handled_iff (b : Build) (message : List Char) (h : CommandArray (cstr message))
    (hne : commands (cstr message) ≠ []) (s : Sdk) :
    (processMessageReceived b s.client.commandTopic message).Safe s ∧
    ∀ es s', (processMessageReceived b s.client.commandTopic message).Exec s () es s' →
      ((routedTo es = some .handleOTA ↔
          ∃ m ∈ commands (cstr message), commandName m = some zOTA) ↔
        ((commands (cstr message)).getLast?.bind commandName = some zOTA ∨
          ∀ m ∈ commands (cstr message), commandName m ≠ some zOTA)) := by
  refine ⟨h.processMessageReceived_safe b _ s, fun es s' hexec => ?_⟩
  rw [h.handleOTA_iff_last hne hexec]
  constructor
  · intro hiff
    by_cases hlast : (commands (cstr message)).getLast?.bind commandName = some zOTA
    · exact .inl hlast
    · exact .inr fun m hm hname => hlast (hiff.mpr ⟨m, hm, hname⟩)
  · intro hcases
    constructor
    · intro hlast
      obtain ⟨last, hmem, hname⟩ := Option.bind_eq_some_iff.mp hlast
      exact ⟨last, List.mem_of_getLast? hmem, hname⟩
    · intro ⟨m, hm, hname⟩
      rcases hcases with hlast | hnone
      · exact hlast
      · exact absurd hname (hnone m hm)

/-- The elements of a batch of two, one of which is an OTA command. -/
def pingCommand : String := "\x7b\"correlation_id\":\"1\",\"command_name\":\"PING\"\x7d"

def otaCommandText : String := "\x7b\"correlation_id\":\"2\",\"command_name\":\"Z_OTA\"\x7d"

def batchMessage (first second : String) : List Char :=
  ("[" ++ first ++ "," ++ second ++ "]").toList

/-- With the OTA command at the end, the batch is handed to `handle_OTA`. -/
theorem ota_handled_last :
    ∃ es s', (processMessageReceived plainBuild sampleSdk.client.commandTopic
        (batchMessage pingCommand otaCommandText)).Exec sampleSdk () es s' ∧
      routedTo es = some .handleOTA := by
  have harray : CommandArray (cstr (batchMessage pingCommand otaCommandText)) := by decide +kernel
  have hne : commands (cstr (batchMessage pingCommand otaCommandText)) ≠ [] := by decide +kernel
  have hlast : (commands (cstr (batchMessage pingCommand otaCommandText))).getLast?.bind
      commandName = some zOTA := by decide +kernel
  -- the text is not needed any more, and evaluating it is slow
  generalize batchMessage pingCommand otaCommandText = message at harray hne hlast ⊢
  obtain ⟨hsafe, hiff⟩ := ota_handled_iff plainBuild message harray hne sampleSdk
  obtain ⟨_, es, s', hexec⟩ := hsafe.exists_exec
  obtain ⟨last, hmem, hname⟩ := Option.bind_eq_some_iff.mp hlast
  exact ⟨es, s', hexec,
    ((hiff es s' hexec).mpr (.inl hlast)).mpr ⟨last, List.mem_of_getLast? hmem, hname⟩⟩

/-- With the OTA command at the front, it is not. -/
theorem ota_lost_first :
    CommandArray (cstr (batchMessage otaCommandText pingCommand)) ∧
    (∃ m ∈ commands (cstr (batchMessage otaCommandText pingCommand)),
      commandName m = some zOTA) ∧
    ∃ es s', (processMessageReceived plainBuild sampleSdk.client.commandTopic
        (batchMessage otaCommandText pingCommand)).Exec sampleSdk () es s' ∧
      routedTo es ≠ some .handleOTA := by
  have harray : CommandArray (cstr (batchMessage otaCommandText pingCommand)) := by decide +kernel
  have hota : ∃ m ∈ commands (cstr (batchMessage otaCommandText pingCommand)),
      commandName m = some zOTA := by decide +kernel
  have hlast : (commands (cstr (batchMessage otaCommandText pingCommand))).getLast?.bind
      commandName ≠ some zOTA := by decide +kernel
  generalize batchMessage otaCommandText pingCommand = message at harray hota hlast ⊢
  rcases hota with ⟨m, hm, hname⟩
  have hne : commands (cstr message) ≠ [] := List.ne_nil_of_mem hm
  have hsafe :=
    harray.processMessageReceived_safe plainBuild sampleSdk.client.commandTopic sampleSdk
  obtain ⟨_, es, s', hexec⟩ := hsafe.exists_exec
  refine ⟨harray, ⟨m, hm, hname⟩, es, s', hexec, fun hrouted => ?_⟩
  exact hlast ((harray.handleOTA_iff_last hne hexec).mp hrouted)

end ZohoIotSdk
