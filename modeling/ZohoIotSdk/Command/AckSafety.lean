import ZohoIotSdk.CJson.TextTheorems
import ZohoIotSdk.Calls

/-!
# When building an ACK crashes

`generateACKPayload` checks the `correlation_id` of a command before it uses it as a
string, but not its `command_name`. `generateACKPayload_safe_iff` gives the payloads on
which it stays clear of undefined behaviour, in terms of the types of the JSON members;
on these the whole processing of a message does (`processMessageReceived_safe`).
-/

namespace ZohoIotSdk

open Atomic (Prog)

/-! ## Members and their types -/

/-- The item has a member of that name, and the first one is a string. -/
def CJson.hasString (name : CString) (j : CJson) : Prop :=
  ∃ item, cJSONGetObjectItem j name = some item ∧ item.type = .string

theorem CJson.hasString_iff (name : CString) (j : CJson) : j.hasString name ↔
    ((cJSONGetObjectItem j name).any fun item => decide (item.type = .string)) = true := by
  unfold CJson.hasString
  cases cJSONGetObjectItem j name <;> simp

instance (name : CString) (j : CJson) : Decidable (j.hasString name) :=
  decidable_of_iff _ (CJson.hasString_iff name j).symm

/-- The item has a member of that name, and the first one is not a string. -/
def CJson.hasNonString (name : CString) (j : CJson) : Prop :=
  ∃ item, cJSONGetObjectItem j name = some item ∧ item.type ≠ .string

/-- The members of a well typed item are well typed. -/
theorem CJson.WellTyped.member {j item : CJson} (h : j.WellTyped) {name : CString}
    (hitem : cJSONGetObjectItem j name = some item) : item.WellTyped :=
  h.of_mem_child (List.mem_of_find?_eq_some hitem)

/-- The check of the `correlation_id` accepts strings, and only those. -/
theorem correlationId_isSome_iff {message : CJson} (h : message.WellTyped) :
    (correlationId message).isSome ↔ message.hasString correlationIdKey := by
  unfold correlationId CJson.hasString
  cases hitem : cJSONGetObjectItem message correlationIdKey with
  | none => simp
  | some item =>
    have htyped := (h.member hitem).valuestring_isSome
    simp [htyped]

/-- The use of the `command_name` is undefined when it is there and not a string. -/
theorem noteCommandName_safe_iff (b : Build) {message : CJson} (h : message.WellTyped) (s : Sdk) :
    (noteCommandName b message).Safe s ↔ ¬ message.hasNonString commandNameKey := by
  unfold noteCommandName CJson.hasNonString
  cases hitem : cJSONGetObjectItem message commandNameKey with
  | none => simp
  | some item =>
    have htyped := (h.member hitem).valuestring_isSome
    simp only []
    cases hvalue : item.valuestring with
    | none =>
      rw [hvalue] at htyped
      simpa using htyped
    | some name =>
      rw [hvalue] at htyped
      have hstring : item.type = .string := htyped.mp rfl
      simp only [Option.some.injEq, exists_eq_left', hstring, ne_eq, not_true_eq_false,
        not_false_eq_true, iff_true]
      rw [Prog.safe_bind]
      refine ⟨Prog.safe_act _ _ _ _, fun _ _ _ _ => Prog.safe_ite ?_ (Prog.safe_pure _ _)⟩
      split
      · exact Prog.safe_pure _ _
      · exact Prog.safe_act _ _ _ _

/-! ## The loop -/

/-- A command that is reached (it and the ones before it have a string `correlation_id`) has
a `command_name` that is not a string. -/
def CrashingCommands (messages : List CJson) : Prop :=
  ∃ before message after, messages = before ++ message :: after ∧
    (∀ m ∈ before, m.hasString correlationIdKey) ∧
    message.hasString correlationIdKey ∧ message.hasNonString commandNameKey

theorem not_crashingCommands_nil : ¬ CrashingCommands [] := by
  intro ⟨before, message, after, heq, _⟩
  simp at heq

/-- The loop crashes at the first command or goes on to the next. -/
theorem crashingCommands_cons {message : CJson} {rest : List CJson} :
    CrashingCommands (message :: rest) ↔ message.hasString correlationIdKey ∧
      (message.hasNonString commandNameKey ∨ CrashingCommands rest) := by
  constructor
  · intro ⟨before, m, after, heq, hbefore, hcorr, hname⟩
    cases before with
    | nil =>
      simp only [List.nil_append, List.cons.injEq] at heq
      rcases heq with ⟨rfl, -⟩
      exact ⟨hcorr, .inl hname⟩
    | cons first before =>
      simp only [List.cons_append, List.cons.injEq] at heq
      rcases heq with ⟨rfl, hrest⟩
      rw [List.forall_mem_cons] at hbefore
      exact ⟨hbefore.1, .inr ⟨before, m, after, hrest, hbefore.2, hcorr, hname⟩⟩
  · intro ⟨hcorr, h⟩
    rcases h with hname | ⟨before, m, after, hrest, hbefore, hcorr', hname⟩
    · exact ⟨[], message, rest, rfl, by simp, hcorr, hname⟩
    · refine ⟨message :: before, m, after, by rw [hrest]; rfl, ?_, hcorr', hname⟩
      exact List.forall_mem_cons.mpr ⟨hcorr, hbefore⟩

/-- The loop is safe unless a command crashes it, by induction on the commands. -/
theorem generateACKLoop_safe_iff (b : Build) (statusCode : ℤ) (responseMessage : CStringPtr)
    {messages : List CJson} (h : ∀ m ∈ messages, m.WellTyped) (ack : CJson) (s : Sdk) :
    (generateACKLoop b statusCode responseMessage messages ack).Safe s ↔
      ¬ CrashingCommands messages := by
  induction messages generalizing ack s with
  | nil => exact ⟨fun _ => not_crashingCommands_nil, fun _ => trivial⟩
  | cons message rest ih =>
    rw [List.forall_mem_cons] at h
    have hcorr := correlationId_isSome_iff h.1
    rw [crashingCommands_cons, ← hcorr, generateACKLoop]
    cases hid : correlationId message with
    | none => simp
    | some corrId =>
      simp only [Option.isSome_some, true_and, not_or, ← noteCommandName_safe_iff b h.1 s]
      rw [Prog.safe_bind]
      constructor
      · intro ⟨hnote, hrest⟩
        refine ⟨hnote, ?_⟩
        -- the note has some execution, and the rest of the loop is safe after it
        obtain ⟨a, es, s', hexec⟩ := hnote.exists_exec
        exact (ih h.2 _ _).mp (hrest a es s' hexec)
      · intro ⟨hnote, hrest⟩
        exact ⟨hnote, fun _ _ _ _ => (ih h.2 _ _).mpr hrest⟩

/-! ## The functions that build an ACK -/

/-- The payload is a JSON array with a crashing command. -/
def CrashingPayload (payload : CStringPtr) : Prop :=
  ∃ array, payload.bind cJSONParse = some array ∧ array.type = .array ∧
    CrashingCommands array.child

theorem generateACKPayload_safe (b : Build) (payload : CStringPtr) (statusCode : ℤ)
    (responseMessage : CStringPtr) (s : Sdk) :
    (generateACKPayload b payload statusCode responseMessage).Safe s ↔
      ¬ CrashingPayload payload := by
  unfold generateACKPayload CrashingPayload
  cases hparse : payload.bind cJSONParse with
  | none => simp
  | some array =>
    have htyped : array.WellTyped := by
      obtain ⟨text, -, htext⟩ := Option.bind_eq_some_iff.mp hparse
      exact cJSONParse_wellTyped htext
    by_cases harray : array.type = .array
    · simp only [cJSONIsArray, Option.map_some, harray, decide_true, if_true, Option.some.injEq,
        exists_eq_left', true_and]
      -- what the parser returns is well typed, so only the loop matters
      exact generateACKLoop_safe_iff b _ _ (fun m hm => htyped.of_mem_child hm) _ s
    · simp [cJSONIsArray, harray]

theorem publishAck_safe (b : Build) (kind : AckKind) (topic : ZohoIOTclient → CString)
    (ack : CJson) (s : Sdk) : (publishAck b kind topic ack).Safe s := by
  unfold publishAck
  rw [Prog.safe_bind]
  refine ⟨Prog.safe_act _ _ _ _, fun _ _ _ _ => Prog.safe_ite (Prog.safe_pure _ _) ?_⟩
  rw [Prog.safe_bind]
  refine ⟨Prog.safe_act _ _ _ _, fun _ _ _ _ => Prog.safe_ite (Prog.safe_pure _ _) ?_⟩
  rw [Prog.safe_bind]
  refine ⟨Prog.safe_act _ _ _ _, fun _ _ _ _ => ?_⟩
  rw [Prog.safe_bind]
  exact ⟨Prog.safe_act _ _ _ _, fun _ _ _ _ => Prog.safe_pure _ _⟩

/-- Nothing crashes once the ACK has been built, or could not be built. -/
theorem publishBuiltAck_safe (b : Build) (kind : AckKind) (topic : ZohoIOTclient → CString)
    (ack : Option CJson) (s : Sdk) :
    (match ack with
      | none => (pure zfailure : ClientM ℤ)
      | some ackPayload => publishAck b kind topic ackPayload).Safe s := by
  cases ack with
  | none => exact Prog.safe_pure _ _
  | some ackPayload => exact publishAck_safe b kind topic ackPayload s

/-- A read of the client is always safe. -/
theorem safe_readClient_bind {α β : Type} (f : ZohoIOTclient → α) (g : α → ClientM β) (s : Sdk) :
    (readClient f >>= g).Safe s ↔ (g (f s.client)).Safe s :=
  ⟨fun h => h default, fun h _ => h⟩

/-- The functions that publish a processed ACK build one for an initialised client, a
response and a known status code only. -/
theorem publishProcessedAck_safe_iff (b : Build) (kind : AckKind)
    (topic : ZohoIOTclient → CString) (payload : CStringPtr) (statusCode : ℤ)
    (responseMessage : CStringPtr) (s : Sdk) :
    (publishProcessedAck b kind topic payload statusCode responseMessage).Safe s ↔
      ¬ (clientStateCode s.client = 0 ∧ responseMessage ≠ none ∧
        statusCode ∈ commandAckResponseCodes ∧ CrashingPayload payload) := by
  have hack := generateACKPayload_safe b payload statusCode responseMessage s
  have hpublish := publishBuiltAck_safe b kind topic
  unfold publishProcessedAck validateClientState
  rw [safe_readClient_bind]
  by_cases hcode : clientStateCode s.client = 0
  · rw [if_neg (not_not.mpr hcode), Prog.safe_bind]
    unfold generateProcessedACK
    by_cases hresponse : responseMessage = none
    · rw [if_pos hresponse]
      exact ⟨fun _ h => h.2.1 hresponse, fun _ => ⟨trivial, fun ack _ s' _ => hpublish ack s'⟩⟩
    · rw [if_neg hresponse]
      by_cases hstatus : statusCode ∈ commandAckResponseCodes
      · rw [if_pos hstatus, hack]
        exact ⟨fun h hall => h.1 hall.2.2.2,
          fun h => ⟨fun hcrash => h ⟨hcode, hresponse, hstatus, hcrash⟩,
            fun ack _ s' _ => hpublish ack s'⟩⟩
      · rw [if_neg hstatus]
        exact ⟨fun _ h => hstatus h.2.2.1, fun _ => ⟨trivial, fun ack _ s' _ => hpublish ack s'⟩⟩
  · rw [if_pos hcode]
    exact ⟨fun _ h => hcode h.1, fun _ => trivial⟩

/-- For every payload: `generateACKPayload`, and `zclient_FormReceivedACK`, stay clear of
undefined behaviour if and only if the payload is no JSON array in which some command,
with a string `correlation_id` as all commands before it, has a `command_name` that is not
a string. For `zclient_publishCommandAck` and `zclient_publishConfigAck` the same holds as
far as they get to build the ACK. -/
theorem generateACKPayload_safe_iff (b : Build) (payload : CStringPtr) (statusCode : ℤ)
    (responseMessage : CStringPtr) (s : Sdk) :
    ((generateACKPayload b payload statusCode responseMessage).Safe s ↔
      ¬ CrashingPayload payload) ∧
    ((zclientFormReceivedACK b payload).Safe s ↔ ¬ CrashingPayload payload) ∧
    ((zclientPublishCommandAck b payload statusCode responseMessage).Safe s ↔
      ¬ (clientStateCode s.client = 0 ∧ responseMessage ≠ none ∧
        statusCode ∈ commandAckResponseCodes ∧ CrashingPayload payload)) ∧
    ((zclientPublishConfigAck b payload statusCode responseMessage).Safe s ↔
      ¬ (clientStateCode s.client = 0 ∧ responseMessage ≠ none ∧
        statusCode ∈ commandAckResponseCodes ∧ CrashingPayload payload)) := by
  refine ⟨generateACKPayload_safe b payload _ _ s, generateACKPayload_safe b payload _ _ s, ?_, ?_⟩
  · exact publishProcessedAck_safe_iff b _ _ payload _ _ s
  · exact publishProcessedAck_safe_iff b _ _ payload _ _ s

/-- Building the ACK for a command whose name is a number is undefined behaviour. -/
theorem generateACKPayload_crashes :
    ¬ (generateACKPayload plainBuild
      (some "[\x7b\"correlation_id\":\"1\",\"command_name\":5\x7d]".toList)
      receivedAckCode (some [])).Safe sampleSdk :=
  Prog.not_safe_of_isFault (by decide +kernel) sampleSdk

/-! ## Processing a message -/

/-- The attributes of a command leave its key and its correlation id alone. -/
theorem otaAttribute_ids (fields : OtaFields) (item : CJson) :
    (otaAttribute fields item).edgeCommandKey = fields.edgeCommandKey ∧
      (otaAttribute fields item).correlationId = fields.correlationId := by
  unfold otaAttribute
  split
  · split
    · exact ⟨rfl, rfl⟩
    · split <;> exact ⟨rfl, rfl⟩
  · exact ⟨rfl, rfl⟩

/-- The attributes of an item leave the identifiers of the command. -/
theorem foldl_otaAttribute_ids (items : List CJson) (fields : OtaFields) :
    (items.foldl otaAttribute fields).edgeCommandKey = fields.edgeCommandKey ∧
      (items.foldl otaAttribute fields).correlationId = fields.correlationId := by
  induction items generalizing fields with
  | nil => exact ⟨rfl, rfl⟩
  | cons item items ih =>
    obtain ⟨hkey, hcorr⟩ := otaAttribute_ids fields item
    rw [List.foldl_cons, ← hkey, ← hcorr]
    exact ih _

/-- The invariant of the loop over the commands: a URL has been read only together with a key
and a correlation id. -/
def OtaFields.Identified (fields : OtaFields) : Prop :=
  fields.otaURL.isSome → fields.edgeCommandKey.isSome ∧ fields.correlationId.isSome

/-- A command that is accepted sets the key and the correlation id. -/
theorem otaCommand_identified {fields fields' : OtaFields} {commandMessage : CJson}
    (h : otaCommand fields commandMessage = .ok fields') : fields'.Identified := by
  unfold otaCommand at h
  split at h
  · simp at h
  · split at h
    · simp at h
    · split at h
      · simp at h
      · simp only [Except.ok.injEq] at h
        intro _
        rw [← h, (foldl_otaAttribute_ids _ _).1, (foldl_otaAttribute_ids _ _).2]
        exact ⟨rfl, rfl⟩

/-- The loop keeps both identifiers strings. -/
theorem otaCommands_identified {messages : List CJson} {fields fields' : OtaFields}
    (h : otaCommands messages fields = .ok fields') (hfields : fields.Identified) :
    fields'.Identified := by
  induction messages generalizing fields with
  | nil =>
    simp only [otaCommands, Except.ok.injEq] at h
    rw [← h]
    exact hfields
  | cons message rest ih =>
    unfold otaCommands at h
    split at h
    · simp at h
    · rename_i fields₁ hcommand
      exact ih h (otaCommand_identified hcommand)

theorem otaFailure_safe (b : Build) (correlationId : CStringPtr) (responseMessage : String)
    (s : Sdk) : (otaFailure b correlationId responseMessage).Safe s := by
  unfold otaFailure zclientPublishOTAAck validateClientState
  rw [Prog.safe_bind, safe_readClient_bind]
  refine ⟨Prog.safe_ite (Prog.safe_pure _ _) (publishAck_safe b _ _ _ s), ?_⟩
  exact fun _ _ _ _ => Prog.safe_pure _ _

theorem handleOTA_safe (b : Build) (payload : CString) (s : Sdk) :
    (handleOTA b payload).Safe s := by
  unfold handleOTA
  split
  · exact Prog.safe_pure _ _
  refine Prog.safe_ite ?_ (Prog.safe_pure _ _)
  split
  · exact Prog.safe_pure _ _
  · exact otaFailure_safe b _ _ s
  · rename_i fields hfields
    have hids : fields.Identified := otaCommands_identified hfields (by simp [OtaFields.Identified])
    unfold runOTA
    rw [safe_readClient_bind]
    refine Prog.safe_ite (otaFailure_safe b _ _ s) ?_
    split
    · exact otaFailure_safe b _ _ s
    · rename_i url hurl hnone
      have hkey := (hids (by rw [hurl]; rfl)).1
      rw [hnone] at hkey
      simp at hkey
    · exact Prog.safe_ite (otaFailure_safe b _ _ s) (Prog.safe_act _ _ _ _)

theorem handleCloudLogging_safe (b : Build) {payload : CString}
    (h : ¬ CrashingPayload (some payload)) (s : Sdk) : (handleCloudLogging b payload).Safe s := by
  unfold handleCloudLogging
  rw [Prog.safe_bind]
  refine ⟨Prog.safe_act _ _ _ _, fun _ _ s₁ _ => ?_⟩
  rw [Prog.safe_bind]
  constructor
  · unfold uploadLogs
    refine Prog.safe_ite ?_ (Prog.safe_pure _ _)
    rw [Prog.safe_bind]
    exact ⟨Prog.safe_act _ _ _ _, fun _ _ _ _ => Prog.safe_pure _ _⟩
  · intro result _ s₂ _
    rw [Prog.safe_bind]
    refine ⟨?_, fun _ _ _ _ => Prog.safe_act _ _ _ _⟩
    exact (publishProcessedAck_safe_iff b _ _ _ _ _ s₂).mpr fun hall => h hall.2.2.2

theorem callHandler_safe (handler : ZohoIOTclient → Option ℕ) (dest : Destination) (s : Sdk) :
    (callHandler handler dest).Safe s := by
  unfold callHandler
  rw [safe_readClient_bind]
  exact Prog.safe_ite (Prog.safe_act _ _ _ _) (Prog.safe_act _ _ _ _)

theorem routeCommand_safe (b : Build) {payload : CString} (h : ¬ CrashingPayload (some payload))
    (s : Sdk) : (routeCommand b payload).Safe s := by
  unfold routeCommand
  rw [Prog.safe_bind]
  refine ⟨Prog.safe_act _ _ _ _, fun _ _ s₁ _ => Prog.safe_ite ?_ ?_⟩
  · rw [Prog.safe_bind]
    exact ⟨Prog.safe_act _ _ _ _, fun _ _ s₂ _ => handleOTA_safe b payload s₂⟩
  · unfold getCloudLoggingStatus
    rw [safe_readClient_bind]
    refine Prog.safe_ite ?_ (callHandler_safe _ _ s₁)
    rw [Prog.safe_bind]
    exact ⟨Prog.safe_act _ _ _ _, fun _ _ s₂ _ => handleCloudLogging_safe b h s₂⟩

/-- The message whose payload crashes no ACK is processed without undefined behaviour. -/
theorem processMessageReceived_safe (b : Build) (topic : CString) {message : List Char}
    (h : ¬ CrashingPayload (some (cstr message))) (s : Sdk) :
    (processMessageReceived b topic message).Safe s := by
  have hack : (zclientFormReceivedACK b (some (cstr message))).Safe s :=
    (generateACKPayload_safe b _ _ _ s).mpr h
  unfold processMessageReceived
  rw [safe_readClient_bind]
  apply Prog.safe_ite
  · unfold processCommand
    rw [Prog.safe_bind]
    refine ⟨hack, fun ack _ s₁ _ => ?_⟩
    split
    · exact Prog.safe_pure _ _
    · rw [Prog.safe_bind]
      exact ⟨Prog.safe_act _ _ _ _, fun _ _ s₂ _ => routeCommand_safe b h s₂⟩
  · rw [safe_readClient_bind]
    refine Prog.safe_ite ?_ (Prog.safe_pure _ _)
    unfold processConfig
    rw [Prog.safe_bind]
    refine ⟨hack, fun ack _ s₁ _ => ?_⟩
    split
    · exact Prog.safe_pure _ _
    · rw [Prog.safe_bind]
      exact ⟨Prog.safe_act _ _ _ _, fun _ _ s₂ _ => callHandler_safe _ _ s₂⟩

end ZohoIotSdk
