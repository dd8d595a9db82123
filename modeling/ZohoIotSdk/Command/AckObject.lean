import ZohoIotSdk.Command.AckSafety

/-!
# The object that acknowledges an array of commands

The server matches the answers it gets to the commands it sent by the `correlation_id`, so
the object of `generateACKPayload` has to hold one entry for each element of the message, in
their order. `AckEntry` says what an entry is; `generateACKPayload_object` is the contract of
the function for messages in which a `command_name` is always a string.
-/

namespace ZohoIotSdk

open Atomic (Prog)

/-- The members of the entry for a command: the status code, the response (a null response
adds none), and whether the command has a new configuration, if it says so. -/
def ackEntryMembers (statusCode : ℤ) (responseMessage : CStringPtr) (commandMessage : CJson) :
    List CJson :=
  [.mk .number none (Double.ofInt statusCode) (some "status_code".toList) []]
    ++ (match responseMessage with
      | none => []
      | some text => [.mk .string (some text) ⟨0⟩ (some "response".toList) []])
    ++ (match cJSONGetObjectItem commandMessage "is_new_config".toList with
      | none => []
      | some newConfig =>
        if newConfig.type = .true then [.mk .true none ⟨0⟩ (some "is_new_config".toList) []]
        else [.mk .false none ⟨0⟩ (some "is_new_config".toList) []])

/-- `entry` is the member of the ACK object that answers `commandMessage`. -/
structure AckEntry (statusCode : ℤ) (responseMessage : CStringPtr)
    (commandMessage entry : CJson) : Prop where
  /-- It has the string `correlation_id` of the command as its name. -/
  name : ∃ item, cJSONGetObjectItem commandMessage correlationIdKey = some item ∧
    item.type = .string ∧ entry.string = item.valuestring
  object : entry.type = .object
  members : entry.child = ackEntryMembers statusCode responseMessage commandMessage

theorem child_commandAckObj (commandMessage : CJson) (statusCode : ℤ)
    (responseMessage : CStringPtr) :
    (commandAckObj commandMessage statusCode responseMessage).child =
      ackEntryMembers statusCode responseMessage commandMessage := by
  unfold commandAckObj ackEntryMembers cJSONAddBoolToObject cJSONAddStringToObject
    cJSONAddNumberToObject cJSONAddItemToObject
  -- with or without a response, and the three ways `is_new_config` is treated
  cases responseMessage <;> cases cJSONGetObjectItem commandMessage "is_new_config".toList with
  | none => rfl
  | some newConfig =>
    by_cases hnew : newConfig.type = .true
    · simp only [hnew, decide_true, if_true]
      rfl
    · simp only [hnew, decide_false, if_false]
      rfl

theorem type_commandAckObj (commandMessage : CJson) (statusCode : ℤ)
    (responseMessage : CStringPtr) :
    (commandAckObj commandMessage statusCode responseMessage).type = .object := by
  unfold commandAckObj cJSONAddBoolToObject cJSONAddStringToObject
    cJSONAddNumberToObject cJSONAddItemToObject
  cases responseMessage <;>
    cases cJSONGetObjectItem commandMessage "is_new_config".toList <;> rfl

/-- What the loop adds for one command. -/
theorem ackEntry_commandAckObj {commandMessage : CJson} (htyped : commandMessage.WellTyped)
    (statusCode : ℤ) (responseMessage : CStringPtr) {corrId : CString}
    (hid : correlationId commandMessage = some corrId) :
    AckEntry statusCode responseMessage commandMessage
      ((commandAckObj commandMessage statusCode responseMessage).named corrId) where
  name := by
    obtain ⟨item, hitem, hvalue⟩ := Option.bind_eq_some_iff.mp hid
    have hstring := (htyped.member hitem).valuestring_isSome
    refine ⟨item, hitem, hstring.mp (by rw [hvalue]; rfl), ?_⟩
    rw [CJson.string_named, hvalue]
  object := by rw [CJson.type_named, type_commandAckObj]
  members := by rw [CJson.child_named, child_commandAckObj]

/-- What an execution of the loop returns: nothing as soon as a command has no string
`correlation_id`, otherwise the object it was given with one more entry for each command. -/
theorem generateACKLoop_object {b : Build} {statusCode : ℤ} {responseMessage : CStringPtr}
    {messages : List CJson} (htyped : ∀ m ∈ messages, m.WellTyped) {ack : CJson} {s s' : Sdk}
    {r : Option CJson} {es : List Effect}
    (h : (generateACKLoop b statusCode responseMessage messages ack).Exec s r es s') :
    (r = none ∧ ∃ m ∈ messages, ¬ m.hasString correlationIdKey) ∨
    ((∀ m ∈ messages, m.hasString correlationIdKey) ∧ ∃ entries,
      r = some (ack.withChild (ack.child ++ entries)) ∧
      List.Forall₂ (AckEntry statusCode responseMessage) messages entries) := by
  induction messages generalizing ack s es with
  | nil =>
    rcases h with ⟨rfl, -, -⟩
    refine .inr ⟨by simp, [], ?_, .nil⟩
    cases ack
    simp [CJson.withChild, CJson.child]
  | cons message rest ih =>
    rw [List.forall_mem_cons] at htyped
    have hcorr := correlationId_isSome_iff htyped.1
    rw [generateACKLoop] at h
    cases hid : correlationId message with
    | none =>
      -- the partial object is given up
      simp only [hid] at h
      rcases h with ⟨rfl, -, -⟩
      refine .inl ⟨rfl, message, List.mem_cons_self .., fun hstring => ?_⟩
      have hsome := hcorr.mpr hstring
      rw [hid] at hsome
      exact absurd hsome (by simp)
    | some corrId =>
      simp only [hid] at h
      obtain ⟨_, _, s₁, _, _, hloop, -⟩ := Prog.exec_bind.mp h
      have hstring : message.hasString correlationIdKey := hcorr.mp (by rw [hid]; rfl)
      rcases ih htyped.2 hloop with ⟨hr, m, hm, hno⟩ | ⟨hall, entries, hr, hentries⟩
      · exact .inl ⟨hr, m, List.mem_cons_of_mem _ hm, hno⟩
      · refine .inr ⟨List.forall_mem_cons.mpr ⟨hstring, hall⟩,
          (commandAckObj message statusCode responseMessage).named corrId :: entries, ?_, ?_⟩
        · rw [hr]
          cases ack
          simp [cJSONAddItemToObject, CJson.withChild, CJson.child]
        · exact .cons (ackEntry_commandAckObj htyped.1 _ _ hid) hentries

/-- A command whose `command_name`, if there is one, is a string. -/
def StringCommandName (commandMessage : CJson) : Prop :=
  ∀ item, cJSONGetObjectItem commandMessage commandNameKey = some item → item.type = .string

/-- Names that are strings crash nothing. -/
theorem not_crashingCommands_of_stringNames {messages : List CJson}
    (h : ∀ m ∈ messages, StringCommandName m) : ¬ CrashingCommands messages := by
  intro ⟨before, message, after, hmessages, _, _, item, hitem, htype⟩
  have hmem : message ∈ messages := by
    rw [hmessages]
    exact List.mem_append_right _ (List.mem_cons_self ..)
  exact htype (h message hmem item hitem)

/-- The contract of `generateACKPayload`, for every build, status code, response, payload and
state of the client. On a JSON array whose elements carry a `command_name` only as a string
it stays clear of undefined behaviour, and what it returns is NULL if and only if some element
has no string `correlation_id`; otherwise it is an object whose members are the entries for
the elements, in their order. On any other payload it returns NULL. -/
theorem generateACKPayload_object (b : Build) (payload : CStringPtr) (statusCode : ℤ)
    (responseMessage : CStringPtr) (s : Sdk) :
    (∀ array, payload.bind cJSONParse = some array → array.type = .array →
      (∀ m ∈ array.child, StringCommandName m) →
      (generateACKPayload b payload statusCode responseMessage).Safe s ∧
      ∀ r es s', (generateACKPayload b payload statusCode responseMessage).Exec s r es s' →
        (r = none ↔ ∃ m ∈ array.child, ¬ m.hasString correlationIdKey) ∧
        ∀ ack, r = some ack → ack.type = .object ∧
          List.Forall₂ (AckEntry statusCode responseMessage) array.child ack.child) ∧
    ((¬ ∃ array, payload.bind cJSONParse = some array ∧ array.type = .array) →
      (generateACKPayload b payload statusCode responseMessage).Safe s ∧
      ∀ r es s', (generateACKPayload b payload statusCode responseMessage).Exec s r es s' →
        r = none) := by
  constructor
  · intro array hparse harray hnames
    constructor
    · rw [generateACKPayload_safe]
      rintro ⟨array', hparse', -, hcrash⟩
      obtain rfl : array = array' := Option.some.inj (hparse.symm.trans hparse')
      exact not_crashingCommands_of_stringNames hnames hcrash
    · intro r es s' hexec
      have htyped : array.WellTyped := by
        obtain ⟨text, -, htext⟩ := Option.bind_eq_some_iff.mp hparse
        exact cJSONParse_wellTyped htext
      unfold generateACKPayload at hexec
      simp only [hparse, cJSONIsArray, Option.map_some, harray, decide_true, if_true] at hexec
      rcases generateACKLoop_object (fun m hm => htyped.of_mem_child hm) hexec with
        ⟨rfl, hmissing⟩ | ⟨hall, entries, rfl, hentries⟩
      · exact ⟨by simp [hmissing], by simp⟩
      · constructor
        · simp only [reduceCtorEq, false_iff, not_exists, not_and, not_not]
          exact hall
        · rintro ack ⟨rfl⟩
          exact ⟨rfl, hentries⟩
  · intro hnone
    constructor
    · rw [generateACKPayload_safe]
      rintro ⟨array, hparse, harray, -⟩
      exact hnone ⟨array, hparse, harray⟩
    · intro r es s' hexec
      unfold generateACKPayload at hexec
      cases hparse : payload.bind cJSONParse with
      | none =>
        simp only [hparse] at hexec
        exact hexec.1
      | some array =>
        have harray : array.type ≠ .array := fun heq => hnone ⟨array, hparse, heq⟩
        simp only [hparse, cJSONIsArray, Option.map_some, Option.some.injEq, harray,
          decide_false, Bool.false_eq_true, if_false] at hexec
        exact hexec.1

/-- Two commands, the first one with a new configuration. -/
def configCommands : CString :=
  ("[\x7b\"correlation_id\":\"1\",\"command_name\":\"PING\",\"is_new_config\":true\x7d,"
    ++ "\x7b\"correlation_id\":\"2\"\x7d]").toList

/-- The two commands are answered, in their order. -/
theorem generateACKPayload_object_config : ∃ array ack es s',
    cJSONParse configCommands = some array ∧ array.child.length = 2 ∧
    (generateACKPayload plainBuild (some configCommands) successfullyExecuted
      (some "done".toList)).Exec sampleSdk (some ack) es s' ∧
    List.Forall₂ (AckEntry successfullyExecuted (some "done".toList)) array.child ack.child := by
  have hcheck : ((cJSONParse configCommands).any fun array =>
      decide (array.type = .array) && decide (array.child.length = 2) && array.child.all fun m =>
        decide (m.hasString correlationIdKey) &&
        (cJSONGetObjectItem m commandNameKey).all fun item => decide (item.type = .string)) =
      true := by
    decide +kernel
  -- from here on the text does not matter
  generalize configCommands = payload at hcheck ⊢
  obtain ⟨array, hparse, htest⟩ := (Option.any_eq_true _ _).mp hcheck
  simp only [Bool.and_eq_true, decide_eq_true_eq, List.all_eq_true] at htest
  obtain ⟨⟨harray, hlength⟩, hmessages⟩ := htest
  have hnames : ∀ m ∈ array.child, StringCommandName m := by
    intro m hm item hitem
    have hitems := (hmessages m hm).2
    rw [hitem] at hitems
    simpa using hitems
  obtain ⟨hsafe, hresult⟩ := (generateACKPayload_object plainBuild (some payload)
    successfullyExecuted (some "done".toList) sampleSdk).1 array hparse harray hnames
  obtain ⟨r, es, s', hexec⟩ := hsafe.exists_exec
  obtain ⟨hnone, hack⟩ := hresult r es s' hexec
  cases r with
  | none =>
    obtain ⟨m, hm, hmissing⟩ := hnone.mp rfl
    exact absurd (hmessages m hm).1 hmissing
  | some ack => exact ⟨array, ack, es, s', hparse, hlength, hexec, (hack ack rfl).2⟩

end ZohoIotSdk
