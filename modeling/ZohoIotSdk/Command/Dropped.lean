import ZohoIotSdk.Command.Destination

/-!
# What a dropped message leaves behind

`generateACKPayload` notes the kind of each command as it comes to it, and gives the ACK up at
the first command without a `correlation_id`. The message is then dropped, but what was noted
before stays. `dropped_message_iff` says when that changes nothing.
-/

namespace ZohoIotSdk

open Atomic (Prog)

/-! ## What a command writes -/

/-- The flags that decide where a message goes. -/
def Sdk.flags (s : Sdk) : Bool × Bool := (s.client.otaReceived, s.client.cloudLogging)

/-- The flags that a command of that name sets. -/
def nameFlags (name : CString) : Bool × Bool :=
  (decide (name = zOTA), decide (name = zPublishDeviceLogs))

/-- The line count that a log upload command asks for, if it is accepted. -/
def acceptedLines (b : Build) (commandMessage : CJson) : Option ℤ :=
  if commandName commandMessage = some zPublishDeviceLogs ∧ b.httpPublishEnable = true then
    ((requestedLines commandMessage).map atoi).filter fun lines => decide (1 ≤ lines)
  else none

variable {b : Build} {s s' : Sdk} {es : List Effect}

/-- A command sets the two flags by its name, or leaves them when it has none. -/
theorem noteCommandName_flags {m : CJson} (h : (noteCommandName b m).Exec s () es s') :
    s'.flags = ((commandName m).map nameFlags).getD s.flags := by
  obtain ⟨-, -, hclient⟩ := noteCommandName_exec h
  unfold Sdk.flags
  rw [hclient]
  cases commandName m <;> rfl

/-- A count of lines is stored when it is positive. -/
theorem cloudLoggingSetLines_exec {line : CString}
    (h : (cloudLoggingSetLines line).Exec s () es s') : s'.globals.numLinesToRead =
      ((some (atoi line)).filter fun lines => decide (1 ≤ lines)).getD
        s.globals.numLinesToRead := by
  obtain ⟨_, _, -, -, -, rfl⟩ := h
  by_cases hline : atoi line < 1
  · have hnot : ¬ 1 ≤ atoi line := by omega
    simp [hline, hnot, Option.filter]
  · have hle : 1 ≤ atoi line := by omega
    simp [hline, hle, Option.filter]

/-- A command changes the count of lines only when it is accepted. -/
theorem noteCommandName_lines {m : CJson} (h : (noteCommandName b m).Exec s () es s') :
    s'.globals.numLinesToRead = (acceptedLines b m).getD s.globals.numLinesToRead := by
  unfold noteCommandName at h
  unfold acceptedLines commandName
  cases hitem : cJSONGetObjectItem m commandNameKey with
  | none =>
    simp only [hitem] at h
    obtain ⟨-, -, rfl⟩ := h
    simp
  | some item =>
    cases hvalue : item.valuestring with
    | none =>
      simp only [hitem, hvalue] at h
      exact h.elim
    | some name =>
      simp only [hitem, hvalue] at h
      obtain ⟨_, es₁, s₁, es₂, hrecord, hlines, -⟩ := Prog.exec_bind.mp h
      -- the section that writes the flags leaves the line count
      have hkept : s₁.globals = s.globals := by
        obtain ⟨_, _, -, -, -, rfl⟩ := hrecord
        rfl
      simp only [Option.bind_some, hvalue, Option.some.injEq]
      split at hlines
      · rename_i hasked
        rw [if_pos hasked, ← hkept]
        cases hrequested : requestedLines m with
        | none =>
          simp only [hrequested] at hlines
          obtain ⟨-, -, rfl⟩ := hlines
          rfl
        | some value =>
          simp only [hrequested] at hlines
          exact cloudLoggingSetLines_exec hlines
      · rename_i hasked
        obtain ⟨-, -, rfl⟩ := hlines
        rw [if_neg hasked, ← hkept]
        rfl

/-! ## What the commands before the malformed one write -/

/-- The last of the values that the items write wins. -/
theorem getLast?_filterMap_cons {α β : Type} (f : α → Option β) (x : α) (xs : List α) (old : β) :
    ((x :: xs).filterMap f).getLast?.getD old =
      (xs.filterMap f).getLast?.getD ((f x).getD old) := by
  cases hx : f x with
  | none => rw [List.filterMap_cons_none hx]; rfl
  | some y =>
    rw [List.filterMap_cons_some hx, List.getLast?_cons]
    rfl

/-- The commands before the first one without a `correlation_id`. -/
def acceptedCommands (messages : List CJson) : List CJson :=
  messages.takeWhile fun m => (correlationId m).isSome

/-- The flags after the commands, by those before. -/
def flagsAfter (messages : List CJson) (old : Bool × Bool) : Bool × Bool :=
  (messages.filterMap fun m => (commandName m).map nameFlags).getLast?.getD old

/-- The line count after the commands, by the one before. -/
def linesAfter (b : Build) (messages : List CJson) (old : ℤ) : ℤ :=
  (messages.filterMap (acceptedLines b)).getLast?.getD old

/-- The loop writes what its accepted commands give, in their order. -/
theorem generateACKLoop_writes {statusCode : ℤ} {responseMessage : CStringPtr}
    {messages : List CJson} {ack : CJson} {r : Option CJson}
    (h : (generateACKLoop b statusCode responseMessage messages ack).Exec s r es s') :
    s'.flags = flagsAfter (acceptedCommands messages) s.flags ∧
      s'.globals.numLinesToRead =
        linesAfter b (acceptedCommands messages) s.globals.numLinesToRead := by
  unfold acceptedCommands flagsAfter linesAfter
  induction messages generalizing ack s es with
  | nil =>
    obtain ⟨-, -, rfl⟩ := h
    exact ⟨rfl, rfl⟩
  | cons m rest ih =>
    rw [generateACKLoop] at h
    cases hid : correlationId m with
    | none =>
      simp only [hid] at h
      obtain ⟨-, -, rfl⟩ := h
      rw [List.takeWhile_cons_of_neg (by simp [hid])]
      exact ⟨rfl, rfl⟩
    | some corrId =>
      simp only [hid] at h
      obtain ⟨_, es₁, s₁, es₂, hnote, hloop, rfl⟩ := Prog.exec_bind.mp h
      obtain ⟨hflags, hlines⟩ := ih hloop
      rw [List.takeWhile_cons_of_pos (by simp [hid]), getLast?_filterMap_cons,
        getLast?_filterMap_cons, ← noteCommandName_flags hnote, ← noteCommandName_lines hnote]
      exact ⟨hflags, hlines⟩

/-! ## The whole call -/

/-- The commands of a message that is dropped because one of them has no `correlation_id`. -/
def DroppedAt (payload : CString) (messages : List CJson) : Prop :=
  ∃ array, cJSONParse payload = some array ∧ array.type = .array ∧ messages = array.child ∧
    ∃ m ∈ messages, correlationId m = none

/-- A call that returns NULL leaves the flags and the line count as they were. -/
def LeavesRouting (b : Build) (payload : CString) (statusCode : ℤ) (responseMessage : CStringPtr)
    (s : Sdk) : Prop :=
  ∀ es s', (generateACKPayload b (some payload) statusCode responseMessage).Exec s none es s' →
    s'.flags = s.flags ∧ s'.globals.numLinesToRead = s.globals.numLinesToRead

/-- A call that returns NULL has come to a command without a `correlation_id`, or has not
started. -/
theorem generateACKPayload_null {payload : CString} {statusCode : ℤ}
    {responseMessage : CStringPtr}
    (h : (generateACKPayload b (some payload) statusCode responseMessage).Exec s none es s') :
    (s' = s ∧ ∀ messages, ¬ DroppedAt payload messages) ∨ ∃ messages, DroppedAt payload messages ∧
      s'.flags = flagsAfter (acceptedCommands messages) s.flags ∧
      s'.globals.numLinesToRead =
        linesAfter b (acceptedCommands messages) s.globals.numLinesToRead := by
  unfold generateACKPayload at h
  rw [Option.bind_some] at h
  cases hparse : cJSONParse payload with
  | none =>
    simp only [hparse] at h
    refine .inl ⟨h.2.2, ?_⟩
    rintro messages ⟨array, hsome, -⟩
    rw [hparse] at hsome
    simp at hsome
  | some array =>
    simp only [hparse] at h
    by_cases harray : array.type = .array
    · rw [cJSONIsArray, Option.map_some, harray, decide_eq_true rfl, if_pos rfl] at h
      obtain ⟨-, hformed, -⟩ := generateACKLoop_exec h
      have hmissing : ∃ m ∈ array.child, correlationId m = none := by
        by_contra hall
        simp only [not_exists, not_and] at hall
        have := hformed.mpr fun m hm => Option.isSome_iff_ne_none.mpr (hall m hm)
        simp at this
      exact .inr ⟨array.child, ⟨array, hparse, harray, rfl, hmissing⟩, generateACKLoop_writes h⟩
    · rw [cJSONIsArray, Option.map_some, if_neg (by simpa using harray)] at h
      refine .inl ⟨h.2.2, ?_⟩
      rintro messages ⟨array', hsome, harray', -⟩
      rw [hparse] at hsome
      apply harray
      rw [Option.some.inj hsome]
      exact harray'

/-- A message with strings for names and without one of its ids is dropped. -/
theorem exists_dropped {payload : CString} (hnames : NamesAreStrings payload)
    {messages : List CJson} (hdropped : DroppedAt payload messages) (statusCode : ℤ)
    (responseMessage : CStringPtr) (s : Sdk) : ∃ es s',
    (generateACKPayload b (some payload) statusCode responseMessage).Exec s none es s' := by
  have hsafe := (generateACKPayload_safe b (some payload) statusCode responseMessage s).mpr
    hnames.not_crashingPayload
  obtain ⟨r, es, s', hexec⟩ := hsafe.exists_exec
  obtain ⟨-, hformed, -⟩ := generateACKPayload_exec hexec
  obtain ⟨array, hparse, harray, rfl, m, hm, hid⟩ := hdropped
  cases r with
  | none => exact ⟨es, s', hexec⟩
  | some ack =>
    -- an ACK would need the id that is missing
    obtain ⟨array', hparse', -, hids⟩ := hformed.mp rfl
    rw [hparse] at hparse'
    obtain rfl := Option.some.inj hparse'
    have := hids m hm
    rw [hid] at this
    simp at this

/-- The commands of a dropped message are determined by it. -/
theorem DroppedAt.unique {payload : CString} {messages messages' : List CJson}
    (h : DroppedAt payload messages) (h' : DroppedAt payload messages') : messages' = messages := by
  obtain ⟨array, hparse, -, rfl, -⟩ := h
  obtain ⟨array', hparse', -, rfl, -⟩ := h'
  rw [hparse] at hparse'
  obtain rfl := Option.some.inj hparse'
  rfl

/-- From a given state: a dropped message changes nothing if what the commands before the
malformed one write is there already. -/
theorem leavesRouting_iff {payload : CString} (hnames : NamesAreStrings payload) (statusCode : ℤ)
    (responseMessage : CStringPtr) (s : Sdk) :
    LeavesRouting b payload statusCode responseMessage s ↔
      ∀ messages, DroppedAt payload messages →
        flagsAfter (acceptedCommands messages) s.flags = s.flags ∧
        linesAfter b (acceptedCommands messages) s.globals.numLinesToRead =
          s.globals.numLinesToRead := by
  constructor
  · intro h messages hdropped
    obtain ⟨es, s', hexec⟩ := exists_dropped (b := b) hnames hdropped statusCode responseMessage s
    have hsame := h es s' hexec
    obtain ⟨-, hnone⟩ | ⟨messages', hdropped', hflags, hlines⟩ := generateACKPayload_null hexec
    · exact absurd hdropped (hnone messages)
    · obtain rfl := hdropped.unique hdropped'
      rw [← hflags, ← hlines]
      exact hsame
  · intro h es s' hexec
    obtain ⟨rfl, -⟩ | ⟨messages, hdropped, hflags, hlines⟩ := generateACKPayload_null hexec
    · exact ⟨rfl, rfl⟩
    · rw [hflags, hlines]
      exact h messages hdropped

/-- Commands without names write nothing. -/
theorem writes_of_unnamed {messages : List CJson} (h : ∀ m ∈ messages, commandName m = none)
    (flags : Bool × Bool) (lines : ℤ) :
    flagsAfter messages flags = flags ∧ linesAfter b messages lines = lines := by
  have hflags : (messages.filterMap fun m => (commandName m).map nameFlags) = [] := by
    rw [List.filterMap_eq_nil_iff]
    intro m hm
    rw [h m hm]
    rfl
  have hlines : messages.filterMap (acceptedLines b) = [] := by
    rw [List.filterMap_eq_nil_iff]
    intro m hm
    simp [acceptedLines, h m hm]
  unfold flagsAfter linesAfter
  rw [hflags, hlines]
  exact ⟨rfl, rfl⟩

/-- With a named command among them the flags come out the same for every client. -/
theorem exists_flagsAfter {messages : List CJson} {m : CJson} (hm : m ∈ messages)
    (hname : commandName m ≠ none) : ∃ flags, ∀ old, flagsAfter messages old = flags := by
  cases hlast : (messages.filterMap fun m => (commandName m).map nameFlags).getLast? with
  | none =>
    rw [List.getLast?_eq_none_iff, List.filterMap_eq_nil_iff] at hlast
    exact absurd (Option.map_eq_none_iff.mp (hlast m hm)) hname
  | some flags =>
    refine ⟨flags, fun old => ?_⟩
    rw [flagsAfter, hlast]
    rfl

instance (payload : CString) : Decidable (NamesAreStrings payload) :=
  decidable_of_iff ((cJSONParse payload).all fun array =>
    !decide (array.type = .array) || array.child.all fun m => decide (NamedByString m)) (by
      unfold NamesAreStrings
      cases cJSONParse payload with
      | none => simp
      | some array => by_cases harray : array.type = .array <;> simp [harray])

/-- A command without a name, and one without an id. -/
@[irreducible] def unnamedMessage : CString := "[\x7b\"correlation_id\":\"1\"\x7d,\x7b\x7d]".toList

/-- An OTA command, and one without an id. -/
@[irreducible] def otaThenMalformed : CString :=
  "[\x7b\"correlation_id\":\"1\",\"command_name\":\"Z_OTA\"\x7d,\x7b\x7d]".toList

end ZohoIotSdk
