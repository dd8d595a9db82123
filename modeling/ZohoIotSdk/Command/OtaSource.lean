import ZohoIotSdk.Blocks

/-!
# Where the fields of an OTA update come from

`handle_OTA` collects the URL, the hash, the key and the correlation id in variables that it
does not reset from one command of the message to the next. The pointers it passes to the
handler are followed here by the command they point into. `ota_one_source_iff` says for which
messages they all point into the same one.
-/

namespace ZohoIotSdk

open Atomic (Prog)

/-! ## The loop, with the commands the pointers point into -/

/-- The local variables of `handle_OTA`. A `char *` into the parsed message is the position of
the command it points into and the text there. -/
structure OtaPointers where
  otaURL : Option (ℕ × CString) := none
  hash : Option (ℕ × CString) := none
  correlationId : Option (ℕ × CString) := none
  edgeCommandKey : Option (ℕ × CString) := none

/-- The texts that the variables point to. -/
def OtaPointers.texts (p : OtaPointers) : OtaFields where
  otaURL := p.otaURL.map Prod.snd
  hash := p.hash.map Prod.snd
  correlationId := p.correlationId.map Prod.snd
  edgeCommandKey := p.edgeCommandKey.map Prod.snd

/-- The fields that `handle_OTA` looks for among the attributes. -/
def otaURLField : CString := "OTA_URL".toList
def hashField : CString := "HASH".toList

/-- `otaAttribute`, in the command at position `i`. -/
def otaAttributeAt (i : ℕ) (p : OtaPointers) (item : CJson) : OtaPointers :=
  match stringValue (cJSONGetObjectItem item "field".toList),
      stringValue (cJSONGetObjectItem item "value".toList) with
  | some field, some value =>
    if field = otaURLField then { p with otaURL := some (i, value) }
    else if field = hashField then { p with hash := some (i, value) }
    else p
  | _, _ => p

/-- The attributes of the payload of a command. -/
def otaAttributes (payloadMessage : CJson) : List CJson :=
  match cJSONGetObjectItem payloadMessage "attributes".toList with
  | none => []
  | some item => item.child

/-- `otaCommand`, for the command at position `i`. -/
def otaCommandAt (i : ℕ) (p : OtaPointers) (commandMessage : CJson) :
    Except OtaExit OtaPointers :=
  match stringValue (cJSONGetObjectItem commandMessage correlationIdKey) with
  | none => .error .silent
  | some corrId =>
    match (cJSONGetObjectItem commandMessage "payload".toList).bind (cJSONGetArrayItem · 0) with
    | none => .error (.ack (some corrId) "Invalid OTA payload".toList)
    | some payloadMessage =>
      match stringValue (cJSONGetObjectItem payloadMessage "edge_command_key".toList) with
      | none => .error (.ack (some corrId) "Invalid OTA payload".toList)
      | some key => .ok ((otaAttributes payloadMessage).foldl (otaAttributeAt i)
          { p with correlationId := some (i, corrId), edgeCommandKey := some (i, key) })

/-- `otaCommands`, for the commands from position `i` on. -/
def otaCommandsFrom : ℕ → List CJson → OtaPointers → Except OtaExit OtaPointers
  | _, [], p => .ok p
  | i, commandMessage :: rest, p =>
    match otaCommandAt i p commandMessage with
    | .error e => .error e
    | .ok p => otaCommandsFrom (i + 1) rest p

/-! ## It is the loop of `handle_OTA` -/

/-- Forgetting the origins gives the attribute as the code reads it. -/
theorem otaAttributeAt_texts (i : ℕ) (p : OtaPointers) (item : CJson) :
    (otaAttributeAt i p item).texts = otaAttribute p.texts item := by
  unfold otaAttributeAt otaAttribute otaURLField hashField
  cases stringValue (cJSONGetObjectItem item "field".toList) with
  | none => rfl
  | some field =>
    cases stringValue (cJSONGetObjectItem item "value".toList) with
    | none => rfl
    | some value =>
      simp only []
      split
      · rfl
      · split <;> rfl

/-- The same for all attributes of an item. -/
theorem foldl_otaAttributeAt_texts (i : ℕ) (items : List CJson) (p : OtaPointers) :
    (items.foldl (otaAttributeAt i) p).texts = items.foldl otaAttribute p.texts := by
  induction items generalizing p with
  | nil => rfl
  | cons item items ih => rw [List.foldl_cons, List.foldl_cons, ih, otaAttributeAt_texts]

/-- Forgetting the origins gives the command as the code reads it. -/
theorem otaCommandAt_texts (i : ℕ) (p : OtaPointers) (commandMessage : CJson) :
    (otaCommandAt i p commandMessage).map OtaPointers.texts =
      otaCommand p.texts commandMessage := by
  unfold otaCommandAt otaCommand
  cases stringValue (cJSONGetObjectItem commandMessage correlationIdKey) with
  | none => rfl
  | some corrId =>
    cases (cJSONGetObjectItem commandMessage "payload".toList).bind (cJSONGetArrayItem · 0) with
    | none => rfl
    | some payloadMessage =>
      simp only []
      cases stringValue (cJSONGetObjectItem payloadMessage "edge_command_key".toList) with
      | none => rfl
      | some key => exact congrArg Except.ok (foldl_otaAttributeAt_texts i _ _)

/-- Without the positions the loop is the one of the source. -/
theorem otaCommandsFrom_texts (i : ℕ) (commands : List CJson) (p : OtaPointers) :
    (otaCommandsFrom i commands p).map OtaPointers.texts = otaCommands commands p.texts := by
  induction commands generalizing i p with
  | nil => rfl
  | cons commandMessage rest ih =>
    have hfirst := otaCommandAt_texts i p commandMessage
    rw [otaCommandsFrom, otaCommands, ← hfirst]
    cases otaCommandAt i p commandMessage with
    | error e => rfl
    | ok q => exact ih (i + 1) q

/-! ## What a command gives -/

/-- Is the attribute one that sets the field? -/
def setsField (field : CString) (item : CJson) : Bool :=
  decide (stringValue (cJSONGetObjectItem item "field".toList) = some field) &&
    (stringValue (cJSONGetObjectItem item "value".toList)).isSome

/-- Does the command give the field among the attributes of its payload? -/
def givesField (field : CString) (commandMessage : CJson) : Bool :=
  match (cJSONGetObjectItem commandMessage "payload".toList).bind (cJSONGetArrayItem · 0) with
  | none => false
  | some payloadMessage => (otaAttributes payloadMessage).any (setsField field)

/-- The commands that the variables point into. -/
def OtaPointers.origins (p : OtaPointers) : Option ℕ × Option ℕ × Option ℕ × Option ℕ :=
  (p.otaURL.map Prod.fst, p.hash.map Prod.fst, p.correlationId.map Prod.fst,
    p.edgeCommandKey.map Prod.fst)

/-- An attribute sets the origin of the field it sets. -/
theorem otaAttributeAt_origins (i : ℕ) (p : OtaPointers) (item : CJson) :
    (otaAttributeAt i p item).origins =
      (if setsField otaURLField item then some i else p.otaURL.map Prod.fst,
        if setsField hashField item then some i else p.hash.map Prod.fst,
        p.correlationId.map Prod.fst, p.edgeCommandKey.map Prod.fst) := by
  unfold otaAttributeAt setsField OtaPointers.origins
  cases stringValue (cJSONGetObjectItem item "field".toList) with
  | none => simp
  | some field =>
    cases stringValue (cJSONGetObjectItem item "value".toList) with
    | none => simp
    | some value =>
      have hne : otaURLField ≠ hashField := by decide
      by_cases hurl : field = otaURLField
      · simp [hurl, hne]
      · by_cases hhash : field = hashField
        · simp [hhash, hne.symm]
        · simp [hurl, hhash]

/-- The origins after the attributes of an item. -/
theorem foldl_otaAttributeAt_origins (i : ℕ) (items : List CJson) (p : OtaPointers) :
    (items.foldl (otaAttributeAt i) p).origins =
      (if items.any (setsField otaURLField) then some i else p.otaURL.map Prod.fst,
        if items.any (setsField hashField) then some i else p.hash.map Prod.fst,
        p.correlationId.map Prod.fst, p.edgeCommandKey.map Prod.fst) := by
  induction items generalizing p with
  | nil => rfl
  | cons item items ih =>
    have hfirst := otaAttributeAt_origins i p item
    simp only [OtaPointers.origins, Prod.mk.injEq] at hfirst
    obtain ⟨hurl, hhash, hcorr, hkey⟩ := hfirst
    rw [List.foldl_cons, ih, hurl, hhash, hcorr, hkey]
    simp only [List.any_cons, Bool.or_eq_true]
    congr 1
    · by_cases hrest : items.any (setsField otaURLField) = true <;> simp [hrest]
    · congr 1
      by_cases hrest : items.any (setsField hashField) = true <;> simp [hrest]

/-- A command that the loop goes past sets the correlation id and the key, and those of the
other two that it gives. -/
theorem otaCommandAt_origins {i : ℕ} {p q : OtaPointers} {commandMessage : CJson}
    (h : otaCommandAt i p commandMessage = .ok q) : q.origins =
      (if givesField otaURLField commandMessage then some i else p.otaURL.map Prod.fst,
        if givesField hashField commandMessage then some i else p.hash.map Prod.fst,
        some i, some i) := by
  unfold otaCommandAt at h
  unfold givesField
  cases hcorr : stringValue (cJSONGetObjectItem commandMessage correlationIdKey) with
  | none => simp [hcorr] at h
  | some corrId =>
    simp only [hcorr] at h
    cases hpayload :
        (cJSONGetObjectItem commandMessage "payload".toList).bind (cJSONGetArrayItem · 0) with
    | none =>
      simp only [hpayload] at h
      cases h
    | some payloadMessage =>
      simp only [hpayload] at h
      cases hkey : stringValue (cJSONGetObjectItem payloadMessage "edge_command_key".toList) with
      | none =>
        simp only [hkey] at h
        cases h
      | some key =>
        simp only [hkey] at h
        obtain rfl := Except.ok.inj h
        rw [foldl_otaAttributeAt_origins]
        rfl

/-! ## The whole loop -/

/-- The last command is read from the pointers that the earlier ones leave. -/
theorem otaCommandsFrom_snoc {i : ℕ} {commands : List CJson} {last : CJson} {p q : OtaPointers}
    (h : otaCommandsFrom i (commands ++ [last]) p = .ok q) :
    ∃ p', otaCommandsFrom i commands p = .ok p' ∧
      otaCommandAt (i + commands.length) p' last = .ok q := by
  induction commands generalizing i p with
  | nil =>
    refine ⟨p, rfl, ?_⟩
    simp only [List.nil_append, otaCommandsFrom] at h
    split at h
    · simp at h
    · rename_i hlast
      rw [List.length_nil, Nat.add_zero, hlast, h]
  | cons commandMessage rest ih =>
    simp only [List.cons_append, otaCommandsFrom] at h ⊢
    split at h
    · simp at h
    · obtain ⟨p', hrest, hlast⟩ := ih h
      refine ⟨p', hrest, ?_⟩
      rw [List.length_cons, Nat.add_comm rest.length 1, ← Nat.add_assoc]
      exact hlast

section Origin

variable {n i : ℕ} {old : Option ℕ} {gives : Bool}

/-- A variable points into the last command, or where it has pointed before. -/
theorem origin_lt_succ (hold : ∀ i, old = some i → i < n)
    (h : (if gives then some n else old) = some i) : i < n + 1 := by
  split at h
  · have heq := Option.some.inj h
    omega
  · exact Nat.lt_succ_of_lt (hold i h)

/-- It points into the last command only if that gives it something to point to. -/
theorem origin_eq_iff (hold : ∀ i, old = some i → i < n) :
    (if gives then some n else old) = some n ↔ gives = true := by
  split
  · rename_i hgives
    simp [hgives]
  · rename_i hgives
    refine ⟨fun heq => ?_, fun hgives' => absurd hgives' hgives⟩
    exact absurd (hold n heq) (Nat.lt_irrefl n)

end Origin

/-- After the loop the variables point into commands of the message, and the hash is missing
only if no command gives one. -/
structure OriginsKnown (commands : List CJson) (p : OtaPointers) : Prop where
  otaURL : ∀ i, p.otaURL.map Prod.fst = some i → i < commands.length
  hash : ∀ i, p.hash.map Prod.fst = some i → i < commands.length
  noHash : p.hash = none ↔ ∀ m ∈ commands, givesField hashField m = false

/-- The origins in the loop are positions of its commands. -/
theorem originsKnown_of_loop {commands : List CJson} {p : OtaPointers}
    (h : otaCommandsFrom 0 commands {} = .ok p) : OriginsKnown commands p := by
  induction commands using List.reverseRecOn generalizing p with
  | nil =>
    obtain rfl := Except.ok.inj h
    exact ⟨by simp, by simp, by simp⟩
  | append_singleton commands last ih =>
    obtain ⟨p', hloop, hlast⟩ := otaCommandsFrom_snoc h
    have hknown := ih hloop
    have horigins := otaCommandAt_origins hlast
    simp only [OtaPointers.origins, Prod.mk.injEq, Nat.zero_add] at horigins
    obtain ⟨hurl, hhash, -, -⟩ := horigins
    refine ⟨fun i hi => ?_, fun i hi => ?_, ?_⟩
    · rw [hurl] at hi
      rw [List.length_append]
      exact origin_lt_succ hknown.otaURL hi
    · rw [hhash] at hi
      rw [List.length_append]
      exact origin_lt_succ hknown.hash hi
    · rw [← Option.map_eq_none_iff (f := Prod.fst), hhash]
      split
      · rename_i hgives
        simp [hgives]
      · rename_i hgives
        rw [Option.map_eq_none_iff, hknown.noHash]
        simp [or_imp, forall_and, hgives]

/-- All the variables that are set point into the same command. -/
def OtaPointers.OneSource (p : OtaPointers) : Prop :=
  ∃ i, p.otaURL.map Prod.fst = some i ∧ p.correlationId.map Prod.fst = some i ∧
    p.edgeCommandKey.map Prod.fst = some i ∧ (p.hash = none ∨ p.hash.map Prod.fst = some i)

/-- The last command gives a URL, and a hash too if any command gives one. -/
def LastGivesAll (commands : List CJson) : Prop :=
  ∃ last, commands.getLast? = some last ∧ givesField otaURLField last = true ∧
    (givesField hashField last = true ∨
      ∀ m ∈ commands, givesField hashField m = false)

/-- All pointers come from one command exactly when the last one gives them all. -/
theorem oneSource_iff {commands : List CJson} {p : OtaPointers}
    (h : otaCommandsFrom 0 commands {} = .ok p) : p.OneSource ↔ LastGivesAll commands := by
  induction commands using List.reverseRecOn with
  | nil =>
    obtain rfl := Except.ok.inj h
    simp [OtaPointers.OneSource, LastGivesAll]
  | append_singleton commands last _ =>
    have hnoHash := (originsKnown_of_loop h).noHash
    obtain ⟨p', hloop, hlast⟩ := otaCommandsFrom_snoc h
    have hknown := originsKnown_of_loop hloop
    have horigins := otaCommandAt_origins hlast
    simp only [OtaPointers.origins, Prod.mk.injEq, Nat.zero_add] at horigins
    obtain ⟨hurl, hhash, hcorr, hkey⟩ := horigins
    have hurl' : p.otaURL.map Prod.fst = some commands.length ↔
        givesField otaURLField last = true := by
      rw [hurl]
      exact origin_eq_iff hknown.otaURL
    have hhash' : p.hash.map Prod.fst = some commands.length ↔
        givesField hashField last = true := by
      rw [hhash]
      exact origin_eq_iff hknown.hash
    unfold OtaPointers.OneSource LastGivesAll
    rw [hcorr, hkey]
    constructor
    · rintro ⟨i, hi, hcorr', -, hsource⟩
      obtain rfl := Option.some.inj hcorr'
      refine ⟨last, by simp, hurl'.mp hi, ?_⟩
      rcases hsource with hnone | hsome
      · exact .inr (hnoHash.mp hnone)
      · exact .inl (hhash'.mp hsome)
    · rintro ⟨last', hlast', hgives, hsource⟩
      rw [List.getLast?_concat] at hlast'
      obtain rfl := Option.some.inj hlast'
      refine ⟨commands.length, hurl'.mpr hgives, rfl, rfl, ?_⟩
      rcases hsource with hgives' | hnone
      · exact .inr (hhash'.mpr hgives')
      · exact .inl (hnoHash.mpr hnone)

/-! ## The call of the handler -/

/-- The failure path does not call the handler. -/
theorem otaFailure_no_handler {b : Build} {correlationId : CStringPtr} {responseMessage : String}
    {s s' : Sdk} {es : List Effect}
    (h : (otaFailure b correlationId responseMessage).Exec s () es s')
    {url : CString} {hash : CStringPtr} {check : Bool} {corrId : CStringPtr} :
    .otaHandler url hash check corrId ∉ es := by
  obtain ⟨rc, es₁, s₁, es₂, hack, hend, rfl⟩ := Prog.exec_bind.mp h
  obtain ⟨-, rfl, -⟩ := hend
  unfold zclientPublishOTAAck validateClientState at hack
  rw [exec_readClient_bind] at hack
  split at hack
  · obtain ⟨-, rfl, -⟩ := hack
    simp
  · have hpublish : (publishAck b .ota AckKind.ota.topic
        (otaAckPayload correlationId executionFailure
          (some responseMessage.toList))).Exec s rc es₁ s₁ :=
      hack
    cases publishAck_cases hpublish <;> simp

/-- The handler is called with the texts of the variables. -/
theorem runOTA_handler {b : Build} {fields : OtaFields} {s s' : Sdk} {es : List Effect}
    (h : (runOTA b fields).Exec s () es s')
    {url : CString} {hash : CStringPtr} {check : Bool} {corrId : CStringPtr}
    (hmem : .otaHandler url hash check corrId ∈ es) :
    fields.otaURL = some url ∧ fields.hash = hash ∧ fields.correlationId = corrId ∧
      check = decide (fields.edgeCommandKey = some "YES".toList) := by
  unfold runOTA at h
  rw [exec_readClient_bind] at h
  split at h
  · exact absurd hmem (otaFailure_no_handler h)
  · cases hurl : fields.otaURL with
    | none =>
      simp only [hurl] at h
      exact absurd hmem (otaFailure_no_handler h)
    | some url' =>
      cases hkey : fields.edgeCommandKey with
      | none =>
        simp only [hurl, hkey] at h
        exact h.elim
      | some key =>
        simp only [hurl, hkey] at h
        split at h
        · exact absurd hmem (otaFailure_no_handler h)
        · obtain ⟨w, es', rfl, -, rfl, -⟩ := h
          simp only [List.append_nil, List.mem_singleton, Effect.otaHandler.injEq] at hmem
          obtain ⟨rfl, rfl, rfl, rfl⟩ := hmem
          exact ⟨rfl, rfl, rfl, decide_eq_decide.mpr (by rw [Option.some.injEq])⟩

/-- Whenever `handle_OTA` calls the handler: the arguments are the texts that its variables
point to after the loop over the commands, and these point into one and the same command if
and only if the last command gives a URL, and a hash too if any command gives one. -/
theorem ota_one_source_iff (b : Build) {payload : CString} {s s' : Sdk} {es : List Effect}
    (h : (handleOTA b payload).Exec s () es s')
    {url : CString} {hash : CStringPtr} {check : Bool} {corrId : CStringPtr}
    (hmem : .otaHandler url hash check corrId ∈ es) :
    ∃ commandMessageArray p, cJSONParse payload = some commandMessageArray ∧
      otaCommandsFrom 0 commandMessageArray.child {} = .ok p ∧
      p.texts.otaURL = some url ∧ p.texts.hash = hash ∧ p.texts.correlationId = corrId ∧
      check = decide (p.texts.edgeCommandKey = some "YES".toList) ∧
      (p.OneSource ↔ LastGivesAll commandMessageArray.child) := by
  unfold handleOTA at h
  cases hparse : cJSONParse payload with
  | none =>
    simp only [hparse] at h
    obtain ⟨-, rfl, -⟩ := h
    simp at hmem
  | some commandMessageArray =>
    simp only [hparse] at h
    split at h
    · have htexts := otaCommandsFrom_texts 0 commandMessageArray.child {}
      have hempty : OtaPointers.texts {} = {} := rfl
      rw [hempty] at htexts
      cases hloop : otaCommandsFrom 0 commandMessageArray.child {} with
      | error e =>
        rw [hloop] at htexts
        simp only [← htexts, Except.map] at h
        cases e with
        | silent =>
          obtain ⟨-, rfl, -⟩ := h
          simp at hmem
        | ack corrId' response => exact absurd hmem (otaFailure_no_handler h)
      | ok p =>
        rw [hloop] at htexts
        simp only [← htexts, Except.map] at h
        obtain ⟨hurl, hhash, hcorr, hcheck⟩ := runOTA_handler h hmem
        exact ⟨commandMessageArray, p, rfl, hloop, hurl, hhash, hcorr, hcheck,
          oneSource_iff hloop⟩
    · obtain ⟨-, rfl, -⟩ := h
      simp at hmem

/-- The text of a command with the key `YES`, from its correlation id and the texts of its
attributes. -/
def otaText (correlationId attributes : CString) : CString :=
  "\x7b\"correlation_id\":\"".toList ++ correlationId ++
    "\",\"payload\":[\x7b\"edge_command_key\":\"YES\",\"attributes\":[".toList ++ attributes ++
    "]\x7d]\x7d".toList

/-- The text of an attribute. -/
def attributeText (field value : CString) : CString :=
  "\x7b\"field\":\"".toList ++ field ++ "\",\"value\":\"".toList ++ value ++ "\"\x7d".toList

/-- An update with a hash, and then one without. -/
@[irreducible] def mixedUpdates : CString :=
  '[' :: (otaText ['1'] (attributeText otaURLField ['a'] ++ ',' :: attributeText hashField ['x'])
    ++ ',' :: otaText ['2'] (attributeText otaURLField ['b']) ++ [']'])

/-- The update without a hash, and then the one with a hash. -/
@[irreducible] def orderedUpdates : CString :=
  '[' :: (otaText ['2'] (attributeText otaURLField ['b']) ++ ',' :: otaText ['1']
    (attributeText otaURLField ['a'] ++ ',' :: attributeText hashField ['x']) ++ [']'])

/-- A client with an OTA handler. -/
def otaSdk : Sdk := { sampleSdk with client := { sampleSdk.client with onOTAHandler := some 1 } }

/-- Is the effect a call of the handler with these arguments? -/
def Effect.isOtaCall (url : CString) (hash : CStringPtr) (check : Bool) (corrId : CStringPtr) :
    Effect → Bool
  | .otaHandler url' hash' check' corrId' =>
    decide (url' = url ∧ hash' = hash ∧ check' = check ∧ corrId' = corrId)
  | _ => false

theorem mem_of_isOtaCall {url : CString} {hash : CStringPtr} {check : Bool} {corrId : CStringPtr}
    {es : List Effect} (h : es.any (Effect.isOtaCall url hash check corrId) = true) :
    .otaHandler url hash check corrId ∈ es := by
  obtain ⟨e, he, hcall⟩ := List.any_eq_true.mp h
  cases e with
  | otaHandler url' hash' check' corrId' =>
    obtain ⟨rfl, rfl, rfl, rfl⟩ := of_decide_eq_true hcall
    exact he
  | _ => simp [Effect.isOtaCall] at hcall

/-- The commands that the arguments of the handler point into, for a message that gets as far
as the end of the loop. -/
def otaOrigins (payload : CString) : Option (Option ℕ × Option ℕ × Option ℕ × Option ℕ) :=
  (cJSONParse payload).bind fun commandMessageArray =>
    (otaCommandsFrom 0 commandMessageArray.child {}).toOption.map OtaPointers.origins

/-- The second update of a message gives the hash, so the handler gets the second update. -/
theorem ota_one_source_ordered : ∃ es s',
    (handleOTA plainBuild orderedUpdates).Exec otaSdk () es s' ∧
    .otaHandler ['a'] (some ['x']) true (some ['1']) ∈ es ∧
    ∃ commandMessageArray p, cJSONParse orderedUpdates = some commandMessageArray ∧
      otaCommandsFrom 0 commandMessageArray.child {} = .ok p ∧ p.OneSource := by
  have hrun : ((handleOTA plainBuild orderedUpdates).run (List.replicate 5 {}) otaSdk).any
      (fun x => x.2.1.any (Effect.isOtaCall ['a'] (some ['x']) true (some ['1']))) = true := by
    decide +kernel
  obtain ⟨⟨⟩, es, s', hexec, htest⟩ := Prog.exists_exec_of_run hrun
  have hmem : .otaHandler ['a'] (some ['x']) true (some ['1']) ∈ es := mem_of_isOtaCall htest
  obtain ⟨commands, p, hparse, hloop, -, -, -, -, hiff⟩ := ota_one_source_iff plainBuild hexec hmem
  refine ⟨es, s', hexec, hmem, commands, p, hparse, hloop, hiff.mpr ?_⟩
  have hlast : ((cJSONParse orderedUpdates).any fun a => a.child.getLast?.any fun last =>
      givesField otaURLField last && givesField hashField last) = true := by decide +kernel
  rw [hparse, Option.any_some, Option.any_eq_true] at hlast
  obtain ⟨last, hlast, hgives⟩ := hlast
  rw [Bool.and_eq_true] at hgives
  exact ⟨last, hlast, hgives.1, .inl hgives.2⟩

/-- The update without a hash is the second one: the handler gets its URL and correlation id
with the hash of the first one. -/
theorem ota_mixed_sources : ∃ es s', (handleOTA plainBuild mixedUpdates).Exec otaSdk () es s' ∧
    .otaHandler ['b'] (some ['x']) true (some ['2']) ∈ es ∧
    ∃ commandMessageArray p, cJSONParse mixedUpdates = some commandMessageArray ∧
      otaCommandsFrom 0 commandMessageArray.child {} = .ok p ∧
      p.origins = (some 1, some 0, some 1, some 1) ∧ ¬ p.OneSource := by
  have hrun : ((handleOTA plainBuild mixedUpdates).run (List.replicate 5 {}) otaSdk).any
      (fun x => x.2.1.any (Effect.isOtaCall ['b'] (some ['x']) true (some ['2']))) = true := by
    decide +kernel
  obtain ⟨⟨⟩, es, s', hexec, htest⟩ := Prog.exists_exec_of_run hrun
  have hmem : .otaHandler ['b'] (some ['x']) true (some ['2']) ∈ es := mem_of_isOtaCall htest
  have horigins : otaOrigins mixedUpdates = some (some 1, some 0, some 1, some 1) := by
    decide +kernel
  unfold otaOrigins at horigins
  obtain ⟨commands, hparse, hloop⟩ := Option.bind_eq_some_iff.mp horigins
  cases hp : otaCommandsFrom 0 commands.child {} with
  | error e => simp [hp, Except.toOption] at hloop
  | ok p =>
    have hp' : p.origins = (some 1, some 0, some 1, some 1) := by
      simpa [hp, Except.toOption] using hloop
    refine ⟨es, s', hexec, hmem, commands, p, hparse, hp, hp', ?_⟩
    simp only [OtaPointers.origins, Prod.mk.injEq] at hp'
    rintro ⟨i, hurl, -, -, hnone | hhash⟩
    · simp [hnone] at hp'
    · rw [hp'.1] at hurl
      rw [hp'.2.1, ← hurl] at hhash
      simp at hhash

end ZohoIotSdk
