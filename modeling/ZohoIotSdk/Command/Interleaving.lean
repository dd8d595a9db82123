import ZohoIotSdk.Blocks
import ZohoIotSdk.Command.Destination

/-!
# Commands processed side by side

Every received message is processed by a thread of its own, and the application
acknowledges payloads from its threads. All of them record the kind of a command in the
flags of the one client, and a message is routed by what its thread reads back.

`ota_routing_interleaved`: a message goes to `handle_OTA` exactly when it should in every
interleaving in which each thread reads back the kind of its own command.
-/

namespace ZohoIotSdk

open Atomic (Prog Config World Contract Guarded)

variable {τ : Type} [DecidableEq τ]

/-! ## The threads -/

/-- A received message with one command, which has a string `correlation_id` and a string
`command_name`. -/
structure CommandMessage where
  text : List Char
  name : CString
  array : CommandArray (cstr text)
  single : commandNames (cstr text) = [name]

/-- A command message holds a command. -/
theorem CommandMessage.commands_ne_nil (m : CommandMessage) : commands (cstr m.text) ≠ [] := by
  intro hnil
  have hsingle := m.single
  rw [commandNames, hnil] at hsingle
  simp at hsingle

/-- The arguments of a call of `zclient_publishCommandAck`. -/
structure CommandAckCall where
  payload : CStringPtr
  statusCode : ℤ
  responseMessage : CStringPtr

/-- A thread that processes a message, or a thread of the application that acknowledges
some payloads. -/
inductive CommandThread where
  | message (m : CommandMessage)
  | application (acks : List CommandAckCall)

/-- What a thread runs, for the command topic on which its message was received. -/
def CommandThread.prog (b : Build) (commandTopic : CString) : CommandThread → ClientM Unit
  | message m => processMessageReceived b commandTopic m.text
  | application acks => callSequence b (acks.map fun ack =>
      .publishCommandAck ack.payload ack.statusCode ack.responseMessage)

/-- The threads before their first steps. -/
def commandSystem (b : Build) (threads : τ → CommandThread) (s : Sdk) :
    Config τ Sdk Answer Effect where
  pool t := (threads t).prog b s.client.commandTopic
  world := { state := s, trace := [] }

theorem CommandThread.prog_built (b : Build) (commandTopic : CString) (thread : CommandThread) :
    Built b true (thread.prog b commandTopic) := by
  cases thread with
  | message m => exact processMessageReceived_built _ _
  | application acks =>
    apply callSequence_built
    intro call hcall
    obtain ⟨ack, -, rfl⟩ := List.mem_map.mp hcall
    exact .discard (publishProcessedAck_built .command _ _ _)

/-! ## What the flags hold -/

/-- The name that a flag update was made for. -/
def Effect.recordedName : Effect → Option CString
  | .setFlags name => some name
  | _ => none

/-- The name that the last flag update was made for, by whichever thread. -/
def lastRecorded (tr : List (τ × Effect)) : Option CString :=
  (tr.filterMap fun x => x.2.recordedName).getLast?

omit [DecidableEq τ] in
/-- The flag after a trace is that of the last name recorded in it. -/
theorem foldl_otaAfter (received : Bool) (tr : List (τ × Effect)) :
    (tr.map Prod.snd).foldl otaAfter received =
      match lastRecorded tr with
      | none => received
      | some name => decide (name = zOTA) := by
  induction tr using List.reverseRecOn with
  | nil => rfl
  | append_singleton tr x ih =>
    have hlast : lastRecorded (tr ++ [x]) = x.2.recordedName.or (lastRecorded tr) := by
      unfold lastRecorded
      rw [List.filterMap_append, List.getLast?_append]
      cases hname : x.2.recordedName <;> simp [hname]
    rw [List.map_append, List.foldl_append, ih, hlast]
    cases hname : x.2.recordedName with
    | none =>
      have hkeep : ∀ received, otaAfter received x.2 = received := by
        intro received
        cases hx : x.2 with
        | setFlags name => simp [hx, Effect.recordedName] at hname
        | _ => rfl
      exact hkeep _
    | some name =>
      have hset : x.2 = .setFlags name := by
        cases hx : x.2 with
        | setFlags other =>
          rw [hx] at hname
          rw [Option.some.inj hname]
        | _ => simp [hx, Effect.recordedName] at hname
      rw [List.map_singleton, List.foldl_cons, List.foldl_nil, hset]
      rfl

omit [DecidableEq τ] in
/-- The kind read back is that of the last update. -/
theorem Tracks.otaReceived {s : Sdk} {W : World τ Sdk Effect} (h : Tracks s W) {name : CString}
    (hname : lastRecorded W.trace = some name) :
    W.state.client.otaReceived = decide (name = zOTA) := by
  rw [h.ota, foldl_otaAfter, hname]

/-- At least one flag update was made. -/
def Recorded (W : World τ Sdk Effect) : Prop := ∃ name, lastRecorded W.trace = some name

omit [DecidableEq τ] in
theorem Recorded.of_extendedBy {W W' : World τ Sdk Effect} (h : Recorded W)
    {P : τ × Effect → Prop} (hext : W.ExtendedBy P W') : Recorded W' := by
  rcases h with ⟨name, hname⟩
  rcases hext with ⟨new, htrace, -⟩
  unfold Recorded lastRecorded at *
  rw [htrace, List.filterMap_append, List.getLast?_append, hname]
  cases (List.filterMap (fun x : τ × Effect => x.2.recordedName) new).getLast? <;> simp

/-! ## The contract of the threads -/

/-- Where a thread reads the OTA flag for its message, the last update, by whichever thread,
was made for a command that agrees with its own on being an OTA command. -/
def ReadsOwnKind (threads : τ → CommandThread) : Config.Condition τ Sdk Effect :=
  fun t W W' => ∀ m received, threads t = .message m →
    W'.trace = W.trace ++ [(t, .otaStatus received)] →
    ∀ name, lastRecorded W.trace = some name → (name = zOTA ↔ m.name = zOTA)

/-- The thread has not routed its message yet. -/
def Unrouted (t : τ) (W : World τ Sdk Effect) : Prop := routedTo (W.own t) = none

/-- If the message of the thread was routed, it was to where its name says. -/
def RoutedByName (threads : τ → CommandThread) (t : τ) (W : World τ Sdk Effect) : Prop :=
  ∀ m dest, threads t = .message m → routedTo (W.own t) = some dest →
    (dest = .handleOTA ↔ m.name = zOTA)

/-- The thread has routed its message, if it has one. -/
def HandedOver (threads : τ → CommandThread) (t : τ) (W : World τ Sdk Effect) : Prop :=
  ∀ m, threads t = .message m → ¬ Unrouted t W

/-- Nothing is asked of the other threads but to be others; a thread promises to route its
message by its name. -/
def routingContract (threads : τ → CommandThread) (s : Sdk) : Contract τ Sdk Effect where
  cond t W W' := ReadsOwnKind threads t W W' ∧ Tracks s W
  rely t := World.ExtendedBy fun x => x.1 ≠ t
  guarantee t W W' := RoutedByName threads t W → RoutedByName threads t W'
  crash := HandedOver threads
  rely_refl _ _ := .refl
  rely_trans _ _ _ _ := .trans
  compatible _ _ _ _ _ hne _ := .after fun _ _ => hne

section Threads

variable {threads : τ → CommandThread} {s : Sdk} {t : τ} {W W' : World τ Sdk Effect}

/-! ## Before the routing -/

theorem Unrouted.of_rely (h : Unrouted t W) (hrely : (routingContract threads s).rely t W W') :
    Unrouted t W' := by
  rwa [Unrouted, World.ExtendedBy.own_eq hrely fun _ hx => hx]

/-- A step that routes nothing leaves the message unrouted. -/
theorem Unrouted.after (h : Unrouted t W) {s' : Sdk} {es : List Effect}
    (hes : routedTo es = none) : Unrouted t (W.after t s' es) := by
  rw [Unrouted, World.own_after_self, routedTo_append, h, hes]
  rfl

/-- As long as nothing was routed, nothing was routed wrongly. -/
theorem Unrouted.routedByName (h : Unrouted t W) : RoutedByName threads t W := by
  intro m dest _ hdest
  rw [h] at hdest
  simp at hdest

/-- Nothing was routed yet, and the flags were updated. -/
def Pending (t : τ) (W : World τ Sdk Effect) : Prop := Unrouted t W ∧ Recorded W

theorem Pending.of_rely (h : Pending t W) (hrely : (routingContract threads s).rely t W W') :
    Pending t W' :=
  ⟨h.1.of_rely hrely, h.2.of_extendedBy hrely⟩

/-- A step that neither routes nor updates the flags. -/
theorem Pending.act {α : Type} {upd : Answer → Sdk → Sdk} {emit : Answer → Sdk → List Effect}
    {ret : Answer → Sdk → α} (h : Pending t W) (hemit : ∀ w s, routedTo (emit w s) = none) :
    Guarded (routingContract threads s) t (Prog.act upd emit ret) (fun _ W' => Pending t W') W := by
  refine .act fun W₁ hrely₁ w _ => ?_
  have hafter : Unrouted t (W₁.after t (upd w W₁.state) (emit w W₁.state)) :=
    (h.1.of_rely hrely₁).after (hemit w W₁.state)
  have hrecorded : Recorded (W₁.after t (upd w W₁.state) (emit w W₁.state)) :=
    (h.of_rely hrely₁).2.of_extendedBy (P := fun _ => True) (.after fun _ _ => trivial)
  exact ⟨fun _ => hafter.routedByName, fun W₂ hrely₂ => .of_rely ⟨hafter, hrecorded⟩ hrely₂⟩

/-- Noting a name makes the message pending. -/
theorem noteCommandName_guarded {b : Build} {commandMessage : CJson}
    (hname : (commandName commandMessage).isSome) (hW : Unrouted t W) :
    Guarded (routingContract threads s) t (noteCommandName b commandMessage)
      (fun _ W' => Pending t W') W := by
  obtain ⟨name, hname⟩ := Option.isSome_iff_exists.mp hname
  obtain ⟨item, hitem, hvalue⟩ := Option.bind_eq_some_iff.mp hname
  unfold noteCommandName
  simp only [hitem, hvalue]
  refine .bind (.act fun W₁ hrely₁ w _ => ?_)
  have hunrouted : ∀ s', Unrouted t (W₁.after t s' [.setFlags name]) :=
    fun _ => (hW.of_rely hrely₁).after rfl
  refine ⟨fun _ => (hunrouted _).routedByName, fun W₂ hrely₂ => ?_⟩
  -- from here on some name is recorded, by this thread or by another one after it
  have hpending : Pending t W₂ :=
    .of_rely ⟨hunrouted _, name, by simp [lastRecorded, Effect.recordedName]⟩ hrely₂
  split
  · split
    · exact .pure fun _ => hpending.of_rely
    · exact hpending.act fun _ _ => rfl
  · exact .pure fun _ => hpending.of_rely

/-- After the loop the message is pending, by induction on the commands. -/
theorem generateACKLoop_guarded {b : Build} {statusCode : ℤ} {responseMessage : CStringPtr}
    {messages : List CJson} {ack : CJson}
    (hmessages : ∀ m ∈ messages, (correlationId m).isSome ∧ (commandName m).isSome)
    (hW : Unrouted t W) (hfirst : messages = [] → Recorded W) :
    Guarded (routingContract threads s) t
      (generateACKLoop b statusCode responseMessage messages ack)
      (fun r W' => r.isSome ∧ Pending t W') W := by
  induction messages generalizing ack W with
  | nil => exact .pure fun _ hrely => ⟨rfl, .of_rely ⟨hW, hfirst rfl⟩ hrely⟩
  | cons message rest ih =>
    obtain ⟨⟨hid, hname⟩, hrest⟩ := List.forall_mem_cons.mp hmessages
    obtain ⟨corrId, hid⟩ := Option.isSome_iff_exists.mp hid
    rw [generateACKLoop]
    simp only [hid]
    -- the loop may begin without a recorded name, but after one element there is one
    exact .bind ((noteCommandName_guarded hname hW).mono fun _ W' hnoted =>
      ih hrest hnoted.1 fun _ => hnoted.2)

/-- An array of commands is acknowledged, and the flags are updated on the way. -/
theorem generateACKPayload_guarded {b : Build} {payload : CString} {statusCode : ℤ}
    {responseMessage : CStringPtr} (harray : CommandArray payload) (hne : commands payload ≠ [])
    (hW : Unrouted t W) :
    Guarded (routingContract threads s) t
      (generateACKPayload b (some payload) statusCode responseMessage)
      (fun r W' => r.isSome ∧ Pending t W') W := by
  have hnamed : ∀ m ∈ commands payload, (commandName m).isSome := fun _ hm => harray.named hm
  obtain ⟨array, hparse, htype, hids⟩ := harray.ackFormed
  rw [commands_eq hparse] at hne hnamed
  unfold generateACKPayload
  simp only [Option.bind_some, hparse]
  rw [cJSONIsArray, Option.map_some, htype, decide_eq_true rfl, if_pos rfl]
  exact generateACKLoop_guarded (fun m hm => ⟨hids m hm, hnamed m hm⟩) hW
    fun hnil => absurd hnil hne

/-! ## The routing and what follows -/

/-- Once the message was routed, the thread can do anything. -/
theorem routed_guarded {α : Type} (p : ClientM α) (hW : ¬ Unrouted t W) :
    Guarded (routingContract threads s) t p (fun _ W' => ¬ Unrouted t W') W := by
  have hafter : ∀ W s' es, ¬ Unrouted t W →
      routedTo ((W.after t s' es).own t) = routedTo (W.own t) := by
    intro W s' es h
    obtain ⟨dest, hdest⟩ := Option.ne_none_iff_exists'.mp h
    rw [World.own_after_self, routedTo_append, hdest]
    rfl
  refine Guarded.of_steps (φ := fun _ _ _ => True) (Prog.steps_of_forall (fun _ _ _ => trivial) p)
    ?_ ?_ ?_ hW
  · intro W₁ W₂ h hrely
    rwa [Unrouted, World.ExtendedBy.own_eq hrely fun _ hx => hx]
  · exact fun _ h _ _ => h
  · intro W₁ s' es h _ _
    refine ⟨fun hright m dest hm hdest => hright m dest hm ?_, ?_⟩
    · rwa [hafter W₁ s' es h] at hdest
    · rwa [Unrouted, hafter W₁ s' es h]

/-- The message is routed to the handler that the flag selects. -/
theorem route_guarded {m : CommandMessage} (hm : threads t = .message m) {dest : Destination}
    (hdest : dest = .handleOTA ↔ m.name = zOTA) (hW : Unrouted t W) :
    Guarded (routingContract threads s) t (route dest) (fun _ W' => ¬ Unrouted t W') W := by
  refine .act fun W₁ hrely₁ w _ => ?_
  have hrouted : routedTo ((W₁.after t W₁.state [.routed dest]).own t) = some dest := by
    rw [World.own_after_self, routedTo_append, hW.of_rely hrely₁]
    rfl
  refine ⟨fun _ m' dest' hm' hdest' => ?_, fun W₂ hrely₂ => ?_⟩
  · obtain rfl : m = m' := by
      rw [hm] at hm'
      exact CommandThread.message.inj hm'
    obtain rfl : dest = dest' := Option.some.inj (hrouted.symm.trans hdest')
    exact hdest
  · rw [Unrouted, World.ExtendedBy.own_eq hrely₂ fun _ hx => hx, hrouted]
    simp

/-- The flag read back tells the kind of the thread's own command. -/
theorem getOTAStatus_guarded {m : CommandMessage} (hm : threads t = .message m)
    (hW : Pending t W) :
    Guarded (routingContract threads s) t getOTAStatus
      (fun ota W' => ota = decide (m.name = zOTA) ∧ Unrouted t W') W := by
  refine .act fun W₁ hrely₁ w hcond => ?_
  obtain ⟨hunrouted, name, hname⟩ := hW.of_rely hrely₁
  have hafter : Unrouted t (W₁.after t W₁.state [.otaStatus W₁.state.client.otaReceived]) :=
    hunrouted.after rfl
  refine ⟨fun _ => hafter.routedByName, fun W₂ hrely₂ => ⟨?_, hafter.of_rely hrely₂⟩⟩
  rcases hcond with ⟨hreads, htracks⟩
  -- the last name recorded anywhere is of the kind of this command
  have hkind : name = zOTA ↔ m.name = zOTA := hreads m _ hm rfl name hname
  rw [htracks.otaReceived hname, decide_eq_decide]
  exact hkind

/-- A pending message is routed. -/
theorem routeCommand_guarded {b : Build} {payload : CString} {m : CommandMessage}
    (hm : threads t = .message m) (hW : Pending t W) :
    Guarded (routingContract threads s) t (routeCommand b payload)
      (fun _ W' => ¬ Unrouted t W') W := by
  refine .bind ((getOTAStatus_guarded hm hW).mono fun ota W₁ hota => ?_)
  rcases hota with ⟨rfl, hunrouted⟩
  by_cases hname : m.name = zOTA
  · simp only [hname, decide_true, if_true]
    exact .bind ((route_guarded hm (by simp [hname]) hunrouted).mono fun _ _ h =>
      routed_guarded _ h)
  -- none of the other destinations is `handle_OTA`
  · simp only [hname, decide_false, Bool.false_eq_true, if_false]
    refine .bind (.act fun W₂ hrely₂ w _ => ?_)
    have hunrouted₂ : Unrouted t (W₂.after t W₂.state []) := (hunrouted.of_rely hrely₂).after rfl
    refine ⟨fun _ => hunrouted₂.routedByName, fun W₃ hrely₃ => ?_⟩
    have hunrouted₃ := hunrouted₂.of_rely hrely₃
    split
    · exact .bind ((route_guarded hm (by simp [hname]) hunrouted₃).mono fun _ _ h =>
        routed_guarded _ h)
    · refine .bind (.act fun W₄ hrely₄ w _ => ?_)
      have hunrouted₄ : Unrouted t (W₄.after t W₄.state []) := (hunrouted₃.of_rely hrely₄).after rfl
      refine ⟨fun _ => hunrouted₄.routedByName, fun W₅ hrely₅ => ?_⟩
      split
      · exact route_guarded hm (by simp [hname]) (hunrouted₄.of_rely hrely₅)
      · exact route_guarded hm (by simp [hname]) (hunrouted₄.of_rely hrely₅)

/-- The thread of a message routes it by its name. -/
theorem processMessageReceived_guarded {b : Build} {m : CommandMessage}
    (hm : threads t = .message m) (hW : Unrouted t W) :
    Guarded (routingContract threads s) t
      (processMessageReceived b s.client.commandTopic m.text) (fun _ W' => ¬ Unrouted t W') W := by
  refine .bind (.act fun W₁ hrely₁ w hcond => ?_)
  have hunrouted₁ : Unrouted t (W₁.after t W₁.state []) := (hW.of_rely hrely₁).after rfl
  refine ⟨fun _ => hunrouted₁.routedByName, fun W₂ hrely₂ => ?_⟩
  -- the command topic has not changed
  have htopic : W₁.state.client.commandTopic = s.client.commandTopic := hcond.2.commandTopic
  simp only [htopic, decide_true, if_true]
  refine .bind ((generateACKPayload_guarded m.array m.commands_ne_nil
    (hunrouted₁.of_rely hrely₂)).mono fun r W₃ hack => ?_)
  rcases hack with ⟨hsome, hpending⟩
  obtain ⟨ack, rfl⟩ := Option.isSome_iff_exists.mp hsome
  refine .bind ((hpending.act fun w s' => ?_).mono fun _ W₄ hpending₄ =>
    routeCommand_guarded hm hpending₄)
  split <;> rfl

end Threads

/-! ## All threads together -/

/-- Every thread keeps the contract, from where it starts. -/
theorem CommandThread.guarded (b : Build) (threads : τ → CommandThread) (s : Sdk) (t : τ) :
    Guarded (routingContract threads s) t ((threads t).prog b s.client.commandTopic)
      (fun _ => HandedOver threads t) { state := s, trace := [] } := by
  cases hthread : threads t with
  | message m =>
    have hstart : Unrouted t { state := s, trace := [] } := rfl
    exact (processMessageReceived_guarded hthread hstart).mono fun _ _ h _ _ => h
  | application acks =>
    -- an application thread has no message to hand over
    have hover : ∀ W, HandedOver threads t W := by
      intro W m hm
      rw [hthread] at hm
      cases hm
    refine (Guarded.of_steps (φ := fun _ _ _ => True) (J := fun _ => True)
      (Prog.steps_of_forall (fun _ _ _ => trivial) _) ?_ ?_ ?_ trivial).mono fun _ W' _ => hover W'
    · exact fun _ _ _ _ => trivial
    · exact fun W _ => hover W
    · intro W s' es _ _ _
      refine ⟨fun _ m dest hm => ?_, trivial⟩
      rw [hthread] at hm
      cases hm

/-- In every interleaving of message threads and application threads in which each message
thread reads back the kind of its own command: a message that was routed went to
`handle_OTA` exactly if its command is an OTA command, and the thread of a message that
was not routed yet can always go on. -/
theorem ota_routing_interleaved (b : Build) (threads : τ → CommandThread) (s : Sdk)
    {c : Config τ Sdk Answer Effect}
    (hrun : (commandSystem b threads s).Reaches (ReadsOwnKind threads) c) {t : τ}
    {m : CommandMessage} (hm : threads t = .message m) :
    (∀ dest, routedTo (c.world.own t) = some dest → (dest = .handleOTA ↔ m.name = zOTA)) ∧
    (routedTo (c.world.own t) = none → ∀ w, (c.fire t w).isSome) := by
  -- the flag follows the recorded names in every state reached
  have hrun' : (commandSystem b threads s).Reaches (routingContract threads s).cond c :=
    hrun.with_invariant fun _ hreach =>
      tracks_of_reaches hreach (fun t => ⟨true, (threads t).prog_built b _⟩) rfl
  have hguarded := Config.guarded_of_reaches hrun' (CommandThread.guarded b threads s)
  constructor
  · intro dest hdest
    have hright : ∀ t, RoutedByName threads t c.world := by
      refine Config.invariant_of_reaches (I := fun W => ∀ t, RoutedByName threads t W) ?_ hrun'
        (CommandThread.guarded b threads s) ?_
      · intro t' W s' es hW hguar t''
        by_cases heq : t' = t''
        · subst heq
          exact hguar (hW t')
        · intro m' dest' hm' hdest'
          rw [World.own_after_of_ne _ heq] at hdest'
          exact hW t'' m' dest' hm' hdest'
      · exact fun t' => Unrouted.routedByName rfl
    exact hright t m dest hm hdest
  · intro hnone w
    exact Config.isSome_fire_of_guarded (hguarded t) (fun h => h m hm hnone)
      (fun h => h m hm hnone) w

/-! ## Two threads -/

def otaCommandMessage : CommandMessage where
  text := otaMessage
  name := zOTA
  array := by decide +kernel
  single := by decide +kernel

def pingCommandMessage : CommandMessage where
  text := ("[" ++ pingCommand ++ "]").toList
  name := "PING".toList
  array := by decide +kernel
  single := by decide +kernel

/-- The thread of an OTA command, and that of another command. -/
def twoMessages (ping : Bool) : CommandThread :=
  if ping then .message pingCommandMessage else .message otaCommandMessage

/-- A test for `ReadsOwnKind`. -/
def readsOwnKind (threads : τ → CommandThread) (t : τ) (W W' : World τ Sdk Effect) : Bool :=
  match threads t, W'.trace.getLast? with
  | .message m, some (_, .otaStatus _) =>
    (lastRecorded W.trace).all fun name => decide (name = zOTA ↔ m.name = zOTA)
  | _, _ => true

omit [DecidableEq τ] in
theorem readsOwnKind_of_check {threads : τ → CommandThread} {t : τ} {W W' : World τ Sdk Effect}
    (h : readsOwnKind threads t W W' = true) : ReadsOwnKind threads t W W' := by
  intro m received hm htrace name hname
  rw [readsOwnKind, hm, htrace, List.getLast?_concat] at h
  simpa [hname] using h

/-- One message is recorded and read back after the other: both go where they should. -/
theorem ota_routing_interleaved_sample : ∃ c,
    (commandSystem plainBuild twoMessages sampleSdk).Reaches (ReadsOwnKind twoMessages) c ∧
    routedTo (c.world.own false) = some .handleOTA ∧
    ∃ dest, routedTo (c.world.own true) = some dest ∧ dest ≠ .handleOTA := by
  -- the second thread records its name after the first one has read its flag back
  have hrun : (Config.schedule (readsOwnKind twoMessages)
      [(true, {}), (false, {}), (false, {}), (false, {}), (false, {}), (true, {}), (false, {}),
        (true, {}), (true, {}), (true, {}), (true, {}), (true, {})]
      (commandSystem plainBuild twoMessages sampleSdk)).any (fun c =>
        (routedTo (c.world.own false)).isSome && (routedTo (c.world.own true)).isSome) = true := by
    decide +kernel
  obtain ⟨c, hreach, htest⟩ := Config.exists_reaches_of_schedule hrun
  have hreach' := hreach.mono fun _ _ _ => readsOwnKind_of_check
  obtain ⟨hfirst, hsecond⟩ := Bool.and_eq_true_iff.mp htest
  obtain ⟨dest₁, hdest₁⟩ := Option.isSome_iff_exists.mp hfirst
  obtain ⟨dest₂, hdest₂⟩ := Option.isSome_iff_exists.mp hsecond
  have hota := (ota_routing_interleaved plainBuild twoMessages sampleSdk hreach'
    (t := false) rfl).1 dest₁ hdest₁
  have hping := (ota_routing_interleaved plainBuild twoMessages sampleSdk hreach'
    (t := true) rfl).1 dest₂ hdest₂
  refine ⟨c, hreach', ?_, dest₂, hdest₂, fun heq => ?_⟩
  · rw [hdest₁, hota.mpr rfl]
  · exact absurd (hping.mp heq) (by decide)

/-- The other thread records its command between the two steps of the first one: the OTA
command does not go to `handle_OTA`. -/
theorem ota_routing_torn : ∃ c,
    (commandSystem plainBuild twoMessages sampleSdk).Reaches (fun _ _ _ => True) c ∧
    twoMessages false = .message otaCommandMessage ∧
    ∃ dest, routedTo (c.world.own false) = some dest ∧
      ¬ (dest = .handleOTA ↔ otaCommandMessage.name = zOTA) := by
  have hrun : (Config.schedule (fun _ _ _ => true)
      [(false, {}), (false, {}), (true, {}), (true, {}), (false, {}), (false, {}), (false, {}),
        (false, {}), (false, {})]
      (commandSystem plainBuild twoMessages sampleSdk)).any (fun c =>
        decide (routedTo (c.world.own false) = some .noHandler)) = true := by
    decide +kernel
  obtain ⟨c, hreach, htest⟩ := Config.exists_reaches_of_schedule hrun
  refine ⟨c, hreach.mono fun _ _ _ _ => trivial, rfl, .noHandler, of_decide_eq_true htest, ?_⟩
  intro hiff
  exact absurd (hiff.mpr rfl) (by decide)

end ZohoIotSdk
