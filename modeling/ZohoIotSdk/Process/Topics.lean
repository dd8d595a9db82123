import ZohoIotSdk.Blocks
import ZohoIotSdk.Client.UserName

/-!
# The topics of a client

A `zclient_init` that succeeds has written all topics of the client in full, and the command
and config topics of two clients are equal only if their client ids are.
-/

namespace ZohoIotSdk

/-! ## Texts -/

/-- A topic that fits is not cut. -/
theorem snprintf_topicText {clientId suffix : CString}
    (h : ¬ 64 ≤ (topicText clientId suffix).length) :
    snprintf 64 (topicText clientId suffix) = topicText clientId suffix :=
  List.take_of_length_le (by omega)

/-- Topics of one kind are equal for equal client ids only. -/
theorem topicText_inj {clientId clientId' suffix : CString} :
    topicText clientId suffix = topicText clientId' suffix ↔ clientId = clientId' := by
  unfold topicText
  rw [List.append_cancel_left_eq, List.cons_inj_right, List.append_cancel_right_eq]

/-- The suffixes differ in the last letter but one. -/
theorem commands_ne_configsettings (clientId clientId' : CString) :
    topicText clientId "/commands".toList ≠ topicText clientId' "/configsettings".toList := by
  unfold topicText
  rw [Ne, List.append_cancel_left_eq, List.cons_inj_right]
  intro h
  have hletter := congrArg (fun text => text.reverse[1]?) h
  simp only [List.reverse_append] at hletter
  rw [List.getElem?_append_left (by decide), List.getElem?_append_left (by decide)] at hletter
  revert hletter
  decide

/-- What stands before the first slash of a text, and what stands after it. -/
theorem append_slash_inj {x x' r r' : CString} (hx : '/' ∉ x) (hx' : '/' ∉ x') :
    x ++ '/' :: r = x' ++ '/' :: r' ↔ x = x' ∧ r = r' := by
  refine ⟨fun h => ?_, fun ⟨hid, hrest⟩ => by rw [hid, hrest]⟩
  induction x generalizing x' with
  | nil =>
    cases x' with
    | nil => exact ⟨rfl, (List.cons.inj h).2⟩
    | cons c x' => exact absurd (List.mem_cons.mpr (.inl (List.cons.inj h).1)) hx'
  | cons c x ih =>
    cases x' with
    | nil => exact absurd (List.mem_cons.mpr (.inl (List.cons.inj h).1.symm)) hx
    | cons c' x' =>
      obtain ⟨rfl, htail⟩ := List.cons.inj h
      obtain ⟨rfl, hrest⟩ := ih (List.not_mem_of_not_mem_cons hx)
        (List.not_mem_of_not_mem_cons hx') htail
      exact ⟨rfl, hrest⟩

/-! ## The kinds of topics -/

/-- The six topics of a client. -/
inductive TopicKind where
  | data
  | command
  | commandAck
  | event
  | config
  | configAck
deriving DecidableEq

/-- Where the client keeps the topic. -/
def TopicKind.topic : TopicKind → ZohoIOTclient → CString
  | data => (·.dataTopic)
  | command => (·.commandTopic)
  | commandAck => (·.commandAckTopic)
  | event => (·.eventTopic)
  | config => (·.configTopic)
  | configAck => (·.configAckTopic)

/-- `DATA_TOPIC`, `COMMAND_TOPIC` and so on. -/
def TopicKind.suffix : TopicKind → CString
  | data => "/telemetry".toList
  | command => "/commands".toList
  | commandAck => "/commands/ack".toList
  | event => "/events".toList
  | config => "/configsettings".toList
  | configAck => "/configsettings/ack".toList

/-- Every suffix begins with a slash, and no two are the same. -/
theorem TopicKind.suffix_eq (kind : TopicKind) : kind.suffix = '/' :: kind.suffix.tail := by
  cases kind <;> decide

/-- Two kinds of topic end differently. -/
theorem TopicKind.suffix_inj {kind kind' : TopicKind} (h : kind.suffix.tail = kind'.suffix.tail) :
    kind = kind' := by
  revert h
  cases kind <;> cases kind' <;> decide

/-- A topic determines the client id, if that has no slash, and the kind of topic. -/
theorem topicText_eq_iff {clientId clientId' : CString} (h : '/' ∉ clientId)
    (h' : '/' ∉ clientId') (kind kind' : TopicKind) :
    topicText clientId kind.suffix = topicText clientId' kind'.suffix ↔
      clientId = clientId' ∧ kind = kind' := by
  unfold topicText
  rw [List.append_cancel_left_eq, List.cons_inj_right, kind.suffix_eq, kind'.suffix_eq,
    append_slash_inj h h']
  refine and_congr_right fun _ => ⟨TopicKind.suffix_inj, fun heq => by rw [heq]⟩

/-! ## The client id -/

/-- The client id of a user name that is accepted is one of its tokens. -/
theorem populateConfigObject_clientId {userName : CString} {config : Zconfig}
    (h : (populateConfigObject userName config).1 ≠ zfailure) :
    ∃ id ∈ strtok '/' userName, (populateConfigObject userName config).2.clientId = some id := by
  rw [populateConfigObject_eq] at h ⊢
  split at h
  · exact absurd rfl h
  · split at h
    · rename_i hlength hfive
      rw [if_neg hlength, if_pos hfive, strtok_eq_segments]
      have hthree : 3 < (Text.segments '/' userName).length := by omega
      exact ⟨_, List.getElem_mem hthree, List.getElem?_eq_getElem hthree⟩
    · exact absurd rfl h

/-- A parsed client id is not empty and holds no slash. -/
theorem initConfig_clientId {b : Build} {g : Globals} {args : InitArgs} {config : Zconfig}
    (h : initConfig b g args = some config) :
    ∃ id, config.clientId = some id ∧ id ≠ [] ∧ '/' ∉ id := by
  unfold initConfig at h
  split at h
  · simp at h
  · simp only [] at h
    split at h
    · simp at h
    · rename_i hrc
      obtain ⟨id, hmem, hid⟩ := populateConfigObject_clientId hrc
      obtain ⟨hne, hslash⟩ := strtok_token hmem
      refine ⟨id, ?_, hne, hslash⟩
      split at h
      · obtain rfl := Option.some.inj h
        exact hid
      · obtain rfl := Option.some.inj h
        exact hid

/-! ## An initialised client -/

/-- The topics on which the client receives messages are those of its client id. -/
structure OwnTopics (c : ZohoIOTclient) : Prop where
  command : c.commandTopic = topicText (c.config.clientId.getD []) "/commands".toList
  config : c.configTopic = topicText (c.config.clientId.getD []) "/configsettings".toList

/-- A client that has its own topics listens to those of another one only if the ids are
equal. -/
theorem OwnTopics.listens_iff {c c' : ZohoIOTclient} (hc : OwnTopics c) (hc' : OwnTopics c')
    {topic : CString} (htopic : topic = c.commandTopic ∨ topic = c.configTopic) :
    topic = c'.commandTopic ∨ topic = c'.configTopic ↔
      c'.config.clientId.getD [] = c.config.clientId.getD [] := by
  rw [hc'.command, hc'.config]
  rcases htopic with rfl | rfl
  · rw [hc.command, topicText_inj, or_iff_left (commands_ne_configsettings _ _), eq_comm]
  · rw [hc.config, topicText_inj, or_iff_right (commands_ne_configsettings _ _).symm, eq_comm]

/-- If all topics fit, they are written in full. -/
theorem writeTopics_eq {clientId : CString}
    {writes : List ((ZohoIOTclient → CString → ZohoIOTclient) × CString)} {c : ZohoIOTclient}
    (h : (writeTopics clientId writes c).1 = true) : (writeTopics clientId writes c).2 =
      writes.foldl (fun c x => x.1 c (topicText clientId x.2)) c := by
  induction writes generalizing c with
  | nil => rfl
  | cons x writes ih =>
    simp only [writeTopics] at h ⊢
    split at h
    · simp at h
    · rename_i hlength
      rw [if_neg hlength, ih h, snprintf_topicText hlength, List.foldl_cons]

/-- The client once its topics have been written. -/
def writtenClient (config : Zconfig) (s : Sdk) : Bool × ZohoIOTclient :=
  writeTopics (config.clientId.getD []) topicWrites
    { s.client with zretryInterval := minRetryInterval }

/-- The initialisation after the configuration has been parsed. -/
theorem initSdk_of_config {b : Build} {args : InitArgs} {s : Sdk} {config : Zconfig}
    (h : initConfig b s.globals args = some config) (w : Answer) : initSdk b args w s =
      if (writtenClient config s).1 = false then
        (zfailure, { s with client := (writtenClient config s).2 })
      else initClient b args w config { s with client := (writtenClient config s).2 } := by
  rw [initSdk, h]
  rfl

/-- A `zclient_init` that succeeds has passed every check. -/
theorem initSdk_success {b : Build} {args : InitArgs} {w : Answer} {s : Sdk}
    (h : (initSdk b args w s).1 = zsuccess) :
    ∃ config, initConfig b s.globals args = some config ∧ (writtenClient config s).1 = true ∧
      (initCerts b s.globals args w (writtenClient config s).2.certs).1 = true ∧
      initSdk b args w s =
        initClient b args w config { s with client := (writtenClient config s).2 } := by
  cases hconfig : initConfig b s.globals args with
  | none =>
    rw [initSdk, hconfig] at h
    exact absurd h zfailure_ne_zsuccess
  | some config =>
    rw [initSdk_of_config hconfig] at h ⊢
    split at h
    · exact absurd h zfailure_ne_zsuccess
    · rename_i hfit
      refine ⟨config, rfl, eq_true_of_ne_false hfit, ?_, by rw [if_neg hfit]⟩
      unfold initClient at h
      simp only [] at h
      split at h
      · exact absurd h zfailure_ne_zsuccess
      · rename_i hcerts
        exact eq_true_of_ne_false hcerts

/-- The rest of the initialisation keeps the topics and the client id. -/
theorem initClient_topics (b : Build) (args : InitArgs) (w : Answer) (config : Zconfig) (s : Sdk) :
    (∀ kind : TopicKind,
      kind.topic (initClient b args w config s).2.client = kind.topic s.client) ∧
    (initClient b args w config s).2.client.config.clientId = config.clientId := by
  unfold initClient initFields
  simp only []
  split
  · exact ⟨fun kind => by cases kind <;> rfl, rfl⟩
  · split
    · exact ⟨fun kind => by cases kind <;> rfl, rfl⟩
    · exact ⟨fun kind => by cases kind <;> rfl, rfl⟩

/-- Each topic is written once, with its own suffix. -/
theorem topic_written (clientId : CString) (c : ZohoIOTclient) (kind : TopicKind) :
    kind.topic (topicWrites.foldl (fun c x => x.1 c (topicText clientId x.2)) c) =
      topicText clientId kind.suffix := by
  cases kind <;> rfl

/-- After a `zclient_init` that succeeds, the client id is one without a slash, and all six
topics are those of that id, in full. -/
theorem topics_of_init {b : Build} {args : InitArgs} {w : Answer} {s : Sdk}
    (h : (initSdk b args w s).1 = zsuccess) :
    ∃ id, (initSdk b args w s).2.client.config.clientId = some id ∧ id ≠ [] ∧ '/' ∉ id ∧
      ∀ kind : TopicKind, kind.topic (initSdk b args w s).2.client = topicText id kind.suffix := by
  obtain ⟨config, hconfig, hfit, -, heq⟩ := initSdk_success h
  obtain ⟨id, hid, hne, hslash⟩ := initConfig_clientId hconfig
  obtain ⟨htopics, hclientId⟩ :=
    initClient_topics b args w config { s with client := (writtenClient config s).2 }
  rw [heq]
  refine ⟨id, hclientId.trans hid, hne, hslash, fun kind => ?_⟩
  rw [htopics kind]
  show kind.topic (writtenClient config s).2 = _
  rw [show (writtenClient config s).2 = _ from writeTopics_eq hfit, topic_written, hid]
  rfl

/-- A client that is initialised has its own topics. -/
theorem ownTopics_of_init {b : Build} {args : InitArgs} {w : Answer} {s : Sdk}
    (h : (initSdk b args w s).1 = zsuccess) : OwnTopics (initSdk b args w s).2.client := by
  obtain ⟨id, hid, -, -, htopics⟩ := topics_of_init h
  constructor
  · rw [hid]
    exact htopics .command
  · rw [hid]
    exact htopics .config

/-- For every pair of successful `zclient_init` calls: each of the six topics of either client
is `/devices/`, the client id and its suffix, in full, and a topic of the one client equals a
topic of the other only if the client ids and the kinds of topic are equal. -/
theorem topics_identify_client (b b' : Build) {args args' : InitArgs} {s₁ s₁' s₂ s₂' : Sdk}
    {es es' : List Effect} (h : (zclientInit b args).Exec s₁ zsuccess es s₁')
    (h' : (zclientInit b' args').Exec s₂ zsuccess es' s₂') :
    ∃ id id', s₁'.client.config.clientId = some id ∧ s₂'.client.config.clientId = some id' ∧
      (∀ kind : TopicKind,
        kind.topic s₁'.client = "/devices/".toList ++ id ++ kind.suffix ∧
        kind.topic s₂'.client = "/devices/".toList ++ id' ++ kind.suffix) ∧
      ∀ kind kind' : TopicKind,
        kind.topic s₁'.client = kind'.topic s₂'.client ↔ id = id' ∧ kind = kind' := by
  obtain ⟨w, _, -, hrc, -, rfl⟩ := h
  obtain ⟨w', _, -, hrc', -, rfl⟩ := h'
  obtain ⟨id, hid, -, hslash, htopics⟩ := topics_of_init hrc.symm
  obtain ⟨id', hid', -, hslash', htopics'⟩ := topics_of_init hrc'.symm
  have htext : ∀ id suffix, topicText id suffix = "/devices/".toList ++ id ++ suffix := by
    intro id suffix
    rw [List.append_assoc]
    rfl
  refine ⟨id, id', hid, hid', fun kind => ⟨?_, ?_⟩, fun kind kind' => ?_⟩
  · exact (htopics kind).trans (htext _ _)
  · exact (htopics' kind).trans (htext _ _)
  · rw [htopics kind, htopics' kind']
    exact topicText_eq_iff hslash hslash' kind kind'

/-- The credentials of a device. -/
def deviceArgs (device : ℕ) : InitArgs :=
  { sampleArgs with
    mqttUserName :=
      some ("host/v1/devices/".toList ++ Nat.toDigits 10 device ++ "/connect".toList) }

/-- The command topic of device 7 is not the telemetry topic of device 70. -/
theorem topics_identify_devices : ∃ s s' : Sdk,
    (zclientInit embeddedBuild (deviceArgs 7)).Exec {} zsuccess [.init zsuccess] s ∧
    (zclientInit embeddedBuild (deviceArgs 70)).Exec {} zsuccess [.init zsuccess] s' ∧
    s.client.commandTopic = "/devices/7/commands".toList ∧
    s.client.commandTopic ≠ s'.client.dataTopic := by
  have hinit : ∀ device, (initSdk embeddedBuild (deviceArgs device) {} {}).1 = zsuccess →
      (zclientInit embeddedBuild (deviceArgs device)).Exec {} zsuccess [.init zsuccess]
        (initSdk embeddedBuild (deviceArgs device) {} {}).2 := by
    intro device hrc
    exact ⟨{}, [], by rw [← hrc]; rfl, hrc.symm, rfl, rfl⟩
  have h := hinit 7 (by decide +kernel)
  have h' := hinit 70 (by decide +kernel)
  obtain ⟨id, id', hid, -, htopics, hiff⟩ := topics_identify_client _ _ h h'
  have hid7 : (initSdk embeddedBuild (deviceArgs 7) {} {}).2.client.config.clientId =
      some "7".toList := by decide +kernel
  obtain rfl : id = "7".toList := Option.some.inj (hid.symm.trans hid7)
  refine ⟨_, _, h, h', (htopics .command).1.trans ?_, fun heq => ?_⟩
  · decide
  · have hkind := ((hiff .command .data).mp heq).2
    exact absurd hkind (by decide)

end ZohoIotSdk
