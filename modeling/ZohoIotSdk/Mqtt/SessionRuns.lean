import ZohoIotSdk.Atomic.Monitor
import ZohoIotSdk.Mqtt.SessionCalls

/-!
# Whole runs of a client

Any number of calls of an application, one after the other, from `MQTTClientInit` on, whatever the
network does. Every run is a path of the moves of a session (`runs_path`), so that a property of the
runs needs a proof for each kind of move only. The send buffer is shorter than 2^28 bytes throughout,
so that a length field of four bytes is enough for every packet.

`packetIds_eq`: the packet ids count from 2 to 65535, and then from 1 on.
`pingreq_alternates`: no PINGREQ is sent while another one is unanswered.
-/

namespace ZohoIotSdk.Paho

open Atomic (Follows Monitored Path Prog Runs)
open Machine

variable {P : Prop} {a b : Session} {c s s' : Client} {tr tr' es : List Event} {turns : ℕ}

/-! ## The calls of an application -/

/-- A call of an application, once `MQTTConnect` has returned. -/
inductive Call where
  | yield (timeoutMs : ℕ)
  | setMessageHandler (topicFilter : List UInt8) (fp : Option ℕ)
  | subscribe (topicFilter : List UInt8) (qos : ℕ) (fp : Option ℕ)
  | unsubscribe (topicFilter : List UInt8)
  | publish (topicName : CString) (message : OutgoingMessage)
  | disconnect

def Call.program (turns : ℕ) : Call → ClientM ℤ
  | .yield timeoutMs => mqttYield turns timeoutMs
  | .setMessageHandler topicFilter fp => mqttSetMessageHandler topicFilter fp
  | .subscribe topicFilter qos fp => mqttSubscribe turns topicFilter qos fp
  | .unsubscribe topicFilter => mqttUnsubscribe turns topicFilter
  | .publish topicName message => mqttPublish turns topicName message
  | .disconnect => mqttDisconnect turns

/-- The quality of service of a message is one of the three levels. -/
def Call.Valid : Call → Prop
  | .publish _ message => message.qos < 3
  | _ => True

/-- Every call makes moves of the session; nothing has gone wrong if it succeeds or leaves the
session open. -/
theorem wlp_call (hsize : c.buf.length < 2 ^ 28) {call : Call} (hvalid : call.Valid) :
    (call.program turns).wlp (fun rc s tr' =>
      CallMoves (Whole tr' ∧ (0 ≤ rc ∨ s.isconnected = true)) c tr s tr') c tr := by
  cases call with
  | yield timeoutMs => exact Prog.wlp_mono (wlp_mqttYield timeoutMs) fun _ _ _ h => h.call
  | setMessageHandler topicFilter fp =>
    exact Prog.wlp_mono (wlp_mqttSetMessageHandler topicFilter fp) fun _ _ _ h =>
      (h.2 : CallMoves True c tr _ _).weaken fun _ => trivial
  | subscribe topicFilter qos fp =>
    exact Prog.wlp_mono (wlp_mqttSubscribe hsize topicFilter qos fp) fun _ _ _ h => h.moves
  | unsubscribe topicFilter =>
    exact Prog.wlp_mono (wlp_mqttUnsubscribe hsize topicFilter) fun _ _ _ h => h.moves
  | publish topicName message =>
    exact Prog.wlp_mono (wlp_mqttPublish hsize topicName hvalid) fun _ _ _ h => h.moves
  | disconnect => exact Prog.wlp_mono (wlp_mqttDisconnect hsize) fun _ _ _ h => h.1

/-- One of the calls, or `MQTTConnect`. -/
inductive IsCall : ClientM Unit → Prop
  | call (turns : ℕ) {call : Call} (hvalid : call.Valid) :
      IsCall (do let _ ← call.program turns; pure ())
  | connect (turns : ℕ) {options : ConnectData} (hoptions : options.Fits) :
      IsCall (do let _ ← mqttConnect turns options; pure ())

theorem CallMove.bufSize (h : CallMove P a es b) : b.bufSize = a.bufSize := by
  cases h with
  | move hmove =>
    cases hmove with
    | noted _ _ _ =>
      rw [Session.noted]
      split_ifs <;> rfl
    | _ => rfl
  | _ => rfl

theorem SessionMove.bufSize (h : SessionMove P a es b) : b.bufSize = a.bufSize := by
  cases h with
  | call hmove => exact hmove.bufSize
  | _ => rfl

theorem SessionMoves.bufSize (h : SessionMoves P c tr s tr') : s.buf.length = c.buf.length := by
  obtain ⟨es, -, hpath⟩ := h
  exact hpath.invariant (I := fun b _ => b.bufSize = c.buf.length)
    (fun _ _ _ _ hI hmove => hmove.bufSize.trans hI) rfl

/-- Every run is a path of the moves of a session. -/
theorem runs_moves (hsize : c.buf.length < 2 ^ 28) (h : Runs IsCall c tr s) :
    SessionMoves False c [] s tr := by
  induction h with
  | nil => exact Follows.refl
  | snoc before hp last ih =>
    have hsize' := ih.bufSize ▸ hsize
    rename_i s₁ s₂ tr₁ es p
    suffices hlast : p.wlp (fun _ s' tr' => SessionMoves False s₁ tr₁ s' tr') s₁ tr₁ from
      ih.trans (Prog.wlp_iff.mp hlast _ _ _ last)
    cases hp with
    | call turns hvalid =>
      rw [Prog.wlp_bind]
      exact Prog.wlp_mono (wlp_call hsize' hvalid) fun _ _ _ h => h.session.weaken False.elim
    | connect turns hoptions =>
      rw [Prog.wlp_bind]
      exact Prog.wlp_mono (wlp_mqttConnect hsize' hoptions) fun _ _ _ h =>
        h.moves.weaken False.elim

/-- A run of calls is a path of the session. -/
theorem runs_path (hsize : c.buf.length < 2 ^ 28) (h : Runs IsCall c tr s) :
    Path (SessionMove False) c.session tr s.session := by
  obtain ⟨es, htr, hpath⟩ := runs_moves hsize h
  rw [List.nil_append] at htr
  rwa [htr]

/-! ## Sessions -/

/-- `MQTTConnect`, and any calls after it. -/
inductive SessionRun (c : Client) : List Event → Client → Prop
  | connect {turns : ℕ} {options : ConnectData} {rc : ℤ} {s : Client} {tr : List Event}
      (hoptions : options.Fits) (hexec : (mqttConnect turns options).Exec c rc tr s) :
      SessionRun c tr s
  | call {turns : ℕ} {call : Call} {rc : ℤ} {s s' : Client} {tr es : List Event}
      (before : SessionRun c tr s) (hvalid : call.Valid)
      (hexec : (call.program turns).Exec s rc es s') : SessionRun c (tr ++ es) s'

/-- A run of a session is a run of its calls. -/
theorem SessionRun.runs (h : SessionRun c tr s) : Runs IsCall c tr s := by
  have hunit : ∀ {p : ClientM ℤ} {rc : ℤ} {s s' : Client} {es : List Event}, p.Exec s rc es s' →
      Prog.Exec (do let _ ← p; pure ()) s () es s' := by
    intro p rc s s' es hexec
    exact Prog.exec_bind.mpr ⟨rc, es, s', [], hexec, ⟨rfl, rfl, rfl⟩, (List.append_nil es).symm⟩
  induction h with
  | connect hoptions hexec => exact (Runs.nil _).snoc (.connect _ hoptions) (hunit hexec)
  | call _ hvalid hexec ih => exact ih.snoc (.call _ hvalid) (hunit hexec)

instance (call : Call) : Decidable call.Valid :=
  match call with
  | .publish _ message => inferInstanceAs (Decidable (message.qos < 3))
  | .yield _ => isTrue trivial
  | .setMessageHandler _ _ => isTrue trivial
  | .subscribe _ _ _ => isTrue trivial
  | .unsubscribe _ => isTrue trivial
  | .disconnect => isTrue trivial

/-- Calls on listed answers, behind a trace. -/
def runCalls (turns : ℕ) : List (Call × List Reply) → List Event × Client →
    Option (List Event × Client)
  | [], state => some state
  | (call, ws) :: rest, (tr, s) =>
    ((call.program turns).run ws s).bind fun (_, es, s') => runCalls turns rest (tr ++ es, s')

/-- `MQTTConnect` and calls after it, on listed answers. -/
def runSession (turns : ℕ) (options : ConnectData) (ws : List Reply)
    (calls : List (Call × List Reply)) (c : Client) : Option (List Event × Client) :=
  ((mqttConnect turns options).run ws c).bind fun (_, tr, s) => runCalls turns calls (tr, s)

/-- The calls that are computed are a run of the session. -/
theorem sessionRun_of_runCalls {calls : List (Call × List Reply)} (h : SessionRun c tr s)
    (hvalid : ∀ x ∈ calls, x.1.Valid) (hrun : runCalls turns calls (tr, s) = some (tr', s')) :
    SessionRun c tr' s' := by
  induction calls generalizing tr s with
  | nil =>
    rw [runCalls, Option.some_inj, Prod.mk.injEq] at hrun
    rwa [← hrun.1, ← hrun.2]
  | cons x calls ih =>
    rw [List.forall_mem_cons] at hvalid
    rw [runCalls] at hrun
    obtain ⟨⟨rc, es, s₁⟩, hcall, hrest⟩ := Option.bind_eq_some_iff.mp hrun
    exact ih (h.call hvalid.1 (Prog.exec_of_run hcall)) hvalid.2 hrest

/-- A test on the session that listed answers lead to, which evaluation can decide. -/
theorem exists_sessionRun {turns : ℕ} {options : ConnectData} {ws : List Reply}
    {calls : List (Call × List Reply)} {test : List Event × Client → Bool}
    (h : (runSession turns options ws calls c).any test = true) (hoptions : options.Fits)
    (hvalid : ∀ x ∈ calls, x.1.Valid) :
    ∃ tr s, SessionRun c tr s ∧ test (tr, s) = true := by
  obtain ⟨⟨tr, s⟩, hrun, htest⟩ := (Option.any_eq_true _ _).mp h
  obtain ⟨⟨rc, tr₁, s₁⟩, hconnect, hcalls⟩ := Option.bind_eq_some_iff.mp hrun
  exact ⟨tr, s, sessionRun_of_runCalls (.connect hoptions (Prog.exec_of_run hconnect)) hvalid hcalls,
    htest⟩

/-- A client with buffers of 32 bytes. -/
def smallClient : Client := mqttClientInit 1000 (List.replicate 32 0) (List.replicate 32 0)

/-- Answers of a connection that takes every packet, and on which nothing arrives. -/
def taking (n : ℕ) : List Reply := List.replicate n { count := 32 }

/-- A packet of two parts arrives in between. -/
def arriving (before : ℕ) (header : UInt8) (body : List UInt8) : List Reply :=
  taking before ++ [{ data := [header] }, { data := [UInt8.ofNat body.length] }] ++ taking 2 ++
    [{ data := body }] ++ taking 8

/-- The answers that let `MQTTConnect` succeed. -/
def connackReplies : List Reply := arriving 12 0x20 [0, 0]

/-- A call that is answered. -/
def answeredPublish : Call × List Reply :=
  (.publish ['a'] { qos := 1, payload := ['b'] }, arriving 12 0x40 [0, 2])

/-- A subscription that is granted. -/
def grantedSubscribe : Call × List Reply :=
  (.subscribe [97] 1 (some 7), arriving 12 0x90 [0, 2, 1])

/-! ## What a trace shows -/

/-- The packets that have been sent. -/
def sentPackets (tr : List Event) : List (List UInt8) :=
  tr.flatMap fun
    | .sent packet => [packet]
    | _ => []

/-- The packets that have been received. -/
def receivedPackets (tr : List Event) : List (UInt8 × List UInt8) :=
  tr.flatMap fun
    | .received h body => [(h, body)]
    | _ => []

/-- The packet ids that have been handed out. -/
def packetIds (tr : List Event) : List ℕ :=
  tr.flatMap fun
    | .packetId id => [id]
    | _ => []

/-- The events of a move that does not close the session. -/
inductive MoveEvent : Event → Prop
  | read (site : ReadSite) (asked : ℕ) (data : List UInt8) : MoveEvent (.read site asked data)
  | wrote (data : List UInt8) : MoveEvent (.wrote data)
  | received (h : UInt8) (body : List UInt8) : MoveEvent (.received h body)
  | handler (fp : ℕ) (topicName : List UInt8) (message : Message) :
      MoveEvent (.handler fp topicName message)
  | answer (data : PublishData) : MoveEvent (.sent data.answer)
  | pingreq : MoveEvent (.sent pingreqPacket)

theorem ReadsOnly.event (h : ReadsOnly es) : ∀ e ∈ es, MoveEvent e := by
  intro e he
  obtain ⟨site, asked, data, rfl⟩ := h e he
  exact .read ..

theorem writes_event (pieces : List (List UInt8)) : ∀ e ∈ writes pieces, MoveEvent e := by
  intro e he
  obtain ⟨data, -, rfl⟩ := List.mem_map.mp he
  exact .wrote data

theorem deliveries_event (a : Session) (data : PublishData) :
    ∀ e ∈ a.deliveries data, MoveEvent e := by
  intro e he
  obtain ⟨fp, -, rfl⟩ := List.mem_map.mp he
  exact .handler ..

/-- A move closes the session, or leaves it open if it is open. -/
theorem Move.event (h : Move P a es b) :
    (es = [.closed] ∧ b = a.close) ∨
      ((∀ e ∈ es, MoveEvent e) ∧ b.isconnected = a.isconnected) := by
  have hone : ∀ {e}, MoveEvent e → ∀ e' ∈ [e], MoveEvent e' := by
    intro e he e' he'
    rwa [List.mem_singleton.mp he']
  have happend : ∀ {es es' : List Event}, (∀ e ∈ es, MoveEvent e) → (∀ e ∈ es', MoveEvent e) →
      ∀ e ∈ es ++ es', MoveEvent e := fun h h' => List.forall_mem_append.mpr ⟨h, h'⟩
  cases h with
  | idle => exact .inr ⟨hone (.read ..), rfl⟩
  | lost _ _ hes => exact .inr ⟨hes.event, rfl⟩
  | noted _ hes =>
    refine .inr ⟨happend hes.1.event (hone (.received ..)), ?_⟩
    rw [Session.noted]
    split_ifs <;> rfl
  | delivered _ hes =>
    exact .inr ⟨happend (happend hes.1.event (hone (.received ..))) (deliveries_event _ _), rfl⟩
  | acknowledged _ hes =>
    exact .inr ⟨happend (happend hes.1.event (hone (.received ..)))
      (happend (happend (deliveries_event _ _) (writes_event _)) (hone (.answer _))), rfl⟩
  | unanswered pieces _ _ hes =>
    exact .inr ⟨happend (happend hes.1.event (hone (.received ..)))
      (happend (deliveries_event _ _) (writes_event _)), rfl⟩
  | pinged => exact .inr ⟨happend (writes_event _) (hone .pingreq), rfl⟩
  | unsent => exact .inr ⟨writes_event _, rfl⟩
  | closed => exact .inl ⟨rfl, rfl⟩

/-! ## Packet ids -/

/-- The packet id that is handed out after `i` others. -/
def idAt (i : ℕ) : ℕ := (i + 1) % 65535 + 1

/-- The moves within a call draw no packet id. -/
theorem Move.no_packetIds (h : Move P a es b) : packetIds es = [] := by
  rcases h.event with ⟨rfl, -⟩ | ⟨hevents, -⟩
  · rfl
  · refine List.flatMap_eq_nil_iff.mpr fun e he => ?_
    cases hevents e he <;> rfl

theorem Move.nextPacketid_eq (h : Move P a es b) : b.nextPacketid = a.nextPacketid := by
  cases h with
  | noted _ _ _ =>
    rw [Session.noted]
    split_ifs <;> rfl
  | _ => rfl

/-- The ids of a trace, and where the counter stands after them. -/
def Counts (b : Session) (tr : List Event) : Prop :=
  packetIds tr = (List.range (packetIds tr).length).map idAt ∧
    b.nextPacketid = (packetIds tr).length % 65535 + 1

/-- One move of the session keeps the count of packet ids. -/
theorem Counts.move (h : Counts a tr) (hmove : SessionMove P a es b) : Counts b (tr ++ es) := by
  have hsame : packetIds es = [] → b.nextPacketid = a.nextPacketid → Counts b (tr ++ es) := by
    intro hes hb
    have htr : packetIds (tr ++ es) = packetIds tr := by
      rw [packetIds, List.flatMap_append, ← packetIds, ← packetIds, hes, List.append_nil]
    rw [Counts, htr, hb]
    exact h
  cases hmove with
  | call hcall =>
    cases hcall with
    | move hmove => exact hsame hmove.no_packetIds hmove.nextPacketid_eq
    | packetId =>
      obtain ⟨hids, hnext⟩ := h
      have hid : a.nextId = idAt (packetIds tr).length := by
        rw [Session.nextId, idAt, hnext]
        split_ifs <;> omega
      have htr : packetIds (tr ++ [.packetId a.nextId]) = packetIds tr ++ [a.nextId] :=
        List.flatMap_append
      refine ⟨?_, ?_⟩
      · rw [htr, List.length_append, List.length_singleton, List.range_succ, List.map_append, ← hids,
          hid]
        rfl
      · show a.nextId = _
        rw [htr, hid, List.length_append, List.length_singleton, idAt]
    | @sent _ _ _ pieces =>
      refine hsame (List.flatMap_eq_nil_iff.mpr fun e he => ?_) rfl
      rcases List.mem_append.mp he with he | he
      · cases writes_event pieces e he <;> rfl
      · rw [List.mem_singleton.mp he]
    | handler => exact hsame rfl rfl
  | options => exact hsame rfl rfl
  | opened => exact hsame rfl rfl

/-- The packet ids of a run: they count from 2 to 65535, then from 1 on, and none is 0. -/
theorem packetIds_eq {commandTimeoutMs : ℕ} {sendbuf readbuf : List UInt8}
    (hsize : sendbuf.length < 2 ^ 28)
    (h : Runs IsCall (mqttClientInit commandTimeoutMs sendbuf readbuf) tr s) :
    packetIds tr = (List.range (packetIds tr).length).map idAt := by
  have hcounts := (runs_path hsize h).invariant (I := Counts)
    (fun _ _ _ _ hI hmove => hI.move hmove) ⟨rfl, rfl⟩
  exact hcounts.1

theorem packetIds_two : ∃ tr, packetIds tr = [2, 3] ∧
    packetIds tr = (List.range (packetIds tr).length).map idAt := by
  have htest : (runSession 3 {} connackReplies [answeredPublish, answeredPublish] smallClient).any
      (fun x => packetIds x.1 = [2, 3]) = true := by decide +kernel
  obtain ⟨tr, s, h, hids⟩ := exists_sessionRun htest fits_default (by decide)
  exact ⟨tr, of_decide_eq_true hids, packetIds_eq (by decide) h.runs⟩

/-! ## PINGREQ and PINGRESP -/

/-- Is a PINGREQ unanswered behind the event? -/
def pingStep (outstanding : Bool) : Event → Bool
  | .sent packet => outstanding || packet = pingreqPacket
  | .received h _ => outstanding && (MqttHeader.bits h).type ≠ MsgType.pingresp.toNat
  | .closed => false
  | .connected => false
  | _ => outstanding

/-- Has a PINGREQ been sent since the last PINGRESP, and since the session was opened? -/
def pingAwaited (tr : List Event) : Bool := tr.foldl pingStep false

/-- PINGREQ is sent only where none is unanswered. -/
def PingAllowed (outstanding : Bool) (e : Event) : Prop :=
  e = .sent pingreqPacket → outstanding = false

theorem pingAllowed_of_ne {x : Bool} {e : Event} (h : e ≠ .sent pingreqPacket) :
    PingAllowed x e := fun heq => absurd heq h

/-- The header byte tells a packet from PINGREQ. -/
theorem ne_pingreqPacket {packet : List UInt8}
    (h : (MqttHeader.bits (packet.headD 0)).type ≠ MsgType.pingreq.toNat) :
    packet ≠ pingreqPacket := by
  rintro rfl
  exact h rfl

theorem answer_ne_pingreqPacket (data : PublishData) : data.answer ≠ pingreqPacket := by
  apply ne_pingreqPacket
  unfold PublishData.answer
  split_ifs
  · show (MqttHeader.bits (MqttHeader.byte { type := MsgType.puback.toNat })).type ≠ _
    decide
  · show (MqttHeader.bits (MqttHeader.byte { type := MsgType.pubrec.toNat })).type ≠ _
    decide

theorem IsPacket.ne_pingreqPacket {size qos : ℕ} {type : MsgType} {packet : List UInt8}
    (h : IsPacket size type qos packet) (htype : type ∈ requests) : packet ≠ pingreqPacket := by
  obtain ⟨header, body, rfl, -, hheader, -⟩ := h
  apply Paho.ne_pingreqPacket
  show (MqttHeader.bits header).type ≠ _
  rw [hheader]
  revert htype
  cases type <;> decide

/-- Sending another packet leaves the ping as it is. -/
theorem ping_sent {packet : List UInt8} (h : packet ≠ pingreqPacket) (x : Bool) :
    pingStep x (.sent packet) = x ∧ PingAllowed x (.sent packet) := by
  refine ⟨?_, fun heq => absurd (Event.sent.inj heq) h⟩
  rw [pingStep, decide_eq_false h, Bool.or_false]

theorem ping_reads (h : ReadsOnly es) (x : Bool) : Monitored pingStep PingAllowed x es x := by
  refine .quiet fun e he => ?_
  obtain ⟨site, asked, data, rfl⟩ := h e he
  exact ⟨rfl, pingAllowed_of_ne Event.noConfusion⟩

theorem ping_writes (pieces : List (List UInt8)) (x : Bool) :
    Monitored pingStep PingAllowed x (writes pieces) x := by
  refine .quiet fun e he => ?_
  obtain ⟨data, -, rfl⟩ := List.mem_map.mp he
  exact ⟨rfl, pingAllowed_of_ne Event.noConfusion⟩

theorem ping_deliveries (a : Session) (data : PublishData) (x : Bool) :
    Monitored pingStep PingAllowed x (a.deliveries data) x := by
  refine .quiet fun e he => ?_
  obtain ⟨fp, -, rfl⟩ := List.mem_map.mp he
  exact ⟨rfl, pingAllowed_of_ne Event.noConfusion⟩

/-- A message that has been received. -/
theorem ping_message {h : UInt8} {body : List UInt8} {data : PublishData} (hreads : ReadsOnly es)
    (hdata : Holds h body data) (x : Bool) :
    Monitored pingStep PingAllowed x (es ++ [.received h body]) x := by
  refine (ping_reads hreads x).append (.quiet fun e he => ?_)
  rw [List.mem_singleton.mp he, pingStep, hdata.1]
  exact ⟨Bool.and_true x, pingAllowed_of_ne Event.noConfusion⟩

/-- One move keeps the PINGREQ packets apart. -/
theorem Move.pings (hmove : Move P a es b) :
    Monitored pingStep PingAllowed a.pingOutstanding es b.pingOutstanding := by
  cases hmove with
  | idle => exact ping_reads (readsOnly_singleton _ _ _) _
  | lost _ _ hes => exact ping_reads hes _
  | @noted reads header body _ hes =>
    have hstep : pingStep a.pingOutstanding (.received header body) =
        (a.noted header).pingOutstanding := by
      rw [Session.noted, pingStep]
      split_ifs with htype
      · rw [decide_eq_false (not_not.mpr htype), Bool.and_false]
      · rw [decide_eq_true htype, Bool.and_true]
    rw [← hstep]
    exact (ping_reads hes.1 _).append (.single (pingAllowed_of_ne Event.noConfusion))
  | delivered _ hes hdata =>
    exact (ping_message hes.1 hdata _).append (ping_deliveries _ _ _)
  | @acknowledged _ _ _ data pieces _ hes hdata =>
    refine (ping_message hes.1 hdata _).append
      (((ping_deliveries _ _ _).append (ping_writes pieces _)).append (.quiet fun e he => ?_))
    rw [List.mem_singleton.mp he]
    exact ping_sent (answer_ne_pingreqPacket data) _
  | unanswered pieces _ _ hes hdata =>
    exact (ping_message hes.1 hdata _).append
      ((ping_deliveries _ _ _).append (ping_writes pieces _))
  | @pinged pieces _ hping =>
    have hstep : pingStep a.pingOutstanding (.sent pingreqPacket) = true := by
      rw [pingStep, decide_eq_true rfl, Bool.or_true]
    show Monitored _ _ _ _ true
    rw [← hstep]
    exact (ping_writes pieces _).append (.single fun _ => hping)
  | unsent pieces => exact ping_writes pieces _
  | closed => exact .single (pingAllowed_of_ne Event.noConfusion)

/-- One move of the session keeps the PINGREQ packets apart. -/
theorem SessionMove.pings (hmove : SessionMove P a es b) :
    Monitored pingStep PingAllowed a.pingOutstanding es b.pingOutstanding := by
  cases hmove with
  | call hcall =>
    cases hcall with
    | move hmove => exact hmove.pings
    | packetId => exact .single (pingAllowed_of_ne Event.noConfusion)
    | @sent _ _ _ pieces _ htype _ hpacket =>
      refine (ping_writes pieces _).append (.quiet fun e he => ?_)
      rw [List.mem_singleton.mp he]
      exact ping_sent (hpacket.ne_pingreqPacket htype) _
    | handler => exact .nil _
  | options => exact .nil _
  | opened => exact .single (pingAllowed_of_ne Event.noConfusion)

/-- Where nothing answers a PINGREQ, it stays unanswered. -/
theorem pingAwaited_of_unanswered {between : List Event}
    (h : ∀ e ∈ between, pingStep true e = true) :
    pingAwaited (tr ++ [.sent pingreqPacket] ++ between) = true := by
  have hsent : pingAwaited (tr ++ [.sent pingreqPacket]) = true := by
    rw [pingAwaited, List.foldl_append]
    show (_ || decide _) = true
    rw [decide_eq_true rfl, Bool.or_true]
  rw [pingAwaited, List.foldl_append]
  show between.foldl pingStep (pingAwaited _) = true
  rw [hsent]
  have hquiet : Monitored pingStep (fun _ _ => True) true between true :=
    .quiet fun e he => ⟨h e he, trivial⟩
  exact hquiet.ends

/-- PINGREQ and PINGRESP in a run: `ping_outstanding` tells whether a PINGREQ is unanswered, and
between two that are sent a PINGRESP has been received, or the session has been closed or opened. -/
theorem pingreq_alternates {commandTimeoutMs : ℕ} {sendbuf readbuf : List UInt8}
    (hsize : sendbuf.length < 2 ^ 28)
    (h : Runs IsCall (mqttClientInit commandTimeoutMs sendbuf readbuf) tr s) :
    s.pingOutstanding = pingAwaited tr ∧
      ∀ before between after,
        tr = before ++ [.sent pingreqPacket] ++ between ++ [.sent pingreqPacket] ++ after →
        ∃ e ∈ between, e = .closed ∨ e = .connected ∨ ∃ header body, e = .received header body ∧
          (MqttHeader.bits header).type = MsgType.pingresp.toNat := by
  have hpings := (runs_path hsize h).monitored fun _ _ _ hmove => hmove.pings
  refine ⟨hpings.ends.symm, fun before between after htr => ?_⟩
  have hfalse : pingAwaited (before ++ [.sent pingreqPacket] ++ between) = false :=
    hpings.allowed (before ++ [Event.sent pingreqPacket] ++ between)
      (.sent pingreqPacket) (by rw [htr]; exact List.prefix_append ..) rfl
  by_contra hnone
  push Not at hnone
  rw [pingAwaited_of_unanswered fun e he => ?_] at hfalse
  · exact absurd hfalse (by decide)
  · obtain ⟨hclosed, hconnected, hpong⟩ := hnone e he
    cases e with
    | closed => exact absurd rfl hclosed
    | connected => exact absurd rfl hconnected
    | received header body =>
      rw [pingStep, Bool.true_and]
      exact decide_eq_true (hpong header body rfl)
    | _ => rfl

/-- Nothing arrives until a keep-alive interval is over. -/
def silence (start stop : ℕ) : Call × List Reply :=
  (.yield 1000, { now := start, count := 32 } :: List.replicate 20 { now := stop, count := 32 })

/-- A PINGRESP arrives, and nothing else. -/
def arrivingPong : Call × List Reply :=
  (.yield 1000, List.replicate 2 { now := 61000000, count := 32 } ++
    [{ now := 61000000, data := [0xD0] }, { now := 61000000, data := [0] }] ++
    List.replicate 20 { now := 63000000, count := 32 })

/-- A PINGREQ that is answered, and a second one that is not. -/
theorem pingreq_unanswered : ∃ tr, ∃ s : Client,
    (tr.filter fun e => e = .sent pingreqPacket ∨ e = .received 0xD0 []) =
      [.sent pingreqPacket, .received 0xD0 [], .sent pingreqPacket] ∧
    s.pingOutstanding = true ∧
    s.pingOutstanding = pingAwaited tr ∧
    ∀ before between after,
      tr = before ++ [.sent pingreqPacket] ++ between ++ [.sent pingreqPacket] ++ after →
      ∃ e ∈ between, e = .closed ∨ e = .connected ∨ ∃ header body, e = .received header body ∧
        (MqttHeader.bits header).type = MsgType.pingresp.toNat := by
  have htest : (runSession 3 {} connackReplies
      [silence 0 61000000, arrivingPong, silence 64000000 130000000] smallClient).any
      (fun x => (x.1.filter fun e => e = .sent pingreqPacket ∨ e = .received 0xD0 []) =
        [.sent pingreqPacket, .received 0xD0 [], .sent pingreqPacket] ∧
        x.2.pingOutstanding = true) = true := by decide +kernel
  obtain ⟨tr, s, h, hboth⟩ := exists_sessionRun htest fits_default (by decide)
  obtain ⟨hpings, houtstanding⟩ := of_decide_eq_true hboth
  exact ⟨tr, s, hpings, houtstanding, pingreq_alternates (by decide) h.runs⟩

/-! ## Requests and sessions -/

/-- Is the session open behind the event? -/
def openStep (isOpen : Bool) : Event → Bool
  | .connected => true
  | .closed => false
  | _ => isOpen

/-- Is the packet a PUBLISH, SUBSCRIBE or UNSUBSCRIBE packet? -/
def isSessionRequest (packet : List UInt8) : Bool :=
  sessionRequests.any fun type => (MqttHeader.bits (packet.headD 0)).type = type.toNat

def OpenAllowed (isOpen : Bool) : Event → Prop
  | .sent packet => isSessionRequest packet = true → isOpen = true
  | _ => True

theorem isSessionRequest_answer (data : PublishData) : isSessionRequest data.answer = false := by
  unfold PublishData.answer
  split_ifs
  · show sessionRequests.any (fun type => (MqttHeader.bits
      (MqttHeader.byte { type := MsgType.puback.toNat })).type = type.toNat) = false
    decide
  · show sessionRequests.any (fun type => (MqttHeader.bits
      (MqttHeader.byte { type := MsgType.pubrec.toNat })).type = type.toNat) = false
    decide

theorem isSessionRequest_pingreqPacket : isSessionRequest pingreqPacket = false := by
  show sessionRequests.any (fun type => (MqttHeader.bits
    (MqttHeader.byte { type := MsgType.pingreq.toNat })).type = type.toNat) = false
  decide

/-- A request of the session is a packet of one of these types. -/
theorem IsPacket.isSessionRequest {size qos : ℕ} {type : MsgType} {packet : List UInt8}
    (h : IsPacket size type qos packet) (hrequest : Paho.isSessionRequest packet = true) :
    type ∈ sessionRequests := by
  obtain ⟨header, body, rfl, -, hheader, -⟩ := h
  have hany : sessionRequests.any (fun t => (MqttHeader.bits header).type = t.toNat) = true :=
    hrequest
  rw [hheader] at hany
  revert hany
  cases type <;> decide

/-- The events within a call neither open the session nor send a request. -/
theorem MoveEvent.opens {e : Event} (h : MoveEvent e) (x : Bool) :
    openStep x e = x ∧ OpenAllowed x e := by
  cases h with
  | answer data =>
    refine ⟨rfl, fun hrequest => ?_⟩
    rw [isSessionRequest_answer] at hrequest
    exact absurd hrequest Bool.false_ne_true
  | pingreq =>
    refine ⟨rfl, fun hrequest => ?_⟩
    rw [isSessionRequest_pingreqPacket] at hrequest
    exact absurd hrequest Bool.false_ne_true
  | _ => exact ⟨rfl, trivial⟩

/-- One move of the session sends requests in an open session only. -/
theorem SessionMove.opens (hmove : SessionMove P a es b) :
    Monitored openStep OpenAllowed a.isconnected es b.isconnected := by
  cases hmove with
  | call hcall =>
    cases hcall with
    | move hmove =>
      rcases hmove.event with ⟨rfl, rfl⟩ | ⟨hevents, hb⟩
      · exact .single trivial
      · rw [hb]
        exact .quiet fun e he => (hevents e he).opens _
    | packetId => exact .single trivial
    | @sent type qos packet pieces _ _ hopen hpacket =>
      have hwrites : Monitored openStep OpenAllowed a.isconnected (writes pieces) a.isconnected :=
        .quiet fun e he => (writes_event pieces e he).opens _
      exact hwrites.append (.single fun hrequest => hopen (hpacket.isSessionRequest hrequest))
    | handler => exact .nil _
  | options => exact .nil _
  | opened => exact .single trivial

/-- The last event that opens or closes a session. -/
theorem foldl_openStep_iff : tr.foldl openStep false = true ↔
    ∃ before between, tr = before ++ [.connected] ++ between ∧ .closed ∉ between := by
  constructor
  · intro h
    induction tr using List.reverseRecOn with
    | nil => exact absurd h Bool.false_ne_true
    | append_singleton tr e ih =>
      rw [List.foldl_append] at h
      have hkept : openStep (tr.foldl openStep false) e = tr.foldl openStep false → e ≠ .closed →
          ∃ before between, tr ++ [e] = before ++ [.connected] ++ between ∧ .closed ∉ between := by
        intro hsame hne
        obtain ⟨before, between, heq, hclosed⟩ := ih (hsame ▸ h)
        refine ⟨before, between ++ [e], by rw [heq, List.append_assoc], fun hmem => ?_⟩
        rcases List.mem_append.mp hmem with hmem | hmem
        · exact hclosed hmem
        · exact hne (List.mem_singleton.mp hmem).symm
      cases e with
      | connected => exact ⟨tr, [], (List.append_nil _).symm, nofun⟩
      | closed => exact absurd h Bool.false_ne_true
      | _ => exact hkept rfl nofun
  · rintro ⟨before, between, rfl, hclosed⟩
    have hquiet : Monitored openStep (fun _ _ => True) true between true := by
      refine .quiet fun e he => ⟨?_, trivial⟩
      cases e with
      | closed => exact absurd he hclosed
      | _ => rfl
    rw [List.foldl_append, List.foldl_append]
    exact hquiet.ends

/-- In every run, `isconnected` is set exactly while the last session that was opened has not been
closed, and PUBLISH, SUBSCRIBE and UNSUBSCRIBE packets are sent only then. -/
theorem requests_in_session {commandTimeoutMs : ℕ} {sendbuf readbuf : List UInt8}
    (hsize : sendbuf.length < 2 ^ 28)
    (h : Runs IsCall (mqttClientInit commandTimeoutMs sendbuf readbuf) tr s) :
    (s.isconnected = true ↔
      ∃ before between, tr = before ++ [.connected] ++ between ∧ .closed ∉ between) ∧
      ∀ before packet after, tr = before ++ [.sent packet] ++ after →
        isSessionRequest packet = true →
        ∃ earlier between, before = earlier ++ [.connected] ++ between ∧ .closed ∉ between := by
  have hopens := (runs_path hsize h).monitored fun _ _ _ hmove => hmove.opens
  constructor
  · rw [← foldl_openStep_iff, show s.isconnected = _ from hopens.ends.symm]
    rfl
  · intro before packet after htr hrequest
    rw [← foldl_openStep_iff]
    have hallowed := hopens.allowed before (.sent packet) (by rw [htr]; exact List.prefix_append ..)
    exact hallowed hrequest

theorem request_in_session : ∃ tr, ∃ s : Client, (sentPackets tr).any isSessionRequest = true ∧
    (s.isconnected = true ↔
      ∃ before between, tr = before ++ [.connected] ++ between ∧ .closed ∉ between) ∧
      ∀ before packet after, tr = before ++ [.sent packet] ++ after →
        isSessionRequest packet = true →
        ∃ earlier between, before = earlier ++ [.connected] ++ between ∧ .closed ∉ between := by
  have htest : (runSession 3 {} connackReplies [answeredPublish] smallClient).any
      (fun x => (sentPackets x.1).any isSessionRequest) = true := by decide +kernel
  obtain ⟨tr, s, h, hsent⟩ := exists_sessionRun htest fits_default (by decide)
  exact ⟨tr, s, hsent, requests_in_session (by decide) h.runs⟩

end ZohoIotSdk.Paho
