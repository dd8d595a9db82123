import ZohoIotSdk.Atomic.Path
import ZohoIotSdk.Mqtt.Transfers

/-!
# A session, packet by packet

`Session` is the client without its buffers and timers, and `Move` says what becomes of a session
with each packet: an abstract machine, which `cycle` and `waitfor` follow on every execution. The
parameter `P` of `Move` says that nothing has gone wrong with the connection.
-/

namespace ZohoIotSdk.Paho

open Atomic (Follows Path Prog)
open Machine

/-! ## The abstract machine -/

/-- What a session is between two packets. -/
structure Session where
  nextPacketid : ℕ
  pingOutstanding : Bool
  isconnected : Bool
  cleansession : Bool
  messageHandlers : List MessageHandlers
  defaultMessageHandler : Option ℕ
  bufSize : ℕ
deriving DecidableEq

def Client.session (c : Client) : Session :=
  { nextPacketid := c.nextPacketid
    pingOutstanding := c.pingOutstanding
    isconnected := c.isconnected
    cleansession := c.cleansession
    messageHandlers := c.messageHandlers
    defaultMessageHandler := c.defaultMessageHandler
    bufSize := c.buf.length }

/-- The handlers that are left when a session is closed. -/
def handlersLeft (cleansession : Bool) (slots : List MessageHandlers) : List MessageHandlers :=
  if cleansession then slots.map fun slot => { slot with topicFilter := none } else slots

def Session.close (a : Session) : Session :=
  { a with pingOutstanding := false, isconnected := false,
           messageHandlers := handlersLeft a.cleansession a.messageHandlers }

/-- The calls of the handlers for a message. -/
def Session.deliveries (a : Session) (data : PublishData) : List Event :=
  (handlersFor a.messageHandlers a.defaultMessageHandler data.topicName).map fun fp =>
    .handler fp data.topicName data.message

/-- A message, in a PUBLISH packet that has been received. -/
def Holds (h : UInt8) (body : List UInt8) (data : PublishData) : Prop :=
  (MqttHeader.bits h).type = MsgType.publish.toNat ∧
    ∃ topic rest mem, splitTopic body = some (topic, rest) ∧
      publishOutputs (MqttHeader.bits h) topic rest mem = some data

/-- The packet that acknowledges a message. -/
def PublishData.answer (data : PublishData) : List UInt8 :=
  ackPacket (if data.qos = 1 then MsgType.puback.toNat else MsgType.pubrec.toNat) false
    (data.packetid.getD 0)

/-- The two bytes of PINGREQ. -/
def pingreqPacket : List UInt8 :=
  MqttHeader.byte { type := MsgType.pingreq.toNat } :: mqttPacketEncode 0

/-- The calls of `mqttread` for a packet. -/
def Fetched (P : Prop) (es : List Event) (h : UInt8) (body : List UInt8) : Prop :=
  ReadsOnly es ∧ (P → Frame h body (consumed es))

/-- What becomes of a session when a packet is received that is not a message. -/
def Session.noted (a : Session) (h : UInt8) : Session :=
  if (MqttHeader.bits h).type = MsgType.pingresp.toNat then { a with pingOutstanding := false }
  else a

inductive Move (P : Prop) : Session → List Event → Session → Prop
  /-- No packet has come. -/
  | idle (a : Session) : Move P a [.read .header 1 []] a
  /-- A packet was cut short, or does not fit in the buffer. -/
  | lost {es : List Event} (a : Session) (hP : ¬ P) (hes : ReadsOnly es) : Move P a es a
  /-- A packet that is not a message, or a message without a topic. -/
  | noted {es : List Event} {h : UInt8} {body : List UInt8} (a : Session) (hes : Fetched P es h body)
      (hnone : (MqttHeader.bits h).type = MsgType.publish.toNat → splitTopic body = none) :
      Move P a (es ++ [.received h body]) (a.noted h)
  /-- A message that is not acknowledged. -/
  | delivered {es : List Event} {h : UInt8} {body : List UInt8} {data : PublishData} (a : Session)
      (hes : Fetched P es h body) (hdata : Holds h body data) (hqos : data.qos = 0) :
      Move P a (es ++ [.received h body] ++ a.deliveries data) a
  | acknowledged {es : List Event} {h : UInt8} {body : List UInt8} {data : PublishData}
      {pieces : List (List UInt8)} (a : Session) (hes : Fetched P es h body)
      (hdata : Holds h body data) (hqos : data.qos = 1 ∨ data.qos = 2)
      (hpieces : pieces.flatten = data.answer) :
      Move P a (es ++ [.received h body] ++
        (a.deliveries data ++ writes pieces ++ [.sent data.answer])) a
  /-- A message whose acknowledgement cannot be sent. -/
  | unanswered {es : List Event} {h : UInt8} {body : List UInt8} {data : PublishData}
      (pieces : List (List UInt8)) (a : Session) (hP : ¬ P) (hes : Fetched P es h body)
      (hdata : Holds h body data) :
      Move P a (es ++ [.received h body] ++ (a.deliveries data ++ writes pieces)) a
  | pinged {pieces : List (List UInt8)} {a : Session} (hping : a.pingOutstanding = false)
      (hpieces : pieces.flatten = pingreqPacket) :
      Move P a (writes pieces ++ [.sent pingreqPacket]) { a with pingOutstanding := true }
  /-- A PINGREQ that has not been sent. -/
  | unsent (pieces : List (List UInt8)) (a : Session) (hP : ¬ P) : Move P a (writes pieces) a
  | closed (a : Session) : Move P a [.closed] a.close

variable {P P' : Prop} {a b : Session} {c s : Client} {tr tr' es : List Event}
  {h : UInt8} {body mem : List UInt8} {turns timer : ℕ}

theorem Fetched.weaken (hes : Fetched P es h body) (hP : P' → P) : Fetched P' es h body :=
  ⟨hes.1, hes.2 ∘ hP⟩

/-- Less can be said when more may have gone wrong. -/
theorem Move.weaken (hmove : Move P a es b) (hP : P' → P) : Move P' a es b := by
  cases hmove with
  | idle => exact .idle a
  | lost _ hnot hes => exact .lost a (hnot ∘ hP) hes
  | noted _ hes hnone => exact .noted a (hes.weaken hP) hnone
  | delivered _ hes hdata hqos => exact .delivered a (hes.weaken hP) hdata hqos
  | acknowledged _ hes hdata hqos hpieces =>
    exact .acknowledged a (hes.weaken hP) hdata hqos hpieces
  | unanswered pieces _ hnot hes hdata => exact .unanswered pieces a (hnot ∘ hP) (hes.weaken hP) hdata
  | pinged hping hpieces => exact .pinged hping hpieces
  | unsent pieces _ hnot => exact .unsent pieces a (hnot ∘ hP)
  | closed => exact .closed a

/-- The client goes from one state to the other by moves of its session. -/
abbrev Moves (P : Prop) : Client → List Event → Client → List Event → Prop :=
  Follows Client.session (Move P)

theorem Moves.weaken (hmoves : Moves P c tr s tr') (hP : P' → P) : Moves P' c tr s tr' :=
  hmoves.mono fun _ _ _ hmove => hmove.weaken hP

/-- A trace in which no packet is cut has only such prefixes. -/
theorem Whole.isPrefix (h : Whole tr') (hpre : tr <+: tr') : Whole tr := by
  obtain ⟨es, rfl⟩ := hpre
  exact (whole_append.mp h).1

/-! ## `cycle` follows the machine -/

section Rules

variable {α β : Type} {Q : β → Client → List Event → Prop}

theorem wlp_readClient_bind {f : Client → α} {k : α → ClientM β} (h : (k (f c)).wlp Q c tr) :
    (readClient f >>= k).wlp Q c tr := by
  rw [readClient, Prog.read, Prog.wlp_bind, Prog.wlp_act, List.append_nil]
  exact fun _ => h

theorem wlp_modifyClient_bind {f : Client → Client} {k : Unit → ClientM β}
    (h : (k ()).wlp Q (f c) tr) : (modifyClient f >>= k).wlp Q c tr := by
  rw [modifyClient, Prog.modify, Prog.wlp_bind, Prog.wlp_act, List.append_nil]
  exact fun _ => h

/-- A timer may have expired or not. -/
theorem wlp_timerIsExpired_bind {k : Bool → ClientM β} (h : ∀ b, (k b).wlp Q c tr) :
    (timerIsExpired timer >>= k).wlp Q c tr := by
  rw [timerIsExpired, Prog.wlp_bind, Prog.wlp_act, List.append_nil]
  exact fun _ => h _

theorem wlp_timerCountdownMS_bind {k : ℕ → ClientM β} (h : ∀ t, (k t).wlp Q c tr) (timeout : ℕ) :
    (timerCountdownMS timeout >>= k).wlp Q c tr := by
  rw [timerCountdownMS, Prog.wlp_bind, Prog.wlp_act, List.append_nil]
  exact fun _ => h _

/-- The keepalive may be due or not. -/
theorem wlp_keepaliveIsDue_bind {k : Bool → ClientM β} (h : ∀ b, (k b).wlp Q c tr) :
    (keepaliveIsDue >>= k).wlp Q c tr := by
  rw [keepaliveIsDue, Prog.wlp_bind]
  apply wlp_readClient_bind
  apply wlp_timerIsExpired_bind
  intro b
  cases b with
  | true => exact h true
  | false =>
    apply wlp_readClient_bind
    rw [timerIsExpired, Prog.wlp_act, List.append_nil]
    exact fun _ => h _

end Rules

/-- The packet that has been put at the start of the send buffer is sent. -/
theorem wlp_sendPacket_filled {packet : List UInt8} {Q : ℤ → Client → List Event → Prop}
    (hbuf : c.buf.take packet.length = packet)
    (hfailed : ∀ pieces, Q failure c (tr ++ writes pieces))
    (hsent : ∀ lastSent pieces, pieces.flatten = packet →
      Q success { c with lastSent := lastSent } (tr ++ writes pieces ++ [.sent packet])) :
    (sendPacket turns packet.length timer).wlp Q c tr := by
  apply wlp_sendPacket
  · intro pieces _ _
    exact hfailed pieces
  · intro pieces lastSent hpieces
    rw [hbuf] at hpieces ⊢
    exact hsent lastSent pieces hpieces

/-- A move, where the buffers and timers of the client do not matter. -/
theorem Moves.of_move (hmove : Move P c.session es b) (htr : tr' = tr ++ es)
    (hs : s.session = b) : Moves P c tr s tr' := by
  subst htr hs
  exact Follows.step hmove

theorem length_pingreqPacket : pingreqPacket.length = 2 := by
  rw [pingreqPacket, mqttPacketEncode_of_lt (by omega)]
  rfl

theorem length_ackPacket (type : ℕ) (dup : Bool) (packetid : ℕ) :
    (ackPacket type dup packetid).length = 4 := by
  rw [ackPacket, mqttPacketEncode_of_lt (by omega)]
  rfl

/-- An event that is not about a packet that is received. -/
def Event.Aside : Event → Prop
  | .wrote _ => True
  | .sent packet => packet = pingreqPacket
  | .closed => True
  | _ => False

/-- Writes are events aside. -/
theorem aside_writes (pieces : List (List UInt8)) : ∀ e ∈ writes pieces, e.Aside := by
  intro e he
  obtain ⟨data, -, rfl⟩ := List.mem_map.mp he
  trivial

/-- What `keepalive` does beside handling packets. -/
structure Beside (c : Client) (tr : List Event) (rc : ℤ) (s : Client) (tr' : List Event) : Prop where
  moves : Moves (rc = success) c tr s tr'
  readbuf : s.readbuf = c.readbuf
  aside : ∃ es, tr' = tr ++ es ∧ ∀ e ∈ es, e.Aside

theorem Beside.refl (rc : ℤ) : Beside c tr rc c tr :=
  ⟨Follows.refl, rfl, [], (List.append_nil tr).symm, nofun⟩

/-- PINGREQ is sent only if none is outstanding. -/
theorem wlp_sendPing (hping : c.pingOutstanding = false) :
    (sendPing turns).wlp (Beside c tr) c tr := by
  unfold sendPing
  apply wlp_timerCountdownMS_bind
  intro timer
  apply wlp_readClient_bind
  rw [mqttSerializeZero]
  split_ifs with hsize
  · exact .refl _
  show Prog.wlp (do
    setBuf pingreqPacket
    let rc ← sendPacket turns pingreqPacket.length timer
    if rc = success then modifyClient fun c => { c with pingOutstanding := true }
    pure rc) _ _ _
  have hlength : (filled c.buf pingreqPacket).length = c.buf.length :=
    length_filled (by rw [length_pingreqPacket]; omega)
  apply wlp_modifyClient_bind
  rw [Prog.wlp_bind]
  apply wlp_sendPacket_filled (take_filled ..)
  · intro pieces
    refine ⟨Moves.of_move (.unsent pieces _ (by decide)) rfl ?_, rfl, _, rfl, aside_writes pieces⟩
    simp only [Client.session, hlength]
  · intro lastSent pieces hpieces
    apply wlp_modifyClient_bind
    refine ⟨Moves.of_move (.pinged hping hpieces) (List.append_assoc ..) ?_, rfl, _,
      List.append_assoc .., List.forall_mem_append.mpr ⟨aside_writes pieces, fun e he => ?_⟩⟩
    · simp only [Client.session, hlength]
    · rw [List.mem_singleton.mp he]
      rfl

/-- `keepalive` leaves the receive buffer alone. -/
theorem wlp_keepalive : (keepalive turns).wlp (Beside c tr) c tr := by
  unfold keepalive
  apply wlp_readClient_bind
  rw [Prog.wlp_ite]
  split_ifs with hinterval
  · exact .refl _
  apply wlp_keepaliveIsDue_bind
  intro due
  cases due with
  | false => exact .refl _
  | true =>
    apply wlp_readClient_bind
    cases hping : c.pingOutstanding with
    | false => exact wlp_sendPing hping
    | true => exact .refl _

/-- An answer is formed for QoS 1 and 2, when it fits the buffer. -/
theorem serializeAnswer_eq_some {size : ℕ} {data : PublishData} {packet : List UInt8}
    (h : serializeAnswer size data = some packet) :
    (data.qos = 1 ∨ data.qos = 2) ∧ packet = data.answer ∧ packet.length ≤ size := by
  unfold serializeAnswer at h
  unfold PublishData.answer
  by_cases hone : data.qos = 1
  · rw [if_pos hone, mqttSerializeAck] at h
    split_ifs at h with hsize
    cases h
    rw [if_pos hone, length_ackPacket]
    exact ⟨.inl hone, rfl, by omega⟩
  · rw [if_neg hone] at h
    split_ifs at h with htwo
    rw [mqttSerializeAck] at h
    split_ifs at h with hsize
    cases h
    rw [if_neg hone, length_ackPacket]
    exact ⟨.inr htwo, rfl, by omega⟩

/-- What `acknowledge` does for a message that has been delivered. -/
theorem wlp_acknowledge {data : PublishData} {Q : ℤ × ℕ → Client → List Event → Prop}
    (hfailed : ∀ buf pieces timer, buf.length = c.buf.length →
      Q (failure, timer) { c with buf := buf } (tr ++ writes pieces))
    (hsent : ∀ buf lastSent pieces timer, buf.length = c.buf.length →
      (data.qos = 1 ∨ data.qos = 2) → pieces.flatten = data.answer →
      Q (success, timer) { c with buf := buf, lastSent := lastSent }
        (tr ++ writes pieces ++ [.sent data.answer])) :
    (acknowledge turns data timer).wlp Q c tr := by
  unfold acknowledge
  apply wlp_readClient_bind
  cases hpacket : serializeAnswer c.buf.length data with
  | none =>
    have hq := hfailed c.buf [] timer rfl
    rwa [writes, List.map_nil, List.append_nil] at hq
  | some packet =>
    obtain ⟨hqos, rfl, hsize⟩ := serializeAnswer_eq_some hpacket
    have hlength := length_filled hsize
    -- the packet is sent, whatever has become of the timer
    have hsend : ∀ t, Prog.wlp (do
        let rc ← sendPacket turns data.answer.length t
        pure (rc, t)) Q { c with buf := filled c.buf data.answer } tr := by
      intro t
      rw [Prog.wlp_bind]
      apply wlp_sendPacket_filled (take_filled ..)
      · intro pieces
        exact hfailed _ _ _ hlength
      · intro lastSent pieces hpieces
        exact hsent _ _ _ _ hlength hqos hpieces
    apply wlp_modifyClient_bind
    rw [Prog.wlp_bind]
    apply wlp_timerIsExpired_bind
    intro expired
    cases expired with
    | false => exact hsend timer
    | true =>
      rw [if_pos rfl, timerCountdownMS, Prog.wlp_act, List.append_nil]
      exact fun _ => hsend _

/-- Since `tr`, a packet of the type has been received, and it is still in the buffer. -/
def Arrived (type : ℤ) (tr : List Event) (s : Client) (tr' : List Event) : Prop :=
  ∃ h body mem es, (MqttHeader.bits h).type = type ∧ body.length < 2 ^ 28 ∧
    s.readbuf = received h body mem ∧ tr' = tr ++ es ∧ .received h body ∈ es

theorem Arrived.append {type : ℤ} {s' : Client} (h : Arrived type tr s tr')
    (hbuf : s'.readbuf = s.readbuf) (hes : tr' <+: es) : Arrived type tr s' es := by
  obtain ⟨header, body, mem, es', htype, hbody, hreadbuf, rfl, hmem⟩ := h
  obtain ⟨es, rfl⟩ := hes
  exact ⟨header, body, mem, es' ++ es, htype, hbody, hbuf.trans hreadbuf, List.append_assoc ..,
    List.mem_append_left _ hmem⟩

/-- What has arrived since a later point has arrived since an earlier one. -/
theorem Arrived.since {type : ℤ} {tr₀ : List Event} (h : Arrived type tr s tr')
    (hpre : tr₀ <+: tr) : Arrived type tr₀ s tr' := by
  obtain ⟨header, body, mem, es', htype, hbody, hreadbuf, rfl, hmem⟩ := h
  obtain ⟨es, rfl⟩ := hpre
  exact ⟨header, body, mem, es ++ es', htype, hbody, hreadbuf, List.append_assoc ..,
    List.mem_append_right _ hmem⟩

/-- One move for what has been read, and nothing else that is about a packet. -/
def ReadOnce (P : Prop) (c : Client) (tr tr' : List Event) : Prop :=
  ∃ es rest b, tr' = tr ++ (es ++ rest) ∧ Move P c.session es b ∧ ∀ e ∈ rest, e.Aside

theorem ReadOnce.append (h : ReadOnce P c tr tr') (hes : ∀ e ∈ es, e.Aside) :
    ReadOnce P c tr (tr' ++ es) := by
  obtain ⟨es₁, rest, b, rfl, hmove, hrest⟩ := h
  exact ⟨es₁, rest ++ es, b, by simp only [List.append_assoc], hmove,
    List.forall_mem_append.mpr ⟨hrest, hes⟩⟩

theorem ReadOnce.weaken (h : ReadOnce P c tr tr') (hP : P' → P) : ReadOnce P' c tr tr' := by
  obtain ⟨es, rest, b, htr, hmove, hrest⟩ := h
  exact ⟨es, rest, b, htr, hmove.weaken hP, hrest⟩

theorem ReadOnce.of_move (hmove : Move P c.session es b) (htr : tr' = tr ++ es) :
    ReadOnce P c tr tr' := ⟨es, [], b, by rw [htr, List.append_nil], hmove, nofun⟩

/-- What the `switch` of `cycle` leaves behind: the moves that have been made if nothing has gone
wrong so far, and the packet in the buffer. -/
structure Handled (c : Client) (tr : List Event) (packetType rc : ℤ) (s : Client)
    (tr' : List Event) : Prop where
  moves : Moves (Whole tr' ∧ 0 ≤ rc) c tr s tr'
  once : ReadOnce (Whole tr' ∧ 0 ≤ rc) c tr tr'
  arrived : 0 < packetType → Arrived packetType tr s tr'
  result : 0 < rc → rc = packetType
  success : rc = success → 0 ≤ packetType

/-- Reads in the middle of a whole trace are whole. -/
theorem whole_reads (hwhole : Whole (tr ++ es ++ tr')) : Whole es :=
  (whole_append.mp (whole_append.mp hwhole).1).2

/-- A packet has been received, and one move has handled it. -/
theorem Handled.of_move {rc : ℤ} {es' : List Event} (hbuf : s.readbuf = received h body mem)
    (hbody : body.length < 2 ^ 28) (hreads : ReadsOnly es)
    (hframe : Whole es → Frame h body (consumed es))
    (hrc : 0 < rc → rc = (MqttHeader.bits h).type)
    (htr : tr' = tr ++ es ++ [.received h body] ++ es')
    (hmove : ∀ P : Prop, Fetched P es h body → (P → 0 ≤ rc) →
      Move P c.session (es ++ [.received h body] ++ es') s.session) :
    Handled c tr (MqttHeader.bits h).type rc s tr' := by
  have heq : tr' = tr ++ (es ++ [.received h body] ++ es') := by
    rw [htr]
    simp only [List.append_assoc]
  have hfetched : Fetched (Whole tr' ∧ 0 ≤ rc) es h body := by
    refine ⟨hreads, fun hP => hframe ?_⟩
    rw [htr, List.append_assoc] at hP
    exact whole_reads hP.1
  have hmove' := hmove _ hfetched And.right
  refine ⟨Moves.of_move hmove' heq rfl, ReadOnce.of_move hmove' heq, fun _ => ?_, hrc,
    fun _ => Int.natCast_nonneg _⟩
  · refine ⟨h, body, mem, _, rfl, hbody, hbuf, heq, ?_⟩
    exact List.mem_append_left _ (List.mem_append_right _ (List.mem_singleton_self _))

/-- The case `PUBLISH` of `cycle`. -/
theorem wlp_handlePublish (hs : s.session = c.session) (hbuf : s.readbuf = received h body mem)
    (hbody : body.length < 2 ^ 28) (htype : (MqttHeader.bits h).type = MsgType.publish.toNat)
    (hreads : ReadsOnly es) (hframe : Whole es → Frame h body (consumed es)) :
    (handlePublish turns timer).wlp (fun r s' tr' => Handled c tr (MqttHeader.bits h).type r.1 s' tr')
      s (tr ++ es ++ [.received h body]) := by
  have hzero : (0 : ℤ) < success → success = (MqttHeader.bits h).type :=
    fun hpos => absurd hpos (by decide)
  unfold handlePublish
  apply wlp_readClient_bind
  rw [hbuf, mqttDeserializePublish_received mem htype hbody]
  cases hsplit : splitTopic body with
  | none =>
    simp only
    rw [Prog.wlp_ite]
    split_ifs
    · trivial
    · apply Handled.of_move hbuf hbody hreads hframe hzero (List.append_nil _).symm
      intro P hfetched _
      have hmove := Move.noted c.session hfetched fun _ => hsplit
      rw [Session.noted, htype] at hmove
      rwa [List.append_nil, hs]
  | some split =>
    obtain ⟨topic, rest⟩ := split
    cases hdata : publishOutputs (MqttHeader.bits h) topic rest mem with
    | none =>
      simp only [hdata]
      trivial
    | some data =>
      have hholds : Holds h body data := ⟨htype, topic, rest, mem, hsplit, hdata⟩
      simp only [hdata, Option.map_some]
      rw [Prog.wlp_bind]
      unfold deliverMessage
      rw [Prog.wlp_act]
      intro _
      change Prog.wlp _ _ _ (tr ++ es ++ [.received h body] ++ s.session.deliveries data)
      rw [hs, Prog.wlp_ite]
      split_ifs with hqos
      · apply Handled.of_move hbuf hbody hreads hframe hzero rfl
        intro P hfetched _
        rw [hs]
        exact .delivered _ hfetched hholds hqos
      rw [Prog.wlp_bind]
      apply wlp_acknowledge
      · intro buf pieces t hlength
        have hsession : Client.session { s with buf := buf } = c.session := by
          rw [← hs]
          simp only [Client.session, hlength]
        show Handled c tr _ failure _ _
        apply Handled.of_move (s := { s with buf := buf }) hbuf hbody hreads hframe
          (fun hpos => absurd hpos (by decide)) (List.append_assoc ..)
        intro P hfetched hP
        rw [hsession]
        exact .unanswered pieces _ (fun h => absurd (hP h) (by decide)) hfetched hholds
      · intro buf lastSent pieces t hlength hqos' hpieces
        have hsession : Client.session { s with buf := buf, lastSent := lastSent } = c.session := by
          rw [← hs]
          simp only [Client.session, hlength]
        apply Handled.of_move (s := { s with buf := buf, lastSent := lastSent }) hbuf hbody hreads
          hframe hzero (show _ = _ ++ (c.session.deliveries data ++ writes pieces ++
              [.sent data.answer]) by
            simp only [List.append_assoc])
        intro P hfetched _
        rw [hsession]
        exact .acknowledged _ hfetched hholds hqos' hpieces

/-- Only a PINGRESP is noted. -/
theorem noted_of_ne {type : ℕ} (htype : (MqttHeader.bits h).type = type)
    (hne : (type : ℤ) ≠ MsgType.pingresp.toNat) : a.noted h = a := by
  rw [Session.noted, if_neg]
  rw [htype]
  exact fun heq => hne (congrArg Nat.cast heq)

/-- The `switch` of `cycle`, for a packet that has been received. -/
theorem wlp_handlePacket (hs : s.session = c.session) (hbuf : s.readbuf = received h body mem)
    (hbody : body.length < 2 ^ 28) (hreads : ReadsOnly es)
    (hframe : Whole es → Frame h body (consumed es)) :
    (handlePacket turns (MqttHeader.bits h).type timer).wlp
      (fun r s' tr' => Handled c tr (MqttHeader.bits h).type r.1 s' tr')
      s (tr ++ es ++ [.received h body]) := by
  have hzero : (0 : ℤ) < success → success = (MqttHeader.bits h).type :=
    fun hpos => absurd hpos (by decide)
  by_cases hpublish : ((MqttHeader.bits h).type : ℤ) = MsgType.publish.toNat
  · rw [handlePacket, if_pos hpublish]
    exact wlp_handlePublish hs hbuf hbody (Int.natCast_inj.mp hpublish) hreads hframe
  -- a packet that is not a message has a move of its own, whatever is returned
  have hhandled : ∀ (rc : ℤ) s', (0 < rc → rc = (MqttHeader.bits h).type) →
      s'.readbuf = received h body mem → s'.session = c.session.noted h →
      Handled c tr (MqttHeader.bits h).type rc s' (tr ++ es ++ [.received h body]) := by
    intro rc s' hrc hbuf' hs'
    apply Handled.of_move hbuf' hbody hreads hframe hrc (List.append_nil _).symm
    intro P hfetched _
    rw [List.append_nil, hs']
    exact .noted _ hfetched fun htype => absurd (congrArg Nat.cast htype) hpublish
  rw [handlePacket, if_neg hpublish, Prog.wlp_ite]
  split_ifs with hpong hnoted
  · apply wlp_modifyClient_bind
    apply hhandled success { s with pingOutstanding := false } hzero hbuf
    rw [Session.noted, if_pos (Int.natCast_inj.mp hpong), ← hs]
    rfl
  · apply hhandled success s hzero hbuf
    rw [noted_of_ne rfl hpong, hs]
  · apply hhandled (MqttHeader.bits h).type s (fun _ => rfl) hbuf
    rw [noted_of_ne rfl hpong, hs]

/-- What has been done when `cycle` returns `rc`. -/
structure Cycled (c : Client) (tr : List Event) (rc : ℤ) (s : Client) (tr' : List Event) : Prop where
  moves : Moves (Whole tr' ∧ (0 ≤ rc ∨ s.isconnected = true)) c tr s tr'
  once : ReadOnce (Whole tr' ∧ (0 ≤ rc ∨ s.isconnected = true)) c tr tr'
  arrived : 0 < rc → Arrived rc tr s tr'

/-- A failure closes the session. -/
theorem wlp_endCycle {packetType rc : ℤ} (h : Handled c tr packetType rc s tr') :
    (endCycle rc packetType).wlp (Cycled c tr) s tr' := by
  unfold endCycle
  rw [Prog.wlp_ite]
  split_ifs with hrc
  · exact ⟨h.moves.weaken fun hP => ⟨hP.1, hrc.ge⟩, h.once.weaken fun hP => ⟨hP.1, hrc.ge⟩,
      h.arrived⟩
  · apply wlp_readClient_bind
    have hrest : 0 < rc → Arrived rc tr s tr' := by
      intro hpos
      rw [h.result hpos]
      exact h.arrived (h.result hpos ▸ hpos)
    cases hconnected : s.isconnected with
    | false =>
      have hgood : Whole tr' ∧ (0 ≤ rc ∨ s.isconnected = true) → Whole tr' ∧ 0 ≤ rc := by
        rintro ⟨hwhole, hopen⟩
        rw [hconnected] at hopen
        exact ⟨hwhole, hopen.resolve_right Bool.false_ne_true⟩
      exact ⟨h.moves.weaken hgood, h.once.weaken hgood, hrest⟩
    | true =>
      rw [if_pos rfl, Prog.wlp_bind]
      unfold mqttCloseSession
      rw [Prog.wlp_act]
      intro _
      have hgood : Whole (tr' ++ [.closed]) ∧ (0 ≤ rc ∨ false = true) → Whole tr' ∧ 0 ≤ rc :=
        fun hP => ⟨(whole_append.mp hP.1).1, hP.2.resolve_right Bool.false_ne_true⟩
      refine ⟨(h.moves.weaken hgood).trans (Moves.of_move (.closed _) rfl rfl), ?_,
        fun hpos => (hrest hpos).append rfl (List.prefix_append ..)⟩
      refine (h.once.weaken hgood).append fun e he => ?_
      rw [List.mem_singleton.mp he]
      trivial

/-- `keepalive`, behind the `switch`. -/
theorem wlp_keepalive_handled {packetType rc : ℤ} (h : Handled c tr packetType rc s tr') :
    Prog.wlp (do if (← keepalive turns) = success then pure rc else pure failure : ClientM ℤ)
      (Handled c tr packetType) s tr' := by
  rw [Prog.wlp_bind]
  apply Prog.wlp_mono wlp_keepalive
  rintro ping s' tr'' ⟨hmoves, hbuf, es, rfl, haside⟩
  have hpre := hmoves.isPrefix
  have harrived := fun hpos => (h.arrived hpos).append hbuf hpre
  rw [Prog.wlp_ite]
  split_ifs with hping
  · have hgood : Whole (tr' ++ es) ∧ 0 ≤ rc → Whole tr' ∧ 0 ≤ rc :=
      fun hP => ⟨hP.1.isPrefix hpre, hP.2⟩
    exact ⟨(h.moves.weaken hgood).trans (hmoves.weaken fun _ => hping),
      (h.once.weaken hgood).append haside, harrived, h.result, h.success⟩
  · have hbad : ¬ (Whole (tr' ++ es) ∧ 0 ≤ failure) := fun hP => absurd hP.2 (by decide)
    exact ⟨(h.moves.weaken fun hP => absurd hP hbad).trans (hmoves.weaken fun hP => absurd hP hbad),
      (h.once.weaken fun hP => absurd hP hbad).append haside, harrived,
      fun hpos => absurd hpos (by decide), fun hrc => absurd hrc (by decide)⟩

/-- `cycle` behind `readPacket`. -/
theorem wlp_cycle_of_handled {packetType : ℤ} {p : ClientM (ℤ × Bool × ℕ)}
    (hp : p.wlp (fun r s' tr' => Handled c tr packetType r.1 s' tr') s tr') :
    Prog.wlp (do
      let (rc, goesOn, timer) ← p
      let rc ← (do
        if goesOn then
          if (← keepalive turns) = success then pure rc else pure failure
        else pure rc)
      let rc ← endCycle rc packetType
      pure (rc, timer)) (fun r s' tr' => Cycled c tr r.1 s' tr') s tr' := by
  rw [Prog.wlp_bind]
  apply Prog.wlp_mono hp
  rintro ⟨rc, goesOn, timer⟩ s₁ tr₁ hhandled
  simp only
  rw [Prog.wlp_bind]
  have hend : ∀ rc s₂ tr₂, Handled c tr packetType rc s₂ tr₂ →
      Prog.wlp (do let rc ← endCycle rc packetType; pure (rc, timer))
        (fun r s' tr' => Cycled c tr r.1 s' tr') s₂ tr₂ := by
    intro rc s₂ tr₂ h
    rw [Prog.wlp_bind]
    exact wlp_endCycle h
  cases goesOn with
  | false => exact hend rc s₁ tr₁ hhandled
  | true => exact Prog.wlp_mono (wlp_keepalive_handled hhandled) hend

/-- Where no packet has been read, the `switch` goes on only if nothing is wrong. -/
theorem handlePacket_of_le {rc : ℤ} (hrc : rc ≤ 0) :
    handlePacket turns rc timer = pure (rc, decide (rc = 0), timer) := by
  have hpublish : rc ≠ MsgType.publish.toNat := fun h => by
    rw [h] at hrc
    exact absurd hrc (by decide)
  have hpong : rc ≠ MsgType.pingresp.toNat := fun h => by
    rw [h] at hrc
    exact absurd hrc (by decide)
  rw [handlePacket, if_neg hpublish, if_neg hpong]
  by_cases hzero : rc = 0
  · subst hzero
    rfl
  · have hnoted : ¬ noted rc = true := by
      simp only [noted, List.mem_cons, List.not_mem_nil, or_false, decide_eq_true_eq, not_or]
      omega
    rw [if_neg hnoted, decide_eq_false hzero]

/-- Every execution of `cycle` makes moves of the session. -/
theorem wlp_cycle : (cycle turns timer).wlp (fun r s tr' => Cycled c tr r.1 s tr') c tr := by
  unfold cycle
  rw [Prog.wlp_bind]
  apply wlp_readPacket
  · intro rc hrc
    apply wlp_cycle_of_handled
    rw [handlePacket_of_le hrc]
    exact ⟨Moves.of_move (.idle _) rfl rfl, ReadOnce.of_move (.idle _) rfl,
      fun hpos => absurd hrc (not_le.mpr hpos), fun _ => rfl, fun h => (show rc = 0 from h).ge⟩
  · intro rc readbuf es hrc _ hes hwhole
    apply wlp_cycle_of_handled
    rw [handlePacket_of_le hrc]
    have hlost : ¬ (Whole (tr ++ es) ∧ 0 ≤ rc) := fun hP =>
      absurd (hwhole (whole_append.mp hP.1).2) (not_lt.mpr hP.2)
    exact ⟨Moves.of_move (.lost _ hlost hes) rfl rfl, ReadOnce.of_move (.lost _ hlost hes) rfl,
      fun hpos => absurd hrc (not_le.mpr hpos), fun _ => rfl, fun h => (show rc = 0 from h).ge⟩
  · intro h body mem es lastReceived _ hbody hreads hframe
    apply wlp_cycle_of_handled
    exact wlp_handlePacket rfl rfl hbody hreads hframe

/-! ## The loops -/

/-- A turn of the cycle after earlier moves. -/
theorem Cycled.after {rc : ℤ} {s' : Client} {tr'' : List Event} (h : Cycled s tr' rc s' tr'')
    (hbefore : Moves (Whole tr') c tr s tr') :
    Moves (Whole tr'' ∧ (0 ≤ rc ∨ s'.isconnected = true)) c tr s' tr'' :=
  (hbefore.weaken fun hP => hP.1.isPrefix h.moves.isPrefix).trans h.moves

theorem MsgType.toNat_pos (type : MsgType) : 0 < type.toNat := by
  cases type <;> decide

/-- `waitfor` ends with the type only if such a packet has been received. -/
theorem wlp_waitfor (packetType : MsgType) :
    (waitfor turns packetType timer).wlp (fun rc s tr' =>
      Moves (Whole tr' ∧ (0 ≤ rc ∨ s.isconnected = true)) c tr s tr' ∧
        (rc = packetType.toNat → Arrived rc tr s tr')) c tr := by
  unfold waitfor
  apply Prog.wlp_loopFor (fun state s tr' =>
    Moves (Whole tr') c tr s tr' ∧ state.1 ≠ (packetType.toNat : ℤ))
  · rintro ⟨rc, timer⟩ s tr' ⟨hmoves, hne⟩
    unfold waitStep
    apply wlp_timerIsExpired_bind
    intro expired
    cases expired with
    | true => exact ⟨hmoves.weaken And.left, fun h => absurd h hne⟩
    | false =>
      simp only [Bool.false_eq_true, if_false]
      rw [Prog.wlp_bind]
      apply Prog.wlp_mono wlp_cycle
      rintro ⟨rc', timer'⟩ s' tr'' hcycled
      have hall := hcycled.after hmoves
      simp only
      rw [Prog.wlp_ite]
      split_ifs with hgoes
      · exact ⟨hall.weaken fun hP => ⟨hP, .inl hgoes.2⟩, hgoes.1⟩
      · refine ⟨hall, fun htype => (hcycled.arrived ?_).since hmoves.isPrefix⟩
        rw [htype]
        show (0 : ℤ) < packetType.toNat
        exact_mod_cast packetType.toNat_pos
  · refine ⟨Follows.refl, ?_⟩
    have hpos : (0 : ℤ) < packetType.toNat := by exact_mod_cast packetType.toNat_pos
    show (-1 : ℤ) ≠ packetType.toNat
    omega

/-- `MQTTYield` -/
theorem wlp_mqttYield (timeoutMs : ℕ) : (mqttYield turns timeoutMs).wlp (fun rc s tr' =>
    Moves (Whole tr' ∧ (0 ≤ rc ∨ s.isconnected = true)) c tr s tr') c tr := by
  unfold mqttYield
  apply wlp_timerCountdownMS_bind
  intro timer
  apply Prog.wlp_loopFor (fun _ s tr' => Moves (Whole tr') c tr s tr')
  · intro timer s tr' hmoves
    unfold yieldStep
    rw [Prog.wlp_bind]
    apply Prog.wlp_mono wlp_cycle
    rintro ⟨rc, timer⟩ s' tr'' hcycled
    have hall := hcycled.after hmoves
    simp only
    rw [Prog.wlp_ite]
    split_ifs with hrc
    · exact hall.weaken fun hP => ⟨hP.1, .inr (hP.2.resolve_left (by decide))⟩
    · apply wlp_timerIsExpired_bind
      intro expired
      have hgoes : Moves (Whole tr'') c tr s' tr'' := hall.weaken fun hP => ⟨hP, .inl (by omega)⟩
      cases expired with
      | false => exact hgoes
      | true => exact hgoes.weaken And.left
  · exact Follows.refl

end ZohoIotSdk.Paho
