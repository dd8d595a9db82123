import ZohoIotSdk.Mqtt.Frames
import ZohoIotSdk.Mqtt.Handlers

/-!
# Messages that are received

`publish_delivered`: a PUBLISH packet that a peer has serialized, on its way through `cycle`: the
handlers that are called, what they see, and the packet that acknowledges it.
`acknowledgements_match`: over a whole session, every message above the quality of service 0 is
acknowledged once, in the order in which the messages have come, and nothing else is.
-/

namespace ZohoIotSdk.Paho

open Atomic (Path Prog)
open Codec Machine

variable {P : Prop} {a b : Session} {c s : Client} {tr tr' es : List Event} {h : UInt8}
  {body packet : List UInt8}

/-! ## Acknowledgements -/

/-- The header byte of PUBACK and PUBREC. -/
def isAckHeader (h : UInt8) : Bool :=
  (MqttHeader.bits h).type = MsgType.puback.toNat || (MqttHeader.bits h).type = MsgType.pubrec.toNat

def isAck (packet : List UInt8) : Bool := isAckHeader (packet.headD 0)

/-- A message that is to be acknowledged. -/
def needsAck (h : UInt8) (body : List UInt8) : Bool :=
  (MqttHeader.bits h).type = MsgType.publish.toNat && (splitTopic body).isSome &&
    (MqttHeader.bits h).qos ≠ 0

/-- The packet acknowledges the message: with the type for its quality of service, and with its
packet id, if there is one in the packet. -/
def Acknowledges (h : UInt8) (body packet : List UInt8) : Prop :=
  ∃ topic rest id, splitTopic body = some (topic, rest) ∧
    packet = ackPacket (if (MqttHeader.bits h).qos = 1 then MsgType.puback.toNat
      else MsgType.pubrec.toNat) false id ∧
    ∀ high low payload, rest = high :: low :: payload → id = 256 * high.toNat + low.toNat

/-- The QoS of a message is the one in its header. -/
theorem Holds.qos_eq {data : PublishData} (hdata : Holds h body data) :
    data.qos = (MqttHeader.bits h).qos := by
  obtain ⟨-, topic, rest, mem, -, hout⟩ := hdata
  unfold publishOutputs at hout
  split at hout
  · split at hout
    · cases hout
      rfl
    · cases hout
  · cases hout
    rfl

theorem Holds.needsAck {data : PublishData} (hdata : Holds h body data) :
    needsAck h body = decide (data.qos ≠ 0) := by
  obtain ⟨htype, topic, rest, mem, hsplit, -⟩ := id hdata
  rw [Paho.needsAck, hsplit, decide_eq_true htype, hdata.qos_eq]
  rfl

/-- The answer acknowledges the message. -/
theorem Holds.acknowledges {data : PublishData} (hdata : Holds h body data) (hqos : data.qos ≠ 0) :
    Acknowledges h body data.answer := by
  have hq := hdata.qos_eq
  obtain ⟨-, topic, rest, mem, hsplit, hout⟩ := hdata
  refine ⟨topic, rest, data.packetid.getD 0, hsplit, ?_, ?_⟩
  · rw [PublishData.answer, hq]
  · rintro high low payload rfl
    unfold publishOutputs at hout
    rw [if_pos (by omega)] at hout
    cases hout
    rfl

/-- The answer to a message is an acknowledgement. -/
theorem isAck_answer (data : PublishData) : isAck data.answer = true := by
  unfold PublishData.answer
  split_ifs
  · show isAckHeader (MqttHeader.byte { type := MsgType.puback.toNat }) = true
    decide
  · show isAckHeader (MqttHeader.byte { type := MsgType.pubrec.toNat }) = true
    decide

/-- A request is no acknowledgement. -/
theorem IsPacket.isAck_eq {size qos : ℕ} {type : MsgType} (hpacket : IsPacket size type qos packet)
    (htype : type ∈ requests) : isAck packet = false := by
  obtain ⟨header, body, rfl, -, hheader, -⟩ := hpacket
  show isAckHeader header = false
  rw [isAckHeader, hheader]
  revert htype
  cases type <;> decide

/-- The messages that have been received and are to be acknowledged. -/
def acksDue (tr : List Event) : List (UInt8 × List UInt8) :=
  (receivedPackets tr).filter fun p => needsAck p.1 p.2

/-- The acknowledgements that have been sent. -/
def acksSent (tr : List Event) : List (List UInt8) := (sentPackets tr).filter isAck

/-- The messages and the acknowledgements belong together, one by one. -/
def Acknowledged (tr : List Event) : Prop :=
  List.Forall₂ (fun p packet => Acknowledges p.1 p.2 packet) (acksDue tr) (acksSent tr)

theorem Acknowledged.append (h : Acknowledged tr) (hes : Acknowledged es) :
    Acknowledged (tr ++ es) := by
  rw [Acknowledged, acksDue, acksSent, receivedPackets_append, sentPackets_append,
    List.filter_append, List.filter_append]
  exact List.rel_append h hes

/-- Events without a message and without an acknowledgement. -/
theorem acknowledged_of_nil (hdue : acksDue es = []) (hsent : acksSent es = []) :
    Acknowledged es := by
  rw [Acknowledged, hdue, hsent]
  exact .nil

/-- Calls of handlers acknowledge nothing and need nothing. -/
theorem acknowledged_deliveries (a : Session) (data : PublishData) :
    Acknowledged (a.deliveries data) := by
  apply acknowledged_of_nil
  · rw [acksDue, receivedPackets_deliveries, List.filter_nil]
  · rw [acksSent, sentPackets_deliveries, List.filter_nil]

/-- A packet that is not to be acknowledged. -/
theorem acknowledged_received (hreads : ReadsOnly es) (hack : needsAck h body = false) :
    Acknowledged (es ++ [.received h body]) := by
  apply acknowledged_of_nil
  · rw [acksDue, receivedPackets_fetched hreads]
    exact List.filter_cons_of_neg (by rw [hack]; exact Bool.false_ne_true)
  · rw [acksSent, sentPackets_fetched hreads, List.filter_nil]

/-- A packet that does not acknowledge anything. -/
theorem acknowledged_sent {pieces : List (List UInt8)} (hack : isAck packet = false) :
    Acknowledged (writes pieces ++ [.sent packet]) := by
  apply acknowledged_of_nil
  · rw [acksDue, receivedPackets_sent, List.filter_nil]
  · rw [acksSent, sentPackets_sent]
    exact List.filter_cons_of_neg (by rw [hack]; exact Bool.false_ne_true)

/-- One move acknowledges what it received. -/
theorem Move.acknowledged_of_true (hmove : Move True a es b) : Acknowledged es := by
  cases hmove with
  | idle => exact acknowledged_of_nil rfl rfl
  | lost _ hnot => exact absurd trivial hnot
  | @noted _ h body _ hes hnone =>
    apply acknowledged_received hes.1
    rw [needsAck]
    by_cases htype : (MqttHeader.bits h).type = MsgType.publish.toNat
    · rw [hnone htype, Option.isSome_none, Bool.and_false, Bool.false_and]
    · rw [decide_eq_false htype, Bool.false_and, Bool.false_and]
  | delivered _ hes hdata hqos =>
    refine (acknowledged_received hes.1 ?_).append (acknowledged_deliveries ..)
    rw [hdata.needsAck, hqos]
    rfl
  | @acknowledged reads h body data pieces _ hes hdata hqos =>
    have hneeds : needsAck h body = true := by
      rw [hdata.needsAck]
      exact decide_eq_true (by omega)
    have hdue : acksDue (reads ++ [.received h body] ++
        (a.deliveries data ++ writes pieces ++ [.sent data.answer])) = [(h, body)] := by
      rw [acksDue, List.append_assoc (a.deliveries data), receivedPackets_append,
        receivedPackets_fetched hes.1, receivedPackets_append, receivedPackets_deliveries,
        receivedPackets_sent]
      exact List.filter_cons_of_pos hneeds
    have hsent : acksSent (reads ++ [.received h body] ++
        (a.deliveries data ++ writes pieces ++ [.sent data.answer])) = [data.answer] := by
      rw [acksSent, List.append_assoc (a.deliveries data), sentPackets_append,
        sentPackets_fetched hes.1, sentPackets_append, sentPackets_deliveries, sentPackets_sent]
      exact List.filter_cons_of_pos (isAck_answer data)
    rw [Acknowledged, hdue, hsent]
    exact .cons (hdata.acknowledges (by omega)) .nil
  | unanswered _ _ hnot => exact absurd trivial hnot
  | pinged => exact acknowledged_sent (by decide)
  | unsent _ _ hnot => exact absurd trivial hnot
  | closed => exact acknowledged_of_nil rfl rfl

/-- One move of a session acknowledges what it received. -/
theorem SessionMove.acknowledged_of_true (hmove : SessionMove True a es b) : Acknowledged es := by
  cases hmove with
  | call hcall =>
    cases hcall with
    | move hmove => exact hmove.acknowledged_of_true
    | packetId => exact acknowledged_of_nil rfl rfl
    | sent _ htype _ hpacket => exact acknowledged_sent (hpacket.isAck_eq htype)
    | handler => exact acknowledged_of_nil rfl rfl
  | options => exact acknowledged_of_nil rfl rfl
  | opened => exact acknowledged_of_nil rfl rfl

/-- As long as a session is open and no packet has been cut short, the messages above the quality
of service 0 that have been received and the acknowledgements that have been sent belong
together, one by one and in the same order. -/
theorem acknowledgements_match {commandTimeoutMs : ℕ} {sendbuf readbuf : List UInt8}
    (hsize : sendbuf.length < 2 ^ 28)
    (h : SessionRun (mqttClientInit commandTimeoutMs sendbuf readbuf) tr s) (hwhole : Whole tr)
    (hs : s.isconnected = true) : Acknowledged tr := by
  obtain ⟨es, htr, hpath⟩ := (h.moves rfl hsize).weaken fun (_ : True) => ⟨hwhole, hs⟩
  rw [List.nil_append] at htr
  subst htr
  exact hpath.invariant (I := fun _ tr => Acknowledged tr)
    (fun _ _ _ _ hI hmove => hI.append hmove.acknowledged_of_true) (acknowledged_of_nil rfl rfl)

/-- A message with the quality of service 1 arrives and one with 2, and then nothing until the time
is over. -/
def arrivingMessages : Call × List Reply :=
  (.yield 1000, arriving 2 0x32 [0, 1, 97, 0, 5, 98] ++ arriving 9 0x34 [0, 1, 97, 0, 6, 98] ++
    List.replicate 20 { now := 5000000, count := 32 })

/-- A PUBACK for the first message, and then a PUBREC for the second one. -/
theorem acknowledgement_matches : ∃ tr,
    acksDue tr = [(0x32, [0, 1, 97, 0, 5, 98]), (0x34, [0, 1, 97, 0, 6, 98])] ∧
    acksSent tr = [[0x40, 2, 0, 5], [0x50, 2, 0, 6]] ∧ Acknowledged tr := by
  have htest : (runSession 3 {} connackReplies [arrivingMessages] smallClient).any
      (fun x => Whole x.1 ∧ x.2.isconnected = true ∧
        acksDue x.1 = [(0x32, [0, 1, 97, 0, 5, 98]), (0x34, [0, 1, 97, 0, 6, 98])] ∧
        acksSent x.1 = [[0x40, 2, 0, 5], [0x50, 2, 0, 6]]) = true := by
    decide +kernel
  obtain ⟨tr, s, h, hboth⟩ := exists_sessionRun htest fits_default (by decide)
  obtain ⟨hwhole, hs, hdue, hacks⟩ := of_decide_eq_true hboth
  exact ⟨tr, hdue, hacks, acknowledgements_match (by decide) h hwhole hs⟩

/-! ## A message, from one end to the other -/

/-- The calls of message handlers. -/
def handlerCalls (tr : List Event) : List (ℕ × List UInt8 × Message) :=
  tr.flatMap fun
    | .handler fp topicName message => [(fp, topicName, message)]
    | _ => []

/-- The calls for a message. -/
def Session.calls (a : Session) (data : PublishData) : List (ℕ × List UInt8 × Message) :=
  (handlersFor a.messageHandlers a.defaultMessageHandler data.topicName).map fun fp =>
    (fp, data.topicName, data.message)

/-- The handlers called are those of the matching filters. -/
theorem handlerCalls_deliveries (a : Session) (data : PublishData) :
    handlerCalls (a.deliveries data) = a.calls data := by
  unfold Session.deliveries Session.calls
  generalize handlersFor a.messageHandlers a.defaultMessageHandler data.topicName = called
  induction called with
  | nil => rfl
  | cons fp called ih =>
    rw [List.map_cons, List.map_cons, ← ih]
    rfl

/-- What a trace shows to the handlers and to the peer. -/
structure Shown where
  calls : List (ℕ × List UInt8 × Message)
  acks : List (List UInt8)
  bytes : List UInt8

instance : Append Shown where
  append x y := ⟨x.calls ++ y.calls, x.acks ++ y.acks, x.bytes ++ y.bytes⟩

def shown (tr : List Event) : Shown := ⟨handlerCalls tr, acksSent tr, consumed tr⟩

theorem shown_append (tr es : List Event) : shown (tr ++ es) = shown tr ++ shown es := by
  rw [shown, handlerCalls, List.flatMap_append, acksSent, sentPackets_append, List.filter_append,
    consumed_append]
  rfl

/-- Events aside show nothing. -/
theorem shown_of_aside (hes : ∀ e ∈ es, e.Aside) : shown es = ⟨[], [], []⟩ := by
  induction es with
  | nil => rfl
  | cons e es ih =>
    rw [List.forall_mem_cons] at hes
    have htail := ih hes.2
    cases e with
    | wrote data => exact htail
    | closed => exact htail
    | sent packet =>
      have hping : packet = pingreqPacket := hes.1
      have hacks : acksSent (.sent pingreqPacket :: es) = acksSent es := rfl
      rw [hping, shown, hacks]
      exact htail
    | _ => exact absurd hes.1 id

/-- A packet that is fetched shows the bytes it took. -/
theorem shown_fetched (hreads : ReadsOnly es) :
    shown (es ++ [.received h body]) = ⟨[], [], consumed es⟩ := by
  have hcalls : handlerCalls (es ++ [.received h body]) = [] :=
    flatMap_fetched hreads fun _ _ _ => rfl
  rw [shown, hcalls, acksSent, sentPackets_fetched hreads, consumed_append]
  exact congrArg _ (List.append_nil _)

/-- A delivery shows the calls of the handlers. -/
theorem shown_deliveries (a : Session) (data : PublishData) :
    shown (a.deliveries data) = ⟨a.calls data, [], []⟩ := by
  rw [shown, handlerCalls_deliveries, acksSent, sentPackets_deliveries, List.filter_nil, consumed,
    flatMap_deliveries fun _ _ _ => rfl]

/-- An acknowledgement that is sent is shown. -/
theorem shown_sent {pieces : List (List UInt8)} (hack : isAck packet = true) :
    shown (writes pieces ++ [.sent packet]) = ⟨[], [packet], []⟩ := by
  have hcalls : handlerCalls (writes pieces ++ [.sent packet]) = [] := flatMap_sent fun _ => rfl
  have hconsumed : consumed (writes pieces ++ [.sent packet]) = [] := flatMap_sent fun _ => rfl
  rw [shown, hcalls, hconsumed, acksSent, sentPackets_sent, List.filter_cons_of_pos hack,
    List.filter_nil]

/-- The move that takes a message from the connection. -/
theorem Move.shown_of_message (hmove : Move True a es b) (hframe : Frame h body packet)
    (htopic : splitTopic body ≠ none) (htype : (MqttHeader.bits h).type = MsgType.publish.toNat)
    {rest later : List UInt8} (hpeer : consumed es ++ rest = packet ++ later)
    (hread : consumed es ≠ []) :
    ∃ data, Holds h body data ∧
      shown es = ⟨a.calls data, if data.qos = 0 then [] else [data.answer], packet⟩ := by
  -- what has been fetched is the packet
  have hfetched : ∀ {reads h' body' es' calls acks}, Fetched True reads h' body' →
      es = reads ++ [.received h' body'] ++ es' → shown es' = ⟨calls, acks, []⟩ →
        h' = h ∧ body' = body ∧ shown es = ⟨calls, acks, packet⟩ := by
    rintro reads h' body' es' calls acks ⟨hreads, hframe'⟩ rfl hes'
    have hshown : shown (reads ++ [.received h' body'] ++ es') = ⟨calls, acks, consumed reads⟩ := by
      rw [shown_append, shown_fetched hreads, hes']
      exact congrArg _ (List.append_nil _)
    rw [show consumed _ = consumed reads from congrArg Shown.bytes hshown] at hpeer
    obtain ⟨hheader, hbody, hbytes⟩ := frame_cancel (hframe' trivial) hframe hpeer
    rw [hbytes] at hshown
    exact ⟨hheader, hbody, hshown⟩
  cases hmove with
  | idle => exact absurd rfl hread
  | lost _ hnot => exact absurd trivial hnot
  | noted _ hes hnone =>
    obtain ⟨rfl, rfl, -⟩ := hfetched hes (List.append_nil _).symm rfl
    exact absurd (hnone htype) htopic
  | @delivered reads _ _ data _ hes hdata hqos =>
    obtain ⟨rfl, rfl, hshown⟩ := hfetched hes rfl (shown_deliveries a data)
    refine ⟨data, hdata, ?_⟩
    rw [hshown, if_pos hqos]
  | @acknowledged reads _ _ data pieces _ hes hdata hqos hpieces =>
    have hanswer : shown (a.deliveries data ++ writes pieces ++ [.sent data.answer]) =
        ⟨a.calls data, [data.answer], []⟩ := by
      rw [List.append_assoc, shown_append, shown_deliveries, shown_sent (isAck_answer data)]
      exact congrArg (Shown.mk · _ _) (List.append_nil _)
    obtain ⟨rfl, rfl, hshown⟩ := hfetched hes rfl hanswer
    refine ⟨data, hdata, ?_⟩
    rw [hshown, if_neg (by omega)]
  | unanswered _ _ hnot => exact absurd trivial hnot
  | pinged _ hpieces =>
    rw [consumed_append, consumed_writes] at hread
    exact absurd rfl hread
  | unsent _ _ hnot => exact absurd trivial hnot
  | closed => exact absurd rfl hread

/-- The message in the body of a packet that `MQTTSerialize_publish` has written. -/
theorem Holds.data_eq {data : PublishData} {dup retained : Bool} {qos packetid : ℕ}
    {topicName payload : CString} (hqos : qos < 3) (hid : packetid < 65536)
    (htopic : topicName.length < 65536)
    (hdata : Holds (MqttHeader.byte { type := 3, dup := dup, qos := qos, retain := retained })
      (publishPacketBody qos packetid topicName payload) data) :
    ∃ mem, data = { dup := dup, qos := qos, retained := retained,
                    packetid := if 0 < qos then some packetid else none,
                    topicName := bytes topicName, payload := bytes payload ++ mem,
                    payloadlen := payload.length } := by
  obtain ⟨-, topic, rest, mem, hsplit, hout⟩ := hdata
  have hheader : MqttHeader.Fits { type := 3, dup := dup, qos := qos, retain := retained } :=
    ⟨show 3 < 16 by omega, show qos < 4 by omega⟩
  rw [splitTopic_publishPacketBody htopic, Option.some_inj, Prod.mk.injEq] at hsplit
  obtain ⟨rfl, rfl⟩ := hsplit
  rw [MqttHeader.bits_byte hheader, publishOutputs_of_payload _ hid, length_bytes] at hout
  exact ⟨mem, (Option.some_inj.mp hout).symm⟩

/-- A packet of `MQTTSerialize_publish`, on the connection. -/
theorem frame_of_mqttSerializePublish {buflen qos packetid : ℕ} {dup retained : Bool}
    {topicName payload : CString}
    (hpacket : mqttSerializePublish buflen dup qos retained packetid topicName payload = some packet)
    (hlength : mqttSerializePublishLength qos topicName payload < 2 ^ 28) :
    Frame (MqttHeader.byte { type := 3, dup := dup, qos := qos, retain := retained })
      (publishPacketBody qos packetid topicName payload) packet := by
  rw [mqttSerializePublish] at hpacket
  split_ifs at hpacket
  obtain rfl := Option.some_inj.mp hpacket
  have hbytes := publishPacket_append dup qos retained packetid topicName payload []
  rw [List.append_nil] at hbytes
  rw [hbytes]
  exact frame_received (by rwa [length_publishPacketBody])

/-- A message on its way through `cycle`: if the next packet of the peer is a PUBLISH packet of
`MQTTSerialize_publish`, and anything is read of it, then, unless the session is closed or the packet
is cut short, it is read to its end, the handlers that take its topic are called once with its
payload, and it is acknowledged according to its quality of service, with its packet id. -/
theorem publish_delivered {buflen qos packetid turns timer timer' : ℕ} {rc : ℤ}
    {dup retained : Bool} {topicName payload : CString} {rest later : List UInt8}
    (hpacket : mqttSerializePublish buflen dup qos retained packetid topicName payload = some packet)
    (hqos : qos < 3) (hid : packetid < 65536) (htopic : topicName.length < 65536)
    (hlength : mqttSerializePublishLength qos topicName payload < 2 ^ 28)
    (hexec : (cycle turns timer).Exec c (rc, timer') es s) (hwhole : Whole es)
    (hrc : 0 ≤ rc ∨ s.isconnected = true) (hpeer : consumed es ++ rest = packet ++ later)
    (hread : consumed es ≠ []) :
    ∃ mem, consumed es = packet ∧
      handlerCalls es =
        (handlersFor c.messageHandlers c.defaultMessageHandler (bytes topicName)).map (fun fp =>
          (fp, bytes topicName, { qos := qos, retained := retained, dup := dup,
                                  id := if 0 < qos then some packetid else none,
                                  payload := bytes payload ++ mem,
                                  payloadlen := payload.length })) ∧
      acksSent es = if qos = 0 then [] else
        [ackPacket (if qos = 1 then MsgType.puback.toNat else MsgType.pubrec.toNat) false packetid] := by
  have hcycled := hexec.of_wlp (wlp_cycle)
  obtain ⟨es₁, beside, b, htr, hmove, hbeside⟩ :=
    hcycled.once.weaken fun (_ : True) => ⟨hwhole, hrc⟩
  rw [List.nil_append] at htr
  subst htr
  have hall : shown (es₁ ++ beside) = shown es₁ := by
    rw [shown_append, shown_of_aside hbeside]
    show Shown.mk _ _ _ = shown es₁
    rw [List.append_nil, List.append_nil, List.append_nil]
  have hconsumed : consumed (es₁ ++ beside) = consumed es₁ := congrArg Shown.bytes hall
  have hheader : MqttHeader.Fits { type := 3, dup := dup, qos := qos, retain := retained } :=
    ⟨show 3 < 16 by omega, show qos < 4 by omega⟩
  rw [hconsumed] at hpeer hread
  obtain ⟨data, hdata, hshown⟩ := hmove.shown_of_message
    (frame_of_mqttSerializePublish hpacket hlength)
    (by rw [splitTopic_publishPacketBody htopic]; exact Option.some_ne_none _)
    (by rw [MqttHeader.bits_byte hheader]; rfl) hpeer hread
  obtain ⟨mem, rfl⟩ := hdata.data_eq hqos hid htopic
  rw [← hall] at hshown
  refine ⟨mem, congrArg Shown.bytes hshown, (congrArg Shown.calls hshown).trans ?_,
    (congrArg Shown.acks hshown).trans ?_⟩
  · have hlen : payload.length < 2 ^ 32 := by
      unfold mqttSerializePublishLength at hlength
      omega
    unfold Session.calls PublishData.message
    rw [toUnsigned_natCast hlen]
    rfl
  · by_cases hzero : qos = 0
    · rw [if_pos hzero, if_pos hzero]
    · rw [if_neg hzero, if_neg hzero, PublishData.answer]
      simp only [Nat.pos_of_ne_zero hzero, if_true, Option.getD_some]

/-- A client with a handler for one topic. -/
def listeningClient : Client :=
  { smallClient with
    isconnected := true, messageHandlers := [{ topicFilter := some [97], fp := some 7 }] }

theorem publish_delivered_once : ∃ es mem, consumed es = [0x32, 6, 0, 1, 97, 0, 5, 98] ∧
    handlerCalls es = [7].map (fun fp => (fp, bytes ['a'],
      { qos := 1, retained := false, dup := false, id := some 5, payload := bytes ['b'] ++ mem,
        payloadlen := 1 })) ∧ acksSent es = [ackPacket 4 false 5] := by
  have htest : ((cycle 3 1000000).run (arriving 1 0x32 [0, 1, 97, 0, 5, 98] ++ taking 8)
      listeningClient).any (fun x => 0 ≤ x.1.1 ∧ Whole x.2.1 ∧
        consumed x.2.1 = [0x32, 6, 0, 1, 97, 0, 5, 98]) = true := by decide +kernel
  obtain ⟨⟨rc, timer⟩, es, s, hexec, hboth⟩ := Prog.exists_exec_of_run htest
  obtain ⟨hrc, hwhole, hconsumed⟩ := of_decide_eq_true hboth
  have hpacket : mqttSerializePublish 32 false 1 false 5 ['a'] ['b'] =
      some [0x32, 6, 0, 1, 97, 0, 5, 98] := by decide +kernel
  obtain ⟨mem, hbytes, hcalls, hacks⟩ := publish_delivered hpacket (by decide) (by decide) (by decide)
    (by decide) hexec hwhole (.inl hrc)
    (show consumed es ++ [] = [0x32, 6, 0, 1, 97, 0, 5, 98] ++ [] by rw [hconsumed])
    (by rw [hconsumed]; decide)
  exact ⟨es, mem, hbytes, hcalls, hacks⟩

end ZohoIotSdk.Paho
