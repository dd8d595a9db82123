import ZohoIotSdk.Codec.Peer
import ZohoIotSdk.Mqtt.Frames

/-!
# A session with a broker

The client and a broker that keeps to the rules of MQTT, each at its own pace: what the client
writes is on its way for as long as the broker likes, and so is what the broker sends.

`requests_arrive`: when a call has waited for an answer and succeeds, and no packet was cut short,
its packet has arrived, and so have all the requests of its kind before it, although no packet id is
compared.
`publish_qos2_fails`: `MQTTPublish` does not succeed with the quality of service 2.
-/

namespace ZohoIotSdk.Paho

open Atomic (Path Prog)
open Codec Machine

variable {P : Prop} {a b : Session} {c s s' : Client} {tr tr' es : List Event} {t : MsgType}
  {packet : List UInt8} {turns : ℕ} {call : Call}

/-! ## The rules of MQTT -/

/-- Do packets of the type answer the packets with that header? -/
def MsgType.answers (t : MsgType) (header : MqttHeader) : Bool :=
  match t with
  | .connack => header.type = MsgType.connect.toNat
  | .puback => header.type = MsgType.publish.toNat && header.qos = 1
  | .pubrec => header.type = MsgType.publish.toNat && header.qos = 2
  | .pubcomp => header.type = MsgType.pubrel.toNat
  | .suback => header.type = MsgType.subscribe.toNat
  | .unsuback => header.type = MsgType.unsubscribe.toNat
  | .pingresp => header.type = MsgType.pingreq.toNat
  | _ => false

/-- The header of a packet. -/
def headerOf (packet : List UInt8) : MqttHeader := MqttHeader.bits (packet.headD 0)

def isType (t : MsgType) (packet : List UInt8) : Bool := (headerOf packet).type = t.toNat

def isAnsweredBy (t : MsgType) (packet : List UInt8) : Bool := t.answers (headerOf packet)

def ruleFor (t : MsgType) : Rule UInt8 := { request := isAnsweredBy t, answer := isType t }

/-- A broker answers the requests that it has got, and answers each of them once. -/
def brokerRules : List (Rule UInt8) :=
  [.connack, .puback, .pubrec, .pubcomp, .suback, .unsuback, .pingresp].map ruleFor

/-- The client has left the trace, and the broker at the other end is where it is. -/
abbrev Served (tr : List Event) (broker : Peer UInt8) : Prop :=
  Peer.Attends IsFrame brokerRules Event.written Event.consumed {} tr broker

/-- A broker that is served keeps its own invariant. -/
theorem Served.sound {broker : Peer UInt8} (h : Served tr broker) :
    Peer.Sound IsFrame brokerRules (written tr) (consumed tr) broker :=
  Peer.Attends.sound h Peer.sound_nil

/-- The answers that a call waits for. -/
def awaited : List MsgType := [.connack, .puback, .pubcomp, .suback, .unsuback]

theorem ruleFor_mem (ht : t ∈ awaited) : ruleFor t ∈ brokerRules := by
  apply List.mem_map_of_mem
  revert ht
  cases t <;> decide

/-! ## Requests and answers of a trace -/

def requestsSent (t : MsgType) (tr : List Event) : ℕ := (sentPackets tr).countP (isAnsweredBy t)

def answersReceived (t : MsgType) (tr : List Event) : ℕ :=
  (receivedPackets tr).countP fun p => (MqttHeader.bits p.1).type = t.toNat

/-- There is an answer for each of the requests. -/
def Answered (t : MsgType) (tr : List Event) : Prop := requestsSent t tr ≤ answersReceived t tr

theorem requestsSent_append (tr es : List Event) :
    requestsSent t (tr ++ es) = requestsSent t tr + requestsSent t es := by
  rw [requestsSent, sentPackets_append, List.countP_append, requestsSent, requestsSent]

theorem answersReceived_append (tr es : List Event) :
    answersReceived t (tr ++ es) = answersReceived t tr + answersReceived t es := by
  rw [answersReceived, receivedPackets_append, List.countP_append, answersReceived, answersReceived]

theorem Answered.append (h : Answered t tr) (hes : Answered t es) : Answered t (tr ++ es) := by
  rw [Answered, requestsSent_append, answersReceived_append]
  exact Nat.add_le_add h hes

/-- A stretch without requests is answered. -/
theorem answered_of_requestsSent (h : requestsSent t es = 0) : Answered t es := by
  rw [Answered, h]
  exact Nat.zero_le _

/-- The answers, among the bytes of the packets. -/
theorem Frames.countP {packets : List (UInt8 × List UInt8)} {raws : List (List UInt8)}
    (hframes : Frames packets raws) :
    packets.countP (fun p => (MqttHeader.bits p.1).type = t.toNat) = raws.countP (isType t) := by
  induction hframes with
  | nil => rfl
  | cons hframe _ ih =>
    rw [List.countP_cons, List.countP_cons, ih, isType, headerOf, frame_head hframe]

theorem requestsSent_of_no_sent (hes : ∀ p, Event.sent p ∉ es) : requestsSent t es = 0 := by
  have hnone : sentPackets es = [] := List.flatMap_eq_nil_iff.mpr fun e he => by
    cases e with
    | sent packet => exact absurd he (hes packet)
    | _ => rfl
  rw [requestsSent, hnone, List.countP_nil]

/-- An acknowledgement asks for none of the awaited answers. -/
theorem isAnsweredBy_answer (ht : t ∈ awaited) (data : PublishData) :
    isAnsweredBy t data.answer = false := by
  unfold PublishData.answer
  split_ifs
  · show t.answers (MqttHeader.bits (MqttHeader.byte { type := MsgType.puback.toNat })) = false
    revert ht
    cases t <;> decide
  · show t.answers (MqttHeader.bits (MqttHeader.byte { type := MsgType.pubrec.toNat })) = false
    revert ht
    cases t <;> decide

theorem isAnsweredBy_pingreqPacket (ht : t ∈ awaited) : isAnsweredBy t pingreqPacket = false := by
  show t.answers (MqttHeader.bits (MqttHeader.byte { type := MsgType.pingreq.toNat })) = false
  revert ht
  cases t <;> decide

/-- `cycle` sends no requests. -/
theorem requestsSent_of_path (hpath : Path (Move P) a es b) (ht : t ∈ awaited) :
    requestsSent t es = 0 := by
  refine hpath.invariant (I := fun _ tr => requestsSent t tr = 0) ?_ rfl
  intro _ tr es _ htr hmove
  rw [requestsSent_append, htr, Nat.zero_add, requestsSent]
  rcases hmove.event with ⟨rfl, -⟩ | ⟨hevents, -⟩
  · rfl
  rw [List.countP_eq_zero]
  intro packet hpacket
  obtain ⟨e, he, hpacket⟩ := List.mem_flatMap.mp hpacket
  cases hevents e he with
  | answer data =>
    rw [List.mem_singleton.mp hpacket, isAnsweredBy_answer ht]
    exact Bool.false_ne_true
  | pingreq =>
    rw [List.mem_singleton.mp hpacket, isAnsweredBy_pingreqPacket ht]
    exact Bool.false_ne_true
  | _ => cases hpacket

/-- A completed exchange has received its answer. -/
theorem Exchanged.answersReceived_pos (h : Exchanged packet (some t) tr s (tr ++ es)) :
    0 < answersReceived t es := by
  obtain ⟨es₁, es₂, a, b, htr, -, -, hreceived⟩ := h.sent
  obtain rfl := List.append_cancel_left htr
  obtain ⟨header, body, mem, htype, -, -, hmem⟩ := hreceived t rfl
  rw [answersReceived, List.countP_pos_iff]
  refine ⟨(header, body), List.mem_flatMap.mpr ⟨.received header body, ?_, ?_⟩,
    decide_eq_true htype⟩
  · exact List.mem_append_right _ hmem
  · exact List.mem_singleton_self _

/-- A completed exchange has sent its packet. -/
theorem Exchanged.mem_sentPackets {answer : Option MsgType}
    (h : Exchanged packet answer tr s (tr ++ es)) : packet ∈ sentPackets es := by
  obtain ⟨es₁, es₂, a, b, htr, -⟩ := h.sent
  obtain rfl := List.append_cancel_left htr
  refine List.mem_flatMap.mpr ⟨.sent packet, ?_, List.mem_singleton_self _⟩
  exact List.mem_append_left _ (List.mem_append_right _ (List.mem_singleton_self _))

/-- A request that has been answered. -/
theorem Exchanged.answered {answer : Option MsgType} (h : Exchanged packet answer tr s (tr ++ es))
    (ht : t ∈ awaited) (hanswer : isAnsweredBy t packet = true → answer = some t) :
    Answered t es := by
  obtain ⟨es₁, es₂, a, b, htr, hes₁, hpath, -⟩ := h.sent
  have hone : requestsSent t es = List.countP (isAnsweredBy t) [packet] := by
    rw [List.append_cancel_left htr, requestsSent_append, requestsSent_append,
      requestsSent_of_no_sent hes₁, requestsSent_of_path hpath ht, Nat.zero_add, Nat.add_zero]
    rfl
  rw [Answered, hone, List.countP_singleton]
  split_ifs with hrequest
  · rw [hanswer hrequest] at h
    exact h.answersReceived_pos
  · exact Nat.zero_le _

/-! ## The calls -/

/-- The answer that a call waits for. -/
def Call.answer : Call → Option MsgType
  | .subscribe .. => some .suback
  | .unsubscribe _ => some .unsuback
  | .publish _ message => publishAnswer message.qos
  | _ => none

/-- The packet of a call that sends a request. -/
def Call.requestPacket (a : Session) : Call → Option (List UInt8)
  | .subscribe topicFilter qos _ =>
    mqttSerializeSubscribe a.bufSize false a.nextId [({ cstring := some topicFilter }, qos)]
  | .unsubscribe topicFilter =>
    mqttSerializeUnsubscribe a.bufSize false a.nextId [{ cstring := some topicFilter }]
  | .publish topicName message =>
    mqttSerializePublish a.bufSize false message.qos message.retained (message.packetid a)
      topicName message.payload
  | _ => none

def Call.isRequest : Call → Bool
  | .subscribe .. => true
  | .unsubscribe _ => true
  | .publish .. => true
  | _ => false

theorem Call.isRequest_of_answer (h : call.answer = some t) : call.isRequest = true := by
  cases call <;> first | rfl | cases h

/-- The answers of the calls are the awaited ones. -/
theorem Call.mem_awaited (h : call.answer = some t) : t ∈ awaited := by
  cases call with
  | subscribe => cases h; decide
  | unsubscribe => cases h; decide
  | publish topicName message =>
    have hanswer : publishAnswer message.qos = some t := h
    rw [publishAnswer] at hanswer
    split_ifs at hanswer <;> cases hanswer <;> decide
  | _ => cases h

/-- The calls that send a request. -/
theorem wlp_requestCall (hsize : c.buf.length < 2 ^ 28) (hvalid : call.Valid)
    (hrequest : call.isRequest = true) : (call.program turns).wlp
      (Called (fun packet => call.requestPacket c.session = some packet) call.answer c tr) c tr := by
  cases call with
  | subscribe topicFilter qos fp => exact wlp_mqttSubscribe hsize topicFilter qos fp
  | unsubscribe topicFilter => exact wlp_mqttUnsubscribe hsize topicFilter
  | publish topicName message => exact wlp_mqttPublish hsize topicName hvalid
  | _ => exact absurd hrequest Bool.false_ne_true

/-- A packet asks for the answers of its type. -/
theorem IsPacket.answers {size qos : ℕ} {type : MsgType} (h : IsPacket size type qos packet) :
    isAnsweredBy t packet = t.answers { type := type.toNat, qos := qos } := by
  obtain ⟨header, body, rfl, -, htype, hqos⟩ := h
  show t.answers (MqttHeader.bits header) = _
  cases t <;> simp only [MsgType.answers, htype, hqos]

/-- What a call waits for is the answer to its request, but for PUBCOMP. -/
theorem Call.isAnsweredBy_iff (hpacket : call.requestPacket a = some packet) (hvalid : call.Valid)
    (hsize : a.bufSize < 2 ^ 28) (ht : t ∈ awaited) :
    isAnsweredBy t packet = true ↔ t ≠ .pubcomp ∧ call.answer = some t := by
  cases call with
  | subscribe topicFilter qos fp =>
    rw [(isPacket_subscribe hsize hpacket).answers]
    show _ ↔ _ ∧ some MsgType.suback = some t
    revert ht
    cases t <;> decide
  | unsubscribe topicFilter =>
    rw [(isPacket_unsubscribe hsize hpacket).answers]
    show _ ↔ _ ∧ some MsgType.unsuback = some t
    revert ht
    cases t <;> decide
  | publish topicName message =>
    have hqos : message.qos < 3 := hvalid
    rw [(isPacket_publish (by omega) hsize hpacket).answers]
    show _ ↔ _ ∧ publishAnswer message.qos = some t
    generalize message.qos = qos at hqos
    revert ht
    obtain rfl | rfl | rfl : qos = 0 ∨ qos = 1 ∨ qos = 2 := by omega
    all_goals cases t <;> decide
  | yield => cases hpacket
  | setMessageHandler => cases hpacket
  | disconnect => cases hpacket

/-- A call that has waited for an answer has got one to its request. -/
theorem Called.answered {rc : ℤ}
    (h : Called (fun packet => call.requestPacket c.session = some packet) call.answer c tr rc s
      (tr ++ es)) (hsize : c.buf.length < 2 ^ 28) (hvalid : call.Valid) (ht : t ∈ awaited)
    (hrc : rc = success) : Answered t es := by
  obtain ⟨-, packet, hpacket, hexchanged⟩ := h.exchanged hrc
  apply hexchanged.answered ht
  intro hrequest
  exact ((Call.isAnsweredBy_iff hpacket hvalid hsize ht).mp hrequest).2

/-- A call that leaves the session open has got an answer to its request, if it has sent one. -/
theorem call_answered (hsize : c.buf.length < 2 ^ 28) (hvalid : call.Valid) (ht : t ∈ awaited)
    {rc : ℤ} (hexec : (call.program turns).Exec c rc es s) (hs : s.isconnected = true) :
    Answered t es := by
  cases hrequest : call.isRequest with
  | true =>
    have hcalled := hexec.of_wlp (wlp_requestCall hsize hvalid hrequest)
    apply hcalled.answered hsize hvalid ht
    rcases hcalled.result with hrc | hrc
    · exact hrc
    · rw [hcalled.closed hrc] at hs
      exact absurd hs Bool.false_ne_true
  | false =>
    cases call with
    | yield timeoutMs =>
      obtain ⟨es', htr, hpath⟩ := hexec.of_wlp (wlp_mqttYield timeoutMs)
      rw [List.nil_append] at htr
      subst htr
      exact answered_of_requestsSent (requestsSent_of_path hpath ht)
    | setMessageHandler topicFilter fp =>
      obtain ⟨hnil, -⟩ := hexec.of_wlp (wlp_mqttSetMessageHandler (P := True) topicFilter fp)
      subst hnil
      exact answered_of_requestsSent rfl
    | disconnect =>
      obtain ⟨-, hclosed⟩ := hexec.of_wlp (wlp_mqttDisconnect hsize)
      rw [hclosed] at hs
      exact absurd hs Bool.false_ne_true
    | _ => exact absurd hrequest.symm Bool.false_ne_true

/-- As long as a session is open, there is an answer for each of its requests. -/
theorem SessionRun.answered (h : SessionRun c tr s) (hc : c.isconnected = false)
    (hsize : c.buf.length < 2 ^ 28) (ht : t ∈ awaited) (hs : s.isconnected = true) :
    Answered t tr := by
  induction h with
  | @connect turns options rc s tr hoptions hexec =>
    have hconnected := hexec.of_wlp (wlp_mqttConnect hsize hoptions)
    obtain ⟨packet, before, hpacket, hexchanged, htr⟩ :=
      hconnected.exchanged (hconnected.result.mpr ⟨hc, hs⟩)
    subst htr
    rw [← List.nil_append before] at hexchanged
    have hbefore : Answered t before := by
      apply hexchanged.answered ht
      rw [(isPacket_connect hoptions hsize hpacket).answers]
      revert ht
      cases t <;> decide
    exact hbefore.append (answered_of_requestsSent rfl)
  | @call turns call rc s s' tr es before hvalid hexec ih =>
    have hmoves := before.moves hc hsize
    have hsize' := hmoves.bufSize ▸ hsize
    have hopen : s.isconnected = true :=
      (hexec.wlp_append tr (wlp_call hsize' hvalid)).isconnected hs
    exact (ih hopen).append (call_answered hsize' hvalid ht hexec hs)

/-! ## What arrives -/

/-- Nothing has gone wrong up to the end of a call that succeeds. -/
theorem SessionRun.path_of_success (h : SessionRun c tr s) (hc : c.isconnected = false)
    (hsize : c.buf.length < 2 ^ 28) (hs : s.isconnected = true) (hvalid : call.Valid)
    (hexec : (call.program turns).Exec s success es s') (hwhole : Whole (tr ++ es)) :
    Path (SessionMove True) c.session (tr ++ es) s'.session := by
  have hmoves := h.moves hc hsize
  have hcall := hexec.wlp_append tr (wlp_call (hmoves.bufSize ▸ hsize) hvalid)
  obtain ⟨es', htr, hpath⟩ := (hmoves.weaken fun (_ : True) =>
    ⟨(whole_append.mp hwhole).1, hs⟩).trans (hcall.weaken fun _ => ⟨hwhole, .inl le_rfl⟩).session
  rw [List.nil_append] at htr
  rwa [htr]

/-- What a broker knows and what the client has received, as the rules of MQTT have it. -/
theorem Served.requests_got {broker : Peer UInt8} (h : Served tr broker) (hframed : Framed tr)
    (ht : t ∈ awaited) (hanswered : Answered t tr) :
    broker.got.filter (isAnsweredBy t) = (sentPackets tr).filter (isAnsweredBy t) := by
  have hsound := h.sound
  obtain ⟨raws, hconsumed, hframes⟩ := hframed.consumed
  rw [hframed.written, hconsumed] at hsound
  apply hsound.requests_got prefixFree_isFrame hframed.sent hframes.isFrame (ruleFor_mem ht)
  show (sentPackets tr).countP (isAnsweredBy t) ≤ raws.countP (isType t)
  rw [← hframes.countP]
  exact hanswered

/-- No call sends PUBREL. -/
theorem requestsSent_pubcomp (hpath : Path (SessionMove P) a tr b) :
    requestsSent .pubcomp tr = 0 := by
  have hcomp : MsgType.pubcomp ∈ awaited := by decide
  refine hpath.invariant (I := fun _ tr => requestsSent .pubcomp tr = 0) ?_ rfl
  intro d tr es e htr hmove
  rw [requestsSent_append, htr, Nat.zero_add]
  cases hmove with
  | call hcall =>
    cases hcall with
    | move hmove => exact requestsSent_of_path (.single hmove) hcomp
    | packetId => rfl
    | @sent type qos packet pieces _ htype _ hpacket =>
      have hne : type.toNat ≠ MsgType.pubrel.toNat := by
        revert htype
        cases type <;> decide
      have hfalse : MsgType.pubcomp.answers { type := type.toNat, qos := qos } = false :=
        decide_eq_false hne
      rw [requestsSent, sentPackets_sent, List.countP_singleton, hpacket.answers, hfalse]
      rfl
    | handler => rfl
  | options => rfl
  | opened => rfl

/-- No answer comes without its request. -/
theorem Served.answersReceived_le {broker : Peer UInt8} (h : Served tr broker)
    (hframed : Framed tr) (ht : t ∈ awaited) : answersReceived t tr ≤ requestsSent t tr := by
  have hsound := h.sound
  obtain ⟨raws, hconsumed, hframes⟩ := hframed.consumed
  rw [hframed.written, hconsumed] at hsound
  have hle := hsound.countP_received_le prefixFree_isFrame hframes.isFrame (ruleFor_mem ht)
  have hgot := (hsound.got_isPrefix prefixFree_isFrame hframed.sent).countP_le
    (p := isAnsweredBy t)
  rw [answersReceived, hframes.countP]
  exact hle.trans hgot

/-- No PUBCOMP is received, as no PUBREL is sent. -/
theorem Served.no_pubcomp {broker : Peer UInt8} (h : Served tr broker)
    (hpath : Path (SessionMove True) a tr b) (hsize : a.bufSize < 2 ^ 28) :
    answersReceived .pubcomp tr = 0 := by
  have hle := h.answersReceived_le (t := .pubcomp) (framed_of_path hpath hsize) (by decide)
  rw [requestsSent_pubcomp hpath] at hle
  exact Nat.le_zero.mp hle

section Init

variable {commandTimeoutMs : ℕ} {sendbuf readbuf : List UInt8} {broker : Peer UInt8}

/-- With the quality of service 2, `MQTTPublish` does not succeed in any session, if no packet has
been cut short and the broker keeps to the rules: it has to wait for a PUBREL before it sends
PUBCOMP, and none is ever sent. -/
theorem publish_qos2_fails (hsize : sendbuf.length < 2 ^ 28)
    (h : SessionRun (mqttClientInit commandTimeoutMs sendbuf readbuf) tr s) {topicName : CString}
    {message : OutgoingMessage} (hqos : message.qos = 2) {rc : ℤ}
    (hexec : (mqttPublish turns topicName message).Exec s rc es s') (hwhole : Whole (tr ++ es))
    (hserved : Served (tr ++ es) broker) : rc = failure ∧ s'.isconnected = false := by
  have hvalid : (Call.publish topicName message).Valid := show message.qos < 3 by omega
  have hsize' : s.buf.length < 2 ^ 28 := (h.moves rfl hsize).bufSize ▸ hsize
  have hcalled := hexec.of_wlp (wlp_mqttPublish hsize' topicName hvalid)
  rcases hcalled.result with rfl | hrc
  · exfalso
    obtain ⟨hs, packet, -, hexchanged⟩ := hcalled.exchanged rfl
    have hpath := h.path_of_success rfl hsize hs hvalid hexec hwhole
    have hnone := hserved.no_pubcomp hpath hsize
    rw [answersReceived_append] at hnone
    have hanswer : publishAnswer message.qos = some .pubcomp := by
      rw [hqos]
      rfl
    rw [hanswer] at hexchanged
    have hpos : 0 < answersReceived .pubcomp es := hexchanged.answersReceived_pos
    omega
  · exact ⟨hrc, hcalled.closed hrc⟩

/-- When a call that waits for an answer succeeds and no packet has been cut short, its packet has
arrived at the broker, and so have all requests of its kind before it, in the same order. The rest
of a packet that was cut short could be taken for the answer. -/
theorem requests_arrive (hsize : sendbuf.length < 2 ^ 28)
    (h : SessionRun (mqttClientInit commandTimeoutMs sendbuf readbuf) tr s) (hvalid : call.Valid)
    (hexec : (call.program turns).Exec s success es s') (hanswer : call.answer = some t)
    (hwhole : Whole (tr ++ es)) (hserved : Served (tr ++ es) broker) :
    ∃ packet, call.requestPacket s.session = some packet ∧ packet ∈ broker.got ∧
      broker.got.filter (isAnsweredBy t) = (sentPackets (tr ++ es)).filter (isAnsweredBy t) := by
  have ht := Call.mem_awaited hanswer
  have hsize' : s.buf.length < 2 ^ 28 := (h.moves rfl hsize).bufSize ▸ hsize
  have hcalled := hexec.of_wlp
    (wlp_requestCall hsize' hvalid (Call.isRequest_of_answer hanswer))
  obtain ⟨hs, packet, hpacket, hexchanged⟩ := hcalled.exchanged rfl
  have hpath := h.path_of_success rfl hsize hs hvalid hexec hwhole
  have hgot := hserved.requests_got (framed_of_path hpath hsize) ht
    ((h.answered rfl hsize ht hs).append (hcalled.answered hsize' hvalid ht rfl))
  refine ⟨packet, hpacket, ?_, hgot⟩
  have hrequest : isAnsweredBy t packet = true := by
    refine (Call.isAnsweredBy_iff hpacket hvalid hsize' ht).mpr ⟨?_, hanswer⟩
    rintro rfl
    have hnone := hserved.no_pubcomp hpath hsize
    rw [answersReceived_append] at hnone
    rw [hanswer] at hexchanged
    have hpos : 0 < answersReceived .pubcomp es := hexchanged.answersReceived_pos
    omega
  have hmem : packet ∈ (sentPackets (tr ++ es)).filter (isAnsweredBy t) := by
    rw [List.mem_filter, sentPackets_append]
    exact ⟨List.mem_append_right _ hexchanged.mem_sentPackets, hrequest⟩
  rw [← hgot] at hmem
  exact (List.mem_filter.mp hmem).1

end Init

/-! ## A broker that answers -/

/-- The bytes stored of a packet are a frame. -/
theorem isFrame_received {h : UInt8} {body packet : List UInt8} (hbody : body.length < 2 ^ 28)
    (hpacket : received h body [] = packet) : IsFrame packet := by
  subst hpacket
  exact ⟨h, body, frame_received hbody⟩

/-- The client behind `MQTTConnect`. -/
def connectedClient : Client :=
  ((runSession 3 {} connackReplies [] smallClient).map Prod.snd).getD smallClient

/-- CONNECT without a client id. -/
def connectBytes : List UInt8 := [16, 12, 0, 4, 77, 81, 84, 84, 4, 2, 0, 60, 0, 0]

/-- A CONNACK, PUBACK or PUBREC packet that is read. -/
def answerEvents (header high low : UInt8) : List Event :=
  [.read .header 1 [header], .read .length 1 [2], .read .body 2 [high, low],
    .received header [high, low]]

/-- The trace of `MQTTConnect`. -/
def connectEvents : List Event :=
  [.wrote connectBytes, .sent connectBytes] ++ (answerEvents 0x20 0 0 ++ [.connected])

theorem sessionRun_connect : SessionRun smallClient connectEvents connectedClient := by
  have hrun : (mqttConnect 3 {}).run connackReplies smallClient =
      some (success, connectEvents, connectedClient) := by decide +kernel
  exact .connect fits_default (Prog.exec_of_run hrun)

/-- A broker that has accepted the connection. -/
def greeted : Peer UInt8 := { got := [connectBytes], posted := [[0x20, 2, 0, 0]] }

theorem served_connect : Served connectEvents greeted := by
  have hconnect : IsFrame connectBytes :=
    @isFrame_received 16 [0, 4, 77, 81, 84, 84, 4, 2, 0, 60, 0, 0] _ (by decide) (by decide +kernel)
  have hconnack : IsFrame [0x20, 2, 0, 0] :=
    @isFrame_received 0x20 [0, 0] _ (by decide) (by decide +kernel)
  exact Peer.Attends.exchange (.nil {}) rfl rfl hconnect hconnack (by decide) (by decide) (by decide)

/-- A PUBLISH packet with the packet id 2. -/
def publishBytes (header : UInt8) : List UInt8 := [header, 6, 0, 1, 97, 0, 2, 98]

/-- The packet is sent. -/
def requestEvents (header : UInt8) : List Event :=
  [.packetId 2, .wrote (publishBytes header), .sent (publishBytes header)]

/-- The trace of `MQTTPublish` up to the answer. -/
def publishEvents (header answer : UInt8) : List Event :=
  requestEvents header ++ answerEvents answer 0 2

theorem served_publish (header answer : UInt8)
    (hrules : ∀ rule ∈ brokerRules, rule.answer [answer, 2, 0, 2] = true →
      greeted.posted.countP rule.answer <
        (greeted.got ++ [publishBytes header]).countP rule.request) :
    Served (connectEvents ++ publishEvents header answer)
      { got := [connectBytes, publishBytes header],
        posted := [[0x20, 2, 0, 0], [answer, 2, 0, 2]] } := by
  have hpublish : IsFrame (publishBytes header) :=
    @isFrame_received header [0, 1, 97, 0, 2, 98] _ (by decide) (by
      rw [received, mqttPacketEncode_of_lt (by decide)]
      rfl)
  have hanswer : IsFrame [answer, 2, 0, 2] :=
    @isFrame_received answer [0, 2] _ (by decide) (by
      rw [received, mqttPacketEncode_of_lt (by decide)]
      rfl)
  have hserved := Peer.Attends.exchange served_connect rfl rfl hpublish hanswer
    (show (requestEvents header).flatMap Event.written = publishBytes header ∧
      (requestEvents header).flatMap Event.consumed = [] from ⟨rfl, rfl⟩)
    (show (answerEvents answer 0 2).flatMap Event.written = [] ∧
      (answerEvents answer 0 2).flatMap Event.consumed = [answer, 2, 0, 2] from ⟨rfl, rfl⟩) hrules
  rwa [List.append_assoc] at hserved

theorem publish_arrives : ∃ broker : Peer UInt8, ∃ packet,
    answeredPublish.1.requestPacket connectedClient.session = some packet ∧ packet ∈ broker.got ∧
      broker.got.filter (isAnsweredBy .puback) =
        (sentPackets (connectEvents ++ publishEvents 0x32 0x40)).filter (isAnsweredBy .puback) := by
  have htest : ((answeredPublish.1.program 3).run answeredPublish.2 connectedClient).any
      (fun x => x.1 = success ∧ x.2.1 = publishEvents 0x32 0x40) = true := by decide +kernel
  obtain ⟨rc, es, s, hexec, hboth⟩ := Prog.exists_exec_of_run htest
  obtain ⟨rfl, rfl⟩ := of_decide_eq_true hboth
  exact ⟨_, requests_arrive (by decide) sessionRun_connect (by decide) hexec rfl (by decide)
    (served_publish 0x32 0x40 (by decide))⟩

/-- The answers to a message with the quality of service 2: PUBREC, and nothing else. -/
def pubrecReplies : List Reply :=
  arriving 12 0x50 [0, 2] ++ List.replicate 20 { now := 5000000, count := 32 }

/-- Nothing more arrives, and the session is closed. -/
def silenceEvents : List Event := [.read .header 1 [], .closed]

theorem publish_qos2_pubrec : ∃ rc s', (mqttPublish 3 ['a'] { qos := 2, payload := ['b'] }).Exec
    connectedClient rc (publishEvents 0x34 0x50 ++ silenceEvents) s' ∧ rc = failure ∧
      s'.isconnected = false := by
  have htest : ((mqttPublish 3 ['a'] { qos := 2, payload := ['b'] }).run pubrecReplies
      connectedClient).any (fun x => x.2.1 = publishEvents 0x34 0x50 ++ silenceEvents) = true := by
    decide +kernel
  obtain ⟨rc, es, s, hexec, hes⟩ := Prog.exists_exec_of_run htest
  obtain rfl := of_decide_eq_true hes
  have hserved := (served_publish 0x34 0x50 (by decide)).events
    (show [] = silenceEvents.flatMap Event.consumed ++ [] from rfl)
  rw [List.append_assoc] at hserved
  exact ⟨rc, s, hexec, publish_qos2_fails (by decide) sessionRun_connect rfl hexec (by decide)
    hserved⟩

end ZohoIotSdk.Paho
