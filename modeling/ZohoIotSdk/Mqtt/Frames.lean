import ZohoIotSdk.Codec.Framing
import ZohoIotSdk.Mqtt.SessionRuns

/-!
# The two streams of a session

`SessionRun`: `MQTTConnect` on a fresh connection, and any calls after it. As long as the session is
open and no packet has been cut short, what has been written are the packets that have been sent,
and what has been read are the packets that have been received (`SessionRun.framed`). Packets are
the words of a prefix code, so that they are the first packets of the peer
(`received_isPrefix`).
-/

namespace ZohoIotSdk.Paho

open Atomic (Follows Path Prog)
open Codec Machine

variable {P : Prop} {a b : Session} {c s : Client} {tr tr' es : List Event} {h h' : UInt8}
  {body body' packet packet' : List UInt8}

/-! ## Packets are a prefix code -/

/-- A packet, as a peer may send it. -/
def IsFrame (packet : List UInt8) : Prop := ∃ h body, Frame h body packet

/-- Two frames at the start of the same bytes are the same. -/
theorem frame_cancel {x y : List UInt8} (hframe : Frame h body packet)
    (hframe' : Frame h' body' packet') (heq : packet ++ x = packet' ++ y) :
    h = h' ∧ body = body' ∧ packet = packet' := by
  obtain ⟨field, rfl, hfield⟩ := hframe
  obtain ⟨field', rfl, hfield'⟩ := hframe'
  rw [List.cons_append, List.cons_append, List.cons.injEq, List.append_assoc,
    List.append_assoc] at heq
  obtain ⟨rfl, heq⟩ := heq
  obtain ⟨len, hdecode, hlen⟩ := hfield (body ++ x)
  obtain ⟨len', hdecode', hlen'⟩ := hfield' (body' ++ y)
  -- both length fields are read from the same bytes
  rw [heq, hdecode', Option.some_inj, Prod.mk.injEq] at hdecode
  obtain ⟨rfl, hbody⟩ := hdecode
  obtain ⟨rfl, hrest⟩ := List.append_inj heq (hlen.trans hlen'.symm)
  obtain ⟨rfl, -⟩ := List.append_inj hrest hbody.symm
  exact ⟨rfl, rfl, rfl⟩

/-- No frame is a proper prefix of another. -/
theorem prefixFree_isFrame : PrefixFree IsFrame where
  nonempty := by
    rintro _ ⟨h, body, field, rfl, -⟩
    exact List.cons_ne_nil _ _
  unique := by
    rintro u v x y ⟨h, body, hframe⟩ ⟨h', body', hframe'⟩ heq
    exact (frame_cancel hframe hframe' heq).2.2

/-- What a serializer writes is a packet. -/
theorem frame_received (hbody : body.length < 2 ^ 28) : Frame h body (received h body []) := by
  refine ⟨mqttPacketEncode body.length, by rw [received, List.append_nil], fun rest => ?_⟩
  refine ⟨_, mqttPacketDecode_encode hbody rest, ?_⟩
  rw [length_mqttPacketEncode]
  have hlog : Nat.log 128 body.length < 4 := Nat.log_lt_of_lt_pow' (by omega) (by omega)
  omega

theorem frame_head (hframe : Frame h body packet) : packet.headD 0 = h := by
  obtain ⟨field, rfl, -⟩ := hframe
  rfl

/-- The packets, and the bytes of each of them. -/
abbrev Frames : List (UInt8 × List UInt8) → List (List UInt8) → Prop :=
  List.Forall₂ fun p raw => Frame p.1 p.2 raw

theorem Frames.isFrame {packets : List (UInt8 × List UInt8)} {raws : List (List UInt8)}
    (hframes : Frames packets raws) : ∀ raw ∈ raws, IsFrame raw := by
  induction hframes with
  | nil => exact nofun
  | cons hframe _ ih => exact List.forall_mem_cons.mpr ⟨⟨_, _, hframe⟩, ih⟩

/-- Packets are known by their bytes. -/
theorem Frames.isPrefix {packets packets' : List (UInt8 × List UInt8)}
    {raws raws' : List (List UInt8)} (hframes : Frames packets raws)
    (hframes' : Frames packets' raws') (hpre : raws <+: raws') : packets <+: packets' := by
  induction hframes generalizing packets' raws' with
  | nil => exact List.nil_prefix
  | cons hframe _ ih =>
    obtain ⟨rest, rfl⟩ := hpre
    cases hframes' with
    | cons hframe' hrest =>
      obtain ⟨hheader, hbody, -⟩ := frame_cancel (x := []) (y := []) hframe hframe' rfl
      rw [List.cons_prefix_cons]
      exact ⟨Prod.ext hheader hbody, ih hrest (List.prefix_append ..)⟩

/-! ## What the parts of a move show -/

@[simp] theorem sentPackets_append (tr es : List Event) :
    sentPackets (tr ++ es) = sentPackets tr ++ sentPackets es := List.flatMap_append

@[simp] theorem receivedPackets_append (tr es : List Event) :
    receivedPackets (tr ++ es) = receivedPackets tr ++ receivedPackets es := List.flatMap_append

section Projections

variable {α : Type} {f : Event → List α}

theorem flatMap_fetched (hreads : ReadsOnly es) (hf : ∀ site n data, f (.read site n data) = []) :
    (es ++ [Event.received h body]).flatMap f = f (.received h body) := by
  have hes : es.flatMap f = [] := List.flatMap_eq_nil_iff.mpr fun e he => by
    obtain ⟨site, n, data, rfl⟩ := hreads e he
    exact hf site n data
  rw [List.flatMap_append, hes, List.flatMap_cons, List.flatMap_nil, List.append_nil,
    List.nil_append]

theorem flatMap_sent {pieces : List (List UInt8)} (hf : ∀ data, f (.wrote data) = []) :
    (writes pieces ++ [Event.sent packet]).flatMap f = f (.sent packet) := by
  have hwrites : (writes pieces).flatMap f = [] := List.flatMap_eq_nil_iff.mpr fun e he => by
    obtain ⟨data, -, rfl⟩ := List.mem_map.mp he
    exact hf data
  rw [List.flatMap_append, hwrites, List.flatMap_cons, List.flatMap_nil, List.append_nil,
    List.nil_append]

theorem flatMap_deliveries {data : PublishData}
    (hf : ∀ fp topicName message, f (.handler fp topicName message) = []) :
    (a.deliveries data).flatMap f = [] := by
  refine List.flatMap_eq_nil_iff.mpr fun e he => ?_
  obtain ⟨fp, -, rfl⟩ := List.mem_map.mp he
  exact hf ..

end Projections

variable {pieces : List (List UInt8)}

theorem sentPackets_fetched (hreads : ReadsOnly es) : sentPackets (es ++ [.received h body]) = [] :=
  flatMap_fetched hreads fun _ _ _ => rfl

theorem receivedPackets_fetched (hreads : ReadsOnly es) :
    receivedPackets (es ++ [.received h body]) = [(h, body)] :=
  flatMap_fetched hreads fun _ _ _ => rfl

theorem sentPackets_sent : sentPackets (writes pieces ++ [.sent packet]) = [packet] :=
  flatMap_sent fun _ => rfl

theorem receivedPackets_sent : receivedPackets (writes pieces ++ [.sent packet]) = [] :=
  flatMap_sent fun _ => rfl

theorem sentPackets_deliveries (a : Session) (data : PublishData) :
    sentPackets (a.deliveries data) = [] := flatMap_deliveries fun _ _ _ => rfl

theorem receivedPackets_deliveries (a : Session) (data : PublishData) :
    receivedPackets (a.deliveries data) = [] := flatMap_deliveries fun _ _ _ => rfl

/-! ## The streams of a trace -/

/-- What has been written are the packets that have been sent, and what has been read are the
packets that have been received. -/
structure Framed (tr : List Event) : Prop where
  written : written tr = (sentPackets tr).flatten
  sent : ∀ packet ∈ sentPackets tr, IsFrame packet
  consumed : ∃ raws, consumed tr = raws.flatten ∧ Frames (receivedPackets tr) raws

theorem framed_nil : Framed [] := ⟨rfl, nofun, [], rfl, .nil⟩

theorem Framed.append (h : Framed tr) (hes : Framed es) : Framed (tr ++ es) where
  written := by
    rw [written_append, sentPackets_append, List.flatten_append, h.written, hes.written]
  sent := by
    rw [sentPackets_append]
    exact List.forall_mem_append.mpr ⟨h.sent, hes.sent⟩
  consumed := by
    obtain ⟨raws, hconsumed, hframes⟩ := h.consumed
    obtain ⟨raws', hconsumed', hframes'⟩ := hes.consumed
    refine ⟨raws ++ raws', ?_, ?_⟩
    · rw [consumed_append, hconsumed, hconsumed', List.flatten_append]
    · rw [receivedPackets_append]
      exact List.rel_append hframes hframes'

/-- A stretch that moves no byte is framed. -/
theorem framed_of_nil (hwritten : Paho.written es = []) (hconsumed : Paho.consumed es = [])
    (hsent : sentPackets es = []) (hreceived : receivedPackets es = []) : Framed es := by
  refine ⟨?_, ?_, [], hconsumed, ?_⟩
  · rw [hwritten, hsent]
    rfl
  · rw [hsent]
    exact nofun
  · rw [hreceived]
    exact .nil

theorem framed_deliveries (a : Session) (data : PublishData) : Framed (a.deliveries data) :=
  framed_of_nil (flatMap_deliveries fun _ _ _ => rfl) (flatMap_deliveries fun _ _ _ => rfl)
    (sentPackets_deliveries a data) (receivedPackets_deliveries a data)

/-- A packet that has been fetched. -/
theorem framed_received (hes : Fetched True es h body) : Framed (es ++ [.received h body]) := by
  obtain ⟨hreads, hframe⟩ := hes
  refine ⟨?_, ?_, [Paho.consumed es], ?_, ?_⟩
  · rw [sentPackets_fetched hreads]
    exact flatMap_fetched hreads fun _ _ _ => rfl
  · rw [sentPackets_fetched hreads]
    exact nofun
  · rw [consumed_append, List.flatten_singleton]
    exact List.append_nil _
  · rw [receivedPackets_fetched hreads]
    exact .cons (hframe trivial) .nil

/-- A packet that has been sent. -/
theorem framed_sent (hpieces : pieces.flatten = packet) (hpacket : IsFrame packet) :
    Framed (writes pieces ++ [.sent packet]) := by
  refine ⟨?_, ?_, [], ?_, ?_⟩
  · rw [sentPackets_sent, written_append, written_writes, hpieces, List.flatten_singleton]
    exact List.append_nil _
  · rw [sentPackets_sent]
    exact List.forall_mem_singleton.mpr hpacket
  · rw [consumed_append, consumed_writes]
    rfl
  · rw [receivedPackets_sent]
    exact .nil

/-- A header byte, the length and the body are a frame. -/
theorem isFrame_of_body {n : ℕ} (h : UInt8) (hn : body.length = n) (hbody : n < 2 ^ 28) :
    IsFrame (h :: (mqttPacketEncode n ++ body)) := by
  subst hn
  have hframe := @frame_received h body hbody
  rw [received, List.append_nil] at hframe
  exact ⟨h, body, hframe⟩

theorem isFrame_ackPacket (type packetid : ℕ) : IsFrame (ackPacket type false packetid) :=
  isFrame_of_body _ (length_writeInt packetid) (by omega)

theorem isFrame_pingreqPacket : IsFrame pingreqPacket := by
  have hframe := isFrame_of_body (MqttHeader.byte { type := MsgType.pingreq.toNat })
    (List.length_nil (α := UInt8)) (by omega)
  rwa [List.append_nil] at hframe

/-- Every packet that fits the buffer is a frame. -/
theorem IsPacket.isFrame {size qos : ℕ} {type : MsgType} (hpacket : IsPacket size type qos packet)
    (hsize : size < 2 ^ 28) : IsFrame packet := by
  obtain ⟨h, body, rfl, hle, -⟩ := hpacket
  refine ⟨h, body, frame_received ?_⟩
  rw [length_received] at hle
  omega

/-- Every move leaves both streams between two packets, if nothing has gone wrong. -/
theorem Move.framed (hmove : Move True a es b) : Framed es := by
  cases hmove with
  | idle => exact framed_of_nil rfl rfl rfl rfl
  | lost _ hnot => exact absurd trivial hnot
  | noted _ hes => exact framed_received hes
  | delivered _ hes => exact (framed_received hes).append (framed_deliveries ..)
  | acknowledged _ hes _ _ hpieces =>
    rw [List.append_assoc (a.deliveries _)]
    exact (framed_received hes).append ((framed_deliveries ..).append
      (framed_sent hpieces (isFrame_ackPacket ..)))
  | unanswered _ _ hnot => exact absurd trivial hnot
  | pinged _ hpieces => exact framed_sent hpieces isFrame_pingreqPacket
  | unsent _ _ hnot => exact absurd trivial hnot
  | closed => exact framed_of_nil rfl rfl rfl rfl

/-- One move of a session is framed. -/
theorem SessionMove.framed (hmove : SessionMove True a es b) (hsize : a.bufSize < 2 ^ 28) :
    Framed es := by
  cases hmove with
  | call hcall =>
    cases hcall with
    | move hmove => exact hmove.framed
    | packetId => exact framed_of_nil rfl rfl rfl rfl
    | sent _ _ _ hpacket hpieces => exact framed_sent hpieces (hpacket.isFrame hsize)
    | handler => exact framed_nil
  | options => exact framed_nil
  | opened => exact framed_of_nil rfl rfl rfl rfl

/-- The moves of a session are framed, by induction on the path. -/
theorem framed_of_path (hpath : Path (SessionMove True) a tr b) (hsize : a.bufSize < 2 ^ 28) :
    Framed tr := by
  have hboth := hpath.invariant (I := fun b tr => b.bufSize = a.bufSize ∧ Framed tr)
    (fun d _ _ _ hI hmove => ⟨hmove.bufSize.trans hI.1,
      hI.2.append (hmove.framed (hI.1 ▸ hsize))⟩) ⟨rfl, framed_nil⟩
  exact hboth.2

/-! ## Sessions -/

/-- Nothing has gone wrong as long as the session is open. -/
theorem SessionRun.moves (h : SessionRun c tr s) (hc : c.isconnected = false)
    (hsize : c.buf.length < 2 ^ 28) :
    SessionMoves (Whole tr ∧ s.isconnected = true) c [] s tr := by
  induction h with
  | connect hoptions hexec =>
    have hconnected := hexec.of_wlp (wlp_mqttConnect hsize hoptions)
    exact hconnected.moves.weaken fun hP => ⟨hP.1, hconnected.result.mpr ⟨hc, hP.2⟩⟩
  | @call turns call rc s s' tr es before hvalid hexec ih =>
    have hmoves := hexec.wlp_append tr (wlp_call (ih.bufSize ▸ hsize) hvalid)
    exact (ih.weaken fun hP => ⟨(whole_append.mp hP.1).1, hmoves.isconnected hP.2⟩).trans
      (hmoves.weaken fun hP => ⟨hP.1, .inr hP.2⟩).session

/-- A run that cuts no packet short is framed while the session is open. -/
theorem SessionRun.framed (h : SessionRun c tr s) (hc : c.isconnected = false)
    (hsize : c.buf.length < 2 ^ 28) (hwhole : Whole tr) (hs : s.isconnected = true) : Framed tr := by
  obtain ⟨es, htr, hpath⟩ := (h.moves hc hsize).weaken fun (_ : True) => ⟨hwhole, hs⟩
  rw [List.nil_append] at htr
  subst htr
  exact framed_of_path hpath hsize

/-- As long as a session is open and no packet has been cut short, the packets that have been
received are the first packets that the peer has sent, in the same order, whatever the calls were
and however the bytes have arrived. -/
theorem received_isPrefix {commandTimeoutMs : ℕ} {sendbuf readbuf : List UInt8}
    (hsize : sendbuf.length < 2 ^ 28)
    (h : SessionRun (mqttClientInit commandTimeoutMs sendbuf readbuf) tr s) (hwhole : Whole tr)
    (hs : s.isconnected = true) {packets : List (UInt8 × List UInt8)} {raws : List (List UInt8)}
    (hframes : Frames packets raws) {rest : List UInt8} (hpeer : consumed tr ++ rest = raws.flatten) :
    receivedPackets tr <+: packets := by
  obtain ⟨raws', hconsumed, hreceived⟩ := (h.framed rfl hsize hwhole hs).consumed
  rw [hconsumed] at hpeer
  exact hreceived.isPrefix hframes
    (prefixFree_isFrame.isPrefix hreceived.isFrame hframes.isFrame hpeer)

instance (e : Event) : Decidable e.Cut :=
  match e with
  | .read .header _ _ => isFalse id
  | .read .length asked data => inferInstanceAs (Decidable (data.length < asked))
  | .read .body asked data => inferInstanceAs (Decidable (data.length < asked))
  | .wrote _ | .received _ _ | .sent _ | .handler _ _ _ | .packetId _ | .closed | .connected =>
    isFalse id

instance (tr : List Event) : Decidable (Whole tr) := inferInstanceAs (Decidable (∀ _ ∈ tr, _))

/-- What a peer sends, packet by packet. -/
theorem frames_received {packets : List (UInt8 × List UInt8)}
    (h : ∀ p ∈ packets, p.2.length < 2 ^ 28) :
    Frames packets (packets.map fun p => received p.1 p.2 []) := by
  induction packets with
  | nil => exact .nil
  | cons p packets ih =>
    rw [List.forall_mem_cons] at h
    exact .cons (frame_received h.1) (ih h.2)

/-- CONNACK, SUBACK and PINGRESP. -/
def threePackets : List (UInt8 × List UInt8) := [(0x20, [0, 0]), (0x90, [0, 2, 1]), (0xD0, [])]

theorem received_first_two : ∃ tr, receivedPackets tr = [(0x20, [0, 0]), (0x90, [0, 2, 1])] ∧
    receivedPackets tr <+: threePackets := by
  have htest : (runSession 3 {} connackReplies [grantedSubscribe] smallClient).any
      (fun x => Whole x.1 ∧ x.2.isconnected = true ∧
        receivedPackets x.1 = [(0x20, [0, 0]), (0x90, [0, 2, 1])] ∧
        consumed x.1 ++ [0xD0, 0] = (threePackets.map fun p => received p.1 p.2 []).flatten) =
      true := by decide +kernel
  obtain ⟨tr, s, h, hboth⟩ := exists_sessionRun htest fits_default (by decide)
  obtain ⟨hwhole, hs, hreceived, hpeer⟩ := of_decide_eq_true hboth
  exact ⟨tr, hreceived, received_isPrefix (by decide) h hwhole hs (frames_received (by decide)) hpeer⟩

end ZohoIotSdk.Paho
