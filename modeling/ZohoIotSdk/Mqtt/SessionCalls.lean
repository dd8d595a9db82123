import ZohoIotSdk.Mqtt.SessionMoves

/-!
# A session, call by call

`CallMove` adds to the moves of a session what the calls of an application do: a packet id is
handed out, a request is sent, the table of handlers is changed. The rules say that the calls follow
it, and what a call that succeeds has sent and received.
-/

namespace ZohoIotSdk.Paho

open Atomic (Follows Path Prog)
open Machine

variable {P P' : Prop} {a b : Session} {c s : Client} {tr tr' es : List Event} {size turns : ℕ}
  {packet : List UInt8} {type : MsgType}

/-! ## The packets of requests -/

/-- A packet of the type that fits in the send buffer. -/
def IsPacket (size : ℕ) (type : MsgType) (qos : ℕ) (packet : List UInt8) : Prop :=
  ∃ h body, packet = received h body [] ∧ packet.length ≤ size ∧
    (MqttHeader.bits h).type = type.toNat ∧ (MqttHeader.bits h).qos = qos

theorem MsgType.toNat_lt (type : MsgType) : type.toNat < 16 := by
  cases type <;> decide

/-- What a serializer writes, with the test of the size of its buffer. -/
theorem isPacket {header : MqttHeader} {body : List UInt8} {n : ℕ} (htype : header.type = type.toNat)
    (hqos : header.qos < 4) (hbody : body.length = n) (hsize : size < 2 ^ 28)
    (hfits : mqttPacketLen n ≤ size) :
    IsPacket size type header.qos (header.byte :: (mqttPacketEncode n ++ body)) := by
  subst hbody
  have hheader : header.Fits := ⟨htype.symm ▸ type.toNat_lt, hqos⟩
  have hle : body.length ≤ mqttPacketLen body.length := by
    simp only [mqttPacketLen]
    split_ifs <;> omega
  refine ⟨header.byte, body, ?_, ?_, ?_, ?_⟩
  · rw [received, List.append_nil]
  · have hlength := @length_le_mqttPacketLen body.length (by omega)
    rw [List.length_cons, List.length_append]
    omega
  · rw [MqttHeader.bits_byte hheader, htype]
  · rw [MqttHeader.bits_byte hheader]

theorem isPacket_connect {options : ConnectData} (hoptions : options.Fits) (hsize : size < 2 ^ 28)
    (h : mqttSerializeConnect size options = some packet) : IsPacket size .connect 0 packet := by
  rw [mqttSerializeConnect] at h
  split_ifs at h with hfits
  obtain rfl := Option.some_inj.mp h
  exact @isPacket size .connect { type := MsgType.connect.toNat } _ _ rfl (show 0 < 4 by omega)
    (length_connectBody hoptions) hsize (not_lt.mp hfits)

theorem isPacket_publish {dup retained : Bool} {qos id : ℕ} {topicName payload : CString}
    (hqos : qos < 4) (hsize : size < 2 ^ 28)
    (h : mqttSerializePublish size dup qos retained id topicName payload = some packet) :
    IsPacket size .publish qos packet := by
  rw [mqttSerializePublish] at h
  split_ifs at h with hfits
  obtain rfl := Option.some_inj.mp h
  have hpacket := publishPacket_append dup qos retained id topicName payload []
  rw [List.append_nil, received, List.append_nil, length_publishPacketBody] at hpacket
  rw [hpacket]
  exact @isPacket size .publish { type := 3, dup := dup, qos := qos, retain := retained } _ _ rfl
    hqos (length_publishPacketBody ..) hsize (not_lt.mp hfits)

/-- The string that a topic filter is given as. -/
theorem single_cstring (topicFilter : List UInt8) :
    MqttString.Single { cstring := some topicFilter } := .inr rfl

theorem isPacket_subscribe {dup : Bool} {id : ℕ} {topicFilter : List UInt8} {qos : ℤ}
    (hsize : size < 2 ^ 28)
    (h : mqttSerializeSubscribe size dup id [({ cstring := some topicFilter }, qos)] =
      some packet) : IsPacket size .subscribe 1 packet := by
  rw [mqttSerializeSubscribe] at h
  split_ifs at h with hfits
  obtain rfl := Option.some_inj.mp h
  refine @isPacket size .subscribe { type := MsgType.subscribe.toNat, dup := dup, qos := 1 } _ _ rfl
    (show 1 < 4 by omega) ?_ hsize (not_lt.mp hfits)
  rw [List.length_append, length_writeInt, List.flatMap_cons, List.flatMap_nil, List.append_nil,
    writeFilter, List.length_append, length_writeMQTTString (single_cstring topicFilter)]
  rfl

theorem isPacket_unsubscribe {dup : Bool} {id : ℕ} {topicFilter : List UInt8}
    (hsize : size < 2 ^ 28)
    (h : mqttSerializeUnsubscribe size dup id [{ cstring := some topicFilter }] = some packet) :
    IsPacket size .unsubscribe 1 packet := by
  rw [mqttSerializeUnsubscribe] at h
  split_ifs at h with hfits
  obtain rfl := Option.some_inj.mp h
  refine @isPacket size .unsubscribe { type := MsgType.unsubscribe.toNat, dup := dup, qos := 1 } _ _
    rfl (show 1 < 4 by omega) ?_ hsize (not_lt.mp hfits)
  rw [List.length_append, length_writeInt, List.flatMap_cons, List.flatMap_nil, List.append_nil,
    length_writeMQTTString (single_cstring topicFilter)]
  rfl

theorem isPacket_disconnect (hsize : size < 2 ^ 28)
    (h : mqttSerializeZero size MsgType.disconnect.toNat = some packet) :
    IsPacket size .disconnect 0 packet := by
  rw [mqttSerializeZero] at h
  split_ifs at h with hfits
  obtain rfl := Option.some_inj.mp h
  have hpacket := @isPacket size .disconnect { type := MsgType.disconnect.toNat } [] 0 rfl
    (show 0 < 4 by omega) rfl hsize (not_lt.mp hfits)
  rwa [List.append_nil] at hpacket

/-! ## What a call does -/

/-- The packets that the calls send. -/
def requests : List MsgType := [.connect, .publish, .subscribe, .unsubscribe, .disconnect]

/-- The requests that need an open session. -/
def sessionRequests : List MsgType := [.publish, .subscribe, .unsubscribe]

/-- What `getNextPacketId` gives. -/
def Session.nextId (a : Session) : ℕ := if a.nextPacketid = 65535 then 1 else a.nextPacketid + 1

inductive CallMove (P : Prop) : Session → List Event → Session → Prop
  | move {a b : Session} {es : List Event} (hmove : Move P a es b) : CallMove P a es b
  | packetId (a : Session) : CallMove P a [.packetId a.nextId] { a with nextPacketid := a.nextId }
  | sent {type : MsgType} {qos : ℕ} {packet : List UInt8} {pieces : List (List UInt8)} (a : Session)
      (htype : type ∈ requests) (hopen : type ∈ sessionRequests → a.isconnected = true)
      (hpacket : IsPacket a.bufSize type qos packet) (hpieces : pieces.flatten = packet) :
      CallMove P a (writes pieces ++ [.sent packet]) a
  | handler (a : Session) (topicFilter : List UInt8) (fp : Option ℕ) : CallMove P a []
      { a with messageHandlers := (setHandler a.messageHandlers topicFilter fp).2 }

theorem CallMove.weaken (h : CallMove P a es b) (hP : P' → P) : CallMove P' a es b := by
  cases h with
  | move hmove => exact .move (hmove.weaken hP)
  | packetId => exact .packetId a
  | sent _ htype hopen hpacket hpieces => exact .sent a htype hopen hpacket hpieces
  | handler _ topicFilter fp => exact .handler a topicFilter fp

abbrev CallMoves (P : Prop) : Client → List Event → Client → List Event → Prop :=
  Follows Client.session (CallMove P)

theorem CallMoves.weaken (h : CallMoves P c tr s tr') (hP : P' → P) : CallMoves P' c tr s tr' :=
  h.mono fun _ _ _ hmove => hmove.weaken hP

/-- Moves of the session are moves of a call. -/
theorem Moves.call (h : Moves P c tr s tr') : CallMoves P c tr s tr' :=
  h.mono fun _ _ _ => .move

theorem CallMoves.of_move (hmove : CallMove P c.session es b) (htr : tr' = tr ++ es)
    (hs : s.session = b) : CallMoves P c tr s tr' := by
  subst htr hs
  exact Follows.step hmove

/-- What has been exchanged: the packet has been sent, and then the answer has come. -/
structure Exchanged (packet : List UInt8) (answer : Option MsgType) (tr : List Event) (s : Client)
    (tr' : List Event) : Prop where
  sent : ∃ es₁ es₂ a b, tr' = tr ++ (es₁ ++ [.sent packet] ++ es₂) ∧ (∀ p, Event.sent p ∉ es₁) ∧
    Path (Move (Whole tr')) a es₂ b ∧
    ∀ t ∈ answer, ∃ h body mem, (MqttHeader.bits h).type = t.toNat ∧ body.length < 2 ^ 28 ∧
      s.readbuf = received h body mem ∧ .received h body ∈ es₂

/-- What a call that needs a session has done when it returns `rc`. -/
structure Called (Sends : List UInt8 → Prop) (answer : Option MsgType) (c : Client)
    (tr : List Event) (rc : ℤ) (s : Client) (tr' : List Event) : Prop where
  moves : CallMoves (Whole tr' ∧ (0 ≤ rc ∨ s.isconnected = true)) c tr s tr'
  result : rc = success ∨ rc = failure
  closed : rc = failure → s.isconnected = false
  exchanged : rc = success →
    c.isconnected = true ∧ ∃ packet, Sends packet ∧ Exchanged packet answer tr s tr'

/-- What a call serializes: a packet id may be taken for it. -/
structure Serialized (Sends : List UInt8 → Prop) (c : Client) (tr : List Event)
    (packet : Option (List UInt8)) (s : Client) (tr' : List Event) : Prop where
  packetId : (s = c ∧ tr' = tr) ∨
    (s = { c with nextPacketid := c.session.nextId } ∧ tr' = tr ++ [.packetId c.session.nextId])
  packet : ∀ p ∈ packet, Sends p ∧ ∃ type ∈ requests, ∃ qos, IsPacket c.buf.length type qos p

variable {Sends : List UInt8 → Prop} {answer : Option MsgType} {o : Option (List UInt8)}

/-- Serializing makes no move but counting packet ids. -/
theorem Serialized.moves (h : Serialized Sends c tr o s tr') : CallMoves P c tr s tr' := by
  rcases h.packetId with ⟨rfl, rfl⟩ | ⟨rfl, rfl⟩
  · exact Follows.refl
  · exact CallMoves.of_move (.packetId _) rfl rfl

theorem Serialized.buf_eq (h : Serialized Sends c tr o s tr') : s.buf = c.buf := by
  rcases h.packetId with ⟨rfl, -⟩ | ⟨rfl, -⟩ <;> rfl

theorem Serialized.isconnected_eq (h : Serialized Sends c tr o s tr') :
    s.isconnected = c.isconnected := by
  rcases h.packetId with ⟨rfl, -⟩ | ⟨rfl, -⟩ <;> rfl

theorem sent_not_mem_writes (pieces : List (List UInt8)) (p : List UInt8) :
    .sent p ∉ writes pieces := by
  rintro hmem
  obtain ⟨_, -, heq⟩ := List.mem_map.mp hmem
  cases heq

/-- Serializing sends nothing. -/
theorem Serialized.no_sent (h : Serialized Sends c tr o s tr') :
    ∃ ids, tr' = tr ++ ids ∧ ∀ p, Event.sent p ∉ ids := by
  rcases h.packetId with ⟨-, rfl⟩ | ⟨-, rfl⟩
  · exact ⟨[], (List.append_nil _).symm, nofun⟩
  · refine ⟨_, rfl, fun p hmem => ?_⟩
    cases List.mem_singleton.mp hmem

/-- How a call goes on when an answer of the type has come: only the handlers are changed. -/
def Rests (rest : List UInt8 → ClientM ℤ) : Prop :=
  ∀ s tr, (rest s.readbuf).wlp (fun rc s' tr' => (rc = success ∨ rc = failure) ∧ tr' = tr ∧
    s'.readbuf = s.readbuf ∧ CallMoves True s tr s' tr') s tr

/-- A packet fits the buffer it was serialized into. -/
theorem IsPacket.length_le {qos : ℕ} (h : IsPacket size type qos packet) : packet.length ≤ size := by
  obtain ⟨_, _, _, hle, _⟩ := h
  exact hle

/-- What a call has done before it closes the session on a failure. -/
def Requested (Sends : List UInt8 → Prop) (answer : Option MsgType) (c : Client) (tr : List Event)
    (rc : ℤ) (s : Client) (tr' : List Event) : Prop :=
  (rc = failure ∧ CallMoves False c tr s tr') ∨
    (rc = success ∧ CallMoves (Whole tr') c tr s tr' ∧ c.isconnected = true ∧
      ∃ packet, Sends packet ∧ Exchanged packet answer tr s tr')

/-- A failed request closes the session. -/
theorem wlp_closeOnFailure {rc : ℤ} (h : Requested Sends answer c tr rc s tr') :
    (closeOnFailure rc).wlp (Called Sends answer c tr) s tr' := by
  unfold closeOnFailure mqttCloseSession
  rcases h with ⟨rfl, hmoves⟩ | ⟨rfl, hmoves, hconnected, hexchanged⟩
  · rw [if_pos rfl, Prog.wlp_bind, Prog.wlp_act]
    intro _
    refine ⟨?_, .inr rfl, fun _ => rfl, fun h => absurd h (by decide)⟩
    apply (hmoves.weaken fun hP => absurd (hP.2.resolve_left (by decide)) Bool.false_ne_true).trans
    exact CallMoves.of_move (.move (.closed _)) rfl rfl
  · rw [if_neg (by decide)]
    exact ⟨hmoves.weaken And.left, .inl rfl, fun h => absurd h (by decide),
      fun _ => ⟨hconnected, hexchanged⟩⟩

/-- A request whose packet has been sent: the answer is waited for. -/
theorem wlp_answer {timer : ℕ} {rest : List UInt8 → ClientM ℤ} (hrest : Rests rest)
    (hconnected : c.isconnected = true) (hsends : Sends packet)
    (hbefore : ∀ P, CallMoves P c tr s (tr ++ es ++ [.sent packet])) (hes : ∀ p, Event.sent p ∉ es) :
    (awaitAnswer turns timer answer rest).wlp (Requested Sends answer c tr) s
      (tr ++ es ++ [.sent packet]) := by
  unfold awaitAnswer
  cases answer with
  | none =>
    refine .inr ⟨rfl, hbefore _, hconnected, packet, hsends, es, [], s.session, s.session, ?_, hes,
      .nil _, nofun⟩
    rw [List.append_nil, List.append_assoc]
  | some type =>
    simp only
    rw [Prog.wlp_bind]
    apply Prog.wlp_mono (wlp_waitfor type)
    rintro rc s₁ tr₁ ⟨hmoves, harrived⟩
    rw [Prog.wlp_ite]
    split_ifs with hrc
    · apply wlp_readClient_bind
      apply Prog.wlp_mono (hrest s₁ tr₁)
      rintro rc' s₂ tr₂ ⟨hresult, rfl, hbuf, hrested⟩
      have hrested' : ∀ P, CallMoves P s₁ tr₂ s₂ tr₂ := fun P => hrested.weaken fun _ => trivial
      rcases hresult with rfl | rfl
      · have hgood : Moves (Whole tr₂) s (tr ++ es ++ [.sent packet]) s₁ tr₂ :=
          hmoves.weaken fun hP => ⟨hP, .inl (by rw [hrc]; exact Int.natCast_nonneg _)⟩
        refine .inr ⟨rfl, ((hbefore _).trans hgood.call).trans (hrested' _), hconnected, packet,
          hsends, ?_⟩
        obtain ⟨es₂, htr, hpath⟩ := hgood
        refine ⟨es, es₂, _, _, ?_, hes, hpath, ?_⟩
        · rw [htr]
          simp only [List.append_assoc]
        · rintro t ht
          obtain rfl := Option.some_inj.mp ht
          obtain ⟨h, body, mem, es₃, htype, hbody, hreadbuf, htr', hmem⟩ := harrived hrc
          obtain rfl := List.append_cancel_left (htr.symm.trans htr')
          refine ⟨h, body, mem, ?_, hbody, hbuf.trans hreadbuf, hmem⟩
          rw [hrc] at htype
          exact Int.natCast_inj.mp htype
      · exact .inl ⟨rfl, ((hbefore _).trans (hmoves.call.weaken False.elim)).trans (hrested' _)⟩
    · exact .inl ⟨rfl, (hbefore _).trans (hmoves.call.weaken False.elim)⟩

/-- A call that needs a session. -/
theorem wlp_request {serialize : Client → ClientM (Option (List UInt8))}
    {rest : List UInt8 → ClientM ℤ} (hserialize : (serialize c).wlp (Serialized Sends c tr) c tr)
    (hrest : Rests rest) :
    (request turns serialize answer rest).wlp (Called Sends answer c tr) c tr := by
  unfold request
  rw [Prog.wlp_bind]
  have hfailed : Prog.wlp (Pure.pure failure : ClientM ℤ) (Requested Sends answer c tr) c tr :=
    .inl ⟨rfl, Follows.refl⟩
  suffices hinner : Prog.wlp _ (Requested Sends answer c tr) c tr from
    Prog.wlp_mono hinner fun rc s tr' h => wlp_closeOnFailure h
  apply wlp_readClient_bind
  cases hconnected : c.isconnected with
  | false => exact hfailed
  | true =>
    rw [if_pos rfl]
    apply wlp_readClient_bind
    apply wlp_timerCountdownMS_bind
    intro timer
    apply wlp_readClient_bind
    rw [Prog.wlp_bind]
    apply Prog.wlp_mono hserialize
    intro o s₁ tr₁ hserialized
    have hmoves₁ : ∀ P, CallMoves P c tr s₁ tr₁ := fun P => hserialized.moves
    cases o with
    | none => exact .inl ⟨rfl, hmoves₁ _⟩
    | some packet =>
      obtain ⟨hsends, t, ht, qos, hpacket⟩ := hserialized.packet packet rfl
      obtain ⟨ids, rfl, hids⟩ := hserialized.no_sent
      have hopen := hserialized.isconnected_eq.trans hconnected
      rw [← hserialized.buf_eq] at hpacket
      have hlength := length_filled hpacket.length_le
      rw [Prog.wlp_bind, sendSerialized]
      apply wlp_modifyClient_bind
      apply wlp_sendPacket_filled (take_filled ..)
      · intro pieces
        refine .inl ⟨rfl, (hmoves₁ _).trans (CallMoves.of_move (.move (.unsent pieces _ id)) rfl ?_)⟩
        simp only [Client.session, hlength]
      · intro lastSent pieces hpieces
        rw [if_pos rfl, List.append_assoc tr]
        apply wlp_answer hrest hconnected hsends
        · intro P
          rw [← List.append_assoc tr, List.append_assoc _ (writes pieces)]
          apply (hmoves₁ P).trans
          refine CallMoves.of_move (.sent _ ht (fun _ => hopen) hpacket hpieces) rfl ?_
          simp only [Client.session, hlength]
        · intro p hmem
          rcases List.mem_append.mp hmem with hmem | hmem
          · exact hids p hmem
          · exact sent_not_mem_writes pieces p hmem

/-! ## The calls -/

theorem rests_of_eq {rest : List UInt8 → ClientM ℤ}
    (h : ∀ readbuf, rest readbuf = Prog.fault ∨ rest readbuf = Pure.pure success ∨
      rest readbuf = Pure.pure failure) : Rests rest := by
  intro s tr
  rcases h s.readbuf with heq | heq | heq <;> rw [heq]
  · trivial
  · exact ⟨.inl rfl, rfl, rfl, Follows.refl⟩
  · exact ⟨.inr rfl, rfl, rfl, Follows.refl⟩

theorem rests_ackResult : Rests ackResult := by
  apply rests_of_eq
  intro readbuf
  unfold ackResult
  cases mqttDeserializeAck readbuf with
  | none => exact .inl rfl
  | some ack =>
    simp only
    split_ifs
    · exact .inr (.inl rfl)
    · exact .inr (.inr rfl)

/-- Setting a handler succeeds or fails and has no third result. -/
theorem setHandler_result (slots : List MessageHandlers) (topicFilter : List UInt8)
    (fp : Option ℕ) : (setHandler slots topicFilter fp).1 = success ∨
      (setHandler slots topicFilter fp).1 = failure := by
  unfold setHandler
  cases fp <;> simp only <;> split_ifs <;> simp

theorem rests_setHandler (topicFilter : List UInt8) (fp : Option ℕ) :
    Rests fun _ => mqttSetMessageHandler topicFilter fp := by
  intro s tr
  unfold mqttSetMessageHandler
  rw [Prog.wlp_act, List.append_nil]
  intro _
  exact ⟨setHandler_result .., rfl, rfl,
    CallMoves.of_move (.handler _ topicFilter fp) (List.append_nil tr).symm rfl⟩

/-- After a SUBACK only the handlers are changed. -/
theorem rests_subackResult (topicFilter : List UInt8) (fp : Option ℕ) :
    Rests (subackResult topicFilter fp) := by
  intro s tr
  have hset := rests_setHandler topicFilter fp s tr
  have hfailure : Prog.wlp (Pure.pure failure : ClientM ℤ) (fun rc s' tr' =>
      (rc = success ∨ rc = failure) ∧ tr' = tr ∧ s'.readbuf = s.readbuf ∧
        CallMoves True s tr s' tr') s tr := ⟨.inr rfl, rfl, rfl, Follows.refl⟩
  unfold subackResult
  split
  · trivial
  · rw [Prog.wlp_ite]
    split_ifs
    · exact hset
    · exact hfailure
  · rw [Prog.wlp_ite]
    split_ifs
    · trivial
    · exact hset
    · exact hfailure
    · exact hfailure

/-- After an UNSUBACK only the handlers are changed. -/
theorem rests_unsubackResult (topicFilter : List UInt8) : Rests (unsubackResult topicFilter) := by
  intro s tr
  unfold unsubackResult
  split
  · trivial
  · rw [Prog.wlp_ite]
    split_ifs
    · rw [Prog.wlp_bind]
      apply Prog.wlp_mono (rests_setHandler topicFilter none s tr)
      rintro _ s' tr' ⟨-, htr, hbuf, hmoves⟩
      exact ⟨.inl rfl, htr, hbuf, hmoves⟩
    · exact ⟨.inr rfl, rfl, rfl, Follows.refl⟩

/-- The packet id that is drawn is the next one. -/
theorem wlp_getNextPacketId_bind {α : Type} {Q : α → Client → List Event → Prop} {k : ℕ → ClientM α}
    (h : (k c.session.nextId).wlp Q { c with nextPacketid := c.session.nextId }
      (tr ++ [.packetId c.session.nextId])) : (getNextPacketId >>= k).wlp Q c tr := by
  unfold getNextPacketId
  rw [Prog.wlp_bind, Prog.wlp_act]
  exact fun _ => h

/-- `MQTTSubscribe` -/
theorem wlp_mqttSubscribe (hsize : c.buf.length < 2 ^ 28) (topicFilter : List UInt8) (qos : ℕ)
    (fp : Option ℕ) : (mqttSubscribe turns topicFilter qos fp).wlp
      (Called (fun packet => mqttSerializeSubscribe c.buf.length false c.session.nextId
        [({ cstring := some topicFilter }, qos)] = some packet) (some .suback) c tr) c tr := by
  unfold mqttSubscribe
  apply wlp_request _ (rests_subackResult topicFilter fp)
  apply wlp_getNextPacketId_bind
  refine ⟨.inr ⟨rfl, rfl⟩, fun p hp => ⟨hp, .subscribe, by decide, 1, isPacket_subscribe hsize hp⟩⟩

/-- `MQTTUnsubscribe` -/
theorem wlp_mqttUnsubscribe (hsize : c.buf.length < 2 ^ 28) (topicFilter : List UInt8) :
    (mqttUnsubscribe turns topicFilter).wlp
      (Called (fun packet => mqttSerializeUnsubscribe c.buf.length false c.session.nextId
        [{ cstring := some topicFilter }] = some packet) (some .unsuback) c tr) c tr := by
  unfold mqttUnsubscribe
  apply wlp_request _ (rests_unsubackResult topicFilter)
  apply wlp_getNextPacketId_bind
  refine ⟨.inr ⟨rfl, rfl⟩, fun p hp => ⟨hp, .unsubscribe, by decide, 1,
    isPacket_unsubscribe hsize hp⟩⟩

/-- The packet id of a message that is published. -/
def OutgoingMessage.packetid (message : OutgoingMessage) (a : Session) : ℕ :=
  if message.qos = 1 ∨ message.qos = 2 then a.nextId else message.id

/-- `MQTTPublish` -/
theorem wlp_mqttPublish (hsize : c.buf.length < 2 ^ 28) (topicName : CString)
    {message : OutgoingMessage} (hqos : message.qos < 3) :
    (mqttPublish turns topicName message).wlp
      (Called (fun packet => mqttSerializePublish c.buf.length false message.qos message.retained
        (message.packetid c.session) topicName message.payload = some packet)
        (publishAnswer message.qos) c tr) c tr := by
  unfold mqttPublish
  apply wlp_request _ rests_ackResult
  unfold OutgoingMessage.packetid
  by_cases hid : message.qos = 1 ∨ message.qos = 2
  · rw [if_pos hid, if_pos hid]
    apply wlp_getNextPacketId_bind
    exact ⟨.inr ⟨rfl, rfl⟩, fun p hp => ⟨hp, .publish, by decide, message.qos,
      isPacket_publish (by omega) hsize hp⟩⟩
  · rw [if_neg hid, if_neg hid]
    exact ⟨.inl ⟨rfl, rfl⟩, fun p hp => ⟨hp, .publish, by decide, message.qos,
      isPacket_publish (by omega) hsize hp⟩⟩

/-- `MQTTSetMessageHandler` -/
theorem wlp_mqttSetMessageHandler (topicFilter : List UInt8) (fp : Option ℕ) :
    (mqttSetMessageHandler topicFilter fp).wlp (fun _ s tr' => tr' = tr ∧ CallMoves P c tr s tr')
      c tr := by
  apply Prog.wlp_mono (rests_setHandler topicFilter fp c tr)
  rintro _ s tr' ⟨-, htr, -, hmoves⟩
  exact ⟨htr, hmoves.weaken fun _ => trivial⟩

/-- `MQTTDisconnect` -/
theorem wlp_mqttDisconnect (hsize : c.buf.length < 2 ^ 28) : (mqttDisconnect turns).wlp
    (fun rc s tr' => CallMoves (Whole tr' ∧ (0 ≤ rc ∨ s.isconnected = true)) c tr s tr' ∧
      s.isconnected = false) c tr := by
  unfold mqttDisconnect
  apply wlp_readClient_bind
  apply wlp_timerCountdownMS_bind
  intro timer
  apply wlp_readClient_bind
  rw [Prog.wlp_bind]
  -- whatever has been sent, the session is closed
  have hclose : ∀ rc s tr', (∀ P, (P → 0 ≤ rc) → CallMoves P c tr s tr') →
      Prog.wlp (do mqttCloseSession; pure rc : ClientM ℤ) (fun rc s tr' =>
        CallMoves (Whole tr' ∧ (0 ≤ rc ∨ s.isconnected = true)) c tr s tr' ∧
          s.isconnected = false) s tr' := by
    intro rc s tr' hmoves
    unfold mqttCloseSession
    rw [Prog.wlp_bind, Prog.wlp_act]
    intro _
    refine ⟨(hmoves _ fun hP => hP.2.resolve_right Bool.false_ne_true).trans ?_, rfl⟩
    exact CallMoves.of_move (.move (.closed _)) rfl rfl
  cases hpacket : mqttSerializeZero c.buf.length MsgType.disconnect.toNat with
  | none => exact hclose _ _ _ fun _ _ => Follows.refl
  | some packet =>
    have hp := isPacket_disconnect hsize hpacket
    have hlength := length_filled hp.length_le
    rw [sendSerialized]
    apply wlp_modifyClient_bind
    apply wlp_sendPacket_filled (take_filled ..)
    · intro pieces
      apply hclose
      intro P hP
      refine CallMoves.of_move (.move (.unsent pieces _ fun h => absurd (hP h) (by decide))) rfl ?_
      simp only [Client.session, hlength]
    · intro lastSent pieces hpieces
      apply hclose
      intro P _
      refine CallMoves.of_move (.sent _ (by decide) (fun h => absurd h (by decide)) hp hpieces)
        (List.append_assoc ..) ?_
      simp only [Client.session, hlength]

/-! ## `MQTTConnect` -/

inductive SessionMove (P : Prop) : Session → List Event → Session → Prop
  | call {a b : Session} {es : List Event} (hmove : CallMove P a es b) : SessionMove P a es b
  | options (a : Session) (cleansession : Bool) :
      SessionMove P a [] { a with cleansession := cleansession }
  | opened (a : Session) : SessionMove P a [.connected]
      { a with isconnected := true, pingOutstanding := false }

abbrev SessionMoves (P : Prop) : Client → List Event → Client → List Event → Prop :=
  Follows Client.session (SessionMove P)

theorem SessionMove.weaken (h : SessionMove P a es b) (hP : P' → P) : SessionMove P' a es b := by
  cases h with
  | call hmove => exact .call (hmove.weaken hP)
  | options cleansession => exact .options a cleansession
  | opened => exact .opened a

theorem SessionMoves.weaken (h : SessionMoves P c tr s tr') (hP : P' → P) :
    SessionMoves P' c tr s tr' :=
  h.mono fun _ _ _ hmove => hmove.weaken hP

/-- Moves of a call are moves of the session. -/
theorem CallMoves.session (h : CallMoves P c tr s tr') : SessionMoves P c tr s tr' :=
  h.mono fun _ _ _ => .call

/-- No move but that of `MQTTConnect` opens a session. -/
theorem CallMove.isconnected (h : CallMove P a es b) (hb : b.isconnected = true) :
    a.isconnected = true := by
  cases h with
  | move hmove =>
    cases hmove with
    | noted _ _ _ =>
      rw [Session.noted] at hb
      split_ifs at hb <;> exact hb
    | closed => exact absurd hb Bool.false_ne_true
    | _ => exact hb
  | _ => exact hb

/-- A call does not connect a closed session. -/
theorem CallMoves.isconnected (h : CallMoves P c tr s tr') (hs : s.isconnected = true) :
    c.isconnected = true := by
  obtain ⟨es, -, hpath⟩ := h
  have hkept := hpath.invariant (I := fun b _ => b.isconnected = true → c.isconnected = true)
    (fun _ _ _ _ hI hmove hb => hI (hmove.isconnected hb)) id
  exact hkept hs

/-- A CONNACK packet that `MQTTConnect` takes for a success: one with the return code 0, or one that
is too short for a return code. -/
def connackAccepted : List UInt8 → Bool
  | _ :: connackRc :: _ => connackRc = 0
  | _ => true

/-- The CONNACK decides whether the session opens. -/
theorem wlp_connackResult {h : UInt8} {body mem : List UInt8} {Q : ℤ → Client → List Event → Prop}
    (htype : (MqttHeader.bits h).type = MsgType.connack.toNat) (hbody : body.length < 2 ^ 28)
    (hq : ∀ rc : ℤ, 0 ≤ rc → (rc = success ↔ connackAccepted body) → Q rc s tr') :
    (connackResult (received h body mem)).wlp Q s tr' := by
  unfold connackResult
  rw [mqttDeserializeConnack_received mem htype hbody]
  match body with
  | [] => exact hq 0 le_rfl ⟨fun _ => rfl, fun _ => rfl⟩
  | [_] => exact hq 0 le_rfl ⟨fun _ => rfl, fun _ => rfl⟩
  | flags :: rc :: body =>
    apply hq _ (Int.natCast_nonneg _)
    show ((rc.toNat : ℤ) = 0) ↔ decide (rc = 0) = true
    rw [decide_eq_true_eq, Int.natCast_eq_zero, ← UInt8.toNat_inj]
    rfl

/-- What `MQTTConnect` has done when it returns `rc`. -/
structure Connected (Sends : List UInt8 → Prop) (c : Client) (tr : List Event) (rc : ℤ) (s : Client)
    (tr' : List Event) : Prop where
  moves : SessionMoves (Whole tr' ∧ rc = success) c tr s tr'
  result : rc = success ↔ c.isconnected = false ∧ s.isconnected = true
  exchanged : rc = success → ∃ packet before, Sends packet ∧
    Exchanged packet (some .connack) tr s before ∧ tr' = before ++ [.connected]
  accepted : rc = success → ∃ h body mem, s.readbuf = received h body mem ∧ connackAccepted body

/-- `MQTTConnect` that fails. -/
theorem connected_of_failed {rc : ℤ} (hrc : rc ≠ success) (hs : s.isconnected = false)
    (hmoves : SessionMoves False c tr s tr') : Connected Sends c tr rc s tr' where
  moves := hmoves.weaken fun hP => hrc hP.2
  result := by simp [hrc, hs]
  exchanged h := absurd h hrc
  accepted h := absurd h hrc

/-- The moves within a call do not open a session. -/
theorem Moves.not_isconnected (h : Moves P c tr s tr') (hc : c.isconnected = false) :
    s.isconnected = false := by
  by_contra hs
  have hconnected := h.call.isconnected (Bool.eq_true_of_not_eq_false hs)
  rw [hc] at hconnected
  exact absurd hconnected Bool.false_ne_true

/-- The CONNECT packet has been sent. -/
theorem wlp_awaitConnack {timer : ℕ} {pieces : List (List UInt8)} (hc : c.isconnected = false)
    (hs : s.isconnected = false) (hsends : Sends packet)
    (hbefore : ∀ P, SessionMoves P c tr s (tr ++ writes pieces ++ [.sent packet])) :
    (awaitConnack turns timer).wlp (Connected Sends c tr) s
      (tr ++ writes pieces ++ [.sent packet]) := by
  unfold awaitConnack
  rw [Prog.wlp_bind]
  apply Prog.wlp_mono (wlp_waitfor .connack)
  rintro rc s₁ tr₁ ⟨hmoves, harrived⟩
  have hs₁ := hmoves.not_isconnected hs
  have hfailed : SessionMoves False c tr s₁ tr₁ :=
    (hbefore _).trans (hmoves.weaken False.elim).call.session
  rw [Prog.wlp_ite]
  split_ifs with hrc
  · obtain ⟨h, body, mem, es, htype, hbody, hreadbuf, htr, hmem⟩ := harrived hrc
    rw [hrc] at htype
    have htype' := Int.natCast_inj.mp htype
    apply wlp_readClient_bind
    rw [hreadbuf, Prog.wlp_bind]
    apply wlp_connackResult htype' hbody
    intro rc' _ haccepted
    simp only
    split_ifs with hzero
    · unfold openSession
      rw [Prog.wlp_bind, Prog.wlp_act]
      intro _
      have hgood : Moves (Whole tr₁) s (tr ++ writes pieces ++ [.sent packet]) s₁ tr₁ :=
        hmoves.weaken fun hP => ⟨hP, .inl (by rw [hrc]; exact Int.natCast_nonneg _)⟩
      have hopened : SessionMove (Whole (tr₁ ++ [.connected]) ∧ rc' = success) s₁.session
          [.connected] (Client.session { s₁ with isconnected := true, pingOutstanding := false }) :=
        .opened _
      refine ⟨?_, iff_of_true hzero ⟨hc, rfl⟩, fun _ => ⟨packet, tr₁, hsends, ?_, rfl⟩,
        fun _ => ⟨h, body, mem, hreadbuf, haccepted.mp hzero⟩⟩
      · exact ((hbefore _).trans (hgood.weaken fun hP => (whole_append.mp hP.1).1).call.session).trans
          (Follows.step hopened)
      · obtain ⟨es', htr', hpath⟩ := hgood
        obtain rfl := List.append_cancel_left (htr.symm.trans htr')
        refine ⟨writes pieces, es, _, _, ?_, sent_not_mem_writes pieces, hpath, ?_⟩
        · rw [htr]
          simp only [List.append_assoc]
        · rintro t ht
          obtain rfl := Option.some_inj.mp ht
          exact ⟨h, body, mem, htype', hbody, hreadbuf, hmem⟩
    · exact connected_of_failed hzero hs₁ hfailed
  · exact connected_of_failed (by decide) hs₁ hfailed

/-- The CONNECT packet is sent. -/
theorem wlp_sendConnect {timer : ℕ} {options : ConnectData} (hoptions : options.Fits)
    (hsize : s.buf.length < 2 ^ 28) (hbuf : s.buf = c.buf) (hc : c.isconnected = false)
    (hs : s.isconnected = false) (hbefore : ∀ P, SessionMoves P c tr s tr) :
    Prog.wlp (do
      let rc ← sendSerialized turns timer (mqttSerializeConnect s.buf.length options)
      if rc = success then awaitConnack turns timer else pure rc)
      (Connected (fun packet => mqttSerializeConnect c.buf.length options = some packet) c tr)
      s tr := by
  rw [Prog.wlp_bind]
  cases hpacket : mqttSerializeConnect s.buf.length options with
  | none => exact connected_of_failed (by decide) hs (hbefore _)
  | some packet =>
    have hp := isPacket_connect hoptions hsize hpacket
    have hlength := length_filled hp.length_le
    rw [hbuf] at hpacket
    rw [sendSerialized]
    apply wlp_modifyClient_bind
    apply wlp_sendPacket_filled (take_filled ..)
    · intro pieces
      rw [if_neg (by decide)]
      refine connected_of_failed (by decide) hs ((hbefore _).trans ?_)
      refine (CallMoves.of_move (.move (.unsent pieces s.session id)) rfl ?_).session
      simp only [Client.session, hlength]
    · intro lastSent pieces hpieces
      rw [if_pos rfl]
      refine wlp_awaitConnack hc hs hpacket fun P => (hbefore P).trans ?_
      refine (CallMoves.of_move (.sent s.session (by decide) (fun h => absurd h (by decide)) hp
        hpieces) (List.append_assoc ..) ?_).session
      simp only [Client.session, hlength]

/-- `MQTTConnect` -/
theorem wlp_mqttConnect (hsize : c.buf.length < 2 ^ 28) {options : ConnectData}
    (hoptions : options.Fits) : (mqttConnect turns options).wlp
      (Connected (fun packet => mqttSerializeConnect c.buf.length options = some packet) c tr)
      c tr := by
  unfold mqttConnect
  apply wlp_readClient_bind
  cases hconnected : c.isconnected with
  | true =>
    have hfailure : failure ≠ success := by decide
    refine ⟨Follows.refl, ?_, fun h => absurd h hfailure, fun h => absurd h hfailure⟩
    simp [hconnected, failure, success]
  | false =>
    simp only [Bool.false_eq_true, if_false]
    apply wlp_readClient_bind
    apply wlp_timerCountdownMS_bind
    intro timer
    unfold setOptions
    rw [Prog.wlp_bind, Prog.wlp_act, List.append_nil]
    intro w
    apply wlp_readClient_bind
    refine wlp_sendConnect hoptions ?_ rfl hconnected ?_ ?_
    · exact hsize
    · exact hconnected
    · intro P
      exact ⟨[], (List.append_nil tr).symm, .single (.options c.session options.cleansession)⟩

end ZohoIotSdk.Paho
