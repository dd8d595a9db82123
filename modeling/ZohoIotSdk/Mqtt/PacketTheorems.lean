import ZohoIotSdk.Mqtt.Packets

/-!
# Packets that are read back

What the deserializers of the embedded Paho library make of the packets that its serializers write,
and of the packets that a peer may send instead. The packet stands at the start of a buffer, and
what is behind it there is left over from earlier packets.
-/

namespace ZohoIotSdk.Paho

open Codec Machine

variable {α : Type} {n : ℕ} {left : ℤ}

/-! ## Fields -/

theorem readChar_bind_cons (f : UInt8 → Decode α) (b : UInt8) (data : List UInt8) (left : ℤ) :
    (readChar >>= f) ⟨b :: data, left⟩ = f b ⟨data, left - 1⟩ := rfl

/-- A number is read from two bytes, the high one first. -/
theorem readInt_bind_cons (f : ℕ → Decode α) (high low : UInt8) (data : List UInt8) (left : ℤ) :
    (readInt >>= f) ⟨high :: low :: data, left⟩ =
      f (256 * high.toNat + low.toNat) ⟨data, left - 2⟩ := by
  show f _ ⟨data, left - 1 - 1⟩ = _
  rw [Int.sub_sub]
  rfl

theorem readInt_bind (f : ℕ → Decode α) {id : ℕ} (hid : id < 65536) (data : List UInt8)
    (left : ℤ) : (readInt >>= f) ⟨writeInt id ++ data, left⟩ = f id ⟨data, left - 2⟩ := by
  have hvalue : 256 * (UInt8.ofNat (id / 256)).toNat + (UInt8.ofNat (id % 256)).toNat = id := by
    rw [toNat_ofNat_of_lt (by omega), toNat_ofNat_of_lt (by omega), Nat.div_add_mod]
  show (readInt >>= f) ⟨UInt8.ofNat (id / 256) :: UInt8.ofNat (id % 256) :: data, left⟩ = _
  rw [readInt_bind_cons, hvalue]

/-- The pointer moves behind a length that `MQTTPacket_encode` has written. -/
theorem readLength_bind (f : ℕ × ℕ → Decode α) (hn : n < 2 ^ 28) (data : List UInt8) (left : ℤ) :
    (readLength >>= f) ⟨mqttPacketEncode n ++ data, left⟩ =
      f ((mqttPacketEncode n).length, n) ⟨data, left - (mqttPacketEncode n).length⟩ := by
  have hlength : readLength ⟨mqttPacketEncode n ++ data, left⟩ =
      some (.ok (((mqttPacketEncode n).length, n), ⟨data, left - (mqttPacketEncode n).length⟩)) := by
    rw [readLength, Decoder.peek_bind]
    simp only [mqttPacketDecode_encode hn]
    rw [Decoder.take_bind]
    rfl
  rw [Decoder.bind_ok hlength]

/-- The topic at the start of a body, and what follows it; there is none if it does not fit in the
body. -/
def splitTopic (body : List UInt8) : Option (List UInt8 × List UInt8) :=
  match body with
  | high :: low :: rest =>
    let len := 256 * high.toNat + low.toNat
    if len ≤ rest.length then some (rest.take len, rest.drop len) else none
  | _ => none

/-- The topic is split from what follows. -/
theorem splitTopic_of_topic {topic : List UInt8} (h : topic.length < 65536) (rest : List UInt8) :
    splitTopic (writeInt topic.length ++ topic ++ rest) = some (topic, rest) := by
  have hvalue : 256 * (UInt8.ofNat (topic.length / 256)).toNat +
      (UInt8.ofNat (topic.length % 256)).toNat = topic.length := by
    rw [toNat_ofNat_of_lt (by omega), toNat_ofNat_of_lt (by omega), Nat.div_add_mod]
  show splitTopic (UInt8.ofNat _ :: UInt8.ofNat _ :: (topic ++ rest)) = _
  rw [splitTopic, hvalue]
  simp only [List.length_append, Nat.le_add_right, if_true, List.take_left, List.drop_left]

/-- The topic is read where the body holds one. -/
theorem readMQTTLenString_body (body mem : List UInt8) :
    ∃ cur, readMQTTLenString ⟨body ++ mem, body.length⟩ =
        some (.ok ((splitTopic body).map Prod.fst, cur)) ∧
      ∀ topic rest, splitTopic body = some (topic, rest) → cur = ⟨rest ++ mem, rest.length⟩ := by
  match body with
  | [] => exact ⟨_, rfl, fun _ _ h => nomatch h⟩
  | [_] => exact ⟨_, rfl, fun _ _ h => nomatch h⟩
  | high :: low :: rest =>
    rw [readMQTTLenString, Decoder.left_bind, if_pos (by simp), List.cons_append, List.cons_append,
      readInt_bind_cons, Decoder.left_bind, splitTopic]
    simp only [List.length_cons]
    generalize 256 * high.toNat + low.toNat = len
    by_cases hle : len ≤ rest.length
    · rw [if_pos (by omega), if_pos hle]
      have hsplit : rest ++ mem = rest.take len ++ (rest.drop len ++ mem) := by
        rw [← List.append_assoc, List.take_append_drop]
      have hlen : (rest.take len).length = len := List.length_take_of_le hle
      have hread := Decoder.take_bind (ε := ℤ) (fun data => pure (some data)) (rest.take len)
        (rest.drop len ++ mem) ((rest.length + 1 + 1 : ℕ) - 2 : ℤ)
      rw [hlen, ← hsplit] at hread
      refine ⟨_, hread, ?_⟩
      rintro topic rest' heq
      rw [Option.some_inj, Prod.mk.injEq] at heq
      obtain ⟨rfl, rfl⟩ := heq
      rw [List.length_drop]
      congr 1
      omega
    · rw [if_neg (by omega), if_neg hle]
      exact ⟨_, rfl, fun _ _ h => nomatch h⟩

/-! ## PUBLISH -/

/-- A packet as `readPacket` leaves it in the buffer: the header byte, the length of the body, the
body, and what is left over from earlier packets. -/
def received (header : UInt8) (body mem : List UInt8) : List UInt8 :=
  header :: (mqttPacketEncode body.length ++ (body ++ mem))

/-- What `MQTTDeserialize_publish` writes to its outputs, by what follows the topic: the packet id
is read without a look at the end of the packet. -/
def publishOutputs (header : MqttHeader) (topic rest mem : List UInt8) : Option PublishData :=
  let data : PublishData := { dup := header.dup, qos := header.qos, retained := header.retain,
                              packetid := none, topicName := topic, payload := rest ++ mem,
                              payloadlen := rest.length }
  if 0 < header.qos then
    match rest ++ mem with
    | high :: low :: payload =>
      some { data with packetid := some (256 * high.toNat + low.toNat), payload := payload,
                       payloadlen := rest.length - 2 }
    | _ => none
  else some data

/-- A received PUBLISH packet: the outputs are those of the topic, and where no topic fits in the
body the return code is the number of bytes that the length has taken. -/
theorem mqttDeserializePublish_received {header : UInt8} {body : List UInt8} (mem : List UInt8)
    (htype : (MqttHeader.bits header).type = MsgType.publish.toNat)
    (hlength : body.length < 2 ^ 28) :
    mqttDeserializePublish (received header body mem) =
      match splitTopic body with
      | none => some (.error (mqttPacketEncode body.length).length)
      | some (topic, rest) =>
        (publishOutputs (MqttHeader.bits header) topic rest mem).map .ok := by
  obtain ⟨cur, hread, hcur⟩ := readMQTTLenString_body body mem
  rw [mqttDeserializePublish, Decoder.run, received, readChar_bind_cons]
  simp only [htype, ne_eq, not_true_eq_false, if_false]
  rw [publishBody, readLength_bind _ hlength]
  simp only [Decoder.setLeft_bind, Decoder.bind_ok hread, Decoder.left_bind]
  cases hsplit : splitTopic body with
  | none => rfl
  | some split =>
    obtain ⟨topic, rest⟩ := split
    rw [hcur topic rest hsplit]
    simp only [Option.map_some, publishOutputs]
    rw [if_neg (by omega)]
    by_cases hqos : 0 < (MqttHeader.bits header).qos
    · rw [if_pos hqos, if_pos hqos]
      match rest ++ mem with
      | [] => rfl
      | [_] => rfl
      | high :: low :: payload =>
        have hid : (do let id ← readInt; pure (some id) : Decode (Option ℕ))
            ⟨high :: low :: payload, rest.length⟩ =
            some (.ok (some (256 * high.toNat + low.toNat), ⟨payload, rest.length - 2⟩)) :=
          readInt_bind_cons ..
        rw [Decoder.bind_ok hid]
        rfl
    · rw [if_neg hqos, if_neg hqos]
      rfl

/-- How many bytes of the packet id stand between the topic and the payload. -/
def idLength (header : MqttHeader) : ℕ := if 0 < header.qos then 2 else 0

/-- The length of the payload is what is left of the body, and may be negative. -/
theorem publishOutputs_eq_some {header : MqttHeader} {topic rest mem : List UInt8}
    {data : PublishData} (h : publishOutputs header topic rest mem = some data) :
    data.topicName = topic ∧ data.payloadlen = rest.length - idLength header ∧
      (0 ≤ data.payloadlen →
        data.payload.take data.payloadlen.toNat = rest.drop (idLength header)) := by
  unfold publishOutputs at h
  unfold idLength
  split at h
  · rename_i hqos
    rw [if_pos hqos]
    split at h
    · rename_i high low payload hmem
      cases h
      refine ⟨rfl, rfl, fun hpos => ?_⟩
      have hle : 2 ≤ rest.length := by
        simp only at hpos
        omega
      have hpayload : payload = rest.drop 2 ++ mem := by
        rw [← List.drop_append_of_le_length hle, hmem]
        rfl
      have hlength : ((rest.length : ℤ) - 2).toNat = (rest.drop 2).length := by
        rw [List.length_drop]
        omega
      show payload.take ((rest.length : ℤ) - 2).toNat = rest.drop 2
      rw [hlength, hpayload, List.take_left]
    · cases h
  · rename_i hqos
    rw [if_neg hqos]
    cases h
    refine ⟨rfl, by simp, fun _ => ?_⟩
    show (rest ++ mem).take (rest.length : ℤ).toNat = rest
    rw [Int.toNat_natCast, List.take_left]

/-- There is a result unless the packet id would be read from beyond the memory. -/
theorem publishOutputs_isSome (header : MqttHeader) (topic rest mem : List UInt8) :
    (publishOutputs header topic rest mem).isSome = true ↔
      idLength header ≤ rest.length + mem.length := by
  rw [← List.length_append]
  unfold publishOutputs idLength
  by_cases hqos : 0 < header.qos
  · rw [if_pos hqos, if_pos hqos]
    match rest ++ mem with
    | [] => simp
    | [_] => simp
    | _ :: _ :: _ => simp
  · rw [if_neg hqos, if_neg hqos]
    simp

/-- When `MQTTDeserialize_publish` goes wrong on a packet that a peer can send: it returns its
success code 1 without a topic if and only if the topic does not fit in a body of less than 128
bytes; it reads a packet if and only if the topic fits in the body and the packet id in the memory;
and it gives a payload of negative length if and only if the body ends in the packet id. Otherwise
the payload is what follows the topic and the packet id in the body. -/
theorem mqttDeserializePublish_malformed {header : UInt8} {body : List UInt8} (mem : List UInt8)
    (htype : (MqttHeader.bits header).type = MsgType.publish.toNat)
    (hlength : body.length < 2 ^ 28) :
    (mqttDeserializePublish (received header body mem) = some (.error 1) ↔
      splitTopic body = none ∧ body.length < 128) ∧
    ((∃ data, mqttDeserializePublish (received header body mem) = some (.ok data)) ↔
      ∃ split ∈ splitTopic body,
        idLength (MqttHeader.bits header) ≤ split.2.length + mem.length) ∧
    ∀ data, mqttDeserializePublish (received header body mem) = some (.ok data) →
      ∃ rest, splitTopic body = some (data.topicName, rest) ∧
        (data.payloadlen < 0 ↔ rest.length < idLength (MqttHeader.bits header)) ∧
        (0 ≤ data.payloadlen → data.payload.take data.payloadlen.toNat =
          rest.drop (idLength (MqttHeader.bits header))) := by
  rw [mqttDeserializePublish_received mem htype hlength]
  cases hsplit : splitTopic body with
  | none =>
    have hlog : (mqttPacketEncode body.length).length = 1 ↔ body.length < 128 := by
      rw [length_mqttPacketEncode, Nat.add_eq_right, Nat.log_eq_zero_iff]
      omega
    simp only [Option.some_inj, Except.error.injEq, true_and, reduceCtorEq, false_implies,
      implies_true, and_true, Option.not_mem_none, false_and, exists_false]
    rw [← hlog]
    omega
  | some split =>
    obtain ⟨topic, rest⟩ := split
    refine ⟨by simp, ?_, ?_⟩
    · simp only [Option.mem_some_iff, exists_eq_left', ← publishOutputs_isSome _ topic,
        Option.isSome_iff_exists, Option.map_eq_some_iff, Except.ok.injEq, exists_eq_right]
    · intro data hdata
      obtain ⟨_, hout, hok⟩ := Option.map_eq_some_iff.mp hdata
      obtain rfl := Except.ok.inj hok
      obtain ⟨rfl, hlen, hpayload⟩ := publishOutputs_eq_some hout
      exact ⟨rest, rfl, by omega, hpayload⟩

/-- A topic that does not fit, and a packet that ends before its packet id. -/
theorem mqttDeserializePublish_cut :
    mqttDeserializePublish (received 0x30 [0, 9] []) = some (.error 1) ∧
    ∃ data, mqttDeserializePublish (received 0x32 [0, 1, 97] [7, 7]) = some (.ok data) ∧
      data.payloadlen < 0 := by
  refine ⟨(mqttDeserializePublish_malformed [] (by decide) (by decide)).1.mpr (by decide), ?_⟩
  obtain ⟨-, hreads, hnegative⟩ := @mqttDeserializePublish_malformed 0x32 [0, 1, 97] [7, 7]
    (by decide) (by decide)
  obtain ⟨data, hdata⟩ := hreads.mpr ⟨([97], []), rfl, by decide⟩
  obtain ⟨rest, hrest, hiff, -⟩ := hnegative data hdata
  obtain ⟨-, rfl⟩ := Prod.mk.inj (Option.some.inj hrest)
  exact ⟨data, hdata, hiff.mpr (by decide)⟩

/-- The bytes of a packet are no more than `MQTTPacket_len` says. -/
theorem length_le_mqttPacketLen (hn : n < 2 ^ 28) :
    1 + (mqttPacketEncode n).length + n ≤ mqttPacketLen n := by
  have hlog : Nat.log 128 n < 4 := Nat.log_lt_of_lt_pow' (by omega) (by omega)
  have hlog₁ : n < 128 → Nat.log 128 n < 1 := fun h => Nat.log_lt_of_lt_pow' (by omega) (by omega)
  have hlog₂ : n < 16384 → Nat.log 128 n < 2 := fun h =>
    Nat.log_lt_of_lt_pow' (by omega) (by omega)
  have hlog₃ : n < 2097152 → Nat.log 128 n < 3 := fun h =>
    Nat.log_lt_of_lt_pow' (by omega) (by omega)
  rw [length_mqttPacketEncode]
  simp only [mqttPacketLen]
  split_ifs <;> omega

theorem length_received (header : UInt8) (body mem : List UInt8) :
    (received header body mem).length =
      1 + (mqttPacketEncode body.length).length + body.length + mem.length := by
  simp only [received, List.length_cons, List.length_append]
  omega

@[simp] theorem length_bytes (s : CString) : (bytes s).length = s.length := List.length_map ..

/-- The packet id in front of a payload, for a quality of service above 0. -/
def packetIdBytes (qos packetid : ℕ) : List UInt8 := if 0 < qos then writeInt packetid else []

/-- The outputs of a message whose packet id and payload are in place. -/
theorem publishOutputs_of_payload (header : MqttHeader) {packetid : ℕ} (hid : packetid < 65536)
    (topic payload mem : List UInt8) :
    publishOutputs header topic (packetIdBytes header.qos packetid ++ payload) mem = some
      { dup := header.dup, qos := header.qos, retained := header.retain,
        packetid := if 0 < header.qos then some packetid else none, topicName := topic,
        payload := payload ++ mem, payloadlen := payload.length } := by
  have hvalue : 256 * (UInt8.ofNat (packetid / 256)).toNat +
      (UInt8.ofNat (packetid % 256)).toNat = packetid := by
    rw [toNat_ofNat_of_lt (by omega), toNat_ofNat_of_lt (by omega), Nat.div_add_mod]
  unfold publishOutputs packetIdBytes
  by_cases hqos : 0 < header.qos
  · simp only [if_pos hqos, writeInt, List.cons_append, List.nil_append, List.length_cons, hvalue]
    congr 2
    omega
  · simp only [if_neg hqos, List.nil_append]

/-- What stands behind the length of a PUBLISH packet. -/
def publishPacketBody (qos packetid : ℕ) (topicName payload : CString) : List UInt8 :=
  writeInt (bytes topicName).length ++ bytes topicName ++
    (packetIdBytes qos packetid ++ bytes payload)

/-- The body has the length that the code computes. -/
theorem length_publishPacketBody (qos packetid : ℕ) (topicName payload : CString) :
    (publishPacketBody qos packetid topicName payload).length =
      mqttSerializePublishLength qos topicName payload := by
  unfold publishPacketBody packetIdBytes mqttSerializePublishLength
  simp only [List.length_append, length_writeInt, length_bytes]
  split_ifs <;> simp only [length_writeInt, List.length_nil] <;> omega

/-- The topic is split from the body of a message. -/
theorem splitTopic_publishPacketBody {topicName : CString} (htopic : topicName.length < 65536)
    (qos packetid : ℕ) (payload : CString) :
    splitTopic (publishPacketBody qos packetid topicName payload) =
      some (bytes topicName, packetIdBytes qos packetid ++ bytes payload) :=
  splitTopic_of_topic (by rwa [length_bytes]) _

/-- A PUBLISH packet, as it is received. -/
theorem publishPacket_append (dup : Bool) (qos : ℕ) (retained : Bool) (packetid : ℕ)
    (topicName payload : CString) (mem : List UInt8) :
    publishPacket dup qos retained packetid topicName payload ++ mem =
      received (MqttHeader.byte { type := 3, dup := dup, qos := qos, retain := retained })
        (publishPacketBody qos packetid topicName payload) mem := by
  rw [received, length_publishPacketBody, publishPacket, publishPacketBody, length_bytes]
  simp only [List.cons_append, List.append_assoc, packetIdBytes]
  rfl

/-- A PUBLISH packet that `MQTTSerialize_publish` has written fits in the buffer, and it is read back
from any buffer. -/
theorem publish_roundTrip {buflen qos packetid : ℕ} {dup retained : Bool}
    {topicName payload : CString} {packet : List UInt8}
    (hpacket : mqttSerializePublish buflen dup qos retained packetid topicName payload = some packet)
    (hqos : qos < 4) (hid : packetid < 65536) (htopic : topicName.length < 65536)
    (hsize : mqttSerializePublishLength qos topicName payload < 2 ^ 28) (mem : List UInt8) :
    packet.length ≤ buflen ∧ mqttDeserializePublish (packet ++ mem) = some (.ok
      { dup := dup, qos := qos, retained := retained,
        packetid := if 0 < qos then some packetid else none, topicName := bytes topicName,
        payload := bytes payload ++ mem, payloadlen := payload.length }) := by
  rw [mqttSerializePublish] at hpacket
  split at hpacket
  · cases hpacket
  rename_i hfits
  obtain rfl := Option.some_inj.mp hpacket
  have hheader : MqttHeader.Fits { type := 3, dup := dup, qos := qos, retain := retained } :=
    ⟨show 3 < 16 by omega, hqos⟩
  have hbody := length_publishPacketBody qos packetid topicName payload
  constructor
  · have hpacket' := publishPacket_append dup qos retained packetid topicName payload []
    rw [List.append_nil] at hpacket'
    rw [hpacket', length_received, hbody, List.length_nil]
    exact (length_le_mqttPacketLen hsize).trans (not_lt.mp hfits)
  · have hout := publishOutputs_of_payload
      { type := 3, dup := dup, qos := qos, retain := retained } hid (bytes topicName)
      (bytes payload) mem
    rw [length_bytes] at hout
    rw [publishPacket_append, mqttDeserializePublish_received mem
      (by rw [MqttHeader.bits_byte hheader]; rfl) (by rwa [hbody]), MqttHeader.bits_byte hheader,
      splitTopic_publishPacketBody htopic]
    exact congrArg (Option.map Except.ok) hout

theorem publish_readBack : ∃ packet,
    mqttSerializePublish 32 false 1 true 5 ['a'] ['b', 'c'] = some packet ∧
      packet.length ≤ 32 ∧ mqttDeserializePublish (packet ++ [0]) = some (.ok
        { dup := false, qos := 1, retained := true, packetid := some 5, topicName := bytes ['a'],
          payload := bytes ['b', 'c'] ++ [0], payloadlen := 2 }) := by
  have hsome : (mqttSerializePublish 32 false 1 true 5 ['a'] ['b', 'c']).isSome = true := by decide
  obtain ⟨packet, hpacket⟩ := Option.isSome_iff_exists.mp hsome
  exact ⟨packet, hpacket, publish_roundTrip hpacket (by decide) (by decide) (by decide) (by decide)
    [0]⟩

/-! ## Acknowledgements -/

/-- Storing an integer in a `char` wraps it to eight bits. -/
theorem toSigned_charByte (n : ℤ) : byteChar (charByte n) = toSigned 8 n := by
  have hnonneg : 0 ≤ n % 2 ^ 8 := Int.emod_nonneg n (by omega)
  have hbyte : (UInt8.ofNat (n % 2 ^ 8).toNat).toNat = (n % 2 ^ 8).toNat :=
    toNat_ofNat_of_lt (by omega)
  rw [byteChar, charByte, toUnsigned, hbyte, Int.toNat_of_nonneg hnonneg]
  exact Int.emod_bmod n (2 ^ 8)

/-- A CONNACK packet: the session flag and the return code are taken from the body, and an empty
one or one of a single byte is reported as read without having been read. -/
theorem mqttDeserializeConnack_received {header : UInt8} {body : List UInt8} (mem : List UInt8)
    (htype : (MqttHeader.bits header).type = MsgType.connack.toNat)
    (hlength : body.length < 2 ^ 28) :
    mqttDeserializeConnack (received header body mem) = some (match body with
      | flags :: connackRc :: _ => .ok (decide (flags.toNat % 2 = 1), connackRc)
      | _ => .error 1) := by
  rw [received, mqttDeserializeConnack, Decoder.run, readChar_bind_cons]
  simp only [htype, ne_eq, not_true_eq_false, if_false, readLength_bind _ hlength,
    Decoder.setLeft_bind, Decoder.left_bind]
  match body with
  | [] =>
    rw [List.length_nil, mqttPacketEncode_of_lt (by omega)]
    rfl
  | [byte] =>
    rw [List.length_singleton, mqttPacketEncode_of_lt (by omega)]
    rfl
  | flags :: connackRc :: body =>
    rw [if_neg (by rw [List.length_cons, List.length_cons]; omega)]
    rfl

/-! ## SUBACK -/

/-- The loop stores what it reads until the array is full, and one value more. -/
theorem readGranted_apply {maxcount turns count : ℕ} {codes : List UInt8} (mem : List UInt8)
    (hturns : codes.length ≤ turns) (hcount : count ≤ maxcount + 1) :
    ∃ cur, readGranted maxcount turns count ⟨codes ++ mem, codes.length⟩ =
      some (.ok ((if codes.length + count ≤ maxcount + 1 then 1 else -1,
        (codes.take (maxcount + 1 - count)).map byteChar), cur)) := by
  induction codes generalizing turns count with
  | nil =>
    rw [List.take_nil, List.length_nil, Nat.zero_add, if_pos hcount]
    cases turns <;> exact ⟨_, rfl⟩
  | cons code codes ih =>
    rw [List.length_cons] at hturns
    obtain ⟨turns, rfl⟩ : ∃ k, turns = k + 1 := ⟨turns - 1, by omega⟩
    rw [readGranted, Decoder.left_bind, if_pos (by simp)]
    by_cases hfull : maxcount < count
    · obtain rfl : count = maxcount + 1 := by omega
      rw [if_pos hfull, Nat.sub_self, List.take_zero, List.map_nil, if_neg (by simp)]
      exact ⟨_, rfl⟩
    · obtain ⟨cur, hrest⟩ := @ih turns (count + 1) (by omega) (by omega)
      have hleft : ((code :: codes).length : ℤ) - 1 = codes.length := by
        rw [List.length_cons]
        omega
      have htake : (code :: codes).take (maxcount + 1 - count) =
          code :: codes.take (maxcount + 1 - (count + 1)) := by
        rw [show maxcount + 1 - count = maxcount + 1 - (count + 1) + 1 by omega, List.take_succ_cons]
      rw [if_neg hfull, List.cons_append, readChar_bind_cons, hleft, Decoder.bind_ok hrest, htake,
        List.length_cons, show codes.length + 1 + count = codes.length + (count + 1) by omega]
      exact ⟨cur, rfl⟩

/-- A SUBACK packet. -/
theorem mqttDeserializeSuback_received {header : UInt8} {body : List UInt8} (mem : List UInt8)
    (maxcount : ℕ) (htype : (MqttHeader.bits header).type = MsgType.suback.toNat)
    (hlength : body.length < 2 ^ 28) :
    mqttDeserializeSuback maxcount (received header body mem) = some (match body with
      | high :: low :: codes => .ok
        { rc := if codes.length ≤ maxcount + 1 then 1 else -1,
          packetid := 256 * high.toNat + low.toNat,
          grantedQoSs := (codes.take (maxcount + 1)).map byteChar }
      | _ => .error 1) := by
  rw [received, mqttDeserializeSuback, Decoder.run, readChar_bind_cons]
  simp only [htype, ne_eq, not_true_eq_false, if_false, readLength_bind _ hlength,
    Decoder.setLeft_bind, Decoder.left_bind]
  match body with
  | [] =>
    rw [List.length_nil, mqttPacketEncode_of_lt (by omega)]
    rfl
  | [byte] =>
    rw [List.length_singleton, mqttPacketEncode_of_lt (by omega)]
    rfl
  | high :: low :: codes =>
    obtain ⟨cur, hcodes⟩ := @readGranted_apply maxcount (high :: low :: codes).length 0 codes mem
      (by rw [List.length_cons, List.length_cons]; omega) (by omega)
    have hleft : (((high :: low :: codes).length : ℕ) : ℤ) - 2 = codes.length := by
      simp only [List.length_cons]
      omega
    rw [if_neg (by rw [List.length_cons, List.length_cons]; omega), List.cons_append,
      List.cons_append, readInt_bind_cons, hleft,
      Decoder.bind_ok hcodes, Nat.add_zero, Nat.sub_zero]
    rfl

/-- What `MQTTDeserialize_suback` does with the array of `maxcount` values that it is given: it
stores one value more than the array holds whenever the packet has more than `maxcount` codes,
and reports success for `maxcount + 1` of them. Where `char` is signed, no stored value is `SUBFAIL`,
which is what its caller compares it with: a refusal is stored as -128. -/
theorem mqttDeserializeSuback_stores {header : UInt8} {packetid : ℕ} {codes : List UInt8}
    (mem : List UInt8) (maxcount : ℕ)
    (htype : (MqttHeader.bits header).type = MsgType.suback.toNat) (hid : packetid < 65536)
    (hlength : codes.length + 2 < 2 ^ 28) :
    ∃ data, mqttDeserializeSuback maxcount (received header (writeInt packetid ++ codes) mem) =
        some (.ok data) ∧
      data.packetid = packetid ∧
      (maxcount < data.grantedQoSs.length ↔ maxcount < codes.length) ∧
      (data.rc = 1 ↔ codes.length ≤ maxcount + 1) ∧
      data.grantedQoSs = (codes.take (maxcount + 1)).map byteChar ∧
      128 ∉ data.grantedQoSs := by
  have hvalue : 256 * (UInt8.ofNat (packetid / 256)).toNat +
      (UInt8.ofNat (packetid % 256)).toNat = packetid := by
    rw [toNat_ofNat_of_lt (by omega), toNat_ofNat_of_lt (by omega), Nat.div_add_mod]
  have hreceived := @mqttDeserializeSuback_received header (writeInt packetid ++ codes) mem maxcount
    htype (by rw [List.length_append, length_writeInt]; omega)
  refine ⟨_, hreceived, hvalue, ?_, ?_, rfl, ?_⟩
  · show maxcount < ((codes.take (maxcount + 1)).map byteChar).length ↔ maxcount < codes.length
    rw [List.length_map, List.length_take]
    omega
  · show (if codes.length ≤ maxcount + 1 then (1 : ℤ) else -1) = 1 ↔ _
    split_ifs <;> simp_all
  · intro hmem
    obtain ⟨code, -, hcode⟩ := List.mem_map.mp hmem
    have hlt := @Int.bmod_lt code.toNat (2 ^ 8) (by decide)
    rw [byteChar, toSigned] at hcode
    rw [hcode] at hlt
    exact absurd hlt (by decide)

theorem suback_refused : ∃ data,
    mqttDeserializeSuback 1 (received 0x90 (writeInt 5 ++ [1, 0x80]) []) = some (.ok data) ∧
      data.packetid = 5 ∧ (1 < data.grantedQoSs.length ↔ 1 < List.length [1, 0x80]) ∧
      (data.rc = 1 ↔ List.length [1, 0x80] ≤ 1 + 1) ∧
      data.grantedQoSs = (List.take (1 + 1) [1, 0x80]).map byteChar ∧ 128 ∉ data.grantedQoSs :=
  mqttDeserializeSuback_stores [] 1 (by decide) (by decide) (by decide)

/-! ## SUBSCRIBE -/

theorem writeMQTTString_reads {s : MqttString} (h : s.text.length < 65536) :
    readMQTTLenString.Reads (writeMQTTString s) (some s.text) :=
  readMQTTLenString_reads h

theorem length_writeMQTTString {s : MqttString} (h : s.Single) :
    (writeMQTTString s).length = 2 + mqttStrlen s := by
  rw [writeMQTTString, List.length_append, length_writeInt, mqttStrlen_eq h]

/-- A written filter is read back with its QoS in a `char`. -/
theorem readFilter_reads (rc : ℕ) {filter : MqttString × ℤ} (h : filter.1.text.length < 65536) :
    (readFilter rc).Reads (writeFilter filter) (filter.1.text, toSigned 8 filter.2) := by
  have hqos : (do let qos ← readChar; pure (filter.1.text, byteChar qos) :
      Decode (List UInt8 × ℤ)).Reads [charByte filter.2]
      (filter.1.text, byteChar (charByte filter.2)) :=
    (Decoder.reads_item (charByte filter.2)).bind_pure fun qos => (filter.1.text, byteChar qos)
  rw [toSigned_charByte] at hqos
  refine (writeMQTTString_reads h).bind (Decoder.reads_left_bind fun left hleft => ?_)
  simp only
  rw [if_neg (by rw [List.length_singleton] at hleft; omega)]
  exact hqos

theorem foldl_add_length {ι : Type} (text : ι → List UInt8) (size : ι → ℕ) {items : List ι}
    (h : ∀ i ∈ items, (text i).length = size i) (n : ℕ) :
    items.foldl (fun len i => len + size i) n = n + (items.flatMap text).length := by
  induction items generalizing n with
  | nil => rfl
  | cons i items ih =>
    rw [List.foldl_cons, ih (fun j hj => h j (List.mem_cons_of_mem i hj)), List.flatMap_cons,
      List.length_append, h i (List.mem_cons_self ..), Nat.add_assoc]

/-- A SUBSCRIBE packet is read back from the stored bytes. -/
theorem mqttDeserializeSubscribe_received {header : MqttHeader} (hheader : header.Fits)
    (htype : header.type = MsgType.subscribe.toNat) {packetid : ℕ} (hid : packetid < 65536)
    {topicFilters : List (MqttString × ℤ)}
    (hfilters : ∀ filter ∈ topicFilters, filter.1.text.length < 65536)
    (hsize : (writeInt packetid ++ topicFilters.flatMap writeFilter).length < 2 ^ 28)
    (mem : List UInt8) :
    mqttDeserializeSubscribe (received header.byte
        (writeInt packetid ++ topicFilters.flatMap writeFilter) mem) = some (.ok
      { dup := header.dup, packetid := packetid,
        topicFilters := topicFilters.map fun filter => (filter.1.text, toSigned 8 filter.2) }) := by
  rw [received, mqttDeserializeSubscribe, Decoder.run, readChar_bind_cons,
    MqttHeader.bits_byte hheader]
  simp only [htype, ne_eq, not_true_eq_false, if_false, readLength_bind _ hsize,
    Decoder.setLeft_bind]
  rw [List.append_assoc, readInt_bind _ hid]
  have hleft : ((writeInt packetid ++ topicFilters.flatMap writeFilter).length : ℤ) - 2 =
      (topicFilters.flatMap writeFilter).length := by
    rw [List.length_append, length_writeInt]
    omega
  have hpos : ∀ filter, 0 < (writeFilter filter).length := by
    intro filter
    rw [writeFilter, List.length_append, List.length_singleton]
    omega
  have hmany := fun rc => @Decoder.many_apply _ _ _ (readFilter rc) _ writeFilter _ hpos topicFilters
    (fun filter hfilter => readFilter_reads rc (hfilters filter hfilter)) mem
    (writeInt packetid ++ topicFilters.flatMap writeFilter).length
    (by rw [List.length_append]; omega)
  rw [hleft, Decoder.bind_ok (hmany _)]
  rfl

/-- A SUBSCRIBE packet of any number of filters that `MQTTSerialize_subscribe` has written fits in
the buffer, and it is read back from any buffer, with the levels that are asked for as far as
they fit in a `char`. -/
theorem subscribe_roundTrip {buflen packetid : ℕ} {dup : Bool}
    {topicFilters : List (MqttString × ℤ)} {packet : List UInt8}
    (hpacket : mqttSerializeSubscribe buflen dup packetid topicFilters = some packet)
    (hid : packetid < 65536)
    (hfilters : ∀ filter ∈ topicFilters, filter.1.Single ∧ filter.1.text.length < 65536)
    (hsize : mqttSerializeSubscribeLength topicFilters < 2 ^ 28) (mem : List UInt8) :
    packet.length ≤ buflen ∧ mqttDeserializeSubscribe (packet ++ mem) = some (.ok
      { dup := dup, packetid := packetid,
        topicFilters := topicFilters.map fun filter => (filter.1.text, toSigned 8 filter.2) }) := by
  have hbody : mqttSerializeSubscribeLength topicFilters =
      (writeInt packetid ++ topicFilters.flatMap writeFilter).length := by
    rw [List.length_append, length_writeInt]
    refine foldl_add_length writeFilter (fun filter => 2 + mqttStrlen filter.1 + 1) ?_ 2
    intro filter hfilter
    rw [writeFilter, List.length_append, length_writeMQTTString (hfilters filter hfilter).1,
      List.length_singleton]
  rw [mqttSerializeSubscribe] at hpacket
  simp only [hbody] at hpacket hsize
  split at hpacket
  · cases hpacket
  rename_i hfits
  obtain rfl := Option.some_inj.mp hpacket
  constructor
  · have hlength := length_le_mqttPacketLen hsize
    rw [List.length_cons, List.length_append]
    omega
  · have hread := @mqttDeserializeSubscribe_received
      { type := MsgType.subscribe.toNat, dup := dup, qos := 1 }
      ⟨show 8 < 16 by omega, show 1 < 4 by omega⟩ rfl packetid hid topicFilters
      (fun filter hfilter => (hfilters filter hfilter).2) hsize mem
    rw [received, ← List.append_assoc, ← List.cons_append] at hread
    exact hread

/-- Two filters, with the levels that are asked for. -/
def twoFilters : List (MqttString × ℤ) :=
  [({ cstring := some [97] }, 0), ({ lenstring := some [97, 47, 43] }, 1)]

theorem subscribe_readBack : ∃ packet, mqttSerializeSubscribe 32 false 5 twoFilters = some packet ∧
    packet.length ≤ 32 ∧ mqttDeserializeSubscribe (packet ++ [0]) = some (.ok
      { dup := false, packetid := 5,
        topicFilters := twoFilters.map fun filter => (filter.1.text, toSigned 8 filter.2) }) := by
  have hsome : (mqttSerializeSubscribe 32 false 5 twoFilters).isSome = true := by decide
  obtain ⟨packet, hpacket⟩ := Option.isSome_iff_exists.mp hsome
  exact ⟨packet, hpacket, subscribe_roundTrip hpacket (by decide)
    (by unfold MqttString.Single; decide) (by decide) [0]⟩

end ZohoIotSdk.Paho
