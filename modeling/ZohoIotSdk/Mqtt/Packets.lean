import ZohoIotSdk.Machine.Integers
import ZohoIotSdk.Mqtt.Wire

/-!
# MQTT packets

The functions of the embedded Paho library that serialize and deserialize PUBLISH, SUBSCRIBE,
UNSUBSCRIBE and the acknowledgements. A serializer gives the bytes that it writes, `none` is
`MQTTPACKET_BUFFER_TOO_SHORT`; a deserializer that ends at one of its `goto exit` gives the return
code alone, because its outputs have not all been written, and there is no result where it reads
outside the memory.
-/

namespace ZohoIotSdk.Paho

open Codec Machine

/-- A value passed as `char`. -/
def charByte (n : ℤ) : UInt8 := UInt8.ofNat (toUnsigned 8 n)

/-- A `char` that is converted to `int`, on a machine where `char` is signed. -/
def byteChar (b : UInt8) : ℤ := toSigned 8 b.toNat

/-! ## PUBLISH -/

/-- What `MQTTDeserialize_publish` writes to its outputs. The payload is the memory from its pointer
on; the packet id is left alone for a quality of service of 0. -/
structure PublishData where
  dup : Bool
  qos : ℕ
  retained : Bool
  packetid : Option ℕ
  topicName : List UInt8
  payload : List UInt8
  payloadlen : ℤ
deriving DecidableEq

/-- `MQTTDeserialize_publish` behind the header byte. -/
def publishBody (header : MqttHeader) : Decode PublishData := do
  let (rc, mylen) ← readLength
  Decoder.setLeft mylen
  let topic ← readMQTTLenString
  let left ← Decoder.left
  match topic with
  | none => Decoder.exit rc
  | some topicName =>
    if left < 0 then Decoder.exit rc
    else do
      let packetid ← if 0 < header.qos then (do let id ← readInt; pure (some id)) else pure none
      let payloadlen ← Decoder.left
      let payload ← Decoder.peek
      pure { dup := header.dup, qos := header.qos, retained := header.retain, packetid := packetid,
             topicName := topicName, payload := payload, payloadlen := payloadlen }

/-- `MQTTDeserialize_publish` -/
def mqttDeserializePublish (buf : List UInt8) : Option (Except ℤ PublishData) :=
  Decoder.run (do
    let byte ← readChar
    let header := MqttHeader.bits byte
    if header.type ≠ MsgType.publish.toNat then Decoder.exit 0 else publishBody header) buf 0

/-! ## Acknowledgements -/

/-- The bytes of a packet that holds nothing but a packet id. -/
def ackPacket (type : ℕ) (dup : Bool) (packetid : ℕ) : List UInt8 :=
  MqttHeader.byte { type := type, dup := dup, qos := if type = MsgType.pubrel.toNat then 1 else 0 } ::
    (mqttPacketEncode 2 ++ writeInt packetid)

/-- `MQTTSerialize_ack` -/
def mqttSerializeAck (buflen type : ℕ) (dup : Bool) (packetid : ℕ) : Option (List UInt8) :=
  if buflen < 4 then none else some (ackPacket type dup packetid)

/-- What `MQTTDeserialize_ack` returns and writes; the packet id is left alone if the packet is too
short. -/
structure AckData where
  rc : ℤ
  packettype : ℕ
  dup : Bool
  packetid : Option ℕ
deriving DecidableEq

/-- `MQTTDeserialize_ack` behind the header byte. -/
def ackBody : Decode ℕ := do
  let (rc, mylen) ← readLength
  Decoder.setLeft mylen
  let left ← Decoder.left
  if left < 2 then Decoder.exit rc else readInt

/-- `MQTTDeserialize_ack` -/
def mqttDeserializeAck (buf : List UInt8) : Option AckData :=
  match buf with
  | [] => none
  | byte :: data =>
    let header := MqttHeader.bits byte
    (ackBody.run data 0).map fun
      | .error rc => { rc := rc, packettype := header.type, dup := header.dup, packetid := none }
      | .ok id => { rc := 1, packettype := header.type, dup := header.dup, packetid := some id }

/-- `MQTTDeserialize_unsuback`. The type alone decides. -/
def mqttDeserializeUnsuback (buf : List UInt8) : Option (ℤ × Option ℕ) :=
  (mqttDeserializeAck buf).map fun ack =>
    (if ack.packettype = MsgType.unsuback.toNat then 1 else ack.rc, ack.packetid)

/-! ## CONNACK -/

/-- `MQTTDeserialize_connack`: the session flag and the return code of the packet. -/
def mqttDeserializeConnack (buf : List UInt8) : Option (Except ℤ (Bool × UInt8)) :=
  Decoder.run (do
    let byte ← readChar
    if (MqttHeader.bits byte).type ≠ MsgType.connack.toNat then Decoder.exit 0
    else do
      let (rc, mylen) ← readLength
      Decoder.setLeft mylen
      let left ← Decoder.left
      if left < 2 then Decoder.exit rc
      else do
        let flags ← readChar
        let connackRc ← readChar
        pure (decide (flags.toNat % 2 = 1), connackRc)) buf 0

/-! ## Packets without a body -/

/-- `MQTTSerialize_zero` -/
def mqttSerializeZero (buflen type : ℕ) : Option (List UInt8) :=
  if buflen < 2 then none else some (MqttHeader.byte { type := type } :: mqttPacketEncode 0)

/-! ## SUBSCRIBE and UNSUBSCRIBE -/

/-- `MQTTSerialize_subscribeLength`. The two arrays are one list of pairs. -/
def mqttSerializeSubscribeLength (topicFilters : List (MqttString × ℤ)) : ℕ :=
  topicFilters.foldl (fun len filter => len + (2 + mqttStrlen filter.1 + 1)) 2

/-- What `MQTTSerialize_subscribe` writes for a filter. -/
def writeFilter (filter : MqttString × ℤ) : List UInt8 :=
  writeMQTTString filter.1 ++ [charByte filter.2]

/-- `MQTTSerialize_subscribe` -/
def mqttSerializeSubscribe (buflen : ℕ) (dup : Bool) (packetid : ℕ)
    (topicFilters : List (MqttString × ℤ)) : Option (List UInt8) :=
  let remLen := mqttSerializeSubscribeLength topicFilters
  if buflen < mqttPacketLen remLen then none
  else some (MqttHeader.byte { type := MsgType.subscribe.toNat, dup := dup, qos := 1 } ::
    (mqttPacketEncode remLen ++ (writeInt packetid ++ topicFilters.flatMap writeFilter)))

/-- A filter that `MQTTDeserialize_subscribe` reads: the topic, and the quality of service that is
asked for. -/
def readFilter (rc : ℕ) : Decode (List UInt8 × ℤ) := do
  let topic ← readMQTTLenString
  let left ← Decoder.left
  match topic with
  | none => Decoder.exit rc
  | some topicFilter =>
    if left ≤ 0 then Decoder.exit rc
    else do
      let qos ← readChar
      pure (topicFilter, byteChar qos)

/-- What `MQTTDeserialize_subscribe` writes. The number of filters is not compared with the size of
the two arrays. -/
structure SubscribeData where
  dup : Bool
  packetid : ℕ
  topicFilters : List (List UInt8 × ℤ)
deriving DecidableEq

/-- `MQTTDeserialize_subscribe`; each turn of the loop moves the pointer. -/
def mqttDeserializeSubscribe (buf : List UInt8) : Option (Except ℤ SubscribeData) :=
  Decoder.run (do
    let byte ← readChar
    let header := MqttHeader.bits byte
    if header.type ≠ MsgType.subscribe.toNat then Decoder.exit (-1)
    else do
      let (rc, mylen) ← readLength
      Decoder.setLeft mylen
      let packetid ← readInt
      let topicFilters ← Decoder.many (readFilter rc) mylen
      pure { dup := header.dup, packetid := packetid, topicFilters := topicFilters }) buf 0

/-- `MQTTSerialize_unsubscribeLength` -/
def mqttSerializeUnsubscribeLength (topicFilters : List MqttString) : ℕ :=
  topicFilters.foldl (fun len filter => len + (2 + mqttStrlen filter)) 2

/-- `MQTTSerialize_unsubscribe` -/
def mqttSerializeUnsubscribe (buflen : ℕ) (dup : Bool) (packetid : ℕ)
    (topicFilters : List MqttString) : Option (List UInt8) :=
  let remLen := mqttSerializeUnsubscribeLength topicFilters
  if buflen < mqttPacketLen remLen then none
  else some (MqttHeader.byte { type := MsgType.unsubscribe.toNat, dup := dup, qos := 1 } ::
    (mqttPacketEncode remLen ++ (writeInt packetid ++ topicFilters.flatMap writeMQTTString)))

/-! ## SUBACK -/

/-- The loop of `MQTTDeserialize_suback`, with `count` values stored: the return code and the values
that it stores. -/
def readGranted (maxcount : ℕ) : ℕ → ℕ → Decode (ℤ × List ℤ)
  | 0, _ => pure (1, [])
  | turns + 1, count => do
    let left ← Decoder.left
    if 0 < left then
      if maxcount < count then pure (-1, [])
      else do
        let granted ← readChar
        let (rc, rest) ← readGranted maxcount turns (count + 1)
        pure (rc, byteChar granted :: rest)
    else pure (1, [])

/-- What `MQTTDeserialize_suback` returns and writes. -/
structure SubackData where
  rc : ℤ
  packetid : ℕ
  grantedQoSs : List ℤ
deriving DecidableEq

/-- `MQTTDeserialize_suback` -/
def mqttDeserializeSuback (maxcount : ℕ) (buf : List UInt8) : Option (Except ℤ SubackData) :=
  Decoder.run (do
    let byte ← readChar
    if (MqttHeader.bits byte).type ≠ MsgType.suback.toNat then Decoder.exit 0
    else do
      let (rc, mylen) ← readLength
      Decoder.setLeft mylen
      let left ← Decoder.left
      if left < 2 then Decoder.exit rc
      else do
        let packetid ← readInt
        let (rc, grantedQoSs) ← readGranted maxcount mylen 0
        pure { rc := rc, packetid := packetid, grantedQoSs := grantedQoSs }) buf 0

end ZohoIotSdk.Paho
