import ZohoIotSdk.Atomic.Loop
import ZohoIotSdk.Machine.Memory
import ZohoIotSdk.Mqtt.ConnectPacket
import ZohoIotSdk.Mqtt.TopicFilter

/-!
# The MQTT client of the embedded Paho library

`MQTTClient.c`, as programs on the structure `MQTTClient`. What the clock shows and what the two
functions of the network transfer is up to the environment. The bound `turns` is one on the loops
that only the environment brings to an end.
-/

namespace ZohoIotSdk.Paho

open Atomic (Prog)
open Machine

/-! ## The client -/

/-- An element of `messageHandlers`. -/
structure MessageHandlers where
  topicFilter : Option (List UInt8) := none
  fp : Option ℕ := none
deriving DecidableEq

/-- `MAX_MESSAGE_HANDLERS` -/
def maxMessageHandlers : ℕ := 5

/-- `MQTTClient`. The two buffers are their contents, the two timers the times they end at, in
microseconds. -/
structure Client where
  nextPacketid : ℕ
  commandTimeoutMs : ℕ
  buf : List UInt8
  readbuf : List UInt8
  keepAliveInterval : ℕ := 0
  pingOutstanding : Bool := false
  isconnected : Bool := false
  cleansession : Bool := false
  messageHandlers : List MessageHandlers
  defaultMessageHandler : Option ℕ := none
  lastSent : ℕ := 0
  lastReceived : ℕ := 0
deriving DecidableEq

/-- `MQTTClientInit` -/
def mqttClientInit (commandTimeoutMs : ℕ) (sendbuf readbuf : List UInt8) : Client :=
  { nextPacketid := 1
    commandTimeoutMs := commandTimeoutMs
    buf := sendbuf
    readbuf := readbuf
    messageHandlers := List.replicate maxMessageHandlers {} }

/-- `returnCode` -/
def success : ℤ := 0

def failure : ℤ := -1

def bufferOverflow : ℤ := -2

/-! ## The environment, and what can be observed -/

/-- An answer of the environment: the time, what arrives, how much of a packet is taken, and the
error of a transfer that does not move everything. -/
structure Reply where
  now : ℕ := 0
  data : List UInt8 := []
  count : ℕ := 0
  failure : Option ℕ := none

/-- The calls of `mqttread`: for the first byte of a packet, for its length, and for its body. -/
inductive ReadSite where
  | header
  | length
  | body
deriving DecidableEq, Repr

/-- `MQTTMessage`, as a handler sees it. The payload is the memory from its pointer on. -/
structure Message where
  qos : ℕ
  retained : Bool
  dup : Bool
  id : Option ℕ
  payload : List UInt8
  payloadlen : ℕ
deriving DecidableEq

inductive Event where
  /-- `mqttread` has been asked for that many bytes. -/
  | read (site : ReadSite) (asked : ℕ) (data : List UInt8)
  /-- `mqttwrite` has taken these bytes. -/
  | wrote (data : List UInt8)
  /-- `readPacket` has returned the type of a packet. -/
  | received (header : UInt8) (body : List UInt8)
  /-- `sendPacket` has returned success. -/
  | sent (packet : List UInt8)
  /-- A message handler is called. -/
  | handler (fp : ℕ) (topicName : List UInt8) (message : Message)
  /-- `getNextPacketId` has returned. -/
  | packetId (id : ℕ)
  /-- `MQTTCloseSession` has returned. -/
  | closed
  /-- `MQTTConnect` has set `isconnected`. -/
  | connected
deriving DecidableEq

abbrev ClientM := Prog Client Reply Event

/-- Read from the client. -/
def readClient {α : Type} (f : Client → α) : ClientM α := Prog.read f

/-- Update the client. -/
def modifyClient (f : Client → Client) : ClientM Unit := Prog.modify f

/-! ## Timers -/

/-- `TimerIsExpired`, of a timer that ends at the given time. -/
def timerIsExpired (timer : ℕ) : ClientM Bool :=
  Prog.act (fun _ c => c) (fun _ _ => []) fun w _ => decide (timer ≤ w.now)

/-- `TimerCountdownMS` -/
def timerCountdownMS (timeout : ℕ) : ClientM ℕ :=
  Prog.act (fun _ c => c) (fun _ _ => []) fun w _ => w.now + timeout * 1000

/-- `TimerIsExpired` of the two timers of the client. The second one is looked at only if the first
one has not expired. -/
def keepaliveIsDue : ClientM Bool := do
  let lastSent ← readClient (·.lastSent)
  if ← timerIsExpired lastSent then pure true
  else do
    let lastReceived ← readClient (·.lastReceived)
    timerIsExpired lastReceived

/-! ## Sending -/

/-- The bytes that `mqttwrite` takes of those that it is shown. -/
def Reply.taken (w : Reply) (shown : List UInt8) : List UInt8 := shown.take w.count

/-- What `mqttwrite` returns: how much it has taken, or a negative number. -/
def Reply.writeResult (w : Reply) (length : ℕ) : ℤ :=
  if length ≤ w.count then length
  else match w.failure with
    | none => w.count
    | some n => -(n + 1)

/-- `c->ipstack->mqttwrite`, shown `length` bytes of the send buffer. -/
def mqttwrite (sent length : ℕ) : ClientM ℤ :=
  Prog.act (fun _ c => c)
    (fun w c => [.wrote (w.taken ((c.buf.drop sent).take length))]) fun w _ => w.writeResult length

/-- A turn of the loop of `sendPacket`. Every call is shown `length` bytes from `&c->buf[sent]` on,
however many have been sent; it ends without a result where they are not all in the buffer. -/
def sendStep (length timer sent : ℕ) : ClientM (ℕ ⊕ Option ℕ) :=
  if sent < length then do
    if ← timerIsExpired timer then pure (.inr (some sent))
    else do
      let size ← readClient (·.buf.length)
      if size < sent + length then pure (.inr none)
      else do
        let rc ← mqttwrite sent length
        if rc < 0 then pure (.inr (some sent)) else pure (.inl (sent + rc.toNat))
  else pure (.inr (some sent))

/-- The end of `sendPacket` when the whole packet has been sent. -/
def recordSent (length : ℕ) : ClientM ℤ :=
  Prog.act (fun w c => { c with lastSent := w.now + c.keepAliveInterval * 1000000 })
    (fun _ c => [.sent (c.buf.take length)]) fun _ _ => success

/-- `sendPacket` -/
def sendPacket (turns length timer : ℕ) : ClientM ℤ := do
  match ← Prog.loopFor (sendStep length timer) turns 0 with
  | none => Prog.fault
  | some sent => if sent = length then recordSent length else pure failure

/-- A packet is serialized into the send buffer. -/
def setBuf (packet : List UInt8) : ClientM Unit :=
  modifyClient fun c => { c with buf := filled c.buf packet }

/-- Serialize into the send buffer, and send it. -/
def sendSerialized (turns timer : ℕ) (packet : Option (List UInt8)) : ClientM ℤ :=
  match packet with
  | none => pure failure
  | some packet => do
    setBuf packet
    sendPacket turns packet.length timer

/-- `getNextPacketId`, with `MAX_PACKET_ID` for 65535. -/
def getNextPacketId : ClientM ℕ :=
  let next (c : Client) : ℕ := if c.nextPacketid = 65535 then 1 else c.nextPacketid + 1
  Prog.act (fun _ c => { c with nextPacketid := next c }) (fun _ c => [.packetId (next c)])
    fun _ c => next c

/-! ## Receiving -/

/-- The bytes that `mqttread` stores. -/
def Reply.stored (w : Reply) (len : ℕ) : List UInt8 := w.data.take len

/-- What `mqttread` returns: how much it has stored; if that is not everything, it may also return
0 or an error. -/
def Reply.readResult (w : Reply) (len : ℕ) : ℤ :=
  if (w.stored len).length = len then len
  else match w.failure with
    | none => (w.stored len).length
    | some n => -n

/-- `c->ipstack->mqttread` to `c->readbuf + offset`. -/
def mqttread (site : ReadSite) (offset len : ℕ) : ClientM ℤ :=
  Prog.act (fun w c => { c with readbuf := (store c.readbuf offset (w.stored len)).getD c.readbuf })
    (fun w _ => [.read site len (w.stored len)]) fun w _ => w.readResult len

/-- `c->ipstack->mqttread` of one byte to a local variable. -/
def readLengthByte : ClientM (Option UInt8) :=
  Prog.act (fun _ c => c) (fun w _ => [.read .length 1 (w.stored 1)]) fun w _ => (w.stored 1).head?

/-- `decodePacket`, with at most `turns` bytes. The value is what has been read of it, and how much
that is is not looked at. -/
def decodePacket : ℕ → ℕ → ℕ → ClientM ℕ
  | 0, _, value => pure value
  | turns + 1, multiplier, value => do
    match ← readLengthByte with
    | none => pure value
    | some i =>
      let value := value + i.toNat % 128 * multiplier
      if 128 ≤ i.toNat then decodePacket turns (multiplier * 128) value else pure value

/-- `MQTTPacket_encode(c->readbuf + 1, rem_len)` -/
def storeLength (remLen : ℕ) : ClientM Unit :=
  modifyClient fun c =>
    { c with readbuf := (store c.readbuf 1 (mqttPacketEncode remLen)).getD c.readbuf }

/-- The end of `readPacket`: the type of the packet that is in the buffer. -/
def packetRead (len remLen : ℕ) : ClientM ℤ :=
  Prog.act
    (fun w c => if 0 < c.keepAliveInterval then
        { c with lastReceived := w.now + c.keepAliveInterval * 1000000 }
      else c)
    (fun _ c => [.received (c.readbuf.headD 0) ((c.readbuf.drop len).take remLen)])
    fun _ c => (MqttHeader.bits (c.readbuf.headD 0)).type

/-- `readPacket` behind the length of the packet. -/
def readBody (remLen : ℕ) : ClientM ℤ := do
  storeLength remLen
  let len := 1 + (mqttPacketEncode remLen).length
  let size ← readClient (·.readbuf.length)
  if size - len < remLen then pure bufferOverflow
  else if 0 < remLen then do
    let rc ← mqttread .body len remLen
    if rc = remLen then packetRead len remLen else pure 0
  else packetRead len remLen

/-- `readPacket`. There is no result where the header and the length do not fit in the buffer. -/
def readPacket : ClientM ℤ := do
  let size ← readClient (·.readbuf.length)
  if size < 1 then Prog.fault
  else do
    let rc ← mqttread .header 0 1
    if rc ≠ 1 then pure rc
    else do
      let remLen ← decodePacket 4 1 0
      if size < 1 + (mqttPacketEncode remLen).length then Prog.fault
      else readBody remLen

/-! ## Messages -/

/-- Does the filter of a handler take the topic, literally or with its wildcards? -/
def MessageHandlers.takes (slot : MessageHandlers) (topicName : List UInt8) : Bool :=
  slot.topicFilter.any fun filter => topicName == filter || isTopicMatched filter topicName

/-- The handlers that `deliverMessage` calls: all that take the topic, or else the default one. -/
def handlersFor (slots : List MessageHandlers) (defaultMessageHandler : Option ℕ)
    (topicName : List UInt8) : List ℕ :=
  let called := (slots.filter (·.takes topicName)).filterMap (·.fp)
  if called = [] then defaultMessageHandler.toList else called

/-- `deliverMessage` -/
def deliverMessage (topicName : List UInt8) (message : Message) : ClientM Unit :=
  Prog.act (fun _ c => c)
    (fun _ c => (handlersFor c.messageHandlers c.defaultMessageHandler topicName).map fun fp =>
      .handler fp topicName message) fun _ _ => ()

/-- `MQTTCloseSession`, with `MQTTCleanSession` -/
def mqttCloseSession : ClientM Unit :=
  Prog.act
    (fun _ c => { c with
      pingOutstanding := false
      isconnected := false
      messageHandlers := if c.cleansession then
          c.messageHandlers.map fun slot => { slot with topicFilter := none }
        else c.messageHandlers })
    (fun _ _ => [.closed]) fun _ _ => ()

/-! ## The cycle -/

/-- `keepalive` where it sends a PINGREQ. -/
def sendPing (turns : ℕ) : ClientM ℤ := do
  let timer ← timerCountdownMS 1000
  let size ← readClient (·.buf.length)
  match mqttSerializeZero size MsgType.pingreq.toNat with
  | none => pure success
  | some packet => do
    setBuf packet
    let rc ← sendPacket turns packet.length timer
    if rc = success then modifyClient fun c => { c with pingOutstanding := true }
    pure rc

/-- `keepalive` -/
def keepalive (turns : ℕ) : ClientM ℤ := do
  let interval ← readClient (·.keepAliveInterval)
  if interval = 0 then pure success
  else if ← keepaliveIsDue then do
    if ← readClient (·.pingOutstanding) then pure failure else sendPing turns
  else pure success

/-- The message of a PUBLISH packet. The length of the payload is written through a pointer to
`int`. -/
def PublishData.message (data : PublishData) : Message :=
  { qos := data.qos, retained := data.retained, dup := data.dup, id := data.packetid,
    payload := data.payload, payloadlen := toUnsigned 32 data.payloadlen }

/-- The packet that acknowledges a message; there is none for other values of the quality of
service. -/
def serializeAnswer (size : ℕ) (data : PublishData) : Option (List UInt8) :=
  if data.qos = 1 then mqttSerializeAck size MsgType.puback.toNat false (data.packetid.getD 0)
  else if data.qos = 2 then
    mqttSerializeAck size MsgType.pubrec.toNat false (data.packetid.getD 0)
  else none

/-- Acknowledge a message; a timer that has expired is restarted for a second. -/
def acknowledge (turns : ℕ) (data : PublishData) (timer : ℕ) : ClientM (ℤ × ℕ) := do
  let size ← readClient (·.buf.length)
  match serializeAnswer size data with
  | none => pure (failure, timer)
  | some packet => do
    setBuf packet
    let timer ← (do if ← timerIsExpired timer then timerCountdownMS 1000 else pure timer)
    let rc ← sendPacket turns packet.length timer
    pure (rc, timer)

/-- The case `PUBLISH` of `cycle`: the return code so far, whether `keepalive` is called, and the
timer. There is no result where the outputs of `MQTTDeserialize_publish` are used although they
have not been written. -/
def handlePublish (turns timer : ℕ) : ClientM (ℤ × Bool × ℕ) := do
  let readbuf ← readClient (·.readbuf)
  match mqttDeserializePublish readbuf with
  | none => Prog.fault
  | some (.error rc) => if rc = 1 then Prog.fault else pure (success, false, timer)
  | some (.ok data) => do
    deliverMessage data.topicName data.message
    if data.qos = 0 then pure (success, true, timer)
    else do
      let (rc, timer) ← acknowledge turns data timer
      pure (rc, rc ≠ failure, timer)

/-- The packets that `cycle` only takes note of, and those it never gets to. -/
def noted (packetType : ℤ) : Bool :=
  packetType ∈ ([0, 2, 4, 5, 6, 7, 9, 11] : List ℤ)

/-- The `switch` of `cycle`. -/
def handlePacket (turns : ℕ) (packetType : ℤ) (timer : ℕ) : ClientM (ℤ × Bool × ℕ) :=
  if packetType = MsgType.publish.toNat then handlePublish turns timer
  else if packetType = MsgType.pingresp.toNat then do
    modifyClient fun c => { c with pingOutstanding := false }
    pure (success, true, timer)
  else if noted packetType then pure (success, true, timer)
  else pure (packetType, false, timer)

/-- The end of `cycle`. -/
def endCycle (rc packetType : ℤ) : ClientM ℤ :=
  if rc = success then pure packetType
  else do
    if ← readClient (·.isconnected) then mqttCloseSession
    pure rc

/-- `cycle`: the value returned, and the timer, which it may restart. -/
def cycle (turns timer : ℕ) : ClientM (ℤ × ℕ) := do
  let packetType ← readPacket
  let (rc, goesOn, timer) ← handlePacket turns packetType timer
  let rc ← (do
    if goesOn then
      if (← keepalive turns) = success then pure rc else pure failure
    else pure rc)
  let rc ← endCycle rc packetType
  pure (rc, timer)

/-- A turn of the loop of `waitfor`. -/
def waitStep (turns : ℕ) (packetType : ℤ) (state : ℤ × ℕ) : ClientM (ℤ × ℕ ⊕ ℤ) := do
  if ← timerIsExpired state.2 then pure (.inr state.1)
  else do
    let (rc, timer) ← cycle turns state.2
    if rc ≠ packetType ∧ 0 ≤ rc then pure (.inl (rc, timer)) else pure (.inr rc)

/-- `waitfor` -/
def waitfor (turns : ℕ) (packetType : MsgType) (timer : ℕ) : ClientM ℤ :=
  Prog.loopFor (waitStep turns packetType.toNat) turns (failure, timer)

/-! ## The calls of an application -/

/-- A turn of the loop of `MQTTYield`. -/
def yieldStep (turns timer : ℕ) : ClientM (ℕ ⊕ ℤ) := do
  let (rc, timer) ← cycle turns timer
  if rc < 0 then pure (.inr failure)
  else if ← timerIsExpired timer then pure (.inr success)
  else pure (.inl timer)

/-- `MQTTYield` -/
def mqttYield (turns timeoutMs : ℕ) : ClientM ℤ := do
  let timer ← timerCountdownMS timeoutMs
  Prog.loopFor (yieldStep turns) turns timer

/-- What `MQTTConnectWithResults` makes of a CONNACK packet. The return code of the packet is 0
before it is read. -/
def connackResult (readbuf : List UInt8) : ClientM ℤ :=
  match mqttDeserializeConnack readbuf with
  | none => Prog.fault
  | some (.error rc) => pure (if rc = 1 then 0 else failure)
  | some (.ok (_, connackRc)) => pure connackRc.toNat

/-- The options of the connection, set before the CONNECT packet is serialized. -/
def setOptions (options : ConnectData) : ClientM Unit :=
  Prog.act
    (fun w c => { c with
      keepAliveInterval := options.keepAliveInterval
      cleansession := options.cleansession
      lastReceived := w.now + options.keepAliveInterval * 1000000 })
    (fun _ _ => []) fun _ _ => ()

/-- `isconnected` is set. -/
def openSession : ClientM Unit :=
  Prog.act (fun _ c => { c with isconnected := true, pingOutstanding := false })
    (fun _ _ => [.connected]) fun _ _ => ()

/-- `MQTTConnectWithResults` behind the CONNECT packet. -/
def awaitConnack (turns timer : ℕ) : ClientM ℤ := do
  let type ← waitfor turns .connack timer
  if type = MsgType.connack.toNat then do
    let rc ← connackResult (← readClient (·.readbuf))
    if rc = success then openSession
    pure rc
  else pure failure

/-- `MQTTConnect` with `MQTTConnectWithResults` -/
def mqttConnect (turns : ℕ) (options : ConnectData) : ClientM ℤ := do
  if ← readClient (·.isconnected) then pure failure
  else do
    let timer ← timerCountdownMS (← readClient (·.commandTimeoutMs))
    setOptions options
    let size ← readClient (·.buf.length)
    let rc ← sendSerialized turns timer (mqttSerializeConnect size options)
    if rc = success then awaitConnack turns timer else pure rc

/-- The index of the slot that holds the filter. -/
def findFilter (slots : List MessageHandlers) (topicFilter : List UInt8) : ℕ :=
  slots.findIdx fun slot => slot.topicFilter = some topicFilter

/-- The table and the value returned by `MQTTSetMessageHandler`. -/
def setHandler (slots : List MessageHandlers) (topicFilter : List UInt8) (fp : Option ℕ) :
    ℤ × List MessageHandlers :=
  let i := findFilter slots topicFilter
  match fp with
  | none =>
    if i < slots.length then (success, slots.set i {}) else (failure, slots)
  | some fp =>
    let i := if i < slots.length then i else slots.findIdx fun slot => slot.topicFilter = none
    if i < slots.length then
      (success, slots.set i { topicFilter := some topicFilter, fp := some fp })
    else (failure, slots)

/-- `MQTTSetMessageHandler` -/
def mqttSetMessageHandler (topicFilter : List UInt8) (fp : Option ℕ) : ClientM ℤ :=
  Prog.act (fun _ c => { c with messageHandlers := (setHandler c.messageHandlers topicFilter fp).2 })
    (fun _ _ => []) fun _ c => (setHandler c.messageHandlers topicFilter fp).1

/-- The end of the calls that need a session: a failure closes it. -/
def closeOnFailure (rc : ℤ) : ClientM ℤ := do
  if rc = failure then mqttCloseSession
  pure rc

/-- The answer to a packet is waited for, if there is one. -/
def awaitAnswer (turns timer : ℕ) (answer : Option MsgType) (rest : List UInt8 → ClientM ℤ) :
    ClientM ℤ :=
  match answer with
  | none => pure success
  | some type => do
    if (← waitfor turns type timer) = type.toNat then rest (← readClient (·.readbuf))
    else pure failure

/-- A call that needs a session: it sends a packet, waits for the answer, and then does the rest. -/
def request (turns : ℕ) (serialize : Client → ClientM (Option (List UInt8))) (answer : Option MsgType)
    (rest : List UInt8 → ClientM ℤ) : ClientM ℤ := do
  let rc ← (do
    if ← readClient (·.isconnected) then do
      let timer ← timerCountdownMS (← readClient (·.commandTimeoutMs))
      let packet ← serialize (← readClient id)
      let rc ← sendSerialized turns timer packet
      if rc = success then awaitAnswer turns timer answer rest else pure rc
    else pure failure)
  closeOnFailure rc

/-- What `MQTTSubscribeWithResults` makes of a SUBACK packet: there is room for one value, which is
compared with 0x80 as an unsigned number. -/
def subackResult (topicFilter : List UInt8) (fp : Option ℕ) (readbuf : List UInt8) : ClientM ℤ :=
  match mqttDeserializeSuback 1 readbuf with
  | none => Prog.fault
  | some (.error rc) =>
    if rc = 1 then mqttSetMessageHandler topicFilter fp else pure failure
  | some (.ok suback) =>
    if 1 < suback.grantedQoSs.length then Prog.fault
    else if suback.rc = 1 then
      if toUnsigned 32 (suback.grantedQoSs.headD 0) ≠ 0x80 then mqttSetMessageHandler topicFilter fp
      else pure failure
    else pure failure

/-- `MQTTSubscribe` with `MQTTSubscribeWithResults` -/
def mqttSubscribe (turns : ℕ) (topicFilter : List UInt8) (qos : ℕ) (fp : Option ℕ) : ClientM ℤ :=
  request turns
    (fun c => do
      let id ← getNextPacketId
      pure (mqttSerializeSubscribe c.buf.length false id [({ cstring := some topicFilter }, qos)]))
    (some .suback) (subackResult topicFilter fp)

/-- What `MQTTUnsubscribe` makes of an UNSUBACK packet. -/
def unsubackResult (topicFilter : List UInt8) (readbuf : List UInt8) : ClientM ℤ :=
  match mqttDeserializeUnsuback readbuf with
  | none => Prog.fault
  | some (rc, _) => do
    if rc = 1 then do
      let _ ← mqttSetMessageHandler topicFilter none
      pure success
    else pure failure

/-- `MQTTUnsubscribe` -/
def mqttUnsubscribe (turns : ℕ) (topicFilter : List UInt8) : ClientM ℤ :=
  request turns
    (fun c => do
      let id ← getNextPacketId
      pure (mqttSerializeUnsubscribe c.buf.length false id [{ cstring := some topicFilter }]))
    (some .unsuback) (unsubackResult topicFilter)

/-- What `MQTTPublish` makes of a PUBACK or PUBCOMP packet. The packet id is not compared. -/
def ackResult (readbuf : List UInt8) : ClientM ℤ :=
  match mqttDeserializeAck readbuf with
  | none => Prog.fault
  | some ack => pure (if ack.rc = 1 then success else failure)

/-- The message that `MQTTPublish` is given. -/
structure OutgoingMessage where
  qos : ℕ
  retained : Bool := false
  id : ℕ := 0
  payload : CString
deriving DecidableEq

/-- The packet that answers a message of that quality of service. -/
def publishAnswer (qos : ℕ) : Option MsgType :=
  if qos = 1 then some .puback else if qos = 2 then some .pubcomp else none

/-- `MQTTPublish` -/
def mqttPublish (turns : ℕ) (topicName : CString) (message : OutgoingMessage) : ClientM ℤ :=
  request turns
    (fun c => do
      let id ← if message.qos = 1 ∨ message.qos = 2 then getNextPacketId else pure message.id
      pure (mqttSerializePublish c.buf.length false message.qos message.retained id topicName
        message.payload))
    (publishAnswer message.qos) ackResult

/-- `MQTTDisconnect` -/
def mqttDisconnect (turns : ℕ) : ClientM ℤ := do
  let timer ← timerCountdownMS (← readClient (·.commandTimeoutMs))
  let size ← readClient (·.buf.length)
  let rc ← sendSerialized turns timer (mqttSerializeZero size MsgType.disconnect.toNat)
  mqttCloseSession
  pure rc

end ZohoIotSdk.Paho
