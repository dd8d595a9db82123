import ZohoIotSdk.Mqtt.PacketTheorems

/-!
# CONNECT packets

`MQTTConnectClient.c` and `MQTTConnectServer.c` of the embedded Paho library.

`connect_roundTrip`: what is read back from a CONNECT packet, and which ones are refused although
the library itself has written them.
-/

namespace ZohoIotSdk.Paho

open Codec Machine

/-! ## The options of a connection -/

/-- `MQTTPacket_willOptions` -/
structure WillOptions where
  topicName : MqttString := {}
  message : MqttString := {}
  retained : Bool := false
  qos : ℕ := 0
deriving DecidableEq

/-- `MQTTPacket_connectData`, by default `MQTTPacket_connectData_initializer`. -/
structure ConnectData where
  mqttVersion : ℕ := 4
  clientID : MqttString := {}
  keepAliveInterval : ℕ := 60
  cleansession : Bool := true
  willFlag : Bool := false
  will : WillOptions := {}
  username : MqttString := {}
  password : MqttString := {}
deriving DecidableEq

/-- Does one of the two pointers point to a string? -/
def MqttString.isSet (s : MqttString) : Bool := s.cstring.isSome || s.lenstring.isSome

/-- The bit fields of `MQTTConnectFlags`. -/
structure ConnectFlags where
  cleansession : Bool := false
  will : Bool := false
  willQoS : ℕ := 0
  willRetain : Bool := false
  password : Bool := false
  username : Bool := false
deriving DecidableEq

namespace ConnectFlags

/-- `flags.all` -/
def byte (f : ConnectFlags) : UInt8 :=
  UInt8.ofNat (f.username.toNat * 128 + f.password.toNat * 64 + f.willRetain.toNat * 32 +
    f.willQoS * 8 + f.will.toNat * 4 + f.cleansession.toNat * 2)

/-- `flags.bits` -/
def bits (b : UInt8) : ConnectFlags :=
  { cleansession := b.toNat / 2 % 2 = 1
    will := b.toNat / 4 % 2 = 1
    willQoS := b.toNat / 8 % 4
    willRetain := b.toNat / 32 % 2 = 1
    password := b.toNat / 64 % 2 = 1
    username := b.toNat / 128 = 1 }

/-- The flags are recovered from their byte. -/
theorem bits_byte {f : ConnectFlags} (hqos : f.willQoS < 4) : bits f.byte = f := by
  obtain ⟨cleansession, will, willQoS, willRetain, password, username⟩ := f
  simp only at hqos
  have hbit : ∀ b : Bool, b.toNat < 2 := Bool.toNat_lt
  have hbyte : (byte ⟨cleansession, will, willQoS, willRetain, password, username⟩).toNat =
      username.toNat * 128 + password.toNat * 64 + willRetain.toNat * 32 + willQoS * 8 +
        will.toNat * 4 + cleansession.toNat * 2 := by
    have := hbit cleansession
    have := hbit will
    have := hbit willRetain
    have := hbit password
    have := hbit username
    exact toNat_ofNat_of_lt (by simp only; omega)
  have htrue : ∀ {b : Bool} {k : ℕ}, k = b.toNat → decide (k = 1) = b := by
    intro b k hk
    cases b <;> simp [hk]
  have := hbit cleansession
  have := hbit will
  have := hbit willRetain
  have := hbit password
  have := hbit username
  rw [bits, hbyte, mk.injEq]
  refine ⟨htrue ?_, htrue ?_, ?_, htrue ?_, htrue ?_, htrue ?_⟩ <;> omega

end ConnectFlags

/-! ## `MQTTSerialize_connect` -/

/-- `MQTTSerialize_connectLength`. A version other than 3 and 4 has no header counted. -/
def mqttSerializeConnectLength (options : ConnectData) : ℕ :=
  (if options.mqttVersion = 3 then 12 else if options.mqttVersion = 4 then 10 else 0) +
    (mqttStrlen options.clientID + 2) +
    (if options.willFlag then
      mqttStrlen options.will.topicName + 2 + mqttStrlen options.will.message + 2 else 0) +
    (if options.username.isSet then mqttStrlen options.username + 2 else 0) +
    (if options.password.isSet then mqttStrlen options.password + 2 else 0)

/-- The name and the number of the protocol. -/
def protocolName (mqttVersion : ℕ) : List UInt8 :=
  bytes (if mqttVersion = 4 then "MQTT" else "MQIsdp").toList

def protocolLevel (mqttVersion : ℕ) : UInt8 := if mqttVersion = 4 then 4 else 3

def connectFlags (options : ConnectData) : ConnectFlags :=
  { cleansession := options.cleansession
    will := options.willFlag
    willQoS := if options.willFlag then options.will.qos else 0
    willRetain := options.willFlag && options.will.retained
    password := options.password.isSet
    username := options.username.isSet }

/-- The strings of the will, of the user name and of the password. -/
def willBytes (options : ConnectData) : List UInt8 :=
  if options.willFlag then
    writeMQTTString options.will.topicName ++ writeMQTTString options.will.message
  else []

def optionalBytes (s : MqttString) : List UInt8 := if s.isSet then writeMQTTString s else []

/-- What stands behind the length of a CONNECT packet. -/
def connectBody (options : ConnectData) : List UInt8 :=
  writeInt (protocolName options.mqttVersion).length ++ protocolName options.mqttVersion ++
    (protocolLevel options.mqttVersion :: (connectFlags options).byte ::
      (writeInt options.keepAliveInterval ++ (writeMQTTString options.clientID ++
        (willBytes options ++ (optionalBytes options.username ++ optionalBytes options.password)))))

/-- `MQTTSerialize_connect` -/
def mqttSerializeConnect (buflen : ℕ) (options : ConnectData) : Option (List UInt8) :=
  let len := mqttSerializeConnectLength options
  if buflen < mqttPacketLen len then none
  else some (MqttHeader.byte { type := MsgType.connect.toNat } ::
    (mqttPacketEncode len ++ connectBody options))

/-! ## `MQTTDeserialize_connect` -/

/-- `MQTTPacket_checkVersion`. `memcmp` compares no more than the shorter one of the two names. -/
def mqttPacketCheckVersion (protocol : List UInt8) (version : ℤ) : Bool :=
  let agrees (name : String) : Bool :=
    let len := min name.length protocol.length
    protocol.take len = (bytes name.toList).take len
  (version = 3 && agrees "MQIsdp") || (version = 4 && agrees "MQTT")

/-- `readMQTTLenString` of a string that has to be there. -/
def readString : Decode MqttString := do
  let s ← readMQTTLenString
  match s with
  | none => Decoder.exit 0
  | some text => pure { lenstring := some text }

/-- A string that is read where its flag is set; at least three bytes have to be left. -/
def readCredential (flag : Bool) (old : MqttString) : Decode MqttString :=
  if flag then do
    let left ← Decoder.left
    if left < 3 then Decoder.exit 0 else readString
  else pure old

/-- The will, where its flag is set. -/
def readWill (flags : ConnectFlags) (old : WillOptions) : Decode WillOptions :=
  if flags.will then do
    let topicName ← readString
    let message ← readString
    pure { topicName := topicName, message := message, retained := flags.willRetain,
           qos := flags.willQoS }
  else pure old

/-- The fields that follow the protocol version. What has no field in the packet is left as it is in
`data`, and so is the version, which is only checked. -/
def readConnectData (data : ConnectData) : Decode ConnectData := do
  let byte ← readChar
  let flags := ConnectFlags.bits byte
  let keepAliveInterval ← readInt
  let clientID ← readString
  let will ← readWill flags data.will
  if flags.password && !flags.username then Decoder.exit 0
  else do
    let username ← readCredential flags.username data.username
    let password ← readCredential flags.password data.password
    pure { data with clientID := clientID, keepAliveInterval := keepAliveInterval,
                     cleansession := flags.cleansession, willFlag := flags.will, will := will,
                     username := username, password := password }

/-- `MQTTDeserialize_connect`. The end of the packet is taken from `len`, not from the length that
the packet gives. -/
def mqttDeserializeConnect (data : ConnectData) (buf : List UInt8) (len : ℕ) :
    Option (Except ℤ ConnectData) :=
  Decoder.run (do
    let byte ← readChar
    if (MqttHeader.bits byte).type ≠ MsgType.connect.toNat then Decoder.exit 0
    else do
      let _ ← readLength
      let protocol ← readMQTTLenString
      let left ← Decoder.left
      match protocol with
      | none => Decoder.exit 0
      | some protocol =>
        if left < 0 then Decoder.exit 0
        else do
          let version ← readChar
          if mqttPacketCheckVersion protocol (byteChar version) then readConnectData data
          else Decoder.exit 0) buf len

/-! ## What is read back -/

/-- A string as it is read back. -/
def MqttString.readBack (s : MqttString) : MqttString := { lenstring := some s.text }

/-- The strings that the packet can hold. -/
def ConnectData.strings (options : ConnectData) : List MqttString :=
  [options.clientID, options.will.topicName, options.will.message, options.username,
    options.password]

/-- Options that fit in the fields of the packet. -/
structure ConnectData.Fits (options : ConnectData) : Prop where
  version : options.mqttVersion = 3 ∨ options.mqttVersion = 4
  keepAliveInterval : options.keepAliveInterval < 65536
  qos : options.will.qos < 4
  single : ∀ s ∈ options.strings, s.Single
  length_lt : ∀ s ∈ options.strings, s.text.length < 65536

/-- The user name and the password are found where they are looked for: there is no password without
a user name, and the last one of them is not empty. -/
def ConnectData.Accepted (options : ConnectData) : Prop :=
  (options.password.isSet → options.username.isSet ∧ options.password.text ≠ []) ∧
    (options.username.isSet → options.username.text ≠ [] ∨ options.password.isSet)

instance (options : ConnectData) : Decidable options.Accepted :=
  inferInstanceAs (Decidable (_ ∧ _))

/-- What is read back: all options but the version of the protocol, which is left as it is in
`data`, like a will, a user name and a password that the packet does not have. -/
def ConnectData.readBack (options data : ConnectData) : ConnectData :=
  { data with
    clientID := options.clientID.readBack
    keepAliveInterval := options.keepAliveInterval
    cleansession := options.cleansession
    willFlag := options.willFlag
    will := if options.willFlag then
        { topicName := options.will.topicName.readBack, message := options.will.message.readBack,
          retained := options.will.retained, qos := options.will.qos }
      else data.will
    username := if options.username.isSet then options.username.readBack else data.username
    password := if options.password.isSet then options.password.readBack else data.password }

variable {α : Type} {options : ConnectData}

theorem readString_reads {s : MqttString} (h : s.text.length < 65536) :
    readString.Reads (writeMQTTString s) s.readBack := by
  intro rest n hn
  rw [readString, (writeMQTTString_reads h).bind_apply hn]
  rfl

/-- The will is read back, or the old one is left when there is none. -/
theorem readWill_reads (hstrings : ∀ s ∈ options.strings, s.text.length < 65536)
    (old : WillOptions) :
    (readWill (connectFlags options) old).Reads (willBytes options)
      (if options.willFlag then
        { topicName := options.will.topicName.readBack, message := options.will.message.readBack,
          retained := options.will.retained, qos := options.will.qos }
      else old) := by
  have htopic := readString_reads (hstrings options.will.topicName (by simp [ConnectData.strings]))
  have hmessage := readString_reads (hstrings options.will.message (by simp [ConnectData.strings]))
  unfold readWill willBytes connectFlags
  by_cases hwill : options.willFlag
  · simp only [hwill, if_true, Bool.true_and]
    exact htopic.bind (hmessage.bind_pure _)
  · simp only [hwill, if_false, Bool.false_eq_true]
    exact Decoder.reads_pure old

/-- The user name or the password, where as much as that is left. -/
theorem readCredential_bind (f : MqttString → Decode α) {s : MqttString}
    (h : s.text.length < 65536) (old : MqttString) (data : List UInt8) {n : ℤ}
    (hn : ((optionalBytes s).length : ℤ) ≤ n) :
    (readCredential s.isSet old >>= f) ⟨optionalBytes s ++ data, n⟩ =
      if s.isSet ∧ n < 3 then some (.error 0)
      else f (if s.isSet then s.readBack else old) ⟨data, n - (optionalBytes s).length⟩ := by
  unfold readCredential optionalBytes at *
  by_cases hset : s.isSet
  · simp only [hset, if_true, true_and] at hn ⊢
    by_cases hlt : n < 3
    · rw [if_pos hlt]
      show ((Decoder.left >>= fun left => if left < 3 then Decoder.exit 0 else readString) >>= f) _ = _
      rw [Decoder.bind_error]
      rw [Decoder.left_bind, if_pos hlt]
      rfl
    · rw [if_neg hlt]
      have hread : (Decoder.left >>= fun left => if left < 3 then Decoder.exit 0 else readString :
          Decode MqttString) ⟨writeMQTTString s ++ data, n⟩ =
          some (.ok (s.readBack, ⟨data, n - (writeMQTTString s).length⟩)) := by
        rw [Decoder.left_bind, if_neg hlt]
        exact readString_reads h data n hn
      rw [Decoder.bind_ok hread]
  · simp only [hset, if_false, false_and, Bool.false_eq_true, List.nil_append, List.length_nil,
      Int.natCast_zero, Int.sub_zero, Decoder.pure_bind]

/-- The user name and the password at the end of a packet. -/
def credentialBytes (options : ConnectData) : List UInt8 :=
  optionalBytes options.username ++ optionalBytes options.password

theorem length_optionalBytes {s : MqttString} (hset : s.isSet) :
    (optionalBytes s).length = 2 + s.text.length := by
  rw [optionalBytes, if_pos hset, writeMQTTString, List.length_append, length_writeInt]

/-- The three tests that the user name and the password have to pass. -/
theorem accepted_iff : options.Accepted ↔
    ¬ (options.password.isSet && !options.username.isSet) ∧
    ¬ (options.username.isSet ∧ ((credentialBytes options).length : ℤ) < 3) ∧
    ¬ (options.password.isSet ∧ ((optionalBytes options.password).length : ℤ) < 3) := by
  have hpos : ∀ text : List UInt8, text ≠ [] ↔ 0 < text.length := fun _ =>
    List.length_pos_iff.symm
  have hlength : (credentialBytes options).length =
      (optionalBytes options.username).length + (optionalBytes options.password).length := by
    rw [credentialBytes, List.length_append]
  have hunset : ∀ s : MqttString, ¬ s.isSet → (optionalBytes s).length = 0 := by
    intro s hs
    rw [optionalBytes, if_neg hs, List.length_nil]
  rw [hlength]
  unfold ConnectData.Accepted
  rw [hpos, hpos]
  by_cases husername : options.username.isSet <;> by_cases hpassword : options.password.isSet
  · rw [length_optionalBytes husername, length_optionalBytes hpassword]
    simp only [husername, hpassword, true_implies, true_and, Bool.not_true, Bool.and_false,
      Bool.false_eq_true, not_false_eq_true, or_true, and_true]
    omega
  · rw [length_optionalBytes husername, hunset _ hpassword]
    simp only [husername, hpassword, true_implies, true_and, false_implies, false_and,
      Bool.false_and, Bool.false_eq_true, not_false_eq_true, or_false, and_true]
    omega
  · simp [husername, hpassword]
  · simp [husername, hpassword]

/-- The end of `MQTTDeserialize_connect`, where the packet ends with the last string. -/
theorem readCredentials_bind (h : options.Fits) (data : ConnectData) (mem : List UInt8)
    (f : MqttString → MqttString → Decode α) :
    (if options.password.isSet && !options.username.isSet then Decoder.exit 0
      else do
        let username ← readCredential options.username.isSet data.username
        let password ← readCredential options.password.isSet data.password
        f username password : Decode α)
      ⟨credentialBytes options ++ mem, (credentialBytes options).length⟩ =
    if options.Accepted then
      f (options.readBack data).username (options.readBack data).password ⟨mem, 0⟩
    else some (.error 0) := by
  have husername := h.length_lt options.username (by simp [ConnectData.strings])
  have hpassword := h.length_lt options.password (by simp [ConnectData.strings])
  have hleft : ((credentialBytes options).length : ℤ) - (optionalBytes options.username).length =
      (optionalBytes options.password).length := by
    rw [credentialBytes, List.length_append]
    omega
  have hle : ((optionalBytes options.username).length : ℤ) ≤ (credentialBytes options).length := by
    rw [credentialBytes, List.length_append]
    omega
  rw [Decoder.ite_apply]
  by_cases horphan : options.password.isSet && !options.username.isSet
  · rw [if_pos horphan, if_neg fun haccepted => (accepted_iff.mp haccepted).1 horphan]
    rfl
  rw [if_neg horphan, show credentialBytes options ++ mem =
    optionalBytes options.username ++ (optionalBytes options.password ++ mem) by
      rw [credentialBytes, List.append_assoc], readCredential_bind _ husername _ _ hle]
  by_cases hshort : options.username.isSet ∧ ((credentialBytes options).length : ℤ) < 3
  · rw [if_pos hshort, if_neg fun haccepted => (accepted_iff.mp haccepted).2.1 hshort]
  rw [if_neg hshort, hleft, readCredential_bind _ hpassword _ _ (le_refl _)]
  by_cases hempty : options.password.isSet ∧ ((optionalBytes options.password).length : ℤ) < 3
  · rw [if_pos hempty, if_neg fun haccepted => (accepted_iff.mp haccepted).2.2 hempty]
  rw [if_neg hempty, if_pos (accepted_iff.mpr ⟨horphan, hshort, hempty⟩), Int.sub_self]
  rfl

/-- The fields behind the protocol version. -/
theorem readConnectData_apply (h : options.Fits) (data : ConnectData) (mem : List UInt8) {n : ℤ}
    (hn : n = 1 + 2 + (writeMQTTString options.clientID).length + (willBytes options).length +
      (credentialBytes options).length) :
    readConnectData data ⟨(connectFlags options).byte :: (writeInt options.keepAliveInterval ++
        (writeMQTTString options.clientID ++ (willBytes options ++
          (credentialBytes options ++ mem)))), n⟩ =
      some (if options.Accepted then .ok (options.readBack data, ⟨mem, 0⟩) else .error 0) := by
  have hqos : (connectFlags options).willQoS < 4 := by
    have hwill := h.qos
    show (if options.willFlag then options.will.qos else 0) < 4
    split_ifs <;> omega
  have hclient := readString_reads (h.length_lt options.clientID (by simp [ConnectData.strings]))
  have hwill := readWill_reads h.length_lt data.will
  rw [readConnectData, readChar_bind_cons]
  simp only [ConnectFlags.bits_byte hqos]
  rw [readInt_bind _ h.keepAliveInterval, hclient.bind_apply (by omega),
    hwill.bind_apply (by omega)]
  have hleft : n - 1 - 2 - (writeMQTTString options.clientID).length - (willBytes options).length =
      (credentialBytes options).length := by omega
  rw [hleft]
  refine (readCredentials_bind h data mem _).trans ?_
  by_cases haccepted : options.Accepted
  · rw [if_pos haccepted, if_pos haccepted]
    rfl
  · rw [if_neg haccepted, if_neg haccepted]

/-- The body has the length that the code computes. -/
theorem length_connectBody (h : options.Fits) :
    (connectBody options).length = mqttSerializeConnectLength options := by
  have hlength : ∀ s ∈ options.strings, (writeMQTTString s).length = mqttStrlen s + 2 := by
    intro s hs
    rw [length_writeMQTTString (h.single s hs), Nat.add_comm]
  have hclient := hlength options.clientID (by simp [ConnectData.strings])
  have htopic := hlength options.will.topicName (by simp [ConnectData.strings])
  have hmessage := hlength options.will.message (by simp [ConnectData.strings])
  have husername := hlength options.username (by simp [ConnectData.strings])
  have hpassword := hlength options.password (by simp [ConnectData.strings])
  have hwill : (willBytes options).length = if options.willFlag then
      mqttStrlen options.will.topicName + 2 + mqttStrlen options.will.message + 2 else 0 := by
    unfold willBytes
    split_ifs
    · rw [List.length_append, htopic, hmessage]
      omega
    · rfl
  have hoptional : ∀ s ∈ options.strings, (optionalBytes s).length =
      if s.isSet then mqttStrlen s + 2 else 0 := by
    intro s hs
    unfold optionalBytes
    split_ifs
    · exact hlength s hs
    · rfl
  have hprotocol : (protocolName options.mqttVersion).length =
      if options.mqttVersion = 3 then 6 else 4 := by
    unfold protocolName
    rw [length_bytes]
    rcases h.version with hversion | hversion <;> rw [hversion] <;> rfl
  have hversion := h.version
  unfold connectBody mqttSerializeConnectLength
  simp only [List.length_append, List.length_cons, length_writeInt, hclient, hwill, hprotocol,
    hoptional options.username (by simp [ConnectData.strings]),
    hoptional options.password (by simp [ConnectData.strings])]
  split_ifs <;> omega

/-- Options within the limits fit the length field of a packet. -/
theorem mqttSerializeConnectLength_lt (h : options.Fits) :
    mqttSerializeConnectLength options < 2 ^ 28 := by
  have hlt : ∀ s ∈ options.strings, mqttStrlen s < 65536 := by
    intro s hs
    rw [mqttStrlen_eq (h.single s hs)]
    exact h.length_lt s hs
  have hclient := hlt options.clientID (by simp [ConnectData.strings])
  have htopic := hlt options.will.topicName (by simp [ConnectData.strings])
  have hmessage := hlt options.will.message (by simp [ConnectData.strings])
  have husername := hlt options.username (by simp [ConnectData.strings])
  have hpassword := hlt options.password (by simp [ConnectData.strings])
  unfold mqttSerializeConnectLength
  split_ifs <;> omega

/-- The name of the protocol and its version agree. -/
theorem checkVersion_protocol (h : options.mqttVersion = 3 ∨ options.mqttVersion = 4) :
    mqttPacketCheckVersion (protocolName options.mqttVersion)
      (byteChar (protocolLevel options.mqttVersion)) = true := by
  rcases h with hversion | hversion <;> rw [hversion] <;> decide

/-- `MQTTDeserialize_connect` on the bytes that `MQTTSerialize_connect` writes. -/
theorem mqttDeserializeConnect_connectBody (h : options.Fits) (data : ConnectData)
    (mem : List UInt8) :
    mqttDeserializeConnect data (received (MqttHeader.byte { type := MsgType.connect.toNat })
        (connectBody options) mem)
      (1 + (mqttPacketEncode (connectBody options).length).length + (connectBody options).length) =
    some (if options.Accepted then .ok (options.readBack data) else .error 0) := by
  have hsize : (connectBody options).length < 2 ^ 28 := by
    rw [length_connectBody h]
    exact mqttSerializeConnectLength_lt h
  have hname : (protocolName options.mqttVersion).length < 65536 := by
    rcases h.version with hversion | hversion <;> rw [hversion] <;> decide
  have hbody : connectBody options = writeInt (protocolName options.mqttVersion).length ++
      protocolName options.mqttVersion ++ (protocolLevel options.mqttVersion ::
        (connectFlags options).byte :: (writeInt options.keepAliveInterval ++
          (writeMQTTString options.clientID ++ (willBytes options ++ credentialBytes options)))) :=
    rfl
  have hlength := congrArg List.length hbody
  simp only [List.length_append, List.length_cons, length_writeInt] at hlength
  rw [mqttDeserializeConnect, Decoder.run, received, readChar_bind_cons]
  simp only [MqttHeader.bits_byte (show MqttHeader.Fits { type := MsgType.connect.toNat } from
    ⟨by decide, by decide⟩), ne_eq, not_true_eq_false, if_false]
  rw [readLength_bind _ hsize]
  generalize (mqttPacketEncode (connectBody options).length).length = len at *
  have hprotocol := readMQTTLenString_reads hname
  rw [show connectBody options ++ mem = writeInt (protocolName options.mqttVersion).length ++
      protocolName options.mqttVersion ++ (protocolLevel options.mqttVersion ::
        ((connectFlags options).byte :: (writeInt options.keepAliveInterval ++
          (writeMQTTString options.clientID ++ (willBytes options ++
            (credentialBytes options ++ mem)))))) by
      rw [hbody]
      simp only [List.append_assoc, List.cons_append],
    hprotocol.bind_apply (by rw [List.length_append, length_writeInt]; omega), Decoder.left_bind]
  simp only [List.length_append, length_writeInt]
  rw [if_neg (by omega), readChar_bind_cons, checkVersion_protocol h.version]
  simp only [if_true]
  rw [readConnectData_apply h data mem (by omega)]
  split_ifs <;> rfl

/-- A CONNECT packet that `MQTTSerialize_connect` has written for options that fit in its fields
fits in the buffer, and `MQTTDeserialize_connect` reads all options but the version back if and only
if there is no password without a user name and the last one of the two is not empty; otherwise it
refuses the packet. -/
theorem connect_roundTrip {buflen : ℕ} {packet : List UInt8}
    (hpacket : mqttSerializeConnect buflen options = some packet) (h : options.Fits)
    (data : ConnectData) (mem : List UInt8) :
    packet.length ≤ buflen ∧ mqttDeserializeConnect data (packet ++ mem) packet.length =
      some (if options.Accepted then .ok (options.readBack data) else .error 0) := by
  rw [mqttSerializeConnect, ← length_connectBody h] at hpacket
  split at hpacket
  · cases hpacket
  rename_i hfits
  obtain rfl := Option.some_inj.mp hpacket
  have hsize := length_le_mqttPacketLen (mqttSerializeConnectLength_lt h)
  rw [← length_connectBody h] at hsize
  constructor
  · rw [List.length_cons, List.length_append]
    omega
  · rw [List.length_cons, List.length_append, Nat.add_comm _ 1, ← Nat.add_assoc, List.cons_append,
      List.append_assoc]
    exact mqttDeserializeConnect_connectBody h data mem

theorem fits_default : ConnectData.Fits {} where
  version := .inr rfl
  keepAliveInterval := by decide
  qos := by decide
  single := by unfold MqttString.Single; decide
  length_lt := by decide

/-- A device with a user name, a password and a will. -/
def loginOptions : ConnectData :=
  { mqttVersion := 3
    clientID := { cstring := some (bytes "device".toList) }
    keepAliveInterval := 300
    cleansession := false
    willFlag := true
    will :=
      { topicName := { cstring := some (bytes "w".toList) }
        message := { lenstring := some (bytes "gone".toList) }
        retained := true
        qos := 1 }
    username := { cstring := some (bytes "name".toList) }
    password := { lenstring := some (bytes "key".toList) } }

/-- The same options with another password. -/
def loginWith (password : MqttString) : ConnectData := { loginOptions with password := password }

theorem fits_loginWith {password : MqttString} (hsingle : password.Single)
    (hlength : password.text.length < 65536) : (loginWith password).Fits := by
  have hstrings : (loginWith password).strings = [loginOptions.clientID,
    loginOptions.will.topicName, loginOptions.will.message, loginOptions.username, password] := rfl
  have hkeepAlive : loginOptions.keepAliveInterval < 65536 := by decide
  have hqos : loginOptions.will.qos < 4 := by decide
  refine ⟨.inl rfl, hkeepAlive, hqos, ?_, ?_⟩
  · rw [hstrings]
    unfold MqttString.Single at *
    simp [loginOptions, hsingle]
  · rw [hstrings]
    simp only [List.forall_mem_cons]
    exact ⟨by decide, by decide, by decide, by decide, hlength, by simp⟩

/-- The options are read back, but for the version; with an empty password the packet is
refused. -/
theorem connect_readBack : ∃ packet refused,
    mqttSerializeConnect 64 loginOptions = some packet ∧ packet.length ≤ 64 ∧
    mqttDeserializeConnect {} (packet ++ [0]) packet.length = some (.ok
      { mqttVersion := 4
        clientID := { lenstring := some (bytes "device".toList) }
        keepAliveInterval := 300
        cleansession := false
        willFlag := true
        will :=
          { topicName := { lenstring := some (bytes "w".toList) }
            message := { lenstring := some (bytes "gone".toList) }
            retained := true
            qos := 1 }
        username := { lenstring := some (bytes "name".toList) }
        password := { lenstring := some (bytes "key".toList) } }) ∧
    mqttSerializeConnect 64 (loginWith { cstring := some [] }) = some refused ∧
    mqttDeserializeConnect {} (refused ++ [0]) refused.length = some (.error 0) := by
  have hsome : (mqttSerializeConnect 64 loginOptions).isSome = true := by decide
  have hsome' : (mqttSerializeConnect 64 (loginWith { cstring := some [] })).isSome = true := by
    decide
  obtain ⟨packet, hpacket⟩ := Option.isSome_iff_exists.mp hsome
  obtain ⟨refused, hrefused⟩ := Option.isSome_iff_exists.mp hsome'
  have hread := connect_roundTrip hpacket (fits_loginWith (.inl rfl) (by decide)) {} [0]
  have hread' := connect_roundTrip hrefused (fits_loginWith (.inr rfl) (by decide)) {} [0]
  exact ⟨packet, refused, hpacket, hread.1, hread.2, hrefused, hread'.2⟩

end ZohoIotSdk.Paho
