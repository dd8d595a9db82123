import Mathlib.Data.Nat.Log
import ZohoIotSdk.CJson.Number

/-!
# PUBLISH packets

`MQTTSerialize_publish` of the embedded Paho library with the functions it calls, on
lengths that fit in a C `int`. The packet is the list of its bytes.
-/

namespace ZohoIotSdk

/-! ## Serialisation -/

/-- `MQTTPacket_encode`: seven bits a byte, the top bit set on all but the last. -/
def mqttPacketEncode (length : ℕ) : List UInt8 :=
  if length < 128 then [UInt8.ofNat length]
  else UInt8.ofNat (length % 128 + 128) :: mqttPacketEncode (length / 128)
termination_by length
decreasing_by omega

/-- `MQTTPacket_len`: the length of a packet with that much after its fixed header. The
number of length bytes is counted from `rem_len + 1`. -/
def mqttPacketLen (remLen : ℕ) : ℕ :=
  let n := remLen + 1
  if n < 128 then n + 1
  else if n < 16384 then n + 2
  else if n < 2097151 then n + 3
  else n + 4

/-- `MQTTSerialize_publishLength`. -/
def mqttSerializePublishLength (qos : ℕ) (topicName payload : CString) : ℕ :=
  2 + topicName.length + payload.length + (if 0 < qos then 2 else 0)

/-- `writeInt`: two bytes, the high one first. -/
def writeInt (n : ℕ) : List UInt8 := [UInt8.ofNat (n / 256), UInt8.ofNat (n % 256)]

def bytes (s : CString) : List UInt8 := s.map fun c => UInt8.ofNat c.toNat

/-- The bytes of a PUBLISH packet: the header, the remaining length, the topic with its
length, the packet id unless the quality of service is 0, and the payload. -/
def publishPacket (dup : Bool) (qos : ℕ) (retained : Bool) (packetid : ℕ)
    (topicName payload : CString) : List UInt8 :=
  UInt8.ofNat (3 * 16 + dup.toNat * 8 + qos * 2 + retained.toNat) ::
    (mqttPacketEncode (mqttSerializePublishLength qos topicName payload)
      ++ (writeInt topicName.length ++ bytes topicName)
      ++ (if 0 < qos then writeInt packetid else []) ++ bytes payload)

/-- `MQTTSerialize_publish`, into a buffer of `buflen` bytes; `none` is
`MQTTPACKET_BUFFER_TOO_SHORT`. -/
def mqttSerializePublish (buflen : ℕ) (dup : Bool) (qos : ℕ) (retained : Bool) (packetid : ℕ)
    (topicName payload : CString) : Option (List UInt8) :=
  if buflen < mqttPacketLen (mqttSerializePublishLength qos topicName payload) then none
  else some (publishPacket dup qos retained packetid topicName payload)

/-! ## Lengths -/

/-- The number of bytes of an encoded length. -/
theorem length_mqttPacketEncode (n : ℕ) : (mqttPacketEncode n).length = Nat.log 128 n + 1 := by
  induction n using Nat.strongRecOn with
  | ind n ih =>
    rw [mqttPacketEncode]
    split
    · rename_i hlt
      rw [Nat.log_of_lt hlt]
      rfl
    · rename_i hge
      have hstep : Nat.log 128 n = Nat.log 128 (n / 128) + 1 :=
        Nat.log_of_one_lt_of_le (by omega) (by omega)
      rw [List.length_cons, ih (n / 128) (by omega), hstep]

/-- The length of a QoS 1 packet, from the lengths of topic and payload. -/
def publishLength (topicLength payloadLength : ℕ) : ℕ :=
  let remLen := topicLength + payloadLength + 4
  1 + (Nat.log 128 remLen + 1) + remLen

/-- The packet has the length that the code computes. -/
theorem length_publishPacket (dup retained : Bool) (packetid : ℕ) (topicName payload : CString) :
    (publishPacket dup 1 retained packetid topicName payload).length =
      publishLength topicName.length payload.length := by
  have hrem : mqttSerializePublishLength 1 topicName payload =
      topicName.length + payload.length + 4 := by
    simp only [mqttSerializePublishLength, Nat.zero_lt_one, if_true]
    omega
  unfold publishPacket publishLength
  rw [hrem]
  simp only [Nat.zero_lt_one, if_true, List.length_cons, List.length_append,
    length_mqttPacketEncode, writeInt, bytes, List.length_map, List.length_nil]
  omega

theorem publishLength_mono (topicLength : ℕ) {m n : ℕ} (h : m ≤ n) :
    publishLength topicLength m ≤ publishLength topicLength n := by
  unfold publishLength
  have hlog : Nat.log 128 (topicLength + m + 4) ≤ Nat.log 128 (topicLength + n + 4) :=
    Nat.log_mono_right (by omega)
  simp only []
  omega

/-- The packet is longer than its payload. -/
theorem lt_publishLength (topicLength payloadLength : ℕ) :
    payloadLength < publishLength topicLength payloadLength := by
  unfold publishLength
  simp only []
  omega

end ZohoIotSdk
