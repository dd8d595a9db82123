import Mathlib.Tactic.Ring
import ZohoIotSdk.Codec.Decoder
import ZohoIotSdk.Mqtt.Publish

/-!
# The fields of MQTT packets

`MQTTPacket.c` of the embedded Paho library: the header byte, the remaining length, two-byte
integers and strings with their length.

`mqttPacketDecode_encode`: what `MQTTPacket_encode` writes is read back by `MQTTPacket_decode`.
-/

namespace ZohoIotSdk.Paho

open Codec

/-- A decoder of a packet. It is left early with a return code. -/
abbrev Decode := Decoder UInt8 ℤ

/-! ## The header byte -/

/-- `msgTypes` -/
inductive MsgType where
  | connect
  | connack
  | publish
  | puback
  | pubrec
  | pubrel
  | pubcomp
  | subscribe
  | suback
  | unsubscribe
  | unsuback
  | pingreq
  | pingresp
  | disconnect
deriving DecidableEq, Repr

/-- The number of a message type. -/
def MsgType.toNat : MsgType → ℕ
  | .connect => 1
  | .connack => 2
  | .publish => 3
  | .puback => 4
  | .pubrec => 5
  | .pubrel => 6
  | .pubcomp => 7
  | .subscribe => 8
  | .suback => 9
  | .unsubscribe => 10
  | .unsuback => 11
  | .pingreq => 12
  | .pingresp => 13
  | .disconnect => 14

/-- The bit fields of `MQTTHeader`. -/
structure MqttHeader where
  type : ℕ
  dup : Bool := false
  qos : ℕ := 0
  retain : Bool := false
deriving DecidableEq

namespace MqttHeader

/-- `header.byte`, of bit fields that have been assigned. -/
def byte (h : MqttHeader) : UInt8 :=
  UInt8.ofNat (h.type * 16 + h.dup.toNat * 8 + h.qos * 2 + h.retain.toNat)

/-- `header.bits`, of a byte that has been assigned. -/
def bits (b : UInt8) : MqttHeader :=
  { type := b.toNat / 16
    dup := b.toNat / 8 % 2 = 1
    qos := b.toNat / 2 % 4
    retain := b.toNat % 2 = 1 }

/-- Values that fit in the bit fields. -/
def Fits (h : MqttHeader) : Prop := h.type < 16 ∧ h.qos < 4

/-- The value of a header byte. -/
theorem toNat_byte {h : MqttHeader} (hfits : h.Fits) :
    h.byte.toNat = h.type * 16 + h.dup.toNat * 8 + h.qos * 2 + h.retain.toNat := by
  have hdup := Bool.toNat_le h.dup
  have hretain := Bool.toNat_le h.retain
  rw [byte, UInt8.toNat_ofNat']
  apply Nat.mod_eq_of_lt
  have htype := hfits.1
  have hqos := hfits.2
  omega

/-- The fields are recovered from the header byte. -/
@[simp] theorem bits_byte {h : MqttHeader} (hfits : h.Fits) : bits h.byte = h := by
  have hbyte := toNat_byte hfits
  obtain ⟨type, dup, qos, retain⟩ := h
  obtain ⟨htype, hqos⟩ := hfits
  unfold bits
  rw [hbyte]
  simp only [mk.injEq] at htype hqos ⊢
  cases dup <;> cases retain <;>
    simp only [Bool.toNat_true, Bool.toNat_false, decide_eq_true_eq, decide_eq_false_iff_not] <;>
    omega

end MqttHeader

/-! ## The remaining length -/

/-- `MQTTPacket_decode` from a buffer, with at most `turns` bytes: how many bytes were asked for,
and the length; there is no result where the buffer ends before the length does. -/
def mqttPacketDecodeFrom : ℕ → ℕ → ℕ → List UInt8 → Option (ℕ × ℕ)
  | 0, _, value, _ => some (1, value)
  | _ + 1, _, _, [] => none
  | turns + 1, multiplier, value, c :: data =>
    let value := value + c.toNat % 128 * multiplier
    if 128 ≤ c.toNat then
      (mqttPacketDecodeFrom turns (multiplier * 128) value data).map fun (len, value) =>
        (len + 1, value)
    else some (1, value)

/-- `MQTTPacket_decode` with `bufchar`. It gives up when a fifth byte is asked for. -/
def mqttPacketDecode (data : List UInt8) : Option (ℕ × ℕ) := mqttPacketDecodeFrom 4 1 0 data

/-- A length below 128 is one byte. -/
theorem mqttPacketEncode_of_lt {n : ℕ} (h : n < 128) : mqttPacketEncode n = [UInt8.ofNat n] := by
  rw [mqttPacketEncode, if_pos h]

/-- A longer length continues behind its lowest seven bits. -/
theorem mqttPacketEncode_of_le {n : ℕ} (h : 128 ≤ n) :
    mqttPacketEncode n = UInt8.ofNat (n % 128 + 128) :: mqttPacketEncode (n / 128) := by
  rw [mqttPacketEncode, if_neg (by omega)]

theorem toNat_ofNat_of_lt {n : ℕ} (h : n < 256) : (UInt8.ofNat n).toNat = n := by
  rw [UInt8.toNat_ofNat', Nat.mod_eq_of_lt h]

/-- The bytes that are left to read hold the digits that are left to add. -/
theorem mqttPacketDecodeFrom_encode {turns n : ℕ} (h : n < 128 ^ turns)
    (multiplier value : ℕ) (rest : List UInt8) :
    mqttPacketDecodeFrom turns multiplier value (mqttPacketEncode n ++ rest) =
      some ((mqttPacketEncode n).length, value + n * multiplier) := by
  induction turns generalizing n multiplier value with
  | zero =>
    obtain rfl : n = 0 := by omega
    rw [mqttPacketEncode_of_lt (by omega), Nat.zero_mul]
    rfl
  | succ turns ih =>
    by_cases hlt : n < 128
    · rw [mqttPacketEncode_of_lt hlt, List.singleton_append, mqttPacketDecodeFrom,
        toNat_ofNat_of_lt (by omega), if_neg (by omega), Nat.mod_eq_of_lt hlt]
      rfl
    · have hdiv : n / 128 < 128 ^ turns := by
        apply Nat.div_lt_of_lt_mul
        rwa [pow_succ, Nat.mul_comm] at h
      -- the digit that was read and the ones that follow
      have hdigits : n % 128 * multiplier + n / 128 * (multiplier * 128) = n * multiplier := by
        calc n % 128 * multiplier + n / 128 * (multiplier * 128)
            = (128 * (n / 128) + n % 128) * multiplier := by ring
          _ = n * multiplier := by rw [Nat.div_add_mod]
      rw [mqttPacketEncode_of_le (by omega), List.cons_append, mqttPacketDecodeFrom,
        toNat_ofNat_of_lt (by omega), if_pos (by omega), ih hdiv, Option.map_some,
        Nat.add_mod_right, Nat.mod_mod, Nat.add_assoc, hdigits, List.length_cons]

/-- Lengths of up to four bytes are read back. -/
theorem mqttPacketDecode_encode {n : ℕ} (h : n < 2 ^ 28) (rest : List UInt8) :
    mqttPacketDecode (mqttPacketEncode n ++ rest) = some ((mqttPacketEncode n).length, n) := by
  rw [mqttPacketDecode, mqttPacketDecodeFrom_encode (by omega), Nat.zero_add, Nat.mul_one]

/-! ## Integers and strings -/

/-- `readChar`. The pointer moves by one. -/
def readChar : Decode UInt8 := Decoder.item

/-- `readInt`: two bytes, the high one first. -/
def readInt : Decode ℕ := do
  let high ← readChar
  let low ← readChar
  pure (256 * high.toNat + low.toNat)

/-- The length field of a packet, with the statement that moves the pointer behind it: the return
code of `MQTTPacket_decodeBuf` and the length. -/
def readLength : Decode (ℕ × ℕ) := do
  let data ← Decoder.peek
  match mqttPacketDecode data with
  | none => fun _ => none
  | some (rc, mylen) => do
    let _ ← Decoder.take rc
    pure (rc, mylen)

/-- `readMQTTLenString`; `none` is its result 0. -/
def readMQTTLenString : Decode (Option (List UInt8)) := do
  let left ← Decoder.left
  if 1 < left then do
    let len ← readInt
    let left ← Decoder.left
    if (len : ℤ) ≤ left then do
      let data ← Decoder.take len
      pure (some data)
    else pure none
  else pure none

/-- `MQTTString`: a C string, a string with its length, or both; `none` is the null pointer. -/
structure MqttString where
  cstring : Option (List UInt8) := none
  lenstring : Option (List UInt8) := none
deriving DecidableEq

/-- `MQTTstrlen` -/
def mqttStrlen (s : MqttString) : ℕ :=
  match s.cstring with
  | some text => text.length
  | none => (s.lenstring.getD []).length

/-- What `writeMQTTString` writes behind the length: the string with its length if it is not empty,
or else the C string. -/
def MqttString.text (s : MqttString) : List UInt8 :=
  if s.lenstring.getD [] ≠ [] then s.lenstring.getD [] else s.cstring.getD []

/-- `writeMQTTString` -/
def writeMQTTString (s : MqttString) : List UInt8 := writeInt s.text.length ++ s.text

/-- A string of which only one kind is set; `MQTTstrlen` and `writeMQTTString` agree on it. -/
def MqttString.Single (s : MqttString) : Prop := s.cstring = none ∨ s.lenstring.getD [] = []

/-- The length of a string in one form is that of its text. -/
theorem mqttStrlen_eq {s : MqttString} (h : s.Single) : mqttStrlen s = s.text.length := by
  obtain ⟨cstring, lenstring⟩ := s
  unfold mqttStrlen MqttString.text
  rcases h with hnone | hempty
  · simp only at hnone
    subst hnone
    simp only [Option.getD_none]
    split
    · rfl
    · rename_i hnil
      rw [not_not.mp hnil]
  · simp only at hempty
    cases cstring with
    | none => simp [hempty]
    | some text => simp [hempty]

/-! ### What they read -/

theorem readInt_reads {n : ℕ} (h : n < 65536) : readInt.Reads (writeInt n) n := by
  have hvalue : 256 * (UInt8.ofNat (n / 256)).toNat + (UInt8.ofNat (n % 256)).toNat = n := by
    rw [toNat_ofNat_of_lt (by omega), toNat_ofNat_of_lt (by omega), Nat.div_add_mod]
  intro rest left hleft
  show some (Except.ok (256 * (UInt8.ofNat (n / 256)).toNat + (UInt8.ofNat (n % 256)).toNat,
    (⟨rest, left - 1 - 1⟩ : Cursor UInt8))) = _
  rw [hvalue, Int.sub_sub]
  rfl

@[simp] theorem length_writeInt (n : ℕ) : (writeInt n).length = 2 := rfl

theorem readMQTTLenString_reads {text : List UInt8} (h : text.length < 65536) :
    readMQTTLenString.Reads (writeInt text.length ++ text) (some text) := by
  apply Decoder.reads_left_bind
  intro n hn
  rw [List.length_append, length_writeInt] at hn
  rw [if_pos (by omega)]
  refine (readInt_reads h).bind (Decoder.reads_left_bind fun left hleft => ?_)
  rw [if_pos hleft]
  exact (Decoder.reads_take text).bind_pure some

end ZohoIotSdk.Paho
