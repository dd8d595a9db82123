import ZohoIotSdk.Mqtt.Session

/-!
# Sending and receiving packets

What `sendPacket` and `readPacket` do, as rules for the programs that call them.

`wlp_sendPacket`: what is handed over is the send buffer from its start, and success means that it
is exactly the packet.
`wlp_readPacket`: what is read is at most a packet, and the packet in the buffer is what was read.
-/

namespace ZohoIotSdk.Paho

open Atomic (Prog)
open Machine

/-! ## Bytes on the connection -/

/-- The bytes that an event has handed over. -/
def Event.written : Event → List UInt8
  | .wrote data => data
  | _ => []

def written (tr : List Event) : List UInt8 := tr.flatMap Event.written

/-- The bytes that an event has taken from the connection. -/
def Event.consumed : Event → List UInt8
  | .read _ _ data => data
  | _ => []

def consumed (tr : List Event) : List UInt8 := tr.flatMap Event.consumed

@[simp] theorem written_append (tr es : List Event) :
    written (tr ++ es) = written tr ++ written es := List.flatMap_append

@[simp] theorem consumed_append (tr es : List Event) :
    consumed (tr ++ es) = consumed tr ++ consumed es := List.flatMap_append

/-- Some calls of `mqttwrite`. -/
def writes (pieces : List (List UInt8)) : List Event := pieces.map .wrote

/-- Writing the pieces writes the bytes in them. -/
@[simp] theorem written_writes (pieces : List (List UInt8)) :
    written (writes pieces) = pieces.flatten := by
  induction pieces with
  | nil => rfl
  | cons piece pieces ih =>
    show piece ++ written (writes pieces) = piece ++ pieces.flatten
    rw [ih]

@[simp] theorem consumed_writes (pieces : List (List UInt8)) : consumed (writes pieces) = [] := by
  induction pieces with
  | nil => rfl
  | cons piece pieces ih => exact ih

/-! ## `sendPacket` -/

variable {c s : Client} {tr tr' : List Event} {turns length timer sent : ℕ}

/-- What a call of `mqttwrite` has taken. -/
theorem taken_eq (w : Reply) (buf : List UInt8) (sent length : ℕ) :
    w.taken ((buf.drop sent).take length) = (buf.drop sent).take (min w.count length) :=
  List.take_take

/-- A write fails or takes some of the bytes offered. -/
theorem writeResult_cases (w : Reply) (length : ℕ) :
    w.writeResult length < 0 ∨ w.writeResult length = (min w.count length : ℕ) := by
  unfold Reply.writeResult
  split_ifs with hle
  · right
    rw [Nat.min_eq_right hle]
  · rw [Nat.min_eq_left (by omega)]
    cases w.failure with
    | none => exact .inr rfl
    | some n =>
      left
      simp only
      omega

/-- What the loop of `sendPacket` has handed over is the send buffer from its start. -/
structure SentSoFar (c : Client) (tr : List Event) (sent : ℕ) (s : Client) (tr' : List Event) :
    Prop where
  same : s = c
  pieces : ∃ pieces, tr' = tr ++ writes pieces ∧ pieces.flatten = c.buf.take sent

/-- A further write sends the next bytes of the buffer. -/
theorem SentSoFar.snoc (h : SentSoFar c tr sent s tr') (n : ℕ) :
    SentSoFar c tr (sent + n) s (tr' ++ [.wrote ((s.buf.drop sent).take n)]) := by
  obtain ⟨rfl, pieces, rfl, hflatten⟩ := h
  refine ⟨rfl, pieces ++ [(s.buf.drop sent).take n], ?_, ?_⟩
  · rw [writes, writes, List.map_append, List.append_assoc]
    rfl
  · rw [List.flatten_append, hflatten, List.flatten_singleton, List.take_add]

/-- How the loop of `sendPacket` ends. -/
def SendEnds (c : Client) (tr : List Event) (length : ℕ) (result : Option ℕ) (s : Client)
    (tr' : List Event) : Prop :=
  ∃ n, SentSoFar c tr n s tr' ∧ (result = some length → n = length)

/-- One turn of the loop sends some bytes or ends it. -/
theorem wlp_sendStep (h : SentSoFar c tr sent s tr') :
    (sendStep length timer sent).wlp (fun r s tr' =>
      r.elim (fun sent => SentSoFar c tr sent s tr') fun result => SendEnds c tr length result s tr')
      s tr' := by
  have hends : SendEnds c tr length (some sent) s tr' := ⟨sent, h, fun heq => Option.some.inj heq⟩
  unfold sendStep
  rw [Prog.wlp_ite]
  split_ifs with hlt
  · simp only [timerIsExpired, Prog.wlp_bind, Prog.wlp_act, List.append_nil]
    intro w
    rw [Prog.wlp_ite]
    split_ifs
    · exact hends
    · simp only [readClient, Prog.read, Prog.wlp_bind, Prog.wlp_act, List.append_nil]
      intro _
      rw [Prog.wlp_ite]
      split_ifs
      · exact ⟨sent, h, fun heq => absurd heq (Option.some_ne_none length).symm⟩
      · simp only [mqttwrite, Prog.wlp_bind, Prog.wlp_act, taken_eq]
        intro w
        have hnext := h.snoc (min w.count length)
        rw [Prog.wlp_ite]
        split_ifs with hneg
        · refine ⟨_, hnext, fun heq => ?_⟩
          have hsent := Option.some.inj heq
          omega
        · rcases writeResult_cases w length with hrc | hrc
          · exact absurd hrc hneg
          · rw [hrc, Int.toNat_natCast]
            exact hnext
  · exact hends

/-- `sendPacket`, as its callers use it: what is handed over is the send buffer from its start. When
it succeeds, that is exactly the packet. -/
theorem wlp_sendPacket {Q : ℤ → Client → List Event → Prop}
    (hfailed : ∀ pieces n, pieces.flatten = c.buf.take n → Q failure c (tr ++ writes pieces))
    (hsent : ∀ pieces lastSent, pieces.flatten = c.buf.take length →
      Q success { c with lastSent := lastSent }
        (tr ++ writes pieces ++ [.sent (c.buf.take length)])) :
    (sendPacket turns length timer).wlp Q c tr := by
  have hstart : SentSoFar c tr 0 c tr := ⟨rfl, [], by simp [writes], by simp⟩
  unfold sendPacket
  rw [Prog.wlp_bind]
  apply Prog.wlp_mono (Prog.wlp_loopFor (SentSoFar c tr) (fun _ _ _ => wlp_sendStep) turns hstart)
  rintro result s tr' ⟨n, ⟨rfl, pieces, rfl, hflatten⟩, hlength⟩
  cases result with
  | none => trivial
  | some sent =>
    show (if sent = length then recordSent length else pure failure : ClientM ℤ).wlp Q _ _
    rw [Prog.wlp_ite]
    split_ifs with heq
    · rw [hlength (congrArg some heq)] at hflatten
      intro w
      exact hsent pieces _ hflatten
    · exact hfailed pieces n hflatten

/-! ## `readPacket` -/

/-- A call of `mqttread` that has got less than it asked for, in the middle of a packet. -/
def Event.Cut : Event → Prop
  | .read .header _ _ => False
  | .read _ asked data => data.length < asked
  | _ => False

/-- No packet of the trace has been cut short while it was read. -/
def Whole (tr : List Event) : Prop := ∀ e ∈ tr, ¬ e.Cut

/-- A trace is whole when its parts are. -/
theorem whole_append {es : List Event} : Whole (tr ++ es) ↔ Whole tr ∧ Whole es :=
  List.forall_mem_append

/-- Nothing but calls of `mqttread`. -/
def ReadsOnly (es : List Event) : Prop := ∀ e ∈ es, ∃ site asked data, e = .read site asked data

theorem ReadsOnly.append {es es' : List Event} (h : ReadsOnly es) (h' : ReadsOnly es') :
    ReadsOnly (es ++ es') := List.forall_mem_append.mpr ⟨h, h'⟩

theorem readsOnly_nil : ReadsOnly [] := fun _ he => absurd he List.not_mem_nil

theorem readsOnly_singleton (site : ReadSite) (asked : ℕ) (data : List UInt8) :
    ReadsOnly [.read site asked data] := by
  intro e he
  exact ⟨site, asked, data, List.mem_singleton.mp he⟩

/-- A length field, and the length that it stands for, whatever comes behind it. -/
def LengthField (turns multiplier value : ℕ) (field : List UInt8) (n : ℕ) : Prop :=
  ∀ rest, ∃ len, mqttPacketDecodeFrom turns multiplier value (field ++ rest) = some (len, n) ∧
    field.length = min len turns

/-- The calls that have read a length field. -/
def fieldReads (field : List UInt8) : List Event := field.map fun b => .read .length 1 [b]

theorem readsOnly_fieldReads (field : List UInt8) : ReadsOnly (fieldReads field) := by
  intro e he
  obtain ⟨b, -, rfl⟩ := List.mem_map.mp he
  exact ⟨_, _, _, rfl⟩

/-- The reads of a length field consume its bytes. -/
@[simp] theorem consumed_fieldReads (field : List UInt8) : consumed (fieldReads field) = field := by
  induction field with
  | nil => rfl
  | cons b field ih => exact congrArg (b :: ·) ih

/-- The lengths that `turns` more bytes can give. -/
def LengthBound (turns multiplier value n : ℕ) : Prop :=
  n + multiplier ≤ value + multiplier * 128 ^ turns

theorem lengthBound_self (turns multiplier value : ℕ) :
    LengthBound turns multiplier value value :=
  Nat.add_le_add_left (Nat.le_mul_of_pos_right _ (Nat.pow_pos (by omega))) _

/-- A further digit keeps the bound of the length. -/
theorem LengthBound.digit {turns multiplier value n : ℕ} (b : UInt8)
    (h : LengthBound turns (multiplier * 128) (value + b.toNat % 128 * multiplier) n) :
    LengthBound (turns + 1) multiplier value n := by
  have hdigit : b.toNat % 128 * multiplier ≤ 127 * multiplier :=
    Nat.mul_le_mul_right _ (Nat.le_of_lt_succ (Nat.mod_lt _ (by omega)))
  rw [LengthBound, Nat.mul_assoc, ← Nat.pow_succ'] at h
  show n + multiplier ≤ value + multiplier * 128 ^ turns.succ
  omega

/-- The last digit keeps the bound of the length. -/
theorem lengthBound_last (turns multiplier value : ℕ) (b : UInt8) :
    LengthBound (turns + 1) multiplier value (value + b.toNat % 128 * multiplier) :=
  (lengthBound_self turns (multiplier * 128) _).digit b

/-- `decodePacket` reads a length field, or a part of one. -/
theorem wlp_decodePacket {Q : ℕ → Client → List Event → Prop} {multiplier value : ℕ}
    (hfield : ∀ field n, LengthField turns multiplier value field n →
      LengthBound turns multiplier value n → Q n c (tr ++ fieldReads field))
    (hcut : ∀ field n, LengthBound turns multiplier value n →
      Q n c (tr ++ fieldReads field ++ [.read .length 1 []])) :
    (decodePacket turns multiplier value).wlp Q c tr := by
  induction turns generalizing multiplier value tr with
  | zero =>
    have hnil : LengthField 0 multiplier value [] value := fun _ => ⟨1, rfl, rfl⟩
    have hq := hfield [] value hnil (lengthBound_self ..)
    rwa [fieldReads, List.map_nil, List.append_nil] at hq
  | succ turns ih =>
    rw [decodePacket, readLengthByte, Prog.wlp_bind, Prog.wlp_act]
    intro w
    cases hstored : w.stored 1 with
    | nil =>
      have hq := hcut [] value (lengthBound_self ..)
      rwa [fieldReads, List.map_nil, List.append_nil] at hq
    | cons b rest =>
      have hrest : rest = [] := by
        have hlength : (w.stored 1).length ≤ 1 := List.length_take_le ..
        rw [hstored, List.length_cons] at hlength
        exact List.length_eq_zero_iff.mp (by omega)
      subst hrest
      show (if 128 ≤ b.toNat then decodePacket turns (multiplier * 128)
        (value + b.toNat % 128 * multiplier) else Pure.pure (value + b.toNat % 128 * multiplier) :
          ClientM ℕ).wlp Q c (tr ++ [.read .length 1 [b]])
      rw [Prog.wlp_ite]
      split_ifs with hgoes
      · apply ih
        · intro field n hn hbound
          have hq := hfield (b :: field) n (fun rest => by
            obtain ⟨len, hdecode, hlen⟩ := hn rest
            refine ⟨len + 1, ?_, ?_⟩
            · rw [List.cons_append, mqttPacketDecodeFrom, if_pos hgoes, hdecode]
              rfl
            · rw [List.length_cons, hlen]
              omega) (hbound.digit b)
          rwa [fieldReads, List.map_cons, ← List.singleton_append, ← List.append_assoc] at hq
        · intro field n hbound
          have hq := hcut (b :: field) n (hbound.digit b)
          rwa [fieldReads, List.map_cons, ← List.singleton_append, ← List.append_assoc] at hq
      · have hlast : LengthField (turns + 1) multiplier value [b]
            (value + b.toNat % 128 * multiplier) := by
          intro rest
          refine ⟨1, ?_, ?_⟩
          · rw [List.singleton_append, mqttPacketDecodeFrom, if_neg hgoes]
          · rw [List.length_singleton]
            omega
        exact hfield [b] _ hlast (lengthBound_last ..)

/-- The packet at the start of a buffer. -/
theorem filled_received (mem : List UInt8) (h : UInt8) (body : List UInt8) :
    filled mem (h :: (mqttPacketEncode body.length ++ body)) =
      received h body (mem.drop (1 + (mqttPacketEncode body.length).length + body.length)) := by
  have hlength : (h :: (mqttPacketEncode body.length ++ body)).length =
      1 + (mqttPacketEncode body.length).length + body.length := by
    rw [List.length_cons, List.length_append]
    omega
  rw [filled, hlength, received, List.cons_append, List.append_assoc]

/-- Header and body are where the code looks for them. -/
theorem received_packet (h : UInt8) (body mem : List UInt8) :
    (received h body mem).headD 0 = h ∧
      ((received h body mem).drop (1 + (mqttPacketEncode body.length).length)).take body.length =
        body := by
  refine ⟨rfl, ?_⟩
  rw [received, Nat.add_comm, List.drop_succ_cons, List.drop_left, List.take_left]

/-- What is left over behind a packet in the buffer. -/
def leftOver (mem body : List UInt8) : List UInt8 :=
  mem.drop (1 + (mqttPacketEncode body.length).length + body.length)

variable {h : UInt8} {mem body : List UInt8} {Q : ℤ → Client → List Event → Prop}

/-- The end of `readPacket`. -/
theorem wlp_packetRead
    (hq : ∀ lastReceived, Q (MqttHeader.bits h).type
      { c with readbuf := received h body mem, lastReceived := lastReceived }
      (tr ++ [.received h body])) :
    (packetRead (1 + (mqttPacketEncode body.length).length) body.length).wlp Q
      { c with readbuf := received h body mem } tr := by
  obtain ⟨hhead, hbody⟩ := received_packet h body mem
  rw [packetRead, Prog.wlp_act]
  intro w
  simp only [hhead, hbody]
  split_ifs
  · exact hq _
  · exact hq c.lastReceived

theorem readResult_of_stored {w : Reply} {len : ℕ} (h : (w.stored len).length = len) :
    w.readResult len = len := by
  rw [Reply.readResult, if_pos h]

/-- A short read does not return the length asked for. -/
theorem readResult_ne {w : Reply} {len : ℕ} (h : (w.stored len).length ≠ len) (hpos : 0 < len) :
    w.readResult len ≠ len := by
  rw [Reply.readResult, if_neg h]
  cases w.failure with
  | none =>
    simp only
    omega
  | some n =>
    simp only
    omega

/-- The body is read behind the header, or the packet is refused as too long. -/
theorem wlp_readBody {remLen : ℕ} (hsize : 1 + (mqttPacketEncode remLen).length ≤ mem.length)
    (hoverflow : ∀ readbuf, readbuf.length = mem.length →
      Q bufferOverflow { c with readbuf := readbuf } tr)
    (hcut : ∀ readbuf data, readbuf.length = mem.length → data.length < remLen →
      Q 0 { c with readbuf := readbuf } (tr ++ [.read .body remLen data]))
    (hread : ∀ body es lastReceived, body.length = remLen → ReadsOnly es → consumed es = body →
      1 + (mqttPacketEncode body.length).length + body.length ≤ mem.length →
      Q (MqttHeader.bits h).type
        { c with readbuf := received h body (leftOver mem body), lastReceived := lastReceived }
        (tr ++ es ++ [.received h body])) :
    (readBody remLen).wlp Q { c with readbuf := filled mem [h] } tr := by
  have hstore : store (filled mem [h]) 1 (mqttPacketEncode remLen) =
      some (filled mem (h :: mqttPacketEncode remLen)) :=
    store_filled mem [h] (mqttPacketEncode remLen) hsize
  have hfilled : (filled mem (h :: mqttPacketEncode remLen)).length = mem.length :=
    length_filled (by rw [List.length_cons]; omega)
  unfold readBody storeLength modifyClient readClient
  simp only [Prog.wlp_bind, Prog.modify, Prog.read, Prog.wlp_act, List.append_nil, hstore,
    Option.getD_some, hfilled]
  intro _ _
  rw [Prog.wlp_ite]
  split_ifs with hlarge hpos
  · exact hoverflow _ hfilled
  · simp only [mqttread, Prog.wlp_bind, Prog.wlp_act]
    intro w
    have hstored : (w.stored remLen).length ≤ remLen := List.length_take_le ..
    have hbody : store (filled mem (h :: mqttPacketEncode remLen))
        (1 + (mqttPacketEncode remLen).length) (w.stored remLen) =
        some (filled mem (h :: (mqttPacketEncode remLen ++ w.stored remLen))) := by
      have hnext := store_filled mem (h :: mqttPacketEncode remLen) (w.stored remLen)
        (by rw [List.length_cons]; omega)
      rwa [List.length_cons, Nat.add_comm _ 1] at hnext
    rw [hbody, Option.getD_some, Prog.wlp_ite]
    by_cases hwhole : (w.stored remLen).length = remLen
    · rw [if_pos (readResult_of_stored hwhole)]
      generalize w.stored remLen = body at *
      subst hwhole
      rw [filled_received]
      apply wlp_packetRead
      intro lastReceived
      exact hread body _ lastReceived rfl (readsOnly_singleton _ _ _) (List.append_nil _)
        (by omega)
    · rw [if_neg (readResult_ne hwhole hpos)]
      refine hcut _ _ (length_filled ?_) (by omega)
      rw [List.length_cons, List.length_append]
      omega
  · obtain rfl : remLen = 0 := by omega
    have hfill := filled_received mem h []
    rw [List.append_nil, List.length_nil] at hfill
    rw [hfill]
    apply wlp_packetRead
    intro lastReceived
    have hq := hread [] [] lastReceived rfl readsOnly_nil rfl (by
      simp only [List.length_nil]
      omega)
    rwa [List.append_nil] at hq

/-- The bytes of a packet. A length field of four bytes that does not end is taken as it is. -/
def Frame (h : UInt8) (body packet : List UInt8) : Prop :=
  ∃ field, packet = h :: (field ++ body) ∧ LengthField 4 1 0 field body.length

/-- A trace with a cut read is not whole. -/
theorem not_whole_of_cut {es : List Event} {e : Event} (h : e ∈ es) (hcut : e.Cut) : ¬ Whole es :=
  fun hwhole => hwhole e h hcut

theorem readResult_le {w : Reply} {len : ℕ} (h : w.stored len = []) (hpos : 0 < len) :
    w.readResult len ≤ 0 := by
  rw [Reply.readResult, h, if_neg (by rw [List.length_nil]; omega)]
  cases w.failure with
  | none => exact Int.le_refl 0
  | some n =>
    show -(n : ℤ) ≤ 0
    omega

theorem length_received_leftOver
    (h : 1 + (mqttPacketEncode body.length).length + body.length ≤ mem.length) (header : UInt8) :
    (received header body (leftOver mem body)).length = mem.length := by
  rw [length_received, leftOver, List.length_drop]
  omega

/-- `readPacket` behind the reads of the header byte and of the length. -/
theorem wlp_readLengthAndBody {n : ℕ} {es : List Event} (hn : n < 2 ^ 28) (hes : ReadsOnly es)
    (hfield : Whole es → ∃ field, consumed es = h :: field ∧ LengthField 4 1 0 field n)
    (hlost : ∀ rc readbuf es, rc ≤ 0 → readbuf.length = c.readbuf.length → ReadsOnly es →
      (Whole es → rc < 0) → Q rc { c with readbuf := readbuf } (tr ++ es))
    (hreceived : ∀ body mem es lastReceived,
      (received h body mem).length = c.readbuf.length → body.length < 2 ^ 28 → ReadsOnly es →
      (Whole es → Frame h body (consumed es)) → Q (MqttHeader.bits h).type
        { c with readbuf := received h body mem, lastReceived := lastReceived }
        (tr ++ es ++ [.received h body])) :
    (if c.readbuf.length < 1 + (mqttPacketEncode n).length then Prog.fault
      else readBody n).wlp Q { c with readbuf := filled c.readbuf [h] } (tr ++ es) := by
  rw [Prog.wlp_ite]
  split_ifs with hsize
  · trivial
  apply wlp_readBody (not_lt.mp hsize)
  · intro readbuf hreadbuf
    exact hlost _ _ _ (by decide) hreadbuf hes fun _ => by decide
  · intro readbuf data hreadbuf hdata
    rw [List.append_assoc]
    apply hlost _ _ _ le_rfl hreadbuf (hes.append (readsOnly_singleton _ _ _))
    intro hwhole
    have hcut : Event.Cut (.read .body n data) := hdata
    exact absurd hwhole (not_whole_of_cut (List.mem_append_right _ (List.mem_singleton_self _)) hcut)
  · intro body es' lastReceived hbody hes' hconsumed hfits
    subst hbody
    rw [List.append_assoc tr]
    apply hreceived _ _ _ _ (length_received_leftOver hfits h) hn (hes.append hes')
    intro hwhole
    obtain ⟨field, hheader, hlength⟩ := hfield (whole_append.mp hwhole).1
    refine ⟨field, ?_, hlength⟩
    rw [consumed_append, hheader, hconsumed, List.cons_append]

/-- `readPacket`, as its callers use it: there is no packet, or something of a packet has been read
that cannot be used, or the packet that has been read is at the start of the buffer. -/
theorem wlp_readPacket
    (hidle : ∀ rc ≤ 0, Q rc c (tr ++ [.read .header 1 []]))
    (hlost : ∀ rc readbuf es, rc ≤ 0 → readbuf.length = c.readbuf.length → ReadsOnly es →
      (Whole es → rc < 0) → Q rc { c with readbuf := readbuf } (tr ++ es))
    (hreceived : ∀ h body mem es lastReceived,
      (received h body mem).length = c.readbuf.length → body.length < 2 ^ 28 → ReadsOnly es →
      (Whole es → Frame h body (consumed es)) → Q (MqttHeader.bits h).type
        { c with readbuf := received h body mem, lastReceived := lastReceived }
        (tr ++ es ++ [.received h body])) :
    readPacket.wlp Q c tr := by
  unfold readPacket
  simp only [readClient, Prog.read, Prog.wlp_bind, Prog.wlp_act, List.append_nil]
  intro _
  rw [Prog.wlp_ite]
  split_ifs with hempty
  · trivial
  simp only [mqttread, Prog.wlp_bind, Prog.wlp_act]
  intro w
  have hlength : (w.stored 1).length ≤ 1 := List.length_take_le ..
  cases hstored : w.stored 1 with
  | nil =>
    have hle := readResult_le hstored (by omega)
    rw [if_pos (by omega)]
    have hstore : store c.readbuf 0 [] = some c.readbuf :=
      store_filled c.readbuf [] [] (Nat.zero_le _)
    rw [hstore]
    exact hidle _ hle
  | cons h rest =>
    obtain rfl : rest = [] := by
      rw [hstored, List.length_cons] at hlength
      exact List.length_eq_zero_iff.mp (by omega)
    have hone : w.readResult 1 = 1 := readResult_of_stored (by rw [hstored]; rfl)
    have hstore : store c.readbuf 0 [h] = some (filled c.readbuf [h]) :=
      store_filled c.readbuf [] [h] (by simp only [List.length_nil, List.length_singleton]; omega)
    rw [if_neg (by omega), hstore, Option.getD_some, Prog.wlp_bind]
    have hheader := readsOnly_singleton .header 1 [h]
    apply wlp_decodePacket
    · intro field n hfield hbound
      rw [List.append_assoc]
      apply wlp_readLengthAndBody (by rw [LengthBound] at hbound; omega)
        (hheader.append (readsOnly_fieldReads field)) _ hlost (hreceived h)
      intro _
      refine ⟨field, ?_, hfield⟩
      rw [consumed_append, consumed_fieldReads]
      rfl
    · intro field n hbound
      rw [List.append_assoc, List.append_assoc]
      apply wlp_readLengthAndBody (by rw [LengthBound] at hbound; omega)
        (hheader.append ((readsOnly_fieldReads field).append (readsOnly_singleton _ _ _))) _ hlost
        (hreceived h)
      intro hwhole
      have hcut : Event.Cut (.read .length 1 []) := Nat.zero_lt_one
      rw [← List.append_assoc] at hwhole
      exact absurd hcut (hwhole _ (List.mem_append_right _ (List.mem_singleton_self _)))

end ZohoIotSdk.Paho
