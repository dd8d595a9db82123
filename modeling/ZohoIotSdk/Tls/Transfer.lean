import ZohoIotSdk.Machine.Integers
import ZohoIotSdk.Machine.Memory
import ZohoIotSdk.Machine.Transfer

/-!
# `tls_read` and `tls_write`

The two loops of `tls_network.c` around `mbedtls_ssl_read` and `mbedtls_ssl_write`, which may move
fewer bytes than they are asked for. What the calls return is an argument, and so is the stream
of bytes that arrives.

`tlsTransfer_spec`: however the stream is cut into pieces, reading stores a part of it from its
beginning at the start of the buffer, writing hands over a part of the buffer from its beginning,
and the result is the length of that part or -1.
-/

namespace ZohoIotSdk

open Machine

/-- `MBEDTLS_ERR_NET_RECV_FAILED` -/
def netRecvFailed : ℤ := -0x004C

/-! ## `tls_read` -/

/-- The seconds and microseconds that `tls_read` sets as `SO_RCVTIMEO`. -/
def recvTimeout (timeoutMs : ℤ) : ℤ × ℤ :=
  let sec := timeoutMs.tdiv 1000
  let usec := timeoutMs.tmod 1000 * 1000
  if sec < 0 ∨ (sec = 0 ∧ usec ≤ 0) then (0, 100) else (sec, usec)

/-- The state of the loop of `tls_read`; `turn` counts the calls and `consumed` the bytes of the
stream that they have delivered. -/
structure TlsReadState where
  bytes : ℤ
  buffer : List UInt8
  turn : ℕ
  consumed : ℕ
deriving DecidableEq

/-- What `tls_read` leaves: the timeout of the socket, the buffer and the value returned. -/
structure TlsRead where
  timeout : ℤ × ℤ
  buffer : List UInt8
  rc : ℤ
deriving DecidableEq

/-- A turn of the loop of `tls_read`. The library stores what it delivers at `&buffer[bytes]`. -/
def tlsReadStep (results : Results) (incoming : ℕ → UInt8) (len : ℤ) (s : TlsReadState) :
    Option (TlsReadState ⊕ TlsReadState) :=
  if s.bytes < len then
    (checked 32 (len - s.bytes)).bind fun left =>
      let rc := results.rc s.turn (toUnsigned 64 left)
      if rc = 0 ∨ rc = netRecvFailed then some (.inr s)
      else if rc < 0 then some (.inr { s with bytes := -1 })
      else
        (store s.buffer s.bytes.toNat (streamSlice incoming s.consumed rc.toNat)).bind fun buffer =>
          (checked 32 (s.bytes + rc)).map fun bytes =>
            .inl { bytes := bytes, buffer := buffer, turn := s.turn + 1,
                   consumed := s.consumed + rc.toNat }
  else some (.inr s)

/-- `tls_read`. There is no result where the loop would leave the buffer or the range of `int`, or
would take more turns than there are bytes to read. -/
def tlsRead (results : Results) (incoming : ℕ → UInt8) (buffer : List UInt8) (len timeoutMs : ℤ) :
    Option TlsRead :=
  (loop (tlsReadStep results incoming len) (len.toNat + 1)
    { bytes := 0, buffer := buffer, turn := 0, consumed := 0 }).map fun s =>
      { timeout := recvTimeout timeoutMs, buffer := s.buffer, rc := s.bytes }

/-! ## `tls_write` -/

/-- The state of the loop of `tls_write`; `sent` is what the library has taken. -/
structure TlsWriteState where
  writtenLength : ℕ
  sent : List UInt8
  turn : ℕ
deriving DecidableEq

/-- What `tls_write` has handed over, and the value returned. -/
structure TlsWrite where
  sent : List UInt8
  rc : ℤ
deriving DecidableEq

/-- A turn of the loop of `tls_write`. The lengths are of type `size_t`; the library is shown
`len - writtenLength` bytes from `buffer + writtenLength` on, and takes the first `rc` of them. -/
def tlsWriteStep (results : Results) (buffer : List UInt8) (len : ℤ) (s : TlsWriteState) :
    Option (TlsWriteState ⊕ TlsWrite) :=
  if s.writtenLength < toUnsigned 64 len then
    let size := toUnsigned 64 ((toUnsigned 64 len : ℤ) - s.writtenLength)
    (load buffer s.writtenLength size).map fun shown =>
      let rc := results.rc s.turn size
      if 0 < rc then
        .inl { writtenLength := toUnsigned 64 (s.writtenLength + rc),
               sent := s.sent ++ shown.take rc.toNat, turn := s.turn + 1 }
      else if rc = 0 then .inr { sent := s.sent, rc := toSigned 32 s.writtenLength }
      else .inr { sent := s.sent, rc := -1 }
  else some (.inr { sent := s.sent, rc := toSigned 32 s.writtenLength })

/-- `tls_write`. -/
def tlsWrite (results : Results) (buffer : List UInt8) (len : ℤ) : Option TlsWrite :=
  loop (tlsWriteStep results buffer len) (len.toNat + 1)
    { writtenLength := 0, sent := [], turn := 0 }

/-! ## What a transfer comes to -/

section Transfer

variable {results : Results} {incoming : ℕ → UInt8} {buffer : List UInt8} {n t : ℕ}

/-- What is returned by a read that ends after `t` calls that deliver something. -/
inductive ReadReturns (results : Results) (n t : ℕ) : ℤ → Prop where
  | full (h : results.position n t = n) : ReadReturns results n t n
  | stopped (h : results.position n t < n)
      (hrc : results.next n t = 0 ∨ results.next n t = netRecvFailed) :
      ReadReturns results n t (results.position n t)
  | failed (h : results.position n t < n) (hrc : results.next n t < 0)
      (hother : results.next n t ≠ netRecvFailed) : ReadReturns results n t (-1)

/-- What is returned by a write that ends after `t` calls that take something. -/
inductive WriteReturns (results : Results) (n t : ℕ) : ℤ → Prop where
  | full (h : results.position n t = n) : WriteReturns results n t n
  | stopped (h : results.position n t < n) (hrc : results.next n t = 0) :
      WriteReturns results n t (results.position n t)
  | failed (h : results.position n t < n) (hrc : results.next n t < 0) :
      WriteReturns results n t (-1)

/-- The state of the read after `t` calls that deliver something. -/
def readState (results : Results) (incoming : ℕ → UInt8) (buffer : List UInt8) (n t : ℕ) :
    TlsReadState :=
  { bytes := results.position n t, turn := t, consumed := results.position n t,
    buffer := filled buffer (streamTake incoming (results.position n t)) }

/-- The state of the write after `t` calls that take something. -/
def writeState (results : Results) (buffer : List UInt8) (n t : ℕ) : TlsWriteState :=
  { writtenLength := results.position n t, sent := buffer.take (results.position n t), turn := t }

/-! ### Reading -/

/-- The turn of a call of the read loop, by what the call returns. -/
theorem tlsReadStep_eq (hmax : n < 2 ^ 31) (hlt : results.position n t < n) :
    tlsReadStep results incoming n (readState results incoming buffer n t) =
      if results.next n t = 0 ∨ results.next n t = netRecvFailed then
        some (.inr (readState results incoming buffer n t))
      else if results.next n t < 0 then
        some (.inr { readState results incoming buffer n t with bytes := -1 })
      else
        (store (filled buffer (streamTake incoming (results.position n t))) (results.position n t)
          (streamSlice incoming (results.position n t) (results.next n t).toNat)).bind fun after =>
            (checked 32 (results.position n t + results.next n t)).map fun bytes =>
              .inl { bytes := bytes, buffer := after, turn := t + 1,
                     consumed := results.position n t + (results.next n t).toNat } := by
  have hmissing : checked 32 ((n : ℤ) - results.position n t) =
      some ((n : ℤ) - results.position n t) := by
    apply checked_of_inSigned
    rw [← Nat.cast_sub hlt.le]
    exact inSigned_natCast (lt_of_le_of_lt (Nat.sub_le ..) hmax)
  have hword : n < 2 ^ 64 := by omega
  have hbytes : (results.position n t : ℤ) < n := by omega
  rw [tlsReadStep, readState, if_pos hbytes, hmissing, Option.bind_some,
    toUnsigned_sub hlt.le hword]
  rfl

/-- A call that delivers something. -/
theorem tlsReadStep_of_pos (hmax : n < 2 ^ 31) (hroom : n ≤ buffer.length)
    (hlt : results.position n t < n) (hpos : 0 < results.next n t) :
    tlsReadStep results incoming n (readState results incoming buffer n t) =
      some (.inl (readState results incoming buffer n (t + 1))) := by
  have hsucc := results.position_succ n t
  have hle := results.position_le n (t + 1)
  have hother : ¬ (results.next n t = 0 ∨ results.next n t = netRecvFailed) := by
    unfold netRecvFailed
    omega
  have hfill := store_filled buffer (streamTake incoming (results.position n t))
    (streamSlice incoming (results.position n t) (results.next n t).toNat)
    (by rw [length_streamTake, length_streamSlice]; omega)
  rw [length_streamTake, ← streamTake_add, ← hsucc] at hfill
  have hbytes : (results.position n t : ℤ) + results.next n t = results.position n (t + 1) := by
    omega
  rw [tlsReadStep_eq hmax hlt, if_neg hother, if_neg (by omega), hfill, Option.bind_some, hbytes,
    checked_of_inSigned (inSigned_natCast (lt_of_le_of_lt hle hmax)), ← hsucc]
  rfl

/-- The read loop ends at the first result that stops it. -/
theorem tlsRead_eq (incoming : ℕ → UInt8) (hmax : n < 2 ^ 31) (hroom : n ≤ buffer.length)
    (timeoutMs : ℤ) (hstops : results.StopsAt n t) :
    ∃ rc, ReadReturns results n t rc ∧ tlsRead results incoming buffer n timeoutMs =
      some { timeout := recvTimeout timeoutMs, rc := rc,
             buffer := filled buffer (streamTake incoming (results.position n t)) } := by
  obtain ⟨hreaches, hends⟩ := hstops
  have hsteps : ∀ i < t, tlsReadStep results incoming n (readState results incoming buffer n i) =
      some (.inl (readState results incoming buffer n (i + 1))) := by
    intro i hi
    obtain ⟨hlt, hpos⟩ := hreaches i hi
    exact tlsReadStep_of_pos hmax hroom hlt hpos
  have hrun : ∀ last, tlsReadStep results incoming n (readState results incoming buffer n t) =
      some (.inr last) → tlsRead results incoming buffer n timeoutMs =
        some { timeout := recvTimeout timeoutMs, buffer := last.buffer, rc := last.bytes } := by
    intro last hlast
    have hloop := loop_of_states _ hsteps hlast (Nat.lt_succ_of_le hreaches.le)
    rw [tlsRead, Int.toNat_natCast]
    exact congrArg (Option.map _) hloop
  rcases hends with hfull | ⟨hlt, hnext⟩
  · refine ⟨n, .full hfull, ?_⟩
    have hdone : ¬ (results.position n t : ℤ) < n := by omega
    rw [hrun (readState results incoming buffer n t) (by rw [tlsReadStep, readState, if_neg hdone])]
    simp only [readState, hfull]
  · by_cases hstop : results.next n t = 0 ∨ results.next n t = netRecvFailed
    · refine ⟨_, .stopped hlt hstop, ?_⟩
      rw [hrun _ (by rw [tlsReadStep_eq hmax hlt, if_pos hstop])]
      rfl
    · have hneg : results.next n t < 0 := by omega
      refine ⟨-1, .failed hlt hneg fun heq => hstop (.inr heq), ?_⟩
      rw [hrun _ (by rw [tlsReadStep_eq hmax hlt, if_neg hstop, if_pos hneg])]
      rfl

/-! ### Writing -/

/-- The turn of a call of the write loop, by what the call returns. -/
theorem tlsWriteStep_eq (hmax : n < 2 ^ 31) (hroom : n ≤ buffer.length)
    (hlt : results.position n t < n) :
    tlsWriteStep results buffer n (writeState results buffer n t) =
      if 0 < results.next n t then some (.inl (writeState results buffer n (t + 1)))
      else if results.next n t = 0 then
        some (.inr { sent := buffer.take (results.position n t), rc := results.position n t })
      else some (.inr { sent := buffer.take (results.position n t), rc := -1 }) := by
  have hload : load buffer (results.position n t) (n - results.position n t) =
      some ((buffer.drop (results.position n t)).take (n - results.position n t)) := by
    rw [load, if_pos (by omega)]
  have hword : n < 2 ^ 64 := by omega
  rw [tlsWriteStep, writeState, toUnsigned_natCast hword, if_pos hlt,
    toUnsigned_sub hlt.le hword]
  dsimp only
  rw [hload, Option.map_some, show results.rc t (n - results.position n t) = results.next n t
    from rfl]
  by_cases hpos : 0 < results.next n t
  · have hsucc := results.position_succ n t
    have hnext := results.next_le n t
    have hle := results.position_le n (t + 1)
    have hwritten : toUnsigned 64 (results.position n t + results.next n t) =
        results.position n (t + 1) := by
      have hsum : (results.position n t : ℤ) + results.next n t = results.position n (t + 1) := by
        omega
      rw [hsum, toUnsigned_natCast (by omega)]
    have hsent : buffer.take (results.position n t) ++
        ((buffer.drop (results.position n t)).take (n - results.position n t)).take
          (results.next n t).toNat = buffer.take (results.position n (t + 1)) := by
      rw [List.take_take, Nat.min_eq_left (by omega), hsucc, List.take_add]
    rw [if_pos hpos, if_pos hpos, hwritten, hsent]
    rfl
  · have hsmall : results.position n t < 2 ^ 31 := hlt.trans hmax
    rw [if_neg hpos, if_neg hpos, toSigned_natCast (by decide) hsmall]
    by_cases hzero : results.next n t = 0
    · rw [if_pos hzero, if_pos hzero]
    · rw [if_neg hzero, if_neg hzero]

/-- The write loop ends at the first result that stops it. -/
theorem tlsWrite_eq (hmax : n < 2 ^ 31) (hroom : n ≤ buffer.length)
    (hstops : results.StopsAt n t) :
    ∃ rc, WriteReturns results n t rc ∧ tlsWrite results buffer n =
      some { sent := buffer.take (results.position n t), rc := rc } := by
  obtain ⟨hreaches, hends⟩ := hstops
  have hsteps : ∀ i < t, tlsWriteStep results buffer n (writeState results buffer n i) =
      some (.inl (writeState results buffer n (i + 1))) := by
    intro i hi
    obtain ⟨hlt, hpos⟩ := hreaches i hi
    rw [tlsWriteStep_eq hmax hroom hlt, if_pos hpos]
  have hrun : ∀ last, tlsWriteStep results buffer n (writeState results buffer n t) =
      some (.inr last) → tlsWrite results buffer n = some last := by
    intro last hlast
    have hloop := loop_of_states _ hsteps hlast (Nat.lt_succ_of_le hreaches.le)
    rw [tlsWrite, Int.toNat_natCast]
    exact hloop
  rcases hends with hfull | ⟨hlt, hnext⟩
  · refine ⟨n, .full hfull, hrun _ ?_⟩
    have hword : n < 2 ^ 64 := by omega
    rw [tlsWriteStep, writeState, toUnsigned_natCast hword, hfull, if_neg (lt_irrefl n),
      toSigned_natCast (by decide) hmax]
  · by_cases hzero : results.next n t = 0
    · refine ⟨_, .stopped hlt hzero, hrun _ ?_⟩
      rw [tlsWriteStep_eq hmax hroom hlt, if_neg (by omega), if_pos hzero]
    · refine ⟨-1, .failed hlt (by omega), hrun _ ?_⟩
      rw [tlsWriteStep_eq hmax hroom hlt, if_neg (by omega), if_neg hzero]

/-! ## Both -/

section Pieces

variable {results' : Results} {t' : ℕ} {rc timeoutMs : ℤ}

/-- A read that does not fail returns what has been read. -/
theorem ReadReturns.eq_position (h : ReadReturns results n t rc) (hrc : 0 ≤ rc) :
    rc = results.position n t := by
  cases h with
  | full hfull => rw [hfull]
  | stopped => rfl
  | failed => exact absurd hrc (by decide)

/-- A write that does not fail returns what has been written. -/
theorem WriteReturns.eq_position (h : WriteReturns results n t rc) (hrc : 0 ≤ rc) :
    rc = results.position n t := by
  cases h with
  | full hfull => rw [hfull]
  | stopped => rfl
  | failed => exact absurd hrc (by decide)

/-- What is returned says how far the read has come. -/
theorem ReadReturns.position_eq (h : ReadReturns results n t rc)
    (h' : ReadReturns results' n t' rc) (hrc : 0 ≤ rc) :
    results.position n t = results'.position n t' := by
  have hleft := h.eq_position hrc
  have hright := h'.eq_position hrc
  omega

/-- What is returned says how far the write has come. -/
theorem WriteReturns.position_eq (h : WriteReturns results n t rc)
    (h' : WriteReturns results' n t' rc) (hrc : 0 ≤ rc) :
    results.position n t = results'.position n t' := by
  have hleft := h.eq_position hrc
  have hright := h'.eq_position hrc
  omega

/-- Every read comes to its end. -/
theorem tlsRead_returns (hmax : n < 2 ^ 31) (hroom : n ≤ buffer.length) (timeoutMs : ℤ)
    (results : Results) (incoming : ℕ → UInt8) :
    ∃ t rc, results.Reaches n t ∧ ReadReturns results n t rc ∧
      tlsRead results incoming buffer n timeoutMs =
        some { timeout := recvTimeout timeoutMs, rc := rc,
               buffer := streamTake incoming (results.position n t) ++
                 buffer.drop (results.position n t) } := by
  obtain ⟨t, hstops⟩ := results.exists_stopsAt n
  obtain ⟨rc, hreturns, heq⟩ := tlsRead_eq incoming hmax hroom timeoutMs hstops
  refine ⟨t, rc, hstops.1, hreturns, ?_⟩
  rw [heq, filled, length_streamTake]

/-- Every write comes to its end. -/
theorem tlsWrite_returns (hmax : n < 2 ^ 31) (hroom : n ≤ buffer.length) (results : Results) :
    ∃ t rc, results.Reaches n t ∧ WriteReturns results n t rc ∧
      tlsWrite results buffer n =
        some { sent := buffer.take (results.position n t), rc := rc } := by
  obtain ⟨t, hstops⟩ := results.exists_stopsAt n
  obtain ⟨rc, hreturns, heq⟩ := tlsWrite_eq hmax hroom hstops
  exact ⟨t, rc, hstops.1, hreturns, heq⟩

/-- How the stream is cut does not matter for a read. -/
theorem tlsRead_pieces (hmax : n < 2 ^ 31) (hroom : n ≤ buffer.length) {after after' : TlsRead}
    (h : tlsRead results incoming buffer n timeoutMs = some after)
    (h' : tlsRead results' incoming buffer n timeoutMs = some after')
    (hnonneg : 0 ≤ after.rc) (hrc : after.rc = after'.rc) : after = after' := by
  obtain ⟨t, rc, -, hreturns, heq⟩ := tlsRead_returns hmax hroom timeoutMs results incoming
  obtain ⟨t', rc', -, hreturns', heq'⟩ := tlsRead_returns hmax hroom timeoutMs results' incoming
  obtain rfl := Option.some.inj (h.symm.trans heq)
  obtain rfl := Option.some.inj (h'.symm.trans heq')
  obtain rfl : rc = rc' := hrc
  rw [hreturns.position_eq hreturns' hnonneg]

/-- How the buffer is cut does not matter for a write. -/
theorem tlsWrite_pieces (hmax : n < 2 ^ 31) (hroom : n ≤ buffer.length) {after after' : TlsWrite}
    (h : tlsWrite results buffer n = some after) (h' : tlsWrite results' buffer n = some after')
    (hnonneg : 0 ≤ after.rc) (hrc : after.rc = after'.rc) : after = after' := by
  obtain ⟨t, rc, -, hreturns, heq⟩ := tlsWrite_returns hmax hroom results
  obtain ⟨t', rc', -, hreturns', heq'⟩ := tlsWrite_returns hmax hroom results'
  obtain rfl := Option.some.inj (h.symm.trans heq)
  obtain rfl := Option.some.inj (h'.symm.trans heq')
  obtain rfl : rc = rc' := hrc
  rw [hreturns.position_eq hreturns' hnonneg]

end Pieces

end Transfer

/-- For a buffer with room for `len` bytes and any results: what has arrived is stored at its
start, what has been sent is its start, up to where the transfer ends, and what is returned is
how far that is, or -1 after a failure. Two ways to cut the stream into pieces that return the
same number do the same. -/
theorem tlsTransfer_spec {buffer : List UInt8} {len : ℤ} (hlen : 0 ≤ len) (hmax : len < 2 ^ 31)
    (hroom : len ≤ buffer.length) (timeoutMs : ℤ) :
    (∀ results incoming, ∃ t rc, results.Reaches len.toNat t ∧ ReadReturns results len.toNat t rc ∧
      tlsRead results incoming buffer len timeoutMs =
        some { timeout := recvTimeout timeoutMs, rc := rc,
               buffer := streamTake incoming (results.position len.toNat t) ++
                 buffer.drop (results.position len.toNat t) }) ∧
    (∀ results, ∃ t rc, results.Reaches len.toNat t ∧ WriteReturns results len.toNat t rc ∧
      tlsWrite results buffer len =
        some { sent := buffer.take (results.position len.toNat t), rc := rc }) ∧
    (∀ results results' incoming after after',
      tlsRead results incoming buffer len timeoutMs = some after →
      tlsRead results' incoming buffer len timeoutMs = some after' →
      0 ≤ after.rc → after.rc = after'.rc → after = after') ∧
    ∀ results results' after after', tlsWrite results buffer len = some after →
      tlsWrite results' buffer len = some after' → 0 ≤ after.rc → after.rc = after'.rc →
      after = after' := by
  obtain ⟨n, rfl⟩ := Int.eq_ofNat_of_zero_le hlen
  have hmax' : n < 2 ^ 31 := by omega
  have hroom' : n ≤ buffer.length := by omega
  rw [Int.toNat_natCast]
  refine ⟨tlsRead_returns hmax' hroom' timeoutMs, tlsWrite_returns hmax' hroom', ?_, ?_⟩
  · intro results results' incoming after after' h h' hnonneg hrc
    exact tlsRead_pieces hmax' hroom' h h' hnonneg hrc
  · intro results results' after after' h h' hnonneg hrc
    exact tlsWrite_pieces hmax' hroom' h h' hnonneg hrc

/-- Pieces of at most `k` bytes. -/
def inPieces (k : ℕ) : Results where
  rc _ size := min k size
  rc_le _ _ := min_le_right ..

/-- Three bytes, in one piece or in two, into a buffer of four. -/
theorem three_bytes_read :
    tlsRead (inPieces 2) Nat.toUInt8 [7, 7, 7, 7] 3 500 =
      some { timeout := (0, 500000), buffer := [0, 1, 2, 7], rc := 3 } ∧
    tlsRead (inPieces 3) Nat.toUInt8 [7, 7, 7, 7] 3 500 =
      some { timeout := (0, 500000), buffer := [0, 1, 2, 7], rc := 3 } := by
  have hpairs : tlsRead (inPieces 2) Nat.toUInt8 [7, 7, 7, 7] 3 500 =
      some { timeout := (0, 500000), buffer := [0, 1, 2, 7], rc := 3 } := by decide
  obtain ⟨hread, -, hsame, -⟩ := @tlsTransfer_spec [7, 7, 7, 7] 3 (by decide) (by decide)
    (by decide) 500
  obtain ⟨t, rc, -, -, hwhole⟩ := hread (inPieces 3) Nat.toUInt8
  have hrc : (tlsRead (inPieces 3) Nat.toUInt8 [7, 7, 7, 7] 3 500).map TlsRead.rc = some 3 := by
    decide
  rw [hwhole, Option.map_some, Option.some.injEq] at hrc
  have hequal := hsame _ _ _ _ _ hpairs hwhole (by decide) hrc.symm
  exact ⟨hpairs, by rw [hwhole, ← hequal]⟩

end ZohoIotSdk
