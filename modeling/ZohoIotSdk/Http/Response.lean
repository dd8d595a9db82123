import ZohoIotSdk.Client.Ack
import ZohoIotSdk.Machine.Integers
import ZohoIotSdk.Machine.Memory
import ZohoIotSdk.Machine.Transfer
import ZohoIotSdk.Text.Buffer

/-!
# The response of the HTTP server

How `http_post` reads a response: the header byte by byte into `header_buf`, then as much of the
body as the `Content-Length` of the header says into a buffer of that size. The bytes come from
`BIO_read`, which delivers them in pieces of its own choice.

`readResponse_isSome`: whatever is delivered, no byte is stored or read outside the two buffers.
`readResponse_exact`: the text that is passed on is the stream up to the end of that body, whatever
the pieces are.
-/

namespace ZohoIotSdk

open Machine Text

/-! ## The connection -/

/-- What the calls of `BIO_read` return, by their number, the size they are asked for and the
number of bytes that remain. -/
structure BioReads where
  rc : ℕ → ℕ → ℕ → ℤ
  rc_le_size : ∀ turn size remaining, rc turn size remaining ≤ size
  rc_le_remaining : ∀ turn size remaining, rc turn size remaining ≤ remaining

/-- Calls that deliver something as long as bytes remain. -/
structure Splitting extends BioReads where
  moves : ∀ {turn size remaining : ℕ}, 0 < size → 0 < remaining → 0 < rc turn size remaining

/-- A connection: the number of the next `BIO_read`, and the bytes that have not been read. -/
structure Bio where
  turn : ℕ
  remaining : CString
deriving DecidableEq

/-- What `BIO_read` returns, the bytes that it delivers, and the connection afterwards. -/
structure BioRead where
  n : ℤ
  bytes : CString
  bio : Bio

/-- `BIO_read`. -/
def bioRead (reads : BioReads) (size : ℕ) (bio : Bio) : BioRead :=
  let n := reads.rc bio.turn size bio.remaining.length
  { n := n, bytes := bio.remaining.take n.toNat,
    bio := { turn := bio.turn + 1, remaining := bio.remaining.drop n.toNat } }

/-! ## Searching the header -/

/-- The text in a buffer; there is none without a terminator. -/
def bufferText (mem : List Char) : CStringPtr := if '\x00' ∈ mem then some (cstr mem) else none

/-- `strcasestr`: the string from the first occurrence on. -/
def strcasestr (needle : CString) : CString → CStringPtr
  | [] => if needle = [] then some [] else none
  | c :: rest =>
    if eqIgnoreCase ((c :: rest).take needle.length) needle then some (c :: rest)
    else strcasestr needle rest

/-- `atol`: the value of the digits, kept within the range of `long`. -/
def atol (s : CString) : ℤ := max (-2 ^ 63) (min (2 ^ 63 - 1) (atoi s))

def contentLengthKey : CString := "content-length:".toList

/-- The end of a header. -/
def headerEnd : CString := "\r\n\r\n".toList

/-- `content_length`, from the text in `header_buf`. -/
def contentLength (header : CString) : ℤ :=
  match strcasestr contentLengthKey header with
  | some found => atol (found.drop 15)
  | none => -1

/-- `alloc_size`. -/
def allocSize (total : ℕ) (contentLength : ℤ) : ℕ :=
  if contentLength > 0 ∧ contentLength ≤ 65536 then total + contentLength.toNat + 1
  else total + 8192

/-! ## Reading -/

/-- A buffer, how much of it has been filled, and the connection. -/
structure ReadState where
  mem : List Char
  total : ℤ
  bio : Bio
deriving DecidableEq

/-- A turn of the loop that reads the header. -/
def readHeaderStep (reads : BioReads) (s : ReadState) : Option (ReadState ⊕ ReadState) :=
  if s.total < 2048 - 1 then
    let read := bioRead reads 1 s.bio
    if read.n ≤ 0 then some (.inr { s with bio := read.bio })
    else
      (store s.mem s.total.toNat read.bytes).bind fun mem =>
        (checked 32 (s.total + read.n)).bind fun total =>
          let next : ReadState := { mem := mem, total := total, bio := read.bio }
          if total ≥ 4 then
            (load mem (total - 4).toNat 4).map fun last =>
              if last = headerEnd then .inr next else .inl next
          else some (.inl next)
  else some (.inr s)

/-- A turn of the loop that reads the body; `size` is `alloc_size`. -/
def readBodyStep (reads : BioReads) (size : ℕ) (s : ReadState) : Option (ReadState ⊕ ReadState) :=
  if s.total < toSigned 32 (toUnsigned 64 ((size : ℤ) - 1)) then
    let read := bioRead reads (toSigned 32 (toUnsigned 64 ((size : ℤ) - 1 - s.total))).toNat s.bio
    if read.n ≤ 0 then some (.inr { s with bio := read.bio })
    else
      (store s.mem s.total.toNat read.bytes).bind fun mem =>
        (checked 32 (s.total + read.n)).map fun total =>
          .inl { mem := mem, total := total, bio := read.bio }
  else some (.inr s)

/-- The header: `header_buf`, how much of it has been read, and the connection. -/
def readHeader (reads : BioReads) (bio : Bio) : Option ReadState :=
  loop (readHeaderStep reads) 2048 { mem := List.replicate 2048 '\x00', total := 0, bio := bio }

/-- The rest of a response, into a buffer that begins with the header: the text for
`parse_http_response`. -/
def readBody (reads : BioReads) (header : ReadState) (size : ℕ) : Option CString :=
  (load header.mem 0 header.total.toNat).bind fun bytes =>
    (store (List.replicate size '\x00') 0 bytes).bind fun mem =>
      (loop (readBodyStep reads size) (size + 1) { header with mem := mem }).bind fun body =>
        (store body.mem body.total.toNat ['\x00']).bind bufferText

/-- The text that `http_post` passes to `parse_http_response`. Without memory for the buffer none
is passed; there is no result at all where a byte would be read or stored outside a buffer. -/
def readResponse (reads : BioReads) (allocated : Bool) (bio : Bio) : Option CStringPtr :=
  (readHeader reads bio).bind fun header =>
    (bufferText header.mem).bind fun text =>
      if allocated then
        (readBody reads header (allocSize header.total.toNat (contentLength text))).map some
      else some none

/-! ## How far it reads -/

/-- A header ends with the first `n` bytes of the stream. -/
def EndsHeader (stream : CString) (n : ℕ) : Prop := headerEnd <:+ stream.take n

instance (stream : CString) (n : ℕ) : Decidable (EndsHeader stream n) :=
  inferInstanceAs (Decidable (_ <:+ _))

/-- The length of the header: the shortest part of the stream that ends one, if it has at most
2047 bytes, and otherwise as much as there is of these. -/
def headerLength (stream : CString) : ℕ :=
  ((List.range 2048).find? fun n => decide (EndsHeader stream n)).getD (min 2047 stream.length)

/-- The bytes that are read behind a header. -/
def bodyLength (header : CString) : ℕ :=
  if 1 ≤ contentLength header ∧ contentLength header ≤ 65536 then (contentLength header).toNat
  else 8191

/-- The header is read up to its end, or up to the bound when there is none. -/
theorem headerLength_cases (stream : CString) :
    (EndsHeader stream (headerLength stream) ∧ headerLength stream ≤ 2047 ∧
      ∀ n < headerLength stream, ¬ EndsHeader stream n) ∨
    (headerLength stream = min 2047 stream.length ∧ ∀ n ≤ 2047, ¬ EndsHeader stream n) := by
  cases hfind : (List.range 2048).find? fun n => decide (EndsHeader stream n) with
  | some h =>
    have hlength : headerLength stream = h := by rw [headerLength, hfind, Option.getD_some]
    obtain ⟨hends, hmem, hfirst⟩ := List.find?_range_eq_some.mp hfind
    rw [hlength]
    refine .inl ⟨of_decide_eq_true hends, ?_, fun n hn => ?_⟩
    · have := List.mem_range.mp hmem
      omega
    · simpa using hfirst n hn
  | none =>
    have hlength : headerLength stream = min 2047 stream.length := by
      rw [headerLength, hfind, Option.getD_none]
    refine .inr ⟨hlength, fun n hn => ?_⟩
    have hnone := List.find?_range_eq_none.mp hfind n (by omega)
    simpa using hnone

/-- The header is a part of the stream. -/
theorem headerLength_le (stream : CString) : headerLength stream ≤ stream.length := by
  rcases headerLength_cases stream with ⟨hends, -, hfirst⟩ | ⟨hmin, -⟩
  · -- otherwise the stream itself would end in the same way
    by_contra hlong
    have hwhole : stream.take stream.length = stream.take (headerLength stream) := by
      rw [List.take_length, List.take_of_length_le (by omega)]
    exact hfirst stream.length (by omega) (by rwa [EndsHeader, hwhole])
  · omega

theorem allocSize_eq (total : ℕ) (header : CString) :
    allocSize total (contentLength header) = total + bodyLength header + 1 := by
  unfold allocSize bodyLength
  split
  · rename_i h
    rw [if_pos ⟨by omega, h.2⟩]
  · rename_i h
    rw [if_neg fun h' => h ⟨by omega, h'.2⟩]

/-- The length of the body is bounded. -/
theorem bodyLength_le (header : CString) : bodyLength header ≤ 65536 := by
  unfold bodyLength
  split
  · omega
  · omega

/-! ## The header -/

section Reading

variable {reads : BioReads} {splitting : Splitting} {stream : CString} {mem : List Char}
  {turn t limit : ℕ}

/-- Both loops after `t` bytes of the stream. -/
def responseState (mem : List Char) (stream : CString) (turn t : ℕ) : ReadState :=
  { mem := filled mem (stream.take t), total := t,
    bio := { turn := turn, remaining := stream.drop t } }

/-- Whether the last four bytes are the end of a header. -/
theorem load_headerEnd_iff {n : ℕ} (hlength : n ≤ stream.length) (hn : 4 ≤ n) :
    load (filled mem (stream.take n)) (n - 4) 4 = some headerEnd ↔ EndsHeader stream n := by
  have htake : (stream.take n).length = n := List.length_take_of_le hlength
  have hroom : n - 4 + 4 ≤ (filled mem (stream.take n)).length := by
    rw [filled, List.length_append, htake]
    omega
  have hlast :
      ((filled mem (stream.take n)).drop (n - 4)).take 4 = (stream.take n).drop (n - 4) := by
    rw [filled, List.drop_append_of_le_length (by omega), List.take_append_of_le_length
      (by rw [List.length_drop]; omega), List.take_of_length_le (by rw [List.length_drop]; omega)]
  rw [load, if_pos hroom, hlast, Option.some.injEq, EndsHeader, List.suffix_iff_eq_drop, htake,
    show headerEnd.length = 4 by decide, eq_comm]

/-- An end of the header is four bytes long. -/
theorem EndsHeader.four_le {n : ℕ} (h : EndsHeader stream n) : 4 ≤ n := by
  have hle := h.length_le
  rw [List.length_take, show headerEnd.length = 4 by decide] at hle
  omega

/-- A turn of the loop that reads the header, by what `BIO_read` returns. -/
theorem readHeaderStep_eq (hmem : mem.length = 2048) (hsize : t < 2047)
    (hlength : t ≤ stream.length) :
    readHeaderStep reads (responseState mem stream turn t) =
      some (if reads.rc turn 1 (stream.length - t) ≤ 0 then
        .inr (responseState mem stream (turn + 1) t)
      else if EndsHeader stream (t + 1) then .inr (responseState mem stream (turn + 1) (t + 1))
      else .inl (responseState mem stream (turn + 1) (t + 1))) := by
  have hone := reads.rc_le_size turn 1 (stream.length - t)
  have hthere := reads.rc_le_remaining turn 1 (stream.length - t)
  rw [readHeaderStep, responseState]
  dsimp only
  rw [if_pos (by omega), bioRead, List.length_drop]
  dsimp only
  generalize reads.rc turn 1 (stream.length - t) = n at hone hthere ⊢
  by_cases hn : n ≤ 0
  · have hzero : n.toNat = 0 := Int.toNat_of_nonpos hn
    rw [if_pos hn, if_pos hn, hzero, List.drop_zero]
    rfl
  · obtain rfl : n = 1 := by omega
    have hlt : t < stream.length := by omega
    have hsum : (t : ℤ) + 1 = (t + 1 : ℕ) := by push_cast; rfl
    have hrange : InSigned 32 ((t + 1 : ℕ) : ℤ) := by
      apply inSigned_natCast
      omega
    rw [if_neg hn, if_neg hn, Int.toNat_natCast, Int.toNat_one, store_take hlength (by omega),
      Option.bind_some, hsum, checked_of_inSigned hrange, Option.bind_some, List.drop_drop]
    by_cases hfour : 4 ≤ t + 1
    · have hindex : (((t + 1 : ℕ) : ℤ) - 4).toNat = t + 1 - 4 := by omega
      have hroom : t + 1 - 4 + 4 ≤ (filled mem (stream.take (t + 1))).length := by
        rw [length_filled (by rw [List.length_take]; omega), hmem]
        omega
      have hends : load (filled mem (stream.take (t + 1))) (t + 1 - 4) 4 = some headerEnd ↔
          EndsHeader stream (t + 1) := load_headerEnd_iff hlt hfour
      rw [load, if_pos hroom, Option.some.injEq] at hends
      rw [if_pos (by omega), hindex, load, if_pos hroom, Option.map_some]
      simp only [hends]
      rfl
    · have hnot : ¬ EndsHeader stream (t + 1) := fun h => hfour h.four_le
      rw [if_neg (by omega), if_neg hnot]
      rfl

/-- What has been read when the loop of the header is left. -/
structure HeaderRead (reads : BioReads) (stream : CString) (t : ℕ) : Prop where
  le_size : t ≤ 2047
  le_length : t ≤ stream.length
  first : ∀ i < t, ¬ EndsHeader stream i
  stops : EndsHeader stream t ∨ t = 2047 ∨ ∃ turn, reads.rc turn 1 (stream.length - t) ≤ 0

/-- The header, with the stream from its end on to come. -/
theorem readHeader_eq (reads : BioReads) (stream : CString) :
    ∃ turn t, readHeader reads { turn := 0, remaining := stream } =
      some (responseState (List.replicate 2048 '\x00') stream turn t) ∧
      HeaderRead reads stream t := by
  have hmem : (List.replicate 2048 '\x00').length = 2048 := List.length_replicate
  unfold readHeader
  generalize List.replicate 2048 '\x00' = mem at hmem ⊢
  have hloop : ∃ s, loop (readHeaderStep reads) 2048 (responseState mem stream 0 0) = some s ∧
      ∃ turn t, s = responseState mem stream turn t ∧ HeaderRead reads stream t := by
    apply loop_of_variant (fun s => ∃ turn t, s = responseState mem stream turn t ∧ t ≤ 2047 ∧
      t ≤ stream.length ∧ ∀ i ≤ t, ¬ EndsHeader stream i) fun s => 2047 - s.total.toNat
    · rintro s ⟨turn, t, rfl, hsize, hlength, hnot⟩
      have hbefore : ∀ i < t, ¬ EndsHeader stream i := fun i hi => hnot i hi.le
      by_cases hfull : t = 2047
      · refine .inr ⟨responseState mem stream turn t, ?_, turn, t, rfl,
          ⟨hsize, hlength, hbefore, .inr (.inl hfull)⟩⟩
        rw [readHeaderStep, responseState, hfull]
        rfl
      · rw [readHeaderStep_eq hmem (by omega) hlength]
        have hthere := reads.rc_le_remaining turn 1 (stream.length - t)
        by_cases hrc : reads.rc turn 1 (stream.length - t) ≤ 0
        · exact .inr ⟨_, by rw [if_pos hrc], turn + 1, t, rfl,
            ⟨hsize, hlength, hbefore, .inr (.inr ⟨turn, hrc⟩)⟩⟩
        · have hnot' : ∀ i < t + 1, ¬ EndsHeader stream i := fun i hi => hnot i (by omega)
          by_cases hends : EndsHeader stream (t + 1)
          · exact .inr ⟨_, by rw [if_neg hrc, if_pos hends], turn + 1, t + 1, rfl,
              ⟨by omega, by omega, hnot', .inl hends⟩⟩
          · refine .inl ⟨_, by rw [if_neg hrc, if_neg hends],
              ⟨turn + 1, t + 1, rfl, by omega, by omega, fun i hi => ?_⟩, ?_⟩
            · by_cases hlast : i = t + 1
              · rwa [hlast]
              · exact hnot' i (by omega)
            · simp only [responseState, Int.toNat_natCast]
              omega
    · refine ⟨0, 0, rfl, Nat.zero_le _, Nat.zero_le _, fun i hi hends => ?_⟩
      have := hends.four_le
      omega
    · show 2047 - (0 : ℤ).toNat < 2048
      omega
  obtain ⟨s, hrun, turn, t, rfl, hread⟩ := hloop
  exact ⟨turn, t, hrun, hread⟩

/-- A connection that delivers its bytes is read up to the end of the header. -/
theorem HeaderRead.eq_headerLength (h : HeaderRead splitting.toBioReads stream t) :
    t = headerLength stream := by
  have hsize := h.le_size
  have hlength := h.le_length
  have hstops : EndsHeader stream t ∨ t = min 2047 stream.length := by
    rcases h.stops with hends | hfull | ⟨turn, hrc⟩
    · exact .inl hends
    · exact .inr (by omega)
    · -- nothing has been delivered, so that nothing is left
      by_cases hmore : 0 < stream.length - t
      · have hpos : 0 < splitting.rc turn 1 (stream.length - t) :=
          splitting.moves Nat.one_pos hmore
        exact absurd hrc (not_le_of_gt hpos)
      · exact .inr (by omega)
  rcases headerLength_cases stream with ⟨hends, hle, hfirst⟩ | ⟨hmin, hnone⟩
  · have hshort := headerLength_le stream
    have hnotLess : ¬ t < headerLength stream := by
      intro hless
      rcases hstops with hends' | hmin
      · exact hfirst t hless hends'
      · omega
    have hnotMore : ¬ headerLength stream < t := fun hmore => h.first _ hmore hends
    omega
  · rcases hstops with hends | hmin'
    · exact absurd hends (hnone t hsize)
    · omega

/-! ## The body -/

/-- The bound of the loop, after its two conversions. -/
theorem toSigned_toUnsigned_limit (ht : t ≤ limit) (hlimit : limit < 2 ^ 31) :
    toSigned 32 (toUnsigned 64 (((limit + 1 : ℕ) : ℤ) - 1 - t)) = (limit - t : ℕ) := by
  have hword : limit < 2 ^ 64 := by omega
  rw [show ((limit + 1 : ℕ) : ℤ) - 1 - t = (limit : ℤ) - t by push_cast; omega,
    toUnsigned_sub ht hword, toSigned_natCast (by decide) (lt_of_le_of_lt (Nat.sub_le ..) hlimit)]

/-- A turn of the loop that reads the body, by what `BIO_read` returns; `limit` bytes are to be
read in all. -/
theorem readBodyStep_eq (hmem : limit < mem.length) (hlimit : limit < 2 ^ 31) (ht : t ≤ limit)
    (hlength : t ≤ stream.length) :
    readBodyStep reads (limit + 1) (responseState mem stream turn t) =
      some (if t = limit then .inr (responseState mem stream turn t)
      else if reads.rc turn (limit - t) (stream.length - t) ≤ 0 then
        .inr (responseState mem stream (turn + 1) t)
      else .inl (responseState mem stream (turn + 1)
        (t + (reads.rc turn (limit - t) (stream.length - t)).toNat))) := by
  have hle := reads.rc_le_size turn (limit - t) (stream.length - t)
  have hbound : toSigned 32 (toUnsigned 64 (((limit + 1 : ℕ) : ℤ) - 1)) = limit := by
    have hall := toSigned_toUnsigned_limit (Nat.zero_le limit) hlimit
    rwa [Nat.cast_zero, sub_zero, Nat.sub_zero] at hall
  rw [readBodyStep, responseState]
  dsimp only
  rw [hbound]
  by_cases hfull : t = limit
  · rw [if_neg (by omega), if_pos hfull]
  · rw [if_pos (by omega), if_neg hfull, toSigned_toUnsigned_limit ht hlimit, Int.toNat_natCast,
      bioRead, List.length_drop]
    dsimp only
    generalize reads.rc turn (limit - t) (stream.length - t) = n at hle ⊢
    by_cases hn : n ≤ 0
    · have hzero : n.toNat = 0 := Int.toNat_of_nonpos hn
      rw [if_pos hn, if_pos hn, hzero, List.drop_zero]
      rfl
    · have hsum : (t : ℤ) + n = (t + n.toNat : ℕ) := by omega
      have hsmall : t + n.toNat < 2 ^ 31 := by omega
      rw [if_neg hn, if_neg hn, Int.toNat_natCast, store_take hlength (by omega),
        Option.bind_some, hsum, checked_of_inSigned (inSigned_natCast hsmall), Option.map_some,
        List.drop_drop]
      rfl

/-- What has been read when the loop of the body is left. -/
structure BodyRead (reads : BioReads) (stream : CString) (limit t : ℕ) : Prop where
  le_limit : t ≤ limit
  le_length : t ≤ stream.length
  stops : t = limit ∨ ∃ turn, reads.rc turn (limit - t) (stream.length - t) ≤ 0

/-- The loop stops with the body read, however the stream is split. -/
theorem loop_readBody (reads : BioReads) (turn : ℕ) (hmem : limit < mem.length)
    (hlimit : limit < 2 ^ 31) (ht : t ≤ limit) (hlength : t ≤ stream.length) :
    ∃ turn' n, loop (readBodyStep reads (limit + 1)) (limit + 2)
        (responseState mem stream turn t) = some (responseState mem stream turn' n) ∧
      BodyRead reads stream limit n := by
  have hloop : ∃ s, loop (readBodyStep reads (limit + 1)) (limit + 2)
      (responseState mem stream turn t) = some s ∧
      ∃ turn n, s = responseState mem stream turn n ∧ BodyRead reads stream limit n := by
    apply loop_of_variant (fun s => ∃ turn n, s = responseState mem stream turn n ∧ n ≤ limit ∧
      n ≤ stream.length) fun s => limit - s.total.toNat
    · rintro s ⟨turn, n, rfl, hn, hlength⟩
      rw [readBodyStep_eq hmem hlimit hn hlength]
      have hsize := reads.rc_le_size turn (limit - n) (stream.length - n)
      have hthere := reads.rc_le_remaining turn (limit - n) (stream.length - n)
      by_cases hfull : n = limit
      · exact .inr ⟨_, by rw [if_pos hfull], turn, n, rfl, hn, hlength, .inl hfull⟩
      · by_cases hrc : reads.rc turn (limit - n) (stream.length - n) ≤ 0
        · exact .inr ⟨_, by rw [if_neg hfull, if_pos hrc], turn + 1, n, rfl, hn, hlength,
            .inr ⟨turn, hrc⟩⟩
        · refine .inl ⟨_, by rw [if_neg hfull, if_neg hrc], ⟨_, _, rfl, by omega, by omega⟩, ?_⟩
          simp only [responseState, Int.toNat_natCast]
          omega
    · exact ⟨turn, t, rfl, ht, hlength⟩
    · simp only [responseState, Int.toNat_natCast]
      omega
  obtain ⟨s, hrun, turn', n, rfl, hread⟩ := hloop
  exact ⟨turn', n, hrun, hread⟩

/-- A connection that delivers its bytes is read until the buffer is full or the stream ends. -/
theorem BodyRead.take_eq (h : BodyRead splitting.toBioReads stream limit t) :
    stream.take t = stream.take limit := by
  have hle := h.le_limit
  rcases h.stops with hfull | ⟨turn, hrc⟩
  · rw [hfull]
  · by_cases hfull : t = limit
    · rw [hfull]
    · have hempty : stream.length ≤ t := by
        by_contra hmore
        have hpos : 0 < splitting.rc turn (limit - t) (stream.length - t) :=
          splitting.moves (by omega) (by omega)
        omega
      rw [List.take_of_length_le hempty, List.take_of_length_le (by omega)]

/-! ## The text -/

/-- A buffer that holds a text is read as that text. -/
theorem bufferText_of_holds {text : CString} (h : Holds '\x00' mem text) :
    bufferText mem = some text := by
  have hmem : '\x00' ∈ mem := by
    obtain ⟨rest, rfl⟩ := h.start
    simp
  rw [bufferText, if_pos hmem, cstr, h.takeWhile_eq]

/-- Zeros behind a text are a terminator. -/
theorem filled_zeros {text : CString} {size : ℕ} (hlt : text.length < size) :
    ∃ rest, filled (List.replicate size '\x00') text = text ++ '\x00' :: rest := by
  refine ⟨List.replicate (size - text.length - 1) '\x00', ?_⟩
  have hcount : size - text.length = size - text.length - 1 + 1 := by omega
  rw [filled, List.drop_replicate, hcount, List.replicate_succ, Nat.add_sub_cancel]

/-- The body is what stands in the stream behind the header. -/
theorem readBody_eq (reads : BioReads) (turn : ℕ) {h b : ℕ} (hh : h ≤ stream.length)
    (hmem : h < mem.length) (hlimit : h + b < 2 ^ 31) :
    ∃ n, BodyRead reads stream (h + b) n ∧
      readBody reads (responseState mem stream turn h) (h + b + 1) = bufferText
        (filled (List.replicate (h + b + 1) '\x00') (stream.take n ++ ['\x00'])) := by
  have hheader : (stream.take h).length = h := List.length_take_of_le hh
  have hload : load (filled mem (stream.take h)) 0 h = some (stream.take h) := by
    have hlength : (filled mem (stream.take h)).length = mem.length := length_filled (by omega)
    have htake := take_filled mem (stream.take h)
    rw [hheader] at htake
    rw [load, if_pos (by omega), List.drop_zero, htake]
  have hcopy : store (List.replicate (h + b + 1) '\x00') 0 (stream.take h) =
      some (filled (List.replicate (h + b + 1) '\x00') (stream.take h)) := by
    have hfill := store_filled (List.replicate (h + b + 1) '\x00') [] (stream.take h)
      (by rw [List.length_replicate, List.length_nil]; omega)
    rwa [filled_nil, List.length_nil, List.nil_append] at hfill
  have hroom : h + b < (List.replicate (h + b + 1) '\x00').length := by
    rw [List.length_replicate]
    omega
  obtain ⟨turn', n, hloop, hbody⟩ :=
    loop_readBody reads turn hroom hlimit (Nat.le_add_right h b) hh
  have hread : (stream.take n).length = n := List.length_take_of_le hbody.le_length
  have hend : store (filled (List.replicate (h + b + 1) '\x00') (stream.take n)) n ['\x00'] =
      some (filled (List.replicate (h + b + 1) '\x00') (stream.take n ++ ['\x00'])) := by
    have hle := hbody.le_limit
    have hfill := store_filled (List.replicate (h + b + 1) '\x00') (stream.take n) ['\x00']
      (by rw [List.length_replicate, hread, List.length_singleton]; omega)
    rwa [hread] at hfill
  have hstart : (⟨filled (List.replicate (h + b + 1) '\x00') (stream.take h), h,
      { turn := turn, remaining := stream.drop h }⟩ : ReadState) =
        responseState (List.replicate (h + b + 1) '\x00') stream turn h := rfl
  refine ⟨n, hbody, ?_⟩
  rw [readBody, responseState]
  dsimp only
  rw [Int.toNat_natCast, hload, Option.bind_some, hcopy, Option.bind_some, hstart, hloop,
    Option.bind_some, responseState]
  dsimp only
  rw [Int.toNat_natCast, hend, Option.bind_some]

end Reading

/-- Whatever the connection delivers, and whenever it stops: no byte is read or stored outside the
two buffers. -/
theorem readResponse_isSome (reads : BioReads) (allocated : Bool) (stream : CString) :
    (readResponse reads allocated { turn := 0, remaining := stream }).isSome := by
  obtain ⟨turn, t, hheader, hread⟩ := readHeader_eq reads stream
  have hsize := hread.le_size
  have hlength : (stream.take t).length = t := List.length_take_of_le hread.le_length
  obtain ⟨header, htext⟩ : ∃ header,
      bufferText (filled (List.replicate 2048 '\x00') (stream.take t)) = some header := by
    obtain ⟨zeros, hzeros⟩ := filled_zeros (show (stream.take t).length < 2048 by omega)
    refine ⟨_, if_pos ?_⟩
    rw [hzeros]
    exact List.mem_append_right _ (List.mem_cons_self ..)
  rw [readResponse, hheader, Option.bind_some, responseState]
  dsimp only
  rw [htext, Option.bind_some]
  cases allocated with
  | false => rfl
  | true =>
    have hbody := bodyLength_le header
    have hlimit : t + bodyLength header < 2 ^ 31 := by omega
    have hroom : t < (List.replicate 2048 '\x00').length := by
      rw [List.length_replicate]
      omega
    obtain ⟨n, -, heq⟩ := readBody_eq reads turn hread.le_length hroom hlimit
    rw [responseState] at heq
    rw [if_pos rfl, Int.toNat_natCast, allocSize_eq, heq, Option.isSome_map, bufferText, if_pos]
    · rfl
    · exact List.mem_append_left _ (List.mem_append_right _ (List.mem_singleton.mpr rfl))

/-- For every way to cut the stream into pieces: nothing is stored outside the two buffers, and
the text that is passed on, if there is memory for it, is the beginning of the stream, the header
and as much as its `Content-Length` says behind it. -/
theorem readResponse_exact (splitting : Splitting) (allocated : Bool) {stream : CString}
    (hplain : '\x00' ∉ stream) :
    readResponse splitting.toBioReads allocated { turn := 0, remaining := stream } =
      some (if allocated then
        some (stream.take (min stream.length
          (headerLength stream + bodyLength (stream.take (headerLength stream)))))
      else none) := by
  obtain ⟨turn, t, hheader, hread⟩ := readHeader_eq splitting.toBioReads stream
  rw [← hread.eq_headerLength]
  have hsize := hread.le_size
  have hbody := bodyLength_le (stream.take t)
  have hplain' : ∀ n, '\x00' ∉ stream.take n := fun n hnul => hplain (List.mem_of_mem_take hnul)
  have hlength : (stream.take t).length = t := List.length_take_of_le hread.le_length
  have htext : bufferText (filled (List.replicate 2048 '\x00') (stream.take t)) =
      some (stream.take t) := bufferText_of_holds ⟨filled_zeros (by omega), hplain' t⟩
  have hlimit : t + bodyLength (stream.take t) < 2 ^ 31 := by omega
  have hroom : t < (List.replicate 2048 '\x00').length := by
    rw [List.length_replicate]
    omega
  obtain ⟨n, hend, heq⟩ := readBody_eq splitting.toBioReads turn hread.le_length hroom hlimit
  rw [responseState] at heq
  rw [readResponse, hheader, Option.bind_some, responseState]
  dsimp only
  rw [htext, Option.bind_some]
  cases allocated with
  | false => rfl
  | true =>
    rw [if_pos rfl, if_pos rfl, Int.toNat_natCast, allocSize_eq, heq,
      bufferText_of_holds ⟨⟨_, List.append_assoc ..⟩, hplain' n⟩, Option.map_some, hend.take_eq,
      List.take_eq_take_min, Nat.min_comm]

/-- Pieces of at most `k + 1` bytes. -/
def bioPieces (k : ℕ) : Splitting where
  rc _ size remaining := min (k + 1) (min size remaining)
  rc_le_size _ _ _ := by omega
  rc_le_remaining _ _ _ := by omega
  moves := by omega

/-- Two bytes of a body are announced, and more are sent. -/
def shortResponse : CString :=
  "HTTP/1.1 200 OK\r\nCONTENT-Length: 2\r\n\r\n[]more".toList

theorem shortResponse_read :
    readResponse (bioPieces 2).toBioReads true { turn := 0, remaining := shortResponse } =
      some (some "HTTP/1.1 200 OK\r\nCONTENT-Length: 2\r\n\r\n[]".toList) := by
  rw [readResponse_exact (bioPieces 2) true (by decide +kernel), if_pos rfl]
  decide +kernel

end ZohoIotSdk
