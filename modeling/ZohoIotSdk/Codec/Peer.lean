import Mathlib.Data.List.Infix
import ZohoIotSdk.Codec.Framing

/-!
# The other end of two streams

`Peer`: a party that takes words of a prefix code from one stream and puts words on another one,
at its own pace. `Rule`: of the answers of a kind it has never put more on its stream than it has
got requests for them. `Sound.requests_got`: who has received an answer for each of its requests
knows that all of them have arrived, although neither stream tells which answer is for which
request.
-/

namespace Codec

variable {α ε : Type}

/-- What has come and is not yet read as a word, the words that have been read, those that have been
put on the other stream, and what of them is still on its way. -/
structure Peer (α : Type) where
  unread : List α := []
  got : List (List α) := []
  posted : List (List α) := []
  inFlight : List α := []

/-- Requests, and their answers. -/
structure Rule (α : Type) where
  request : List α → Bool
  answer : List α → Bool

namespace Peer

variable {C : List α → Prop} {rules : List (Rule α)} {b b' : Peer α}

/-- Is there a request that has not been answered? -/
def Owes (b : Peer α) (rule : Rule α) : Prop :=
  b.posted.countP rule.answer < b.got.countP rule.request

inductive Step (C : List α → Prop) (rules : List (Rule α)) : Peer α → Peer α → Prop
  | receive {b : Peer α} {word rest : List α} (hword : C word) (hunread : b.unread = word ++ rest) :
      Step C rules b { b with unread := rest, got := b.got ++ [word] }
  | post {b : Peer α} {word : List α} (hword : C word)
      (hrules : ∀ rule ∈ rules, rule.answer word = true → b.Owes rule) :
      Step C rules b { b with posted := b.posted ++ [word], inFlight := b.inFlight ++ word }

/-- The peer at work, while the other party writes to the one stream and reads from the other
one. -/
inductive Attends (C : List α → Prop) (rules : List (Rule α)) (written consumed : ε → List α) :
    Peer α → List ε → Peer α → Prop
  | nil (b : Peer α) : Attends C rules written consumed b [] b
  | step {b b' b'' : Peer α} {tr : List ε} (before : Attends C rules written consumed b tr b')
      (last : Step C rules b' b'') : Attends C rules written consumed b tr b''
  | event {b b' : Peer α} {tr : List ε} {e : ε} {rest : List α}
      (before : Attends C rules written consumed b tr b')
      (hread : b'.inFlight = consumed e ++ rest) :
      Attends C rules written consumed b (tr ++ [e])
        { b' with unread := b'.unread ++ written e, inFlight := rest }

/-- What a peer has made of its two streams. -/
structure Sound (C : List α → Prop) (rules : List (Rule α)) (written consumed : List α)
    (b : Peer α) : Prop where
  written : written = b.got.flatten ++ b.unread
  consumed : consumed ++ b.inFlight = b.posted.flatten
  got : ∀ word ∈ b.got, C word
  posted : ∀ word ∈ b.posted, C word
  answers : ∀ rule ∈ rules, b.posted.countP rule.answer ≤ b.got.countP rule.request

variable {written consumed : List α}

theorem Sound.step (h : Sound C rules written consumed b) (hstep : Step C rules b b') :
    Sound C rules written consumed b' := by
  cases hstep with
  | @receive word rest hword hunread =>
    refine { h with written := ?_, got := ?_, answers := ?_ }
    · rw [h.written, hunread, List.flatten_append, List.flatten_singleton, List.append_assoc]
    · exact List.forall_mem_append.mpr ⟨h.got, List.forall_mem_singleton.mpr hword⟩
    · intro rule hrule
      rw [List.countP_append]
      exact (h.answers rule hrule).trans (Nat.le_add_right ..)
  | @post word hword hrules =>
    refine { h with consumed := ?_, posted := ?_, answers := ?_ }
    · rw [List.flatten_append, List.flatten_singleton, ← h.consumed, List.append_assoc]
    · exact List.forall_mem_append.mpr ⟨h.posted, List.forall_mem_singleton.mpr hword⟩
    · intro rule hrule
      rw [List.countP_append, List.countP_singleton]
      split_ifs with hanswer
      · exact hrules rule hrule hanswer
      · exact h.answers rule hrule

/-- The invariant holds at the end of every run that attends to what was written. -/
theorem Attends.sound {out inn : ε → List α} {tr : List ε} (h : Attends C rules out inn b tr b')
    (hb : Sound C rules [] [] b) : Sound C rules (tr.flatMap out) (tr.flatMap inn) b' := by
  induction h with
  | nil => exact hb
  | step _ last ih => exact ih.step last
  | event _ hread ih =>
    obtain ⟨hwritten, hconsumed, hgot, hposted, hanswers⟩ := ih
    refine ⟨?_, ?_, hgot, hposted, hanswers⟩
    · rw [List.flatMap_append, List.flatMap_singleton, hwritten, List.append_assoc]
    · rw [List.flatMap_append, List.flatMap_singleton, List.append_assoc, ← hread, hconsumed]

theorem sound_nil : Sound C rules [] [] {} := ⟨rfl, rfl, nofun, nofun, fun _ _ => Nat.le_refl 0⟩

/-! ## What the other party may conclude -/

variable {sent received : List (List α)}

/-- What has been got is the start of what has been sent. -/
theorem Sound.got_isPrefix (hC : PrefixFree C) (h : Sound C rules sent.flatten consumed b)
    (hsent : ∀ word ∈ sent, C word) : b.got <+: sent :=
  hC.isPrefix h.got hsent h.written.symm

/-- What has been received is the start of what the peer has put on its stream. -/
theorem Sound.received_posted (hC : PrefixFree C) (h : Sound C rules written received.flatten b)
    (hreceived : ∀ word ∈ received, C word) : received <+: b.posted :=
  hC.isPrefix hreceived h.posted h.consumed

/-- No more answers are received than requests have been got. -/
theorem Sound.countP_received_le (hC : PrefixFree C)
    (h : Sound C rules written received.flatten b) (hreceived : ∀ word ∈ received, C word)
    {rule : Rule α} (hrule : rule ∈ rules) :
    received.countP rule.answer ≤ b.got.countP rule.request :=
  ((h.received_posted hC hreceived).countP_le).trans (h.answers rule hrule)

/-- If there is an answer for each of the requests, all of them have arrived, in the same order. -/
theorem Sound.requests_got (hC : PrefixFree C) (h : Sound C rules sent.flatten received.flatten b)
    (hsent : ∀ word ∈ sent, C word) (hreceived : ∀ word ∈ received, C word) {rule : Rule α}
    (hrule : rule ∈ rules) (hanswered : sent.countP rule.request ≤ received.countP rule.answer) :
    b.got.filter rule.request = sent.filter rule.request := by
  have hle := hanswered.trans (h.countP_received_le hC hreceived hrule)
  rw [List.countP_eq_length_filter, List.countP_eq_length_filter] at hle
  exact ((h.got_isPrefix hC hsent).filter rule.request).eq_of_length_le hle

/-! ## A peer that answers -/

variable {out inn : ε → List α} {tr es es₁ es₂ : List ε} {request answer rest : List α}

/-- Some events, one after the other. -/
theorem Attends.events (h : Attends C rules out inn b tr b')
    (hread : b'.inFlight = es.flatMap inn ++ rest) :
    Attends C rules out inn b (tr ++ es)
      { b' with unread := b'.unread ++ es.flatMap out, inFlight := rest } := by
  induction es generalizing tr b' with
  | nil =>
    have hrest : b'.inFlight = rest := hread
    subst hrest
    simp only [List.flatMap_nil, List.append_nil]
    exact h
  | cons e es ih =>
    rw [List.flatMap_cons, List.append_assoc] at hread
    have hnext := ih (h.event hread) rfl
    rw [List.flatMap_cons, ← List.append_assoc b'.unread]
    rwa [List.append_assoc] at hnext

/-- A request, and the answer to it. -/
theorem Attends.exchange (h : Attends C rules out inn b tr b') (hunread : b'.unread = [])
    (hinFlight : b'.inFlight = []) (hrequest : C request) (hanswer : C answer)
    (hes₁ : es₁.flatMap out = request ∧ es₁.flatMap inn = [])
    (hes₂ : es₂.flatMap out = [] ∧ es₂.flatMap inn = answer)
    (hrules : ∀ rule ∈ rules, rule.answer answer = true →
      b'.posted.countP rule.answer < (b'.got ++ [request]).countP rule.request) :
    Attends C rules out inn b (tr ++ es₁ ++ es₂)
      { got := b'.got ++ [request], posted := b'.posted ++ [answer] } := by
  obtain ⟨unread, got, posted, inFlight⟩ := b'
  simp only at hunread hinFlight hrules
  subst hunread hinFlight
  have hsent := h.events (show [] = es₁.flatMap inn ++ [] by rw [hes₁.2]; rfl)
  rw [hes₁.1] at hsent
  have hgot := hsent.step (.receive hrequest (List.append_nil _).symm)
  have hposted := hgot.step (.post hanswer hrules)
  have hread := hposted.events (show [] ++ answer = es₂.flatMap inn ++ [] by
    rw [hes₂.2]
    exact (List.append_nil _).symm)
  rw [hes₂.1] at hread
  exact hread

end Peer

end Codec
