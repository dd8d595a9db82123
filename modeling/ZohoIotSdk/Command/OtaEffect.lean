import ZohoIotSdk.Command.AckSafety
import ZohoIotSdk.Command.OtaSource

/-!
# One effect for every OTA message

Whatever the payload is, `handle_OTA` calls the handler once, or publishes one failure ACK, or
does neither. `handleOTA_one_effect` also says with which arguments the handler is called. That
they are not null comes from the invariant of the loop over the commands,
`OtaFields.Identified`.
-/

namespace ZohoIotSdk

open Atomic (Prog)

/-- What one call of `handle_OTA` can do, with the effects and the state it leaves. -/
inductive OtaOutcome (b : Build) (s : Sdk) : List Effect → Sdk → Prop
  | nothing : OtaOutcome b s [] s
  | handled {url : CString} {hash : CStringPtr} {check : Bool} {corrId : CString}
      (hhandler : s.client.onOTAHandler ≠ none) (hhash : check = true → hash ≠ none) :
      OtaOutcome b s [.otaHandler url hash check (some corrId)] s
  | failed {corrId : CStringPtr} {response : CString} {rc : ℤ} {es : List Effect} {s' : Sdk}
      (hack : (zclientPublishOTAAck b corrId executionFailure (some response)).Exec s rc es s') :
      OtaOutcome b s es s'

/-- Is the effect a call of the handler, or something published? -/
def Effect.isOtaEffect : Effect → Bool
  | .otaHandler _ _ _ _ => true
  | .publish _ _ _ _ => true
  | _ => false

variable {b : Build} {s s' : Sdk} {es : List Effect}

/-! ## The failure ACK -/

/-- The failure path has one of the outcomes. -/
theorem otaFailure_outcome {corrId : CStringPtr} {response : String}
    (h : (otaFailure b corrId response).Exec s () es s') : OtaOutcome b s es s' := by
  obtain ⟨rc, es₁, s₁, es₂, hack, hend, rfl⟩ := Prog.exec_bind.mp h
  obtain ⟨-, rfl, rfl⟩ := hend
  rw [List.append_nil]
  exact .failed hack

/-- A client in the wrong state publishes nothing, any other one the ACK and nothing else. -/
theorem zclientPublishOTAAck_count {corrId : CStringPtr} {statusCode rc : ℤ}
    {response : CStringPtr}
    (h : (zclientPublishOTAAck b corrId statusCode response).Exec s rc es s') :
    es.countP Effect.isOtaEffect ≤ 1 := by
  unfold zclientPublishOTAAck validateClientState at h
  rw [exec_readClient_bind] at h
  split at h
  · obtain ⟨-, rfl, -⟩ := h
    simp
  · have hpublish : (publishAck b .ota AckKind.ota.topic
        (otaAckPayload corrId statusCode response)).Exec s rc es s' := h
    cases publishAck_cases hpublish <;> exact Nat.le_refl 1

/-- Each outcome has at most one effect. -/
theorem OtaOutcome.count (h : OtaOutcome b s es s') : es.countP Effect.isOtaEffect ≤ 1 := by
  cases h with
  | nothing => simp
  | handled _ _ => simp [Effect.isOtaEffect]
  | failed hack => exact zclientPublishOTAAck_count hack

/-! ## The whole call -/

/-- After the loop: the handler is called with a URL, which came with a key and a correlation
id. -/
theorem runOTA_outcome {fields : OtaFields} (hids : fields.Identified)
    (h : (runOTA b fields).Exec s () es s') : OtaOutcome b s es s' := by
  unfold runOTA at h
  rw [exec_readClient_bind] at h
  by_cases hhandler : s.client.onOTAHandler = none
  · rw [if_pos hhandler] at h
    exact otaFailure_outcome h
  rw [if_neg hhandler] at h
  cases hurl : fields.otaURL with
  | none =>
    simp only [hurl] at h
    exact otaFailure_outcome h
  | some url =>
    obtain ⟨hkey, hcorr⟩ := hids (by rw [hurl]; rfl)
    obtain ⟨key, hkey⟩ := Option.isSome_iff_exists.mp hkey
    obtain ⟨corrId, hcorr⟩ := Option.isSome_iff_exists.mp hcorr
    simp only [hurl, hkey, hcorr] at h
    split at h
    · exact otaFailure_outcome h
    · rename_i hvalid
      have hhash : decide (key = "YES".toList) = true → fields.hash ≠ none := by
        intro hcheck hnone
        exact hvalid ⟨of_decide_eq_true hcheck, hnone⟩
      obtain ⟨w, es', rfl, -, rfl, rfl⟩ := h
      exact .handled hhandler hhash

/-- Every run of the OTA handler has one of the outcomes. -/
theorem handleOTA_outcome {payload : CString} (h : (handleOTA b payload).Exec s () es s') :
    OtaOutcome b s es s' := by
  unfold handleOTA at h
  split at h
  · obtain ⟨-, rfl, rfl⟩ := h
    exact .nothing
  · split at h
    · split at h
      · obtain ⟨-, rfl, rfl⟩ := h
        exact .nothing
      · exact otaFailure_outcome h
      · rename_i fields hfields
        have hids : fields.Identified :=
          otaCommands_identified hfields (by simp [OtaFields.Identified])
        exact runOTA_outcome hids h
    · obtain ⟨-, rfl, rfl⟩ := h
      exact .nothing

/-- For every payload and every state of the client: `handle_OTA` reaches no comparison with a
null key; it calls the handler once, publishes one failure ACK, or does neither; and it calls
the handler with a URL, with a correlation id, and with the check on only if there is a
hash. -/
theorem handleOTA_one_effect (b : Build) (payload : CString) (s : Sdk) :
    (handleOTA b payload).Safe s ∧
    ∀ es s', (handleOTA b payload).Exec s () es s' →
      OtaOutcome b s es s' ∧ es.countP Effect.isOtaEffect ≤ 1 := by
  refine ⟨handleOTA_safe b payload s, fun es s' h => ?_⟩
  have houtcome := handleOTA_outcome h
  exact ⟨houtcome, houtcome.count⟩

/-- The update of `orderedUpdates` reaches the handler, and has no other effect. -/
theorem handleOTA_one_effect_ordered : ∃ es s',
    (handleOTA plainBuild orderedUpdates).Exec otaSdk () es s' ∧
    es.countP Effect.isOtaEffect = 1 ∧ OtaOutcome plainBuild otaSdk es s' := by
  have hrun : ((handleOTA plainBuild orderedUpdates).run (List.replicate 5 {}) otaSdk).any
      (fun x => x.2.1.countP Effect.isOtaEffect = 1) = true := by decide +kernel
  obtain ⟨⟨⟩, es, s', hexec, htest⟩ := Prog.exists_exec_of_run hrun
  have hone := (handleOTA_one_effect plainBuild orderedUpdates otaSdk).2 es s' hexec
  exact ⟨es, s', hexec, of_decide_eq_true htest, hone.1⟩

end ZohoIotSdk
