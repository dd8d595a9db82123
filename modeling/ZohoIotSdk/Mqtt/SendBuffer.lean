import ZohoIotSdk.Blocks
import ZohoIotSdk.Mqtt.Publish

/-!
# The size check and the send buffer

In the embedded build `publishMessage` compares the length of the payload with the
configured size, while `zclient_connect` gives the MQTT client a send buffer of the size
that was configured when it connected. The packet is longer than its payload, so what
passes the check need not fit.
-/

namespace ZohoIotSdk

open Atomic (Prog)

/-! ## The configured size -/

/-- The configured payload size is not negative. -/
def SizeNonneg (s : Sdk) (_ : List Effect) : Prop := 0 ≤ s.client.config.payloadSize

theorem sizeNonneg_kept (b : Build) : KeptByBlocks b SizeNonneg where
  frame _ _ _ _ h hframe := hframe.slots.payloadSize h
  publishAck kind doc := by
    apply Prog.keeps_of_exec
    intro s tr rc es s' h hexec
    cases publishAck_cases hexec <;> exact h
  publishEvent assetName doc := by
    apply Prog.keeps_of_exec
    intro s tr rc es s' h hexec
    cases publishEvent_cases hexec <;> exact h
  replayFailedACK := by
    apply Prog.keeps_of_exec
    intro s tr done es s' h hexec
    cases replayFailedACK_cases hexec <;> exact h
  replayFailedEvent := by
    apply Prog.keeps_of_exec
    intro s tr done es s' h hexec
    cases replayFailedEvent_cases hexec <;> exact h

theorem Call.keeps_sizeNonneg (b : Build) (call : Call) :
    Prog.Keeps SizeNonneg (call.prog b) := by
  by_cases hinit : ∃ args, call = .init args
  · rcases hinit with ⟨args, rfl⟩
    refine Prog.keeps_bind ?_ fun _ => Prog.keeps_pure ()
    exact fun s tr h w => initSdk_payloadSize b args w s h
  · exact (call.built (fun args heq => hinit ⟨args, heq⟩) fun _ => rfl).keeps (sizeNonneg_kept b)

/-! ## Payloads that pass, and packets that fit -/

/-- The QoS 1 packet that `publishMessage` hands to the MQTT library. -/
def messagePacket (packetid : ℕ) (topic payload : CString) : List UInt8 :=
  publishPacket false 1 false packetid topic payload

/-- In every reachable state of the embedded build and for every topic: all payloads that
`publishMessage` lets pass give a packet that fits into the send buffer of the current
connection if and only if a payload of the configured size does. -/
theorem passed_payloads_fit_iff (b : Build) (hembedded : b.pahoC = false) {g : Globals} {s : Sdk}
    {tr : List Effect}
    (hrun : SingleThreaded b (fun _ => True) { client := {}, globals := g } tr s)
    (packetid : ℕ) (topic : CString) :
    (∀ payload, ¬ payloadTooLarge b s.client payload →
      (messagePacket packetid topic payload).length ≤ s.client.mqttClient.bufSize) ↔
    publishLength topic.length s.client.config.payloadSize.toNat ≤ s.client.mqttClient.bufSize := by
  have hsize : SizeNonneg s tr := by
    refine hrun.invariant ?_ (le_refl 0)
    rintro p ⟨call, -, rfl⟩
    exact call.keeps_sizeNonneg b
  have hpass : ∀ payload, ¬ payloadTooLarge b s.client payload ↔
      payload.length ≤ s.client.config.payloadSize.toNat := by
    intro payload
    unfold payloadTooLarge
    rw [hembedded]
    unfold SizeNonneg at hsize
    simp only [true_and]
    omega
  constructor
  · intro h
    -- a payload of exactly the configured size
    have hlongest := h (List.replicate s.client.config.payloadSize.toNat 'a')
      ((hpass _).mpr (by rw [List.length_replicate]))
    rwa [messagePacket, length_publishPacket, List.length_replicate] at hlongest
  · intro h payload hpayload
    rw [messagePacket, length_publishPacket]
    exact (publishLength_mono _ ((hpass payload).mp hpayload)).trans h

/-- The size is lowered by 100 bytes after connecting: what passes fits. -/
theorem passed_payloads_fit_sample : ∃ tr s,
    SingleThreaded embeddedBuild (fun _ => True) {} tr s ∧
    s.client.currentState = .connected ∧
    ∀ payload, ¬ payloadTooLarge embeddedBuild s.client payload →
      (messagePacket 1 s.client.dataTopic payload).length ≤ s.client.mqttClient.bufSize := by
  have hinit := SingleThreaded.snoc_run (b := embeddedBuild) (P := fun _ => True) (.nil {})
    (.init sampleArgs) trivial [{}] rfl
  have hconnect := hinit.snoc_run .connect trivial (List.replicate 12 {}) rfl
  have hlower := hconnect.snoc_run (.setMaxPayloadSize 39900) trivial [{}] rfl
  refine ⟨_, _, hlower, rfl, ?_⟩
  exact (passed_payloads_fit_iff embeddedBuild rfl hlower 1 _).mpr (by decide +kernel)

/-- Right after connecting with the default size, a payload of 40000 bytes passes the size
check, and its packet on the telemetry topic is longer than the send buffer. -/
theorem passed_payload_too_long : ∃ tr s payload,
    SingleThreaded embeddedBuild (fun _ => True) {} tr s ∧
    s.client.currentState = .connected ∧ ¬ payloadTooLarge embeddedBuild s.client payload ∧
    s.client.mqttClient.bufSize < (messagePacket 1 s.client.dataTopic payload).length := by
  have hinit := SingleThreaded.snoc_run (b := embeddedBuild) (P := fun _ => True) (.nil {})
    (.init sampleArgs) trivial [{}] rfl
  have hconnect := hinit.snoc_run .connect trivial (List.replicate 12 {}) rfl
  refine ⟨_, _, List.replicate 40000 'a', hconnect, rfl, ?_, ?_⟩
  · show ¬ (_ ∧ (40000 : ℤ) < (List.replicate 40000 'a').length)
    rw [List.length_replicate]
    omega
  · show 40000 < _
    rw [messagePacket, length_publishPacket, List.length_replicate]
    exact lt_publishLength _ _

end ZohoIotSdk
