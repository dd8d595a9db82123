import ZohoIotSdk.Steps.Live
import ZohoIotSdk.Tls.Network

/-!
# The contexts of a TLS connection

Which of the mbedTLS contexts have been initialised and not freed. `init_tls` leaves them as they
are when it fails, and so does `NetworkConnectTLS` then; its own clean-up frees them, but not the
two for client certificates.

`contexts_freed_iff`: over any number of attempts, each followed by a `NetworkDisconnect` if it
succeeds, no context is left after each of them if and only if `init_tls` succeeds in every
attempt, and so does the rest where client certificates are in use.
-/

namespace ZohoIotSdk

open Steps (Use live live_append live_of_acquires live_of_releases live_of_neither)

/-- What a call does to the contexts. -/
def TlsCall.use : TlsCall → Use TlsContext
  | init context => .acquire context
  | free context => .release context
  | _ => .neither

/-- The contexts that have been initialised by the calls and not freed. -/
def liveContexts (calls : List TlsCall) : Finset TlsContext := live TlsCall.use ∅ calls

/-- The calls have nothing to do with the contexts. -/
def KeepsContexts (calls : List TlsCall) : Prop := ∀ call ∈ calls, call.use = .neither

theorem KeepsContexts.append {calls calls' : List TlsCall} (h : KeepsContexts calls)
    (h' : KeepsContexts calls') : KeepsContexts (calls ++ calls') :=
  List.forall_mem_append.mpr ⟨h, h'⟩

/-! ## The answers -/

/-- The handshake is to be continued. -/
def IsWant (rc : ℤ) : Prop := rc = sslWantRead ∨ rc = sslWantWrite

instance (rc : ℤ) : Decidable (IsWant rc) := inferInstanceAs (Decidable (_ ∨ _))

/-- The result of the handshake: the first that does not ask for another call. -/
def TlsAnswer.handshakeResult (ans : TlsAnswer) : Option ℤ :=
  ans.handshake.find? fun rc => !decide (IsWant rc)

/-- The calls of `init_tls` succeed. -/
def TlsAnswer.Parses (ans : TlsAnswer) (certs : Bool) : Prop :=
  ans.ctrDrbgSeed = 0 ∧ ans.parseCacert = 0 ∧
    (certs = true → ans.parseClicert = 0 ∧ ans.parseKey = 0)

/-- The other calls of `NetworkConnectTLS` succeed. -/
def TlsAnswer.Connects (ans : TlsAnswer) (certs : Bool) : Prop :=
  (certs = true → ans.confOwnCert = 0 ∧ ans.setHostname = 0) ∧ ans.netConnect = 0 ∧
    ans.configDefaults = 0 ∧ ans.setup = 0 ∧ ans.handshakeResult = some 0 ∧
    ans.getVerifyResult = 0

section Connect

variable {certs : Bool} {args : TlsArgs} {ans : TlsAnswer}

/-- The loop ends with the first result that asks for no repetition. -/
theorem handshakeLoop_result (results : List ℤ) :
    (handshakeLoop results).2 = results.find? fun rc => !decide (IsWant rc) := by
  induction results with
  | nil => rfl
  | cons rc rest ih =>
    have hzero : ¬ IsWant 0 := by decide
    rw [handshakeLoop, List.find?_cons]
    by_cases hwant : IsWant rc
    · have hne : rc ≠ 0 := fun heq => hzero (heq ▸ hwant)
      rw [if_pos ⟨hne, hwant⟩]
      simpa [hwant] using ih
    · rw [if_neg fun h => hwant h.2]
      simp [hwant]

theorem handshakeLoop_calls (results : List ℤ) :
    KeepsContexts (handshakeLoop results).1 := by
  induction results with
  | nil => simp [KeepsContexts, handshakeLoop]
  | cons rc rest ih =>
    rw [handshakeLoop]
    split
    · exact List.forall_mem_cons.mpr ⟨rfl, ih⟩
    · simp [KeepsContexts, TlsCall.use]

theorem parseSteps_calls (certs : Bool) (args : TlsArgs) (ans : TlsAnswer) :
    KeepsContexts (Steps.run (parseSteps certs args ans)).1 := by
  have hsteps : KeepsContexts ((parseSteps certs args ans).map Steps.Step.call) := by
    cases certs with
    | false => simp [KeepsContexts, parseSteps, TlsCall.use]
    | true => simp [KeepsContexts, parseSteps, TlsCall.use]
  exact fun call hmem => hsteps call (Steps.mem_of_mem_run hmem)

theorem connectSteps_calls (certs : Bool) (args : TlsArgs) (ans : TlsAnswer) :
    KeepsContexts (Steps.run (connectSteps certs args ans)).1 := by
  have hsteps : KeepsContexts ((connectSteps certs args ans).map Steps.Step.call) := by
    cases certs with
    | false => simp [KeepsContexts, connectSteps, TlsCall.use]
    | true => simp [KeepsContexts, connectSteps, TlsCall.use]
  exact fun call hmem => hsteps call (Steps.mem_of_mem_run hmem)

/-- Parsing succeeds exactly when the answers say so. -/
theorem parseSteps_iff : (Steps.run (parseSteps certs args ans)).2 = 0 ↔ ans.Parses certs := by
  rw [Steps.run_eq_zero_iff]
  unfold TlsAnswer.Parses parseSteps
  cases certs with
  | false => simp
  | true => simp

/-- Connecting succeeds exactly when each of its steps does. -/
theorem connectSteps_iff : (Steps.run (connectSteps certs args ans)).2 = 0 ↔
    (certs = true → ans.confOwnCert = 0 ∧ ans.setHostname = 0) ∧ ans.netConnect = 0 ∧
      ans.configDefaults = 0 ∧ ans.setup = 0 := by
  rw [Steps.run_eq_zero_iff]
  unfold connectSteps
  cases certs with
  | false => simp
  | true => simp [and_assoc]

/-- The initialisation sets up its contexts and parses the files. -/
theorem initTls_eq : initTls certs args ans =
    ((initContexts certs).map TlsCall.init ++ (Steps.run (parseSteps certs args ans)).1,
      if (Steps.run (parseSteps certs args ans)).2 ≠ 0 then -1 else 0) := by
  rw [initTls, Steps.run_void_append]

variable {b : Build} {tlsClientCerts : Bool}

/-- An exit in `init_tls`: nothing is freed. -/
theorem networkConnectTLS_of_not_parses (args : TlsArgs)
    (hcerts : (b.useClientCerts && tlsClientCerts) = certs)
    (hparses : ¬ ans.Parses certs) :
    ∃ calls, KeepsContexts calls ∧ networkConnectTLS b tlsClientCerts args ans =
      ((initContexts certs).map .init ++ calls, some (-1)) := by
  have hparse : (Steps.run (parseSteps certs args ans)).2 ≠ 0 := mt parseSteps_iff.mp hparses
  refine ⟨_, parseSteps_calls certs args ans, ?_⟩
  simp [networkConnectTLS, hcerts, initTls_eq, hparse]

/-- An exit through the label `cleanup`. -/
theorem networkConnectTLS_of_not_connects (hcerts : (b.useClientCerts && tlsClientCerts) = certs)
    (hparses : ans.Parses certs) (hconnects : ¬ ans.Connects certs)
    (hreturns : (networkConnectTLS b tlsClientCerts args ans).2.isSome) :
    ∃ calls, KeepsContexts calls ∧ networkConnectTLS b tlsClientCerts args ans =
      ((initContexts certs).map .init ++ calls ++ cleanup, some (-1)) := by
  have hparse : (Steps.run (parseSteps certs args ans)).2 = 0 := parseSteps_iff.mpr hparses
  have hparsed := parseSteps_calls certs args ans
  have hconnected := hparsed.append (connectSteps_calls certs args ans)
  have hshaken := hconnected.append (handshakeLoop_calls ans.handshake)
  have hloop : (handshakeLoop ans.handshake).2 = ans.handshakeResult :=
    handshakeLoop_result ans.handshake
  by_cases hconnect : (Steps.run (connectSteps certs args ans)).2 = 0
  · cases hresult : ans.handshakeResult with
    | none => simp [networkConnectTLS, hcerts, initTls_eq, hparse, hconnect, hloop, hresult]
        at hreturns
    | some rc =>
      by_cases hrc : rc = 0
      · have hverify : ans.getVerifyResult ≠ 0 := by
          intro hverify
          obtain ⟨hcert, hnet, hdefaults, hsetup⟩ := connectSteps_iff.mp hconnect
          exact hconnects ⟨hcert, hnet, hdefaults, hsetup, hrc ▸ hresult, hverify⟩
        have hverified : KeepsContexts [.getVerifyResult] := by simp [KeepsContexts, TlsCall.use]
        refine ⟨_, hshaken.append hverified, ?_⟩
        simp [networkConnectTLS, hcerts, initTls_eq, hparse, hconnect, hloop, hresult, hrc, hverify]
      · refine ⟨_, hshaken, ?_⟩
        simp [networkConnectTLS, hcerts, initTls_eq, hparse, hconnect, hloop, hresult, hrc]
  · refine ⟨_, hconnected, ?_⟩
    simp [networkConnectTLS, hcerts, initTls_eq, hparse, hconnect]

/-- A connection. -/
theorem networkConnectTLS_of_connects (args : TlsArgs)
    (hcerts : (b.useClientCerts && tlsClientCerts) = certs)
    (hparses : ans.Parses certs) (hconnects : ans.Connects certs) :
    ∃ calls, KeepsContexts calls ∧ networkConnectTLS b tlsClientCerts args ans =
      ((initContexts certs).map .init ++ calls, some 0) := by
  obtain ⟨hcert, hnet, hdefaults, hsetup, hresult, hverify⟩ := hconnects
  have hparse : (Steps.run (parseSteps certs args ans)).2 = 0 := parseSteps_iff.mpr hparses
  have hconnect : (Steps.run (connectSteps certs args ans)).2 = 0 :=
    connectSteps_iff.mpr ⟨hcert, hnet, hdefaults, hsetup⟩
  have hloop : (handshakeLoop ans.handshake).2 = some 0 :=
    (handshakeLoop_result ans.handshake).trans hresult
  have hshaken := ((parseSteps_calls certs args ans).append (connectSteps_calls certs args ans)
    ).append (handshakeLoop_calls ans.handshake)
  have hverified : KeepsContexts [.getVerifyResult, .useSocket] := by
    simp [KeepsContexts, TlsCall.use]
  refine ⟨_, hshaken.append hverified, ?_⟩
  simp [networkConnectTLS, hcerts, initTls_eq, hparse, hconnect, hloop, hverify]

end Connect

/-! ## What is left -/

theorem initContexts_ne_empty (certs : Bool) : (initContexts certs).toFinset ≠ ∅ := by
  cases certs with
  | false => decide
  | true => decide

/-- The label `cleanup` forgets the contexts for client certificates. -/
theorem cleanup_frees_all_iff (certs : Bool) :
    (initContexts certs).toFinset \ cleanupContexts.toFinset = ∅ ↔ certs = false := by
  cases certs with
  | false => decide
  | true => decide

/-- A disconnect frees every context of its configuration. -/
theorem disconnect_frees_all (certs : Bool) :
    (initContexts certs).toFinset \ (disconnectContexts certs).toFinset = ∅ := by
  cases certs with
  | false => decide
  | true => decide

/-! ## Attempts -/

/-- An attempt to connect that comes to its end. -/
structure TlsAttempt (b : Build) where
  tlsClientCerts : Bool
  args : TlsArgs
  ans : TlsAnswer
  returns : (networkConnectTLS b tlsClientCerts args ans).2.isSome

namespace TlsAttempt

variable {b : Build}

/-- Client certificates are in use. -/
def certs (attempt : TlsAttempt b) : Bool := b.useClientCerts && attempt.tlsClientCerts

/-- What `NetworkConnectTLS` returns. -/
def rc (attempt : TlsAttempt b) : ℤ :=
  (networkConnectTLS b attempt.tlsClientCerts attempt.args attempt.ans).2.get attempt.returns

/-- The calls of `NetworkConnectTLS`, with those of the `NetworkDisconnect` that follows if it
returns 0. -/
def calls (attempt : TlsAttempt b) : List TlsCall :=
  (networkConnectTLS b attempt.tlsClientCerts attempt.args attempt.ans).1 ++
    if attempt.rc = 0 then networkDisconnect b true attempt.tlsClientCerts else []

/-- `init_tls` succeeds, and so does everything else where client certificates are in use. -/
def Cleans (attempt : TlsAttempt b) : Prop :=
  attempt.ans.Parses attempt.certs ∧
    (attempt.certs = true → attempt.ans.Connects attempt.certs)

theorem rc_eq {attempt : TlsAttempt b} {calls : List TlsCall} {rc : ℤ}
    (h : networkConnectTLS b attempt.tlsClientCerts attempt.args attempt.ans =
      (calls, some rc)) : attempt.rc = rc := by
  simp [TlsAttempt.rc, h]

theorem certs_eq (attempt : TlsAttempt b) :
    (b.useClientCerts && attempt.tlsClientCerts) = attempt.certs := rfl

/-- After the initialisation its contexts are held. -/
theorem live_inits {calls : List TlsCall} (hcalls : KeepsContexts calls) (certs : Bool) :
    live TlsCall.use ∅ ((initContexts certs).map .init ++ calls) =
      (initContexts certs).toFinset := by
  have hinits : live TlsCall.use ∅ ((initContexts certs).map .init) =
      ∅ ∪ (initContexts certs).toFinset := live_of_acquires fun _ => rfl
  rw [live_append, hinits, live_of_neither hcalls, Finset.empty_union]

/-- Freeing the contexts releases them. -/
theorem live_frees (held : Finset TlsContext) (contexts : List TlsContext) :
    live TlsCall.use held (contexts.map .free) = held \ contexts.toFinset :=
  live_of_releases fun _ => rfl

/-- One attempt leaves no context behind exactly under the condition. -/
theorem liveContexts_eq_empty_iff (attempt : TlsAttempt b) :
    liveContexts attempt.calls = ∅ ↔ attempt.Cleans := by
  unfold liveContexts calls Cleans
  by_cases hparses : attempt.ans.Parses attempt.certs
  · by_cases hconnects : attempt.ans.Connects attempt.certs
    · obtain ⟨calls, hcalls, hconnect⟩ :=
        networkConnectTLS_of_connects attempt.args attempt.certs_eq hparses hconnects
      have hdisconnect : networkDisconnect b true attempt.tlsClientCerts =
          [.closeNotify] ++ (disconnectContexts attempt.certs).map .free := rfl
      have hnotify : KeepsContexts [.closeNotify] := by simp [KeepsContexts, TlsCall.use]
      rw [rc_eq hconnect, hconnect, if_pos rfl, live_append, live_inits hcalls, hdisconnect,
        live_append, live_of_neither hnotify, live_frees]
      exact iff_of_true (disconnect_frees_all _) ⟨hparses, fun _ => hconnects⟩
    · obtain ⟨calls, hcalls, hconnect⟩ :=
        networkConnectTLS_of_not_connects attempt.certs_eq hparses hconnects attempt.returns
      rw [rc_eq hconnect, hconnect, if_neg (by decide), List.append_nil, live_append,
        live_inits hcalls, cleanup, live_frees]
      simp only [hparses, hconnects, true_and, imp_false, cleanup_frees_all_iff,
        Bool.not_eq_true]
  · obtain ⟨calls, hcalls, hconnect⟩ :=
      networkConnectTLS_of_not_parses attempt.args attempt.certs_eq hparses
    rw [rc_eq hconnect, hconnect, if_neg (by decide), List.append_nil, live_inits hcalls]
    simp only [hparses, false_and, iff_false]
    exact initContexts_ne_empty attempt.certs

end TlsAttempt

/-- After every one of the attempts no context is left, if and only if each of them meets the
condition. -/
theorem contexts_freed_iff (b : Build) (attempts : List (TlsAttempt b)) :
    (∀ done, done <+: attempts → liveContexts (done.flatMap TlsAttempt.calls) = ∅) ↔
      ∀ attempt ∈ attempts, attempt.Cleans := by
  refine (Steps.live_rounds_iff TlsAttempt.calls attempts).trans ?_
  exact forall₂_congr fun attempt _ => attempt.liveContexts_eq_empty_iff

def certsBuild : Build :=
  { pahoC := false, secureConnection := true, useClientCerts := true, httpPublishEnable := false }

def sampleTlsArgs : TlsArgs where
  addr := "hostname".toList
  port := 8883
  mode := .reference
  caCrt := "ca.pem".toList
  clientCert := "client.pem".toList
  clientKey := "key.pem".toList
  certPassword := []
  port_fits := by decide

/-- `MBEDTLS_ERR_NET_UNKNOWN_HOST` -/
def unknownHost : TlsAnswer := { netConnect := -0x0052 }

/-- An attempt without a network, and with client certificates. -/
def offlineAttempt : TlsAttempt certsBuild where
  tlsClientCerts := true
  args := sampleTlsArgs
  ans := unknownHost
  returns := by decide

/-- The attempt fails, and two contexts are left. -/
theorem offline_leaves_contexts : offlineAttempt.rc = -1 ∧
    liveContexts offlineAttempt.calls = {.clicert, .pkey} ∧
    ¬ ∀ done, done <+: [offlineAttempt] →
      liveContexts (done.flatMap TlsAttempt.calls) = ∅ := by
  have hlive : liveContexts offlineAttempt.calls = {.clicert, .pkey} := by decide
  refine ⟨by decide, hlive, fun h => ?_⟩
  have hempty := h [offlineAttempt] (List.prefix_refl _)
  rw [List.flatMap_singleton, hlive] at hempty
  exact absurd hempty (by decide)

end ZohoIotSdk
