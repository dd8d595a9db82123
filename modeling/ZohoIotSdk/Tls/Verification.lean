import Mathlib.Data.List.DropRight
import ZohoIotSdk.Tls.Contexts

/-!
# What the handshake checks

The settings of the contexts that decide which servers `mbedtls_ssl_handshake` accepts: the mode
of verification, the certificates it trusts and the name that the certificate has to be for.
Without a name any certificate of a trusted authority will do.

`checksServer_iff`: a connection is made with all of them set exactly where client certificates
are in use, since only then `mbedtls_ssl_set_hostname` is called.
-/

namespace ZohoIotSdk

/-! ## Settings -/

/-- What the handshake reads of the contexts. -/
structure TlsSettings where
  authmode : AuthMode := .none
  parsed : List (CertsParseMode × CString) := []
  caChain : Option TlsContext := none
  hostname : CStringPtr := none
deriving DecidableEq

/-- What a call that succeeds does to the settings. -/
def TlsCall.configure (s : TlsSettings) : TlsCall → TlsSettings
  | init .ssl => { s with hostname := none }
  | init .conf => { s with authmode := .none, caChain := none }
  | init .cacert => { s with parsed := [] }
  | free .ssl => { s with hostname := none }
  | free .conf => { s with authmode := .none, caChain := none }
  | free .cacert => { s with parsed := [] }
  | parseCert .cacert mode cert => { s with parsed := s.parsed ++ [(mode, cert)] }
  -- `MBEDTLS_SSL_IS_CLIENT` makes verification the default
  | configDefaults => { s with authmode := .required }
  | confAuthmode authmode => { s with authmode := authmode }
  | confCaChain chain => { s with caChain := some chain }
  | setHostname hostname => { s with hostname := some hostname }
  | _ => s

/-- The settings after the calls. -/
def settingsAfter (calls : List TlsCall) : TlsSettings := calls.foldl TlsCall.configure {}

/-- Verification is required, against the certificates of `ca_crt` and the name `addr`. -/
structure Verifies (args : TlsArgs) (s : TlsSettings) : Prop where
  authmode : s.authmode = .required
  parsed : s.parsed = [(args.mode, args.caCrt)]
  caChain : s.caChain = some .cacert
  hostname : s.hostname = some args.addr

/-- A connection is made only if the first handshake step finds the settings that it needs, and
the result of the verification is read, and is zero, after the last. -/
def ChecksServer (b : Build) (tlsClientCerts : Bool) (args : TlsArgs) (ans : TlsAnswer) : Prop :=
  let run := networkConnectTLS b tlsClientCerts args ans
  run.2 = some 0 → .handshake ∈ run.1 ∧
    Verifies args (settingsAfter (run.1.takeWhile (· ≠ .handshake))) ∧
    .getVerifyResult ∈ run.1.rtakeWhile (· ≠ .handshake) ∧ ans.getVerifyResult = 0

/-! ## The calls of a connection -/

/-- The calls before the handshake if none of them fails. -/
def setupCalls (certs : Bool) (args : TlsArgs) (ans : TlsAnswer) : List TlsCall :=
  (initContexts certs).map .init ++ (parseSteps certs args ans).map Steps.Step.call ++
    (connectSteps certs args ans).map Steps.Step.call

section Connect

variable {b : Build} {tlsClientCerts certs : Bool} {args : TlsArgs} {ans : TlsAnswer}

/-- A handshake that ends has at least one step. -/
theorem handshakeLoop_replicate {results : List ℤ} {rc : ℤ}
    (h : (handshakeLoop results).2 = some rc) :
    ∃ k, (handshakeLoop results).1 = List.replicate (k + 1) .handshake := by
  induction results with
  | nil => simp [handshakeLoop] at h
  | cons result rest ih =>
    rw [handshakeLoop] at h ⊢
    split
    · rename_i hwant
      rw [if_pos hwant] at h
      obtain ⟨k, hk⟩ := ih h
      exact ⟨k + 1, by rw [hk, List.replicate_succ (n := k + 1)]⟩
    · exact ⟨0, rfl⟩

/-- The calls of a connection whose steps succeed. -/
theorem networkConnectTLS_calls (args : TlsArgs)
    (hcerts : (b.useClientCerts && tlsClientCerts) = certs) (hparses : ans.Parses certs)
    (hconnects : ans.Connects certs) :
    ∃ k, networkConnectTLS b tlsClientCerts args ans =
      (setupCalls certs args ans ++ (List.replicate (k + 1) .handshake ++
        [.getVerifyResult, .useSocket]), some 0) := by
  obtain ⟨hcert, hnet, hdefaults, hsetup, hresult, hverify⟩ := hconnects
  have hparse : (Steps.run (parseSteps certs args ans)).2 = 0 := parseSteps_iff.mpr hparses
  have hconnect : (Steps.run (connectSteps certs args ans)).2 = 0 :=
    connectSteps_iff.mpr ⟨hcert, hnet, hdefaults, hsetup⟩
  have hloop : (handshakeLoop ans.handshake).2 = some 0 :=
    (handshakeLoop_result ans.handshake).trans hresult
  obtain ⟨k, hk⟩ := handshakeLoop_replicate hloop
  refine ⟨k, ?_⟩
  have hparsed := Steps.run_fst_of_succeeds hparse
  have hconnected := Steps.run_fst_of_succeeds hconnect
  simp [networkConnectTLS, hcerts, initTls_eq, hparse, hconnect, hloop, hverify, setupCalls,
    hparsed, hconnected, hk]

/-- `NetworkConnectTLS` returns 0 exactly if every call succeeds. -/
theorem networkConnectTLS_eq_zero_iff (args : TlsArgs)
    (hcerts : (b.useClientCerts && tlsClientCerts) = certs) :
    (networkConnectTLS b tlsClientCerts args ans).2 = some 0 ↔
      ans.Parses certs ∧ ans.Connects certs := by
  constructor
  · intro hzero
    by_cases hparses : ans.Parses certs
    · by_cases hconnects : ans.Connects certs
      · exact ⟨hparses, hconnects⟩
      · obtain ⟨calls, -, hfails⟩ := networkConnectTLS_of_not_connects hcerts hparses hconnects
          (by rw [hzero]; rfl)
        rw [hfails] at hzero
        simp at hzero
    · obtain ⟨calls, -, hfails⟩ := networkConnectTLS_of_not_parses args hcerts hparses
      rw [hfails] at hzero
      simp at hzero
  · rintro ⟨hparses, hconnects⟩
    obtain ⟨k, hcalls⟩ := networkConnectTLS_calls args hcerts hparses hconnects
    rw [hcalls]

theorem handshake_notMem_setupCalls (certs : Bool) (args : TlsArgs) (ans : TlsAnswer) :
    .handshake ∉ setupCalls certs args ans := by
  cases certs with
  | false => simp [setupCalls, initContexts, parseSteps, connectSteps]
  | true => simp [setupCalls, initContexts, parseSteps, connectSteps]

/-- The settings with which the handshake begins. -/
theorem settingsAfter_setupCalls (certs : Bool) (args : TlsArgs) (ans : TlsAnswer) :
    settingsAfter (setupCalls certs args ans) =
      { authmode := .required, parsed := [(args.mode, args.caCrt)], caChain := some .cacert,
        hostname := if certs then some args.addr else none } := by
  cases certs with
  | false => rfl
  | true => rfl

/-- The first handshake step comes after the calls that set up, and the verification result is
read after the last. -/
theorem calls_split {setup : List TlsCall} (hsetup : .handshake ∉ setup) (k : ℕ) :
    let calls := setup ++ (List.replicate (k + 1) .handshake ++ [.getVerifyResult, .useSocket])
    .handshake ∈ calls ∧ calls.takeWhile (· ≠ .handshake) = setup ∧
      calls.rtakeWhile (· ≠ .handshake) = [.getVerifyResult, .useSocket] := by
  have hall : ∀ call ∈ setup, decide (call ≠ .handshake) = true := by
    intro call hmem
    exact decide_eq_true fun heq => hsetup (heq ▸ hmem)
  refine ⟨?_, ?_, ?_⟩
  · simp [List.replicate_succ]
  · rw [List.takeWhile_append_of_pos hall, List.replicate_succ]
    simp
  · rw [List.replicate_succ', List.append_assoc, ← List.append_assoc, ← List.append_assoc]
    rw [List.rtakeWhile, List.reverse_append, List.reverse_append]
    simp

/-- The server is checked where client certificates are in use, or no connection is made. -/
theorem checksServer_iff (b : Build) (tlsClientCerts : Bool) (args : TlsArgs) (ans : TlsAnswer) :
    ChecksServer b tlsClientCerts args ans ↔
      (b.useClientCerts && tlsClientCerts) = true ∨ ¬ (ans.Parses false ∧ ans.Connects false) := by
  cases hcerts : b.useClientCerts && tlsClientCerts with
  | true =>
    refine iff_of_true (fun hzero => ?_) (.inl rfl)
    obtain ⟨hparses, hconnects⟩ := (networkConnectTLS_eq_zero_iff args hcerts).mp hzero
    obtain ⟨k, hcalls⟩ := networkConnectTLS_calls args hcerts hparses hconnects
    obtain ⟨hmem, hbefore, hafter⟩ := calls_split (handshake_notMem_setupCalls true args ans) k
    rw [hcalls, hbefore, hafter, settingsAfter_setupCalls]
    exact ⟨hmem, ⟨rfl, rfl, rfl, rfl⟩, List.mem_cons_self .., hconnects.2.2.2.2.2⟩
  | false =>
    rw [← networkConnectTLS_eq_zero_iff args hcerts]
    simp only [Bool.false_eq_true, false_or]
    refine ⟨fun hchecks hzero => ?_, fun hne hzero => absurd hzero hne⟩
    obtain ⟨-, hverifies, -⟩ := hchecks hzero
    obtain ⟨hparses, hconnects⟩ := (networkConnectTLS_eq_zero_iff args hcerts).mp hzero
    obtain ⟨k, hcalls⟩ := networkConnectTLS_calls args hcerts hparses hconnects
    obtain ⟨-, hbefore, -⟩ := calls_split (handshake_notMem_setupCalls false args ans) k
    rw [hcalls, hbefore, settingsAfter_setupCalls] at hverifies
    exact absurd hverifies.hostname (by simp)

end Connect

/-! ## Without client certificates -/

def passwordBuild : Build :=
  { pahoC := false, secureConnection := true, useClientCerts := false, httpPublishEnable := false }

/-- Everything succeeds, and the handshake asks for one more step. -/
def oneRound : TlsAnswer := { handshake := [sslWantRead, 0] }

/-- A connection to a server whose name has not been looked at. -/
theorem secure_not_checked :
    (networkConnectTLS passwordBuild false sampleTlsArgs oneRound).2 = some 0 ∧
      (settingsAfter ((networkConnectTLS passwordBuild false sampleTlsArgs oneRound).1.takeWhile
        (· ≠ .handshake))).hostname = none ∧
      ¬ ∀ b tlsClientCerts args ans, ChecksServer b tlsClientCerts args ans := by
  have hzero : (networkConnectTLS passwordBuild false sampleTlsArgs oneRound).2 = some 0 := by
    decide
  have hnone : (settingsAfter ((networkConnectTLS passwordBuild false sampleTlsArgs
      oneRound).1.takeWhile (· ≠ .handshake))).hostname = none := by decide
  refine ⟨hzero, hnone, fun h => ?_⟩
  obtain ⟨-, hverifies, -⟩ := h passwordBuild false sampleTlsArgs oneRound hzero
  have hname := hverifies.hostname
  rw [hnone] at hname
  exact absurd hname (by simp)

end ZohoIotSdk
