import ZohoIotSdk.Process.Registry

/-!
# The port of a connection

`ZPORT` is a variable of the process. It starts at the port for TLS, a `zclient_init` that is
made with TLS switched off sets it to the other one, and nothing ever sets it back, while
`zclient_connect` looks at the TLS mode of its own time. `connect_port_iff` says in which runs
the two agree.
-/

namespace ZohoIotSdk

open Atomic (Prog EachAfter eachAfter_snoc)
open Atomic.Prog (Relates)

variable {τ : Type}

/-! ## Calls on the clients of a process -/

/-- A call that has to do with the port. -/
inductive PortCall (τ : Type) where
  | setTls (state : Bool)
  | init (client : τ) (args : InitArgs)
  | connect (client : τ)

/-- The program of a call. -/
def PortCall.prog [DecidableEq τ] (b : Build) : PortCall τ → Prog (Process τ) Answer Effect Unit
  | setTls state => Prog.modify fun P => { P with globals := { P.globals with tlsMode := state } }
  | init client args => Prog.act (fun w P => P.init b args w client)
      (fun w P => [.init (initSdk b args w (P.sdk client)).1]) fun _ _ => ()
  | connect client =>
    (discard (zclientConnect b)).zoom (fun P => P.sdk client) fun s P => P.store client s

/-- A call that was made. -/
abbrev PortRecord (τ : Type) := Atomic.Record (PortCall τ) (Process τ) Answer Effect

/-- Calls made one after the other. -/
abbrev PortRun [DecidableEq τ] (b : Build) (P₀ : Process τ) (records : List (PortRecord τ))
    (P : Process τ) : Prop :=
  Atomic.Recorded (PortCall.prog b) P₀ records P

/-- A process before its first call. -/
def Process.new (b : Build) : Process τ :=
  { clients := fun _ => {}, globals := .initial b, clientRegistry := [] }

/-! ## Ports -/

/-- The port that goes with a TLS mode. -/
def portOf (tlsMode : Bool) : ℤ := if tlsMode then 8883 else 1883

/-- The connection that a `zclient_connect` tries to open goes to the port: in the Paho C build
by the address that the handle is created with, in the embedded build by the argument of
`NetworkConnect`. -/
def UsesPort (b : Build) (client : τ) (r : PortRecord τ) (port : ℤ) : Prop :=
  if b.pahoC then r.effects.any Effect.isAttempt = true →
    ':' :: intText port <:+ (r.after.clients client).address
  else ∀ port' rc, .networkConnect port' rc ∈ r.effects → port' = port

/-- Does the call set the port to that for connections without TLS? A `zclient_init` does if
TLS is off and it does not fail before. -/
def LowersPort (b : Build) (r : PortRecord τ) : Prop :=
  ∃ client args, r.call = .init client args ∧ r.before.globals.tlsMode = false ∧
    initRegisters b args {} (r.before.sdk client) = true

/-- What a `zclient_init` is called with. -/
def PortCall.init? : PortCall τ → Option (τ × InitArgs)
  | init client args => some (client, args)
  | _ => none

theorem lowersPort_iff (b : Build) (r : PortRecord τ) : LowersPort b r ↔
    (r.call.init?.any fun x => !r.before.globals.tlsMode &&
      initRegisters b x.2 {} (r.before.sdk x.1)) = true := by
  unfold LowersPort
  cases r.call <;> simp [PortCall.init?]

instance (b : Build) (r : PortRecord τ) : Decidable (LowersPort b r) :=
  decidable_of_iff _ (lowersPort_iff b r).symm

/-- A `zclient_connect` that is made on a client that has to be connected. -/
def TriesToConnect (client : τ) (r : PortRecord τ) : Prop :=
  r.call = .connect client ∧ (r.before.clients client).currentState ≠ .zeroed ∧
    (r.before.clients client).currentState ≠ .connected

/-! ## What `zclient_init` does to the port -/

/-- Without TLS no certificate is asked for, so the answers do not matter. -/
theorem initRegisters_of_tls_off {b : Build} {args : InitArgs} {s : Sdk}
    (htls : s.globals.tlsMode = false) (w w' : Answer) :
    initRegisters b args w s = initRegisters b args w' s := by
  unfold initRegisters initCerts
  simp only [htls, or_true, if_true]

/-- The port is lowered in a TLS build whose TLS mode is off. -/
theorem initFields_globals (b : Build) (w : Answer) (s : Sdk) :
    (initFields b w s).2.globals =
      if b.secureConnection = true ∧ s.globals.tlsMode = false
      then { s.globals with zport := 1883 } else s.globals := by
  unfold initFields
  simp only []
  split
  · rfl
  · rfl

/-- The port is lowered under the same condition, once the client is registered. -/
theorem initSdk_globals (b : Build) (args : InitArgs) (w : Answer) (s : Sdk) :
    (initSdk b args w s).2.globals =
      if initRegisters b args w s = true ∧ b.secureConnection = true ∧ s.globals.tlsMode = false
      then { s.globals with zport := 1883 } else s.globals := by
  unfold initRegisters
  cases hconfig : initConfig b s.globals args with
  | none =>
    rw [initSdk, hconfig]
    simp
  | some config =>
    rw [initSdk_of_config hconfig]
    by_cases hfit : (writtenClient config s).1 = false
    · simp [hfit]
    · rw [if_neg hfit]
      unfold initClient
      by_cases hcerts : (initCerts b s.globals args w (writtenClient config s).2.certs).1 = false
      · simp [hcerts]
      · simp only [if_neg hcerts, initFields_globals]
        simp only [Bool.not_eq_false] at hfit hcerts
        simp [hfit, hcerts]

/-- The initialisation does not disconnect a client. -/
theorem InitOutcome.not_disconnected {b : Build} {args : InitArgs} {s s' : Sdk} {rc : ℤ}
    (h : InitOutcome b args s rc s') (hs : s.client.currentState ≠ .disconnected) :
    s'.client.currentState ≠ .disconnected := by
  cases h with
  | rejected _ => exact hs
  | failed _ hstate _ _ => rwa [hstate]
  | initialized _ hstate _ _ => simp [hstate]

/-! ## What `zclient_connect` does with the port -/

section Connect

variable {b : Build} {s s' : Sdk} {rc : ℤ} {es : List Effect}

/-- In the embedded build an attempt begins with a connection to the current port. -/
theorem connect_port (hb : b.pahoC = false) (hlive : Live s)
    (hstate : s.client.currentState ≠ .connected) (h : (zclientConnect b).Exec s rc es s') :
    (∃ rc', .networkConnect s.globals.zport rc' ∈ es) ∧
      ∀ port rc', .networkConnect port rc' ∈ es → port = s.globals.zport := by
  have hfirst : ∃ rc' rest, es = .networkConnect s.globals.zport rc' :: rest := by
    have hcode : clientStateCode s.client = 0 := (clientStateCode_eq_zero_iff s).mpr hlive
    unfold zclientConnect validateClientState at h
    rw [exec_readClient_bind, if_neg (not_not.mpr hcode), exec_readClient_bind, if_neg hstate,
      if_neg (by simp [hb])] at h
    unfold connectEmbedded at h
    rw [exec_readClient_bind, exec_modifyClient_bind, Prog.exec_act_bind] at h
    obtain ⟨w, rest, hes, -⟩ := h
    exact ⟨w.rc, rest, hes⟩
  obtain ⟨rc₁, rest, hes⟩ := hfirst
  -- every outcome has one such call, at its head
  have hrest : ∀ port rc', .networkConnect port rc' ∉ rest := by
    intro port rc' hmem
    cases connect_cases h with
    | refused hdead => exact hdead hlive
    | already hconn => exact hstate hconn
    | pahoC hb' => rw [hb] at hb'; simp at hb'
    | unreachable =>
      rw [← (List.cons.inj hes).2] at hmem
      simp at hmem
    | timeChanged =>
      rw [← (List.cons.inj hes).2] at hmem
      split at hmem <;> simp at hmem
    | rejected =>
      rw [← (List.cons.inj hes).2] at hmem
      simp at hmem
    | connected =>
      rw [← (List.cons.inj hes).2] at hmem
      simp at hmem
  refine ⟨⟨rc₁, by rw [hes]; simp⟩, fun port rc' hmem => ?_⟩
  rw [hes] at hmem
  rcases List.mem_cons.mp hmem with heq | hmem
  · exact (Effect.networkConnect.inj heq).1
  · exact absurd hmem (hrest port rc')

/-- A client that has just been initialised gets the address of the server. -/
theorem createHandle_address {failed : Option ℤ} (hstate : s.client.currentState = .initialized)
    (h : (createHandle b).Exec s failed es s') : s'.client.address = serverAddress b s := by
  refine Prog.Exec.of_wlp (Q := fun _ _ s' => s'.client.address = serverAddress b s) ?_ h
  unfold createHandle Prog.modify
  simp only [Prog.wlp_bind, Prog.wlp_act, Prog.wlp_ite, Prog.wlp_pure, wlp_readClient, wlp_ask,
    hstate, if_true]
  intro _ w
  split
  · trivial
  · exact fun _ => trivial

/-- The session keeps the address. -/
theorem connectSession_address (h : (connectSession b).Exec s rc es s') :
    s'.client.address = s.client.address := by
  refine Prog.Exec.of_wlp (Q := fun _ _ s' => s'.client.address = s.client.address) ?_ h
  unfold connectSession connectionString finishConnect
  simp only [Prog.wlp_bind, Prog.wlp_act, Prog.wlp_ite, Prog.wlp_pure, wlp_readClient, wlp_ask,
    wlp_closeNetwork, wlp_setCurrentState]
  intro _ w
  split
  · trivial
  · split
    · trivial
    · exact fun _ => trivial

/-- In the Paho C build an initialised client gets a new handle, for the current port. -/
theorem connect_address (hb : b.pahoC = true) (hstate : s.client.currentState = .initialized)
    (h : (zclientConnect b).Exec s rc es s') :
    s'.client.address = serverAddress b s ∧ es.any Effect.isAttempt = true := by
  refine ⟨?_, ((connect_cases h).attempt hstate).1⟩
  have hcode : clientStateCode s.client = 0 :=
    (clientStateCode_eq_zero_iff s).mpr (by simp [Live, hstate])
  unfold zclientConnect validateClientState at h
  rw [exec_readClient_bind, if_neg (not_not.mpr hcode), exec_readClient_bind,
    if_neg (by simp [hstate]), if_pos hb] at h
  obtain ⟨failed, es₁, s₁, es₂, hcreate, hrest, -⟩ := Prog.exec_bind.mp h
  have haddress := createHandle_address hstate hcreate
  cases failed with
  | some rc' =>
    obtain ⟨-, -, rfl⟩ := hrest
    exact haddress
  | none =>
    have hsession : (connectSession b).Exec s₁ rc es₂ s' := hrest
    rw [connectSession_address hsession, haddress]

/-- A client that is connected, or was never initialised, is not connected again. -/
theorem ConnectOutcome.no_effects (h : ConnectOutcome b s rc es s')
    (hidle : Live s → s.client.currentState = .connected) : es = [] := by
  cases h with
  | refused _ => rfl
  | already _ => rfl
  | pahoC _ hlive hstate | unreachable _ hlive hstate | timeChanged _ hlive hstate
  | rejected _ hlive hstate | connected _ hlive hstate => exact absurd (hidle hlive) hstate

/-- Only the embedded build marks a client as disconnected when it cannot be connected. -/
theorem ConnectOutcome.not_disconnected (hb : b.pahoC = true) (h : ConnectOutcome b s rc es s')
    (hs : s.client.currentState ≠ .disconnected) : s'.client.currentState ≠ .disconnected := by
  cases h with
  | refused _ => exact hs
  | already _ => exact hs
  | pahoC _ _ _ _ _ _ _ hmoves =>
    rw [hmoves.state]
    split
    · simp
    · exact hs
  | unreachable hb' | timeChanged hb' | rejected hb' | connected hb' =>
    rw [hb] at hb'
    simp at hb'

end Connect

/-! ## Runs -/

/-- Has a call set the port? -/
def PortLowered (b : Build) (records : List (PortRecord τ)) : Prop :=
  ∃ r ∈ records, LowersPort b r

/-- What holds along a run in a TLS build: the port is known from the calls so far, and with
Paho C no client is left disconnected. -/
structure PortKnown (b : Build) (records : List (PortRecord τ)) (P : Process τ) : Prop where
  lowered : PortLowered b records → P.globals.zport = 1883
  kept : ¬ PortLowered b records → P.globals.zport = 8883
  state : b.pahoC = true → ∀ client, (P.clients client).currentState ≠ .disconnected

/-- The port has been lowered before the last call or by it. -/
theorem portLowered_snoc {b : Build} {records : List (PortRecord τ)} {r : PortRecord τ} :
    PortLowered b (records ++ [r]) ↔ PortLowered b records ∨ LowersPort b r := by
  unfold PortLowered
  simp only [List.mem_append, List.mem_singleton, or_and_right, exists_or, exists_eq_left]

/-- A call that leaves the port alone. -/
theorem PortKnown.of_zport {b : Build} {records : List (PortRecord τ)} {r : PortRecord τ}
    (h : PortKnown b records r.before) (hr : ¬ LowersPort b r)
    (hport : r.after.globals.zport = r.before.globals.zport)
    (hstate : b.pahoC = true → ∀ client, (r.after.clients client).currentState ≠ .disconnected) :
    PortKnown b (records ++ [r]) r.after := by
  refine ⟨fun hlow => ?_, fun hlow => ?_, hstate⟩
  · rw [hport]
    exact h.lowered ((portLowered_snoc.mp hlow).resolve_right hr)
  · rw [hport]
    exact h.kept fun hlow' => hlow (portLowered_snoc.mpr (.inl hlow'))

/-- A `zclient_init` sets the port whatever the environment answers. -/
theorem lowersPort_init_iff {b : Build} (hsecure : b.secureConnection = true) {r : PortRecord τ}
    {client : τ} {args : InitArgs} (hcall : r.call = .init client args) (w : Answer) :
    LowersPort b r ↔ initRegisters b args w (r.before.sdk client) = true ∧
      b.secureConnection = true ∧ (r.before.sdk client).globals.tlsMode = false := by
  constructor
  · rintro ⟨client', args', hinit, htls, hregisters⟩
    rw [hcall] at hinit
    obtain ⟨rfl, rfl⟩ := PortCall.init.inj hinit
    exact ⟨(initRegisters_of_tls_off htls _ _).trans hregisters, hsecure, htls⟩
  · rintro ⟨hregisters, -, htls⟩
    exact ⟨client, args, hcall, htls, (initRegisters_of_tls_off htls _ _).trans hregisters⟩

variable [DecidableEq τ]

/-- The state of a client after a call on it. -/
theorem Process.store_state {P : Process τ} {client : τ} {s : Sdk}
    (hP : ∀ c, (P.clients c).currentState ≠ .disconnected)
    (hs : s.client.currentState ≠ .disconnected) (c : τ) :
    ((P.store client s).clients c).currentState ≠ .disconnected := by
  unfold Process.store
  by_cases hc : c = client
  · subst hc
    simpa using hs
  · simpa [Function.update_of_ne hc] using hP c

/-- A call on one client is a call on the state of that client. -/
theorem Process.exec_of_zoom {P P' : Process τ} {client : τ} {p : ClientM Unit} {es : List Effect}
    (h : (p.zoom (fun P => P.sdk client) fun s P => P.store client s).Exec P () es P') :
    ∃ s, p.Exec (P.sdk client) () es s ∧ P' = P.store client s := by
  refine Prog.exec_of_zoom ?_ ?_ ?_ h
  · intro s P
    simp [Process.sdk, Process.store]
  · intro s s' P
    simp [Process.store]
  · intro P
    simp [Process.sdk, Process.store]

/-- What every call does. -/
theorem PortKnown.step {b : Build} (hsecure : b.secureConnection = true)
    {records : List (PortRecord τ)} {r : PortRecord τ} (h : PortKnown b records r.before)
    (hexec : (r.call.prog b).Exec r.before () r.effects r.after) :
    PortKnown b (records ++ [r]) r.after := by
  cases hcall : r.call with
  | setTls state =>
    have hlow : ¬ LowersPort b r := fun ⟨_, _, hinit, _⟩ => by simp [hcall] at hinit
    rw [hcall] at hexec
    obtain ⟨w, es, -, -, -, hafter⟩ := hexec
    exact h.of_zport hlow (by rw [hafter]) (by rw [hafter]; exact h.state)
  | init client args =>
    rw [hcall] at hexec
    obtain ⟨w, es, -, -, -, hafter⟩ := hexec
    have hglobals : r.after.globals = (initSdk b args w (r.before.sdk client)).2.globals := by
      rw [hafter]
      rfl
    rw [initSdk_globals] at hglobals
    have hlow := lowersPort_init_iff hsecure hcall w
    have hstate : b.pahoC = true → ∀ c, (r.after.clients c).currentState ≠ .disconnected := by
      intro hb c
      rw [hafter]
      refine Process.store_state (h.state hb) ?_ c
      exact (initSdk_cases b args w _).not_disconnected (h.state hb client)
    by_cases hr : LowersPort b r
    · rw [if_pos (hlow.mp hr)] at hglobals
      refine ⟨fun _ => by rw [hglobals], fun hnot => ?_, hstate⟩
      exact absurd (portLowered_snoc.mpr (.inr hr)) hnot
    · rw [if_neg fun hcond => hr (hlow.mpr hcond)] at hglobals
      exact h.of_zport hr (by rw [hglobals]; rfl) hstate
  | connect client =>
    have hlow : ¬ LowersPort b r := fun ⟨_, _, hinit, _⟩ => by simp [hcall] at hinit
    rw [hcall] at hexec
    obtain ⟨s, hprog, hafter⟩ := Process.exec_of_zoom hexec
    obtain ⟨rc, hprog⟩ := exec_of_discard hprog
    have hglobals : s.globals = r.before.globals :=
      (connectionStep_connect _ _ _ _ trivial hprog).globals
    refine h.of_zport hlow ?_ fun hb c => ?_
    · rw [hafter]
      exact congrArg Globals.zport hglobals
    · rw [hafter]
      refine Process.store_state (h.state hb) ?_ c
      exact (connect_cases hprog).not_disconnected hb (h.state hb client)

/-- The port is known in every reached state, by induction on the run. -/
theorem portKnown_of_run {b : Build} (hsecure : b.secureConnection = true)
    {records : List (PortRecord τ)} {P : Process τ} (hrun : PortRun b (Process.new b) records P) :
    PortKnown b records P := by
  have hnew : PortKnown b ([] : List (PortRecord τ)) (Process.new b) := by
    have hport : (Globals.initial b).zport = 8883 := if_pos hsecure
    refine ⟨fun hlow => ?_, fun _ => hport, fun _ _ => ?_⟩
    · obtain ⟨r, hmem, -⟩ := hlow
      simp at hmem
    · simp [Process.new]
  refine hrun.invariant (I := fun P records => PortKnown b records P) hnew ?_
  · intro P records call log P' h hexec
    exact PortKnown.step hsecure (r := ⟨P, call, log, P'⟩) h (Prog.exec_of_logged hexec)

/-- The port of an address. -/
theorem port_of_address (front : CString) {port port' : ℤ}
    (hlength : (intText port).length = (intText port').length) :
    ':' :: intText port <:+ front ++ ':' :: intText port' ↔ intText port = intText port' := by
  constructor
  · intro h
    have hsuffix := List.suffix_of_suffix_length_le h (List.suffix_append front _)
      (by simp [hlength])
    have heq := hsuffix.eq_of_length (by simp [hlength])
    exact (List.cons.inj heq).2
  · intro h
    rw [h]
    exact List.suffix_append _ _

/-- The two ports have texts of one length and differ. -/
theorem intText_portOf (tlsMode tlsMode' : Bool) :
    (intText (portOf tlsMode)).length = (intText (portOf tlsMode')).length ∧
      (intText (portOf tlsMode) = intText (portOf tlsMode') ↔ tlsMode = tlsMode') := by
  revert tlsMode tlsMode'
  decide

section Uses

variable {b : Build} {r : PortRecord τ} {client : τ} {tlsMode : Bool} {s : Sdk} {rc : ℤ}

/-- With Paho C, the port is in the address of the handle. -/
theorem usesPort_iff_of_pahoC (hb : b.pahoC = true)
    (hprog : (zclientConnect b).Exec (r.before.sdk client) rc r.effects s)
    (hafter : r.after = r.before.store client s)
    (hport : r.before.globals.zport = portOf tlsMode)
    (hstate : (r.before.clients client).currentState = .initialized) :
    UsesPort b client r (portOf r.before.globals.tlsMode) ↔
      r.before.globals.tlsMode = tlsMode := by
  obtain ⟨haddress, hattempt⟩ := connect_address hb hstate hprog
  have hafter' : (r.after.clients client).address = serverAddress b (r.before.sdk client) := by
    rw [hafter]
    simpa [Process.store] using haddress
  obtain ⟨hlength, hinj⟩ := intText_portOf r.before.globals.tlsMode tlsMode
  rw [UsesPort, if_pos hb, hafter', serverAddress]
  simp only [hattempt, forall_const, Process.sdk, hport]
  rw [port_of_address _ hlength, hinj]

omit [DecidableEq τ] in
/-- In the embedded build, the port is that of the network connection. -/
theorem usesPort_iff_of_embedded (hb : b.pahoC = false)
    (hprog : (zclientConnect b).Exec (r.before.sdk client) rc r.effects s)
    (hport : r.before.globals.zport = portOf tlsMode) (hlive : Live (r.before.sdk client))
    (hstate : (r.before.sdk client).client.currentState ≠ .connected) :
    UsesPort b client r (portOf r.before.globals.tlsMode) ↔
      r.before.globals.tlsMode = tlsMode := by
  obtain ⟨⟨rc', hmem⟩, hall⟩ := connect_port hb hlive hstate hprog
  have hinj := (intText_portOf r.before.globals.tlsMode tlsMode).2
  have hzport : (r.before.sdk client).globals.zport = portOf tlsMode := hport
  rw [hzport] at hmem hall
  rw [UsesPort, if_neg (by simp [hb])]
  constructor
  · intro h
    have heq := h _ _ hmem
    exact hinj.mp (by rw [heq])
  · intro h port rc'' hmem'
    rw [h]
    exact hall port rc'' hmem'

/-- One `zclient_connect`, made where the port is that of a TLS mode. -/
theorem usesPort_iff (hcall : r.call = .connect client)
    (hexec : (r.call.prog b).Exec r.before () r.effects r.after)
    (hport : r.before.globals.zport = portOf tlsMode)
    (hstate : b.pahoC = true → (r.before.clients client).currentState ≠ .disconnected) :
    UsesPort b client r (portOf r.before.globals.tlsMode) ↔
      (TriesToConnect client r → r.before.globals.tlsMode = tlsMode) := by
  rw [hcall] at hexec
  obtain ⟨s, hprog, hafter⟩ := Process.exec_of_zoom hexec
  obtain ⟨rc, hprog⟩ := exec_of_discard hprog
  by_cases htries : TriesToConnect client r
  · obtain ⟨-, hlive, hconn⟩ := htries
    have hiff : UsesPort b client r (portOf r.before.globals.tlsMode) ↔
        r.before.globals.tlsMode = tlsMode := by
      cases hb : b.pahoC with
      | true =>
        have hinit : (r.before.clients client).currentState = .initialized := by
          have hne := hstate hb
          cases hst : (r.before.clients client).currentState <;> simp_all
        exact usesPort_iff_of_pahoC hb hprog hafter hport hinit
      | false => exact usesPort_iff_of_embedded hb hprog hport hlive hconn
    rw [hiff]
    exact ⟨fun h _ => h, fun h => h ⟨hcall, hlive, hconn⟩⟩
  · refine ⟨fun _ h => absurd h htries, fun _ => ?_⟩
    have hes : r.effects = [] := by
      refine (connect_cases hprog).no_effects fun hlive => ?_
      by_contra hne
      exact htries ⟨hcall, hlive, hne⟩
    unfold UsesPort
    rw [hes]
    split <;> simp

end Uses

/-- In a TLS build, for every run of `zclient_set_tls`, `zclient_init` and `zclient_connect` on
any number of clients: every connection goes to port 8883 if TLS is on and to port 1883 if it
is off, at the time of the `zclient_connect`, if and only if TLS is on at each attempt that is
made before the first `zclient_init` that sets the port, and off at each one after it. -/
theorem connect_port_iff (b : Build) (hsecure : b.secureConnection = true)
    {records : List (PortRecord τ)} {P : Process τ} (hrun : PortRun b (Process.new b) records P) :
    (∀ r ∈ records, ∀ client, r.call = .connect client →
      UsesPort b client r (portOf r.before.globals.tlsMode)) ↔
    EachAfter (fun earlier r => ∀ client, TriesToConnect client r →
      (r.before.globals.tlsMode = true ↔ ∀ e ∈ earlier, ¬ LowersPort b e)) records := by
  induction hrun with
  | nil => simp
  | @snoc P P' records call log hbefore hexec ih =>
    have hknown := portKnown_of_run hsecure hbefore
    rw [eachAfter_snoc, ← ih]
    simp only [List.mem_append, List.mem_singleton, or_imp, forall_and, forall_eq]
    refine and_congr_right fun _ => forall_congr' fun client => ?_
    by_cases hcall : call = .connect client
    · rw [forall_prop_of_true hcall]
      have hiff : ∀ tlsMode, P.globals.zport = portOf tlsMode → _ := fun tlsMode hport =>
        usesPort_iff (r := ⟨P, call, log, P'⟩) hcall (Prog.exec_of_logged hexec) hport
          fun hb => hknown.state hb client
      have hlowered : (∀ e ∈ records, ¬ LowersPort b e) ↔ ¬ PortLowered b records := by
        simp [PortLowered]
      rw [hlowered]
      by_cases hlow : PortLowered b records
      · rw [hiff false (hknown.lowered hlow)]
        simp [hlow]
      · rw [hiff true (hknown.kept hlow)]
        simp [hlow]
    · exact iff_of_true (fun h => absurd h hcall) fun h => absurd h.1 hcall

/-- The embedded build with TLS. -/
def secureBuild : Build := { embeddedBuild with secureConnection := true }

/-- The credentials of a device, with a certificate of the server. -/
def secureArgs (device : ℕ) : InitArgs := { deviceArgs device with caCrt := some "ca.pem".toList }

/-- The port that a `zclient_connect` asked for. -/
def Effect.port? : Effect → Option ℤ
  | .networkConnect port _ => some port
  | _ => none

/-- Is the call a `zclient_connect`? -/
def PortCall.isConnect : PortCall τ → Bool
  | connect _ => true
  | _ => false

/-- A client is connected over TLS, and then another one without. -/
theorem connect_port_tls_first : ∃ records P,
    PortRun secureBuild (Process.new secureBuild : Process ℕ) records P ∧
    records.map Atomic.Record.call = [.init 0 (secureArgs 7), .connect 0, .setTls false,
      .init 1 (deviceArgs 8), .connect 1] ∧
    ∀ r ∈ records, ∀ client, r.call = .connect client →
      UsesPort secureBuild client r (portOf r.before.globals.tlsMode) := by
  obtain ⟨records, P, hrun, hcalls, htest⟩ := Atomic.exists_recorded (PortCall.prog secureBuild)
    [(.init 0 (secureArgs 7), [{}]), (.connect 0, List.replicate 20 {}), (.setTls false, [{}]),
      (.init 1 (deviceArgs 8), [{}]), (.connect 1, List.replicate 20 {})] (Process.new secureBuild)
    (fun x => Atomic.checkAfter (fun earlier (r : PortRecord ℕ) => decide (r.call.isConnect = true →
      (r.before.globals.tlsMode = true ↔ ∀ e ∈ earlier, ¬ LowersPort secureBuild e))) x.1)
    (by decide +kernel)
  refine ⟨records, P, hrun, hcalls, (connect_port_iff secureBuild rfl hrun).mpr ?_⟩
  refine Atomic.eachAfter_of_check htest fun earlier r hr client htries => ?_
  exact of_decide_eq_true hr (by rw [htries.1]; rfl)

/-- A client is initialised with TLS, another one without, and the first one is connected with
TLS on again: it goes to port 1883. -/
theorem connect_port_overwritten : ∃ records P,
    PortRun secureBuild (Process.new secureBuild : Process ℕ) records P ∧
    records.map Atomic.Record.call = [.init 0 (secureArgs 7), .setTls false,
      .init 1 (deviceArgs 8), .setTls true, .connect 0] ∧
    ¬ ∀ r ∈ records, ∀ client, r.call = .connect client →
      UsesPort secureBuild client r (portOf r.before.globals.tlsMode) := by
  obtain ⟨records, P, hrun, hcalls, htest⟩ := Atomic.exists_recorded (PortCall.prog secureBuild)
    [(.init 0 (secureArgs 7), [{}]), (.setTls false, [{}]), (.init 1 (deviceArgs 8), [{}]),
      (.setTls true, [{}]), (.connect 0, List.replicate 20 {})] (Process.new secureBuild)
    (fun x => x.1.getLast?.any fun (r : PortRecord ℕ) => r.before.globals.tlsMode &&
      r.effects.any (·.port? = some 1883))
    (by decide +kernel)
  obtain ⟨r, hr, hlast⟩ := (Option.any_eq_true _ _).mp htest
  simp only [Bool.and_eq_true, List.any_eq_true, decide_eq_true_eq] at hlast
  obtain ⟨htls, e, he, hport⟩ := hlast
  have hcall : r.call = .connect 0 := by
    have hlast := congrArg List.getLast? hcalls
    rw [List.getLast?_map, hr] at hlast
    simpa using hlast
  refine ⟨records, P, hrun, hcalls, fun hall => ?_⟩
  have huses : ∀ port rc, .networkConnect port rc ∈ r.effects → port = portOf _ :=
    hall r (List.mem_of_getLast? hr) 0 hcall
  cases e with
  | networkConnect port rc =>
    have hbad := huses port rc he
    rw [htls] at hbad
    simp [Effect.port?, hbad, portOf] at hport
  | _ => simp [Effect.port?] at hport

end ZohoIotSdk
