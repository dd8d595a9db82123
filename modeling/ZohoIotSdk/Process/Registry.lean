import Mathlib.Data.List.TakeWhile
import ZohoIotSdk.Process.Topics
import ZohoIotSdk.Session.Outcomes

/-!
# The registry of clients

A process can have several clients. With the Paho C library the client that a message is for
comes with the message; in the embedded build it is looked up by the topic, in a registry that
`zclient_init` fills and that nothing is ever removed from. `receiver_eq_iff` says when the two
agree.
-/

namespace ZohoIotSdk

open Atomic (Prog)

variable {τ : Type} [DecidableEq τ]

/-! ## Several clients -/

/-- `MAX_CLIENT_REGISTRY`. -/
def maxClientRegistry : ℕ := 16

/-- The client structures of a process, by their addresses, and what they share. -/
structure Process (τ : Type) where
  clients : τ → ZohoIOTclient
  globals : Globals
  clientRegistry : List τ

/-- `initMessageHandler`. -/
def initMessageHandler (client : τ) (clientRegistry : List τ) : List τ :=
  if client ∈ clientRegistry then clientRegistry
  else if clientRegistry.length < maxClientRegistry then clientRegistry ++ [client]
  else clientRegistry

/-- Does `zclient_init` get as far as `initMessageHandler`? -/
def initRegisters (b : Build) (args : InitArgs) (w : Answer) (s : Sdk) : Bool :=
  match initConfig b s.globals args with
  | none => false
  | some config => (writtenClient config s).1 &&
    (initCerts b s.globals args w (writtenClient config s).2.certs).1

namespace Process

/-- One client as the functions of the SDK see it. -/
def sdk (P : Process τ) (client : τ) : Sdk := { client := P.clients client, globals := P.globals }

/-- The process after a function has worked on one client. -/
def store (P : Process τ) (client : τ) (s : Sdk) : Process τ :=
  { P with clients := Function.update P.clients client s.client, globals := s.globals }

/-- `findClientByTopic`. -/
def findClientByTopic (P : Process τ) (topic : CString) : Option τ :=
  P.clientRegistry.find? fun c =>
    decide (topic = (P.clients c).commandTopic) || decide (topic = (P.clients c).configTopic)

/-- The client that a message is handed to. The Paho C library passes the context that
`zclient_connect` set, the client itself; `processMessageReceived` looks the topic up. -/
def receiver (b : Build) (P : Process τ) (context : τ) (topic : CString) : Option τ :=
  if b.pahoC then some context else P.findClientByTopic topic

/-- `zclient_init` on one of the clients. -/
def init (b : Build) (args : InitArgs) (w : Answer) (client : τ) (P : Process τ) : Process τ :=
  { P.store client (initSdk b args w (P.sdk client)).2 with
    clientRegistry := if initRegisters b args w (P.sdk client) then
      initMessageHandler client P.clientRegistry else P.clientRegistry }

end Process

/-- A call on one of the clients that begins or ends its life. -/
inductive LifeCall (τ : Type) where
  | init (client : τ) (args : InitArgs)
  | free (client : τ)

/-- `LifeRun b P₀ calls P`: the calls, made one after the other from `P₀`, succeed and lead
to `P`. -/
inductive LifeRun (b : Build) (P₀ : Process τ) : List (LifeCall τ) → Process τ → Prop
  | nil : LifeRun b P₀ [] P₀
  | init {calls : List (LifeCall τ)} {P : Process τ} (before : LifeRun b P₀ calls P) {client : τ}
      {args : InitArgs} {w : Answer} (h : (initSdk b args w (P.sdk client)).1 = zsuccess) :
      LifeRun b P₀ (calls ++ [.init client args]) (P.init b args w client)
  | free {calls : List (LifeCall τ)} {P : Process τ} (before : LifeRun b P₀ calls P) {client : τ}
      {es : List Effect} {s : Sdk} (h : (zclientFree b).Exec (P.sdk client) zsuccess es s) :
      LifeRun b P₀ (calls ++ [.free client]) (P.store client s)

namespace LifeCall

def client : LifeCall τ → τ
  | init client _ | free client => client

/-- The structure that is initialised. -/
def initialised : LifeCall τ → Option τ
  | init client _ => some client
  | free _ => none

/-- Is the client initialised and not freed, after these calls? -/
def live (calls : List (LifeCall τ)) (client : τ) : Bool :=
  calls.foldl (fun alive call =>
    if call.client = client then call.initialised.isSome else alive) false

/-- The structures that were initialised, in the order of the calls. -/
def initClients (calls : List (LifeCall τ)) : List τ := calls.filterMap initialised

omit [DecidableEq τ] in
/-- An initialisation adds its client. -/
@[simp] theorem initClients_init (calls : List (LifeCall τ)) (client : τ) (args : InitArgs) :
    initClients (calls ++ [init client args]) = initClients calls ++ [client] :=
  List.filterMap_append

omit [DecidableEq τ] in
/-- A `zclient_free` adds no client. -/
@[simp] theorem initClients_free (calls : List (LifeCall τ)) (client : τ) :
    initClients (calls ++ [free client]) = initClients calls := by
  rw [initClients, List.filterMap_append]
  exact List.append_nil _

/-- The first structures that were initialised, as many as the registry can hold. -/
def firstClients (calls : List (LifeCall τ)) : List τ :=
  (initClients calls).eraseDups.take maxClientRegistry

/-- A client is live when its last call has initialised it. -/
theorem live_snoc (calls : List (LifeCall τ)) (call : LifeCall τ) (client : τ) :
    live (calls ++ [call]) client =
      if call.client = client then call.initialised.isSome else live calls client := by
  rw [live, List.foldl_append]
  rfl

/-- A client that is alive was initialised. -/
theorem mem_of_live {calls : List (LifeCall τ)} {client : τ} (h : live calls client = true) :
    client ∈ initClients calls := by
  induction calls using List.reverseRecOn with
  | nil => simp [live] at h
  | append_singleton calls call ih =>
    rw [live_snoc] at h
    cases call with
    | init c args =>
      rw [initClients_init, List.mem_append, List.mem_singleton]
      split at h
      · rename_i hclient
        exact .inr hclient.symm
      · exact .inl (ih h)
    | free c =>
      rw [initClients_free]
      split at h
      · simp [initialised] at h
      · exact ih h

end LifeCall

open LifeCall (live initClients firstClients)

/-! ## What the registry holds -/

/-- The registry goes on to hold the first structures that were initialised. -/
theorem initMessageHandler_firstClients (calls : List (LifeCall τ)) (client : τ)
    (args : InitArgs) : initMessageHandler client (firstClients calls) =
      firstClients (calls ++ [.init client args]) := by
  unfold firstClients initMessageHandler
  rw [LifeCall.initClients_init, List.eraseDups_append]
  by_cases hmem : client ∈ initClients calls
  · have hnew : [client].removeAll (initClients calls) = [] := by
      simpa [List.removeAll] using hmem
    rw [hnew, List.eraseDups_nil, List.append_nil]
    split
    · rfl
    · rename_i htake
      -- it was left out before, so the registry is full
      refine if_neg fun hlength => htake ?_
      rw [List.length_take] at hlength
      rw [List.take_of_length_le (by omega)]
      exact List.mem_eraseDups.mpr hmem
  · have hnew : ([client].removeAll (initClients calls)).eraseDups = [client] := by
      rw [show [client].removeAll (initClients calls) = [client] by
        simpa [List.removeAll] using hmem]
      rfl
    have htake : client ∉ (initClients calls).eraseDups.take maxClientRegistry :=
      fun h => hmem (List.mem_eraseDups.mp (List.mem_of_mem_take h))
    rw [hnew, if_neg htake, List.length_take]
    split
    · rename_i hlength
      rw [List.take_of_length_le (by omega), List.take_of_length_le]
      rw [List.length_append, List.length_singleton]
      omega
    · rename_i hlength
      rw [List.take_append_of_le_length (by omega)]

/-- What holds of the registry and of the clients after every run. -/
structure Registered (calls : List (LifeCall τ)) (P : Process τ) : Prop where
  registry : P.clientRegistry = firstClients calls
  topics : ∀ c ∈ initClients calls, OwnTopics (P.clients c)

/-- A client whose initialisation succeeds is registered. -/
theorem initRegisters_of_success {b : Build} {args : InitArgs} {w : Answer} {s : Sdk}
    (h : (initSdk b args w s).1 = zsuccess) : initRegisters b args w s = true := by
  obtain ⟨config, hconfig, hfit, hcerts, -⟩ := initSdk_success h
  rw [initRegisters, hconfig]
  simp [hfit, hcerts]

/-- `zclient_free` leaves the topics in the structure. -/
theorem free_ownTopics {b : Build} {s s' : Sdk} {rc : ℤ} {es : List Effect}
    (h : (zclientFree b).Exec s rc es s') (hs : OwnTopics s.client) : OwnTopics s'.client := by
  rcases free_cases h with ⟨-, rfl, -⟩ | ⟨-, rfl, -⟩
  · exact ⟨hs.command, hs.config⟩
  · exact hs

/-- The invariant of the registry holds in every reached state, by induction on the run. -/
theorem registered_of_run {b : Build} {P₀ P : Process τ} {calls : List (LifeCall τ)}
    (h : LifeRun b P₀ calls P) (h₀ : P₀.clientRegistry = []) : Registered calls P := by
  induction h with
  | nil => exact ⟨h₀, by simp [initClients]⟩
  | @init calls P _ client args w hinit ih =>
    constructor
    · rw [Process.init, if_pos (initRegisters_of_success hinit), ih.registry,
        initMessageHandler_firstClients]
    · intro c hc
      show OwnTopics (Function.update P.clients client _ c)
      rcases eq_or_ne c client with rfl | hne
      · rw [Function.update_self]
        exact ownTopics_of_init hinit
      · rw [Function.update_of_ne hne]
        rw [LifeCall.initClients_init, List.mem_append, List.mem_singleton] at hc
        exact ih.topics c (hc.resolve_right hne)
  | @free calls P _ client es s hfree ih =>
    constructor
    · rw [firstClients, LifeCall.initClients_free]
      exact ih.registry
    · intro c hc
      rw [LifeCall.initClients_free] at hc
      show OwnTopics (Function.update P.clients client _ c)
      rcases eq_or_ne c client with rfl | hne
      · rw [Function.update_self]
        exact free_ownTopics hfree (ih.topics c hc)
      · rw [Function.update_of_ne hne]
        exact ih.topics c hc

/-! ## Looking a client up -/

/-- The first element that satisfies `p`. -/
theorem find?_eq_some_iff_takeWhile {p : τ → Bool} {l : List τ} {c : τ} : l.find? p = some c ↔
    c ∈ l ∧ p c = true ∧ ∀ x ∈ l.takeWhile (fun x => decide (x ≠ c)), p x = false := by
  induction l with
  | nil => simp
  | cons x l ih =>
    rcases eq_or_ne x c with rfl | hne
    · cases hp : p x with
      | true => simp [hp]
      | false =>
        -- no search returns an element that fails the test
        refine ⟨fun h => ?_, fun h => by simp at h⟩
        have hfound := List.find?_some h
        simp [hp] at hfound
    · cases hp : p x with
      | true => simp [hp, hne]
      | false => simp [hp, hne, hne.symm, ih]

/-- The id that the structure was initialised with last. -/
def Process.clientId (P : Process τ) (client : τ) : CString :=
  (P.clients client).config.clientId.getD []

/-- After every sequence of calls of `zclient_init` and `zclient_free` on any number of clients,
if those that are alive have different client ids, and for every message on the command or
config topic of a live client `c`: the embedded build hands it to the client that the Paho C
build does, which is `c`, if and only if `c` is one of the first structures that were
initialised, as many as the registry can hold, and no structure that was initialised before
`c` and is freed had the same client id. -/
theorem receiver_eq_iff {b b' : Build} (hb : b.pahoC = false) (hb' : b'.pahoC = true)
    {P₀ P : Process τ} (h₀ : P₀.clientRegistry = []) {calls : List (LifeCall τ)}
    (hrun : LifeRun b P₀ calls P)
    (hids : ∀ p q, live calls p = true → live calls q = true → P.clientId p = P.clientId q → p = q)
    {c : τ} (hlive : live calls c = true) {topic : CString}
    (htopic : topic = (P.clients c).commandTopic ∨ topic = (P.clients c).configTopic) :
    P.receiver b c topic = P.receiver b' c topic ↔ c ∈ firstClients calls ∧
      ∀ p ∈ (firstClients calls).takeWhile (fun p => decide (p ≠ c)),
        live calls p = false → P.clientId p ≠ P.clientId c := by
  have hregistered := registered_of_run hrun h₀
  -- a registered structure listens to the topic if and only if it has the client id of `c`
  have hlistens : ∀ p ∈ initClients calls, (topic = (P.clients p).commandTopic ∨
      topic = (P.clients p).configTopic ↔ P.clientId p = P.clientId c) := fun p hp =>
    (hregistered.topics c (LifeCall.mem_of_live hlive)).listens_iff (hregistered.topics p hp) htopic
  have hinit : ∀ p ∈ (firstClients calls).takeWhile (fun p => decide (p ≠ c)),
      p ∈ initClients calls ∧ p ≠ c := by
    intro p hp
    have hmem : p ∈ firstClients calls := List.takeWhile_subset _ hp
    have hne := List.mem_takeWhile_imp hp
    exact ⟨List.mem_eraseDups.mp (List.mem_of_mem_take hmem), by simpa using hne⟩
  rw [Process.receiver, if_neg (by simp [hb]), Process.receiver, if_pos hb',
    Process.findClientByTopic, hregistered.registry, find?_eq_some_iff_takeWhile]
  refine and_congr_right fun _ => ?_
  rw [and_iff_right (by simpa using htopic)]
  refine forall₂_congr fun p hp => ?_
  obtain ⟨hp, hne⟩ := hinit p hp
  rw [← Bool.not_eq_true, Bool.or_eq_true, decide_eq_true_eq, decide_eq_true_eq, hlistens p hp]
  constructor
  · exact fun h _ => h
  · intro h heq
    cases halive : live calls p with
    | true => exact hne (hids p c halive hlive heq)
    | false => exact h halive heq

/-! ## Concrete runs -/

/-- A process before its first call, with clients at numbered addresses. -/
def newProcess : Process ℕ := { clients := fun _ => {}, globals := {}, clientRegistry := [] }

/-- In the embedded build nothing changes in a client that is freed while it is not
connected. -/
theorem LifeRun.free_idle {b : Build} (hb : b.pahoC = false) {P₀ P : Process τ}
    {calls : List (LifeCall τ)} (h : LifeRun b P₀ calls P) (client : τ)
    (hstate : (P.clients client).currentState ≠ .connected) :
    LifeRun b P₀ (calls ++ [.free client]) P := by
  have hfree : (zclientFree b).Exec (P.sdk client) zsuccess [] (P.sdk client) := by
    rw [zclientFree, exec_readClient_bind,
      if_neg (show (P.sdk client).client.currentState ≠ .connected from hstate),
      if_neg (by simp [hb])]
    exact ⟨rfl, rfl, rfl⟩
  have hstore : P.store client (P.sdk client) = P := by
    simp [Process.store, Process.sdk]
  have hrun := h.free hfree
  rwa [hstore] at hrun

/-- Initialise clients one after the other, at the given addresses and with the given devices. -/
def initAll : List (ℕ × ℕ) → Process ℕ → Process ℕ
  | [], P => P
  | x :: rest, P => initAll rest (P.init embeddedBuild (deviceArgs x.2) {} x.1)

/-- Do all of them succeed? -/
def initAllSucceed : List (ℕ × ℕ) → Process ℕ → Bool
  | [], _ => true
  | x :: rest, P => decide ((initSdk embeddedBuild (deviceArgs x.2) {} (P.sdk x.1)).1 = zsuccess) &&
    initAllSucceed rest (P.init embeddedBuild (deviceArgs x.2) {} x.1)

/-- Initialising the devices one by one extends the run. -/
theorem LifeRun.initAll {P₀ P : Process ℕ} {calls : List (LifeCall ℕ)}
    (h : LifeRun embeddedBuild P₀ calls P) (devices : List (ℕ × ℕ))
    (hdevices : initAllSucceed devices P = true) :
    LifeRun embeddedBuild P₀ (calls ++ devices.map fun x => .init x.1 (deviceArgs x.2))
      (ZohoIotSdk.initAll devices P) := by
  induction devices generalizing calls P with
  | nil =>
    rw [List.map_nil, List.append_nil]
    exact h
  | cons x rest ih =>
    rw [initAllSucceed, Bool.and_eq_true, decide_eq_true_eq] at hdevices
    have hrest := ih (h.init hdevices.1) hdevices.2
    rwa [List.append_assoc] at hrest

/-- Only the structures that were initialised need to be compared. -/
theorem ids_differ {calls : List (LifeCall τ)} {P : Process τ}
    (h : ∀ p ∈ initClients calls, ∀ q ∈ initClients calls, live calls p = true →
      live calls q = true → P.clientId p = P.clientId q → p = q) (p q : τ)
    (hp : live calls p = true) (hq : live calls q = true) (heq : P.clientId p = P.clientId q) :
    p = q :=
  h p (LifeCall.mem_of_live hp) q (LifeCall.mem_of_live hq) hp hq heq

/-- Two clients with different ids: the second is found by its command topic. -/
theorem receiver_eq_two : ∃ P : Process ℕ,
    LifeRun embeddedBuild newProcess [.init 0 (deviceArgs 7), .init 1 (deviceArgs 8)] P ∧
    P.receiver embeddedBuild 1 (P.clients 1).commandTopic =
      P.receiver plainBuild 1 (P.clients 1).commandTopic := by
  have hempty : LifeRun embeddedBuild newProcess [] newProcess := .nil
  have hrun := hempty.initAll [(0, 7), (1, 8)] (by decide +kernel)
  refine ⟨_, hrun, (receiver_eq_iff rfl rfl rfl hrun (ids_differ ?_) ?_ (.inl rfl)).mpr ?_⟩
  · decide +kernel
  · decide +kernel
  · decide +kernel

/-- A message for a live client, where the live clients have different ids, that the two builds
hand to different clients. -/
def Misrouted (calls : List (LifeCall ℕ)) (c : ℕ) (found : Option ℕ) : Prop :=
  ∃ P : Process ℕ, LifeRun embeddedBuild newProcess calls P ∧ live calls c = true ∧
    (∀ p q, live calls p = true → live calls q = true → P.clientId p = P.clientId q → p = q) ∧
    P.receiver embeddedBuild c (P.clients c).commandTopic = found ∧
    P.receiver plainBuild c (P.clients c).commandTopic = some c ∧ found ≠ some c

/-- For a new client with the id of one that was freed, the freed one is found; and for the
seventeenth client none is. -/
theorem receiver_ne_freed :
    Misrouted [.init 0 (deviceArgs 7), .free 0, .init 1 (deviceArgs 7)] 1 (some 0) ∧
    Misrouted ((List.range 17).map fun i => .init i (deviceArgs i)) 16 none := by
  have hempty : LifeRun embeddedBuild newProcess [] newProcess := .nil
  constructor
  · have hfirst := hempty.initAll [(0, 7)] (by decide +kernel)
    have hfreed := hfirst.free_idle rfl 0 (by decide +kernel)
    have hrun := hfreed.initAll [(1, 7)] (by decide +kernel)
    exact ⟨_, hrun, by decide, ids_differ (by decide +kernel), by decide +kernel, rfl, by decide⟩
  · have hrun := hempty.initAll ((List.range 17).map fun i => (i, i)) (by decide +kernel)
    rw [List.map_map] at hrun
    exact ⟨_, hrun, by decide +kernel, ids_differ (by decide +kernel), by decide +kernel, rfl,
      by decide⟩

end ZohoIotSdk
