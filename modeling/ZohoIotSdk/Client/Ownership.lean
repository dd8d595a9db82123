import ZohoIotSdk.Client.UserName

/-!
# What a rejected user name frees

`zclient_init` starts from a configuration of string constants, and `populateConfigObject`
replaces the host name and the client id by copies, as far as the user name has segments for
them. A user name that is rejected has both fields freed, copied or not. Here the strings
carry their origin, and every allocation may fail.
-/

namespace ZohoIotSdk

open Text (segments)

/-! ## The function, with the origin of every string -/

/-- Where a string comes from: the text of the program, or `cloneString`. -/
inductive Origin where
  | constant
  | cloned
deriving DecidableEq

/-- A string and its origin. -/
structure OwnedString where
  text : CString
  origin : Origin
deriving DecidableEq

/-- The two fields of the configuration that `populateConfigObject` writes. -/
structure OwnedConfig where
  hostname : Option OwnedString
  clientId : Option OwnedString

/-- Which of the three allocations of `populateConfigObject` succeed: the copy of the user
name, the host name and the client id. -/
structure Mallocs where
  userName : Bool := true
  hostname : Bool := true
  clientId : Bool := true

/-- `cloneString`: a null pointer stays one, and a failed allocation leaves one. -/
def cloneString (malloc : Bool) (source : CStringPtr) : Option OwnedString :=
  match source with
  | none => none
  | some text => if malloc then some { text := text, origin := .cloned } else none

/-- `populateLoop`, with origins. -/
def populateLoopOwned (malloc : Bool) :
    List CString → ℕ → Option OwnedString → ℕ × Option OwnedString
  | [], itrCnt, clientId =>
    (itrCnt + 1, if itrCnt + 1 = 3 then cloneString malloc none else clientId)
  | token :: rest, itrCnt, clientId =>
    populateLoopOwned malloc rest (itrCnt + 1)
      (if itrCnt + 1 = 3 then cloneString malloc (some token) else clientId)

/-- `populateConfigObject`, with origins; the list is what it passes to `free`. -/
def populateConfigOwned (m : Mallocs) (userName : CString) (config : OwnedConfig) :
    ℤ × OwnedConfig × List (Option OwnedString) :=
  if 64 ≤ userName.length then (zfailure, config, [])
  else if m.userName = false then (zfailure, config, [])
  else
    let hostname := cloneString m.hostname (strtok '/' userName).head?
    let (itrCnt, clientId) := match strtok '/' userName with
      | [] => (0, config.clientId)
      | _ :: rest => populateLoopOwned m.clientId rest 0 config.clientId
    if itrCnt ≠ 5 then (zfailure, { hostname := none, clientId := none }, [hostname, clientId])
    else (zsuccess, { hostname := hostname, clientId := clientId }, [])

/-- The configuration that `zclient_init` starts from. -/
def initialOwned : OwnedConfig where
  hostname := some { text := [], origin := .constant }
  clientId := some { text := [], origin := .constant }

/-! ## Without the origins -/

/-- With every allocation granted, the loop on owned strings is the loop on texts. -/
theorem populateLoopOwned_text (rest : List CString) (itrCnt : ℕ) (clientId : Option OwnedString) :
    populateLoop rest itrCnt (clientId.map OwnedString.text) =
      ((populateLoopOwned true rest itrCnt clientId).1,
        (populateLoopOwned true rest itrCnt clientId).2.map OwnedString.text) := by
  induction rest generalizing itrCnt clientId with
  | nil =>
    rw [populateLoop, populateLoopOwned]
    split <;> rfl
  | cons token rest ih =>
    rw [populateLoop, populateLoopOwned, ← ih]
    split <;> rfl

/-- Where all allocations succeed, it is the function of the source. -/
theorem populateConfigOwned_text (userName : CString) (owned : OwnedConfig) (config : Zconfig)
    (hhost : config.hostname = owned.hostname.map OwnedString.text)
    (hid : config.clientId = owned.clientId.map OwnedString.text) :
    populateConfigObject userName config =
      ((populateConfigOwned {} userName owned).1, { config with
        hostname := (populateConfigOwned {} userName owned).2.1.hostname.map OwnedString.text
        clientId :=
          (populateConfigOwned {} userName owned).2.1.clientId.map OwnedString.text }) := by
  unfold populateConfigObject populateConfigOwned
  by_cases hlength : 64 ≤ userName.length
  · rw [if_pos hlength, if_pos hlength, ← hhost, ← hid]
  rw [if_neg hlength, if_neg hlength, if_neg (show ¬ ({} : Mallocs).userName = false by decide)]
  cases strtok '/' userName with
  | nil => rfl
  | cons token rest =>
    have hloop := populateLoopOwned_text rest 0 owned.clientId
    rw [← hid] at hloop
    simp only [hloop]
    split
    · rfl
    · rfl

/-! ## What is freed -/

/-- The pointer may be passed to `free`: it is null, or comes from `cloneString`. -/
def Freeable (p : Option OwnedString) : Prop := ∀ s, p = some s → s.origin = .cloned

/-- A cloned string may be freed. -/
theorem freeable_cloneString (malloc : Bool) (source : CStringPtr) :
    Freeable (cloneString malloc source) := by
  intro s hs
  cases source with
  | none => simp [cloneString] at hs
  | some text =>
    cases malloc with
    | false => simp [cloneString] at hs
    | true =>
      obtain rfl := Option.some.inj hs
      rfl

/-- The counter is moved once for each segment and once more at the end. -/
theorem populateLoopOwned_count (malloc : Bool) (rest : List CString) (itrCnt : ℕ)
    (clientId : Option OwnedString) :
    (populateLoopOwned malloc rest itrCnt clientId).1 = itrCnt + rest.length + 1 := by
  induction rest generalizing itrCnt clientId with
  | nil => rfl
  | cons token rest ih =>
    rw [populateLoopOwned, ih, List.length_cons]
    omega

/-- The loop replaces the client id when it counts to three, and only then. -/
theorem populateLoopOwned_clientId (malloc : Bool) (rest : List CString) (itrCnt : ℕ)
    (clientId : Option OwnedString) :
    (3 ≤ itrCnt ∨ itrCnt + rest.length + 1 < 3 →
      (populateLoopOwned malloc rest itrCnt clientId).2 = clientId) ∧
    (itrCnt < 3 → 3 ≤ itrCnt + rest.length + 1 →
      Freeable (populateLoopOwned malloc rest itrCnt clientId).2) := by
  induction rest generalizing itrCnt clientId with
  | nil =>
    rw [populateLoopOwned, List.length_nil]
    constructor
    · intro h
      rw [if_neg (by omega)]
    · intro hlt hle
      rw [if_pos (by omega)]
      exact freeable_cloneString malloc none
  | cons token rest ih =>
    rw [populateLoopOwned, List.length_cons]
    by_cases hthree : itrCnt + 1 = 3
    · rw [if_pos hthree]
      refine ⟨fun h => absurd h (by omega), fun _ _ => ?_⟩
      rw [(ih (itrCnt + 1) _).1 (.inl (by omega))]
      exact freeable_cloneString malloc (some token)
    · rw [if_neg hthree]
      refine ⟨fun h => (ih _ _).1 (by omega), fun hlt hle => (ih _ _).2 (by omega) (by omega)⟩

/-- Every pointer that the call frees may be freed. -/
def FreesOwn (m : Mallocs) (userName : CString) : Prop :=
  (populateConfigOwned m userName initialOwned).1 = zfailure →
    ∀ p ∈ (populateConfigOwned m userName initialOwned).2.2, Freeable p

/-- The client id of a user name that gets as far as the loop. -/
theorem freeable_clientId_iff (malloc : Bool) (token : CString) (rest : List CString) :
    Freeable (populateLoopOwned malloc rest 0 initialOwned.clientId).2 ↔
      3 ≤ (token :: rest).length := by
  obtain ⟨hkept, hcloned⟩ := populateLoopOwned_clientId malloc rest 0
    initialOwned.clientId
  rw [List.length_cons]
  constructor
  · intro h
    by_contra hshort
    rw [hkept (.inr (by omega))] at h
    exact absurd (h _ rfl) (by decide)
  · intro hle
    exact hcloned (by omega) (by omega)

/-- For every user name and whichever allocations succeed: what `populateConfigObject` frees
when it rejects the user name is null or a copy made in the call, if and only if the user
name is refused before it is split (64 bytes or more, or no memory for its copy) or has at
least three segments. -/
theorem freesOwn_iff (m : Mallocs) (userName : CString) :
    FreesOwn m userName ↔ 64 ≤ userName.length ∨ m.userName = false ∨
      3 ≤ (segments '/' userName).length := by
  unfold FreesOwn populateConfigOwned
  rw [strtok_eq_segments]
  by_cases hlength : 64 ≤ userName.length
  · simp [hlength]
  by_cases hmalloc : m.userName = false
  · simp [hlength, hmalloc]
  rw [if_neg hlength, if_neg hmalloc, or_iff_right hlength, or_iff_right hmalloc]
  cases hsegments : segments '/' userName with
  | nil =>
    -- nothing is copied, and the constant is freed
    refine ⟨fun h => ?_, fun h => absurd h (by simp)⟩
    have hconstant : Freeable initialOwned.clientId := h rfl _ (by simp)
    exact absurd (hconstant _ rfl) (by decide)
  | cons token rest =>
    have hcount := populateLoopOwned_count m.clientId rest 0 initialOwned.clientId
    have hhost := freeable_cloneString m.hostname (some token)
    rw [← freeable_clientId_iff m.clientId token rest]
    simp only [hcount, List.head?_cons]
    by_cases hfive : 0 + rest.length + 1 = 5
    · have hid := (freeable_clientId_iff m.clientId token rest).mpr
        (by rw [List.length_cons]; omega)
      rw [if_neg (not_not.mpr hfive)]
      exact iff_of_true (fun _ p hp => absurd hp List.not_mem_nil) hid
    · rw [if_pos hfive]
      refine ⟨fun h => h rfl _ (by simp), fun hid _ p hp => ?_⟩
      rcases List.mem_pair.mp hp with rfl | rfl
      · exact hhost
      · exact hid

/-- A user name of three segments is rejected, with a copied host name and no client id. -/
theorem freesOwn_three_segments :
    (populateConfigOwned {} "host/v1/devices".toList initialOwned).1 = zfailure ∧
    (populateConfigOwned {} "host/v1/devices".toList initialOwned).2.2 =
      [some { text := "host".toList, origin := .cloned }, none] ∧
    FreesOwn {} "host/v1/devices".toList := by
  refine ⟨by decide, by decide, (freesOwn_iff {} _).mpr (.inr (.inr ?_))⟩
  rw [← strtok_eq_segments]
  decide

/-- A user name without slashes is rejected, and the constant of `zclient_init` is freed. -/
theorem rejected_frees_constant :
    (populateConfigOwned {} "host".toList initialOwned).1 = zfailure ∧
    some { text := [], origin := .constant } ∈
      (populateConfigOwned {} "host".toList initialOwned).2.2 ∧
    ¬ FreesOwn {} "host".toList := by
  have hfreed : some { text := [], origin := .constant } ∈
      (populateConfigOwned {} "host".toList initialOwned).2.2 := by decide
  refine ⟨by decide, hfreed, fun h => ?_⟩
  exact absurd (h (by decide) _ hfreed _ rfl) (by decide)

end ZohoIotSdk
