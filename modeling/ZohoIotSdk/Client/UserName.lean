import ZohoIotSdk.Client.Connection
import ZohoIotSdk.Text.Segments

/-!
# The parts of the user name

The user name names the host and the device: `populateConfigObject` takes the first and the
fourth of its segments, and accepts user names of exactly five.
-/

namespace ZohoIotSdk

open Text (segments segments_nil segments_cons_sep segments_of_notMem segments_of_first)

/-! ## Tokens are segments -/

/-- The loop of `strtok` yields the segments, the token so far in front. -/
theorem strtokFrom_eq_segments {delim : Char} {token : CString} (htoken : delim ∉ token)
    (s : CString) : strtokFrom delim token s = segments delim (token ++ s) := by
  induction s generalizing token with
  | nil =>
    rw [strtokFrom, List.append_nil]
    split
    · rename_i hnil
      rw [hnil, segments_nil]
    · rename_i hne
      rw [segments_of_notMem htoken hne]
  | cons c cs ih =>
    rw [strtokFrom]
    split
    · rename_i hc
      rw [ih List.not_mem_nil, hc, List.nil_append]
      split
      · rename_i hnil
        rw [hnil, List.nil_append, segments_cons_sep]
      · rename_i hne
        rw [segments_of_first htoken hne]
    · rename_i hc
      have htoken' : delim ∉ token ++ [c] := by
        rw [List.mem_append, List.mem_singleton, not_or]
        exact ⟨htoken, Ne.symm hc⟩
      rw [ih htoken', List.append_assoc]
      rfl

/-- The tokens of `strtok` are the segments between delimiters. -/
theorem strtok_eq_segments (delim : Char) (s : CString) : strtok delim s = segments delim s :=
  strtokFrom_eq_segments List.not_mem_nil s

/-! ## The loop over the tokens -/

/-- The loop counts the tokens, and the null pointer at the end. -/
theorem populateLoop_count (rest : List CString) (itrCnt : ℕ) (clientId : CStringPtr) :
    (populateLoop rest itrCnt clientId).1 = itrCnt + rest.length + 1 := by
  induction rest generalizing itrCnt clientId with
  | nil => rfl
  | cons token rest ih =>
    rw [populateLoop, ih, List.length_cons]
    omega

/-- Once it has counted to three, the client id stays. -/
theorem populateLoop_past (rest : List CString) {itrCnt : ℕ} (h : 3 ≤ itrCnt)
    (clientId : CStringPtr) : (populateLoop rest itrCnt clientId).2 = clientId := by
  induction rest generalizing itrCnt with
  | nil =>
    have hne : itrCnt + 1 ≠ 3 := by omega
    rw [populateLoop, if_neg hne]
  | cons token rest ih =>
    have hne : itrCnt + 1 ≠ 3 := by omega
    rw [populateLoop, if_neg hne]
    exact ih (by omega)

/-- The client id is the third token after the first one, or null if that would be the next
one; with fewer tokens it stays. -/
theorem populateLoop_clientId (rest : List CString) (clientId : CStringPtr) :
    (populateLoop rest 0 clientId).2 = if rest.length < 2 then clientId else rest[2]? := by
  match rest with
  | [] => rfl
  | [_] => rfl
  | [_, _] => rfl
  | _ :: _ :: id :: rest => exact populateLoop_past rest (Nat.le_refl 3) (some id)

/-- What `populateConfigObject` does with a user name, by its segments. -/
theorem populateConfigObject_eq (userName : CString) (config : Zconfig) :
    populateConfigObject userName config =
      if 64 ≤ userName.length then (zfailure, config)
      else if (segments '/' userName).length = 5 then
        (zsuccess, { config with
          hostname := (segments '/' userName)[0]?
          clientId := (segments '/' userName)[3]? })
      else (zfailure, { config with hostname := none, clientId := none }) := by
  unfold populateConfigObject
  rw [strtok_eq_segments]
  split
  · rfl
  · cases hsegments : segments '/' userName with
    | nil => rfl
    | cons token rest =>
      have hcount := populateLoop_count rest 0 config.clientId
      have hid := populateLoop_clientId rest config.clientId
      by_cases hfive : (token :: rest).length = 5
      · have hrest : rest.length = 4 := Nat.succ.inj hfive
        have hlong : ¬ rest.length < 2 := by omega
        rw [hrest] at hcount
        rw [if_neg hlong] at hid
        simp only [hcount, hid, if_pos hfive]
        rfl
      · have hne : 0 + rest.length + 1 ≠ 5 := by
          rw [List.length_cons] at hfive
          omega
        simp only [hcount, if_neg hfive]
        rw [if_pos hne]

/-- For every user name: `populateConfigObject` succeeds if and only if it is shorter than 64
bytes and has exactly five segments, and then the host name is the first and the client id
the fourth one. -/
theorem populateConfigObject_success_iff (userName : CString) (config : Zconfig) :
    ((populateConfigObject userName config).1 = zsuccess ↔
      userName.length < 64 ∧ (segments '/' userName).length = 5) ∧
    ((populateConfigObject userName config).1 = zsuccess →
      (populateConfigObject userName config).2.hostname = (segments '/' userName)[0]? ∧
      (populateConfigObject userName config).2.clientId = (segments '/' userName)[3]?) := by
  rw [populateConfigObject_eq]
  by_cases hlength : 64 ≤ userName.length
  · have hshort : ¬ userName.length < 64 := by omega
    simp [hlength, hshort, zfailure, zsuccess]
  · have hshort : userName.length < 64 := by omega
    by_cases hfive : (segments '/' userName).length = 5
    · simp [hlength, hshort, hfive]
    · simp [hlength, hfive, zfailure, zsuccess]

/-- Slashes at the ends and in a row do not matter. -/
theorem populateConfigObject_success_slashes :
    (populateConfigObject "/host//v1/devices/7/connect/".toList {}).1 = zsuccess ∧
    (populateConfigObject "/host//v1/devices/7/connect/".toList {}).2.hostname =
      some "host".toList ∧
    (populateConfigObject "/host//v1/devices/7/connect/".toList {}).2.clientId =
      some "7".toList := by
  have hsuccess : (populateConfigObject "/host//v1/devices/7/connect/".toList {}).1 = zsuccess := by
    decide
  obtain ⟨hhost, hid⟩ :=
    (populateConfigObject_success_iff "/host//v1/devices/7/connect/".toList {}).2 hsuccess
  rw [← strtok_eq_segments] at hhost hid
  exact ⟨hsuccess, hhost.trans (by decide), hid.trans (by decide)⟩

end ZohoIotSdk
