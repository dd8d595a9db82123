import ZohoIotSdk.Client.Connection
import ZohoIotSdk.Text.Buffer

/-!
# The connection string in its buffer

`formConnectionString` builds the user name of the MQTT session in the 256 bytes of
`connectionStringBuff`, by appends that compute the room that is left from the current length.
Here it works on the bytes of the buffer: a length that falls below zero, a string without an
end and a write beyond the buffer have no result. `connection_string_exact` says that there
always is one, and which.
-/

namespace ZohoIotSdk

open Text (Holds appendText appendBounded sizeSub textLength)

/-! ## The code, on the bytes of the buffer -/

/-- The byte that ends a string. -/
def nul : Char := '\x00'

/-- `zclient_addConnectionParameter`, on the bytes of the buffer. -/
def addParameterBytes (mem : List Char) (parameter : CString × CString) : Option (List Char) :=
  (((appendBounded nul mem parameter.1).bind (appendBounded nul · "=".toList)).bind
    (appendBounded nul · parameter.2)).bind (appendBounded nul · "&".toList)

/-- The appends for the parameters. -/
def addParametersBytes : List (CString × CString) → List Char → Option (List Char)
  | [], mem => some mem
  | parameter :: rest, mem => (addParameterBytes mem parameter).bind (addParametersBytes rest)

/-- The end of `formConnectionString`: a final `&` is overwritten. -/
def dropAmpersand (mem : List Char) : Option (List Char) :=
  (textLength nul mem).map fun length =>
    if 0 < length ∧ mem[length - 1]? = some '&' then mem.set (length - 1) nul else mem

/-- `formConnectionString`, on the bytes of the buffer. -/
def formConnectionBytes (sdkVersion : CString) (g : Globals)
    (osDetails : Option (CString × CString)) (username : CString) (mem : List Char) :
    Option (List Char) :=
  let mem := mem.set 0 nul
  ((((sizeSub mem.length 1).bind (appendText nul mem username)).bind
    (appendBounded nul · "?".toList)).bind
    (addParametersBytes (connectionParameters sdkVersion g osDetails))).bind dropAmpersand

/-! ## What it should leave there -/

/-- The text of a parameter. -/
def parameterText (parameter : CString × CString) : CString :=
  parameter.1 ++ ("=".toList ++ (parameter.2 ++ "&".toList))

/-- The user name, a question mark and the parameters that are present. -/
def fullConnectionString (sdkVersion : CString) (g : Globals)
    (osDetails : Option (CString × CString)) (username : CString) : CString :=
  username ++ ("?".toList ++ (connectionParameters sdkVersion g osDetails).flatMap parameterText)

/-- The text without one final `&`. -/
def withoutAmpersand (text : CString) : CString :=
  if text.getLast? = some '&' then text.dropLast else text

/-! ## Appends -/

section Appends

variable {mem : List Char} {text s : CString}

/-- The memory holds as much of the text as it can. -/
def HoldsStart (mem : List Char) (text : CString) : Prop :=
  mem.length = 256 ∧ Holds nul mem (text.take 255)

theorem take_append_take (n : ℕ) (text s : List Char) :
    (text.take n ++ s).take n = (text ++ s).take n := by
  rw [List.take_append, List.take_append, List.take_take, Nat.min_self, List.length_take]
  congr 2
  omega

/-- Truncations add up to one. -/
theorem HoldsStart.append (h : HoldsStart mem text) (hs : nul ∉ s) :
    ∃ mem', appendBounded nul mem s = some mem' ∧ HoldsStart mem' (text ++ s) := by
  obtain ⟨hlength, hholds⟩ := h
  obtain ⟨mem', happend, hlength', hholds'⟩ := hholds.appendBounded hs
  refine ⟨mem', happend, hlength'.trans hlength, ?_⟩
  rw [hlength, take_append_take] at hholds'
  exact hholds'

/-- Adding one parameter keeps the buffer a cut of the text. -/
theorem HoldsStart.parameter (h : HoldsStart mem text) {parameter : CString × CString}
    (hkey : nul ∉ parameter.1) (hvalue : nul ∉ parameter.2) :
    ∃ mem', addParameterBytes mem parameter = some mem' ∧
      HoldsStart mem' (text ++ parameterText parameter) := by
  obtain ⟨mem₁, happend₁, h₁⟩ := h.append hkey
  obtain ⟨mem₂, happend₂, h₂⟩ := h₁.append (s := "=".toList) (by decide)
  obtain ⟨mem₃, happend₃, h₃⟩ := h₂.append hvalue
  obtain ⟨mem₄, happend₄, h₄⟩ := h₃.append (s := "&".toList) (by decide)
  refine ⟨mem₄, ?_, ?_⟩
  · rw [addParameterBytes, happend₁, Option.bind_some, happend₂, Option.bind_some, happend₃,
      Option.bind_some, happend₄]
  · simpa [parameterText] using h₄

/-- Adding the parameters one after the other keeps the buffer a cut of the text. -/
theorem HoldsStart.parameters (h : HoldsStart mem text) {parameters : List (CString × CString)}
    (hparameters : ∀ x ∈ parameters, nul ∉ x.1 ∧ nul ∉ x.2) :
    ∃ mem', addParametersBytes parameters mem = some mem' ∧
      HoldsStart mem' (text ++ parameters.flatMap parameterText) := by
  induction parameters generalizing mem text with
  | nil => exact ⟨mem, rfl, by simpa using h⟩
  | cons parameter rest ih =>
    rw [List.forall_mem_cons] at hparameters
    obtain ⟨mem₁, hadd, h₁⟩ := h.parameter hparameters.1.1 hparameters.1.2
    obtain ⟨mem₂, hrest, h₂⟩ := ih h₁ hparameters.2
    refine ⟨mem₂, ?_, ?_⟩
    · rw [addParametersBytes, hadd, Option.bind_some, hrest]
    · rw [List.flatMap_cons, ← List.append_assoc]
      exact h₂

/-- The first append starts with an empty text, whatever the buffer held before. -/
theorem holdsStart_userName {username : CString} (hname : nul ∉ username)
    (hlength : mem.length = 256) :
    ∃ mem', (sizeSub (mem.set 0 nul).length 1).bind (appendText nul (mem.set 0 nul) username) =
      some mem' ∧ HoldsStart mem' username := by
  have hempty : Holds nul (mem.set 0 nul) [] := by
    refine ⟨?_, by simp⟩
    cases mem with
    | nil => simp at hlength
    | cons c rest => exact ⟨rest, rfl⟩
  have hset : (mem.set 0 nul).length = 256 := by rw [List.length_set, hlength]
  have hroom : ([] : CString).length + (username.take 255).length + 1 ≤ (mem.set 0 nul).length := by
    rw [hset, List.length_take, List.length_nil]
    omega
  obtain ⟨mem', happend, hlength', hholds⟩ := hempty.appendText hname hroom
  refine ⟨mem', ?_, hlength'.trans hset, hholds⟩
  rw [hset]
  exact happend

end Appends

/-- Dropping the last ampersand keeps a text in the buffer. -/
theorem holds_dropAmpersand {mem : List Char} {text : CString} (h : Holds nul mem text) :
    ∃ mem', dropAmpersand mem = some mem' ∧ mem'.length = mem.length ∧
      Holds nul mem' (withoutAmpersand text) := by
  refine ⟨_, by rw [dropAmpersand, h.textLength_eq, Option.map_some], ?_, ?_⟩
  · split
    · rw [List.length_set]
    · rfl
  · rcases List.eq_nil_or_concat text with rfl | ⟨init, c, rfl⟩
    · simpa [withoutAmpersand] using h
    · rw [List.concat_eq_append] at h ⊢
      obtain ⟨⟨rest, rfl⟩, hplain⟩ := h
      have hlast : (init ++ [c] ++ nul :: rest)[(init ++ [c]).length - 1]? = some c := by simp
      unfold withoutAmpersand
      rw [hlast, List.getLast?_concat]
      by_cases hc : c = '&'
      · have hpos : 0 < (init ++ [c]).length := by simp
        rw [if_pos ⟨hpos, by rw [hc]⟩, if_pos (by rw [hc]), List.dropLast_concat]
        refine ⟨⟨nul :: rest, by simp⟩, fun hmem => hplain ?_⟩
        exact List.mem_append_left _ hmem
      · have hne : some c ≠ some '&' := fun heq => hc (Option.some.inj heq)
        rw [if_neg fun hand => hne hand.2, if_neg hne]
        exact ⟨⟨rest, rfl⟩, hplain⟩

/-! ## The whole string -/

/-- The user name and the parameters, as strings. -/
def NoNul (sdkVersion : CString) (g : Globals) (osDetails : Option (CString × CString))
    (username : CString) : Prop :=
  nul ∉ username ∧ ∀ x ∈ connectionParameters sdkVersion g osDetails, nul ∉ x.1 ∧ nul ∉ x.2

/-- The whole function keeps to its buffer and leaves the connection string in it. -/
theorem holds_formConnectionBytes {sdkVersion : CString} {g : Globals}
    {osDetails : Option (CString × CString)} {username : CString}
    (hnul : NoNul sdkVersion g osDetails username) {mem : List Char} (hlength : mem.length = 256) :
    ∃ mem', formConnectionBytes sdkVersion g osDetails username mem = some mem' ∧
      mem'.length = 256 ∧ Holds nul mem'
        (withoutAmpersand ((fullConnectionString sdkVersion g osDetails username).take 255)) := by
  obtain ⟨mem₁, hname, h₁⟩ := holdsStart_userName hnul.1 hlength
  obtain ⟨mem₂, hmark, h₂⟩ := h₁.append (s := "?".toList) (by decide)
  obtain ⟨mem₃, hadd, h₃⟩ := h₂.parameters hnul.2
  obtain ⟨mem₄, hdrop, hlength', hholds⟩ := holds_dropAmpersand h₃.2
  refine ⟨mem₄, ?_, hlength'.trans h₃.1, ?_⟩
  · simp only [formConnectionBytes]
    rw [hname, Option.bind_some, hmark, Option.bind_some, hadd, Option.bind_some, hdrop]
  · rw [List.append_assoc] at hholds
    exact hholds

/-! ## The same on strings -/

/-- Appending to a cut text and cutting is cutting the whole. -/
theorem strncat_take (text s : CString) :
    strncat 256 (text.take 255) s = (text ++ s).take 255 := by
  rw [← take_append_take, List.take_append, List.take_take, Nat.min_self, strncat]
  congr 2
  omega

/-- A parameter added to a cut text gives the cut of the longer text. -/
theorem addConnectionParameter_take (text : CString) (parameter : CString × CString) :
    addConnectionParameter (text.take 255) parameter.1 parameter.2 =
      (text ++ parameterText parameter).take 255 := by
  unfold addConnectionParameter parameterText
  rw [strncat_take, strncat_take, strncat_take, strncat_take]
  simp only [List.append_assoc]

/-- Parameters added one by one give the cut of the text with all of them. -/
theorem foldl_addConnectionParameter (parameters : List (CString × CString)) (text : CString) :
    parameters.foldl (fun buf (x : CString × CString) => addConnectionParameter buf x.1 x.2)
      (text.take 255) = (text ++ parameters.flatMap parameterText).take 255 := by
  induction parameters generalizing text with
  | nil => simp
  | cons parameter rest ih =>
    rw [List.foldl_cons, addConnectionParameter_take, ih, List.flatMap_cons, List.append_assoc]

/-- The connection string is the cut full one, without its last ampersand. -/
theorem formConnectionString_eq (sdkVersion : CString) (g : Globals)
    (osDetails : Option (CString × CString)) (username : CString) :
    formConnectionString sdkVersion g osDetails username =
      withoutAmpersand ((fullConnectionString sdkVersion g osDetails username).take 255) := by
  have hstart : strncat 256 (strncat 256 [] username) "?".toList =
      (username ++ "?".toList).take 255 := by
    rw [← strncat_take]
    rfl
  have hfold := foldl_addConnectionParameter (connectionParameters sdkVersion g osDetails)
    (username ++ "?".toList)
  unfold formConnectionString withoutAmpersand fullConnectionString
  rw [hstart, ← List.append_assoc, ← hfold]

/-- For every user name, agent, platform and system, and whatever the buffer held before:
`formConnectionString` ends without a length below zero or a write beyond the buffer; the
buffer then holds the first 255 bytes of the user name, a question mark and the parameters,
less one final `&`; and a further call leaves the same string. -/
theorem connection_string_exact (sdkVersion : CString) (g : Globals)
    (osDetails : Option (CString × CString)) (username : CString)
    (hnul : NoNul sdkVersion g osDetails username) (mem : List Char) (hlength : mem.length = 256) :
    ∃ mem', formConnectionBytes sdkVersion g osDetails username mem = some mem' ∧
      mem'.length = 256 ∧ nul ∈ mem' ∧
      cstr mem' =
        withoutAmpersand ((fullConnectionString sdkVersion g osDetails username).take 255) ∧
      cstr mem' = formConnectionString sdkVersion g osDetails username ∧
      ∃ mem'', formConnectionBytes sdkVersion g osDetails username mem' = some mem'' ∧
        mem''.length = 256 ∧ cstr mem'' = cstr mem' := by
  obtain ⟨mem', hform, hlength', hholds⟩ := holds_formConnectionBytes hnul hlength
  obtain ⟨mem'', hform', hlength'', hholds'⟩ := holds_formConnectionBytes hnul hlength'
  have htext : cstr mem' = _ := hholds.takeWhile_eq
  have htext' : cstr mem'' = _ := hholds'.takeWhile_eq
  have hend : nul ∈ mem' := by
    obtain ⟨rest, hrest⟩ := hholds.start
    rw [hrest]
    simp
  refine ⟨mem', hform, hlength', hend, htext, ?_, mem'', hform', hlength'', ?_⟩
  · rw [htext, formConnectionString_eq]
  · rw [htext, htext']

/-- An agent on a platform. -/
def agentGlobals : Globals :=
  { agentName := "agent".toList, agentVersion := "2".toList, platform := "board".toList }

/-- A user name of 170 bytes. -/
def longUserName : CString := "host/".toList ++ List.replicate 165 'n'

/-- A buffer full of other bytes: with a short user name all parameters are there, with a long one
they are cut within the platform. -/
theorem connection_string_sample : ∃ mem₁ mem₂,
    formConnectionBytes "1.0".toList agentGlobals (some ("Linux".toList, "6.1".toList))
      "host/v1".toList (List.replicate 256 'x') = some mem₁ ∧
    cstr mem₁ = ("host/v1?sdk_name=zoho-iot-sdk-c&sdk_version=1.0&agent_name=agent&agent_version=2" ++
      "&agent_platform=board&os_name=Linux&os_version=6.1").toList ∧
    formConnectionBytes "1.0".toList agentGlobals (some ("Linux".toList, "6.1".toList))
      longUserName mem₁ = some mem₂ ∧
    cstr mem₂ = longUserName ++
      "?sdk_name=zoho-iot-sdk-c&sdk_version=1.0&agent_name=agent&agent_version=2&agent_platf".toList := by
  have hparameters : ∀ x ∈ connectionParameters "1.0".toList agentGlobals
      (some ("Linux".toList, "6.1".toList)), nul ∉ x.1 ∧ nul ∉ x.2 := by decide
  obtain ⟨mem₁, hform₁, hlength, -, htext₁, -⟩ := connection_string_exact "1.0".toList agentGlobals
    (some ("Linux".toList, "6.1".toList)) "host/v1".toList ⟨by decide, hparameters⟩
    (List.replicate 256 'x') (List.length_replicate ..)
  obtain ⟨mem₂, hform₂, -, -, htext₂, -⟩ := connection_string_exact "1.0".toList agentGlobals
    (some ("Linux".toList, "6.1".toList)) longUserName ⟨by decide, hparameters⟩ mem₁ hlength
  exact ⟨mem₁, mem₂, hform₁, htext₁.trans (by decide +kernel), hform₂,
    htext₂.trans (by decide +kernel)⟩

end ZohoIotSdk
