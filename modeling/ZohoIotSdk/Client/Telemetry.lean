import ZohoIotSdk.Client.Event

/-!
# Telemetry

The staged telemetry tree (`message.data`), into which values are put under a dotted asset
name, and the functions that publish it.
-/

namespace ZohoIotSdk

open Atomic (Prog)

/-- Apply `f` to the first element that satisfies `p`. -/
def modifyFirst (p : CJson → Bool) (f : CJson → CJson) : List CJson → List CJson
  | [] => []
  | c :: cs => if p c then f c :: cs else c :: modifyFirst p f cs

/-- The walk of `addAssetNameTopayload` along the tokens of the asset name, creating the
objects that are missing, and `f` applied to the item it ends at. -/
def atAsset (f : CJson → CJson) : List CString → CJson → CJson
  | [], current => f current
  | token :: tokens, current =>
    let current := if cJSONHasObjectItem current token then current
      else cJSONAddItemToObject current (some token) (some cJSONCreateObject)
    current.withChild (modifyFirst (CJson.hasName token) (atAsset f tokens) current.child)

/-- The tokens of an asset name. -/
def assetTokens (assetName : CStringPtr) : List CString :=
  if isStringValid assetName then strtok '.' (assetName.getD []) else []

/-- Is there already a member of that name where the asset name leads? -/
def hasAt (key : CString) : List CString → CJson → Bool
  | [], current => cJSONHasObjectItem current key
  | token :: tokens, current =>
    match cJSONGetObjectItem current token with
    | none => false
    | some next => hasAt key tokens next

/-- Put an item into the staged tree. `checked` callers report a failed addition, which a
missing item causes; a failed replacement goes unnoticed. -/
def stageItem (checked : Bool) (key : CString) (item : Option CJson) (tokens : List CString) :
    ClientM ℤ :=
  Prog.act
    (fun _ s =>
      let tree := atAsset (putMember · key item) tokens
        (s.client.messageData.getD cJSONCreateObject)
      { s with client := { s.client with messageData := some tree } })
    (fun _ _ => [])
    fun _ s =>
      let present := hasAt key tokens (s.client.messageData.getD cJSONCreateObject)
      if checked ∧ item.isNone ∧ present = false then zfailure else zsuccess

/-- The functions that put a value into the telemetry tree. -/
def addToPayload (checked : Bool) (key : CStringPtr) (item : Option CJson)
    (assetName : CStringPtr) : ClientM ℤ := do
  let rc ← validateClientState
  if rc ≠ 0 then pure rc
  else if isStringValid key = false then pure (-1)
  else stageItem checked (key.getD []) item (assetTokens assetName)

/-- `zclient_addNumber`. -/
def zclientAddNumber (key : CStringPtr) (value : Double) (assetName : CStringPtr) : ClientM ℤ :=
  addToPayload true key (some (cJSONCreateNumber value)) assetName

/-- `zclient_addString`. -/
def zclientAddString (key value assetName : CStringPtr) : ClientM ℤ :=
  addToPayload true key (cJSONCreateString value) assetName

/-- `zclient_addObject`. -/
def zclientAddObject (key : CStringPtr) (object : Option CJson) (assetName : CStringPtr) :
    ClientM ℤ :=
  addToPayload false key (object.map cJSONDuplicate) assetName

/-- `zclient_markDataPointAsError`. -/
def zclientMarkDataPointAsError (key assetName : CStringPtr) : ClientM ℤ :=
  zclientAddString key (some "<ERROR>".toList) assetName

/-- `zclient_publish`. -/
def zclientPublish (b : Build) (payload : CString) : ClientM ℤ := do
  let rc ← validateClientState
  if rc ≠ 0 then pure rc
  else do
    let state ← readClient (·.currentState)
    if state ≠ .connected then pure zfailure
    else do
      let rc ← publishMessage b .telemetry (·.dataTopic) payload
      if rc = zsuccess then pure rc
      else do
        let connected ← transportConnected
        if connected then pure rc
        else do
          setCurrentState .disconnected
          pure rc

/-- `zclient_dispatch`; without staged data there is nothing to serialise. -/
def zclientDispatch (b : Build) : ClientM ℤ := do
  let rc ← validateClientState
  if rc ≠ 0 then pure rc
  else do
    let state ← readClient (·.currentState)
    if state ≠ .connected then pure zfailure
    else do
      let data ← readClient (·.messageData)
      match data with
      | none => pure zfailure
      | some tree => do
        let status ← zclientPublish b (cJSONPrint tree)
        -- the staged data is dropped even when it could not be sent
        modifyClient fun c => { c with messageData := none }
        pure status

end ZohoIotSdk
