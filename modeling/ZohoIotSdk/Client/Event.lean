import ZohoIotSdk.Client.Ack

/-!
# Events

The staged event data object and the two functions that dispatch an event and retain it
when it could not be published.
-/

namespace ZohoIotSdk

open Atomic (Prog)

/-! ## Event data -/

/-- Add a member to the object, or replace the one of that name. -/
def putMember (object : CJson) (key : CString) (item : Option CJson) : CJson :=
  if cJSONHasObjectItem object key then cJSONReplaceItemInObject object key item
  else cJSONAddItemToObject object (some key) item

/-- The three `zclient_addEventData` functions: the staging object is created when it is
missing, also when the arguments are then refused. -/
def addEventData (valid : Bool) (key : CStringPtr) (item : Option CJson) : ClientM ℤ :=
  Prog.act
    (fun _ s =>
      let object := s.client.eventDataObject.getD cJSONCreateObject
      let object := if valid then putMember object (key.getD []) item else object
      { s with client := { s.client with eventDataObject := some object } })
    (fun _ _ => []) fun _ _ => if valid then zsuccess else -1

/-- `zclient_addEventDataNumber`. -/
def zclientAddEventDataNumber (key : CStringPtr) (value : Double) : ClientM ℤ :=
  addEventData (isStringValid key) key (some (cJSONCreateNumber value))

/-- `zclient_addEventDataString`. -/
def zclientAddEventDataString (key value : CStringPtr) : ClientM ℤ :=
  addEventData (isStringValid key && isStringValid value) key (cJSONCreateString value)

/-- `zclient_addEventDataObject`; a null object has no duplicate. -/
def zclientAddEventDataObject (key : CStringPtr) (object : Option CJson) : ClientM ℤ :=
  addEventData (isStringValid key) key (object.map cJSONDuplicate)

/-! ## Dispatching -/

/-- `strtok(ctime(&curtime), "\n")`. -/
def timeText : ClientM CStringPtr :=
  Prog.act (fun _ s => s) (fun _ _ => []) fun w _ => (strtok '\n' w.text).head?

/-- The event document. -/
def makeEventObject (eventType eventDescription timeVal : CStringPtr) (dataObject : CJson) :
    CJson :=
  let object := cJSONAddStringToObject cJSONCreateObject "event_type".toList eventType
  let object := cJSONAddStringToObject object "event_desc".toList eventDescription
  let object := cJSONAddStringToObject object "event_timestamp".toList timeVal
  cJSONAddItemToObject object (some "event_data".toList) (some dataObject)

/-- The document that is published: under the name of the asset, if there is one. -/
def eventDispatchObject (assetName : CStringPtr) (eventObject : CJson) : CJson :=
  if isStringValid assetName then
    cJSONAddItemReferenceToObject cJSONCreateObject (assetName.getD []) eventObject
  else eventObject

/-- The section that puts a failed event into the retry slot, with the time of the
failure. -/
def storeFailedEvent (eventObject : CJson) : ClientM Unit :=
  Prog.act
    (fun w s => { s with client := { s.client with
      failedEvent :=
        { eventPayloadTime := w.time, eventPayload := some (cJSONDuplicate eventObject) }
      retryEvent := true } })
    (fun w _ => [.storeEvent eventObject w.time]) fun _ _ => ()

/-- The part of `zclient_dispatchEventFromJSONString` from the first send on. -/
def publishEvent (b : Build) (assetName : CStringPtr) (eventObject : CJson) : ClientM ℤ := do
  let rc ← publishMessage b (.event assetName eventObject) (·.eventTopic)
    (cJSONPrint (eventDispatchObject assetName eventObject))
  if rc = zsuccess then pure rc
  else do
    let connected ← transportConnected
    -- unlike an ACK, the event is retained in either case
    if connected then do
      storeFailedEvent eventObject
      pure rc
    else do
      setCurrentState .disconnected
      storeFailedEvent eventObject
      pure rc

/-- `zclient_dispatchEventFromJSONString`. -/
def zclientDispatchEventFromJSONString (b : Build)
    (eventType eventDescription eventDataJSONString assetName : CStringPtr) : ClientM ℤ := do
  let rc ← validateClientState
  if rc ≠ 0 then pure rc
  else do
    let state ← readClient (·.currentState)
    if state ≠ .connected then pure zfailure
    else
      match eventDataJSONString.bind cJSONParse with
      | none => pure zfailure
      | some dataObject => do
        let timeVal ← timeText
        let eventObject := makeEventObject eventType eventDescription timeVal dataObject
        -- the arguments are checked after the document has been built
        if isStringValid eventType = false ∨ eventDescription = none then pure zfailure
        else publishEvent b assetName eventObject

/-- `zclient_dispatchEventFromEventDataObject`: the staged object goes through its text. -/
def zclientDispatchEventFromEventDataObject (b : Build)
    (eventType eventDescription assetName : CStringPtr) : ClientM ℤ := do
  let rc ← validateClientState
  if rc ≠ 0 then pure rc
  else do
    let object ← readClient (·.eventDataObject)
    let rc ← zclientDispatchEventFromJSONString b eventType eventDescription
      (object.map cJSONPrint) assetName
    -- the staging object starts anew, whatever came of the dispatch
    modifyClient fun c => { c with eventDataObject := some cJSONCreateObject }
    pure rc

end ZohoIotSdk
