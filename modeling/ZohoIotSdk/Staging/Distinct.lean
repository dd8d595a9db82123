import ZohoIotSdk.CJson.Distinct
import ZohoIotSdk.Session.Outcomes
import ZohoIotSdk.Staging.Dispatch
import ZohoIotSdk.Staging.Writes

/-!
# Staged data without duplicate keys

In every run of the SDK the two staged trees have nowhere two siblings of one name, as long as
the objects that the application passes have none, and the same holds of what is published
when they are dispatched (`staged_distinct`). The event data goes through its text on the
way: it is printed, parsed, and put into the event document.
-/

namespace ZohoIotSdk

open Atomic (Prog)

/-! ## The trees -/

theorem distinct_createObject : cJSONCreateObject.Distinct := distinct_of_child_nil rfl

/-- A string has no members. -/
theorem distinct_createString {value : CStringPtr} {item : CJson}
    (h : cJSONCreateString value = some item) : item.Distinct := by
  cases value with
  | none => simp [cJSONCreateString] at h
  | some v =>
    rw [← Option.some.inj h]
    exact distinct_of_child_nil rfl

/-- Putting a member keeps the names distinct. -/
theorem distinct_putMember {object : CJson} {key : CString} {item : Option CJson}
    (h : object.Distinct) (hkey : key ≠ []) (hitem : ∀ i ∈ item, i.Distinct) :
    (putMember object key item).Distinct := by
  cases item with
  | none => rwa [putMember_none]
  | some i =>
    have hnamed : (i.named key).Distinct := (hitem i rfl).named key
    rw [putMember_some]
    exact distinct_upsert h hkey (by simpa using hnamed) (by simp) (fun _ _ => hnamed) (by simp)

/-- A write keeps the names distinct along its whole path. -/
theorem distinct_writeAt {item : Option CJson} (hitem : ∀ i ∈ item, i.Distinct)
    {path : List CString} (hpath : ∀ name ∈ path, name ≠ []) {tree : CJson} (h : tree.Distinct) :
    (writeAt item path tree).Distinct := by
  induction path generalizing tree with
  | nil => exact h
  | cons name path ih =>
    have hname : name ≠ [] := hpath name List.mem_cons_self
    have ih' := @ih fun n hn => hpath n (List.mem_cons_of_mem _ hn)
    cases path with
    | nil => exact distinct_putMember h hname hitem
    | cons next path =>
      have hnew : (writeAt item (next :: path) (cJSONCreateObject.named name)).Distinct :=
        ih' (distinct_createObject.named name)
      rw [writeAt]
      exact distinct_upsert h hname (by simpa using hnew) (by simp [writeAt_key])
        (fun _ hc => ih' hc) fun c hc => by rw [writeAt_key, hc]

/-- The tokens of an asset name and the key are never empty. -/
theorem path_ne_nil {w : TelemetryWrite} (h : isStringValid w.key = true) :
    ∀ name ∈ w.path, name ≠ [] := by
  intro name hname
  rcases List.mem_append.mp hname with hmem | hmem
  · exact assetTokens_ne_nil hmem
  · rw [List.mem_singleton.mp hmem]
    exact getD_ne_nil_of_isStringValid h

/-! ## The event document -/

/-- Adding under one name leaves the others as they were. -/
theorem hasObjectItem_add_of_ne {name name' : CString} (h : lowerCase name' ≠ lowerCase name)
    (object : CJson) (item : Option CJson) :
    cJSONHasObjectItem (cJSONAddItemToObject object (some name) item) name' =
      cJSONHasObjectItem object name' := by
  cases item with
  | none => rfl
  | some i =>
    have hother : (i.named name).hasName name' = false := by
      rw [hasName_eq, key_named]
      simpa using fun heq => h heq.symm
    simp [cJSONHasObjectItem, cJSONGetObjectItem, cJSONAddItemToObject, hother]

/-- Adding under a fresh name keeps the names distinct. -/
theorem distinct_addItemToObject {object : CJson} {name : CString} {item : Option CJson}
    (h : object.Distinct) (hname : name ≠ []) (hfresh : cJSONHasObjectItem object name = false)
    (hitem : ∀ i ∈ item, i.Distinct) :
    (cJSONAddItemToObject object (some name) item).Distinct := by
  cases item with
  | none => exact h
  | some i =>
    rw [cJSONAddItemToObject_eq object i name hfresh id]
    exact distinct_upsert h hname (by simpa using (hitem i rfl).named name) (by simp)
      (fun _ hc => hc) fun _ hc => hc

/-- An event has distinct names when its data has. -/
theorem distinct_makeEventObject (eventType eventDescription timeVal : CStringPtr) {data : CJson}
    (h : data.Distinct) :
    (makeEventObject eventType eventDescription timeVal data).Distinct := by
  have hnew : ∀ name, cJSONHasObjectItem cJSONCreateObject name = false := fun _ => rfl
  have htext : ∀ value, ∀ i ∈ cJSONCreateString value, i.Distinct :=
    fun _ _ => distinct_createString
  unfold makeEventObject cJSONAddStringToObject
  -- none of the four names is there when it is added
  have htype := distinct_addItemToObject distinct_createObject
    (show "event_type".toList ≠ [] by decide) (hnew _) (htext eventType)
  have hdescription := distinct_addItemToObject htype
    (show "event_desc".toList ≠ [] by decide)
    (by simp (disch := decide) only [hasObjectItem_add_of_ne, hnew])
    (htext eventDescription)
  have htime := distinct_addItemToObject hdescription
    (show "event_timestamp".toList ≠ [] by decide)
    (by simp (disch := decide) only [hasObjectItem_add_of_ne, hnew]) (htext timeVal)
  exact distinct_addItemToObject htime (by decide)
    (by simp (disch := decide) only [hasObjectItem_add_of_ne, hnew]) (by simpa using h)

/-- A published event has distinct names when the event has. -/
theorem distinct_eventDispatchObject (assetName : CStringPtr) {event : CJson} (h : event.Distinct) :
    (eventDispatchObject assetName event).Distinct := by
  unfold eventDispatchObject
  split
  · rename_i hvalid
    exact distinct_addItemToObject distinct_createObject (getD_ne_nil_of_isStringValid hvalid) rfl
      (by simpa using h)
  · exact h

/-! ## The staged data -/

/-- The staged event data is an object that can go through its text. -/
structure EventData (object : CJson) : Prop where
  type : object.type = .object
  distinct : object.Distinct
  names : object.CNames

/-- Neither of the staged trees has two siblings of one name. -/
structure Staged (s : Sdk) : Prop where
  telemetry : ∀ tree ∈ s.client.messageData, tree.Distinct
  event : ∀ object ∈ s.client.eventDataObject, EventData object

/-- An item without a name and children has C names. -/
theorem cNames_of_child_nil {j : CJson} (hchild : j.child = []) (hstring : j.string = none) :
    j.CNames := by
  refine .mk ?_ ?_
  · simp [hstring]
  · simp [hchild]

theorem eventData_createObject : EventData cJSONCreateObject where
  type := rfl
  distinct := distinct_createObject
  names := cNames_of_child_nil rfl rfl

/-- Adding a value keeps the event data well formed. -/
theorem eventData_putMember {object : CJson} {key : CString} {item : Option CJson}
    (h : EventData object) (hkey : key ≠ []) (hname : IsCString key)
    (hdistinct : ∀ i ∈ item, i.Distinct) (hnames : ∀ i ∈ item, i.CNames) :
    EventData (putMember object key item) := by
  cases item with
  | none => rwa [putMember_none]
  | some i =>
    have hnamed : (i.named key).CNames := (hnames i rfl).named hname
    refine ⟨?_, distinct_putMember h.distinct hkey hdistinct, ?_⟩
    · rw [putMember_some, type_upsert, h.type]
    · rw [putMember_some]
      exact cNames_upsert h.names (by simpa using hnamed) fun _ _ => hnamed

/-- What the event data is after it was printed and parsed. -/
theorem EventData.parsed {object data : CJson} (h : EventData object)
    (hparse : cJSONParse (cJSONPrint object) = some data) : data.Distinct :=
  distinct_of_reread (reread_of_parse_print h.type hparse) h.distinct h.names

/-- What leaves the trees leaves the invariant. -/
theorem SameStaged.keeps {s s' : Sdk} {es : List Effect} (h : SameStaged s s' es)
    (hstaged : Staged s) : Staged s' where
  telemetry := by
    rw [h.messageData]
    exact hstaged.telemetry
  event := by
    rw [h.eventDataObject]
    exact hstaged.event

/-- Fresh trees meet the invariant. -/
theorem staged_of_fresh {s : Sdk} (h : FreshStaged s) : Staged s where
  telemetry := by
    rw [h.1]
    simpa using distinct_createObject
  event := by
    rw [h.2]
    simpa using eventData_createObject

theorem Staged.dropData {s : Sdk} (h : Staged s) : Staged s.dropData where
  telemetry := by simp [Sdk.dropData]
  event := h.event

theorem Staged.freshEventData {s : Sdk} (h : Staged s) : Staged s.freshEventData where
  telemetry := h.telemetry
  event := by simpa [Sdk.freshEventData] using eventData_createObject

/-! ## What is published -/

/-- The texts that are published. -/
def publishedTexts (es : List Effect) : List CString :=
  es.filterMap fun e =>
    match e with
    | .publish _ _ payload _ => some payload
    | _ => none

/-- The text is that of a tree without two siblings of one name. -/
def NoDuplicateKeys (text : CString) : Prop := ∃ tree, text = cJSONPrint tree ∧ tree.Distinct

/-- `zclient_publish` publishes what it is given, or nothing. -/
theorem publishedTexts_publish {b : Build} {payload : CString} {s s' : Sdk} {rc : ℤ}
    {es : List Effect} (h : (zclientPublish b payload).Exec s rc es s') :
    ∀ text ∈ publishedTexts es, text = payload := by
  rcases exec_guarded h with ⟨-, -, rfl, -⟩ | ⟨-, h⟩
  · simp [publishedTexts]
  · refine Prog.Exec.of_wlp (Q := fun _ es _ => ∀ text ∈ publishedTexts es, text = payload) ?_ h
    unfold publishMessage
    simp only [Prog.wlp_bind, Prog.wlp_act, Prog.wlp_ite, Prog.wlp_pure, wlp_transportConnected,
      wlp_setCurrentState]
    intro w
    split
    · simp [publishedTexts]
    · intro w'
      split
      · simp [publishedTexts]
      · simp [publishedTexts]

/-- An event publishes its own text. -/
theorem publishedTexts_event {assetName : CStringPtr} {doc : CJson} {s s' : Sdk} {rc : ℤ}
    {es : List Effect} (h : EventOutcome assetName doc s rc es s') :
    publishedTexts es = [cJSONPrint (eventDispatchObject assetName doc)] := by
  cases h with
  | sent => rfl
  | retained _ _ _ _ => rfl

/-! ## One call -/

section Calls

variable {b : Build} {s s' : Sdk} {rc : ℤ} {es : List Effect}

theorem staged_init {args : InitArgs} (hstaged : Staged s)
    (h : (zclientInit b args).Exec s rc es s') : Staged s' := by
  cases (init_cases h).2 with
  | rejected _ => exact hstaged
  | failed _ _ _ hdata =>
    rcases hdata with hsame | hfresh
    · exact hsame.keeps hstaged
    · exact staged_of_fresh hfresh
  | initialized _ _ _ hfresh => exact staged_of_fresh hfresh

theorem staged_write {w : TelemetryWrite} (hstaged : Staged s) (hvalue : ∀ i ∈ w.value, i.Distinct)
    (h : w.prog.Exec s rc es s') : Staged s' := by
  rcases write_cases h with ⟨-, rfl, -⟩ | ⟨haccepted, rfl⟩
  · exact hstaged
  · refine ⟨?_, hstaged.event⟩
    have htree : (s.client.messageData.getD cJSONCreateObject).Distinct := by
      cases hdata : s.client.messageData with
      | none => exact distinct_createObject
      | some tree => exact hstaged.telemetry tree hdata
    simpa [Sdk.written] using distinct_writeAt hvalue (path_ne_nil haccepted.key) htree

theorem staged_addEventData {valid : Bool} {key : CStringPtr} {item : Option CJson}
    (hstaged : Staged s) (hvalid : valid = true → isStringValid key = true)
    (hkey : ∀ k ∈ key, IsCString k) (hdistinct : ∀ i ∈ item, i.Distinct)
    (hnames : ∀ i ∈ item, i.CNames) (h : (addEventData valid key item).Exec s rc es s') :
    Staged s' := by
  rcases h with ⟨_, _, rfl, -, -, rfl⟩
  refine ⟨hstaged.telemetry, ?_⟩
  have hobject : EventData (s.client.eventDataObject.getD cJSONCreateObject) := by
    cases hdata : s.client.eventDataObject with
    | none => exact eventData_createObject
    | some object => exact hstaged.event object hdata
  cases valid with
  | false => simpa using hobject
  | true =>
    have hname : IsCString (key.getD []) := by
      cases key with
      | none => simp [IsCString]
      | some k => exact hkey k rfl
    have hput := eventData_putMember hobject (getD_ne_nil_of_isStringValid (hvalid rfl)) hname
      hdistinct hnames
    simpa using hput

/-- A dispatch keeps the invariant and publishes distinct names. -/
theorem staged_dispatch (hstaged : Staged s) (h : (zclientDispatch b).Exec s rc es s') :
    Staged s' ∧ ∀ text ∈ publishedTexts es, NoDuplicateKeys text := by
  cases dispatch_cases h with
  | refused _ | empty _ _ => exact ⟨hstaged, by simp [publishedTexts]⟩
  | published _ hdata hpublish =>
    have hsame := (inert_publish _ _ _ _ _ trivial hpublish).staged
    refine ⟨(hsame.keeps hstaged).dropData, fun text htext => ?_⟩
    exact ⟨_, publishedTexts_publish hpublish text htext, hstaged.telemetry _ hdata⟩

/-- A dispatch from JSON publishes distinct names when the data has them. -/
theorem publishedTexts_dispatchEvent {eventType eventDescription json assetName : CStringPtr}
    (h : EventDispatchOutcome b eventType eventDescription json assetName s rc es s')
    (hdata : ∀ data ∈ json.bind cJSONParse, data.Distinct) :
    ∀ text ∈ publishedTexts es, NoDuplicateKeys text := by
  cases h with
  | refused _ | rejected _ => simp [publishedTexts]
  | published _ hparse hpublish =>
    intro text htext
    rw [publishedTexts_event hpublish, List.mem_singleton] at htext
    refine ⟨_, htext, distinct_eventDispatchObject assetName ?_⟩
    exact distinct_makeEventObject eventType eventDescription _ (hdata _ hparse)

theorem staged_of_eventOutcome {assetName : CStringPtr} {doc : CJson}
    (h : EventOutcome assetName doc s rc es s') (hstaged : Staged s) : Staged s' := by
  cases h with
  | sent => exact hstaged
  | retained _ _ _ _ => exact ⟨hstaged.telemetry, hstaged.event⟩

/-- A dispatch of the staged event keeps the invariant and publishes distinct names. -/
theorem staged_dispatchEventObject {eventType eventDescription assetName : CStringPtr}
    (hstaged : Staged s)
    (h : (zclientDispatchEventFromEventDataObject b eventType eventDescription assetName).Exec
      s rc es s') : Staged s' ∧ ∀ text ∈ publishedTexts es, NoDuplicateKeys text := by
  rcases dispatchEventObject_cases h with ⟨-, -, rfl, rfl⟩ | ⟨s₁, -, houtcome, rfl⟩
  · exact ⟨hstaged, by simp [publishedTexts]⟩
  · have hsame : Staged s₁ := by
      cases houtcome with
      | refused _ | rejected _ => exact hstaged
      | published _ _ hpublish => exact staged_of_eventOutcome hpublish hstaged
    refine ⟨hsame.freshEventData, publishedTexts_dispatchEvent houtcome fun data hdata => ?_⟩
    obtain ⟨text, htext, hparse⟩ := Option.bind_eq_some_iff.mp hdata
    obtain ⟨object, hobject, rfl⟩ := Option.map_eq_some_iff.mp htext
    exact (hstaged.event object hobject).parsed hparse

/-- No two siblings in an object that the application passes, or in the JSON text of an event,
have names that are equal without regard to case. -/
def Call.ObjectsDistinct : Call → Prop
  | .addObject _ object _ | .addEventDataObject _ object => ∀ o ∈ object, o.Distinct
  | .dispatchEventFromJSONString _ _ json _ => ∀ data ∈ json.bind cJSONParse, data.Distinct
  | _ => True

/-- The names that the application gives event data end at their first NUL, as C strings do. -/
def Call.EventNames : Call → Prop
  | .addEventDataNumber key _ | .addEventDataString key _ => ∀ k ∈ key, IsCString k
  | .addEventDataObject key object => (∀ k ∈ key, IsCString k) ∧ ∀ o ∈ object, o.CNames
  | _ => True

/-- The calls that dispatch data. -/
def Call.isDispatch : Call → Bool
  | .dispatch | .dispatchEventFromJSONString _ _ _ _ | .dispatchEventFromEventDataObject _ _ _ =>
    true
  | _ => false

/-- One call keeps the staged data without duplicates, and dispatches none. -/
theorem staged_call {call : Call} (hstaged : Staged s) (hobjects : call.ObjectsDistinct)
    (hnames : call.EventNames) (h : (call.prog b).Exec s () es s') :
    Staged s' ∧ (call.isDispatch = true → ∀ text ∈ publishedTexts es, NoDuplicateKeys text) := by
  -- for a call that writes no staged data, and for one that writes telemetry
  have hkept (hcall : call.isStaging = false) : Staged s' :=
    (call.sameStaged hcall _ _ _ _ trivial h).keeps hstaged
  have hnumber : ∀ value, (cJSONCreateNumber value).Distinct := fun _ => distinct_of_child_nil rfl
  cases call with
  | init args =>
    obtain ⟨rc, hexec⟩ := exec_of_discard h
    exact ⟨staged_init hstaged hexec, by simp [Call.isDispatch]⟩
  | addNumber key value assetName =>
    obtain ⟨rc, hexec⟩ := exec_of_discard h
    refine ⟨staged_write (w := .number key value assetName) hstaged ?_ hexec,
      by simp [Call.isDispatch]⟩
    simpa [TelemetryWrite.value] using hnumber value
  | addString key value assetName =>
    obtain ⟨rc, hexec⟩ := exec_of_discard h
    exact ⟨staged_write (w := .string key value assetName) hstaged
      (fun _ => distinct_createString) hexec, by simp [Call.isDispatch]⟩
  | addObject key object assetName =>
    obtain ⟨rc, hexec⟩ := exec_of_discard h
    exact ⟨staged_write (w := .object key object assetName) hstaged hobjects hexec,
      by simp [Call.isDispatch]⟩
  | markDataPointAsError key assetName =>
    obtain ⟨rc, hexec⟩ := exec_of_discard h
    exact ⟨staged_write (w := .error key assetName) hstaged (fun _ => distinct_createString) hexec,
      by simp [Call.isDispatch]⟩
  | dispatch =>
    obtain ⟨rc, hexec⟩ := exec_of_discard h
    exact (staged_dispatch hstaged hexec).imp_right fun htexts _ => htexts
  | dispatchEventFromJSONString eventType eventDescription json assetName =>
    obtain ⟨rc, hexec⟩ := exec_of_discard h
    exact ⟨hkept rfl, fun _ => publishedTexts_dispatchEvent (dispatchEvent_cases hexec) hobjects⟩
  | dispatchEventFromEventDataObject eventType eventDescription assetName =>
    obtain ⟨rc, hexec⟩ := exec_of_discard h
    exact (staged_dispatchEventObject hstaged hexec).imp_right fun htexts _ => htexts
  | addEventDataNumber key value =>
    obtain ⟨rc, hexec⟩ := exec_of_discard h
    refine ⟨staged_addEventData hstaged id hnames ?_ ?_ hexec, by simp [Call.isDispatch]⟩
    · simpa using hnumber value
    · simpa using cNames_of_child_nil (j := cJSONCreateNumber value) rfl rfl
  | addEventDataString key value =>
    obtain ⟨rc, hexec⟩ := exec_of_discard h
    refine ⟨staged_addEventData hstaged (fun h => (Bool.and_eq_true_iff.mp h).1) hnames
      (fun _ => distinct_createString) ?_ hexec, by simp [Call.isDispatch]⟩
    intro item hitem
    obtain ⟨text, rfl, rfl⟩ := Option.map_eq_some_iff.mp hitem
    exact cNames_of_child_nil rfl rfl
  | addEventDataObject key object =>
    obtain ⟨rc, hexec⟩ := exec_of_discard h
    have hduplicate : object.map cJSONDuplicate = object := by cases object <;> simp
    refine ⟨staged_addEventData hstaged id hnames.1 ?_ ?_ hexec, by simp [Call.isDispatch]⟩
    · rw [hduplicate]
      exact hobjects
    · rw [hduplicate]
      exact hnames.2
  | _ => exact ⟨hkept rfl, by simp [Call.isDispatch]⟩

end Calls

/-! ## Runs -/

/-- In every run of calls from a zeroed client, in which the objects that the application
passes have no two siblings with names that are equal without regard to case: nor has either
of the staged trees after every call, nor what is published by a dispatch. -/
theorem staged_distinct (b : Build) {g : Globals} {s : Sdk} {records : List CallRecord}
    (hrun : CallRun b { client := {}, globals := g } records s)
    (hobjects : ∀ r ∈ records, r.call.ObjectsDistinct)
    (hnames : ∀ r ∈ records, r.call.EventNames) :
    Staged s ∧ ∀ r ∈ records, Staged r.after ∧
      (r.call.isDispatch = true → ∀ text ∈ publishedTexts r.effects, NoDuplicateKeys text) := by
  -- the conditions on the calls go into the invariant, so that they reach the last call
  refine hrun.invariant (I := fun s records => (∀ r ∈ records, r.call.ObjectsDistinct) →
      (∀ r ∈ records, r.call.EventNames) → Staged s ∧ ∀ r ∈ records, Staged r.after ∧
      (r.call.isDispatch = true → ∀ text ∈ publishedTexts r.effects, NoDuplicateKeys text))
    ?_ ?_ hobjects hnames
  · exact fun _ _ => ⟨⟨by simp, by simp⟩, by simp⟩
  · intro s records call log s' ih hexec hobjects hnames
    rw [List.forall_mem_append, List.forall_mem_singleton] at hobjects hnames
    obtain ⟨hstaged, hbefore⟩ := ih hobjects.1 hnames.1
    have hcall := staged_call hstaged hobjects.2 hnames.2 (Prog.exec_of_logged hexec)
    rw [List.forall_mem_append, List.forall_mem_singleton]
    exact ⟨hcall.1, hbefore, hcall⟩

/-- A run that stages the same name twice in different spellings, and dispatches. -/
theorem staged_distinct_respelled : ∃ records s,
    CallRun plainBuild { client := {}, globals := {} } records s ∧
    records.map Atomic.Record.call = [.init sampleArgs, .connect,
      .addNumber (some "Key".toList) (.ofInt 1) (some "a.b".toList),
      .addNumber (some "kEY".toList) (.ofInt 2) (some "A.b".toList), .dispatch,
      .addEventDataNumber (some "Key".toList) (.ofInt 1),
      .addEventDataObject (some "kEY".toList) (some cJSONCreateArray),
      .dispatchEventFromEventDataObject (some "type".toList) (some "text".toList) none] ∧
    (∃ r ∈ records, r.call.isDispatch = true ∧ publishedTexts r.effects ≠ []) ∧
    Staged s ∧ ∀ r ∈ records, Staged r.after ∧
      (r.call.isDispatch = true → ∀ text ∈ publishedTexts r.effects, NoDuplicateKeys text) := by
  obtain ⟨records, s, hrun, hcalls, htest⟩ :=
    Atomic.exists_recorded (Call.prog plainBuild)
      [(.init sampleArgs, [{}]), (.connect, List.replicate 20 {}),
        (.addNumber (some "Key".toList) (.ofInt 1) (some "a.b".toList), [{}, {}]),
        (.addNumber (some "kEY".toList) (.ofInt 2) (some "A.b".toList), [{}, {}]),
        (.dispatch, List.replicate 10 {}),
        (.addEventDataNumber (some "Key".toList) (.ofInt 1), [{}]),
        (.addEventDataObject (some "kEY".toList) (some cJSONCreateArray), [{}]),
        (.dispatchEventFromEventDataObject (some "type".toList) (some "text".toList) none,
          List.replicate 10 {})]
      { client := {}, globals := {} }
      (fun x => x.1.any fun (r : CallRecord) =>
        r.call.isDispatch && !(publishedTexts r.effects).isEmpty)
      (by decide +kernel)
  have harray : cJSONCreateArray.Distinct ∧ cJSONCreateArray.CNames :=
    ⟨distinct_of_child_nil rfl, cNames_of_child_nil rfl rfl⟩
  have hconditions : ∀ call ∈ records.map Atomic.Record.call,
      call.ObjectsDistinct ∧ call.EventNames := by
    rw [hcalls]
    simp [Call.ObjectsDistinct, Call.EventNames, IsCString, harray]
  rw [List.forall_mem_map] at hconditions
  obtain ⟨r, hr, hpublished⟩ := List.any_eq_true.mp htest
  refine ⟨records, s, hrun, hcalls, ⟨r, hr, by simpa using hpublished⟩, ?_⟩
  exact staged_distinct plainBuild hrun (fun r hr => (hconditions r hr).1)
    fun r hr => (hconditions r hr).2

end ZohoIotSdk
