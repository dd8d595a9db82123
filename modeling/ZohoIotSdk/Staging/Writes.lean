import ZohoIotSdk.CJson.Reader
import ZohoIotSdk.Calls

/-!
# Writes to the staged telemetry

The calls that put a value into the telemetry tree write to the path that the tokens of the
asset name and the key make up. `write_reads_back_iff` says when the value is then read from the
printed text at the end of that path.
-/

namespace ZohoIotSdk

open Atomic (Prog)

/-! ## Writing at a path -/

/-- Putting a member is an upsert under its name. -/
theorem putMember_some (object item : CJson) (key : CString) :
    putMember object key (some item) =
      object.upsert key (some (item.named key)) fun _ => item.named key := by
  unfold putMember
  split
  · rename_i h
    exact cJSONReplaceItemInObject_eq object item key h _
  · rename_i h
    exact cJSONAddItemToObject_eq object item key (by simpa using h) _

theorem putMember_none (object : CJson) (key : CString) : putMember object key none = object := by
  unfold putMember
  split <;> rfl

/-- One token of the asset name: the member is created if it is missing. -/
theorem atAsset_cons (f : CJson → CJson) (token : CString) (tokens : List CString)
    (current : CJson) : atAsset f (token :: tokens) current =
      current.upsert token (some (atAsset f tokens (cJSONCreateObject.named token)))
        (atAsset f tokens) := by
  have hmodify : ∀ cs, modifyFirst (CJson.hasName token) (atAsset f tokens) cs =
      Keyed.upsert CJson.key (lowerCase token) none (atAsset f tokens) cs := by
    intro cs
    induction cs with
    | nil => rfl
    | cons c cs ih => simp only [modifyFirst, Keyed.upsert, hasName_eq, decide_eq_true_eq, ih]
  rw [atAsset]
  simp only [hmodify]
  split
  · rename_i h
    have hsome : (Keyed.get CJson.key (lowerCase token) current.child).isSome := by
      rw [← cJSONGetObjectItem_eq]
      exact h
    rw [CJson.upsert, Keyed.upsert_of_get_isSome hsome]
  · rename_i h
    -- the new object is written to right away
    have hwritten : Keyed.upsert CJson.key (lowerCase token) none (atAsset f tokens)
        (Keyed.upsert CJson.key (lowerCase token) (some (cJSONCreateObject.named token)) id
          current.child) =
        Keyed.upsert CJson.key (lowerCase token)
          (some (atAsset f tokens (cJSONCreateObject.named token))) (atAsset f tokens)
          current.child :=
      Keyed.upsert_upsert (by simp) fun _ h => h
    rw [cJSONAddItemToObject_eq current _ token (by simpa using h) id, CJson.upsert, CJson.upsert,
      CJson.child_withChild, withChild_withChild, hwritten]

/-- Write an item at a path of names: objects that are missing on the way are created. A null
item creates them too, but is not written. -/
def writeAt (item : Option CJson) : List CString → CJson → CJson
  | [], tree => tree
  | [key], tree => putMember tree key item
  | token :: next :: path, tree =>
    tree.upsert token (some (writeAt item (next :: path) (cJSONCreateObject.named token)))
      (writeAt item (next :: path))

/-- A write goes down into the member named first, which is made if it is missing. -/
theorem writeAt_cons (item : Option CJson) (token : CString) {path : List CString} (h : path ≠ [])
    (tree : CJson) : writeAt item (token :: path) tree =
      tree.upsert token (some (writeAt item path (cJSONCreateObject.named token)))
        (writeAt item path) := by
  cases path with
  | nil => exact absurd rfl h
  | cons next path => rfl

/-- What the SDK does: walk along the tokens, and put the item there. -/
theorem atAsset_putMember (key : CString) (item : Option CJson) (tokens : List CString)
    (tree : CJson) :
    atAsset (putMember · key item) tokens tree = writeAt item (tokens ++ [key]) tree := by
  induction tokens generalizing tree with
  | nil => rfl
  | cons token tokens ih =>
    rw [atAsset_cons, List.cons_append, writeAt_cons item token (by simp), ih]
    congr
    funext tree
    exact ih tree

/-- A write changes one member of the root, or adds it. -/
structure WritesMember (name : CString) (write : CJson → CJson) (new : Option CJson)
    (f : CJson → CJson) : Prop where
  upsert : ∀ tree, write tree = tree.upsert name new f
  new_key : ∀ c ∈ new, c.key = some (lowerCase name)
  key : ∀ c, c.key = some (lowerCase name) → (f c).key = some (lowerCase name)

theorem writeAt_string (item : Option CJson) (path : List CString) (tree : CJson) :
    (writeAt item path tree).string = tree.string := by
  cases path with
  | nil => rfl
  | cons name path =>
    cases path with
    | nil =>
      cases item with
      | none => rw [writeAt, putMember_none]
      | some i => rw [writeAt, putMember_some, string_upsert]
    | cons next path => rw [writeAt, string_upsert]

/-- A write keeps the name of the root. -/
theorem writeAt_key (item : Option CJson) (path : List CString) (tree : CJson) :
    (writeAt item path tree).key = tree.key := by
  rw [CJson.key, CJson.key, writeAt_string]

/-- A write touches one member of the root. -/
theorem writeAt_writesMember (item : Option CJson) (name : CString) (path : List CString) :
    ∃ new f, WritesMember name (writeAt item (name :: path)) new f := by
  cases path with
  | nil =>
    cases item with
    | none =>
      refine ⟨none, id, fun tree => ?_, by simp, fun _ h => h⟩
      have hid : ∀ cs, Keyed.upsert CJson.key (lowerCase name) none id cs = cs := by
        intro cs
        induction cs with
        | nil => rfl
        | cons c cs ih => rw [Keyed.upsert, ih]; split <;> rfl
      rw [writeAt, putMember_none, CJson.upsert, hid, withChild_child]
    | some i =>
      exact ⟨some (i.named name), fun _ => i.named name, fun tree => putMember_some tree i name,
        by simp, fun _ _ => key_named name i⟩
  | cons next path =>
    refine ⟨_, _, fun tree => rfl, ?_, fun c h => by rw [writeAt_key, h]⟩
    simp [writeAt_key]

/-! ## The calls -/

/-- A call that puts a value into the telemetry tree. -/
inductive TelemetryWrite where
  | number (key : CStringPtr) (value : Double) (assetName : CStringPtr)
  | string (key value assetName : CStringPtr)
  | object (key : CStringPtr) (item : Option CJson) (assetName : CStringPtr)
  | error (key assetName : CStringPtr)

namespace TelemetryWrite

def prog : TelemetryWrite → ClientM ℤ
  | number key value assetName => zclientAddNumber key value assetName
  | string key value assetName => zclientAddString key value assetName
  | object key item assetName => zclientAddObject key item assetName
  | error key assetName => zclientMarkDataPointAsError key assetName

def key : TelemetryWrite → CStringPtr
  | number key _ _ | string key _ _ | object key _ _ | error key _ => key

def assetName : TelemetryWrite → CStringPtr
  | number _ _ assetName | string _ _ assetName | object _ _ assetName | error _ assetName =>
    assetName

/-- The value that is given; a null pointer is none. -/
def value : TelemetryWrite → Option CJson
  | number _ value _ => some (cJSONCreateNumber value)
  | string _ value _ => cJSONCreateString value
  | object _ item _ => item
  | error _ _ => cJSONCreateString (some "<ERROR>".toList)

/-- Does the call report an addition that failed? -/
def checked : TelemetryWrite → Bool
  | object _ _ _ => false
  | _ => true

/-- The numbers of the value. -/
def numbers (w : TelemetryWrite) : List Double := (w.value.map CJson.numbers).getD []

/-- The tokens of the asset name, and the key. -/
def path (w : TelemetryWrite) : List CString := assetTokens w.assetName ++ [w.key.getD []]

/-- The functions of the family are one with the values of the member. -/
theorem prog_eq (w : TelemetryWrite) :
    w.prog = addToPayload w.checked w.key w.value w.assetName := by
  cases w with
  | object key item assetName =>
    have hduplicate : item.map cJSONDuplicate = item := by cases item <;> simp
    show addToPayload false key (item.map cJSONDuplicate) assetName = _
    rw [hduplicate]
    rfl
  | _ => rfl

end TelemetryWrite

/-- The staged tree after a write; a tree that is absent begins as an empty object. -/
def Sdk.written (s : Sdk) (w : TelemetryWrite) : Sdk :=
  let tree := writeAt w.value w.path (s.client.messageData.getD cJSONCreateObject)
  { s with client := { s.client with messageData := some tree } }

/-- The client has been initialised, and the key can be used. -/
structure TelemetryWrite.Accepted (w : TelemetryWrite) (s : Sdk) : Prop where
  state : clientStateCode s.client = 0
  key : isStringValid w.key = true

/-- A write is refused and changes nothing, or it is made. -/
theorem write_cases {w : TelemetryWrite} {s s' : Sdk} {rc : ℤ} {es : List Effect}
    (h : w.prog.Exec s rc es s') : (¬ w.Accepted s ∧ s' = s ∧ rc ≠ zsuccess) ∨
      (w.Accepted s ∧ s' = s.written w) := by
  rw [w.prog_eq, addToPayload, validateClientState, exec_readClient_bind] at h
  split at h
  · rename_i hcode
    rcases h with ⟨rfl, -, rfl⟩
    exact .inl ⟨fun haccepted => hcode haccepted.state, rfl, hcode⟩
  · rename_i hcode
    split at h
    · rename_i hkey
      rcases h with ⟨rfl, -, rfl⟩
      exact .inl ⟨fun haccepted => by simp [haccepted.key] at hkey, rfl, by decide⟩
    · rename_i hkey
      rcases h with ⟨_, _, rfl, -, -, rfl⟩
      refine .inr ⟨⟨not_not.mp hcode, by simpa using hkey⟩, ?_⟩
      rw [Sdk.written, TelemetryWrite.path, ← atAsset_putMember]

/-! ## Reading back -/

/-- The tokens of an asset name are not empty. -/
theorem assetTokens_ne_nil {assetName : CStringPtr} {t : CString} (h : t ∈ assetTokens assetName) :
    t ≠ [] := by
  unfold assetTokens at h
  split at h
  · exact strtokFrom_ne_nil h
  · simp at h

/-- A valid string is not empty. -/
theorem getD_ne_nil_of_isStringValid {s : CStringPtr} (h : isStringValid s = true) :
    s.getD [] ≠ [] := by
  cases s with
  | none => simp [isStringValid] at h
  | some t => simpa [isStringValid] using h

/-- The item and everything that is there already on the way along the tokens are objects. -/
def objectsOnPath : List CString → CJson → Bool
  | [], item => decide (item.type = .object)
  | token :: tokens, item => decide (item.type = .object) &&
    (cJSONGetObjectItem item token).all (objectsOnPath tokens)

/-- From a new object on everything is new. -/
theorem objectsOnPath_new (name : CString) (tokens : List CString) :
    objectsOnPath tokens (cJSONCreateObject.named name) = true := by
  cases tokens with
  | nil => rfl
  | cons token tokens => rfl

/-- What the text shows at the path after a write: the value, if objects lead there. -/
theorem lookup_writeAt {item : CJson} {tokens : List CString} (htokens : ∀ t ∈ tokens, t ≠ [])
    {key : CString} (hkey : key ≠ []) (tree : CJson) :
    (document (writeAt (some item) (tokens ++ [key]) tree)).lookup (tokens ++ [key]) =
      if objectsOnPath tokens tree then some (document item) else none := by
  induction tokens generalizing tree with
  | nil =>
    rw [List.nil_append, writeAt, putMember_some]
    by_cases htype : tree.type = .object
    · rw [lookup_of_object (by rw [type_upsert, htype]) hkey,
        cJSONGetObjectItem_upsert rfl (by simp) (by simp)]
      cases cJSONGetObjectItem tree key with
      | none => simp [objectsOnPath, htype, Json.lookup]
      | some _ => simp [objectsOnPath, htype, Json.lookup]
    · rw [lookup_of_not_object (by rw [type_upsert]; exact htype)]
      simp [objectsOnPath, htype]
  | cons token tokens ih =>
    have htoken : token ≠ [] := htokens token List.mem_cons_self
    have ih' := ih fun t ht => htokens t (List.mem_cons_of_mem _ ht)
    rw [List.cons_append, writeAt_cons _ _ (by simp)]
    by_cases htype : tree.type = .object
    · rw [lookup_of_object (by rw [type_upsert, htype]) htoken,
        cJSONGetObjectItem_upsert rfl (by simp [writeAt_key]) (fun c h => by rw [writeAt_key, h])]
      rw [objectsOnPath, decide_eq_true htype, Bool.true_and]
      -- the rest of the way begins at the member that is there, or at a new object
      cases cJSONGetObjectItem tree token with
      | none => simp [ih', objectsOnPath_new]
      | some next => simp [ih']
    · rw [lookup_of_not_object (by rw [type_upsert]; exact htype)]
      simp [objectsOnPath, htype]

/-- The text that `zclient_dispatch` prints next reads as a JSON document that leads along the
path to the value that was given. -/
def ShowsValue (w : TelemetryWrite) (s : Sdk) : Prop :=
  ∃ tree value doc, s.client.messageData = some tree ∧ w.value = some value ∧
    Json.read (cJSONPrint tree) = some doc ∧ doc.lookup w.path = some (given value)

/-- The written value is shown exactly when the path and the numbers allow it. -/
theorem showsValue_written_iff {w : TelemetryWrite} (hkey : isStringValid w.key = true) (s : Sdk) :
    ShowsValue w (s.written w) ↔ w.value.isSome = true ∧
      objectsOnPath (assetTokens w.assetName) (s.client.messageData.getD cJSONCreateObject) =
        true ∧
      ∀ d ∈ w.numbers, PrintedExactly d := by
  have hne : w.key.getD [] ≠ [] := getD_ne_nil_of_isStringValid hkey
  cases hvalue : w.value with
  | none => simp [ShowsValue, hvalue]
  | some item =>
    have hlookup : ∀ tree, (document (writeAt (some item) w.path tree)).lookup w.path =
        if objectsOnPath (assetTokens w.assetName) tree then some (document item) else none :=
      lookup_writeAt (fun _ => assetTokens_ne_nil) hne
    simp [ShowsValue, Sdk.written, TelemetryWrite.numbers, hvalue, read_cJSONPrint, hlookup,
      document_eq_given_iff]

/-- A write that returns `ZSUCCESS`, by evaluation. -/
theorem exists_write (w : TelemetryWrite) (s : Sdk)
    (h : (w.prog.run (List.replicate 3 {}) s).any (fun x => decide (x.1 = zsuccess)) = true) :
    ∃ es, w.prog.Exec s zsuccess es (s.written w) := by
  obtain ⟨⟨rc, es, s'⟩, hrun, hrc⟩ := (Option.any_eq_true _ _).mp h
  have hrc' : rc = zsuccess := of_decide_eq_true hrc
  have hexec : w.prog.Exec s rc es s' := Prog.exec_of_run hrun
  rcases write_cases hexec with ⟨-, -, hne⟩ | ⟨-, rfl⟩
  · exact absurd hrc' hne
  · exact ⟨es, by rwa [hrc'] at hexec⟩

/-- `0.1 + 0.2`, the next double after `0.3`. -/
def tenthAndFifth : Double := ⟨0x3FD3333333333334⟩

def notANumber : Double := ⟨0x7FF8000000000000⟩

/-- A call that succeeds without its value being shown. -/
theorem exists_not_shown (w : TelemetryWrite) (s : Sdk)
    (hrun : (w.prog.run (List.replicate 3 {}) s).any (fun x => decide (x.1 = zsuccess)) = true)
    (hkey : isStringValid w.key = true)
    (hnot : ¬ (w.value.isSome = true ∧
      objectsOnPath (assetTokens w.assetName) (s.client.messageData.getD cJSONCreateObject) =
        true ∧
      ∀ d ∈ w.numbers, PrintedExactly d)) :
    ∃ es s', w.prog.Exec s zsuccess es s' ∧ ¬ ShowsValue w s' := by
  obtain ⟨es, hexec⟩ := exists_write w s hrun
  exact ⟨es, _, hexec, fun hshows => hnot ((showsValue_written_iff hkey s).mp hshows)⟩

end ZohoIotSdk
