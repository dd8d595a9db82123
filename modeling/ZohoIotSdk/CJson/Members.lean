import ZohoIotSdk.CJson.Tree
import ZohoIotSdk.Keyed.Upsert

/-!
# Members of cJSON items

cJSON compares names without regard to case, so the key of an item is its name in lower
case. Looking up, adding and replacing a member are operations on the list of children by
that key.
-/

namespace ZohoIotSdk

/-! ## Keys -/

/-- A name without regard to case. -/
def lowerCase (name : CString) : CString := name.map Char.toLower

/-- The key of an item among its siblings. -/
def CJson.key (item : CJson) : Option CString := item.string.map lowerCase

/-- Two names agree when they do in lower case. -/
theorem hasName_eq (name : CString) (item : CJson) :
    item.hasName name = decide (item.key = some (lowerCase name)) := by
  unfold CJson.hasName CJson.key eqIgnoreCase lowerCase
  cases item.string with
  | none => simp
  | some n => simp [eq_comm]

@[simp] theorem key_named (name : CString) (item : CJson) :
    (item.named name).key = some (lowerCase name) := by
  simp [CJson.key]

/-- The search finds the first member with the name's key. -/
theorem cJSONGetObjectItem_eq (object : CJson) (name : CString) :
    cJSONGetObjectItem object name = Keyed.get CJson.key (lowerCase name) object.child := by
  unfold cJSONGetObjectItem Keyed.get
  congr
  funext item
  exact hasName_eq name item

/-! ## Writing a member -/

/-- Change the first member of that name by `f`; if there is none, add `new`. -/
def CJson.upsert (name : CString) (new : Option CJson) (f : CJson → CJson) (object : CJson) :
    CJson :=
  object.withChild (Keyed.upsert CJson.key (lowerCase name) new f object.child)

@[simp] theorem withChild_child (object : CJson) : object.withChild object.child = object := by
  cases object
  rfl

@[simp] theorem withChild_withChild (cs cs' : List CJson) (object : CJson) :
    (object.withChild cs).withChild cs' = object.withChild cs' := by
  cases object
  rfl

@[simp] theorem string_withChild (cs : List CJson) (object : CJson) :
    (object.withChild cs).string = object.string := by
  cases object
  rfl

@[simp] theorem child_upsert (name : CString) (new : Option CJson) (f : CJson → CJson)
    (object : CJson) : (object.upsert name new f).child =
      Keyed.upsert CJson.key (lowerCase name) new f object.child :=
  CJson.child_withChild _ _

@[simp] theorem type_upsert (name : CString) (new : Option CJson) (f : CJson → CJson)
    (object : CJson) : (object.upsert name new f).type = object.type :=
  CJson.type_withChild _ _

@[simp] theorem string_upsert (name : CString) (new : Option CJson) (f : CJson → CJson)
    (object : CJson) : (object.upsert name new f).string = object.string :=
  string_withChild _ _

section Lookup

variable {name name' : CString} {new : Option CJson} {f : CJson → CJson}

/-- The member that was written. -/
theorem cJSONGetObjectItem_upsert (hname : lowerCase name' = lowerCase name)
    (hnew : ∀ c ∈ new, c.key = some (lowerCase name))
    (hf : ∀ c, c.key = some (lowerCase name) → (f c).key = some (lowerCase name))
    (object : CJson) : cJSONGetObjectItem (object.upsert name new f) name' =
      ((cJSONGetObjectItem object name').map f).or new := by
  rw [cJSONGetObjectItem_eq, cJSONGetObjectItem_eq, child_upsert, hname, Keyed.get_upsert hnew hf]

/-- Another member. -/
theorem cJSONGetObjectItem_upsert_of_ne (hname : lowerCase name' ≠ lowerCase name)
    (hnew : ∀ c ∈ new, c.key = some (lowerCase name))
    (hf : ∀ c, c.key = some (lowerCase name) → (f c).key = some (lowerCase name))
    (object : CJson) : cJSONGetObjectItem (object.upsert name new f) name' =
      cJSONGetObjectItem object name' := by
  rw [cJSONGetObjectItem_eq, cJSONGetObjectItem_eq, child_upsert,
    Keyed.get_upsert_of_ne hname hnew hf]

end Lookup

/-- Adding under a new name is an upsert. -/
theorem cJSONAddItemToObject_eq (object item : CJson) (name : CString)
    (h : cJSONHasObjectItem object name = false) (f : CJson → CJson) :
    cJSONAddItemToObject object (some name) (some item) =
      object.upsert name (some (item.named name)) f := by
  have hnone : Keyed.get CJson.key (lowerCase name) object.child = none := by
    rw [← cJSONGetObjectItem_eq]
    simpa [cJSONHasObjectItem] using h
  rw [CJson.upsert, Keyed.upsert_of_get_none hnone]
  rfl

/-- Replacing under a present name is an upsert. -/
theorem cJSONReplaceItemInObject_eq (object item : CJson) (name : CString)
    (h : cJSONHasObjectItem object name = true) (new : Option CJson) :
    cJSONReplaceItemInObject object name (some item) =
      object.upsert name new fun _ => item.named name := by
  have hsome : (Keyed.get CJson.key (lowerCase name) object.child).isSome := by
    rw [← cJSONGetObjectItem_eq]
    exact h
  have hreplace : ∀ cs, replaceFirst (CJson.hasName name) (item.named name) cs =
      Keyed.upsert CJson.key (lowerCase name) none (fun _ => item.named name) cs := by
    intro cs
    induction cs with
    | nil => rfl
    | cons c cs ih => simp only [replaceFirst, Keyed.upsert, hasName_eq, decide_eq_true_eq, ih]
  show object.withChild (replaceFirst _ _ _) = _
  rw [hreplace, CJson.upsert, Keyed.upsert_of_get_isSome hsome]

/-! ## Following a path -/

/-- The item at the end of a path of names. -/
def findAt : List CString → CJson → Option CJson
  | [], item => some item
  | name :: path, item => (cJSONGetObjectItem item name).bind (findAt path)

end ZohoIotSdk
