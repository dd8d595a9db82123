import ZohoIotSdk.CJson.Number

/-!
# cJSON trees

The item of `lib/cjson/cJSON.h` and the tree operations the SDK calls. An item keeps its
own name (`string`), its children (the `child`/`next` chain, as a list) and its value
fields side by side, as the C structure does: nothing ties the children to the type, so
an item of any type can be given children or searched for a member.

The flags `cJSON_IsReference` and `cJSON_StringIsConst` only say who frees what and are
left out, and so is `cJSON_Raw`, which neither the parser nor the SDK creates. The field
`valueint` is the saturated `valuedouble`, so it is not a field here.
-/

namespace ZohoIotSdk

/-- The types of an item. -/
inductive CJsonType where
  | false
  | true
  | null
  | number
  | string
  | array
  | object
deriving DecidableEq, Repr

/-- `struct cJSON`. -/
inductive CJson where
  | mk (type : CJsonType) (valuestring : Option CString) (valuedouble : Double)
      (string : Option CString) (child : List CJson)
deriving Repr

namespace CJson

def type : CJson → CJsonType
  | .mk t _ _ _ _ => t

def valuestring : CJson → Option CString
  | .mk _ v _ _ _ => v

def valuedouble : CJson → Double
  | .mk _ _ d _ _ => d

/-- The name under which the item is a member of its parent. -/
def string : CJson → Option CString
  | .mk _ _ _ n _ => n

def child : CJson → List CJson
  | .mk _ _ _ _ cs => cs

/-- The item under another name. -/
def named (name : CString) : CJson → CJson
  | .mk t v d _ cs => .mk t v d (some name) cs

/-- The item with other children. -/
def withChild (cs : List CJson) : CJson → CJson
  | .mk t v d n _ => .mk t v d n cs

@[simp] theorem child_withChild (cs : List CJson) (j : CJson) : (j.withChild cs).child = cs := by
  cases j; rfl

@[simp] theorem type_withChild (cs : List CJson) (j : CJson) : (j.withChild cs).type = j.type := by
  cases j; rfl

@[simp] theorem string_named (name : CString) (j : CJson) :
    (j.named name).string = some name := by
  cases j; rfl

@[simp] theorem child_named (name : CString) (j : CJson) : (j.named name).child = j.child := by
  cases j; rfl

@[simp] theorem type_named (name : CString) (j : CJson) : (j.named name).type = j.type := by
  cases j; rfl

@[simp] theorem valuestring_named (name : CString) (j : CJson) :
    (j.named name).valuestring = j.valuestring := by
  cases j; rfl

end CJson

/-! ## Creating items -/

/-- A new item of the given type. -/
def cJSONNewItem (t : CJsonType) : CJson := .mk t none ⟨0⟩ none []

def cJSONCreateObject : CJson := cJSONNewItem .object

def cJSONCreateArray : CJson := cJSONNewItem .array

def cJSONCreateBool (b : Bool) : CJson := cJSONNewItem (if b then .true else .false)

def cJSONCreateNumber (num : Double) : CJson := .mk .number none num none []

/-- A null pointer gives no item. -/
def cJSONCreateString (s : Option CString) : Option CJson :=
  s.map fun text => .mk .string (some text) ⟨0⟩ none []

/-! ## Looking at items -/

def cJSONIsArray (item : Option CJson) : Bool := decide (item.map CJson.type = some .array)

def cJSONIsString (item : Option CJson) : Bool := decide (item.map CJson.type = some .string)

/-- `case_insensitive_strcmp(a, b) == 0`. -/
def eqIgnoreCase (a b : CString) : Bool := decide (a.map Char.toLower = b.map Char.toLower)

/-- Is this the name of the item, ignoring case? An item without a name has none. -/
def CJson.hasName (name : CString) (item : CJson) : Bool :=
  match item.string with
  | some n => eqIgnoreCase name n
  | none => false

/-- The first child of that name, ignoring case. -/
def cJSONGetObjectItem (object : CJson) (name : CString) : Option CJson :=
  object.child.find? (CJson.hasName name)

def cJSONHasObjectItem (object : CJson) (name : CString) : Bool :=
  (cJSONGetObjectItem object name).isSome

def cJSONGetArrayItem (array : CJson) (index : ℕ) : Option CJson := array.child[index]?

/-! ## Building trees -/

/-- `add_item_to_object`, with the null pointers it refuses. -/
def cJSONAddItemToObject (object : CJson) (name : Option CString) (item : Option CJson) : CJson :=
  match name, item with
  | some n, some i => object.withChild (object.child ++ [i.named n])
  | _, _ => object

def cJSONAddNumberToObject (object : CJson) (name : CString) (number : Double) : CJson :=
  cJSONAddItemToObject object (some name) (some (cJSONCreateNumber number))

def cJSONAddStringToObject (object : CJson) (name : CString) (s : Option CString) : CJson :=
  cJSONAddItemToObject object (some name) (cJSONCreateString s)

def cJSONAddBoolToObject (object : CJson) (name : CString) (b : Bool) : CJson :=
  cJSONAddItemToObject object (some name) (some (cJSONCreateBool b))

/-- The reference shares its children with the item, so as a tree it is a copy. -/
def cJSONAddItemReferenceToObject (object : CJson) (name : CString) (item : CJson) : CJson :=
  cJSONAddItemToObject object (some name) (some item)

/-- Replace the first element that satisfies `p`. -/
def replaceFirst (p : CJson → Bool) (new : CJson) : List CJson → List CJson
  | [] => []
  | c :: cs => if p c then new :: cs else c :: replaceFirst p new cs

/-- The replacement takes the place of the first member of that name; without one, or
without a replacement, nothing changes. -/
def cJSONReplaceItemInObject (object : CJson) (name : CString) (newitem : Option CJson) : CJson :=
  match newitem with
  | some i => object.withChild (replaceFirst (CJson.hasName name) (i.named name) object.child)
  | none => object

mutual

/-- `cJSON_Duplicate` with `recurse`. -/
def cJSONDuplicate : CJson → CJson
  | .mk t v d n cs => .mk t v d n (duplicateChain cs)

/-- The loop of `cJSON_Duplicate` along the `next` chain. -/
def duplicateChain : List CJson → List CJson
  | [] => []
  | c :: cs => cJSONDuplicate c :: duplicateChain cs

end

mutual

/-- A duplicate is the same tree. -/
theorem cJSONDuplicate_eq : ∀ j : CJson, cJSONDuplicate j = j
  | .mk t v d n cs => by rw [cJSONDuplicate, duplicateChain_eq cs]

/-- The copy of a chain of siblings is the chain. -/
theorem duplicateChain_eq : ∀ cs : List CJson, duplicateChain cs = cs
  | [] => rfl
  | c :: cs => by rw [duplicateChain, cJSONDuplicate_eq c, duplicateChain_eq cs]

end

attribute [simp] cJSONDuplicate_eq

end ZohoIotSdk
