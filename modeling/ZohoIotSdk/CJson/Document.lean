import ZohoIotSdk.CJson.Members
import ZohoIotSdk.CJson.Text

/-!
# JSON documents

A JSON document has numbers, and a number is a double. What a text that `cJSON_Print` wrote shows
of a tree (`document`) is not always the tree itself: an item has its children in the document
only if it is an object or an array, an element of an array has no name there, and a number is
only what its text reads back as. `Json.read` reads a text, see `read_cJSONPrint`.
-/

namespace ZohoIotSdk

/-- A JSON document. -/
inductive Json where
  | null
  | bool (value : Bool)
  | number (value : Double)
  | string (text : CString)
  | array (elements : List Json)
  | object (members : List (CString × Json))

/-! ## Reading a text -/

/-- The double nearest to the number that the whole text is. -/
def readNumber (text : List Char) : Option Double :=
  (strtod text).bind fun (d, len) => if len = text.length then some d else none

/-- What stands after the opening quote of a string. -/
def readString (input : List Char) : Option (CString × List Char) :=
  (scanString input).bind fun (bytes, after) => (unescape bytes).map fun text => (text, after)

mutual

/-- A value, and the text after it. -/
def readValue : ℕ → List Char → Option (Json × List Char)
  | 0, _ => none
  | fuel + 1, input =>
    if "null".toList.isPrefixOf input then some (.null, input.drop 4)
    else if "false".toList.isPrefixOf input then some (.bool false, input.drop 5)
    else if "true".toList.isPrefixOf input then some (.bool true, input.drop 4)
    else match input with
      | [] => none
      | c :: rest =>
        if c = '"' then (readString rest).map fun (text, after) => (.string text, after)
        else if c = '[' then
          match skipWhitespace rest with
          | ']' :: after => some (.array [], after)
          | first => (readElements fuel first).map fun (elements, after) => (.array elements, after)
        else if c = '{' then
          match skipWhitespace rest with
          | '}' :: after => some (.object [], after)
          | first => (readMembers fuel first).map fun (members, after) => (.object members, after)
        else
          let text := input.takeWhile isNumberChar
          (readNumber text).map fun d => (.number d, input.drop text.length)

/-- Values with commas between them, up to the closing bracket. -/
def readElements : ℕ → List Char → Option (List Json × List Char)
  | 0, _ => none
  | fuel + 1, input =>
    (readValue fuel (skipWhitespace input)).bind fun (value, rest) =>
      match skipWhitespace rest with
      | ',' :: next => (readElements fuel next).map fun (values, after) => (value :: values, after)
      | ']' :: after => some ([value], after)
      | _ => none

/-- Names and values with commas between them, up to the closing brace. -/
def readMembers : ℕ → List Char → Option (List (CString × Json) × List Char)
  | 0, _ => none
  | fuel + 1, input =>
    match skipWhitespace input with
    | '"' :: rest => (readString rest).bind fun (name, afterName) =>
      match skipWhitespace afterName with
      | ':' :: text => (readValue fuel (skipWhitespace text)).bind fun (value, rest) =>
        match skipWhitespace rest with
        | ',' :: next =>
          (readMembers fuel next).map fun (members, after) => ((name, value) :: members, after)
        | '}' :: after => some ([(name, value)], after)
        | _ => none
      | _ => none
    | _ => none

end

/-- Read a text: one value, with nothing but white space around it. Every level of nesting and
every further element takes at least one character, so the fuel is enough. -/
def Json.read (text : List Char) : Option Json :=
  (readValue (text.length + 1) (skipWhitespace text)).bind fun (value, after) =>
    if skipWhitespace after = [] then some value else none

/-! ## The document of a tree -/

/-- What a double is read back as. -/
def documentNumber (d : Double) : Json :=
  match readNumber (printNumber d) with
  | some d' => .number d'
  | none => .null

mutual

/-- What is shown of a tree; an item without a name is printed with an empty one. -/
def document : CJson → Json
  | .mk .null _ _ _ _ => .null
  | .mk .false _ _ _ _ => .bool false
  | .mk .true _ _ _ _ => .bool true
  | .mk .number _ d _ _ => documentNumber d
  | .mk .string v _ _ _ => .string (v.getD [])
  | .mk .array _ _ _ cs => .array (documentElements cs)
  | .mk .object _ _ _ cs => .object (documentMembers cs)

def documentElements : List CJson → List Json
  | [] => []
  | c :: cs => document c :: documentElements cs

def documentMembers : List CJson → List (CString × Json)
  | [] => []
  | c :: cs => (c.string.getD [], document c) :: documentMembers cs

end

mutual

/-- The value that a tree stands for, with its numbers as they are. -/
def given : CJson → Json
  | .mk .null _ _ _ _ => .null
  | .mk .false _ _ _ _ => .bool false
  | .mk .true _ _ _ _ => .bool true
  | .mk .number _ d _ _ => .number d
  | .mk .string v _ _ _ => .string (v.getD [])
  | .mk .array _ _ _ cs => .array (givenElements cs)
  | .mk .object _ _ _ cs => .object (givenMembers cs)

def givenElements : List CJson → List Json
  | [] => []
  | c :: cs => given c :: givenElements cs

def givenMembers : List CJson → List (CString × Json)
  | [] => []
  | c :: cs => (c.string.getD [], given c) :: givenMembers cs

end

/-! ## Numbers that are printed exactly -/

mutual

/-- The numbers of a tree that are printed. -/
def CJson.numbers : CJson → List Double
  | .mk .number _ d _ _ => [d]
  | .mk .array _ _ _ cs => numbersOf cs
  | .mk .object _ _ _ cs => numbersOf cs
  | .mk _ _ _ _ _ => []

def numbersOf : List CJson → List Double
  | [] => []
  | c :: cs => c.numbers ++ numbersOf cs

end

/-- The text of a double is that of a number, and the double is the nearest one to it. -/
def PrintedExactly (d : Double) : Prop := readNumber (printNumber d) = some d

instance (d : Double) : Decidable (PrintedExactly d) := inferInstanceAs (Decidable (_ = _))

/-- A number is shown as itself exactly when it is printed exactly. -/
theorem documentNumber_eq_iff (d : Double) : documentNumber d = .number d ↔ PrintedExactly d := by
  unfold documentNumber PrintedExactly
  cases readNumber (printNumber d) with
  | none => simp
  | some d' => simp

mutual

/-- The text shows the value of a tree if its numbers are printed exactly. -/
theorem document_eq_given_iff : ∀ j : CJson,
    document j = given j ↔ ∀ d ∈ j.numbers, PrintedExactly d
  | .mk t v d n cs => by
    cases t <;> simp only [document, given, CJson.numbers, List.not_mem_nil, false_imp_iff,
      implies_true]
    case number => rw [documentNumber_eq_iff, List.forall_mem_singleton]
    case array => rw [Json.array.injEq, documentElements_eq_given_iff cs]
    case object => rw [Json.object.injEq, documentMembers_eq_given_iff cs]

/-- Elements are shown as given exactly when all their numbers are printed exactly. -/
theorem documentElements_eq_given_iff : ∀ cs : List CJson,
    documentElements cs = givenElements cs ↔ ∀ d ∈ numbersOf cs, PrintedExactly d
  | [] => by simp [documentElements, givenElements, numbersOf]
  | c :: cs => by
    rw [documentElements, givenElements, numbersOf, List.cons.injEq, List.forall_mem_append,
      document_eq_given_iff c, documentElements_eq_given_iff cs]

/-- Members are shown as given exactly when all their numbers are printed exactly. -/
theorem documentMembers_eq_given_iff : ∀ cs : List CJson,
    documentMembers cs = givenMembers cs ↔ ∀ d ∈ numbersOf cs, PrintedExactly d
  | [] => by simp [documentMembers, givenMembers, numbersOf]
  | c :: cs => by
    rw [documentMembers, givenMembers, numbersOf, List.cons.injEq, Prod.mk.injEq,
      List.forall_mem_append, document_eq_given_iff c, documentMembers_eq_given_iff cs]
    simp

end

/-! ## Looking up a path -/

/-- Follow a path of names through nested objects, at each of them to the first member of the
name. -/
def Json.lookup : List CString → Json → Option Json
  | [], value => some value
  | name :: path, .object members =>
    (members.find? fun m => eqIgnoreCase name m.1).bind fun m => lookup path m.2
  | _ :: _, _ => none

/-- The name of an item is not part of its document. -/
@[simp] theorem document_named (name : CString) (item : CJson) :
    document (item.named name) = document item := by
  rcases item with ⟨t, v, d, n, cs⟩
  cases t <;> simp only [CJson.named, document]

theorem documentMembers_eq (cs : List CJson) :
    documentMembers cs = cs.map fun c => (c.string.getD [], document c) := by
  induction cs with
  | nil => rfl
  | cons c cs ih => rw [documentMembers, ih, List.map_cons]

/-- An object shows its members in their order. -/
theorem document_of_object {item : CJson} (h : item.type = .object) :
    document item = .object (item.child.map fun c => (c.string.getD [], document c)) := by
  rcases item with ⟨t, v, d, n, cs⟩
  cases h
  rw [document, documentMembers_eq]
  rfl

/-- In the document, only an object leads further. -/
theorem lookup_of_not_object {item : CJson} (h : item.type ≠ .object) (name : CString)
    (path : List CString) : (document item).lookup (name :: path) = none := by
  rcases item with ⟨t, v, d, n, cs⟩
  cases t
  case number =>
    rw [document, documentNumber]
    cases readNumber (printNumber d) <;> rfl
  case object => exact absurd rfl h
  all_goals rfl

/-- The members of an object in the document are those that `cJSON_GetObjectItem` finds. -/
theorem lookup_of_object {item : CJson} (h : item.type = .object) {name : CString}
    (hname : name ≠ []) (path : List CString) : (document item).lookup (name :: path) =
      (cJSONGetObjectItem item name).bind fun next => (document next).lookup path := by
  have hmatch : (fun m : CString × Json => eqIgnoreCase name m.1) ∘
      (fun c : CJson => (c.string.getD [], document c)) = CJson.hasName name := by
    funext c
    unfold CJson.hasName
    cases hstring : c.string with
    | none => simpa [eqIgnoreCase, hstring] using hname
    | some n => simp [hstring]
  rw [document_of_object h, Json.lookup, List.find?_map, hmatch, Option.bind_map]
  rfl

end ZohoIotSdk
