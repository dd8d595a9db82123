import ZohoIotSdk.CJson.Tree

/-!
# JSON text of cJSON trees

`cJSON_Print` and `cJSON_Parse` of `lib/cjson/cJSON.c`.

* The printer writes the formatted text: tabs and line breaks in objects, `", "` between
  array elements. With allocation succeeding it never fails on the trees modelled here.
* The parser works on the text from the current offset on. The loops over elements and
  members take fuel; `2 * length + 2` is enough for any text, see `parseValue_fuel`.
-/

namespace ZohoIotSdk

/-! ## Printing -/

/-- The text of a control character in a string: `\u00xx`. -/
def controlEscape (c : Char) : CString :=
  let hex := Nat.toDigits 16 c.toNat
  "\\u".toList ++ List.replicate (4 - hex.length) '0' ++ hex

/-- How `print_string_ptr` writes one byte. -/
def escapeChar (c : Char) : CString :=
  if c = '"' then "\\\"".toList
  else if c = '\\' then "\\\\".toList
  else if c = '\x08' then "\\b".toList
  else if c = '\x0c' then "\\f".toList
  else if c = '\n' then "\\n".toList
  else if c = '\r' then "\\r".toList
  else if c = '\t' then "\\t".toList
  else if c.toNat < 32 then controlEscape c
  else [c]

/-- `print_string_ptr`; a null pointer prints as the empty string. -/
def printStringPtr (s : Option CString) : CString :=
  '"' :: ((s.getD []).flatMap escapeChar ++ ['"'])

mutual

/-- `print_value`, `print_array` and `print_object` at nesting depth `depth`. -/
def printValue (depth : ℕ) : CJson → CString
  | .mk .null _ _ _ _ => "null".toList
  | .mk .false _ _ _ _ => "false".toList
  | .mk .true _ _ _ _ => "true".toList
  | .mk .number _ d _ _ => printNumber d
  | .mk .string v _ _ _ => printStringPtr v
  | .mk .array _ _ _ cs => '[' :: (printElements (depth + 1) cs ++ [']'])
  | .mk .object _ _ _ cs =>
    "\x7b\n".toList ++ printMembers (depth + 1) cs ++ List.replicate depth '\t' ++ ['}']

/-- The loop of `print_array`. -/
def printElements (depth : ℕ) : List CJson → CString
  | [] => []
  | [c] => printValue depth c
  | c :: cs => printValue depth c ++ ", ".toList ++ printElements depth cs

/-- The loop of `print_object`. -/
def printMembers (depth : ℕ) : List CJson → CString
  | [] => []
  | c :: cs =>
    List.replicate depth '\t' ++ printStringPtr c.string ++ ":\t".toList ++ printValue depth c
      ++ (if cs = [] then [] else [',']) ++ ['\n'] ++ printMembers depth cs

end

def cJSONPrint (item : CJson) : CString := printValue 0 item

/-! ## Parsing strings and numbers -/

/-- `buffer_skip_whitespace`: every byte up to the space counts. -/
def skipWhitespace (input : List Char) : List Char := input.dropWhile (·.toNat ≤ 32)

/-- The value of a hexadecimal digit. -/
def hexDigit (c : Char) : Option ℕ :=
  if '0' ≤ c ∧ c ≤ '9' then some (c.toNat - '0'.toNat)
  else if 'A' ≤ c ∧ c ≤ 'F' then some (10 + c.toNat - 'A'.toNat)
  else if 'a' ≤ c ∧ c ≤ 'f' then some (10 + c.toNat - 'a'.toNat)
  else none

/-- `parse_hex4`; anything that is not four digits gives 0. -/
def parseHex4 (a b c d : Char) : ℕ :=
  match hexDigit a, hexDigit b, hexDigit c, hexDigit d with
  | some w, some x, some y, some z => 4096 * w + 256 * x + 16 * y + z
  | _, _, _, _ => 0

/-- The UTF-8 bytes of a code point. -/
def utf8Bytes (codepoint : ℕ) : List Char :=
  let tail (shift : ℕ) := Char.ofNat (128 + codepoint / 2 ^ shift % 64)
  if codepoint < 0x80 then [Char.ofNat codepoint]
  else if codepoint < 0x800 then [Char.ofNat (0xC0 + codepoint / 2 ^ 6), tail 0]
  else if codepoint < 0x10000 then [Char.ofNat (0xE0 + codepoint / 2 ^ 12), tail 6, tail 0]
  else [Char.ofNat (0xF0 + codepoint / 2 ^ 18), tail 12, tail 6, tail 0]

/-- The bytes of a string literal up to the closing quote, and the text after it. -/
def scanString : List Char → Option (List Char × List Char)
  | [] => none
  | '"' :: rest => some ([], rest)
  | '\\' :: c :: rest => (scanString rest).map fun (bytes, after) => ('\\' :: c :: bytes, after)
  | c :: rest => (scanString rest).map fun (bytes, after) => (c :: bytes, after)

/-- The escape sequences of one character. -/
def simpleEscape (c : Char) : Option Char :=
  if c = 'b' then some '\x08'
  else if c = 'f' then some '\x0c'
  else if c = 'n' then some '\n'
  else if c = 'r' then some '\r'
  else if c = 't' then some '\t'
  else if c = '"' ∨ c = '\\' ∨ c = '/' then some c
  else none

/-- The second half of `parse_string`, with `utf16_literal_to_utf8`: replace the escape
sequences. -/
def unescape : List Char → Option (List Char)
  | [] => some []
  | '\\' :: 'u' :: a :: b :: c :: d :: rest =>
    let first := parseHex4 a b c d
    if 0xDC00 ≤ first ∧ first ≤ 0xDFFF then none
    else if 0xD800 ≤ first ∧ first ≤ 0xDBFF then
      -- the first half of a surrogate pair: the second half must follow
      match rest with
      | '\\' :: 'u' :: e :: f :: g :: h :: rest' =>
        let second := parseHex4 e f g h
        if second < 0xDC00 ∨ 0xDFFF < second then none
        else (unescape rest').map
          (utf8Bytes (0x10000 + (first % 1024 * 1024 + second % 1024)) ++ ·)
      | _ => none
    else (unescape rest).map (utf8Bytes first ++ ·)
  | '\\' :: c :: rest =>
    match simpleEscape c with
    | some b => (unescape rest).map (b :: ·)
    | none => none
  | c :: rest => if c = '\\' then none else (unescape rest).map (c :: ·)

/-- `parse_string`: the bytes of the literal as a C string, so cut at an escaped NUL. -/
def parseString (input : List Char) : Option (CString × List Char) :=
  match input with
  | '"' :: rest =>
    match scanString rest with
    | some (bytes, after) => (unescape bytes).map fun text => (cstr text, after)
    | none => none
  | _ => none

/-- The characters `parse_number` copies. -/
def isNumberChar (c : Char) : Bool :=
  c.isDigit || c = '+' || c = '-' || c = 'e' || c = 'E' || c = '.'

/-- `parse_number`: at most 63 characters are looked at. -/
def parseNumber (input : List Char) : Option (Double × List Char) :=
  (strtod ((input.take 63).takeWhile isNumberChar)).map fun (d, len) => (d, input.drop len)

/-! ## Parsing values -/

/-- `CJSON_NESTING_LIMIT`. -/
def nestingLimit : ℕ := 1000

mutual

/-- `parse_value`, `parse_array` and `parse_object`: the item and the text after it. -/
def parseValue : ℕ → ℕ → List Char → Option (CJson × List Char)
  | 0, _, _ => none
  | fuel + 1, depth, input =>
    if "null".toList.isPrefixOf input then some (cJSONNewItem .null, input.drop 4)
    else if "false".toList.isPrefixOf input then some (cJSONNewItem .false, input.drop 5)
    else if "true".toList.isPrefixOf input then some (cJSONNewItem .true, input.drop 4)
    else match input with
      | [] => none
      | c :: rest =>
        if c = '"' then
          (parseString input).map fun (text, after) => (.mk .string (some text) ⟨0⟩ none [], after)
        else if c = '-' ∨ c.isDigit then
          (parseNumber input).map fun (d, after) => (cJSONCreateNumber d, after)
        else if c = '[' then
          if nestingLimit ≤ depth then none
          else match skipWhitespace rest with
            | ']' :: after => some (cJSONCreateArray, after)
            | first => (parseElements fuel (depth + 1) first).map fun (cs, after) =>
                (cJSONCreateArray.withChild cs, after)
        else if c = '{' then
          if nestingLimit ≤ depth then none
          else match skipWhitespace rest with
            | '}' :: after => some (cJSONCreateObject, after)
            | first => (parseMembers fuel (depth + 1) first).map fun (cs, after) =>
                (cJSONCreateObject.withChild cs, after)
        else none

/-- The loop of `parse_array`. -/
def parseElements : ℕ → ℕ → List Char → Option (List CJson × List Char)
  | 0, _, _ => none
  | fuel + 1, depth, input =>
    match parseValue fuel depth (skipWhitespace input) with
    | none => none
    | some (item, rest) =>
      match skipWhitespace rest with
      | ',' :: next => (parseElements fuel depth next).map fun (cs, after) => (item :: cs, after)
      | ']' :: after => some ([item], after)
      | _ => none

/-- The loop of `parse_object`. -/
def parseMembers : ℕ → ℕ → List Char → Option (List CJson × List Char)
  | 0, _, _ => none
  | fuel + 1, depth, input =>
    match parseString (skipWhitespace input) with
    | none => none
    | some (name, afterName) =>
      match skipWhitespace afterName with
      | ':' :: value =>
        match parseValue fuel depth (skipWhitespace value) with
        | none => none
        | some (item, rest) =>
          match skipWhitespace rest with
          | ',' :: next =>
            (parseMembers fuel depth next).map fun (cs, after) => (item.named name :: cs, after)
          | '}' :: after => some ([item.named name], after)
          | _ => none
      | _ => none

end

/-- `skip_utf8_bom`. -/
def skipUtf8Bom : List Char → List Char
  | '\xef' :: '\xbb' :: '\xbf' :: c :: rest => c :: rest
  | input => input

/-- `cJSON_Parse`; text after the value is not looked at. -/
def cJSONParse (value : CString) : Option CJson :=
  (parseValue (2 * value.length + 2) 0 (skipWhitespace (skipUtf8Bom value))).map Prod.fst

end ZohoIotSdk
