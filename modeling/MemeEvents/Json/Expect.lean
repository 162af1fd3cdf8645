import MemeEvents.Json.Scan
import MemeEvents.Text.Printable

/-! Reading typed values from JSON text. -/

namespace MemeEvents.Json

/-- What was found where something else was expected. -/
inductive Unexpected where
  | bool (value : Bool)
  | unsigned (value : Nat)
  | signed (value : Int)
  | float (value : Binary64)
  | text (value : String)
  | null
  | sequence
  | map

def quoteText (text : String) : String :=
  let escape := fun (c : Char) =>
    if c = '"' then "\\\""
    else if c = '\\' then "\\\\"
    else if c = '\n' then "\\n"
    else if c = '\r' then "\\r"
    else if c = '\t' then "\\t"
    else if c = '\x00' then "\\0"
    else if Text.isEscaped c then
      "\\u" ++ "\x7b" ++ String.ofList (Nat.toDigits 16 c.toNat) ++ "\x7d"
    else String.singleton c
  "\"" ++ String.join (text.toList.map escape) ++ "\""

def Unexpected.describe : Unexpected → String
  | .bool value => "boolean " ++ quoted (toString value)
  | .unsigned value => "integer " ++ quoted (toString value)
  | .signed value => "integer " ++ quoted (toString value)
  | .float value => "floating point " ++ quoted value.toText
  | .text value => "string " ++ quoteText value
  | .null => "null"
  | .sequence => "sequence"
  | .map => "map"

def Number.unexpected : Number → Unexpected
  | .unsigned value => .unsigned value
  | .negative value => .signed value
  | .float value => .float value

def invalidType (found : Unexpected) (expected : String) : String :=
  s!"invalid type: {found.describe}, expected {expected}"

def invalidValue (found : Unexpected) (expected : String) : String :=
  s!"invalid value: {found.describe}, expected {expected}"

def invalidLength (length : Nat) (expected : String) : String :=
  s!"invalid length {length}, expected {expected}"

def alternatives (names : List String) : String :=
  match names with
  | [] => "nothing"
  | [one] => quoted one
  | [one, two] => quoted one ++ " or " ++ quoted two
  | _ => "one of " ++ ", ".intercalate (names.map quoted)

def unknownVariant (name : String) (names : List String) : String :=
  match names with
  | [] => s!"unknown variant {quoted name}, there are no variants"
  | _ => s!"unknown variant {quoted name}, expected {alternatives names}"

def duplicateField (name : String) : String := s!"duplicate field {quoted name}"

def null : List UInt8 := [117, 108, 108]

def wrongType {α : Type} (expected : String) : Scan α := do
  let found ← match ← peekOrNull with
    | 110 => do eat; expectIdent null; pure Unexpected.null
    | 116 => do eat; expectIdent [114, 117, 101]; pure (.bool true)
    | 102 => do eat; expectIdent [97, 108, 115, 101]; pure (.bool false)
    | 45 => do eat; pure (← number false).unexpected
    | 34 => do eat; pure (.text (← string))
    | 91 => pure .sequence
    | 123 => pure .map
    | byte => if isDigit byte then do pure (← number true).unexpected else failAhead .expectedValue
  throw (← locate ⟨.custom (invalidType found expected), none⟩)

def thenClose {α : Type} (body : Scan α) (closing : Scan Unit) : Scan α := do
  let result ← tryCatch (do pure (Except.ok (← body))) fun fault => pure (.error fault)
  let closed ← tryCatch (do closing; pure none) fun fault => pure (some fault)
  match result, closed with
  | .ok value, none => pure value
  | .error fault, _ => throw fault
  | .ok _, some fault => throw fault

def endArray : Scan Unit := do
  match ← skipBlank with
  | some 93 => eat
  | some 44 =>
    eat
    match ← skipBlank with
    | some 93 => failAhead .trailingComma
    | _ => failAhead .trailingCharacters
  | some _ => failAhead .trailingCharacters
  | none => failAhead .eofInList

def endObject : Scan Unit := do
  match ← skipBlank with
  | some 125 => eat
  | some 44 => failAhead .trailingComma
  | some _ => failAhead .trailingCharacters
  | none => failAhead .eofInObject

def colon : Scan Unit := do
  match ← skipBlank with
  | some 58 => eat
  | some _ => failAhead .expectedColon
  | none => failAhead .eofInObject

def nextItem {α : Type} (first : Bool) (item : Scan α) : Scan (Option α) := do
  let peeked ← match ← skipBlank with
    | some 93 => return none
    | some 44 => if first then pure (some 44) else do eat; skipBlank
    | some byte => if first then pure (some byte) else failAhead .expectedListCommaOrEnd
    | none => failAhead .eofInList
  match peeked with
  | some 93 => failAhead .trailingComma
  | some _ => return some (← item)
  | none => failAhead .eofInValue

def nextKey (first : Bool) : Scan (Option String) := do
  let peeked ← match ← skipBlank with
    | some 125 => return none
    | some 44 => if first then pure (some 44) else do eat; skipBlank
    | some byte => if first then pure (some byte) else failAhead .expectedObjectCommaOrEnd
    | none => failAhead .eofInObject
  match peeked with
  | some 34 => do eat; return some (← string)
  | some 125 => failAhead .trailingComma
  | some _ => failAhead .keyNotString
  | none => failAhead .eofInValue

def restItems {α : Type} (item : Scan α) : Nat → Bool → Scan (List α)
  | 0, _ => pure []
  | fuel + 1, first => do
    match ← nextItem first item with
    | none => pure []
    | some value => return value :: (← restItems item fuel false)

def array {α : Type} (expected : String) (contents : Scan α) : Scan α := located do
  match ← skipBlank with
  | none => failAhead .eofInValue
  | some 91 => do eat; thenClose contents endArray
  | some _ => wrongType expected

def list {α : Type} (item : Scan α) : Scan (List α) := do
  let fuel := (← get).bytes.size + 1
  array "a sequence" (restItems item fuel true)

def tuple {α : Type} (count : Nat) (item : Scan α) : Scan (List α) :=
  array s!"an array of length {count}" (go 0 count)
where
  go (index : Nat) : Nat → Scan (List α)
    | 0 => pure []
    | left + 1 => do
      match ← nextItem (index == 0) item with
      | none => custom (invalidLength index s!"an array of length {count}")
      | some value => return value :: (← go (index + 1) left)

def record {α : Type} (expected : String) (ofItems ofFields : Scan α) : Scan α := located do
  match ← skipBlank with
  | none => failAhead .eofInValue
  | some 91 => do eat; thenClose ofItems endArray
  | some 123 => do eat; thenClose ofFields endObject
  | some _ => wrongType expected

def optional {α : Type} (read : Scan α) : Scan (Option α) := do
  match ← skipBlank with
  | some 110 => do eat; expectIdent null; pure none
  | _ => some <$> read

def bool : Scan Bool := located do
  match ← skipBlank with
  | none => failAhead .eofInValue
  | some 116 => do eat; expectIdent [114, 117, 101]; pure true
  | some 102 => do eat; expectIdent [97, 108, 115, 101]; pure false
  | some _ => wrongType "a boolean"

def byte : Scan UInt8 := located do
  let found ← match ← skipBlank with
    | none => failAhead .eofInValue
    | some 45 => do eat; number false
    | some first => if isDigit first then number true else wrongType "u8"
  match found with
  | .unsigned value =>
    if value ≤ 255 then pure value.toUInt8 else custom (invalidValue (.unsigned value) "u8")
  | .negative value => custom (invalidValue (.signed value) "u8")
  | .float value => custom (invalidType (.float value) "u8")

def unit : Scan Unit := located do
  match ← skipBlank with
  | none => failAhead .eofInValue
  | some 110 => do eat; expectIdent null
  | some _ => wrongType "unit"

def variantName (names : List String) : Scan Nat := located do
  match ← skipBlank with
  | none => failAhead .eofInValue
  | some 34 => do
    eat
    let name ← string
    match names.idxOf? name with
    | some index => pure index
    | none => custom (unknownVariant name names)
  | some _ => wrongType "variant identifier"

def variant (names : List String) : Scan Nat := do
  match ← skipBlank with
  | some 123 =>
    eat
    match ← skipBlank with
    | some 34 => pure ()
    | some 125 => failAhead .expectedValue
    | some _ => failAhead .keyNotString
    | none => failAhead .eofInObject
    let index ← variantName names
    colon
    unit
    match ← skipBlank with
    | some 125 => do eat; pure index
    | some _ => failHere .expectedValue
    | none => failHere .eofInObject
  | some 34 => variantName names
  | some _ => failAhead .expectedValue
  | none => failAhead .eofInValue

def run {α : Type} (read : Scan α) (text : String) : Except Fault α :=
  let whole : Scan α := do
    let value ← read
    match ← skipBlank with
    | some _ => failAhead .trailingCharacters
    | none => pure value
  match whole.run ⟨text.toUTF8, 0⟩ with
  | .ok value _ => .ok value
  | .error fault _ => .error fault

end MemeEvents.Json
