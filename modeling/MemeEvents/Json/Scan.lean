import MemeEvents.Number.Binary64

/-!
Reading JSON text byte by byte, as a strict streaming reader does, with its faults and the places it
reports them at.
-/

namespace MemeEvents.Json

inductive Problem where
  | eofInList
  | eofInObject
  | eofInString
  | eofInValue
  | expectedColon
  | expectedListCommaOrEnd
  | expectedObjectCommaOrEnd
  | expectedIdent
  | expectedValue
  | invalidEscape
  | invalidNumber
  | numberOutOfRange
  | controlCharacter
  | keyNotString
  | loneSurrogate
  | trailingComma
  | trailingCharacters
  | unexpectedEndOfHexEscape
  | custom (text : String)
  deriving Inhabited

def quoted (text : String) : String := "\x60" ++ text ++ "\x60"

def Problem.text : Problem → String
  | .eofInList => "EOF while parsing a list"
  | .eofInObject => "EOF while parsing an object"
  | .eofInString => "EOF while parsing a string"
  | .eofInValue => "EOF while parsing a value"
  | .expectedColon => "expected " ++ quoted ":"
  | .expectedListCommaOrEnd => "expected " ++ quoted "," ++ " or " ++ quoted "]"
  | .expectedObjectCommaOrEnd => "expected " ++ quoted "," ++ " or " ++ quoted "\x7d"
  | .expectedIdent => "expected ident"
  | .expectedValue => "expected value"
  | .invalidEscape => "invalid escape"
  | .invalidNumber => "invalid number"
  | .numberOutOfRange => "number out of range"
  | .controlCharacter => "control character (\\u0000-\\u001F) found while parsing a string"
  | .keyNotString => "key must be a string"
  | .loneSurrogate => "lone leading surrogate in hex escape"
  | .trailingComma => "trailing comma"
  | .trailingCharacters => "trailing characters"
  | .unexpectedEndOfHexEscape => "unexpected end of hex escape"
  | .custom text => text

/-- A problem with the line and column where it was found, once known. -/
structure Fault where
  problem : Problem
  place : Option (Nat × Nat) := none
  deriving Inhabited

def Fault.message (fault : Fault) : String :=
  match fault.place with
  | some (line, column) => s!"{fault.problem.text} at line {line} column {column}"
  | none => fault.problem.text

structure Scanner where
  bytes : ByteArray
  index : Nat := 0

abbrev Scan := EStateM Fault Scanner

def placeAt (bytes : ByteArray) (index : Nat) : Nat × Nat :=
  (bytes.data.toList.take index).foldl
    (fun (place : Nat × Nat) (byte : UInt8) =>
      if byte == 10 then (place.1 + 1, 0) else (place.1, place.2 + 1)) (1, 0)

def peek : Scan (Option UInt8) := fun s => .ok s.bytes[s.index]? s

def peekOrNull : Scan UInt8 := do return (← peek).getD 0

def eat : Scan Unit := fun s => .ok () { s with index := s.index + 1 }

def next : Scan (Option UInt8) := do
  let byte ← peek
  if byte.isSome then eat
  return byte

def nextOrNull : Scan UInt8 := do return (← next).getD 0

def failHere {α : Type} (problem : Problem) : Scan α := fun s =>
  .error ⟨problem, some (placeAt s.bytes s.index)⟩ s

def failAhead {α : Type} (problem : Problem) : Scan α := fun s =>
  .error ⟨problem, some (placeAt s.bytes (min (s.index + 1) s.bytes.size))⟩ s

def locate (fault : Fault) : Scan Fault := fun s =>
  match fault.place with
  | some _ => .ok fault s
  | none => .ok { fault with place := some (placeAt s.bytes s.index) } s

def located {α : Type} (read : Scan α) : Scan α :=
  tryCatch read fun fault => do throw (← locate fault)

def custom {α : Type} (text : String) : Scan α := throw ⟨.custom text, none⟩

def isBlank (byte : UInt8) : Bool := byte == 32 || byte == 10 || byte == 9 || byte == 13

def isDigit (byte : UInt8) : Bool := 48 ≤ byte && byte ≤ 57

def blankEnd (bytes : ByteArray) (i : Nat) : Nat :=
  if h : i < bytes.size then
    if isBlank bytes[i] then blankEnd bytes (i + 1) else i
  else i
termination_by bytes.size - i

def skipBlank : Scan (Option UInt8) := fun s =>
  let i := blankEnd s.bytes s.index
  .ok s.bytes[i]? { s with index := i }

def expectIdent : List UInt8 → Scan Unit
  | [] => pure ()
  | byte :: rest => do
    match ← next with
    | none => failHere .eofInValue
    | some found => if found == byte then expectIdent rest else failHere .expectedIdent

/-! ## Strings -/

def plainEnd (bytes : ByteArray) (i : Nat) : Nat :=
  if h : i < bytes.size then
    let byte := bytes[i]
    if byte == 34 || byte == 92 || byte < 32 then i else plainEnd bytes (i + 1)
  else i
termination_by bytes.size - i

def hexDigit? (byte : UInt8) : Option Nat :=
  if 48 ≤ byte && byte ≤ 57 then some (byte.toNat - 48)
  else if 97 ≤ byte && byte ≤ 102 then some (byte.toNat - 87)
  else if 65 ≤ byte && byte ≤ 70 then some (byte.toNat - 55)
  else none

def hexEscape : Scan Nat := fun s =>
  if s.index + 4 ≤ s.bytes.size then
    let after := { s with index := s.index + 4 }
    let digits := (List.range 4).map fun k => hexDigit? (s.bytes.get! (s.index + k))
    match digits with
    | [some a, some b, some c, some d] => .ok (((a * 16 + b) * 16 + c) * 16 + d) after
    | _ => .error ⟨.invalidEscape, some (placeAt s.bytes after.index)⟩ after
  else
    let after := { s with index := s.bytes.size }
    .error ⟨.eofInString, some (placeAt s.bytes after.index)⟩ after

def codePointBytes (point : Nat) : ByteArray := (String.singleton (Char.ofNat point)).toUTF8

def escapeOf? (byte : UInt8) : Option UInt8 :=
  match byte with
  | 34 => some 34
  | 92 => some 92
  | 47 => some 47
  | 98 => some 8
  | 102 => some 12
  | 110 => some 10
  | 114 => some 13
  | 116 => some 9
  | _ => none

def expectByte (byte : UInt8) : Scan Unit := do
  match ← peek with
  | none => failHere .eofInString
  | some found =>
    eat
    if found != byte then failHere .unexpectedEndOfHexEscape

def unicodeEscape : Scan ByteArray := do
  let first ← hexEscape
  if 0xDC00 ≤ first ∧ first ≤ 0xDFFF then failHere .loneSurrogate
  if first < 0xD800 ∨ 0xDBFF < first then return codePointBytes first
  expectByte 92
  expectByte 117
  let second ← hexEscape
  if second < 0xDC00 ∨ 0xDFFF < second then failHere .loneSurrogate
  return codePointBytes ((first - 0xD800) * 1024 + (second - 0xDC00) + 0x10000)

def escape : Scan ByteArray := do
  match ← next with
  | none => failHere .eofInString
  | some byte =>
    match escapeOf? byte with
    | some decoded => return ByteArray.mk #[decoded]
    | none => if byte == 117 then unicodeEscape else failHere .invalidEscape

def stringBytes : Nat → ByteArray → Scan ByteArray
  | 0, _ => failHere .eofInString
  | fuel + 1, out => do
    let s ← get
    let stop := plainEnd s.bytes s.index
    let out := out ++ s.bytes.extract s.index stop
    set { s with index := stop }
    match s.bytes[stop]? with
    | none => failHere .eofInString
    | some 34 => eat; return out
    | some 92 => eat; stringBytes fuel (out ++ (← escape))
    | some _ => eat; failHere .controlCharacter

def string : Scan String := do
  let bytes ← stringBytes ((← get).bytes.size + 1) ByteArray.empty
  return (String.fromUTF8? bytes).getD ""

def skipString : Nat → Scan Unit
  | 0 => failHere .eofInString
  | fuel + 1 => do
    let s ← get
    let stop := plainEnd s.bytes s.index
    set { s with index := stop }
    match s.bytes[stop]? with
    | none => failHere .eofInString
    | some 34 => eat
    | some 92 =>
      eat
      match ← next with
      | none => failHere .eofInString
      | some byte =>
        if (escapeOf? byte).isSome then skipString fuel
        else if byte == 117 then do let _ ← hexEscape; skipString fuel
        else failHere .invalidEscape
    | some _ => failHere .controlCharacter

/-! ## Numbers -/

inductive Number where
  | unsigned (value : Nat)
  | negative (value : Int)
  | float (value : Binary64)

def u64Max : Nat := Nat.pow 2 64 - 1

def i32Max : Nat := Nat.pow 2 31 - 1

def compose (positive : Bool) (significand : Nat) (exponent : Int) : Scan Binary64 :=
  let sign := fun (x : Binary64) => if positive then x else x.negate
  let rec go : Nat → Binary64 → Int → Scan Binary64
    | 0, value, _ => pure (sign value)
    | fuel + 1, value, e =>
      if e.natAbs ≤ 308 then
        let power := Binary64.ofRatio (Nat.pow 10 e.natAbs) 1
        if 0 ≤ e then
          let product := value.mul power
          if product.isInfinite then failHere .numberOutOfRange else pure (sign product)
        else pure (sign (value.div power))
      else if value.isZero then pure (sign value)
      else if 0 ≤ e then failHere .numberOutOfRange
      else go fuel (value.div (Binary64.ofRatio (Nat.pow 10 308) 1)) (e + 308)
  go 16 (Binary64.ofRatio significand 1) exponent

def clamp32 (value : Int) : Int := max (-2147483648) (min value 2147483647)

def skipDigits : Nat → Scan Unit
  | 0 => pure ()
  | fuel + 1 => do
    if isDigit (← peekOrNull) then eat; skipDigits fuel

def exponentOverflow (positive zeroSignificand positiveExponent : Bool) : Scan Binary64 := do
  if !zeroSignificand && positiveExponent then failHere .numberOutOfRange
  skipDigits ((← get).bytes.size + 1)
  return if positive then Binary64.zero else Binary64.zero.negate

def exponentPart (positive : Bool) (significand : Nat) (start : Int) : Scan Binary64 := do
  eat
  let positiveExponent ← match ← peekOrNull with
    | 43 => do eat; pure true
    | 45 => do eat; pure false
    | _ => pure true
  let first ← match ← next with
    | none => failHere .eofInValue
    | some byte => if isDigit byte then pure (byte.toNat - 48) else failHere .invalidNumber
  let rec digits : Nat → Nat → Scan (Option Nat)
    | 0, exp => pure (some exp)
    | fuel + 1, exp => do
      let byte ← peekOrNull
      if isDigit byte then
        eat
        let grown := exp * 10 + (byte.toNat - 48)
        if grown > i32Max then return none
        digits fuel grown
      else return some exp
  match ← digits ((← get).bytes.size + 1) first with
  | none => exponentOverflow positive (significand == 0) positiveExponent
  | some exp =>
    let total := clamp32 (if positiveExponent then start + exp else start - exp)
    compose positive significand total

def decimalOverflow (positive : Bool) (significand : Nat) (exponent : Int) : Scan Binary64 := do
  skipDigits ((← get).bytes.size + 1)
  match ← peekOrNull with
  | 101 | 69 => exponentPart positive significand exponent
  | _ => compose positive significand exponent

def fractionPart (positive : Bool) (significand : Nat) (before : Int) : Scan Binary64 := do
  eat
  let rec digits : Nat → Nat → Int → Scan (Sum (Nat × Int) (Nat × Int))
    | 0, sig, after => pure (.inl (sig, after))
    | fuel + 1, sig, after => do
      let byte ← peekOrNull
      if isDigit byte then
        let grown := sig * 10 + (byte.toNat - 48)
        if grown > u64Max then return .inr (sig, after)
        eat
        digits fuel grown (after - 1)
      else return .inl (sig, after)
  match ← digits ((← get).bytes.size + 1) significand 0 with
  | .inr (sig, after) => decimalOverflow positive sig (before + after)
  | .inl (sig, after) =>
    if after == 0 then
      match ← peek with
      | some _ => failAhead .invalidNumber
      | none => failAhead .eofInValue
    match ← peekOrNull with
    | 101 | 69 => exponentPart positive sig (before + after)
    | _ => compose positive sig (before + after)

def longInteger (positive : Bool) (significand : Nat) : Nat → Int → Scan Binary64
  | 0, exponent => compose positive significand exponent
  | fuel + 1, exponent => do
    match ← peekOrNull with
    | 46 => fractionPart positive significand exponent
    | 101 | 69 => exponentPart positive significand exponent
    | byte =>
      if isDigit byte then
        eat
        longInteger positive significand fuel (exponent + 1)
      else compose positive significand exponent

def numberEnd (positive : Bool) (significand : Nat) : Scan Number := do
  match ← peekOrNull with
  | 46 => return .float (← fractionPart positive significand 0)
  | 101 | 69 => return .float (← exponentPart positive significand 0)
  | _ =>
    if positive then return .unsigned significand
    else
      -- negation as a 64-bit word; zero and words past the signed range become doubles
      let word : Int := if significand ≥ Nat.pow 2 63 then (significand : Int) - Nat.pow 2 64 else significand
      let negated := (-word).bmod (Nat.pow 2 64)
      if 0 ≤ negated then return .float (Binary64.ofRatio significand 1).negate
      else return .negative negated

def number (positive : Bool) : Scan Number := do
  match ← next with
  | none => failHere .eofInValue
  | some 48 => if isDigit (← peekOrNull) then failAhead .invalidNumber else numberEnd positive 0
  | some byte =>
    if isDigit byte then
      let rec digits : Nat → Nat → Scan Number
        | 0, sig => numberEnd positive sig
        | fuel + 1, sig => do
          let next ← peekOrNull
          if isDigit next then
            let grown := sig * 10 + (next.toNat - 48)
            if grown > u64Max then
              return .float (← longInteger positive sig ((← get).bytes.size + 1) 0)
            eat
            digits fuel grown
          else numberEnd positive sig
      digits ((← get).bytes.size + 1) (byte.toNat - 48)
    else failHere .invalidNumber

def ofScientific? (negative : Bool) (digits : Nat) (exponent : Int) : Option Binary64 :=
  let text := toString digits ++ "e" ++ toString exponent
  match (number (!negative)).run ⟨text.toUTF8, 0⟩ with
  | .ok (.float value) _ => some value
  | _ => none

def skipNumber : Scan Unit := do
  let fuel := (← get).bytes.size + 1
  match ← nextOrNull with
  | 48 => if isDigit (← peekOrNull) then failAhead .invalidNumber
  | byte => if 49 ≤ byte && byte ≤ 57 then skipDigits fuel else failHere .invalidNumber
  let exponent : Scan Unit := do
    eat
    match ← peekOrNull with
    | 43 | 45 => eat
    | _ => pure ()
    if !isDigit (← nextOrNull) then failHere .invalidNumber
    skipDigits fuel
  match ← peekOrNull with
  | 46 =>
    eat
    if !isDigit (← peekOrNull) then failAhead .invalidNumber
    skipDigits fuel
    match ← peekOrNull with
    | 101 | 69 => exponent
    | _ => pure ()
  | 101 | 69 => exponent
  | _ => pure ()

/-! ## Skipping any value -/

def closeFrames : Nat → List UInt8 → UInt8 → Bool → Scan (Option (UInt8 × List UInt8))
  | 0, stack, frame, _ => pure (some (frame, stack))
  | fuel + 1, stack, frame, acceptComma => do
    match ← skipBlank with
    | some 44 => if acceptComma then do eat; return some (frame, stack) else return some (frame, stack)
    | some 93 => if frame == 91 then close fuel stack else other acceptComma frame stack
    | some 125 => if frame == 123 then close fuel stack else other acceptComma frame stack
    | some _ => other acceptComma frame stack
    | none => failAhead (if frame == 91 then .eofInList else .eofInObject)
where
  close (fuel : Nat) (stack : List UInt8) : Scan (Option (UInt8 × List UInt8)) := do
    eat
    match stack with
    | [] => return none
    | outer :: rest => closeFrames fuel rest outer true
  other (acceptComma : Bool) (frame : UInt8) (stack : List UInt8) :
      Scan (Option (UInt8 × List UInt8)) :=
    if acceptComma then
      failAhead (if frame == 91 then .expectedListCommaOrEnd else .expectedObjectCommaOrEnd)
    else return some (frame, stack)

def skipValue : Scan Unit := do
  let fuel := (← get).bytes.size + 1
  go fuel fuel [] none
where
  go (fuel : Nat) : Nat → List UInt8 → Option UInt8 → Scan Unit
    | 0, _, _ => pure ()
    | steps + 1, stack, enclosing => do
      let opened ← match ← skipBlank with
        | none => failAhead .eofInValue
        | some 110 => do eat; expectIdent [117, 108, 108]; pure none
        | some 116 => do eat; expectIdent [114, 117, 101]; pure none
        | some 102 => do eat; expectIdent [97, 108, 115, 101]; pure none
        | some 45 => do eat; skipNumber; pure none
        | some 34 => do eat; skipString fuel; pure none
        | some byte =>
          if isDigit byte then do skipNumber; pure none
          else if byte == 91 || byte == 123 then do eat; pure (some byte)
          else failAhead .expectedValue
      let stack := match opened, enclosing with
        | some _, some outer => outer :: stack
        | _, _ => stack
      let resumed ← match opened, enclosing with
        | some frame, _ => closeFrames fuel stack frame false
        | none, some frame => closeFrames fuel stack frame true
        | none, none => match stack with
          | [] => pure none
          | frame :: rest => closeFrames fuel rest frame true
      match resumed with
      | none => pure ()
      | some (frame, stack) =>
        if frame == 123 then
          match ← skipBlank with
          | some 34 => eat
          | some _ => failAhead .keyNotString
          | none => failAhead .eofInObject
          skipString fuel
          match ← skipBlank with
          | some 58 => eat
          | some _ => failAhead .expectedColon
          | none => failAhead .eofInObject
        go fuel steps stack (some frame)

end MemeEvents.Json
