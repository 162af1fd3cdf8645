import MemeEvents.Bytes.Base58

/-! Account addresses (32 bytes) and transaction signatures (64 bytes), written in base58. -/

namespace MemeEvents

structure Pubkey where
  bytes : List UInt8
  size_eq : bytes.length = 32
  deriving DecidableEq

structure Signature where
  bytes : List UInt8
  size_eq : bytes.length = 64
  deriving DecidableEq

namespace Pubkey

def zero : Pubkey := ⟨List.replicate 32 0, rfl⟩

instance : Inhabited Pubkey := ⟨zero⟩

def ofBytes? (bytes : List UInt8) : Option Pubkey :=
  if h : bytes.length = 32 then some ⟨bytes, h⟩ else none

def toBase58 (key : Pubkey) : String := Base58.encode key.bytes

instance : ToString Pubkey := ⟨toBase58⟩

/-- Why a text is not an address. -/
inductive ParseError where
  | wrongSize
  | invalid
  deriving DecidableEq, Repr

def ParseError.message : ParseError → String
  | .wrongSize => "String is the wrong size"
  | .invalid => "Invalid Base58 string"

def parse (text : String) : Except ParseError Pubkey :=
  if text.utf8ByteSize > 44 then .error .wrongSize
  else match Base58.decode text with
    | .error _ => .error .invalid
    | .ok bytes => match ofBytes? bytes with
      | some key => .ok key
      | none => .error .wrongSize

def ofText (text : String) : Pubkey :=
  match parse text with
  | .ok key => key
  | .error _ => zero

end Pubkey

namespace Signature

def zero : Signature := ⟨List.replicate 64 0, rfl⟩

instance : Inhabited Signature := ⟨zero⟩

def ofBytes? (bytes : List UInt8) : Option Signature :=
  if h : bytes.length = 64 then some ⟨bytes, h⟩ else none

def toBase58 (signature : Signature) : String := Base58.encode signature.bytes

end Signature

end MemeEvents
