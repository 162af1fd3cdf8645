import Mathlib.Data.List.Forall2
import MemeEvents.Wire.Binary
import MemeEvents.Proofs.Decode.Outcomes

/-!
Signed transactions as their signers serialize them, and reading them back. A versioned transaction
is its signatures and a message, in the legacy layout or in version 0 with address look-ups.
-/

namespace MemeEvents

/-! ### Versioned transactions and how they are written -/

structure SignedHeader where
  requiredSignatures : UInt8
  readonlySigned : UInt8
  readonlyUnsigned : UInt8

structure SignedInstruction where
  programIndex : UInt8
  accounts : List UInt8
  data : List UInt8

structure AddressLookup where
  table : Pubkey
  writable : List UInt8
  readonly : List UInt8

/-- What both layouts of a message hold: the header, the keys, the recent block hash and the
instructions. -/
structure MessageBody where
  header : SignedHeader
  keys : List Pubkey
  blockhash : List UInt8
  blockhash_size : blockhash.length = 32
  instructions : List SignedInstruction

inductive VersionedMessage where
  | legacy (body : MessageBody)
  | v0 (body : MessageBody) (lookups : List AddressLookup)

structure VersionedTransaction where
  signatures : List Signature
  message : VersionedMessage

namespace Binary

def compactBytes (n : Nat) : List UInt8 :=
  if n < 128 then [n.toUInt8]
  else if n < 16384 then [(n % 128 + 128).toUInt8, (n / 128).toUInt8]
  else [(n % 128 + 128).toUInt8, (n / 128 % 128 + 128).toUInt8, (n / 16384).toUInt8]

def writeList {α : Type} (item : α → List UInt8) (items : List α) : List UInt8 :=
  compactBytes items.length ++ items.flatMap item

end Binary

open Binary

def SignedInstruction.write (ix : SignedInstruction) : List UInt8 :=
  ix.programIndex :: writeList ([·]) ix.accounts ++ writeList ([·]) ix.data

def AddressLookup.write (lookup : AddressLookup) : List UInt8 :=
  lookup.table.bytes ++ writeList ([·]) lookup.writable ++ writeList ([·]) lookup.readonly

def MessageBody.writeContent (body : MessageBody) : List UInt8 :=
  writeList Pubkey.bytes body.keys ++ body.blockhash ++ writeList SignedInstruction.write body.instructions

def MessageBody.write (body : MessageBody) : List UInt8 :=
  [body.header.requiredSignatures, body.header.readonlySigned, body.header.readonlyUnsigned] ++
    body.writeContent

def VersionedMessage.write : VersionedMessage → List UInt8
  | .legacy body => body.write
  | .v0 body lookups => 0x80 :: body.write ++ writeList AddressLookup.write lookups

def VersionedTransaction.write (tx : VersionedTransaction) : List UInt8 :=
  writeList Signature.bytes tx.signatures ++ tx.message.write

/-! ### Which transactions can be written -/

def SignedInstruction.Fits (ix : SignedInstruction) : Prop :=
  ix.accounts.length ≤ 65535 ∧ ix.data.length ≤ 65535

def AddressLookup.Fits (lookup : AddressLookup) : Prop :=
  lookup.writable.length ≤ 65535 ∧ lookup.readonly.length ≤ 65535

def MessageBody.Fits (body : MessageBody) : Prop :=
  body.keys.length ≤ 65535 ∧ body.instructions.length ≤ 65535 ∧
    ∀ ix ∈ body.instructions, ix.Fits

def VersionedMessage.Fits : VersionedMessage → Prop
  | .legacy body => body.Fits
  | .v0 body lookups => body.Fits ∧ lookups.length ≤ 65535 ∧ ∀ lookup ∈ lookups, lookup.Fits

def VersionedTransaction.Fits (tx : VersionedTransaction) : Prop :=
  tx.signatures.length ≤ 65535 ∧ tx.message.Fits

instance : DecidablePred SignedInstruction.Fits := fun _ =>
  inferInstanceAs (Decidable (_ ∧ _))

instance : DecidablePred AddressLookup.Fits := fun _ =>
  inferInstanceAs (Decidable (_ ∧ _))

instance : DecidablePred MessageBody.Fits := fun _ =>
  inferInstanceAs (Decidable (_ ∧ _ ∧ _))

instance : DecidablePred VersionedMessage.Fits
  | .legacy body => inferInstanceAs (Decidable body.Fits)
  | .v0 body _ => inferInstanceAs (Decidable (body.Fits ∧ _ ∧ _))

instance : DecidablePred VersionedTransaction.Fits := fun _ =>
  inferInstanceAs (Decidable (_ ∧ _))

def SignedInstruction.compiled (ix : SignedInstruction) : CompiledInstruction :=
  ⟨ix.programIndex.toNat, ix.accounts.map (·.toNat), ix.data⟩

def SignedHeader.compiled (header : SignedHeader) : MessageHeader :=
  ⟨header.requiredSignatures.toNat, header.readonlySigned.toNat, header.readonlyUnsigned.toNat⟩

def MessageBody.compiled (body : MessageBody) : CompiledMessage :=
  ⟨some body.header.compiled, body.keys.map Pubkey.bytes, body.instructions.map (·.compiled)⟩

def VersionedMessage.body : VersionedMessage → MessageBody
  | .legacy body | .v0 body _ => body

def VersionedTransaction.compiled (tx : VersionedTransaction) : CompiledTransaction :=
  ⟨tx.signatures.map Signature.bytes, some tx.message.body.compiled⟩

/-! ### Reading back what was written -/

namespace Binary

def Reads {α : Type} (read : Unpack α) (bytes : List UInt8) (value : α) : Prop :=
  ∀ rest, read.run (bytes ++ rest) = .ok (value, rest)

variable {α β : Type}

theorem Reads.bind {first : Unpack α} {next : α → Unpack β} {bytes more : List UInt8} {value : α}
    {result : β} (reads : Reads first bytes value) (continued : Reads (next value) more result) :
    Reads (first >>= next) (bytes ++ more) result := by
  intro rest
  rw [List.append_assoc, StateT.run_bind, reads (more ++ rest)]
  exact continued rest

theorem Reads.pure (value : α) : Reads (Pure.pure value) [] value := fun _ => rfl

theorem Reads.bind_pure {first : Unpack α} {bytes : List UInt8} {value : α}
    (reads : Reads first bytes value) (f : α → β) :
    Reads (first >>= fun read => Pure.pure (f read)) bytes (f value) := by
  intro rest
  rw [StateT.run_bind, reads rest]
  rfl

@[simp] theorem byte_run_cons (b : UInt8) (rest : List UInt8) :
    byte.run (b :: rest) = .ok (b, rest) := rfl

section Lists

variable {γ : Type} {read : Unpack α} {write : γ → List UInt8} {value : γ → α}

end Lists

end Binary

namespace VersionedTransaction

end VersionedTransaction

end MemeEvents
