import MemeEvents.Wire.Binary
import MemeEvents.Wire.Base64
import MemeEvents.Bytes.Base58

/-!
A confirmed transaction as a node's JSON interface returns it: the signed transaction encoded as
base64 or base58 text, and its status with inner instructions whose data is base58 text.
-/

namespace MemeEvents

/-- How the signed transaction is encoded. -/
inductive EncodedTransaction where
  | base58 (data : String)
  | base64 (data : String)
  /-- A transaction spelled out as JSON fields, which is not read. -/
  | fields
  /-- A form that carries no transaction bytes. -/
  | other
  deriving Inhabited

inductive RpcInstruction where
  | compiled (programIndex : Nat) (accounts : List Nat) (data : String)
  /-- An instruction already decoded into named fields. -/
  | decoded
  deriving Inhabited

structure RpcInnerSet where
  index : Nat
  instructions : List RpcInstruction
  deriving Inhabited

structure RpcTokenBalance where
  accountIndex : Nat
  mint : String
  owner : Option String := none
  amount : String
  decimals : Nat
  deriving Inhabited

structure RpcStatus where
  preBalances : List Nat := []
  postBalances : List Nat := []
  innerSets : Option (List RpcInnerSet) := none
  preTokenBalances : Option (List RpcTokenBalance) := none
  postTokenBalances : Option (List RpcTokenBalance) := none
  /-- Addresses loaded from look-up tables: writable, then readonly. -/
  loaded : Option (List String × List String) := none
  deriving Inhabited

structure RpcTransaction where
  slot : Nat
  blockTime : Option Int := none
  transaction : EncodedTransaction
  status : Option RpcStatus := none
  deriving Inhabited

namespace Rpc

def addressBytes (text : String) : Except ParseError (List UInt8) :=
  match Pubkey.parse text with
  | .ok key => .ok key.bytes
  | .error fault => .error (.conversion s!"invalid pubkey {text}: {fault.message}")

def tokenBalance (balance : RpcTokenBalance) : CompiledTokenBalance :=
  ⟨balance.accountIndex, balance.mint, balance.owner.getD "", some ⟨balance.amount, balance.decimals⟩⟩

def innerSet (set : RpcInnerSet) : Except ParseError CompiledInnerSet := do
  let instructions ← set.instructions.filterMapM fun ix => match ix with
    | .compiled programIndex accounts data =>
      match Base58.decode data with
      | .ok bytes => pure (some ⟨programIndex, accounts, bytes⟩)
      | .error fault =>
        throw (.conversion s!"Failed to decode instruction data: {fault.message}")
    | .decoded => pure none
  return ⟨set.index, instructions⟩

def transactionBytes : EncodedTransaction → Except ParseError (List UInt8)
  | .base64 data => match Base64.decode data with
    | .ok bytes => .ok bytes
    | .error fault => .error (.conversion s!"Failed to decode base64: {fault.message}")
  | .base58 data => match Base58.decode data with
    | .ok bytes => .ok bytes
    | .error fault => .error (.conversion s!"Failed to decode base58: {fault.message}")
  | .fields => .error (.conversion "JSON encoded transactions not supported yet")
  | .other => .error (.conversion "Unsupported transaction encoding")

end Rpc

def RpcTransaction.compiled (rpc : RpcTransaction) :
    Except ParseError (CompiledTransaction × StatusMeta) := do
  let some status := rpc.status | throw (.missingField "meta")
  let (writable, readonly) := status.loaded.getD ([], [])
  let loadedWritable ← writable.mapM Rpc.addressBytes
  let loadedReadonly ← readonly.mapM Rpc.addressBytes
  let innerSets ← (status.innerSets.getD []).mapM Rpc.innerSet
  let bytes ← Rpc.transactionBytes rpc.transaction
  let compiled ← match Binary.decode bytes with
    | .ok compiled => pure compiled
    | .error text => throw (.conversion s!"Failed to deserialize transaction: {text}")
  return (compiled, {
    preBalances := status.preBalances, postBalances := status.postBalances, innerSets,
    preTokenBalances := (status.preTokenBalances.getD []).map Rpc.tokenBalance,
    postTokenBalances := (status.postTokenBalances.getD []).map Rpc.tokenBalance,
    loadedWritable, loadedReadonly })

def RpcTransaction.resolve (rpc : RpcTransaction) : Except ParseError Transaction := do
  let (compiled, status) ← rpc.compiled
  compiled.resolve status rpc.slot rpc.blockTime

end MemeEvents
