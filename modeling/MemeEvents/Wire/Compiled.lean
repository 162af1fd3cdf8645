import MemeEvents.Parse.Outcome
import MemeEvents.Number.IntegerText

/-!
Transactions in compiled form, as block streams and nodes send them: account keys as raw bytes,
instructions naming their program and accounts by position in the key list, and token balances
naming their account by position and their mint and owner as text.
-/

namespace MemeEvents

structure CompiledInstruction where
  programIndex : Nat
  accounts : List Nat := []
  data : List UInt8 := []
  deriving Inhabited

structure MessageHeader where
  requiredSignatures : Nat
  readonlySigned : Nat := 0
  readonlyUnsigned : Nat := 0
  deriving Inhabited

structure CompiledMessage where
  header : Option MessageHeader := none
  accountKeys : List (List UInt8) := []
  instructions : List CompiledInstruction := []
  deriving Inhabited

/-- An amount as text and its decimals, as a node reports a token balance. -/
structure ReportedAmount where
  amount : String
  decimals : Nat
  deriving Inhabited

structure CompiledTokenBalance where
  accountIndex : Nat
  mint : String
  owner : String := ""
  amount : Option ReportedAmount
  deriving Inhabited

structure CompiledInnerSet where
  index : Nat
  instructions : List CompiledInstruction
  deriving Inhabited

/-- What happened when the transaction ran: balances, inner instructions and the addresses
loaded from lookup tables. -/
structure StatusMeta where
  preBalances : List Nat := []
  postBalances : List Nat := []
  innerSets : List CompiledInnerSet := []
  preTokenBalances : List CompiledTokenBalance := []
  postTokenBalances : List CompiledTokenBalance := []
  loadedWritable : List (List UInt8) := []
  loadedReadonly : List (List UInt8) := []
  deriving Inhabited

structure CompiledTransaction where
  signatures : List (List UInt8) := []
  message : Option CompiledMessage := none
  deriving Inhabited

namespace Compiled

def keyOfBytes (bytes : List UInt8) : Except ParseError Pubkey :=
  match Pubkey.ofBytes? bytes with
  | some key => .ok key
  | none => .error (.conversion s!"invalid pubkey length {bytes.length}")

def keyOfText (text : String) : Except ParseError Pubkey :=
  match Pubkey.parse text with
  | .ok key => .ok key
  | .error fault => .error (.conversion s!"invalid pubkey {text}: {fault.message}")

def keyAt (keys : List Pubkey) (index : Nat) : Except ParseError Pubkey :=
  match keys[index]? with
  | some key => .ok key
  | none => .error (.conversion s!"account index {index} out of range ({keys.length})")

def instruction (keys : List Pubkey) (compiled : CompiledInstruction) :
    Except ParseError Instruction := do
  let program ← keyAt keys compiled.programIndex
  let accounts ← compiled.accounts.mapM (keyAt keys)
  return ⟨program, accounts, compiled.data⟩

def tokenBalance (keys : List Pubkey) (balance : CompiledTokenBalance) :
    Except ParseError TokenBalance := do
  let some reported := balance.amount | throw (.missingField "ui_token_amount")
  let amount ← match IntegerText.parseUnsigned 128 reported.amount with
    | .ok value => pure value
    | .error fault =>
      throw (.conversion s!"invalid token amount {reported.amount}: {fault.message}")
  if reported.decimals > 255 then
    throw (.conversion s!"decimals {reported.decimals} out of range")
  let owner ← if balance.owner.isEmpty then pure none else some <$> keyOfText balance.owner
  let account ← keyAt keys balance.accountIndex
  let mint ← keyOfText balance.mint
  return ⟨balance.accountIndex, account, mint, owner, amount, reported.decimals⟩

end Compiled

def CompiledTransaction.resolve (compiled : CompiledTransaction) (status : StatusMeta) (slot : Nat)
    (blockTime : Option Int) : Except ParseError Transaction := do
  let some message := compiled.message | throw (.missingField "message")
  let some first := compiled.signatures.head? | throw (.missingField "signatures")
  let some signature := Signature.ofBytes? first
    | throw (.conversion s!"invalid signature length {first.length}")
  let keys ← (message.accountKeys ++ status.loadedWritable ++ status.loadedReadonly).mapM
    Compiled.keyOfBytes
  let signerCount := (message.header.map (·.requiredSignatures)).getD 1
  let signers := keys.take (min signerCount message.accountKeys.length)
  let instructions ← message.instructions.mapM (Compiled.instruction keys)
  let innerSets ← status.innerSets.mapM fun set => do
    return ⟨set.index, ← set.instructions.mapM (Compiled.instruction keys)⟩
  let preTokenBalances ← status.preTokenBalances.mapM (Compiled.tokenBalance keys)
  let postTokenBalances ← status.postTokenBalances.mapM (Compiled.tokenBalance keys)
  return { signature, slot, blockTime, accountKeys := keys, signers, instructions, innerSets,
           preBalances := status.preBalances, postBalances := status.postBalances,
           preTokenBalances, postTokenBalances }

end MemeEvents
