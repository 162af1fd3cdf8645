import MemeEvents.Chain.Key

/-!
A confirmed transaction as the decoders see it: its outer instructions, the inner instructions
each outer one invoked, and the lamport and token balances of its accounts before and after.
-/

namespace MemeEvents

structure Instruction where
  program : Pubkey
  accounts : List Pubkey := []
  data : List UInt8 := []
  deriving DecidableEq, Inhabited

/-- The inner instructions invoked by the outer instruction at `index`. -/
structure InnerSet where
  index : Nat
  instructions : List Instruction
  deriving DecidableEq, Inhabited

/-- The token balance of one account at one point of the transaction. -/
structure TokenBalance where
  accountIndex : Nat
  account : Pubkey
  mint : Pubkey
  owner : Option Pubkey
  amount : Nat
  decimals : Nat
  deriving DecidableEq, Inhabited

structure Transaction where
  signature : Signature := Signature.zero
  slot : Nat := 0
  blockTime : Option Int := none
  accountKeys : List Pubkey := []
  signers : List Pubkey := []
  instructions : List Instruction := []
  innerSets : List InnerSet := []
  preBalances : List Nat := []
  postBalances : List Nat := []
  preTokenBalances : List TokenBalance := []
  postTokenBalances : List TokenBalance := []
  deriving Inhabited

end MemeEvents
