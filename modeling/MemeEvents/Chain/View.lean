import MemeEvents.Chain.Programs
import MemeEvents.Chain.Index
import MemeEvents.Token.Decimals
import MemeEvents.Decode.Error

/-!
A transaction together with a snapshot of known mint decimals, and the look-ups the decoders make on
it.
-/

namespace MemeEvents

structure View where
  tx : Transaction
  decimals : MintDecimals := {}
  deriving Inhabited

/-- What a token balance says about its account. -/
structure TokenAccountInfo where
  mint : Pubkey
  owner : Option Pubkey
  decimals : Nat
  deriving DecidableEq

namespace View

def signature (view : View) : Signature := view.tx.signature

def slot (view : View) : Nat := view.tx.slot

def blockTime (view : View) : Int := view.tx.blockTime.getD 0

def signer (view : View) : Pubkey :=
  match view.tx.signers.head?, view.tx.accountKeys.head? with
  | some key, _ => key
  | none, some key => key
  | none, none => Pubkey.zero

def isSigner (view : View) (key : Pubkey) : Bool := view.tx.signers.contains key

def instructions (view : View) : List Instruction := view.tx.instructions

def innerOf (view : View) (outer : Nat) : List Instruction :=
  match (KeyTable.lastPositions (·.index) view.tx.innerSets).get? outer with
  | some i => (view.tx.innerSets[i]?.map (·.instructions)).getD []
  | none => []

def instructionAt (view : View) (outer : Nat) (inner : Option Nat) : Option Instruction :=
  match inner with
  | none => view.tx.instructions[outer]?
  | some i => (view.innerOf outer)[i]?

def accountPosition (view : View) (account : Pubkey) : Option Nat :=
  (KeyTable.firstPositions view.tx.accountKeys).get? account

def preBalance (view : View) (account : Pubkey) : Option Nat :=
  (view.accountPosition account).bind fun i => view.tx.preBalances[i]?

def postBalance (view : View) (account : Pubkey) : Option Nat :=
  (view.accountPosition account).bind fun i => view.tx.postBalances[i]?

def balanceChange (view : View) (account : Pubkey) : Option Int := do
  let post ← view.postBalance account
  let pre ← view.preBalance account
  pure ((post : Int) - pre)

def preTokenBalance (view : View) (account : Pubkey) : Option TokenBalance :=
  ((KeyTable.lastPositions (·.account) view.tx.preTokenBalances).get? account).bind
    (view.tx.preTokenBalances[·]?)

def postTokenBalance (view : View) (account : Pubkey) : Option TokenBalance :=
  ((KeyTable.lastPositions (·.account) view.tx.postTokenBalances).get? account).bind
    (view.tx.postTokenBalances[·]?)

def signed128 (value : Int) : Int := value.bmod (Nat.pow 2 128)

def tokenBalanceChange (view : View) (account : Pubkey) : Option Int :=
  match view.preTokenBalance account, view.postTokenBalance account with
  | none, none => none
  | pre, post =>
    let before := signed128 ((pre.map (·.amount)).getD 0)
    let after := signed128 ((post.map (·.amount)).getD 0)
    some (signed128 (after - before))

def tokenAccountInfo (view : View) (account : Pubkey) : Option TokenAccountInfo :=
  let balance := match view.postTokenBalance account with
    | some b => some b
    | none => view.preTokenBalance account
  balance.map fun b => ⟨b.mint, b.owner, b.decimals⟩

def localDecimals (view : View) (mint : Pubkey) : Option Nat :=
  (KeyTable.ofList ((view.tx.preTokenBalances ++ view.tx.postTokenBalances).map fun balance =>
    (balance.mint, balance.decimals))).get? mint

def mintDecimals (view : View) (mint : Pubkey) : Except DecodeError Nat :=
  if mint == Programs.wrappedSol then .ok Programs.solDecimals
  else match view.localDecimals mint with
    | some d => .ok d
    | none => match view.decimals.get? mint with
      | some d => .ok d
      | none => .error (.unknownDecimals mint)

end View

end MemeEvents
