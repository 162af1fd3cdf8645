import MemeEvents.Decode.Context

/-!
Moonit bonding curves. A trade's amounts are the balance changes of the curve and of its two
fee accounts, each of which must move the way the trade says.
-/

namespace MemeEvents.Moonit

def buy : List UInt8 := [102, 6, 61, 18, 1, 218, 235, 234]
def sell : List UInt8 := [51, 230, 133, 164, 1, 127, 131, 173]
def tokenMint : List UInt8 := [3, 44, 164, 184, 123, 13, 245, 179]
def migrateFunds : List UInt8 := [42, 229, 10, 231, 189, 62, 193, 174]

/-- The direction a balance is expected to move in. -/
inductive Flow where
  | inflow | outflow
  deriving DecidableEq

def Flow.name : Flow → String
  | .inflow => "In"
  | .outflow => "Out"

def directed (account : Pubkey) (delta : Int) (flow : Flow) : Except DecodeError Nat :=
  let wrongWay := match flow with
    | .inflow => decide (delta < 0)
    | .outflow => decide (0 < delta)
  if wrongWay then
    .error (.invalidLayout s!"balance of {account} moved {delta}, expected {flow.name} flow")
  else .ok delta.natAbs

def lamportDelta (context : Context) (account : Pubkey) (flow : Flow) : Except DecodeError Nat :=
  match context.view.balanceChange account with
  | some delta => directed account delta flow
  | none => .error (.missingBalance account)

/-- The amounts a trade moved. -/
structure Settlement where
  mint : Pubkey
  tokenDecimals : Nat
  tokenDelta : Nat
  curveSol : Nat
  dexFee : Nat
  helioFee : Nat

def settle (context : Context) (isBuy : Bool) : Except DecodeError Settlement := do
  let curve ← context.account 2
  let curveToken ← context.account 3
  let dexFee ← context.account 4
  let helioFee ← context.account 5
  let mint ← context.account 6
  let (tokenFlow, solFlow) := if isBuy then (Flow.outflow, Flow.inflow) else (.inflow, .outflow)
  let tokenDelta ← match context.view.tokenBalanceChange curveToken with
    | some delta => pure delta
    | none => throw (.missingBalance curveToken)
  let tokenDecimals ← match context.view.tokenAccountInfo curveToken with
    | some info => pure info.decimals
    | none => context.view.mintDecimals mint
  return {
    mint, tokenDecimals
    tokenDelta := ← directed curveToken tokenDelta tokenFlow
    curveSol := ← lamportDelta context curve solFlow
    dexFee := ← lamportDelta context dexFee .inflow
    helioFee := ← lamportDelta context helioFee .inflow }

def fees (context : Context) (settlement : Settlement) : Except DecodeError (List Fee) := do
  let dex ← context.account 4
  let helio ← context.account 5
  return [⟨.dex, Programs.wrappedSol, settlement.dexFee, some dex⟩,
    ⟨.helio, Programs.wrappedSol, settlement.helioFee, some helio⟩]

def readTradeArguments : Read Unit := do
  let _tokenAmount ← Cursor.u64
  let _collateralAmount ← Cursor.u64
  let _fixedSide ← Cursor.u8
  let _slippage ← Cursor.u64

def decodeBuy : Decoder := fun context => do
  readTradeArguments
  let s ← settle context true
  let solIn := s.curveSol + s.dexFee + s.helioFee
  let user ← context.account 0
  let curve ← context.account 2
  let fees ← fees context s
  return some { context.event .buy with
    baseMint := some s.mint, quoteMint := some Programs.wrappedSol, user := some user,
    bondingCurve := some curve, input := some (TokenAmount.sol solIn),
    output := some (TokenAmount.scaled s.mint s.tokenDelta s.tokenDecimals), fees := fees }

def decodeSell : Decoder := fun context => do
  readTradeArguments
  let s ← settle context false
  let solOut := s.curveSol - (s.dexFee + s.helioFee)
  let user ← context.account 0
  let curve ← context.account 2
  let fees ← fees context s
  return some { context.event .sell with
    baseMint := some s.mint, quoteMint := some Programs.wrappedSol, user := some user,
    bondingCurve := some curve, input := some (TokenAmount.scaled s.mint s.tokenDelta s.tokenDecimals),
    output := some (TokenAmount.sol solOut), fees := fees }

def decodeCreate : Decoder := fun context => do
  let name ← Cursor.string
  let symbol ← Cursor.string
  let uri ← Cursor.string
  let sender ← context.account 0
  let mint ← context.account 3
  let curve ← context.account 2
  return some { context.event .create with
    baseMint := some mint, quoteMint := some Programs.wrappedSol, user := some sender,
    creator := some sender, bondingCurve := some curve, name := some name,
    symbol := some symbol, uri := some uri }

def decodeMigrate : Decoder := fun context => do
  let mint ← context.account 5
  let curve ← context.account 2
  return some { context.event .migrate with
    baseMint := some mint, quoteMint := some Programs.wrappedSol, user := some context.signer,
    bondingCurve := some curve }

def routes : List Route :=
  [⟨"buy", [buy], decodeBuy⟩,
   ⟨"sell", [sell], decodeSell⟩,
   ⟨"token_mint", [tokenMint], decodeCreate⟩,
   ⟨"migrate_funds", [migrateFunds], decodeMigrate⟩]

end MemeEvents.Moonit
