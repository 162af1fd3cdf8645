import MemeEvents.Decode.Context

/-!
Raydium's launchpad. A trade instruction states neither amounts nor direction; both come from the
trade event that the program logs in the next inner instructions.
-/

namespace MemeEvents.RaydiumLaunchpad

def buyExactIn : List UInt8 := [250, 234, 13, 123, 213, 156, 19, 236]
def buyExactOut : List UInt8 := [24, 211, 116, 40, 105, 3, 153, 56]
def sellExactIn : List UInt8 := [149, 39, 222, 155, 211, 124, 152, 26]
def sellExactOut : List UInt8 := [95, 200, 71, 34, 8, 9, 11, 166]
def initializePool : List UInt8 := [175, 175, 109, 31, 13, 152, 155, 237]
def initializePoolV2 : List UInt8 := [67, 153, 175, 39, 218, 16, 38, 32]
def initializePoolToken2022 : List UInt8 := [37, 190, 126, 222, 44, 154, 171, 17]
def migrateToAmm : List UInt8 := [207, 82, 192, 145, 254, 207, 145, 223]
def migrateToCpswap : List UInt8 := [136, 92, 200, 103, 28, 218, 144, 140]

def tradeEvent : List UInt8 := Programs.eventTag ++ [189, 219, 127, 211, 78, 230, 97, 238]

def legacyLength : Nat := 131

def currentLength : Nat := 139

inductive Direction where
  | buy | sell
  deriving DecidableEq, Repr

def Direction.name : Direction → String
  | .buy => "Buy"
  | .sell => "Sell"

inductive PoolStatus where
  | fund | migrate | trade
  deriving DecidableEq, Repr

def PoolStatus.name : PoolStatus → String
  | .fund => "Fund"
  | .migrate => "Migrate"
  | .trade => "Trade"

/-- A trade as the launchpad logs it. -/
structure TradeLog where
  poolState : Pubkey
  amountIn : Nat
  amountOut : Nat
  protocolFee : Nat
  platformFee : Nat
  creatorFee : Nat
  shareFee : Nat
  direction : Direction
  status : PoolStatus
  exactIn : Bool

def layoutFault (detail : String) : DecodeError := .invalidLayout s!"launchpad TradeEvent: {detail}"

def variant {α : Type} (variants : List α) : Read α := do
  let tag ← Cursor.u8
  match variants[tag]? with
  | some value => pure value
  | none => throw (layoutFault s!"Unexpected variant tag: {tag}")

def flag : Read Bool := do
  match ← Cursor.u8 with
  | 0 => pure false
  | 1 => pure true
  | other => throw (layoutFault s!"Invalid bool representation: {other}")

def readTradeLog (withCreatorFee : Bool) : Read TradeLog := do
  let poolState ← Cursor.pubkey
  for _ in [0:7] do
    let _reserve ← Cursor.u64
  let amountIn ← Cursor.u64
  let amountOut ← Cursor.u64
  let protocolFee ← Cursor.u64
  let platformFee ← Cursor.u64
  let creatorFee ← if withCreatorFee then Cursor.u64 else pure 0
  let shareFee ← Cursor.u64
  let direction ← variant [Direction.buy, .sell]
  let status ← variant [PoolStatus.fund, .migrate, .trade]
  let exactIn ← flag
  return ⟨poolState, amountIn, amountOut, protocolFee, platformFee, creatorFee, shareFee,
    direction, status, exactIn⟩

def TradeLog.parse (payload : List UInt8) : Except DecodeError TradeLog :=
  if currentLength ≤ payload.length then Cursor.run (readTradeLog true) payload
  else if legacyLength ≤ payload.length then Cursor.run (readTradeLog false) payload
  else .error (.outOfBounds legacyLength payload.length)

def decodeTrade : Decoder := fun context => do
  let payer ← context.account 0
  let poolState ← context.account 4
  let baseMint ← context.account 9
  let quoteMint ← context.account 10
  let logged ← match context.view.findInnerAfter context.located fun next =>
      next.program == Programs.raydiumLaunchpad && next.startsWith tradeEvent with
    | some located => pure located
    | none => throw (.missingInstruction "TradeEvent")
  let payload ← Unchecked.suffix logged.data tradeEvent.length
  let trade ← TradeLog.parse payload
  let base := TokenAmount.unscaled baseMint
  let quote := TokenAmount.unscaled quoteMint
  let (kind, input, output) := match trade.direction with
    | .buy => (EventKind.buy, quote trade.amountIn, base trade.amountOut)
    | .sell => (EventKind.sell, base trade.amountIn, quote trade.amountOut)
  let fees : List Fee :=
    [(FeeKind.protocol, trade.protocolFee), (.platform, trade.platformFee),
      (.creator, trade.creatorFee), (.share, trade.shareFee)].map fun (kind, raw) =>
      ⟨kind, quoteMint, raw, none⟩
  return some { context.event kind with
    baseMint := some baseMint, quoteMint := some quoteMint, user := some payer,
    pool := some poolState, bondingCurve := some poolState, input := some input,
    output := some output, fees := fees }

def decodeInitialize : Decoder := fun context => do
  let _decimals ← Cursor.u8
  let name ← Cursor.string
  let symbol ← Cursor.string
  let uri ← Cursor.string
  let creator ← context.account 1
  let baseMint ← context.account 6
  let quoteMint ← context.account 7
  let pool ← context.account 5
  return some { context.event .create with
    baseMint := some baseMint, quoteMint := some quoteMint, pool := some pool,
    bondingCurve := some pool, user := some creator, creator := some creator,
    name := some name, symbol := some symbol, uri := some uri }

def migration (poolIndex stateIndex : Nat) : Decoder := fun context => do
  let baseMint ← context.account 1
  let quoteMint ← context.account 2
  let pool ← context.account poolIndex
  let state ← context.account stateIndex
  let user ← context.account 0
  return some { context.event .migrate with
    baseMint := some baseMint, quoteMint := some quoteMint, pool := some pool,
    bondingCurve := some state, user := some user }

def routes : List Route :=
  [⟨"trade", [buyExactIn, buyExactOut, sellExactIn, sellExactOut], decodeTrade⟩,
   ⟨"initialize", [initializePool, initializePoolV2, initializePoolToken2022], decodeInitialize⟩,
   ⟨"migrate_to_amm", [migrateToAmm], migration 12 22⟩,
   ⟨"migrate_to_cpswap", [migrateToCpswap], migration 5 17⟩]

end MemeEvents.RaydiumLaunchpad
