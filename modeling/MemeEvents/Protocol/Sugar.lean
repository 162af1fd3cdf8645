import MemeEvents.Decode.Context

/-!
Sugar bonding curves. A trade's two amounts follow two bytes of flags; a token amount carries
six decimals as a default, which the mint's known decimals override when the trade is settled.
-/

namespace MemeEvents.Sugar

/-- The decimals assumed for a Sugar token when nothing better is known. -/
def defaultDecimals : Nat := 6

def buyExactIn : List UInt8 := [250, 234, 13, 123, 213, 156, 19, 236]
def buyExactOut : List UInt8 := [24, 211, 116, 40, 105, 3, 153, 56]
def sellExactIn : List UInt8 := [149, 39, 222, 155, 211, 124, 152, 26]
def sellExactOut : List UInt8 := [95, 200, 71, 34, 8, 9, 11, 166]
def create : List UInt8 := [24, 30, 200, 40, 5, 28, 7, 119]
def migrate : List UInt8 := [155, 234, 231, 146, 236, 158, 162, 30]

def readAmounts : Read (Nat × Nat) := do
  Cursor.skip 2
  let first ← Cursor.u64
  let second ← Cursor.u64
  return (first, second)

def decodeBuy : Decoder := fun context => do
  let (solAmount, tokenAmount) ← readAmounts
  let mint ← context.account 3
  let user ← context.account 0
  let curve ← context.account 2
  return some { context.event .buy with
    baseMint := some mint, quoteMint := some Programs.wrappedSol, user := some user,
    bondingCurve := some curve, input := some (TokenAmount.sol solAmount),
    output := some (TokenAmount.hinted mint tokenAmount defaultDecimals) }

def decodeSell : Decoder := fun context => do
  let (tokenAmount, solAmount) ← readAmounts
  let mint ← context.account 3
  let user ← context.account 0
  let curve ← context.account 2
  return some { context.event .sell with
    baseMint := some mint, quoteMint := some Programs.wrappedSol, user := some user,
    bondingCurve := some curve, input := some (TokenAmount.hinted mint tokenAmount defaultDecimals),
    output := some (TokenAmount.sol solAmount) }

def decodeCreate : Decoder := fun context => do
  let name ← Cursor.string
  let symbol ← Cursor.string
  let uri ← Cursor.string
  let creator ← context.account 0
  let mint ← context.account 1
  let curve ← context.account 2
  return some { context.event .create with
    baseMint := some mint, quoteMint := some Programs.wrappedSol, bondingCurve := some curve,
    user := some creator, creator := some creator, name := some name, symbol := some symbol,
    uri := some uri }

def decodeMigrate : Decoder := fun context => do
  let mint ← context.account 1
  let curve ← context.account 2
  let pool ← context.account 3
  let user ← context.account 0
  return some { context.event .migrate with
    baseMint := some mint, quoteMint := some Programs.wrappedSol, bondingCurve := some curve,
    pool := some pool, user := some user }

def routes : List Route :=
  [⟨"buy", [buyExactIn, buyExactOut], decodeBuy⟩,
   ⟨"sell", [sellExactIn, sellExactOut], decodeSell⟩,
   ⟨"create", [create], decodeCreate⟩,
   ⟨"migrate", [migrate], decodeMigrate⟩]

end MemeEvents.Sugar
