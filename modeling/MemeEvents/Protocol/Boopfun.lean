import MemeEvents.Decode.Context

/-!
Boop.fun bonding curves. An amount that a trade does not state is taken from the first
correlated movement of the right mint.
-/

namespace MemeEvents.Boopfun

def createToken : List UInt8 := [84, 52, 204, 228, 24, 140, 234, 75]
def deployBondingCurve : List UInt8 := [180, 89, 199, 76, 168, 236, 217, 138]
def buyToken : List UInt8 := [138, 127, 14, 91, 38, 87, 115, 105]
def sellToken : List UInt8 := [109, 61, 40, 187, 230, 176, 135, 174]
def graduate : List UInt8 := [45, 235, 225, 181, 17, 218, 64, 130]

/-- The first record that satisfies `predicate`, else a fault for the missing movement. -/
def findRecord (records : List TransferRecord) (predicate : TransferRecord → Bool) :
    Except DecodeError TransferRecord :=
  match records.find? predicate with
  | some record => .ok record
  | none => .error (.missingTransfer 1 0)

def decodeCreate : Decoder := fun context => do
  let _salt ← Cursor.u64
  let name ← Cursor.string
  let symbol ← Cursor.string
  let uri ← Cursor.string
  let mint ← context.account 2
  let user ← context.account 3
  let curve := (context.view.findByPrefix (some Programs.boopfun) deployBondingCurve
    (some context.position.outer)).bind (·.accounts[2]?)
  return some { context.event .create with
    baseMint := some mint, quoteMint := some Programs.wrappedSol, user := some user,
    creator := some user, bondingCurve := curve, name := some name, symbol := some symbol,
    uri := some uri }

def decodeBuy : Decoder := fun context => do
  let solAmount ← Cursor.u64
  let mint ← context.account 0
  let curve ← context.account 1
  let user ← context.account 6
  let records ← context.requireRecords 1
  let token ← findRecord records (·.mint == mint)
  return some { context.event .buy with
    baseMint := some mint, quoteMint := some Programs.wrappedSol, user := some user,
    bondingCurve := some curve, input := some (TokenAmount.sol solAmount),
    output := some token.tokenAmount }

def decodeSell : Decoder := fun context => do
  let tokenAmount ← Cursor.u64
  let mint ← context.account 0
  let curve ← context.account 1
  let user ← context.account 6
  let records ← context.requireRecords 1
  let sol ← findRecord records (·.isSol)
  return some { context.event .sell with
    baseMint := some mint, quoteMint := some Programs.wrappedSol, user := some user,
    bondingCurve := some curve, input := some (TokenAmount.unscaled mint tokenAmount),
    output := some sol.tokenAmount }

def bySizeDescending (records : List TransferRecord) : List TransferRecord :=
  records.mergeSort fun a b => b.ui.bits.toNat ≤ a.ui.bits.toNat

def decodeGraduate : Decoder := fun context => do
  let mint ← context.account 0
  let curve ← context.account 7
  let user ← context.account 10
  let sol := context.records.filter (·.isSol)
  if sol.isEmpty then throw (.missingTransfer 1 0)
  let sorted := bySizeDescending sol
  let principal ← Unchecked.get sorted 0
  let fees := match sorted[1]? with
    | some fee => [⟨.protocol, Programs.wrappedSol, fee.raw, fee.destinationOwner⟩]
    | none => []
  return some { context.event .complete with
    baseMint := some mint, quoteMint := some Programs.wrappedSol, user := some user,
    bondingCurve := some curve, input := some principal.tokenAmount, fees := fees }

def routes : List Route :=
  [⟨"create_token", [createToken], decodeCreate⟩,
   ⟨"buy_token", [buyToken], decodeBuy⟩,
   ⟨"sell_token", [sellToken], decodeSell⟩,
   ⟨"graduate", [graduate], decodeGraduate⟩]

end MemeEvents.Boopfun
