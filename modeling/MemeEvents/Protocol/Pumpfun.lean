import MemeEvents.Decode.Context

/-!
Pump.fun bonding curves. The program logs its events by invoking itself; an event's payload follows
the event tag and an eight-byte event name.
-/

namespace MemeEvents.Pumpfun

def tokenDecimals : Nat := 6

def buy : List UInt8 := [102, 6, 61, 18, 1, 218, 235, 234]
def sell : List UInt8 := [51, 230, 133, 164, 1, 127, 131, 173]

def tradeEvent : List UInt8 := Programs.eventTag ++ [189, 219, 127, 211, 78, 230, 97, 238]
def createEvent : List UInt8 := Programs.eventTag ++ [27, 114, 169, 77, 222, 235, 99, 118]
def completeEvent : List UInt8 := Programs.eventTag ++ [95, 114, 97, 156, 212, 46, 152, 8]
def migrateEvent : List UInt8 := Programs.eventTag ++ [189, 233, 93, 185, 92, 148, 234, 148]

/-- The optional tail of a trade event. -/
structure TradeTail where
  feeRecipient : Pubkey
  fee : Nat := 0
  creator : Option Pubkey := none
  creatorFee : Nat := 0

def TradeTail.read : Read (Option TradeTail) := do
  if (← Cursor.left) < 52 then return none
  let _realSol ← Cursor.u64
  let _realToken ← Cursor.u64
  let feeRecipient ← Cursor.pubkey
  let mut tail : TradeTail := { feeRecipient }
  if 16 ≤ (← Cursor.left) then
    let _feeBasisPoints ← Cursor.u64
    tail := { tail with fee := ← Cursor.u64 }
  if 48 ≤ (← Cursor.left) then
    let creator ← Cursor.pubkey
    let _creatorBasisPoints ← Cursor.u64
    tail := { tail with creator := some creator, creatorFee := ← Cursor.u64 }
  return some tail

def TradeTail.fees (tail : TradeTail) : List Fee :=
  ⟨.protocol, Programs.wrappedSol, tail.fee, some tail.feeRecipient⟩ ::
    match tail.creator with
    | some creator => [⟨.creator, Programs.wrappedSol, tail.creatorFee, some creator⟩]
    | none => []

def enclosingCurve (context : Context) : Option Pubkey := do
  let parent ← context.view.parentOf context.located Programs.pumpfun
  if parent.startsWith buy || parent.startsWith sell then parent.accounts[3]? else none

def decodeTrade : Decoder := fun context => do
  let mint ← Cursor.pubkey
  let solAmount ← Cursor.u64
  let tokenAmount ← Cursor.u64
  let isBuy ← Cursor.bool
  let user ← Cursor.pubkey
  let _timestamp ← Cursor.i64
  let _virtualSol ← Cursor.u64
  let _virtualToken ← Cursor.u64
  let tail ← TradeTail.read
  let sol := TokenAmount.sol solAmount
  let token := TokenAmount.scaled mint tokenAmount tokenDecimals
  let (kind, input, output) := if isBuy then (EventKind.buy, sol, token) else (.sell, token, sol)
  return some { context.event kind with
    baseMint := some mint, quoteMint := some Programs.wrappedSol, user := some user,
    bondingCurve := enclosingCurve context, creator := tail.bind (·.creator),
    input := some input, output := some output, fees := (tail.map (·.fees)).getD [] }

def decodeCreate : Decoder := fun context => do
  let name ← Cursor.string
  let symbol ← Cursor.string
  let uri ← Cursor.string
  let mint ← Cursor.pubkey
  let curve ← Cursor.pubkey
  let user ← Cursor.pubkey
  let creator ← if 32 ≤ (← Cursor.left) then Cursor.pubkey else pure user
  return some { context.event .create with
    baseMint := some mint, quoteMint := some Programs.wrappedSol, user := some user,
    creator := some creator, bondingCurve := some curve, name := some name,
    symbol := some symbol, uri := some uri }

def decodeComplete : Decoder := fun context => do
  let user ← Cursor.pubkey
  let mint ← Cursor.pubkey
  let curve ← Cursor.pubkey
  return some { context.event .complete with
    baseMint := some mint, quoteMint := some Programs.wrappedSol, user := some user,
    bondingCurve := some curve }

def decodeMigrate : Decoder := fun context => do
  let user ← Cursor.pubkey
  let mint ← Cursor.pubkey
  let mintAmount ← Cursor.u64
  let solAmount ← Cursor.u64
  let migrationFee ← Cursor.u64
  let curve ← Cursor.pubkey
  let _timestamp ← Cursor.i64
  let pool ← Cursor.pubkey
  return some { context.event .migrate with
    baseMint := some mint, quoteMint := some Programs.wrappedSol, user := some user,
    bondingCurve := some curve, pool := some pool,
    input := some (TokenAmount.scaled mint mintAmount tokenDecimals),
    output := some (TokenAmount.sol solAmount),
    fees := [⟨.protocol, Programs.wrappedSol, migrationFee, none⟩] }

def routes : List Route :=
  [⟨"TradeEvent", [tradeEvent], decodeTrade⟩,
   ⟨"CreateEvent", [createEvent], decodeCreate⟩,
   ⟨"CompleteEvent", [completeEvent], decodeComplete⟩,
   ⟨"CompletePumpAmmMigrationEvent", [migrateEvent], decodeMigrate⟩]

end MemeEvents.Pumpfun
