import MemeEvents.Decode.Context
import MemeEvents.Chain.Address

/-!
Meteora dynamic bonding curves. A swap's amounts are the correlated movements out of its paying
account and into its receiving account.
-/

namespace MemeEvents.MeteoraDbc

def swap : List UInt8 := [248, 198, 158, 145, 225, 117, 135, 200]
def swap2 : List UInt8 := [65, 75, 63, 76, 235, 91, 91, 136]
def initializeSpl : List UInt8 := [140, 85, 215, 176, 102, 54, 104, 79]
def initializeToken2022 : List UInt8 := [169, 118, 51, 78, 145, 110, 220, 155]
def migrateMeteoraDamm : List UInt8 := [27, 1, 48, 22, 180, 63, 118, 217]
def migrationDammV2 : List UInt8 := [156, 169, 230, 103, 53, 228, 80, 64]

def inputIsBase (context : Context) (inputAccount outputAccount baseMint : Pubkey) : Bool :=
  match context.view.tokenAccountInfo inputAccount, context.view.tokenAccountInfo outputAccount with
  | some info, _ => info.mint == baseMint
  | none, some info => info.mint != baseMint
  | none, none =>
    [Programs.token, Programs.token2022].any fun program =>
      Address.associatedTokenAccount context.signer baseMint program == inputAccount

def decodeSwap : Decoder := fun context => do
  let pool ← context.account 2
  let inputAccount ← context.account 3
  let outputAccount ← context.account 4
  let baseMint ← context.account 7
  let quoteMint ← context.account 8
  let payer ← context.account 9
  let records ← context.requireRecords 2
  let input ← pickRecord records 0 (·.source == inputAccount)
  let output ← pickRecord records 1 (·.destination == outputAccount)
  if input.mint == output.mint then throw (.sameMintTrade input.mint)
  let kind := if inputIsBase context inputAccount outputAccount baseMint then EventKind.sell else .buy
  return some { context.event kind with
    baseMint := some baseMint, quoteMint := some quoteMint, user := some payer,
    pool := some pool, bondingCurve := some pool, input := some input.tokenAmount,
    output := some output.tokenAmount }

def decodeInitialize : Decoder := fun context => do
  let name ← Cursor.string
  let symbol ← Cursor.string
  let uri ← Cursor.string
  let creator ← context.account 2
  let baseMint ← context.account 3
  let quoteMint ← context.account 4
  let pool ← context.account 5
  return some { context.event .create with
    baseMint := some baseMint, quoteMint := some quoteMint, pool := some pool,
    bondingCurve := some pool, user := some creator, creator := some creator, name := some name,
    symbol := some symbol, uri := some uri }

/-- A migration out of the curve; the mints stand at `baseIndex` and `quoteIndex`. -/
def migration (baseIndex quoteIndex : Nat) : Decoder := fun context => do
  let curve ← context.account 0
  let pool ← context.account 4
  let baseMint ← context.account baseIndex
  let quoteMint ← context.account quoteIndex
  return some { context.event .migrate with
    bondingCurve := some curve, pool := some pool, baseMint := some baseMint,
    quoteMint := some quoteMint, user := some context.signer }

def routes : List Route :=
  [⟨"swap", [swap, swap2], decodeSwap⟩,
   ⟨"initialize_virtual_pool", [initializeSpl, initializeToken2022], decodeInitialize⟩,
   ⟨"migrate_meteora_damm", [migrateMeteoraDamm], migration 7 8⟩,
   ⟨"migration_damm_v2", [migrationDammV2], migration 13 14⟩]

end MemeEvents.MeteoraDbc
