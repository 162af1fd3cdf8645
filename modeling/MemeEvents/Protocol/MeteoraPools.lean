import MemeEvents.Decode.Context

/-! Meteora liquidity pools: the dynamic AMM, its second version and the liquidity book. -/

namespace MemeEvents.MeteoraPools

def liquidity : List (List UInt8) :=
  [[181, 157, 89, 67, 143, 182, 52, 72], [28, 140, 238, 99, 231, 162, 21, 149],
   [7, 3, 150, 127, 148, 40, 61, 200], [94, 155, 103, 151, 70, 95, 220, 165],
   [41, 5, 238, 175, 100, 225, 6, 205], [228, 162, 78, 28, 70, 219, 116, 115],
   [3, 221, 149, 218, 111, 141, 118, 213], [80, 85, 209, 72, 24, 206, 177, 108],
   [10, 51, 61, 35, 112, 105, 24, 85], [26, 82, 102, 152, 240, 74, 105, 26],
   [230, 215, 82, 127, 241, 101, 227, 146], [133, 109, 44, 179, 56, 238, 114, 33],
   [168, 227, 50, 62, 189, 171, 84, 176], [79, 35, 122, 84, 173, 15, 93, 191],
   [4, 228, 215, 71, 225, 253, 119, 206], [169, 32, 79, 137, 136, 232, 70, 137],
   [112, 191, 101, 171, 28, 144, 127, 187], [180, 38, 154, 17, 133, 33, 162, 211],
   [149, 95, 181, 242, 94, 90, 158, 162], [190, 3, 127, 119, 178, 87, 157, 183],
   [97, 206, 39, 105, 94, 94, 126, 148], [165, 228, 133, 48, 99, 249, 255, 33],
   [158, 201, 158, 189, 33, 93, 162, 103], [148, 206, 42, 195, 247, 49, 103, 8],
   [188, 50, 249, 165, 93, 151, 38, 63]]

def setup : List (List UInt8) :=
  [[175, 175, 109, 31, 13, 152, 155, 237], [95, 180, 10, 172, 84, 174, 232, 40],
   [149, 82, 72, 197, 253, 252, 68, 15], [20, 161, 241, 24, 189, 221, 180, 2],
   [7, 166, 138, 171, 206, 171, 236, 244], [48, 149, 220, 130, 61, 11, 9, 178],
   [45, 154, 237, 210, 221, 15, 166, 92], [73, 59, 36, 120, 237, 83, 108, 198],
   [108, 102, 213, 85, 251, 3, 53, 21], [46, 39, 41, 135, 111, 183, 200, 64],
   [243, 73, 129, 126, 51, 19, 241, 107], [35, 86, 19, 185, 78, 212, 75, 211],
   [219, 192, 234, 71, 190, 191, 102, 80], [46, 82, 125, 146, 85, 141, 228, 153],
   [95, 135, 192, 196, 242, 129, 230, 68], [48, 215, 197, 153, 96, 203, 180, 133],
   [123, 134, 81, 0, 49, 68, 98, 98], [172, 241, 221, 138, 161, 29, 253, 42],
   [221, 147, 228, 207, 140, 212, 17, 119], [227, 62, 2, 252, 247, 10, 171, 185],
   [165, 176, 125, 6, 231, 171, 186, 213], [54, 87, 165, 19, 69, 227, 218, 224],
   [21, 19, 208, 43, 237, 62, 255, 87], [208, 127, 21, 1, 194, 190, 196, 70]]

/-- The position of the pool among a swap's accounts. -/
def poolIndex : Protocol → Nat
  | .meteoraDammV2 => 1
  | _ => 0

def isQuoteMint (mint : Pubkey) : Bool := mint == Programs.wrappedSol || mint == Programs.usdc

def decodeSwap : Decoder := fun context => do
  let records := context.records
  if records.length < 2 then return none
  let signer := context.signer
  let input ← pickRecord records 0 (·.sourceOwner == some signer)
  match records.find? (·.mint != input.mint) with
  | none => return none
  | some output =>
    let (baseMint, quoteMint) :=
      if isQuoteMint input.mint then (output.mint, input.mint) else (input.mint, output.mint)
    let fees := match records[2]? with
      | some fee => [⟨.dex, fee.mint, fee.raw, fee.destinationOwner⟩]
      | none => []
    let pool ← context.account (poolIndex context.protocol)
    return some { context.event .trade with
      pool := some pool, baseMint := some baseMint, quoteMint := some quoteMint,
      user := some signer, input := some input.tokenAmount, output := some output.tokenAmount,
      fees := fees }

def routes : List Route :=
  [Route.silent "liquidity" liquidity,
   Route.silent "setup" setup,
   ⟨"swap", [[]], decodeSwap⟩]

end MemeEvents.MeteoraPools
