import MemeEvents.Event.Basic
import MemeEvents.Chain.View

/-!
Settling a trade from an event. Only buying, selling and trading events with both amounts become
trades.
-/

namespace MemeEvents

namespace View

/-- A mint's decimals, with a default for when the transaction and snapshot do not know it. -/
def decimalsOr (view : View) (mint : Pubkey) (fallback : Option Nat) : Except DecodeError Nat :=
  match view.mintDecimals mint, fallback with
  | .ok decimals, _ => .ok decimals
  | .error _, some decimals => .ok decimals
  | .error fault, none => .error fault

def settle (view : View) (amount : TokenAmount) : Except DecodeError TokenInfo :=
  match amount.decimals, amount.ui with
  | some decimals, some ui => .ok ⟨amount.mint, amount.raw, ui, decimals⟩
  | _, _ => do
    let decimals ← view.decimalsOr amount.mint amount.decimals
    return TokenInfo.of amount.mint amount.raw decimals

end View

def Event.side (event : Event) (inputMint : Pubkey) : TradeSide :=
  match event.kind with
  | .buy => .buy
  | .sell => .sell
  | _ => if event.baseMint == some inputMint then .sell else .buy

def Event.pools (event : Event) : List Pubkey :=
  [event.pool, event.bondingCurve].filterMap id |>.foldl
    (fun seen key => if seen.contains key then seen else seen ++ [key]) []

def saturatingAdd128 (a b : Nat) : Nat := min (a + b) (Nat.pow 2 128 - 1)

def View.settleFees (view : View) (quoteMint : Pubkey) :
    List Fee → Except DecodeError (List SettledFee × Nat)
  | [] => .ok ([], 0)
  | fee :: rest => do
    if fee.raw = 0 then view.settleFees quoteMint rest
    else
      let decimals ← view.decimalsOr fee.mint none
      let (settled, total) ← view.settleFees quoteMint rest
      let ui := (TokenInfo.of fee.mint fee.raw decimals).ui
      let here : Nat := if fee.mint == quoteMint then fee.raw else 0
      return (⟨fee.kind, fee.mint, fee.raw, ui, decimals, fee.recipient⟩ :: settled,
        saturatingAdd128 here total)

def View.trade? (view : View) (venue : Venue) (event : Event) :
    Except DecodeError (Option Trade) := do
  if !event.kind.isTrade then return none
  let (some input, some output) := (event.input, event.output) | return none
  if input.mint == output.mint then throw (.sameMintTrade input.mint)
  let inputInfo ← view.settle input
  let outputInfo ← view.settle output
  let side := event.side inputInfo.mint
  let quoteMint := event.quoteMint.getD
    (if event.baseMint == some inputInfo.mint then outputInfo.mint else inputInfo.mint)
  let (fees, quoteFee) ← view.settleFees quoteMint event.fees
  let fee ← if quoteFee > 0 then do
      let decimals ← view.decimalsOr quoteMint none
      pure (some (TokenInfo.of quoteMint quoteFee decimals))
    else pure none
  let name := event.protocol.name
  return some {
    stamp := event.stamp, side, protocol := event.protocol, pools := event.pools,
    input := inputInfo, output := outputInfo, fee, fees,
    user := event.user.getD view.signer, program := venue.program.getD event.program,
    amm := venue.amm.getD name, route := venue.route.getD name }

end MemeEvents
