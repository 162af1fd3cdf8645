import MemeEvents.Protocol.Pumpfun
import MemeEvents.Protocol.Boopfun
import MemeEvents.Protocol.MeteoraDbc
import MemeEvents.Protocol.MeteoraPools
import MemeEvents.Protocol.Moonit
import MemeEvents.Protocol.RaydiumLaunchpad
import MemeEvents.Protocol.Sugar

/-! The route table of each protocol, and decoding an instruction through it. -/

namespace MemeEvents.Protocol

def routes : Protocol → List Route
  | .pumpfun => Pumpfun.routes
  | .boopfun => Boopfun.routes
  | .meteoraDbc => MeteoraDbc.routes
  | .meteoraDlmm | .meteoraDamm | .meteoraDammV2 => MeteoraPools.routes
  | .moonit => Moonit.routes
  | .raydiumLaunchpad => RaydiumLaunchpad.routes
  | .sugar => Sugar.routes

/-- The route that handles `data`, with the length of the discriminator it matched. -/
def select? (protocol : Protocol) (data : List UInt8) : Option (Route × Nat) :=
  protocol.routes.findSome? fun route => (route.matchLength? data).map (route, ·)

def decode (protocol : Protocol) (context : Context) : Except DecodeError (Option Event) :=
  match protocol.select? context.located.data with
  | none => .ok none
  | some (route, skip) => do
    let payload ← Unchecked.suffix context.located.data skip
    match Cursor.run (route.decode context) payload with
    | .error fault => .error fault
    | .ok none => .ok none
    | .ok (some event) =>
      let view := context.view
      .ok (some { event with
        stamp := ⟨view.signature, view.slot, view.blockTime, context.position⟩ })

end MemeEvents.Protocol
