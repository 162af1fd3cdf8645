import MemeEvents.Parse.Config
import MemeEvents.Protocol.Table
import MemeEvents.Event.Trade
import MemeEvents.Transfer.Correlate

/-!
Parsing a transaction: every instruction of a known and admitted protocol, outer and inner in
execution order, is decoded; the kept events are ordered by position, and, when asked, each is
settled into a trade.
-/

namespace MemeEvents

inductive ParseError where
  | decode (protocol : Protocol) (signature : Signature) (position : Position)
      (fault : DecodeError)
  | conversion (detail : String)
  | missingField (name : String)
  deriving Inhabited

namespace ParseError

def kind : ParseError → String
  | .decode .. => "Decode"
  | .conversion _ => "Conversion"
  | .missingField _ => "MissingField"

def message : ParseError → String
  | .decode protocol signature position fault =>
    s!"{protocol} decode failed at instruction {position} of {signature.toBase58}: {fault.message}"
  | .conversion detail => s!"conversion error: {detail}"
  | .missingField name => s!"missing field: {name}"

end ParseError

/-- What a parse finds in one transaction. -/
structure Outcome where
  signature : Signature
  slot : Nat
  timestamp : Int
  signer : Pubkey
  events : List Event
  trades : List Trade
  deriving Inhabited

namespace View

def events (view : View) (config : Config) (transfers : TransferMap) :
    List Located → Except ParseError (List Event)
  | [] => .ok []
  | located :: rest =>
    match Protocol.ofProgram? located.program with
    | none => view.events config transfers rest
    | some protocol =>
      if !config.admitsProgram located.program then view.events config transfers rest
      else match protocol.decode ⟨protocol, located, view, transfers⟩ with
        | .error fault => .error (.decode protocol view.signature located.position fault)
        | .ok (some event) =>
          if config.admitsKind event.kind then
            (view.events config transfers rest).map (event :: ·)
          else view.events config transfers rest
        | .ok none => view.events config transfers rest

def trades (view : View) (venue : Venue) : List Event → Except ParseError (List Trade)
  | [] => .ok []
  | event :: rest =>
    match view.trade? venue event with
    | .error fault => .error (.decode event.protocol view.signature event.stamp.position fault)
    | .ok found => do
      let later ← view.trades venue rest
      return found.toList ++ later

def orderEvents (events : List Event) : List Event :=
  events.mergeSort fun a b => Position.keyLE a.stamp.position b.stamp.position

def parse (view : View) (config : Config) (venue : Option Venue) : Except ParseError Outcome := do
  let correlator : Correlator :=
    if config.extraKinds.isEmpty then {} else Correlator.withExtra config.extraKinds
  let transfers := correlator.correlate view
  let events := orderEvents (← view.events config transfers view.flat)
  let trades ← if config.emitTrades then view.trades (venue.getD {}) events else pure []
  return ⟨view.signature, view.slot, view.blockTime, view.signer, events, trades⟩

end View

end MemeEvents
