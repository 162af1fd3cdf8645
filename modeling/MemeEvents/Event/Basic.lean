import MemeEvents.Protocol.Basic
import MemeEvents.Token.Amount
import MemeEvents.Chain.Position

/-!
Events, trades and fees. An event is what one instruction of a known protocol says; a trade is a
buying or selling event with its amounts settled.
-/

namespace MemeEvents

inductive EventKind where
  | create | buy | sell | complete | migrate | trade
  deriving DecidableEq, Repr, Inhabited

namespace EventKind

def all : List EventKind := [.create, .buy, .sell, .complete, .migrate, .trade]

def name : EventKind → String
  | .create => "CREATE"
  | .buy => "BUY"
  | .sell => "SELL"
  | .complete => "COMPLETE"
  | .migrate => "MIGRATE"
  | .trade => "TRADE"

def ofName? (text : String) : Option EventKind := all.find? (·.name == text)

def isTrade : EventKind → Bool
  | .buy | .sell | .trade => true
  | _ => false

end EventKind

inductive FeeKind where
  | protocol | platform | creator | share | dex | helio | lp | trade
  deriving DecidableEq, Repr, Inhabited

namespace FeeKind

def all : List FeeKind := [.protocol, .platform, .creator, .share, .dex, .helio, .lp, .trade]

def name : FeeKind → String
  | .protocol => "protocol"
  | .platform => "platform"
  | .creator => "creator"
  | .share => "share"
  | .dex => "dex"
  | .helio => "helio"
  | .lp => "lp"
  | .trade => "trade"

def ofName? (text : String) : Option FeeKind := all.find? (·.name == text)

end FeeKind

/-- A fee as an instruction states it, in raw units of its mint. -/
structure Fee where
  kind : FeeKind
  mint : Pubkey
  raw : Nat
  recipient : Option Pubkey := none
  deriving DecidableEq, Inhabited

/-- Where an event was found: transaction, slot, block time and instruction position. -/
structure Stamp where
  signature : Signature := Signature.zero
  slot : Nat := 0
  blockTime : Int := 0
  position : Position := ⟨0, none⟩
  deriving DecidableEq, Inhabited

structure Event where
  stamp : Stamp := {}
  protocol : Protocol := .pumpfun
  kind : EventKind := .create
  program : Pubkey := Pubkey.zero
  baseMint : Option Pubkey := none
  quoteMint : Option Pubkey := none
  user : Option Pubkey := none
  pool : Option Pubkey := none
  bondingCurve : Option Pubkey := none
  input : Option TokenAmount := none
  output : Option TokenAmount := none
  fees : List Fee := []
  creator : Option Pubkey := none
  name : Option String := none
  symbol : Option String := none
  uri : Option String := none
  deriving Inhabited

inductive TradeSide where
  | buy | sell
  deriving DecidableEq, Repr, Inhabited

def TradeSide.name : TradeSide → String
  | .buy => "BUY"
  | .sell => "SELL"

/-- A fee with its UI value. -/
structure SettledFee where
  kind : FeeKind
  mint : Pubkey
  raw : Nat
  ui : Binary64
  decimals : Nat
  recipient : Option Pubkey
  deriving DecidableEq, Inhabited

/-- The program, market and route a trade is reported under, each where the caller knows it. -/
structure Venue where
  program : Option Pubkey := none
  amm : Option String := none
  route : Option String := none
  deriving DecidableEq, Inhabited

structure Trade where
  stamp : Stamp
  side : TradeSide
  protocol : Protocol
  pools : List Pubkey
  input : TokenInfo
  output : TokenInfo
  fee : Option TokenInfo
  fees : List SettledFee
  user : Pubkey
  program : Pubkey
  amm : String
  route : String
  deriving Inhabited

end MemeEvents
