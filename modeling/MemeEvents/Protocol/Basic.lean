import MemeEvents.Chain.Programs

/-!
The launch and trading programs whose instructions become events. Each protocol is known by one
program address, except that the three Meteora pool programs share one set of routes.
-/

namespace MemeEvents

inductive Protocol where
  | pumpfun
  | boopfun
  | meteoraDbc
  | meteoraDlmm
  | meteoraDamm
  | meteoraDammV2
  | moonit
  | raydiumLaunchpad
  | sugar
  deriving DecidableEq, Repr, Inhabited

namespace Protocol

def all : List Protocol :=
  [.pumpfun, .boopfun, .meteoraDbc, .meteoraDlmm, .meteoraDamm, .meteoraDammV2, .moonit,
    .raydiumLaunchpad, .sugar]

/-- The name under which a protocol is reported. -/
def name : Protocol → String
  | .pumpfun => "Pumpfun"
  | .boopfun => "Boopfun"
  | .meteoraDbc => "MeteoraDBC"
  | .meteoraDlmm => "MeteoraDLMM"
  | .meteoraDamm => "MeteoraDAMM"
  | .meteoraDammV2 => "MeteoraDAMMv2"
  | .moonit => "Moonit"
  | .raydiumLaunchpad => "RaydiumLaunchpad"
  | .sugar => "Sugar"

instance : ToString Protocol := ⟨name⟩

def ofName? (text : String) : Option Protocol := all.find? (·.name == text)

def program : Protocol → Pubkey
  | .pumpfun => Programs.pumpfun
  | .boopfun => Programs.boopfun
  | .meteoraDbc => Programs.meteoraDbc
  | .meteoraDlmm => Programs.meteoraDlmm
  | .meteoraDamm => Programs.meteoraDamm
  | .meteoraDammV2 => Programs.meteoraDammV2
  | .moonit => Programs.moonit
  | .raydiumLaunchpad => Programs.raydiumLaunchpad
  | .sugar => Programs.sugar

def ofProgram? (key : Pubkey) : Option Protocol := all.find? (·.program == key)

theorem mem_all (protocol : Protocol) : protocol ∈ all := by
  cases protocol <;> simp [all]

theorem ofName?_name (protocol : Protocol) : ofName? protocol.name = some protocol := by
  cases protocol <;> rfl

end Protocol

end MemeEvents
