import MemeEvents.Proofs.Decode.Origin
import MemeEvents.Proofs.Transfer.Scope

/-! Decoding an instruction never depends on another outer instruction. -/

namespace MemeEvents

/-- The route decodes two agreeing contexts to the same result, event or error. -/
def Route.Local (route : Route) : Prop :=
  ∀ left right : Context, left.Agree right → route.decode left = route.decode right

theorem Route.silent_local (name : String) (prefixes : List (List UInt8)) :
    (Route.silent name prefixes).Local :=
  fun _ _ _ => rfl

/-! The helpers that decoders share read the context through agreeing look-ups too. -/

section Helpers

variable {left right : Context} (same : left.Agree right)
include same

theorem Pumpfun.enclosingCurve_agree : Pumpfun.enclosingCurve left = Pumpfun.enclosingCurve right := by
  unfold Pumpfun.enclosingCurve
  rw [same.parentOf]

theorem MeteoraDbc.inputIsBase_agree (inputAccount outputAccount baseMint : Pubkey) :
    MeteoraDbc.inputIsBase left inputAccount outputAccount baseMint =
      MeteoraDbc.inputIsBase right inputAccount outputAccount baseMint := by
  unfold MeteoraDbc.inputIsBase
  rw [same.view.tokenAccountInfo, same.view.tokenAccountInfo, same.signer]

theorem Moonit.lamportDelta_agree (account : Pubkey) (flow : Moonit.Flow) :
    Moonit.lamportDelta left account flow = Moonit.lamportDelta right account flow := by
  unfold Moonit.lamportDelta
  rw [same.view.balanceChange]

theorem Moonit.settle_agree (isBuy : Bool) : Moonit.settle left isBuy = Moonit.settle right isBuy := by
  simp only [Moonit.settle, same.account, same.view.tokenBalanceChange, same.view.tokenAccountInfo,
    same.view.mintDecimals, Moonit.lamportDelta_agree same]

theorem Moonit.fees_agree (settlement : Moonit.Settlement) :
    Moonit.fees left settlement = Moonit.fees right settlement := by
  simp only [Moonit.fees, same.account]

end Helpers

/-! Each decoder reads its context through `Context.Agree`'s look-ups only. -/

namespace Pumpfun

theorem routes_local : ∀ route ∈ routes, route.Local := by
  intro route member left right same
  simp only [routes, List.mem_cons, List.not_mem_nil, or_false] at member
  rcases member with rfl | rfl | rfl | rfl
  · simp only [decodeTrade, same.event, enclosingCurve_agree same]
  · simp only [decodeCreate, same.event]
  · simp only [decodeComplete, same.event]
  · simp only [decodeMigrate, same.event]

end Pumpfun

namespace Boopfun

theorem routes_local : ∀ route ∈ routes, route.Local := by
  intro route member left right same
  simp only [routes, List.mem_cons, List.not_mem_nil, or_false] at member
  rcases member with rfl | rfl | rfl | rfl
  · -- the curve is searched for under the instruction's own outer instruction
    simp only [decodeCreate, same.event, same.account, same.findByPrefix]
  · simp only [decodeBuy, same.event, same.account, same.requireRecords]
  · simp only [decodeSell, same.event, same.account, same.requireRecords]
  · simp only [decodeGraduate, same.event, same.account, same.records]

end Boopfun

namespace MeteoraDbc

theorem routes_local : ∀ route ∈ routes, route.Local := by
  intro route member left right same
  simp only [routes, List.mem_cons, List.not_mem_nil, or_false] at member
  rcases member with rfl | rfl | rfl | rfl
  · simp only [decodeSwap, same.event, same.account, same.requireRecords, inputIsBase_agree same]
  · simp only [decodeInitialize, same.event, same.account]
  · simp only [migration, same.event, same.account, same.signer]
  · simp only [migration, same.event, same.account, same.signer]

end MeteoraDbc

namespace MeteoraPools

theorem routes_local : ∀ route ∈ routes, route.Local := by
  intro route member left right same
  simp only [routes, List.mem_cons, List.not_mem_nil, or_false] at member
  rcases member with rfl | rfl | rfl
  · exact Route.silent_local _ _ left right same
  · exact Route.silent_local _ _ left right same
  · simp only [decodeSwap, same.event, same.account, same.records, same.signer, same.protocol]

end MeteoraPools

namespace Moonit

theorem routes_local : ∀ route ∈ routes, route.Local := by
  intro route member left right same
  simp only [routes, List.mem_cons, List.not_mem_nil, or_false] at member
  rcases member with rfl | rfl | rfl | rfl
  · simp only [decodeBuy, same.event, same.account, settle_agree same, fees_agree same]
  · simp only [decodeSell, same.event, same.account, settle_agree same, fees_agree same]
  · simp only [decodeCreate, same.event, same.account]
  · simp only [decodeMigrate, same.event, same.account, same.signer]

end Moonit

namespace RaydiumLaunchpad

theorem routes_local : ∀ route ∈ routes, route.Local := by
  intro route member left right same
  simp only [routes, List.mem_cons, List.not_mem_nil, or_false] at member
  rcases member with rfl | rfl | rfl | rfl
  · -- the trade log is searched for among the following inner instructions
    simp only [decodeTrade, same.event, same.account, same.findInnerAfter]
  · simp only [decodeInitialize, same.event, same.account]
  · simp only [migration, same.event, same.account]
  · simp only [migration, same.event, same.account]

end RaydiumLaunchpad

namespace Sugar

theorem routes_local : ∀ route ∈ routes, route.Local := by
  intro route member left right same
  simp only [routes, List.mem_cons, List.not_mem_nil, or_false] at member
  rcases member with rfl | rfl | rfl | rfl
  · simp only [decodeBuy, same.event, same.account]
  · simp only [decodeSell, same.event, same.account]
  · simp only [decodeCreate, same.event, same.account]
  · simp only [decodeMigrate, same.event, same.account]

end Sugar

namespace Protocol

theorem routes_local (protocol : Protocol) : ∀ route ∈ protocol.routes, route.Local := by
  cases protocol with
  | pumpfun => exact Pumpfun.routes_local
  | boopfun => exact Boopfun.routes_local
  | meteoraDbc => exact MeteoraDbc.routes_local
  | meteoraDlmm | meteoraDamm | meteoraDammV2 => exact MeteoraPools.routes_local
  | moonit => exact Moonit.routes_local
  | raydiumLaunchpad => exact RaydiumLaunchpad.routes_local
  | sugar => exact Sugar.routes_local

theorem decode_agree (protocol : Protocol) {left right : Context} (same : left.Agree right) :
    protocol.decode left = protocol.decode right := by
  have data : left.located.data = right.located.data := by rw [same.located]
  have stamped : left.view.signature = right.view.signature ∧ left.view.slot = right.view.slot ∧
      left.view.blockTime = right.view.blockTime ∧ left.position = right.position := by
    unfold View.signature View.slot View.blockTime Context.position
    rw [same.view.signature, same.view.slot, same.view.blockTime, same.located]
    exact ⟨rfl, rfl, rfl, rfl⟩
  unfold decode
  rw [data]
  cases selected : protocol.select? right.located.data with
  | none => rfl
  | some found =>
    rcases found with ⟨route, skip⟩
    have decodes := protocol.routes_local route (mem_routes_of_select selected) left right same
    simp only [decodes, stamped.1, stamped.2.1, stamped.2.2.1, stamped.2.2.2]

end Protocol

/-- Decoding an instruction reads nothing outside its own outer instruction. Take two
transactions that agree on their signature, slot, block time, signers, account keys, lamport
and token balances and decimals snapshot, and on the outer instruction at `outer` with its
inner instructions. Correlation then gives every key under `outer` the same group in both, and
every instruction under `outer` decodes to the same result, event or error, in both. -/
theorem decode_local_to_outer (c : Correlator) {left right : View} {outer : Nat}
    (agree : left.AgreeUnder right outer) :
    (∀ program position, position.outer = outer →
      (c.correlate left).get program position = (c.correlate right).get program position) ∧
    ∀ (protocol : Protocol) (located : Located), located.position.outer = outer →
      protocol.decode ⟨protocol, located, left, c.correlate left⟩ =
        protocol.decode ⟨protocol, located, right, c.correlate right⟩ := by
  have grouped : ∀ program position, position.outer = outer →
      (c.correlate left).get program position = (c.correlate right).get program position := by
    intro program position under
    exact c.get_correlate_agree agree program under
  refine ⟨grouped, ?_⟩
  intro protocol located under
  apply Protocol.decode_agree
  subst under
  exact ⟨rfl, rfl, agree, grouped⟩

/-- A transaction agrees, under its first outer instruction, with the same transaction less a
later Boop curve deployment and its inner instructions; the first instruction, a Boop token
creation, therefore decodes alike in both. -/
theorem decode_local_to_outer_of_later_deployment :
    let create : Instruction := ⟨Programs.boopfun, List.replicate 4 Pubkey.zero, Boopfun.createToken⟩
    let deploy : Instruction :=
      ⟨Programs.boopfun, List.replicate 3 Pubkey.zero, Boopfun.deployBondingCurve⟩
    let left : View :=
      ⟨{ instructions := [create, deploy], innerSets := [⟨1, [create]⟩] }, {}⟩
    let right : View := ⟨{ instructions := [create] }, {}⟩
    left.AgreeUnder right 0 ∧
      (∀ program position, position.outer = 0 →
        (({} : Correlator).correlate left).get program position =
          (({} : Correlator).correlate right).get program position) ∧
      ∀ (protocol : Protocol) (located : Located), located.position.outer = 0 →
        protocol.decode ⟨protocol, located, left, ({} : Correlator).correlate left⟩ =
          protocol.decode ⟨protocol, located, right, ({} : Correlator).correlate right⟩ := by
  intro create deploy left right
  -- the two transactions differ only after the first outer instruction
  have agree : left.AgreeUnder right 0 :=
    ⟨rfl, rfl, rfl, rfl, rfl, rfl, rfl, rfl, rfl, rfl, rfl, rfl⟩
  exact ⟨agree, decode_local_to_outer {} agree⟩

end MemeEvents
