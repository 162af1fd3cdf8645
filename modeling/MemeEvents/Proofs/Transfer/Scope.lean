import MemeEvents.Proofs.Transfer.Grouping
import MemeEvents.Proofs.Decode.Scope

/-! Correlation keeps the movements of each outer instruction to itself. -/

namespace MemeEvents

namespace Correlator

variable (c : Correlator)

theorem outer_of_mem_chargesUnder {view : View} {top : Instruction} {outer : Nat}
    {charge : TransferKey × TransferRecord} (member : charge ∈ c.chargesUnder view top outer) :
    charge.1.position.outer = outer := by
  rcases List.mem_append.mp member with own | inner
  · -- the outer instruction's own movement
    cases found : c.record? view top ⟨outer, none⟩ with
    | none => simp [found] at own
    | some record =>
      simp only [found, Option.map_some, Option.toList_some, List.mem_singleton] at own
      rw [own]
  · rcases List.mem_filterMap.mp inner with ⟨entry, _, charged⟩
    unfold innerCharge at charged
    split at charged
    · rcases Option.map_eq_some_iff.mp charged with ⟨record, _, built⟩
      rw [← built]
      exact chargedTo_outer view top outer entry.2
    · cases charged

theorem charges_filter_key (view : View) (key : TransferKey) :
    (c.charges view).filter (·.1 == key) =
      (view.instructions[key.position.outer]?).toList.flatMap fun top =>
        (c.chargesUnder view top key.position.outer).filter (·.1 == key) := by
  have only : ∀ top i, ∀ charge ∈ c.chargesUnder view top i, (charge.1 == key) = true →
      i = key.position.outer := by
    intro top i charge member keyed
    rw [← c.outer_of_mem_chargesUnder member, eq_of_beq keyed]
  exact filter_flatMap_zipIdx view.instructions (c.chargesUnder view) (·.1 == key)
    key.position.outer only

section Agree

variable {left right : View} {outer : Nat} (agree : left.AgreeUnder right outer)
include agree

/-! Decoding a movement reads the token balances and decimals of the whole transaction only. -/

theorem tokenRecord?_agree (ix : Instruction) (position : Position) :
    c.tokenRecord? left ix position = c.tokenRecord? right ix position := by
  have info : left.tokenAccountInfo = right.tokenAccountInfo := funext agree.tokenAccountInfo
  have decimals : left.mintDecimals = right.mintDecimals := funext agree.mintDecimals
  unfold tokenRecord? TokenMove.record?
  rw [info, decimals]

theorem record?_agree (ix : Instruction) (position : Position) :
    c.record? left ix position = c.record? right ix position := by
  unfold record?
  rw [c.tokenRecord?_agree agree]

/-! The movements under the agreed outer instruction, with their keys. -/

theorem chargedTo_agree (top : Instruction) (i : Nat) :
    chargedTo left top outer i = chargedTo right top outer i := by
  unfold chargedTo
  rw [agree.inner]

theorem chargesUnder_agree (top : Instruction) :
    c.chargesUnder left top outer = c.chargesUnder right top outer := by
  have inner : c.innerCharge left top outer = c.innerCharge right top outer := by
    funext entry
    unfold innerCharge
    rw [c.record?_agree agree, chargedTo_agree agree]
  unfold chargesUnder
  rw [c.record?_agree agree, agree.inner, inner]

theorem get_correlate_agree (program : Pubkey) {position : Position}
    (under : position.outer = outer) :
    (c.correlate left).get program position = (c.correlate right).get program position := by
  rw [c.get_correlate left, c.get_correlate right, c.charges_filter_key left,
    c.charges_filter_key right]
  simp only [under, agree.top, c.chargesUnder_agree agree]

end Agree

end Correlator

end MemeEvents
