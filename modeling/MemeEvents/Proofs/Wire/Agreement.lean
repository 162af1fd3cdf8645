import MemeEvents.Wire.Rpc
import MemeEvents.Proofs.Wire.Signed
import MemeEvents.Proofs.Wire.Resolution

/-! A node's answer read as the compiled transaction and the status it stands for. -/

namespace MemeEvents

/-! ### What a node's answer stands for -/

namespace Rpc

end Rpc

def FailsAsConversion {α : Type} (step : Except ParseError α) : Prop :=
  ∀ fault, step = .error fault → ∃ detail, fault = .conversion detail

namespace FailsAsConversion

variable {α β : Type}

theorem ok (value : α) : FailsAsConversion (.ok value) := nofun

theorem conversion (detail : String) : FailsAsConversion (.error (.conversion detail) : Except _ α) :=
  fun _ failed => ⟨detail, (Except.error.inj failed).symm⟩

theorem bind {first : Except ParseError α} {rest : α → Except ParseError β}
    (firstFails : FailsAsConversion first) (restFails : ∀ value, FailsAsConversion (rest value)) :
    FailsAsConversion (first >>= rest) := fun fault failed => by
  rcases Except.bind_eq_error failed with early | ⟨value, _, late⟩
  · exact firstFails fault early
  · exact restFails value fault late

theorem mapM {f : α → Except ParseError β} {items : List α}
    (each : ∀ item ∈ items, FailsAsConversion (f item)) : FailsAsConversion (items.mapM f) := by
  induction items with
  | nil => exact ok []
  | cons item rest ih =>
    rw [List.mapM_cons]
    exact (each item List.mem_cons_self).bind fun _ =>
      (ih fun other member => each other (List.mem_cons_of_mem item member)).bind fun _ => ok _

theorem filterMapM {f : α → Except ParseError (Option β)} {items : List α}
    (each : ∀ item ∈ items, FailsAsConversion (f item)) :
    FailsAsConversion (items.filterMapM f) := by
  induction items with
  | nil => exact ok []
  | cons item rest ih =>
    have later := ih fun other member => each other (List.mem_cons_of_mem item member)
    rw [List.filterMapM_cons]
    refine (each item List.mem_cons_self).bind fun kept => ?_
    cases kept with
    | none => exact later
    | some value => exact later.bind fun _ => ok _

end FailsAsConversion

/-! ### Reading an answer that stands for a compiled transaction -/

namespace Rpc

end Rpc

namespace RpcTransaction

variable {rpc : RpcTransaction} {reported : RpcStatus} {status : StatusMeta}

end RpcTransaction

end MemeEvents
