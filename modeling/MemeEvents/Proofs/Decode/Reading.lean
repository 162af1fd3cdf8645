import MemeEvents.Protocol.Table

/-! Reading stays within the payload. -/

namespace MemeEvents

def Cursor.Within (cursor : Cursor) (bytes : List UInt8) : Prop :=
  cursor.position ≤ bytes.length ∧ cursor.rest = bytes.drop cursor.position

namespace Cursor

theorem ofBytes_within (bytes : List UInt8) : (ofBytes bytes).Within bytes :=
  ⟨Nat.zero_le _, List.drop_zero.symm⟩

theorem position_add_remaining {cursor : Cursor} {bytes : List UInt8}
    (within : cursor.Within bytes) : cursor.position + cursor.remaining = bytes.length := by
  unfold remaining
  rw [within.2, List.length_drop]
  have := within.1
  omega

theorem take_within {cursor next : Cursor} {bytes : List UInt8} {n : Nat}
    {slice : {slice : List UInt8 // slice.length = n}} (within : cursor.Within bytes)
    (taken : take n cursor = .ok slice next) :
    cursor.position + n ≤ bytes.length ∧ slice.val = (bytes.drop cursor.position).take n ∧
      next.Within bytes := by
  unfold take at taken
  split at taken
  · rename_i enough
    cases taken
    have counted := position_add_remaining within
    unfold remaining at counted
    refine ⟨by omega, ?_, ?_, ?_⟩
    · show cursor.rest.take n = _
      rw [within.2]
    · show cursor.position + n ≤ bytes.length
      omega
    · show cursor.rest.drop n = bytes.drop (cursor.position + n)
      rw [within.2, List.drop_drop]
  · cases taken

theorem take_error {cursor next : Cursor} {n : Nat} {fault : DecodeError}
    (failed : take n cursor = .error fault next) : next = cursor := by
  unfold take at failed
  split at failed
  · cases failed
  · cases failed
    rfl

end Cursor

/-- A read stays within its payload: started within `bytes`, it stops within `bytes`, whether it
returns or fails. -/
def Read.StaysWithin {α : Type} (read : Read α) : Prop :=
  ∀ bytes cursor, Cursor.Within cursor bytes →
    (∀ value next, read cursor = .ok value next → next.Within bytes) ∧
      (∀ fault next, read cursor = .error fault next → next.Within bytes)

namespace Read.StaysWithin

variable {α β : Type}

theorem pure {value : α} : (Pure.pure value : Read α).StaysWithin := by
  intro bytes cursor within
  refine ⟨fun _ _ returned => ?_, fun _ _ returned => (by cases returned)⟩
  cases returned
  exact within

theorem throw {fault : DecodeError} : (MonadExcept.throw fault : Read α).StaysWithin := by
  intro bytes cursor within
  refine ⟨fun _ _ returned => (by cases returned), fun _ _ returned => ?_⟩
  cases returned
  exact within

theorem lift {result : Except DecodeError α} : (monadLift result : Read α).StaysWithin := by
  cases result with
  | ok value => exact pure
  | error fault => exact throw

theorem bind {read : Read α} {continuation : α → Read β} (first : read.StaysWithin)
    (rest : ∀ value, (continuation value).StaysWithin) : (read >>= continuation).StaysWithin := by
  intro bytes cursor within
  change (∀ value next, EStateM.bind read continuation cursor = _ → _) ∧
    (∀ fault next, EStateM.bind read continuation cursor = _ → _)
  unfold EStateM.bind
  cases ran : read cursor with
  | ok value middle =>
      exact rest value bytes middle ((first bytes cursor within).1 value middle ran)
  | error fault middle =>
      refine ⟨fun _ _ returned => (by cases returned), fun _ _ returned => ?_⟩
      cases returned
      exact (first bytes cursor within).2 fault middle ran

theorem take (n : Nat) : (Cursor.take n).StaysWithin := by
  intro bytes cursor within
  refine ⟨fun _ _ taken => (Cursor.take_within within taken).2.2, fun _ _ failed => ?_⟩
  rw [Cursor.take_error failed]
  exact within

theorem left : Cursor.left.StaysWithin := by
  intro bytes cursor within
  refine ⟨fun _ _ returned => ?_, fun _ _ returned => (by cases returned)⟩
  cases returned
  exact within

end Read.StaysWithin

theorem Protocol.routes_stayWithin (protocol : Protocol) :
    ∀ route ∈ protocol.routes, ∀ context, (route.decode context).StaysWithin := by
  cases protocol <;>
    simp only [routes, Pumpfun.routes, Boopfun.routes, MeteoraDbc.routes, MeteoraPools.routes,
      Moonit.routes, RaydiumLaunchpad.routes, Sugar.routes, MeteoraPools.decodeSwap,
      Route.silent, List.forall_mem_cons, List.not_mem_nil, false_imp_iff, implies_true,
      and_true] <;>
    repeat' constructor
  -- a decoder is a chain of binds over reads, look-ups of its context, returns and failures,
  -- with branches; the atoms are matched as written, and what they are made of is unfolded
  -- only by the bind rule
  all_goals
    intro context
    repeat' (first
      | with_reducible exact Read.StaysWithin.take _
      | with_reducible exact Read.StaysWithin.left
      | with_reducible exact Read.StaysWithin.pure
      | with_reducible exact Read.StaysWithin.throw
      | with_reducible exact Read.StaysWithin.lift
      | refine Read.StaysWithin.bind ?_ fun _ => ?_
      | split
      | dsimp only)

end MemeEvents
