import MemeEvents.Protocol.Table
import MemeEvents.Proofs.Decode.Outcomes

/-! Where a decoded event says it comes from. -/

namespace MemeEvents

/-- Every value that `read` returns, from any cursor, has `property`. -/
def Read.Yields {α : Type} (read : Read α) (property : α → Prop) : Prop :=
  ∀ cursor value next, read cursor = .ok value next → property value

namespace Read.Yields

variable {α β : Type} {property : β → Prop}

theorem pure {value : β} (holds : property value) : (Pure.pure value : Read β).Yields property := by
  intro cursor result next returned
  cases returned
  exact holds

theorem bind {read : Read α} {continuation : α → Read β}
    (continues : ∀ value, (continuation value).Yields property) :
    (read >>= continuation).Yields property := by
  intro cursor result after returned
  change EStateM.bind read continuation cursor = _ at returned
  unfold EStateM.bind at returned
  split at returned
  · exact continues _ _ _ _ returned
  · cases returned

theorem throw {fault : DecodeError} : (MonadExcept.throw fault : Read β).Yields property := by
  intro cursor result after returned
  cases returned

theorem run {read : Read β} {bytes : List UInt8} {value : β} (yields : read.Yields property)
    (ran : Cursor.run read bytes = .ok value) : property value := by
  unfold Cursor.run at ran
  split at ran
  · cases ran
    exact yields _ _ _ ‹_›
  · cases ran

end Read.Yields

def Route.Faithful (route : Route) : Prop :=
  ∀ context, (route.decode context).Yields fun found =>
    ∀ event ∈ found, event.protocol = context.protocol ∧ event.program = context.program

theorem Route.silent_faithful (name : String) (prefixes : List (List UInt8)) :
    (Route.silent name prefixes).Faithful :=
  fun _ => Read.Yields.pure (by simp)

namespace Pumpfun

theorem routes_faithful : ∀ route ∈ routes, route.Faithful := by
  simp only [routes, List.mem_cons, List.not_mem_nil, or_false]
  rintro route (rfl | rfl | rfl | rfl) <;> intro context
  · simp only [decodeTrade]
    repeat refine Read.Yields.bind fun _ => ?_
    exact Read.Yields.pure (by simp [Context.event])
  · simp only [decodeCreate]
    repeat refine Read.Yields.bind fun _ => ?_
    -- the creator is read when 32 bytes are left, else it is the user
    split
    all_goals
      repeat refine Read.Yields.bind fun _ => ?_
      exact Read.Yields.pure (by simp [Context.event])
  · simp only [decodeComplete]
    repeat refine Read.Yields.bind fun _ => ?_
    exact Read.Yields.pure (by simp [Context.event])
  · simp only [decodeMigrate]
    repeat refine Read.Yields.bind fun _ => ?_
    exact Read.Yields.pure (by simp [Context.event])

end Pumpfun

namespace Boopfun

theorem routes_faithful : ∀ route ∈ routes, route.Faithful := by
  simp only [routes, List.mem_cons, List.not_mem_nil, or_false]
  rintro route (rfl | rfl | rfl | rfl) <;> intro context
  · simp only [decodeCreate]
    repeat refine Read.Yields.bind fun _ => ?_
    exact Read.Yields.pure (by simp [Context.event])
  · simp only [decodeBuy]
    repeat refine Read.Yields.bind fun _ => ?_
    exact Read.Yields.pure (by simp [Context.event])
  · simp only [decodeSell]
    repeat refine Read.Yields.bind fun _ => ?_
    exact Read.Yields.pure (by simp [Context.event])
  · simp only [decodeGraduate]
    repeat refine Read.Yields.bind fun _ => ?_
    -- without SOL movements the graduation fails before the rest of the block
    split
    all_goals
      repeat refine Read.Yields.bind fun _ => ?_
      exact Read.Yields.pure (by simp [Context.event])

end Boopfun

namespace MeteoraDbc

theorem routes_faithful : ∀ route ∈ routes, route.Faithful := by
  simp only [routes, List.mem_cons, List.not_mem_nil, or_false]
  rintro route (rfl | rfl | rfl | rfl) <;> intro context
  · simp only [decodeSwap]
    repeat refine Read.Yields.bind fun _ => ?_
    -- a swap between one mint fails; both branches continue into the same event
    split
    all_goals
      repeat refine Read.Yields.bind fun _ => ?_
      exact Read.Yields.pure (by simp [Context.event])
  · simp only [decodeInitialize]
    repeat refine Read.Yields.bind fun _ => ?_
    exact Read.Yields.pure (by simp [Context.event])
  all_goals
    simp only [migration]
    repeat refine Read.Yields.bind fun _ => ?_
    exact Read.Yields.pure (by simp [Context.event])

end MeteoraDbc

namespace MeteoraPools

theorem routes_faithful : ∀ route ∈ routes, route.Faithful := by
  simp only [routes, List.mem_cons, List.not_mem_nil, or_false]
  rintro route (rfl | rfl | rfl)
  · exact Route.silent_faithful _ _
  · exact Route.silent_faithful _ _
  · intro context
    simp only [decodeSwap]
    -- fewer than two movements, or no movement of a second mint, give no event
    split
    · exact Read.Yields.pure (by simp)
    · refine Read.Yields.bind fun _ => ?_
      split
      · exact Read.Yields.pure (by simp)
      · refine Read.Yields.bind fun _ => ?_
        exact Read.Yields.pure (by simp [Context.event])

end MeteoraPools

namespace Moonit

theorem routes_faithful : ∀ route ∈ routes, route.Faithful := by
  simp only [routes, List.mem_cons, List.not_mem_nil, or_false]
  rintro route (rfl | rfl | rfl | rfl) <;> intro context
  · simp only [decodeBuy]
    repeat refine Read.Yields.bind fun _ => ?_
    exact Read.Yields.pure (by simp [Context.event])
  · simp only [decodeSell]
    repeat refine Read.Yields.bind fun _ => ?_
    exact Read.Yields.pure (by simp [Context.event])
  · simp only [decodeCreate]
    repeat refine Read.Yields.bind fun _ => ?_
    exact Read.Yields.pure (by simp [Context.event])
  · simp only [decodeMigrate]
    repeat refine Read.Yields.bind fun _ => ?_
    exact Read.Yields.pure (by simp [Context.event])

end Moonit

namespace RaydiumLaunchpad

theorem routes_faithful : ∀ route ∈ routes, route.Faithful := by
  simp only [routes, List.mem_cons, List.not_mem_nil, or_false]
  rintro route (rfl | rfl | rfl | rfl) <;> intro context
  · simp only [decodeTrade]
    repeat refine Read.Yields.bind fun _ => ?_
    -- the trade event logged after the instruction, when there is one
    split
    · repeat refine Read.Yields.bind fun _ => ?_
      exact Read.Yields.pure (by simp [Context.event])
    · exact Read.Yields.throw
  · simp only [decodeInitialize]
    repeat refine Read.Yields.bind fun _ => ?_
    exact Read.Yields.pure (by simp [Context.event])
  all_goals
    simp only [migration]
    repeat refine Read.Yields.bind fun _ => ?_
    exact Read.Yields.pure (by simp [Context.event])

end RaydiumLaunchpad

namespace Sugar

theorem routes_faithful : ∀ route ∈ routes, route.Faithful := by
  simp only [routes, List.mem_cons, List.not_mem_nil, or_false]
  rintro route (rfl | rfl | rfl | rfl) <;> intro context
  · simp only [decodeBuy]
    repeat refine Read.Yields.bind fun _ => ?_
    exact Read.Yields.pure (by simp [Context.event])
  · simp only [decodeSell]
    repeat refine Read.Yields.bind fun _ => ?_
    exact Read.Yields.pure (by simp [Context.event])
  · simp only [decodeCreate]
    repeat refine Read.Yields.bind fun _ => ?_
    exact Read.Yields.pure (by simp [Context.event])
  · simp only [decodeMigrate]
    repeat refine Read.Yields.bind fun _ => ?_
    exact Read.Yields.pure (by simp [Context.event])

end Sugar

namespace Protocol

theorem routes_faithful (protocol : Protocol) : ∀ route ∈ protocol.routes, route.Faithful := by
  cases protocol with
  | pumpfun => exact Pumpfun.routes_faithful
  | boopfun => exact Boopfun.routes_faithful
  | meteoraDbc => exact MeteoraDbc.routes_faithful
  | meteoraDlmm | meteoraDamm | meteoraDammV2 => exact MeteoraPools.routes_faithful
  | moonit => exact Moonit.routes_faithful
  | raydiumLaunchpad => exact RaydiumLaunchpad.routes_faithful
  | sugar => exact Sugar.routes_faithful

theorem select?_skip {protocol : Protocol} {data : List UInt8} {route : Route}
    {skip : Nat} (selected : protocol.select? data = some (route, skip)) :
    skip ≤ data.length ∧ data.take skip ∈ route.prefixes := by
  obtain ⟨candidate, -, matched⟩ := List.exists_of_findSome?_eq_some selected
  obtain ⟨length, matchedLength, equal⟩ := Option.map_eq_some_iff.mp matched
  cases equal
  obtain ⟨discriminator, found, rfl⟩ := Option.map_eq_some_iff.mp matchedLength
  have matchedPrefix := List.find?_some found
  have opens : discriminator <+: data := List.isPrefixOf_iff_prefix.mp matchedPrefix
  refine ⟨opens.length_le, ?_⟩
  rw [← List.prefix_iff_eq_take.mp opens]
  exact List.mem_of_find?_eq_some found

theorem suffix_of_select {protocol : Protocol} {data : List UInt8} {route : Route} {skip : Nat}
    (selected : protocol.select? data = some (route, skip)) :
    Unchecked.suffix data skip = .ok (data.drop skip) :=
  Unchecked.suffix_of_le (select?_skip selected).1

theorem mem_routes_of_select {protocol : Protocol} {data : List UInt8} {route : Route}
    {skip : Nat} (selected : protocol.select? data = some (route, skip)) :
    route ∈ protocol.routes := by
  obtain ⟨candidate, member, matched⟩ := List.exists_of_findSome?_eq_some selected
  obtain ⟨length, -, equal⟩ := Option.map_eq_some_iff.mp matched
  cases equal
  exact member

theorem decode_of_run_error {protocol : Protocol} {context : Context} {route : Route} {skip : Nat}
    {fault : DecodeError} (selected : protocol.select? context.located.data = some (route, skip))
    (failed : Cursor.run (route.decode context) (context.located.data.drop skip) = .error fault) :
    protocol.decode context = .error fault := by
  unfold decode
  rw [selected]
  dsimp only
  rw [suffix_of_select selected, Except.ok_bind, failed]

theorem decode_of_run_some {protocol : Protocol} {context : Context} {route : Route} {skip : Nat}
    {event : Event} (selected : protocol.select? context.located.data = some (route, skip))
    (ran : Cursor.run (route.decode context) (context.located.data.drop skip) = .ok (some event)) :
    protocol.decode context = .ok (some { event with stamp :=
      ⟨context.view.signature, context.view.slot, context.view.blockTime, context.position⟩ }) := by
  unfold decode
  rw [selected]
  dsimp only
  rw [suffix_of_select selected, Except.ok_bind, ran]

theorem decode_origin {protocol : Protocol} {context : Context} {event : Event}
    (decoded : protocol.decode context = .ok (some event)) :
    event.protocol = context.protocol ∧ event.program = context.program ∧
      event.stamp =
        ⟨context.view.signature, context.view.slot, context.view.blockTime, context.position⟩ := by
  unfold decode at decoded
  split at decoded
  · cases decoded
  · rename_i route skip selected
    rw [suffix_of_select selected, Except.ok_bind] at decoded
    split at decoded
    · cases decoded
    · cases decoded
    · rename_i found ran
      cases decoded
      have origin :=
        (protocol.routes_faithful route (mem_routes_of_select selected) context).run ran found rfl
      exact ⟨origin.1, origin.2, rfl⟩

end Protocol

end MemeEvents
