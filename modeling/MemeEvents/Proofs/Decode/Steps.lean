import MemeEvents.Proofs.Decode.Origin

/-! How an instruction reaches its decoder, and the steps of decoders that read their context. -/

namespace MemeEvents

namespace Cursor

variable {α : Type}

@[simp] theorem run_pure (value : α) (bytes : List UInt8) :
    run (pure value : Read α) bytes = .ok value := rfl

@[simp] theorem run_throw (fault : DecodeError) (bytes : List UInt8) :
    run (throw fault : Read α) bytes = .error fault := rfl

end Cursor

namespace Read

variable {α β : Type}

@[simp] theorem liftM_ok_bind (value : α) (rest : α → Read β) :
    (liftM (Except.ok value : Except DecodeError α) >>= rest) = rest value := rfl

@[simp] theorem liftM_error_bind (fault : DecodeError) (rest : α → Read β) :
    (liftM (Except.error fault : Except DecodeError α) >>= rest) = throw fault := rfl

end Read

@[simp] theorem TransferRecord.tokenAmount_mint (record : TransferRecord) :
    record.tokenAmount.mint = record.mint := rfl

theorem pickRecord_of_lt {records : List TransferRecord} {fallback : Nat}
    (inside : fallback < records.length) (predicate : TransferRecord → Bool) :
    pickRecord records fallback predicate = .ok ((records.find? predicate).getD records[fallback]) := by
  unfold pickRecord
  cases records.find? predicate with
  | some record => rfl
  | none => exact Unchecked.get_of_lt inside

namespace Context

variable {context : Context} {index count : Nat}

theorem account_of_lt (listed : index < context.accounts.length) :
    context.account index = .ok (context.accounts.getD index default) := by
  rw [account_eq_ok_iff, List.getD_eq_getElem?_getD, List.getElem?_eq_getElem listed]
  rfl

theorem account_of_le (unlisted : context.accounts.length ≤ index) :
    context.account index = .error (.missingAccount index context.accounts.length) := by
  unfold account
  rw [List.getElem?_eq_none unlisted]

theorem requireRecords_of_le (enough : count ≤ context.records.length) :
    context.requireRecords count = .ok context.records := by
  unfold requireRecords
  rw [if_neg (Nat.not_lt.mpr enough)]

theorem requireRecords_of_lt (short : context.records.length < count) :
    context.requireRecords count = .error (.missingTransfer count context.records.length) := by
  unfold requireRecords
  rw [if_pos short]

end Context

namespace Route

theorem matchLength?_eq_none_iff (route : Route) (data : List UInt8) :
    route.matchLength? data = none ↔ ∀ opening ∈ route.prefixes, ¬ opening <+: data := by
  simp [matchLength?, List.find?_eq_none, List.isPrefixOf_iff_prefix]

theorem matchLength?_of_prefix {route : Route} {length : Nat}
    (sized : ∀ opening ∈ route.prefixes, opening.length = length) {data : List UInt8}
    {opening : List UInt8} (member : opening ∈ route.prefixes) (opens : opening <+: data) :
    route.matchLength? data = some length := by
  have found : (route.prefixes.find? (·.isPrefixOf data)).isSome :=
    List.find?_isSome.mpr ⟨opening, member, List.isPrefixOf_iff_prefix.mpr opens⟩
  obtain ⟨first, hit⟩ := Option.isSome_iff_exists.mp found
  unfold matchLength?
  rw [hit, Option.map_some, sized first (List.mem_of_find?_eq_some hit)]

end Route

namespace Protocol

theorem select?_eq_of_first {protocol : Protocol} (before : List Route) {route : Route}
    {after : List Route} (table : protocol.routes = before ++ route :: after) {data : List UInt8}
    {skip : Nat} (unmatched : ∀ earlier ∈ before, earlier.matchLength? data = none)
    (matched : route.matchLength? data = some skip) :
    protocol.select? data = some (route, skip) := by
  have passed : before.findSome? (fun route => (route.matchLength? data).map (route, ·)) = none := by
    rw [List.findSome?_eq_none_iff]
    intro earlier member
    rw [unmatched earlier member, Option.map_none]
  unfold select?
  rw [table, List.findSome?_append, passed, Option.none_or, List.findSome?_cons, matched]
  rfl

theorem decode_of_run_none {protocol : Protocol} {context : Context} {route : Route} {skip : Nat}
    (selected : protocol.select? context.located.data = some (route, skip))
    (ran : Cursor.run (route.decode context) (context.located.data.drop skip) = .ok none) :
    protocol.decode context = .ok none := by
  unfold decode
  rw [selected]
  dsimp only
  rw [suffix_of_select selected, Except.ok_bind, ran]

/-! A decoder that decides without reading a byte gives the decoding its answer directly. -/

theorem decode_of_throw {protocol : Protocol} {context : Context} {route : Route} {skip : Nat}
    {fault : DecodeError} (selected : protocol.select? context.located.data = some (route, skip))
    (throws : route.decode context = throw fault) : protocol.decode context = .error fault :=
  decode_of_run_error selected (by rw [throws, Cursor.run_throw])

theorem decode_of_pure_none {protocol : Protocol} {context : Context} {route : Route} {skip : Nat}
    (selected : protocol.select? context.located.data = some (route, skip))
    (returns : route.decode context = pure none) : protocol.decode context = .ok none :=
  decode_of_run_none selected (by rw [returns, Cursor.run_pure])

theorem decode_of_pure {protocol : Protocol} {context : Context} {route : Route} {skip : Nat}
    {event : Event} (selected : protocol.select? context.located.data = some (route, skip))
    (returns : route.decode context = pure (some event)) :
    protocol.decode context = .ok (some { event with stamp :=
      ⟨context.view.signature, context.view.slot, context.view.blockTime, context.position⟩ }) :=
  decode_of_run_some selected (by rw [returns, Cursor.run_pure])

theorem decode_of_silent {protocol : Protocol} {context : Context} {name : String}
    {prefixes : List (List UInt8)} {skip : Nat}
    (selected : protocol.select? context.located.data = some (Route.silent name prefixes, skip)) :
    protocol.decode context = .ok none :=
  decode_of_run_none selected rfl

end Protocol

end MemeEvents
