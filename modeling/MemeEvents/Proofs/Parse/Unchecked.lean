import MemeEvents.Proofs.Parse.Failure
import MemeEvents.Proofs.Event.Settlement
import MemeEvents.Proofs.Protocol.LaunchpadTrade
import MemeEvents.Proofs.Chain.Index
import MemeEvents.Proofs.Decode.Reading

/-!
A parse stops at no unchecked access: each index that decoding takes without a check of its own
halts past the end, and a guard placed elsewhere keeps every parse clear of it.
-/

namespace MemeEvents

def DecodeError.halts : DecodeError → Bool
  | .outOfRange .. => true
  | _ => false

/-- A decoding result that, when it fails, fails with a reported fault and not a halt. -/
def Reported {α : Type} (result : Except DecodeError α) : Prop :=
  ∀ fault, result = .error fault → fault.halts = false

def Read.NeverHalts {α : Type} (read : Read α) : Prop :=
  ∀ cursor fault next, read cursor = .error fault next → fault.halts = false

namespace Reported

variable {α β : Type}

theorem ok (value : α) : Reported (Except.ok value : Except DecodeError α) := by
  intro fault failed
  cases failed

theorem error {fault : DecodeError} (reported : fault.halts = false) :
    Reported (Except.error fault : Except DecodeError α) := by
  intro cause failed
  cases failed
  exact reported

theorem bind {first : Except DecodeError α} {rest : α → Except DecodeError β}
    (firstReported : Reported first) (restReported : ∀ value, Reported (rest value)) :
    Reported (first >>= rest) := by
  intro fault failed
  rcases Except.bind_eq_error failed with failed | ⟨value, -, failed⟩
  · exact firstReported fault failed
  · exact restReported value fault failed

theorem ite {condition : Prop} [Decidable condition] {yes no : Except DecodeError α}
    (yesReported : Reported yes) (noReported : Reported no) :
    Reported (if condition then yes else no) := by
  split
  · exact yesReported
  · exact noReported

end Reported

namespace Read.NeverHalts

variable {α β : Type}

theorem pure {value : α} : (Pure.pure value : Read α).NeverHalts := by
  intro cursor fault next failed
  cases failed

theorem throw {fault : DecodeError} (reported : fault.halts = false) :
    (MonadExcept.throw fault : Read α).NeverHalts := by
  intro cursor cause next failed
  cases failed
  exact reported

theorem lift {result : Except DecodeError α} (reported : Reported result) :
    (liftM result : Read α).NeverHalts := by
  cases result with
  | ok value => exact pure
  | error fault => exact throw (reported fault rfl)

theorem bind {read : Read α} {continuation : α → Read β} (first : read.NeverHalts)
    (rest : ∀ value, (continuation value).NeverHalts) : (read >>= continuation).NeverHalts := by
  intro cursor fault next failed
  change EStateM.bind read continuation cursor = _ at failed
  unfold EStateM.bind at failed
  cases ran : read cursor with
  | ok value middle =>
      rw [ran] at failed
      exact rest value middle fault next failed
  | error cause middle =>
      rw [ran] at failed
      cases failed
      exact first cursor _ _ ran

theorem take (n : Nat) : (Cursor.take n).NeverHalts := by
  intro cursor fault next failed
  unfold Cursor.take at failed
  split at failed
  · cases failed
  · cases failed
    rfl

theorem left : Cursor.left.NeverHalts := by
  intro cursor fault next failed
  cases failed

theorem run {read : Read α} (reported : read.NeverHalts) (bytes : List UInt8) :
    Reported (Cursor.run read bytes) := by
  intro fault failed
  unfold Cursor.run at failed
  split at failed
  · cases failed
  · rename_i ran
    cases failed
    exact reported _ _ _ ran

end Read.NeverHalts

/-! ### The look-ups a decoder makes -/

theorem Context.account_reported (context : Context) (index : Nat) :
    Reported (context.account index) := by
  unfold account
  split
  · exact .ok _
  · exact .error (by rfl)

theorem Context.requireRecords_bind {β : Type} (context : Context) (count : Nat)
    (rest : List TransferRecord → Read β) :
    (liftM (context.requireRecords count) >>= rest) =
      if context.records.length < count then throw (.missingTransfer count context.records.length)
      else rest context.records := by
  unfold requireRecords
  by_cases short : context.records.length < count
  · rw [if_pos short, if_pos short]
    rfl
  · rw [if_neg short, if_neg short]
    rfl

theorem pickRecord_reported {records : List TransferRecord} {fallback : Nat}
    (inside : fallback < records.length) (predicate : TransferRecord → Bool) :
    Reported (pickRecord records fallback predicate) := by
  rw [pickRecord_of_lt inside]
  exact .ok _

theorem Unchecked.get_reported {α : Type} {items : List α} {index : Nat}
    (inside : index < items.length) : Reported (Unchecked.get items index) := by
  rw [Unchecked.get_of_lt inside]
  exact .ok _

theorem Unchecked.suffix_reported {bytes : List UInt8} {start : Nat}
    (inside : start ≤ bytes.length) : Reported (Unchecked.suffix bytes start) := by
  rw [Unchecked.suffix_of_le inside]
  exact .ok _

theorem View.mintDecimals_reported (view : View) (mint : Pubkey) :
    Reported (view.mintDecimals mint) := by
  intro fault failed
  rw [view.mintDecimals_eq_error failed]
  rfl

theorem Boopfun.findRecord_reported (records : List TransferRecord)
    (predicate : TransferRecord → Bool) : Reported (findRecord records predicate) := by
  unfold findRecord
  split
  · exact .ok _
  · exact .error (by rfl)

theorem Boopfun.largest_reported {records : List TransferRecord}
    (nonempty : ¬ records.isEmpty = true) :
    Reported (Unchecked.get (bySizeDescending records) 0) := by
  apply Unchecked.get_reported
  rw [bySizeDescending, List.length_mergeSort]
  cases records with
  | nil => exact absurd rfl nonempty
  | cons first rest => exact Nat.succ_pos _

theorem RaydiumLaunchpad.payload_reported {view : View} {after logged : Located}
    (found : view.findInnerAfter after (fun next =>
      next.program == Programs.raydiumLaunchpad && next.startsWith tradeEvent) = some logged) :
    Reported (Unchecked.suffix logged.data tradeEvent.length) := by
  rw [show tradeEvent.length = 16 from rfl, suffix_of_found found]
  exact .ok _

theorem RaydiumLaunchpad.TradeLog.parse_reported (payload : List UInt8) :
    Reported (TradeLog.parse payload) := by
  by_cases short : payload.length < legacyLength
  · rw [parse_of_short short]
    exact .error (by rfl)
  · rw [parse_eq_decodeAt (by omega)]
    unfold decodeAt tagged flagged
    refine .bind ?direction fun _ => .bind ?status fun _ => .bind ?exactIn fun _ => .ok _
    case direction | status =>
      split
      exacts [.ok _, .error (by rfl)]
    case exactIn =>
      split
      exacts [.ok _, .ok _, .error (by rfl)]

namespace Moonit

theorem directed_reported (account : Pubkey) (delta : Int) (flow : Flow) :
    Reported (directed account delta flow) := by
  unfold directed
  exact .ite (.error (by rfl)) (.ok _)

theorem lamportDelta_reported (context : Context) (account : Pubkey) (flow : Flow) :
    Reported (lamportDelta context account flow) := by
  unfold lamportDelta
  split
  · exact directed_reported _ _ _
  · exact .error (by rfl)

theorem settle_reported (context : Context) (isBuy : Bool) :
    Reported (settle context isBuy) := by
  unfold settle
  repeat' (first
    | exact .ok _
    | exact .error (by rfl)
    | exact Context.account_reported _ _
    | exact View.mintDecimals_reported _ _
    | exact directed_reported _ _ _
    | exact lamportDelta_reported _ _ _
    | refine .bind ?_ fun _ => ?_
    | split)

theorem fees_reported (context : Context) (settlement : Settlement) :
    Reported (fees context settlement) := by
  unfold fees
  refine .bind (Context.account_reported _ _) fun _ => ?_
  refine .bind (Context.account_reported _ _) fun _ => ?_
  exact .ok _

end Moonit

/-! ### Decoders -/

theorem Protocol.routes_neverHalt (protocol : Protocol) :
    ∀ route ∈ protocol.routes, ∀ context, (route.decode context).NeverHalts := by
  cases protocol <;>
    simp only [routes, Pumpfun.routes, Boopfun.routes, MeteoraDbc.routes, MeteoraPools.routes,
      Moonit.routes, RaydiumLaunchpad.routes, Sugar.routes, MeteoraPools.decodeSwap,
      Route.silent, List.forall_mem_cons, List.not_mem_nil, false_imp_iff, implies_true,
      and_true] <;>
    repeat' constructor
  -- as for staying within the payload, a decoder is taken apart along its binds and branches;
  -- an access without a check is met after the branch that guards it, whose condition is then
  -- in the context
  all_goals
    intro context
    repeat' (first
      | with_reducible exact Read.NeverHalts.take _
      | with_reducible exact Read.NeverHalts.left
      | with_reducible exact Read.NeverHalts.pure
      | exact Read.NeverHalts.throw (by rfl)
      | rw [Context.requireRecords_bind]
      | rw [pure_bind]
      | refine Read.NeverHalts.lift ?_
      | exact Context.account_reported _ _
      | exact Boopfun.findRecord_reported _ _
      | exact Moonit.settle_reported _ _
      | exact Moonit.fees_reported _ _
      | exact RaydiumLaunchpad.TradeLog.parse_reported _
      | exact pickRecord_reported (by omega) _
      | exact Boopfun.largest_reported (by assumption)
      | exact RaydiumLaunchpad.payload_reported (by assumption)
      | refine Read.NeverHalts.bind ?_ fun _ => ?_
      | split
      | dsimp only)

theorem Protocol.decode_reported (protocol : Protocol) (context : Context) :
    Reported (protocol.decode context) := by
  unfold decode
  split
  · exact .ok _
  · rename_i route skip selected
    have decoderReported :=
      protocol.routes_neverHalt route (mem_routes_of_select selected) context
    rw [suffix_of_select selected, Except.ok_bind]
    split
    · rename_i fault ran
      exact .error (Read.NeverHalts.run decoderReported _ fault ran)
    · exact .ok _
    · exact .ok _

theorem View.trade?_reported (view : View) (venue : Venue) (event : Event) :
    Reported (view.trade? venue event) := by
  rcases event.absent_or_present with absent | ⟨input, output, trading, hasInput, hasOutput⟩
  · rw [view.trade?_of_absent absent]
    exact .ok _
  · rw [view.trade?_of_amounts trading hasInput hasOutput]
    refine .ite (.error (by rfl)) fun fault failed => ?_
    obtain ⟨mint, rfl⟩ := view.tradeOfAmounts_eq_error (Except.map_eq_error_iff.mp failed)
    rfl

theorem View.parse_neverHalts (view : View) (config : Config) (venue : Option Venue)
    {protocol : Protocol} {signature : Signature} {position : Position} {index length : Nat} :
    view.parse config venue ≠
      .error (.decode protocol signature position (.outOfRange index length)) := by
  intro halted
  rcases (view.parse_eq_error_iff config venue _).mp halted with
    ⟨entry, cause, ⟨-, -, -, -, failed⟩, same⟩ | ⟨-, -, event, cause, ⟨-, -, -, -, failed⟩, same⟩
  · obtain ⟨-, -, -, rfl⟩ := ParseError.decode.inj same
    exact Bool.noConfusion (Protocol.decode_reported _ _ _ failed)
  · obtain ⟨-, -, -, rfl⟩ := ParseError.decode.inj same
    exact Bool.noConfusion (view.trade?_reported _ _ _ failed)

/-! ### Accesses guarded by construction -/

theorem View.inner_of_mem_flat {view : View} {located : Located} (member : located ∈ view.flat)
    {inner : Nat} (placed : located.position.inner = some inner) :
    (view.innerOf located.position.outer)[inner]? = some located.instruction := by
  rw [flat_eq_flatMap_block, List.mem_flatMap] at member
  obtain ⟨⟨top, outer⟩, -, member⟩ := member
  rcases List.mem_cons.mp member with rfl | member
  · cases placed
  · obtain ⟨⟨ix, i⟩, entry, rfl⟩ := List.mem_map.mp member
    cases placed
    exact List.mem_zipIdx_iff_getElem?.mp entry

theorem KeyTable.lastPositions_lt {κ α : Type} [BEq κ] [LawfulBEq κ] (key : α → κ)
    (items : List α) {wanted : κ} {position : Nat}
    (found : (lastPositions key items).get? wanted = some position) : position < items.length := by
  unfold lastPositions at found
  rw [get?_ofList] at found
  obtain ⟨pair, last, rfl⟩ := Option.map_eq_some_iff.mp found
  obtain ⟨entry, entryMember, rfl⟩ :=
    List.mem_map.mp (List.mem_reverse.mp (List.mem_of_find?_eq_some last))
  have inside := (List.mem_zipIdx entryMember).2.1
  rw [Nat.zero_add] at inside
  exact inside

theorem Correlator.nativeRecord?_long (c : Correlator) {ix : Instruction} {position : Position}
    {record : TransferRecord} (decoded : c.nativeRecord? ix position = some record) :
    12 ≤ ix.data.length := by
  unfold nativeRecord? guard at decoded
  by_contra short
  have refused : ¬ (c.accepts .native && decide (ix.data.length ≥ 12)) = true := by
    simp [short]
  rw [if_neg refused] at decoded
  cases decoded

theorem Ui.length_text (raw : Nat) {decimals : Nat} (places : 0 < decimals) :
    (text raw decimals).length =
      (toString raw).length + 1 + (decimals + 1 - (toString raw).length) := by
  unfold text
  rw [if_neg (by omega)]
  split
  · rename_i longer
    simp only [String.length_append, String.length_ofList, List.length_take, List.length_drop,
      String.length_toList] at longer ⊢
    have point : ".".length = 1 := rfl
    omega
  · rename_i shorter
    simp only [String.length_append, String.length_ofList, List.length_append,
      List.length_replicate, String.length_toList] at shorter ⊢
    have opening : "0.".length = 2 := rfl
    omega

/-! ### Arithmetic -/

def Transaction.LamportsFit (tx : Transaction) : Prop :=
  ∀ balance ∈ tx.preBalances ++ tx.postBalances, balance < Nat.pow 2 64

private theorem mem_of_bind_getElem? {position : Option Nat} {balances : List Nat} {balance : Nat}
    (found : (position.bind fun i => balances[i]?) = some balance) : balance ∈ balances := by
  obtain ⟨i, -, read⟩ := Option.bind_eq_some_iff.mp found
  exact List.mem_of_getElem? read

theorem View.balanceChange_natAbs_lt {view : View} (fit : view.tx.LamportsFit) {account : Pubkey}
    {delta : Int} (changed : view.balanceChange account = some delta) :
    delta.natAbs < Nat.pow 2 64 := by
  obtain ⟨post, posted, changed⟩ := Option.bind_eq_some_iff.mp changed
  obtain ⟨pre, pred, changed⟩ := Option.bind_eq_some_iff.mp changed
  cases changed
  have postBound := fit post (List.mem_append_right _ (mem_of_bind_getElem? posted))
  have preBound := fit pre (List.mem_append_left _ (mem_of_bind_getElem? pred))
  have word : Nat.pow 2 64 = 18446744073709551616 := rfl
  omega

namespace Moonit

theorem directed_natAbs {account : Pubkey} {delta : Int} {flow : Flow} {amount : Nat}
    (directedOk : directed account delta flow = .ok amount) : amount = delta.natAbs := by
  unfold directed at directedOk
  split at directedOk
  all_goals
    dsimp only at directedOk
    split at directedOk
    · cases directedOk
    · cases directedOk
      rfl

theorem lamportDelta_lt {context : Context} (fit : context.view.tx.LamportsFit)
    {account : Pubkey} {flow : Flow} {amount : Nat}
    (moved : lamportDelta context account flow = .ok amount) : amount < Nat.pow 2 64 := by
  unfold lamportDelta at moved
  split at moved
  · rename_i delta changed
    rw [directed_natAbs moved]
    exact View.balanceChange_natAbs_lt fit changed
  · cases moved

private theorem settle_tail {context : Context} {settlement : Settlement}
    {mint curveToken curve dexFee helioFee : Pubkey} {tokenFlow solFlow : Flow} {tokenDelta : Int}
    {tokenDecimals : Nat}
    (settled : (do
        let token ← directed curveToken tokenDelta tokenFlow
        let curveSol ← lamportDelta context curve solFlow
        let dex ← lamportDelta context dexFee .inflow
        let helio ← lamportDelta context helioFee .inflow
        pure (Settlement.mk mint tokenDecimals token curveSol dex helio)) = .ok settlement) :
    lamportDelta context curve solFlow = .ok settlement.curveSol ∧
      lamportDelta context dexFee .inflow = .ok settlement.dexFee ∧
      lamportDelta context helioFee .inflow = .ok settlement.helioFee := by
  obtain ⟨token, -, settled⟩ := Except.bind_eq_ok settled
  obtain ⟨curveSol, curveMoved, settled⟩ := Except.bind_eq_ok settled
  obtain ⟨dex, dexMoved, settled⟩ := Except.bind_eq_ok settled
  obtain ⟨helio, helioMoved, settled⟩ := Except.bind_eq_ok settled
  cases settled
  exact ⟨curveMoved, dexMoved, helioMoved⟩

theorem settle_lamports {context : Context} {isBuy : Bool} {settlement : Settlement}
    (settled : settle context isBuy = .ok settlement) :
    ∃ curve dexFee helioFee solFlow, lamportDelta context curve solFlow = .ok settlement.curveSol ∧
      lamportDelta context dexFee .inflow = .ok settlement.dexFee ∧
      lamportDelta context helioFee .inflow = .ok settlement.helioFee := by
  unfold settle at settled
  obtain ⟨curve, -, settled⟩ := Except.bind_eq_ok settled
  obtain ⟨curveToken, -, settled⟩ := Except.bind_eq_ok settled
  obtain ⟨dexFee, -, settled⟩ := Except.bind_eq_ok settled
  obtain ⟨helioFee, -, settled⟩ := Except.bind_eq_ok settled
  obtain ⟨mint, -, settled⟩ := Except.bind_eq_ok settled
  split at settled
  rename_i tokenFlow solFlow _
  refine ⟨curve, dexFee, helioFee, solFlow, ?_⟩
  dsimp only at settled
  -- the token side comes from the token balance change and the decimals, each found one of two
  -- ways; a missing token balance fails before the SOL side
  split at settled
  · obtain ⟨tokenDelta, -, settled⟩ := Except.bind_eq_ok settled
    split at settled
    · obtain ⟨tokenDecimals, -, settled⟩ := Except.bind_eq_ok settled
      exact settle_tail settled
    · obtain ⟨tokenDecimals, -, settled⟩ := Except.bind_eq_ok settled
      exact settle_tail settled
  · obtain ⟨tokenDelta, missing, -⟩ := Except.bind_eq_ok settled
    cases missing

theorem settle_sol_lt {context : Context} (fit : context.view.tx.LamportsFit) {isBuy : Bool}
    {settlement : Settlement} (settled : settle context isBuy = .ok settlement) :
    settlement.curveSol + settlement.dexFee + settlement.helioFee < Nat.pow 2 128 := by
  obtain ⟨curve, dexFee, helioFee, solFlow, curveMoved, dexMoved, helioMoved⟩ :=
    settle_lamports settled
  have curveBound := lamportDelta_lt fit curveMoved
  have dexBound := lamportDelta_lt fit dexMoved
  have helioBound := lamportDelta_lt fit helioMoved
  have small : Nat.pow 2 64 = 18446744073709551616 := rfl
  have large : Nat.pow 2 128 = 340282366920938463463374607431768211456 := rfl
  omega

end Moonit

/-! ### A parse stays in bounds -/

/-- What keeps a parse of `view` clear of every access that the source makes without a check,
and of overflow in its arithmetic. -/
structure View.ParseInBounds (view : View) (config : Config) (venue : Option Venue) : Prop where
  -- No fault of the parse is an access past the end.
  neverHalts : ∀ protocol signature position index length,
    view.parse config venue ≠ .error (.decode protocol signature position (.outOfRange index length))
  -- Every decoder stops within the payload it was opened on.
  readerWithin : ∀ protocol : Protocol, ∀ route ∈ protocol.routes, ∀ context : Context,
    (route.decode context).StaysWithin
  -- A read from a cursor within a payload takes the bytes at the cursor's position, inside the
  -- payload.
  readerSlices : ∀ (bytes : List UInt8) (cursor next : Cursor) (n : Nat)
    (slice : {slice : List UInt8 // slice.length = n}), cursor.Within bytes →
      Cursor.take n cursor = .ok slice next →
        cursor.position + n ≤ bytes.length ∧ slice.val = (bytes.drop cursor.position).take n
  -- Every instruction the parse walks sits inside its outer instruction's list, so the earlier
  -- siblings a parent look-up walks back over are all there.
  innerPositions : ∀ located ∈ view.flat, ∀ inner, located.position.inner = some inner →
    inner < (view.innerOf located.position.outer).length
  -- The inner set an outer instruction's table names is one of the listed sets.
  innerSetPositions : ∀ outer position,
    (KeyTable.lastPositions (·.index) view.tx.innerSets).get? outer = some position →
      position < view.tx.innerSets.length
  -- The token balances an account's tables name are among the listed balances.
  tokenBalancePositions : ∀ account position,
    ((KeyTable.lastPositions (·.account) view.tx.preTokenBalances).get? account = some position →
      position < view.tx.preTokenBalances.length) ∧
    ((KeyTable.lastPositions (·.account) view.tx.postTokenBalances).get? account = some position →
      position < view.tx.postTokenBalances.length)
  -- A lamport transfer is read only from data that holds its twelve bytes.
  nativeData : ∀ (c : Correlator) (ix : Instruction) (position : Position) (record : TransferRecord),
    c.nativeRecord? ix position = some record → 12 ≤ ix.data.length
  -- With places, the UI text keeps every digit and pads exactly the zeros that are missing.
  uiText : ∀ raw decimals : Nat, 0 < decimals →
    (Ui.text raw decimals).length =
      (toString raw).length + 1 + (decimals + 1 - (toString raw).length)
  -- With lamport balances that fit 64 bits, so does every balance change, either way.
  balanceChanges : view.tx.LamportsFit → ∀ account delta,
    view.balanceChange account = some delta → delta.natAbs < Nat.pow 2 64
  -- With lamport balances that fit 64 bits, the SOL a bonding-curve trade settles, the curve's part
  -- and both fees together, fits 128 bits.
  curveSol : view.tx.LamportsFit → ∀ (context : Context), context.view = view →
    ∀ isBuy settlement, Moonit.settle context isBuy = .ok settlement →
      settlement.curveSol + settlement.dexFee + settlement.helioFee < Nat.pow 2 128

theorem View.parse_in_bounds (view : View) (config : Config) (venue : Option Venue) :
    view.ParseInBounds config venue where
  neverHalts _ _ _ _ _ := view.parse_neverHalts config venue
  readerWithin := Protocol.routes_stayWithin
  readerSlices _ _ _ _ _ within taken :=
    ⟨(Cursor.take_within within taken).1, (Cursor.take_within within taken).2.1⟩
  innerPositions _ member _ placed :=
    (List.getElem?_eq_some_iff.mp (View.inner_of_mem_flat member placed)).1
  innerSetPositions _ _ found := KeyTable.lastPositions_lt _ _ found
  tokenBalancePositions _ _ :=
    ⟨KeyTable.lastPositions_lt _ _, KeyTable.lastPositions_lt _ _⟩
  nativeData c _ _ _ decoded := c.nativeRecord?_long decoded
  uiText raw _ places := Ui.length_text raw places
  balanceChanges fit _ _ changed := View.balanceChange_natAbs_lt fit changed
  curveSol fit context onView _ _ settled := by
    subst onView
    exact Moonit.settle_sol_lt fit settled

end MemeEvents
