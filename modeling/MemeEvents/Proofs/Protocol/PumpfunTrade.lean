import MemeEvents.Protocol.Table
import MemeEvents.Proofs.Bytes.Widths
import MemeEvents.Proofs.Decode.Origin

/-! The trade events of pump.fun. -/

namespace MemeEvents.Pumpfun

open Cursor (word)

structure TradeCore where
  mint : Pubkey
  solAmount : UInt64
  tokenAmount : UInt64
  /-- Any byte but zero marks a buy. -/
  isBuy : UInt8
  user : Pubkey
  timestamp : Int64
  virtualSol : UInt64
  virtualToken : UInt64

structure FeeBlock where
  realSol : UInt64
  realToken : UInt64
  recipient : Pubkey
  basisPoints : UInt64
  fee : UInt64

structure CreatorBlock where
  creator : Pubkey
  basisPoints : UInt64
  fee : UInt64

inductive TradeLayout where
  | plain
  | withFee (fee : FeeBlock)
  | withCreator (fee : FeeBlock) (creator : CreatorBlock)

def TradeCore.write (core : TradeCore) : List UInt8 :=
  core.mint.bytes ++ (word core.solAmount ++ (word core.tokenAmount ++ (core.isBuy ::
    (core.user.bytes ++ (word core.timestamp.toUInt64 ++ (word core.virtualSol ++
      word core.virtualToken))))))

def FeeBlock.write (block : FeeBlock) : List UInt8 :=
  word block.realSol ++ (word block.realToken ++ (block.recipient.bytes ++
    (word block.basisPoints ++ word block.fee)))

def CreatorBlock.write (block : CreatorBlock) : List UInt8 :=
  block.creator.bytes ++ (word block.basisPoints ++ word block.fee)

def TradeLayout.write : TradeLayout → List UInt8
  | .plain => []
  | .withFee fee => fee.write
  | .withCreator fee creator => fee.write ++ creator.write

def TradeLayout.fees : TradeLayout → List Fee
  | .plain => []
  | .withFee fee => [⟨.protocol, Programs.wrappedSol, fee.fee.toNat, some fee.recipient⟩]
  | .withCreator fee creator =>
    [⟨.protocol, Programs.wrappedSol, fee.fee.toNat, some fee.recipient⟩,
      ⟨.creator, Programs.wrappedSol, creator.fee.toNat, some creator.creator⟩]

def TradeLayout.creator : TradeLayout → Option Pubkey
  | .plain => none
  | .withFee _ => none
  | .withCreator _ creator => some creator.creator

def TradeCore.sol (core : TradeCore) : TokenAmount :=
  TokenAmount.scaled Programs.wrappedSol core.solAmount.toNat 9

def TradeCore.token (core : TradeCore) : TokenAmount :=
  TokenAmount.scaled core.mint core.tokenAmount.toNat 6

/-- What a trade written with `core` in `layout` says: a direction byte other than zero is a buy
of the token with SOL, zero a sale of it for SOL, with the fees and creator of the layout. -/
structure TradeCore.Reports (core : TradeCore) (layout : TradeLayout) (event : Event) : Prop where
  kind : event.kind = if core.isBuy = 0 then .sell else .buy
  input : event.input = some (if core.isBuy = 0 then core.token else core.sol)
  output : event.output = some (if core.isBuy = 0 then core.sol else core.token)
  baseMint : event.baseMint = some core.mint
  quoteMint : event.quoteMint = some Programs.wrappedSol
  user : event.user = some core.user
  fees : event.fees = layout.fees
  creator : event.creator = layout.creator

@[simp] theorem length_feeBlock_write (block : FeeBlock) : block.write.length = 64 := by
  simp [FeeBlock.write, block.recipient.size_eq]

@[simp] theorem length_creatorBlock_write (block : CreatorBlock) : block.write.length = 48 := by
  simp [CreatorBlock.write, block.creator.size_eq]

/-! ### The tail -/

def TradeLayout.tail : TradeLayout → Option TradeTail
  | .plain => none
  | .withFee fee => some { feeRecipient := fee.recipient, fee := fee.fee.toNat }
  | .withCreator fee creator =>
    some ⟨fee.recipient, fee.fee.toNat, some creator.creator, creator.fee.toNat⟩

theorem TradeLayout.fees_tail (layout : TradeLayout) :
    (layout.tail.map (·.fees)).getD [] = layout.fees := by
  cases layout <;> rfl

theorem TradeLayout.creator_tail (layout : TradeLayout) :
    layout.tail.bind (·.creator) = layout.creator := by
  cases layout <;> rfl

section Tail

open Cursor Read

theorem TradeTail.read_write (layout : TradeLayout) (position : Nat) :
    ∃ next, TradeTail.read ⟨layout.write, position⟩ = .ok layout.tail next := by
  unfold TradeTail.read
  rw [bind_of_ok (left_apply _)]
  cases layout with
  | plain => exact ⟨_, rfl⟩
  | withFee fee =>
    simp only [TradeLayout.write, remaining, length_feeBlock_write, Nat.reduceLT, ↓reduceIte]
    simp only [FeeBlock.write]
    rw [bind_of_ok (u64_word _), bind_of_ok (u64_word _), bind_of_ok (pubkey_append _),
      bind_of_ok (left_apply _)]
    simp only [remaining, List.length_append, length_word, Nat.reduceAdd, Nat.reduceLeDiff,
      ↓reduceIte]
    rw [bind_of_ok (u64_word _), bind_of_ok (u64_word_last _), bind_of_ok (left_apply _)]
    simp only [remaining, List.length_nil, Nat.reduceLeDiff, ↓reduceIte]
    exact ⟨_, rfl⟩
  | withCreator fee creator =>
    simp only [TradeLayout.write, remaining, List.length_append, length_feeBlock_write,
      length_creatorBlock_write, Nat.reduceAdd, Nat.reduceLT, ↓reduceIte]
    simp only [FeeBlock.write, CreatorBlock.write, List.append_assoc]
    rw [bind_of_ok (u64_word _), bind_of_ok (u64_word _), bind_of_ok (pubkey_append _),
      bind_of_ok (left_apply _)]
    simp only [remaining, List.length_append, length_word, creator.creator.size_eq, Nat.reduceAdd,
      Nat.reduceLeDiff, ↓reduceIte]
    rw [bind_of_ok (u64_word _), bind_of_ok (u64_word _), bind_of_ok (left_apply _)]
    simp only [remaining, List.length_append, length_word, creator.creator.size_eq, Nat.reduceAdd,
      Nat.le_refl, ↓reduceIte]
    rw [bind_of_ok (pubkey_append _), bind_of_ok (u64_word _), bind_of_ok (u64_word_last _)]
    exact ⟨_, rfl⟩

theorem TradeTail.read_total : TradeTail.read.Total := by
  intro cursor
  unfold TradeTail.read
  rw [bind_of_ok (left_apply _)]
  simp only
  split
  · exact ⟨_, _, rfl⟩
  rename_i long
  -- the reserves and the fee recipient take 48 of the 52 bytes the first guard asks for
  obtain ⟨_, ran⟩ := u64_consumes.bind_apply _ cursor (by omega)
  rw [ran]
  obtain ⟨_, ran⟩ := u64_consumes.bind_at _ cursor 8 (by omega)
  rw [ran]
  obtain ⟨_, ran⟩ := pubkey_consumes.bind_at _ cursor 16 (by omega)
  rw [ran, bind_of_ok (left_apply _)]
  simp only [remaining_advance]
  -- the creator block is read whole once its guard passes, whatever was read before it
  have creatorBlock (finish : Pubkey → Nat → Option TradeTail) :=
    pubkey_consumes.bind fun creator => u64_consumes.bind fun _ =>
      u64_consumes.bind_pure (finish creator)
  split
  · obtain ⟨_, ran⟩ := u64_consumes.bind_at _ cursor 48 (by omega)
    rw [ran]
    obtain ⟨_, ran⟩ := u64_consumes.bind_at _ cursor 56 (by omega)
    rw [ran, bind_of_ok (left_apply _)]
    simp only [remaining_advance]
    split
    · exact (creatorBlock _).needs.returns _ (by rw [remaining_advance]; omega)
    · exact ⟨_, _, rfl⟩
  · rw [bind_of_ok (left_apply _)]
    simp only [remaining_advance]
    split
    · exact (creatorBlock _).needs.returns _ (by rw [remaining_advance]; omega)
    · exact ⟨_, _, rfl⟩

end Tail

/-! ### The fixed fields -/

section Core

open Cursor Read

variable (context : Context)

theorem decodeTrade_needs : (decodeTrade context).Needs 105 :=
  Needs.bind pubkey_consumes fun _ => Needs.bind u64_consumes fun _ =>
    Needs.bind u64_consumes fun _ => Needs.bind bool_consumes fun isBuy =>
      Needs.bind pubkey_consumes fun _ => Needs.bind i64_consumes fun _ =>
        Needs.bind u64_consumes fun _ => Needs.bind u64_consumes fun _ =>
          Total.needs (TradeTail.read_total.bind fun _ => by cases isBuy <;> exact Total.pure _)

theorem decodeTrade_yields_some : (decodeTrade context).Yields fun found => found.isSome := by
  simp only [decodeTrade]
  repeat refine Read.Yields.bind fun _ => ?_
  exact Read.Yields.pure rfl

theorem run_decodeTrade_write (core : TradeCore) (layout : TradeLayout) :
    ∃ event, Cursor.run (decodeTrade context) (core.write ++ layout.write) = .ok (some event) ∧
      core.Reports layout event := by
  obtain ⟨timestamp, stamped⟩ := i64_append (word core.timestamp.toUInt64)
    (word core.virtualSol ++ (word core.virtualToken ++ layout.write)) (0 + 32 + 8 + 8 + 1 + 32)
    (length_word _)
  obtain ⟨next, tailRead⟩ := TradeTail.read_write layout (0 + 32 + 8 + 8 + 1 + 32 + 8 + 8 + 8)
  unfold Cursor.run EStateM.run Cursor.ofBytes decodeTrade
  simp only [TradeCore.write, List.append_assoc, List.cons_append]
  rw [bind_of_ok (pubkey_append _), bind_of_ok (u64_word _), bind_of_ok (u64_word _),
    bind_of_ok (bool_cons _), bind_of_ok (pubkey_append _), bind_of_ok stamped,
    bind_of_ok (u64_word _), bind_of_ok (u64_word _), bind_of_ok tailRead]
  by_cases sale : core.isBuy = 0
  · have flag : (core.isBuy != 0) = false := by rw [sale]; rfl
    simp only [flag, Bool.false_eq_true, ↓reduceIte]
    refine ⟨_, rfl, ?_, ?_, ?_, rfl, rfl, rfl, layout.fees_tail, layout.creator_tail⟩ <;>
      rw [if_pos sale] <;> rfl
  · have flag : (core.isBuy != 0) = true := bne_iff_ne.mpr sale
    simp only [flag, ↓reduceIte]
    refine ⟨_, rfl, ?_, ?_, ?_, rfl, rfl, rfl, layout.fees_tail, layout.creator_tail⟩ <;>
      rw [if_neg sale] <;> rfl

end Core

/-! ### Decoding an instruction -/

section Decode

variable {context : Context} {payload : List UInt8}

theorem select?_tradeEvent (payload : List UInt8) :
    Protocol.pumpfun.select? (tradeEvent ++ payload) =
      some (⟨"TradeEvent", [tradeEvent], decodeTrade⟩, 16) := by
  have opens : tradeEvent.isPrefixOf (tradeEvent ++ payload) = true :=
    List.isPrefixOf_iff_prefix.mpr (List.prefix_append _ _)
  simp [Protocol.select?, Protocol.routes, routes, Route.matchLength?, opens]
  rfl

theorem decode_of_run_error (opened : context.located.data = tradeEvent ++ payload)
    {fault : DecodeError} (failed : Cursor.run (decodeTrade context) payload = .error fault) :
    Protocol.pumpfun.decode context = .error fault := by
  apply Protocol.decode_of_run_error (by rw [opened, select?_tradeEvent])
  rw [opened, List.drop_left' (show tradeEvent.length = 16 from rfl)]
  exact failed

theorem decode_of_run_some (opened : context.located.data = tradeEvent ++ payload)
    {event : Event} (ran : Cursor.run (decodeTrade context) payload = .ok (some event)) :
    Protocol.pumpfun.decode context = .ok (some { event with stamp :=
      ⟨context.view.signature, context.view.slot, context.view.blockTime, context.position⟩ }) := by
  apply Protocol.decode_of_run_some (by rw [opened, select?_tradeEvent])
  rw [opened, List.drop_left' (show tradeEvent.length = 16 from rfl)]
  exact ran

theorem TradeCore.Reports.stamp {core : TradeCore} {layout : TradeLayout} {event : Event}
    (reports : core.Reports layout event) (stamp : Stamp) :
    core.Reports layout { event with stamp } :=
  ⟨reports.kind, reports.input, reports.output, reports.baseMint, reports.quoteMint, reports.user,
    reports.fees, reports.creator⟩

theorem decode_short (opened : context.located.data = tradeEvent ++ payload)
    (short : payload.length < 105) :
    ∃ needed left, Protocol.pumpfun.decode context = .error (.outOfBounds needed left) := by
  obtain ⟨needed, left, next, failed⟩ :=
    (decodeTrade_needs context).short (Cursor.ofBytes payload) short
  exact ⟨needed, left, decode_of_run_error opened (Cursor.run_of_error failed)⟩

theorem decode_long (opened : context.located.data = tradeEvent ++ payload)
    (long : 105 ≤ payload.length) :
    ∃ event, Protocol.pumpfun.decode context = .ok (some event) := by
  obtain ⟨found, next, ran⟩ := (decodeTrade_needs context).returns (Cursor.ofBytes payload) long
  obtain ⟨event, rfl⟩ := Option.isSome_iff_exists.mp (decodeTrade_yields_some context _ _ _ ran)
  exact ⟨_, decode_of_run_some opened (Cursor.run_of_ok ran)⟩

end Decode

/-- How a trade event is decoded. With fewer than 105 bytes after its tag it fails, and then for
want of bytes; with 105 or more it reports an event, whatever the tail holds. A trade written in
any of the three layouts reports the buy or sale it records, with the amounts, mints, user,
fees and creator that were written. -/
theorem decode_tradeEvent :
    (∀ (context : Context) (payload : List UInt8), context.located.data = tradeEvent ++ payload →
      ((∃ needed left, Protocol.pumpfun.decode context = .error (.outOfBounds needed left)) ↔
        payload.length < 105) ∧
      (105 ≤ payload.length → ∃ event, Protocol.pumpfun.decode context = .ok (some event))) ∧
    (∀ (context : Context) (core : TradeCore) (layout : TradeLayout),
      context.located.data = tradeEvent ++ (core.write ++ layout.write) →
      ∃ event, Protocol.pumpfun.decode context = .ok (some event) ∧ core.Reports layout event) := by
  refine ⟨fun context payload opened => ⟨⟨fun failed => ?_, decode_short opened⟩,
    decode_long opened⟩, fun context core layout opened => ?_⟩
  · -- a payload long enough for the fixed fields decodes, so a failure means a short payload
    obtain ⟨needed, left, failed⟩ := failed
    refine Nat.lt_of_not_le fun long => ?_
    obtain ⟨event, decoded⟩ := decode_long opened long
    rw [failed] at decoded
    cases decoded
  · obtain ⟨event, ran, reports⟩ := run_decodeTrade_write context core layout
    exact ⟨_, decode_of_run_some opened ran, reports.stamp _⟩

/-- A trade event cut short after 40 bytes fails for want of bytes, and a sale written in the
third layout reports itself. -/
theorem decode_truncated_and_written_trade :
    (∃ needed left, Protocol.pumpfun.decode
      ⟨.pumpfun, ⟨⟨Programs.pumpfun, [], tradeEvent ++ List.replicate 40 1⟩, ⟨0, some 0⟩⟩, default,
        {}⟩ = .error (.outOfBounds needed left)) ∧
    ∃ event, Protocol.pumpfun.decode
      ⟨.pumpfun, ⟨⟨Programs.pumpfun, [], tradeEvent ++
        ((TradeCore.mk Pubkey.zero 500000000 1000000 0 Pubkey.zero 1700000000 30000000000
          1073000000000000).write ++
        (TradeLayout.withCreator ⟨10000000000, 793000000000000, Pubkey.zero, 95, 5000000⟩
          ⟨Pubkey.zero, 5, 0⟩).write)⟩, ⟨0, some 0⟩⟩, default, {}⟩ = .ok (some event) ∧
      (TradeCore.mk Pubkey.zero 500000000 1000000 0 Pubkey.zero 1700000000 30000000000
          1073000000000000).Reports
        (.withCreator ⟨10000000000, 793000000000000, Pubkey.zero, 95, 5000000⟩ ⟨Pubkey.zero, 5, 0⟩)
        event :=
  ⟨(decode_tradeEvent.1 _ _ rfl).1.mpr (by simp), decode_tradeEvent.2 _ _ _ rfl⟩

end MemeEvents.Pumpfun
