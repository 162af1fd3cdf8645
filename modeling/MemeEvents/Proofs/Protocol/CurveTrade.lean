import MemeEvents.Proofs.Decode.Steps
import MemeEvents.Proofs.Bytes.Widths
import MemeEvents.Proofs.Event.Settlement
import MemeEvents.Proofs.Transfer.Grouping

/-! Buys and sales on Boop.fun bonding curves, from the instruction to the settled trade. -/

namespace MemeEvents

def TradeSide.eventKind : TradeSide → EventKind
  | .buy => .buy
  | .sell => .sell

namespace Boopfun

/-- What the event of a buy or sale on a curve reports before settling: it trades on `side`,
paying `input` and receiving `output`, for the user at account 6 on the curve at account 1, whose
mint is at account 0 and quoted in wrapped SOL; it names no pool and charges no fee. -/
structure CurveEvent (accounts : List Pubkey) (side : TradeSide) (input output : TokenAmount)
    (event : Event) : Prop where
  kind : event.kind = side.eventKind
  input : event.input = some input
  output : event.output = some output
  baseMint : event.baseMint = some (accounts.getD 0 default)
  quoteMint : event.quoteMint = some Programs.wrappedSol
  user : event.user = some (accounts.getD 6 default)
  pool : event.pool = none
  bondingCurve : event.bondingCurve = some (accounts.getD 1 default)
  fees : event.fees = []

theorem CurveEvent.stamp {accounts : List Pubkey} {side : TradeSide} {input output : TokenAmount}
    {event : Event} (reports : CurveEvent accounts side input output event) (stamp : Stamp) :
    CurveEvent accounts side input output { event with stamp } :=
  ⟨reports.kind, reports.input, reports.output, reports.baseMint, reports.quoteMint,
    reports.user, reports.pool, reports.bondingCurve, reports.fees⟩

structure TradeReports (accounts : List Pubkey) (side : TradeSide) (input output : TokenInfo)
    (trade : Trade) : Prop where
  side : trade.side = side
  input : trade.input = input
  output : trade.output = output
  user : trade.user = accounts.getD 6 default
  pools : trade.pools = [accounts.getD 1 default]

/-! ### Settling a curve event -/

section Settling

variable {accounts : List Pubkey} {side : TradeSide} {input output : TokenAmount} {event : Event}
  (reports : CurveEvent accounts side input output event) (view : View) (venue : Venue)
include reports

theorem CurveEvent.trading : event.kind.isTrade = true := by
  rw [reports.kind]
  cases side <;> rfl

theorem CurveEvent.sameMint (same : input.mint = output.mint) :
    view.trade? venue event = .error (.sameMintTrade input.mint) := by
  rw [view.trade?_of_amounts reports.trading reports.input reports.output, if_pos same]

theorem CurveEvent.unsettled {fault : DecodeError} (distinct : input.mint ≠ output.mint)
    (failed : view.settle input = .error fault) : view.trade? venue event = .error fault := by
  rw [view.trade?_of_amounts reports.trading reports.input reports.output, if_neg distinct,
    view.tradeOfAmounts_of_unsettled failed]
  rfl

theorem CurveEvent.settles {inputInfo outputInfo : TokenInfo} (distinct : input.mint ≠ output.mint)
    (inputSettled : view.settle input = .ok inputInfo)
    (outputSettled : view.settle output = .ok outputInfo) :
    ∃ trade, view.trade? venue event = .ok (some trade) ∧
      TradeReports accounts side inputInfo outputInfo trade := by
  obtain ⟨trade, built⟩ : ∃ trade, view.tradeOfAmounts venue event input output = .ok trade :=
    view.tradeOfAmounts_of_free reports.fees inputSettled outputSettled
  obtain ⟨inputIs, outputIs, sided, pools, user⟩ := view.tradeOfAmounts_eq_ok built
  refine ⟨trade, ?_, ⟨?_, ?_, ?_, ?_, ?_⟩⟩
  · rw [view.trade?_of_amounts reports.trading reports.input reports.output, if_neg distinct, built]
    rfl
  · -- a buy or a sale takes its side from its kind, whatever it pays in
    rw [sided, Event.side, reports.kind]
    cases side <;> rfl
  · exact Except.ok.inj (inputIs.symm.trans inputSettled)
  · exact Except.ok.inj (outputIs.symm.trans outputSettled)
  · rw [user, reports.user]
    rfl
  · rw [pools, Event.pools, reports.pool, reports.bondingCurve]
    rfl

end Settling

/-! ### Settling the amounts -/

theorem settle_sol (view : View) (lamports : Nat) :
    view.settle (TokenAmount.sol lamports) = .ok (TokenInfo.of Programs.wrappedSol lamports 9) :=
  view.settle_of_settled rfl rfl

theorem settle_tokenAmount (view : View) {record : TransferRecord}
    (scaled : record.ui = Ui.value record.raw record.decimals) :
    view.settle record.tokenAmount = .ok ⟨record.mint, record.raw, record.ui, record.decimals⟩ := by
  rw [view.settle_of_settled rfl rfl, scaled]
  rfl

theorem settle_unscaled_of_known {view : View} {mint : Pubkey} {decimals : Nat}
    (known : view.mintDecimals mint = .ok decimals) (raw : Nat) :
    view.settle (TokenAmount.unscaled mint raw) = .ok (TokenInfo.of mint raw decimals) := by
  rw [view.settle_of_unsettled (Or.inl rfl)]
  dsimp only [TokenAmount.unscaled]
  rw [known]
  rfl

theorem settle_unscaled_of_unknown {view : View} {mint : Pubkey} {fault : DecodeError}
    (unknown : view.mintDecimals mint = .error fault) (raw : Nat) :
    view.settle (TokenAmount.unscaled mint raw) = .error (.unknownDecimals mint) := by
  rw [view.settle_of_unsettled (Or.inl rfl)]
  dsimp only [TokenAmount.unscaled]
  rw [unknown]
  rfl

theorem mintDecimals_of_unknown {view : View} {mint : Pubkey} (other : mint ≠ Programs.wrappedSol)
    (unlisted : view.localDecimals mint = none) (uncached : view.decimals.get? mint = none) :
    view.mintDecimals mint = .error (.unknownDecimals mint) := by
  unfold View.mintDecimals
  rw [beq_false_of_ne other, unlisted, uncached]
  rfl

theorem scaled_of_correlated {c : Correlator} {context : Context}
    (correlated : context.transfers = c.correlate context.view) {record : TransferRecord}
    (member : record ∈ context.records) : record.ui = Ui.value record.raw record.decimals := by
  unfold Context.records at member
  rw [correlated] at member
  exact c.ui_of_mem_get context.view member

/-! ### The decoders -/

theorem findRecord_of_none {records : List TransferRecord} {wanted : TransferRecord → Bool}
    (missing : records.find? wanted = none) :
    findRecord records wanted = .error (.missingTransfer 1 0) := by
  unfold findRecord
  rw [missing]

theorem findRecord_of_some {records : List TransferRecord} {wanted : TransferRecord → Bool}
    {record : TransferRecord} (found : records.find? wanted = some record) :
    findRecord records wanted = .ok record := by
  unfold findRecord
  rw [found]

theorem mint_of_find? {records : List TransferRecord} {mint : Pubkey} {record : TransferRecord}
    (found : records.find? (·.mint == mint) = some record) : record.mint = mint := by
  have accepted := List.find?_some found
  exact beq_iff_eq.mp accepted

theorem requireRecords_findRecord {α : Type} (context : Context) (wanted : TransferRecord → Bool)
    (rest : TransferRecord → Read α) :
    (liftM (context.requireRecords 1) >>= fun records => liftM (findRecord records wanted) >>= rest) =
      (liftM (findRecord context.records wanted) >>= rest : Read α) := by
  unfold Context.requireRecords
  split
  · rename_i short
    have empty : context.records = [] := List.length_eq_zero_iff.mp (by omega)
    rw [empty]
    rfl
  · rfl

theorem u64_bind_apply {α : Type} {amount : List UInt8} (sized : amount.length = 8)
    (rest : List UInt8) (read : Nat → Read α) :
    (Cursor.u64 >>= read) (Cursor.ofBytes (amount ++ rest)) =
      read (Bytes.ofLittleEndian amount) ⟨rest, 8⟩ :=
  Read.bind_of_ok (Cursor.unsigned_append sized)

section Run

variable {context : Context} {amount : List UInt8} (sized : amount.length = 8) (rest : List UInt8)
  (enough : 7 ≤ context.accounts.length)
include sized enough

theorem run_buy_of_missing
    (missing : context.records.find? (·.mint == context.accounts.getD 0 default) = none) :
    Cursor.run (decodeBuy context) (amount ++ rest) = .error (.missingTransfer 1 0) := by
  apply Cursor.run_of_error
  unfold decodeBuy
  rw [u64_bind_apply sized]
  simp (disch := omega) only [Context.account_of_lt, Read.liftM_ok_bind, requireRecords_findRecord,
    findRecord_of_none missing, Read.liftM_error_bind]
  rfl

theorem run_buy_of_found {token : TransferRecord}
    (found : context.records.find? (·.mint == context.accounts.getD 0 default) = some token) :
    ∃ event, Cursor.run (decodeBuy context) (amount ++ rest) = .ok (some event) ∧
      CurveEvent context.accounts .buy (TokenAmount.sol (Bytes.ofLittleEndian amount))
        token.tokenAmount event := by
  refine ⟨?event, @Cursor.run_of_ok _ _ _ _ ⟨rest, 8⟩ ?ran, ?reports⟩
  case ran =>
    unfold decodeBuy
    rw [u64_bind_apply sized]
    simp (disch := omega) only [Context.account_of_lt, Read.liftM_ok_bind,
      requireRecords_findRecord, findRecord_of_some found]
    rfl
  case reports => exact ⟨rfl, rfl, rfl, rfl, rfl, rfl, rfl, rfl, rfl⟩

theorem run_sell_of_missing (missing : context.records.find? (·.isSol) = none) :
    Cursor.run (decodeSell context) (amount ++ rest) = .error (.missingTransfer 1 0) := by
  apply Cursor.run_of_error
  unfold decodeSell
  rw [u64_bind_apply sized]
  simp (disch := omega) only [Context.account_of_lt, Read.liftM_ok_bind, requireRecords_findRecord,
    findRecord_of_none missing, Read.liftM_error_bind]
  rfl

theorem run_sell_of_found {sol : TransferRecord} (found : context.records.find? (·.isSol) = some sol) :
    ∃ event, Cursor.run (decodeSell context) (amount ++ rest) = .ok (some event) ∧
      CurveEvent context.accounts .sell
        (TokenAmount.unscaled (context.accounts.getD 0 default) (Bytes.ofLittleEndian amount))
        sol.tokenAmount event := by
  refine ⟨?event, @Cursor.run_of_ok _ _ _ _ ⟨rest, 8⟩ ?ran, ?reports⟩
  case ran =>
    unfold decodeSell
    rw [u64_bind_apply sized]
    simp (disch := omega) only [Context.account_of_lt, Read.liftM_ok_bind,
      requireRecords_findRecord, findRecord_of_some found]
    rfl
  case reports => exact ⟨rfl, rfl, rfl, rfl, rfl, rfl, rfl, rfl, rfl⟩

end Run

/-! ### Choosing the route -/

theorem select?_buy (payload : List UInt8) :
    Protocol.boopfun.select? (buyToken ++ payload) =
      some (⟨"buy_token", [buyToken], decodeBuy⟩, 8) :=
  Protocol.select?_eq_of_first [⟨"create_token", [createToken], decodeCreate⟩] rfl
    (fun earlier member => by
      rw [List.mem_singleton.mp member]
      rfl)
    (Route.matchLength?_of_prefix (by decide) List.mem_cons_self (List.prefix_append _ _))

theorem select?_sell (payload : List UInt8) :
    Protocol.boopfun.select? (sellToken ++ payload) =
      some (⟨"sell_token", [sellToken], decodeSell⟩, 8) :=
  Protocol.select?_eq_of_first
    [⟨"create_token", [createToken], decodeCreate⟩, ⟨"buy_token", [buyToken], decodeBuy⟩] rfl
    (fun earlier member => by
      simp only [List.mem_cons, List.not_mem_nil, or_false] at member
      rcases member with rfl | rfl <;> rfl)
    (Route.matchLength?_of_prefix (by decide) List.mem_cons_self (List.prefix_append _ _))

theorem drop_opening {context : Context} {opening amount rest : List UInt8}
    (sized : opening.length = 8) (opened : context.located.data = opening ++ amount ++ rest) :
    context.located.data.drop 8 = amount ++ rest := by
  rw [opened, List.append_assoc, List.drop_left' sized]

/-! ### Buys and sales -/

section Trades

variable (c : Correlator) (context : Context)
  (correlated : context.transfers = c.correlate context.view)
  (enough : 7 ≤ context.accounts.length) {amount rest : List UInt8} (sized : amount.length = 8)
include correlated enough sized

theorem decode_buy (opened : context.located.data = buyToken ++ amount ++ rest) :
    (context.records.find? (·.mint == context.accounts.getD 0 default) = none →
      Protocol.boopfun.decode context = .error (.missingTransfer 1 0)) ∧
    ∀ token, context.records.find? (·.mint == context.accounts.getD 0 default) = some token →
      ∃ event, Protocol.boopfun.decode context = .ok (some event) ∧
        CurveEvent context.accounts .buy (TokenAmount.sol (Bytes.ofLittleEndian amount))
          token.tokenAmount event ∧
        ∀ (view : View) (venue : Venue),
          (context.accounts.getD 0 default ≠ Programs.wrappedSol →
            ∃ trade, view.trade? venue event = .ok (some trade) ∧
              TradeReports context.accounts .buy
                (TokenInfo.of Programs.wrappedSol (Bytes.ofLittleEndian amount) 9)
                ⟨token.mint, token.raw, token.ui, token.decimals⟩ trade) ∧
          (context.accounts.getD 0 default = Programs.wrappedSol →
            view.trade? venue event = .error (.sameMintTrade Programs.wrappedSol)) := by
  have selected : Protocol.boopfun.select? context.located.data =
      some (⟨"buy_token", [buyToken], decodeBuy⟩, 8) := by
    rw [opened, List.append_assoc]
    exact select?_buy _
  have payload := drop_opening rfl opened
  refine ⟨fun missing => Protocol.decode_of_run_error selected ?_, fun token found => ?_⟩
  · rw [payload]
    exact run_buy_of_missing sized rest enough missing
  obtain ⟨event, ran, reports⟩ := run_buy_of_found sized rest enough found
  have minted := mint_of_find? found
  have scaled := scaled_of_correlated correlated (List.mem_of_find?_eq_some found)
  refine ⟨_, Protocol.decode_of_run_some selected (by rw [payload]; exact ran), reports.stamp _,
    fun view venue => ⟨fun other => ?_, fun wrapped => ?_⟩⟩
  · have distinct : Programs.wrappedSol ≠ token.mint := by
      rw [minted]
      exact other.symm
    exact (reports.stamp _).settles view venue distinct (settle_sol view _)
      (settle_tokenAmount view scaled)
  · exact (reports.stamp _).sameMint view venue (minted.trans wrapped).symm

theorem decode_sell (opened : context.located.data = sellToken ++ amount ++ rest) :
    (context.records.find? (·.mint == Programs.wrappedSol) = none →
      Protocol.boopfun.decode context = .error (.missingTransfer 1 0)) ∧
    ∀ sol, context.records.find? (·.mint == Programs.wrappedSol) = some sol →
      ∃ event, Protocol.boopfun.decode context = .ok (some event) ∧
        CurveEvent context.accounts .sell
          (TokenAmount.unscaled (context.accounts.getD 0 default) (Bytes.ofLittleEndian amount))
          sol.tokenAmount event ∧
        ∀ (view : View) (venue : Venue),
          (context.accounts.getD 0 default ≠ Programs.wrappedSol →
            (∀ decimals, view.mintDecimals (context.accounts.getD 0 default) = .ok decimals →
              ∃ trade, view.trade? venue event = .ok (some trade) ∧
                TradeReports context.accounts .sell
                  (TokenInfo.of (context.accounts.getD 0 default) (Bytes.ofLittleEndian amount)
                    decimals)
                  ⟨sol.mint, sol.raw, sol.ui, sol.decimals⟩ trade) ∧
            (view.localDecimals (context.accounts.getD 0 default) = none →
              view.decimals.get? (context.accounts.getD 0 default) = none →
              view.trade? venue event =
                .error (.unknownDecimals (context.accounts.getD 0 default)))) ∧
          (context.accounts.getD 0 default = Programs.wrappedSol →
            view.trade? venue event = .error (.sameMintTrade Programs.wrappedSol)) := by
  have selected : Protocol.boopfun.select? context.located.data =
      some (⟨"sell_token", [sellToken], decodeSell⟩, 8) := by
    rw [opened, List.append_assoc]
    exact select?_sell _
  have payload := drop_opening rfl opened
  refine ⟨fun missing => Protocol.decode_of_run_error selected ?_, fun sol found => ?_⟩
  · rw [payload]
    exact run_sell_of_missing sized rest enough missing
  obtain ⟨event, ran, reports⟩ := run_sell_of_found sized rest enough found
  have minted := mint_of_find? found
  have scaled := scaled_of_correlated correlated (List.mem_of_find?_eq_some found)
  -- a mint other than wrapped SOL differs from the mint of the proceeds
  have distinct : context.accounts.getD 0 default ≠ Programs.wrappedSol →
      context.accounts.getD 0 default ≠ sol.mint := fun other => by
    rw [minted]
    exact other
  refine ⟨_, Protocol.decode_of_run_some selected (by rw [payload]; exact ran), reports.stamp _,
    fun view venue => ⟨fun other => ⟨fun decimals known => ?_, fun unlisted uncached => ?_⟩,
      fun wrapped => ?_⟩⟩
  · exact (reports.stamp _).settles view venue (distinct other) (settle_unscaled_of_known known _)
      (settle_tokenAmount view scaled)
  · exact (reports.stamp _).unsettled view venue (distinct other)
      (settle_unscaled_of_unknown (mintDecimals_of_unknown other unlisted uncached) _)
  · rw [← wrapped]
    exact (reports.stamp _).sameMint view venue (wrapped.trans minted.symm)

end Trades

/-- How buys and sales on a curve are decoded and settled, from at least seven accounts (the
curve's mint at 0, the curve at 1 and the user at 6), the eight bytes of the amount `A` after
the discriminator, and the movements correlated with the instruction. A buy fails for want of a
movement without one of the curve's mint; otherwise it settles, from any view and for any venue,
to a buy paying `A` lamports of wrapped SOL at nine decimals for the first such movement, unless
the mint is wrapped SOL itself, when it fails for sharing a mint. A sale fails for want of a
movement without one of wrapped SOL; otherwise it settles to a sale paying `A` of the mint at
its decimals for the first such movement, fails for want of decimals when neither the
transaction's balances nor the snapshot know the mint, and fails for sharing a mint when the
mint is wrapped SOL. -/
theorem decode_settles_curve_trades (c : Correlator) (context : Context)
    (correlated : context.transfers = c.correlate context.view)
    (enough : 7 ≤ context.accounts.length) (amount rest : List UInt8) (sized : amount.length = 8) :
    (context.located.data = buyToken ++ amount ++ rest →
      (context.records.find? (·.mint == context.accounts.getD 0 default) = none →
        Protocol.boopfun.decode context = .error (.missingTransfer 1 0)) ∧
      ∀ token, context.records.find? (·.mint == context.accounts.getD 0 default) = some token →
        ∃ event, Protocol.boopfun.decode context = .ok (some event) ∧
          CurveEvent context.accounts .buy (TokenAmount.sol (Bytes.ofLittleEndian amount))
            token.tokenAmount event ∧
          ∀ (view : View) (venue : Venue),
            (context.accounts.getD 0 default ≠ Programs.wrappedSol →
              ∃ trade, view.trade? venue event = .ok (some trade) ∧
                TradeReports context.accounts .buy
                  (TokenInfo.of Programs.wrappedSol (Bytes.ofLittleEndian amount) 9)
                  ⟨token.mint, token.raw, token.ui, token.decimals⟩ trade) ∧
            (context.accounts.getD 0 default = Programs.wrappedSol →
              view.trade? venue event = .error (.sameMintTrade Programs.wrappedSol))) ∧
    (context.located.data = sellToken ++ amount ++ rest →
      (context.records.find? (·.mint == Programs.wrappedSol) = none →
        Protocol.boopfun.decode context = .error (.missingTransfer 1 0)) ∧
      ∀ sol, context.records.find? (·.mint == Programs.wrappedSol) = some sol →
        ∃ event, Protocol.boopfun.decode context = .ok (some event) ∧
          CurveEvent context.accounts .sell
            (TokenAmount.unscaled (context.accounts.getD 0 default) (Bytes.ofLittleEndian amount))
            sol.tokenAmount event ∧
          ∀ (view : View) (venue : Venue),
            (context.accounts.getD 0 default ≠ Programs.wrappedSol →
              (∀ decimals, view.mintDecimals (context.accounts.getD 0 default) = .ok decimals →
                ∃ trade, view.trade? venue event = .ok (some trade) ∧
                  TradeReports context.accounts .sell
                    (TokenInfo.of (context.accounts.getD 0 default) (Bytes.ofLittleEndian amount)
                      decimals)
                    ⟨sol.mint, sol.raw, sol.ui, sol.decimals⟩ trade) ∧
              (view.localDecimals (context.accounts.getD 0 default) = none →
                view.decimals.get? (context.accounts.getD 0 default) = none →
                view.trade? venue event =
                  .error (.unknownDecimals (context.accounts.getD 0 default)))) ∧
            (context.accounts.getD 0 default = Programs.wrappedSol →
              view.trade? venue event = .error (.sameMintTrade Programs.wrappedSol))) :=
  ⟨decode_buy c context correlated enough sized, decode_sell c context correlated enough sized⟩

/-- A buy of 1000 lamports whose instruction invoked a checked transfer of 2000 units of the
curve's mint settles to a buy of those 2000 units; the same buy in a transaction that moves
nothing fails for want of a movement. -/
theorem decode_buy_with_and_without_movement :
    let key (byte : UInt8) : Pubkey := ⟨List.replicate 32 byte, rfl⟩
    let accounts := [key 1, key 2, key 3, key 4, key 5, key 6, key 7]
    let buy : Instruction := ⟨Programs.boopfun, accounts, buyToken ++ [232, 3, 0, 0, 0, 0, 0, 0]⟩
    let moved : Instruction :=
      ⟨Programs.token, [key 10, key 1, key 11, key 12], [12, 208, 7, 0, 0, 0, 0, 0, 0, 6]⟩
    let view : View := ⟨{ instructions := [buy], innerSets := [⟨0, [moved]⟩] }, {}⟩
    let still : View := ⟨{ instructions := [buy] }, {}⟩
    let context : Context := ⟨.boopfun, ⟨buy, ⟨0, none⟩⟩, view, ({} : Correlator).correlate view⟩
    (∃ token, context.records.find? (·.mint == key 1) = some token ∧ token.raw = 2000 ∧
      ∃ event, Protocol.boopfun.decode context = .ok (some event) ∧
        CurveEvent accounts .buy (TokenAmount.sol 1000) token.tokenAmount event ∧
        ∀ (view : View) (venue : Venue), ∃ trade, view.trade? venue event = .ok (some trade) ∧
          TradeReports accounts .buy (TokenInfo.of Programs.wrappedSol 1000 9)
            ⟨token.mint, token.raw, token.ui, token.decimals⟩ trade) ∧
    Protocol.boopfun.decode ⟨.boopfun, ⟨buy, ⟨0, none⟩⟩, still, ({} : Correlator).correlate still⟩ =
      .error (.missingTransfer 1 0) := by
  intro key accounts buy moved view still context
  have opened : buy.data = buyToken ++ [232, 3, 0, 0, 0, 0, 0, 0] ++ [] := rfl
  obtain ⟨token, found⟩ : ∃ token, context.records.find? (·.mint == key 1) = some token :=
    Option.isSome_iff_exists.mp (by decide +kernel)
  have raw : (context.records.find? (·.mint == key 1)).map (·.raw) = some 2000 := by
    decide +kernel
  rw [found, Option.map_some, Option.some.injEq] at raw
  have buys := (decode_settles_curve_trades {} context rfl (by decide) _ [] rfl).1 opened
  obtain ⟨event, decoded, reports, settles⟩ := buys.2 token found
  refine ⟨⟨token, found, raw, event, decoded, reports, fun view venue => ?_⟩, ?_⟩
  · exact (settles view venue).1 (by decide +kernel)
  · exact ((decode_settles_curve_trades {} ⟨.boopfun, ⟨buy, ⟨0, none⟩⟩, still,
      ({} : Correlator).correlate still⟩ rfl (by decide) _ [] rfl).1 opened).1 (by decide +kernel)

def wrappedSolBuy : Context :=
  let view : View :=
    ⟨{ instructions :=
        [⟨Programs.boopfun, List.replicate 7 Programs.wrappedSol,
          buyToken ++ [0, 202, 154, 59, 0, 0, 0, 0]⟩],
       innerSets :=
        [⟨0, [⟨Programs.system, [Pubkey.zero, Pubkey.zero],
          [2, 0, 0, 0, 0, 225, 245, 5, 0, 0, 0, 0]⟩]⟩] }, {}⟩
  ⟨.boopfun, ⟨⟨Programs.boopfun, List.replicate 7 Programs.wrappedSol,
    buyToken ++ [0, 202, 154, 59, 0, 0, 0, 0]⟩, ⟨0, none⟩⟩, view, ({} : Correlator).correlate view⟩

/-- Such a buy decodes, but no view settles it into a trade for any venue: both its legs are
wrapped SOL. -/
theorem buy_of_wrapped_sol_never_settles :
    ∃ event, Protocol.boopfun.decode wrappedSolBuy = .ok (some event) ∧ event.kind = .buy ∧
      ∀ (view : View) (venue : Venue),
        view.trade? venue event = .error (.sameMintTrade Programs.wrappedSol) := by
  have paid : (wrappedSolBuy.records.find?
      (·.mint == wrappedSolBuy.accounts.getD 0 default)).isSome = true := by
    decide +kernel
  obtain ⟨token, found⟩ := Option.isSome_iff_exists.mp paid
  obtain ⟨event, decoded, reports, settles⟩ :=
    (@decode_buy {} wrappedSolBuy rfl (by decide) [0, 202, 154, 59, 0, 0, 0, 0] [] rfl rfl).2
      token found
  exact ⟨event, decoded, reports.kind, fun view venue => (settles view venue).2 rfl⟩

end Boopfun

end MemeEvents
