import MemeEvents.Proofs.Decode.Steps
import MemeEvents.Proofs.Bytes.Widths
import MemeEvents.Proofs.Parse.Failure

/-! Moonit trades, settled from the balances they moved. -/

namespace MemeEvents.Moonit

structure TradeAccounts where
  sender : Pubkey
  curve : Pubkey
  curveToken : Pubkey
  dexFee : Pubkey
  helioFee : Pubkey
  mint : Pubkey

def TradeAccounts.of (keys : List Pubkey) : TradeAccounts :=
  ⟨keys.getD 0 default, keys.getD 2 default, keys.getD 3 default, keys.getD 4 default,
    keys.getD 5 default, keys.getD 6 default⟩

/-- One balance a trade is settled from: the account, the change the transaction reports for it,
and the way the trade should have moved it. -/
structure Check where
  account : Pubkey
  change : Option Int
  flow : Flow

def Check.run (check : Check) : Except DecodeError Nat :=
  check.change.elim (.error (.missingBalance check.account)) fun delta =>
    directed check.account delta check.flow

def TradeAccounts.checks (accounts : TradeAccounts) (view : View) (isBuy : Bool) : List Check :=
  [⟨accounts.curveToken, view.tokenBalanceChange accounts.curveToken,
      if isBuy then .outflow else .inflow⟩,
    ⟨accounts.curve, view.balanceChange accounts.curve, if isBuy then .inflow else .outflow⟩,
    ⟨accounts.dexFee, view.balanceChange accounts.dexFee, .inflow⟩,
    ⟨accounts.helioFee, view.balanceChange accounts.helioFee, .inflow⟩]

structure TradeAccounts.Reports (accounts : TradeAccounts) (isBuy : Bool) (settlement : Settlement)
    (event : Event) : Prop where
  kind : event.kind = if isBuy then .buy else .sell
  input : event.input = some (if isBuy then
    TokenAmount.sol (settlement.curveSol + settlement.dexFee + settlement.helioFee)
    else TokenAmount.scaled settlement.mint settlement.tokenDelta settlement.tokenDecimals)
  output : event.output = some (if isBuy then
    TokenAmount.scaled settlement.mint settlement.tokenDelta settlement.tokenDecimals
    else TokenAmount.sol (settlement.curveSol - (settlement.dexFee + settlement.helioFee)))
  baseMint : event.baseMint = some settlement.mint
  quoteMint : event.quoteMint = some Programs.wrappedSol
  user : event.user = some accounts.sender
  bondingCurve : event.bondingCurve = some accounts.curve
  fees : event.fees = [⟨.dex, Programs.wrappedSol, settlement.dexFee, some accounts.dexFee⟩,
    ⟨.helio, Programs.wrappedSol, settlement.helioFee, some accounts.helioFee⟩]

theorem TradeAccounts.Reports.stamp {accounts : TradeAccounts} {isBuy : Bool}
    {settlement : Settlement} {event : Event} (reports : accounts.Reports isBuy settlement event)
    (stamp : Stamp) : accounts.Reports isBuy settlement { event with stamp } :=
  ⟨reports.kind, reports.input, reports.output, reports.baseMint, reports.quoteMint, reports.user,
    reports.bondingCurve, reports.fees⟩

/-! ### One check -/

theorem directed_eq_ok_iff {account : Pubkey} {delta : Int} {flow : Flow} {size : Nat} :
    directed account delta flow = .ok size ↔
      ¬ (flow = .inflow ∧ delta < 0 ∨ flow = .outflow ∧ 0 < delta) ∧ size = delta.natAbs := by
  unfold directed
  cases flow <;> by_cases against : delta < 0 <;> by_cases toward : 0 < delta <;>
    simp [against, toward, eq_comm]

theorem directed_eq_error_iff {account : Pubkey} {delta : Int} {flow : Flow} {fault : DecodeError} :
    directed account delta flow = .error fault ↔
      (flow = .inflow ∧ delta < 0 ∨ flow = .outflow ∧ 0 < delta) ∧
        fault = .invalidLayout s!"balance of {account} moved {delta}, expected {flow.name} flow" := by
  unfold directed
  cases flow <;> by_cases against : delta < 0 <;> by_cases toward : 0 < delta <;>
    simp [against, toward, eq_comm]

theorem Check.run_eq_ok_iff {check : Check} {size : Nat} :
    check.run = .ok size ↔ ∃ delta, check.change = some delta ∧
      ¬ (check.flow = .inflow ∧ delta < 0 ∨ check.flow = .outflow ∧ 0 < delta) ∧
        size = delta.natAbs := by
  unfold Check.run
  cases check.change with
  | none => exact ⟨nofun, fun ⟨_, missing, _⟩ => nomatch missing⟩
  | some delta => simp [directed_eq_ok_iff]

theorem Check.run_eq_error_iff {check : Check} {fault : DecodeError} :
    check.run = .error fault ↔
      check.change = none ∧ fault = .missingBalance check.account ∨
      ∃ delta, check.change = some delta ∧
        (check.flow = .inflow ∧ delta < 0 ∨ check.flow = .outflow ∧ 0 < delta) ∧
        fault = .invalidLayout
          s!"balance of {check.account} moved {delta}, expected {check.flow.name} flow" := by
  unfold Check.run
  cases check.change with
  | none => simp [eq_comm]
  | some delta => simp [directed_eq_error_iff]

theorem lamportDelta_eq_run (context : Context) (account : Pubkey) (flow : Flow) :
    lamportDelta context account flow =
      (Check.mk account (context.view.balanceChange account) flow).run := by
  unfold lamportDelta Check.run
  cases context.view.balanceChange account <;> rfl

/-! ### The settlement -/

theorem tokenAccountInfo_of_change {view : View} {account : Pubkey} {delta : Int}
    (changed : view.tokenBalanceChange account = some delta) :
    ∃ info, view.tokenAccountInfo account = some info := by
  unfold View.tokenBalanceChange at changed
  unfold View.tokenAccountInfo
  cases before : view.preTokenBalance account <;> cases after : view.postTokenBalance account <;>
    simp_all

theorem settle_eq_checks (context : Context) (isBuy : Bool) (enough : 7 ≤ context.accounts.length) :
    settle context isBuy =
      (fun sizes => Settlement.mk (TradeAccounts.of context.accounts).mint
        (((context.view.tokenAccountInfo (TradeAccounts.of context.accounts).curveToken).map
          (·.decimals)).getD 0)
        (sizes.getD 0 0) (sizes.getD 1 0) (sizes.getD 2 0) (sizes.getD 3 0)) <$>
      ((TradeAccounts.of context.accounts).checks context.view isBuy).mapM Check.run := by
  unfold settle
  rw [Context.account_of_lt (show 2 < context.accounts.length by omega),
    Context.account_of_lt (show 3 < context.accounts.length by omega),
    Context.account_of_lt (show 4 < context.accounts.length by omega),
    Context.account_of_lt (show 5 < context.accounts.length by omega),
    Context.account_of_lt (show 6 < context.accounts.length by omega)]
  simp only [Except.ok_bind, TradeAccounts.checks, TradeAccounts.of, List.mapM_cons, List.mapM_nil]
  cases changed : context.view.tokenBalanceChange (context.accounts.getD 3 default) with
  | none => rfl
  | some delta =>
    obtain ⟨info, found⟩ := tokenAccountInfo_of_change changed
    rw [found]
    cases isBuy <;>
      simp only [lamportDelta_eq_run, Check.run, Option.elim, Bool.false_eq_true, ↓reduceIte,
        map_bind, bind_assoc, pure_bind, map_pure, Option.map_some, Option.getD_some,
        List.getD_cons_zero, List.getD_cons_succ]

theorem fees_of_listed {context : Context} (enough : 7 ≤ context.accounts.length)
    (settlement : Settlement) :
    fees context settlement =
      .ok [⟨.dex, Programs.wrappedSol, settlement.dexFee,
          some (TradeAccounts.of context.accounts).dexFee⟩,
        ⟨.helio, Programs.wrappedSol, settlement.helioFee,
          some (TradeAccounts.of context.accounts).helioFee⟩] := by
  unfold fees
  rw [Context.account_of_lt (show 4 < context.accounts.length by omega),
    Context.account_of_lt (show 5 < context.accounts.length by omega)]
  rfl

/-! ### The decoders -/

theorem readTradeArguments_consumes : readTradeArguments.Consumes 25 :=
  Cursor.u64_consumes.bind fun _ => Cursor.u64_consumes.bind fun _ =>
    Cursor.u8_consumes.bind fun _ => Cursor.u64_consumes.bind_pure fun _ => ()

section Run

variable {context : Context} {payload : List UInt8}

theorem run_trade_of_settled {isBuy : Bool} {settlement : Settlement}
    (enough : 7 ≤ context.accounts.length) (long : 25 ≤ payload.length)
    (settled : settle context isBuy = .ok settlement) :
    ∃ event, Cursor.run ((if isBuy then decodeBuy else decodeSell) context) payload =
      .ok (some event) ∧ (TradeAccounts.of context.accounts).Reports isBuy settlement event := by
  -- both decoders read the arguments, settle, and build the event from the same accounts
  cases isBuy <;> simp only [Bool.false_eq_true, ↓reduceIte]
  all_goals
    first | unfold decodeSell | unfold decodeBuy
    rw [settled, Read.liftM_ok_bind,
      Context.account_of_lt (show 0 < context.accounts.length by omega),
      Context.account_of_lt (show 2 < context.accounts.length by omega), fees_of_listed enough]
    simp only [Read.liftM_ok_bind]
    obtain ⟨_, ran⟩ := readTradeArguments_consumes.bind_apply _ (Cursor.ofBytes payload) long
    exact ⟨_, Cursor.run_of_ok ran, ⟨rfl, rfl, rfl, rfl, rfl, rfl, rfl, rfl⟩⟩

theorem run_trade_of_unsettled {isBuy : Bool} {fault : DecodeError} (long : 25 ≤ payload.length)
    (failed : settle context isBuy = .error fault) :
    Cursor.run ((if isBuy then decodeBuy else decodeSell) context) payload = .error fault := by
  cases isBuy <;> simp only [Bool.false_eq_true, ↓reduceIte]
  all_goals
    first | unfold decodeSell | unfold decodeBuy
    rw [failed, Read.liftM_error_bind]
    obtain ⟨_, ran⟩ := readTradeArguments_consumes.bind_apply _ (Cursor.ofBytes payload) long
    exact Cursor.run_of_error ran

theorem select?_trade (isBuy : Bool) (payload : List UInt8) :
    Protocol.moonit.select? ((if isBuy then buy else sell) ++ payload) =
      some (if isBuy then ⟨"buy", [buy], decodeBuy⟩ else ⟨"sell", [sell], decodeSell⟩, 8) := by
  cases isBuy with
  | false =>
    have opens : sell.isPrefixOf (sell ++ payload) = true :=
      List.isPrefixOf_iff_prefix.mpr (List.prefix_append _ _)
    have closed : buy.isPrefixOf (sell ++ payload) = false := rfl
    simp [Protocol.select?, Protocol.routes, routes, Route.matchLength?, opens, closed]
    rfl
  | true =>
    have opens : buy.isPrefixOf (buy ++ payload) = true :=
      List.isPrefixOf_iff_prefix.mpr (List.prefix_append _ _)
    simp [Protocol.select?, Protocol.routes, routes, Route.matchLength?, opens]
    rfl

variable {isBuy : Bool} (opened : context.located.data = (if isBuy then buy else sell) ++ payload)
include opened

theorem decode_of_run_error {fault : DecodeError}
    (failed : Cursor.run ((if isBuy then decodeBuy else decodeSell) context) payload = .error fault) :
    Protocol.moonit.decode context = .error fault := by
  apply Protocol.decode_of_run_error (by rw [opened, select?_trade])
  rw [opened, List.drop_left' (show (if isBuy then buy else sell).length = 8 by cases isBuy <;> rfl)]
  cases isBuy <;> exact failed

theorem decode_of_run_some {event : Event}
    (ran : Cursor.run ((if isBuy then decodeBuy else decodeSell) context) payload = .ok (some event)) :
    Protocol.moonit.decode context = .ok (some { event with stamp :=
      ⟨context.view.signature, context.view.slot, context.view.blockTime, context.position⟩ }) := by
  apply Protocol.decode_of_run_some (by rw [opened, select?_trade])
  rw [opened, List.drop_left' (show (if isBuy then buy else sell).length = 8 by cases isBuy <;> rfl)]
  cases isBuy <;> exact ran

theorem decode_eq_error_iff {fault : DecodeError} (long : 25 ≤ payload.length)
    (enough : 7 ≤ context.accounts.length) :
    Protocol.moonit.decode context = .error fault ↔
      ((TradeAccounts.of context.accounts).checks context.view isBuy).mapM Check.run =
        .error fault := by
  have settles : settle context isBuy = .error fault ↔
      ((TradeAccounts.of context.accounts).checks context.view isBuy).mapM Check.run =
        .error fault := by
    rw [settle_eq_checks context isBuy enough, Except.map_eq_error_iff]
  rw [← settles]
  constructor
  · intro failed
    cases settled : settle context isBuy with
    | error cause =>
      rw [decode_of_run_error opened (run_trade_of_unsettled long settled)] at failed
      cases failed
      rfl
    | ok settlement =>
      obtain ⟨event, ran, -⟩ := run_trade_of_settled enough long settled
      rw [decode_of_run_some opened ran] at failed
      cases failed
  · intro failed
    exact decode_of_run_error opened (run_trade_of_unsettled long failed)

theorem decode_of_checks_pass {token curveSol dex helio : Nat} (long : 25 ≤ payload.length)
    (enough : 7 ≤ context.accounts.length)
    (passed : ((TradeAccounts.of context.accounts).checks context.view isBuy).mapM Check.run =
      .ok [token, curveSol, dex, helio]) :
    ∃ info event,
      context.view.tokenAccountInfo (TradeAccounts.of context.accounts).curveToken = some info ∧
      Protocol.moonit.decode context = .ok (some event) ∧
      (TradeAccounts.of context.accounts).Reports isBuy
        ⟨(TradeAccounts.of context.accounts).mint, info.decimals, token, curveSol, dex, helio⟩
        event := by
  -- the token check passed, so the curve's token account has a balance, and with it decimals
  have tokenPassed := passed
  rw [TradeAccounts.checks, List.mapM_cons] at tokenPassed
  obtain ⟨tokenSize, tokenRan, -⟩ := Except.bind_eq_ok tokenPassed
  obtain ⟨delta, changed, -⟩ := Check.run_eq_ok_iff.mp tokenRan
  obtain ⟨info, found⟩ := tokenAccountInfo_of_change changed
  have settled : settle context isBuy =
      .ok ⟨(TradeAccounts.of context.accounts).mint, info.decimals, token, curveSol, dex,
        helio⟩ := by
    rw [settle_eq_checks context isBuy enough, passed, found]
    rfl
  obtain ⟨event, ran, reports⟩ := run_trade_of_settled enough long settled
  exact ⟨info, _, found, decode_of_run_some opened ran, reports.stamp _⟩

end Run

/-- How a Moonit buy or sale with its arguments and its seven accounts is decoded. It fails
exactly when one of the four balance checks fails after every check before it passed, with that
check's fault; a check fails for want of a change, or for a change against the trade, and
passes a change of zero. When all four pass, the event reports their sizes with the decimals of
the curve's token account. -/
theorem decode_trade (context : Context) (isBuy : Bool) (payload : List UInt8)
    (opened : context.located.data = (if isBuy then buy else sell) ++ payload)
    (long : 25 ≤ payload.length) (enough : 7 ≤ context.accounts.length) :
    (∀ fault, Protocol.moonit.decode context = .error fault ↔
      ∃ check, FirstFault Check.run ((TradeAccounts.of context.accounts).checks context.view isBuy)
        check fault) ∧
    (∀ token curveSol dex helio,
      ((TradeAccounts.of context.accounts).checks context.view isBuy).mapM Check.run =
        .ok [token, curveSol, dex, helio] →
      ∃ info event,
        context.view.tokenAccountInfo (TradeAccounts.of context.accounts).curveToken = some info ∧
        Protocol.moonit.decode context = .ok (some event) ∧
        (TradeAccounts.of context.accounts).Reports isBuy
          ⟨(TradeAccounts.of context.accounts).mint, info.decimals, token, curveSol, dex, helio⟩
          event) ∧
    (∀ (check : Check) fault, check.run = .error fault ↔
      check.change = none ∧ fault = .missingBalance check.account ∨
      ∃ delta, check.change = some delta ∧
        (check.flow = .inflow ∧ delta < 0 ∨ check.flow = .outflow ∧ 0 < delta) ∧
        fault = .invalidLayout
          s!"balance of {check.account} moved {delta}, expected {check.flow.name} flow") ∧
    (∀ (check : Check) size, check.run = .ok size ↔ ∃ delta, check.change = some delta ∧
      ¬ (check.flow = .inflow ∧ delta < 0 ∨ check.flow = .outflow ∧ 0 < delta) ∧
      size = delta.natAbs) := by
  refine ⟨fun fault => ?_, fun _ _ _ _ passed => decode_of_checks_pass opened long enough passed,
    fun _ _ => Check.run_eq_error_iff, fun _ _ => Check.run_eq_ok_iff⟩
  rw [decode_eq_error_iff opened long enough, FirstFault.mapM_eq_error_iff]

/-- A buy that moved 2000 token units out of the curve, 1000 lamports into the curve and 10 and
5 into the fee accounts settles to those amounts; the same buy in a transaction without token
balances fails naming the curve's token account. -/
theorem decode_buy_settled_or_unbalanced :
    let key (byte : UInt8) : Pubkey := ⟨List.replicate 32 byte, rfl⟩
    let accounts := [key 0, key 1, key 2, key 3, key 4, key 5, key 6]
    let located : Located := ⟨⟨Programs.moonit, accounts, buy ++ List.replicate 25 0⟩, ⟨0, none⟩⟩
    let lamports : Transaction :=
      { accountKeys := accounts
        preBalances := [0, 0, 500, 0, 0, 0, 0]
        postBalances := [0, 0, 1500, 0, 10, 5, 0] }
    let tokens : Transaction :=
      { lamports with
        preTokenBalances := [⟨3, key 3, key 6, none, 5000, 6⟩]
        postTokenBalances := [⟨3, key 3, key 6, none, 3000, 6⟩] }
    let settled : Context := ⟨.moonit, located, ⟨tokens, {}⟩, {}⟩
    let unbalanced : Context := ⟨.moonit, located, ⟨lamports, {}⟩, {}⟩
    (∃ info event,
      settled.view.tokenAccountInfo (TradeAccounts.of settled.accounts).curveToken = some info ∧
      Protocol.moonit.decode settled = .ok (some event) ∧
      (TradeAccounts.of settled.accounts).Reports true
        ⟨(TradeAccounts.of settled.accounts).mint, info.decimals, 2000, 1000, 10, 5⟩ event) ∧
    Protocol.moonit.decode unbalanced = .error (.missingBalance (key 3)) := by
  intro key accounts located lamports tokens settled unbalanced
  have passed : ((TradeAccounts.of settled.accounts).checks settled.view true).mapM Check.run =
      .ok [2000, 1000, 10, 5] := by
    decide +kernel
  refine ⟨(decode_trade settled true _ rfl (by decide) (by decide)).2.1 _ _ _ _ passed, ?_⟩
  exact ((decode_trade unbalanced true _ rfl (by decide) (by decide)).1 _).mpr
    ⟨_, [], _, rfl, nofun, by decide +kernel⟩

end MemeEvents.Moonit
