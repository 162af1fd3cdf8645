import MemeEvents.Proofs.Decode.Steps
import MemeEvents.Proofs.Chain.IndexedSearch
import MemeEvents.Proofs.Protocol.LaunchpadEvent

/-! Launchpad trades and the trade events they log. -/

namespace MemeEvents

namespace View

variable (view : View) (outer : Nat) (predicate : Located → Bool)

theorem find?_innerFrom_eq_none_iff (start : Nat) :
    (view.innerFrom outer start).find? predicate = none ↔
      ∀ k other, start ≤ k → (view.innerOf outer)[k]? = some other →
        predicate ⟨other, ⟨outer, some k⟩⟩ = false := by
  -- induction on the number of inner instructions left from `start`
  induction left : (view.innerOf outer).length - start generalizing start with
  | zero =>
    have past : (view.innerOf outer).length ≤ start := by omega
    rw [view.innerFrom_eq_nil (List.getElem?_eq_none past), List.find?_nil]
    refine ⟨fun _ k other later present => ?_, fun _ => rfl⟩
    have inside := (List.getElem?_eq_some_iff.mp present).1
    omega
  | succ left induction =>
    have inside : start < (view.innerOf outer).length := by omega
    obtain ⟨here, present⟩ : ∃ here, (view.innerOf outer)[start]? = some here :=
      ⟨_, List.getElem?_eq_getElem inside⟩
    rw [view.innerFrom_eq_cons present]
    cases accepted : predicate ⟨here, ⟨outer, some start⟩⟩ with
    | true =>
      rw [List.find?_cons_of_pos accepted]
      refine ⟨nofun, fun none => ?_⟩
      rw [none start here (Nat.le_refl start) present] at accepted
      cases accepted
    | false =>
      rw [List.find?_cons_of_neg (by rw [accepted]; decide), induction (start + 1) (by omega)]
      constructor
      · intro none k other later present'
        rcases Nat.eq_or_lt_of_le later with rfl | later
        · rw [present] at present'
          cases present'
          exact accepted
        · exact none k other later present'
      · exact fun none k other later => none k other (by omega)

theorem find?_innerFrom_of_first {start index : Nat} {found : Instruction}
    (later : start ≤ index) (present : (view.innerOf outer)[index]? = some found)
    (accepted : predicate ⟨found, ⟨outer, some index⟩⟩ = true)
    (first : ∀ k other, start ≤ k → k < index → (view.innerOf outer)[k]? = some other →
      predicate ⟨other, ⟨outer, some k⟩⟩ = false) :
    (view.innerFrom outer start).find? predicate = some ⟨found, ⟨outer, some index⟩⟩ := by
  -- induction on the gap between the start and the accepted instruction
  induction gap : index - start generalizing start with
  | zero =>
    obtain rfl : start = index := by omega
    rw [view.innerFrom_eq_cons present, List.find?_cons_of_pos accepted]
  | succ gap induction =>
    have listed : start < (view.innerOf outer).length := by
      have := (List.getElem?_eq_some_iff.mp present).1
      omega
    obtain ⟨here, inside⟩ : ∃ here, (view.innerOf outer)[start]? = some here :=
      ⟨_, List.getElem?_eq_getElem listed⟩
    have refused := first start here (Nat.le_refl start) (by omega) inside
    rw [view.innerFrom_eq_cons inside, List.find?_cons_of_neg (by rw [refused]; decide)]
    exact induction (by omega) (fun k other after before => first k other (by omega) before)
      (by omega)

end View

namespace RaydiumLaunchpad

def isTradeLog (ix : Instruction) : Bool :=
  ix.program == Programs.raydiumLaunchpad && tradeEvent.isPrefixOf ix.data

structure FirstLogAfter (view : View) (position : Position) (index : Nat) (log : Instruction) :
    Prop where
  later : position.following ≤ index
  present : (view.innerOf position.outer)[index]? = some log
  logs : isTradeLog log = true
  first : ∀ k other, position.following ≤ k → k < index →
    (view.innerOf position.outer)[k]? = some other → isTradeLog other = false

def NoLogAfter (view : View) (position : Position) : Prop :=
  ∀ k other, position.following ≤ k → (view.innerOf position.outer)[k]? = some other →
    isTradeLog other = false

theorem FirstLogAfter.next {view : View} {position : Position} {log : Instruction}
    (present : (view.innerOf position.outer)[position.following]? = some log)
    (logs : isTradeLog log = true) : FirstLogAfter view position position.following log :=
  ⟨Nat.le_refl _, present, logs, fun _ _ after before => absurd before (Nat.not_lt.mpr after)⟩

/-- What the event of a launchpad trade reports of its log: a buy pays the logged amount in with
the quote mint and receives the logged amount out in the base mint, and a sale the other way, both
as raw amounts, with the four logged fees in the quote mint, by the payer in the pool state. -/
structure TradeReports (accounts : List Pubkey) (trade : TradeLog) (event : Event) : Prop where
  kind : event.kind = if trade.direction = .buy then .buy else .sell
  input : event.input = some (TokenAmount.unscaled
    (if trade.direction = .buy then accounts.getD 10 default else accounts.getD 9 default)
    trade.amountIn)
  output : event.output = some (TokenAmount.unscaled
    (if trade.direction = .buy then accounts.getD 9 default else accounts.getD 10 default)
    trade.amountOut)
  fees : event.fees =
    [⟨.protocol, accounts.getD 10 default, trade.protocolFee, none⟩,
      ⟨.platform, accounts.getD 10 default, trade.platformFee, none⟩,
      ⟨.creator, accounts.getD 10 default, trade.creatorFee, none⟩,
      ⟨.share, accounts.getD 10 default, trade.shareFee, none⟩]
  baseMint : event.baseMint = some (accounts.getD 9 default)
  quoteMint : event.quoteMint = some (accounts.getD 10 default)
  user : event.user = some (accounts.getD 0 default)
  pool : event.pool = some (accounts.getD 4 default)
  bondingCurve : event.bondingCurve = some (accounts.getD 4 default)

theorem TradeReports.stamp {accounts : List Pubkey} {trade : TradeLog} {event : Event}
    (reports : TradeReports accounts trade event) (stamp : Stamp) :
    TradeReports accounts trade { event with stamp } :=
  ⟨reports.kind, reports.input, reports.output, reports.fees, reports.baseMint, reports.quoteMint,
    reports.user, reports.pool, reports.bondingCurve⟩

theorem TradeLog.parse_ne_missingInstruction (payload : List UInt8) (name : String) :
    TradeLog.parse payload ≠ .error (.missingInstruction name) := by
  intro failed
  by_cases short : payload.length < legacyLength
  · rw [TradeLog.parse_of_short short] at failed
    cases failed
  · rw [TradeLog.parse_eq_decodeAt (Nat.not_lt.mp short)] at failed
    obtain ⟨detail, named⟩ := decodeAt_eq_error failed
    cases named

/-! ### The search for the log -/

theorem findLog_of_first {view : View} {after : Located} {index : Nat} {log : Instruction}
    (first : FirstLogAfter view after.position index log) :
    view.findInnerAfter after (fun next =>
        next.program == Programs.raydiumLaunchpad && next.startsWith tradeEvent) =
      some ⟨log, ⟨after.position.outer, some index⟩⟩ :=
  view.find?_innerFrom_of_first _ _ first.later first.present first.logs first.first

theorem findLog_eq_none_iff (view : View) (after : Located) :
    view.findInnerAfter after (fun next =>
        next.program == Programs.raydiumLaunchpad && next.startsWith tradeEvent) = none ↔
      NoLogAfter view after.position :=
  view.find?_innerFrom_eq_none_iff _ _ _

theorem suffix_of_found {view : View} {after logged : Located}
    (found : view.findInnerAfter after (fun next =>
      next.program == Programs.raydiumLaunchpad && next.startsWith tradeEvent) = some logged) :
    Unchecked.suffix logged.data 16 = .ok (logged.data.drop 16) := by
  unfold View.findInnerAfter at found
  have matched := List.find?_some found
  rw [Bool.and_eq_true] at matched
  exact Unchecked.suffix_of_le (List.isPrefixOf_iff_prefix.mp matched.2).length_le

/-! ### The decoder -/

section Run

variable {context : Context} (enough : 11 ≤ context.accounts.length)
include enough

theorem run_decodeTrade (bytes : List UInt8) :
    (context.view.findInnerAfter context.located (fun next =>
        next.program == Programs.raydiumLaunchpad && next.startsWith tradeEvent) = none →
      Cursor.run (decodeTrade context) bytes = .error (.missingInstruction "TradeEvent")) ∧
    ∀ logged, context.view.findInnerAfter context.located (fun next =>
        next.program == Programs.raydiumLaunchpad && next.startsWith tradeEvent) = some logged →
      (∀ fault, TradeLog.parse (logged.data.drop 16) = .error fault →
        Cursor.run (decodeTrade context) bytes = .error fault) ∧
      ∀ trade, TradeLog.parse (logged.data.drop 16) = .ok trade →
        ∃ event, Cursor.run (decodeTrade context) bytes = .ok (some event) ∧
          TradeReports context.accounts trade event := by
  unfold decodeTrade
  rw [Context.account_of_lt (by omega : 0 < context.accounts.length),
    Context.account_of_lt (by omega : 4 < context.accounts.length),
    Context.account_of_lt (by omega : 9 < context.accounts.length),
    Context.account_of_lt (by omega : 10 < context.accounts.length)]
  simp only [Read.liftM_ok_bind]
  refine ⟨fun none => ?_, fun logged found => ⟨fun fault failed => ?_, fun trade parsed => ?_⟩⟩
  · rw [none]
    rfl
  · rw [found]
    dsimp only
    rw [pure_bind, show tradeEvent.length = 16 from rfl, suffix_of_found found,
      Read.liftM_ok_bind, failed]
    rfl
  · rw [found]
    dsimp only
    rw [pure_bind, show tradeEvent.length = 16 from rfl, suffix_of_found found,
      Read.liftM_ok_bind, parsed, Read.liftM_ok_bind]
    refine ⟨_, rfl, ?_⟩
    -- both directions build the event the same way
    rcases trade with ⟨poolState, amountIn, amountOut, protocolFee, platformFee, creatorFee,
      shareFee, direction, status, exactIn⟩
    cases direction <;> exact ⟨rfl, rfl, rfl, rfl, rfl, rfl, rfl, rfl, rfl⟩

end Run

/-- How a launchpad trade with its eleven accounts is decoded. It fails for want of a trade log
exactly when no inner instruction after it, under the same outer instruction, is one. Otherwise
it reads the first such log after it: it fails exactly as reading the log's payload past its
sixteen-byte tag does, and else reports the logged trade as `TradeReports` says. -/
theorem decode_trade_reads_next_log (context : Context)
    (opened : ∃ opening ∈ [buyExactIn, buyExactOut, sellExactIn, sellExactOut],
      opening <+: context.located.data)
    (enough : 11 ≤ context.accounts.length) :
    (Protocol.raydiumLaunchpad.decode context = .error (.missingInstruction "TradeEvent") ↔
      NoLogAfter context.view context.position) ∧
    ∀ index log, FirstLogAfter context.view context.position index log →
      (∀ fault, Protocol.raydiumLaunchpad.decode context = .error fault ↔
        TradeLog.parse (log.data.drop 16) = .error fault) ∧
      ∀ trade, TradeLog.parse (log.data.drop 16) = .ok trade →
        ∃ event, Protocol.raydiumLaunchpad.decode context = .ok (some event) ∧
          TradeReports context.accounts trade event := by
  obtain ⟨opening, member, opens⟩ := opened
  have selected : Protocol.raydiumLaunchpad.select? context.located.data =
      some (⟨"trade", [buyExactIn, buyExactOut, sellExactIn, sellExactOut], decodeTrade⟩, 8) :=
    Protocol.select?_eq_of_first [] rfl nofun
      (Route.matchLength?_of_prefix (by decide) member opens)
  have ran := run_decodeTrade enough (context.located.data.drop 8)
  -- once a log is found, the decoding fails or reports as reading that log does
  have readsFound : ∀ logged, context.view.findInnerAfter context.located (fun next =>
      next.program == Programs.raydiumLaunchpad && next.startsWith tradeEvent) = some logged →
      (∀ fault, Protocol.raydiumLaunchpad.decode context = .error fault ↔
        TradeLog.parse (logged.data.drop 16) = .error fault) ∧
      ∀ trade, TradeLog.parse (logged.data.drop 16) = .ok trade →
        ∃ event, Protocol.raydiumLaunchpad.decode context = .ok (some event) ∧
          TradeReports context.accounts trade event := by
    intro logged found
    have reported : ∀ trade, TradeLog.parse (logged.data.drop 16) = .ok trade →
        ∃ event, Protocol.raydiumLaunchpad.decode context = .ok (some event) ∧
          TradeReports context.accounts trade event := by
      intro trade parsed
      obtain ⟨event, returned, reports⟩ := (ran.2 logged found).2 trade parsed
      exact ⟨_, Protocol.decode_of_run_some selected returned, reports.stamp _⟩
    refine ⟨fun fault => ⟨fun failed => ?_, fun failed =>
      Protocol.decode_of_run_error selected ((ran.2 logged found).1 fault failed)⟩, reported⟩
    cases parsed : TradeLog.parse (logged.data.drop 16) with
    | error cause =>
      rw [Protocol.decode_of_run_error selected ((ran.2 logged found).1 cause parsed)] at failed
      cases failed
      rfl
    | ok trade =>
      obtain ⟨event, decoded, -⟩ := reported trade parsed
      rw [decoded] at failed
      cases failed
  refine ⟨⟨fun missing => ?_, fun none => ?_⟩, fun index log first => ?_⟩
  · refine (findLog_eq_none_iff context.view context.located).mp ?_
    cases found : context.view.findInnerAfter context.located (fun next =>
        next.program == Programs.raydiumLaunchpad && next.startsWith tradeEvent) with
    | none => rfl
    | some logged =>
      exact absurd ((readsFound logged found).1 _ |>.mp missing)
        (TradeLog.parse_ne_missingInstruction _ _)
  · exact Protocol.decode_of_run_error selected (ran.1 ((findLog_eq_none_iff _ _).mpr none))
  · exact readsFound _ (findLog_of_first first)

/-- Of two trades under one outer instruction, each followed by its own log, the second reads the
log right after it: that log's empty payload, not the single byte after the first log's tag,
decides the fault. -/
theorem decode_second_trade_reads_own_log :
    Protocol.raydiumLaunchpad.decode
      ⟨.raydiumLaunchpad,
        ⟨⟨Programs.raydiumLaunchpad, List.replicate 11 Pubkey.zero, buyExactIn⟩, ⟨0, some 2⟩⟩,
        ⟨{ innerSets := [⟨0,
          [⟨Programs.raydiumLaunchpad, List.replicate 11 Pubkey.zero, buyExactIn⟩,
            ⟨Programs.raydiumLaunchpad, [], tradeEvent ++ [1]⟩,
            ⟨Programs.raydiumLaunchpad, List.replicate 11 Pubkey.zero, buyExactIn⟩,
            ⟨Programs.raydiumLaunchpad, [], tradeEvent⟩]⟩] }, {}⟩, {}⟩ =
      .error (.outOfBounds 131 0) :=
  ((decode_trade_reads_next_log _ ⟨buyExactIn, by simp, List.prefix_refl _⟩ (by decide)).2 3
      ⟨Programs.raydiumLaunchpad, [], tradeEvent⟩
      (FirstLogAfter.next rfl (by simp [isTradeLog]))).1 _ |>.mpr
    (TradeLog.parse_of_short (by decide))

end RaydiumLaunchpad

end MemeEvents
