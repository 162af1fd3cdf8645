import MemeEvents.Decode.Context
import MemeEvents.Proofs.Chain.Order

/-! What a decoder may read of a transaction. -/

namespace MemeEvents

/-! Lists built block by block over the indexed outer instructions. -/

theorem filter_zipIdx_index {α : Type} (values : List α) :
    ∀ start k, (values.zipIdx start).filter (·.2 == start + k) =
      ((values[k]?).map (·, start + k)).toList := by
  induction values with
  | nil =>
    intro start k
    rfl
  | cons value rest induction =>
    intro start k
    cases k with
    | zero =>
      simp only [List.zipIdx_cons, List.filter_cons, Nat.add_zero, beq_self_eq_true, if_true,
        List.getElem?_cons_zero, Option.map_some, Option.toList_some, List.cons.injEq, true_and]
      -- the later entries all have larger indices
      rw [List.filter_eq_nil_iff]
      intro entry member
      have above := List.le_snd_of_mem_zipIdx member
      simp only [beq_iff_eq]
      omega
    | succ k =>
      have shifted := induction (start + 1) k
      rw [Nat.add_right_comm] at shifted
      have skipped : start ≠ start + k + 1 := by omega
      simp [← Nat.add_assoc, shifted, skipped]

private theorem flatMap_eq_flatMap_filter {γ β : Type} {entries : List γ} {f : γ → List β}
    {keep : γ → Bool} (off : ∀ entry ∈ entries, keep entry = false → f entry = []) :
    entries.flatMap f = (entries.filter keep).flatMap f := by
  induction entries with
  | nil => rfl
  | cons entry rest induction =>
    have tail := induction fun other member => off other (List.mem_cons_of_mem entry member)
    cases kept : keep entry with
    | true => simp [kept, tail]
    | false => simp [kept, off entry List.mem_cons_self kept, tail]

theorem filter_flatMap_zipIdx {α β : Type} (values : List α) (block : α → Nat → List β)
    (keep : β → Bool) (n : Nat) (only : ∀ value i, ∀ item ∈ block value i, keep item = true → i = n) :
    (values.zipIdx.flatMap fun entry => block entry.1 entry.2).filter keep =
      (values[n]?).toList.flatMap fun value => (block value n).filter keep := by
  rw [List.filter_flatMap]
  have off : ∀ entry ∈ values.zipIdx, (entry.2 == n) = false →
      (block entry.1 entry.2).filter keep = [] := by
    intro entry _ other
    rw [List.filter_eq_nil_iff]
    intro item member kept
    have at_ := only entry.1 entry.2 item member kept
    simp [at_] at other
  rw [flatMap_eq_flatMap_filter off]
  have indexed := filter_zipIdx_index values 0 n
  rw [Nat.zero_add] at indexed
  rw [indexed]
  cases values[n]? <;> simp

namespace View

theorem flat_filter_outer (view : View) (outer : Nat) :
    view.flat.filter (·.position.outer == outer) =
      (view.instructions[outer]?).toList.flatMap fun top => view.block top outer := by
  rw [flat_eq_flatMap_block, filter_flatMap_zipIdx]
  · -- a block keeps all of itself
    congr 1
    funext top
    rw [List.filter_eq_self]
    intro located member
    simp [outer_of_mem_block member]
  · intro top i located member kept
    rw [← outer_of_mem_block member]
    simpa using kept

theorem findByPrefix_under (view : View) (program : Option Pubkey) (prefix_ : List UInt8)
    (outer : Nat) :
    view.findByPrefix program prefix_ (some outer) =
      ((view.instructions[outer]?).toList.flatMap fun top => view.block top outer).find?
        fun located => program.all (· == located.program) && located.startsWith prefix_ := by
  rw [← flat_filter_outer, List.find?_filter, findByPrefix]
  congr 1
  funext located
  by_cases here : located.position.outer = outer
  · simp [here]
  · have there : outer ≠ located.position.outer := fun back => here back.symm
    simp [here, there]

/-- Two transactions agree on everything that decoding an instruction under the outer
instruction at `outer` may read: the transaction-wide data, that outer instruction and its
inner instructions. -/
structure AgreeUnder (left right : View) (outer : Nat) : Prop where
  signature : left.tx.signature = right.tx.signature
  slot : left.tx.slot = right.tx.slot
  blockTime : left.tx.blockTime = right.tx.blockTime
  signers : left.tx.signers = right.tx.signers
  accountKeys : left.tx.accountKeys = right.tx.accountKeys
  preBalances : left.tx.preBalances = right.tx.preBalances
  postBalances : left.tx.postBalances = right.tx.postBalances
  preTokenBalances : left.tx.preTokenBalances = right.tx.preTokenBalances
  postTokenBalances : left.tx.postTokenBalances = right.tx.postTokenBalances
  decimals : left.decimals = right.decimals
  top : left.instructions[outer]? = right.instructions[outer]?
  inner : left.innerOf outer = right.innerOf outer

namespace AgreeUnder

variable {left right : View} {outer : Nat} (agree : left.AgreeUnder right outer)
include agree

/-! The look-ups of the whole transaction read only its shared data. -/

theorem signer : left.signer = right.signer := by
  unfold View.signer
  rw [agree.signers, agree.accountKeys]

theorem balanceChange (account : Pubkey) : left.balanceChange account = right.balanceChange account := by
  unfold View.balanceChange View.postBalance View.preBalance View.accountPosition
  rw [agree.accountKeys, agree.preBalances, agree.postBalances]

theorem tokenBalanceChange (account : Pubkey) :
    left.tokenBalanceChange account = right.tokenBalanceChange account := by
  unfold View.tokenBalanceChange View.preTokenBalance View.postTokenBalance
  rw [agree.preTokenBalances, agree.postTokenBalances]

theorem tokenAccountInfo (account : Pubkey) :
    left.tokenAccountInfo account = right.tokenAccountInfo account := by
  unfold View.tokenAccountInfo View.preTokenBalance View.postTokenBalance
  rw [agree.preTokenBalances, agree.postTokenBalances]

theorem mintDecimals (mint : Pubkey) : left.mintDecimals mint = right.mintDecimals mint := by
  unfold View.mintDecimals View.localDecimals
  rw [agree.preTokenBalances, agree.postTokenBalances, agree.decimals]

/-! The searches that start from an instruction stay under its outer instruction. -/

theorem block (top : Instruction) : left.block top outer = right.block top outer := by
  unfold View.block
  rw [agree.inner]

theorem findByPrefix (program : Option Pubkey) (prefix_ : List UInt8) :
    left.findByPrefix program prefix_ (some outer) = right.findByPrefix program prefix_ (some outer) := by
  rw [findByPrefix_under, findByPrefix_under, agree.top]
  simp only [agree.block]

theorem parentOf {child : Located} (under : child.position.outer = outer) (program : Pubkey) :
    left.parentOf child program = right.parentOf child program := by
  simp only [View.parentOf, under, agree.inner, agree.top]

theorem findInnerAfter {after : Located} (under : after.position.outer = outer)
    (predicate : Located → Bool) :
    left.findInnerAfter after predicate = right.findInnerAfter after predicate := by
  simp only [View.findInnerAfter, View.innerFrom, under, agree.inner]

end AgreeUnder

end View

namespace Context

structure Agree (left right : Context) : Prop where
  protocol : left.protocol = right.protocol
  located : left.located = right.located
  view : left.view.AgreeUnder right.view left.position.outer
  transfers : ∀ program position, position.outer = left.position.outer →
    left.transfers.get program position = right.transfers.get program position

namespace Agree

variable {left right : Context} (same : left.Agree right)
include same

theorem account (index : Nat) : left.account index = right.account index := by
  unfold Context.account Context.accounts
  rw [same.located]

theorem event (kind : EventKind) : left.event kind = right.event kind := by
  unfold Context.event Context.program
  rw [same.located, same.protocol]

theorem signer : left.signer = right.signer := same.view.signer

theorem records : left.records = right.records := by
  unfold Context.records Context.program
  rw [same.transfers _ _ rfl]
  unfold Context.position
  rw [same.located]

theorem requireRecords (count : Nat) : left.requireRecords count = right.requireRecords count := by
  unfold Context.requireRecords
  rw [same.records]

theorem findByPrefix (program : Option Pubkey) (prefix_ : List UInt8) :
    left.view.findByPrefix program prefix_ (some left.position.outer) =
      right.view.findByPrefix program prefix_ (some right.position.outer) := by
  rw [same.view.findByPrefix]
  unfold Context.position
  rw [same.located]

theorem parentOf (program : Pubkey) :
    left.view.parentOf left.located program = right.view.parentOf right.located program := by
  rw [same.view.parentOf rfl, same.located]

theorem findInnerAfter (predicate : Located → Bool) :
    left.view.findInnerAfter left.located predicate =
      right.view.findInnerAfter right.located predicate := by
  rw [same.view.findInnerAfter rfl, same.located]

end Agree

end Context

end MemeEvents
