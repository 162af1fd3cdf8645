import MemeEvents.Proofs.Chain.Index

/-!
How an account's balances changed over a transaction. A lamport change is the balance after less the
balance before, and there is none unless both are known.
-/

namespace MemeEvents

namespace View

variable (view : View)

/-- The amount the account held before, from the last token balance listed for it; zero when
none is. -/
def tokenAmountBefore (account : Pubkey) : Nat :=
  ((view.tx.preTokenBalances.reverse.find? (·.account == account)).map (·.amount)).getD 0

def tokenAmountAfter (account : Pubkey) : Nat :=
  ((view.tx.postTokenBalances.reverse.find? (·.account == account)).map (·.amount)).getD 0

theorem signed128_sub_signed128 (after before : Int) :
    signed128 (signed128 after - signed128 before) = signed128 (after - before) := by
  unfold signed128
  rw [Int.bmod_sub_bmod, Int.sub_bmod_bmod]

theorem signed128_eq_self_iff (value : Int) :
    signed128 value = value ↔ -(Nat.pow 2 127 : Int) ≤ value ∧ value < Nat.pow 2 127 := by
  -- `bmod` by `2^128` ranges over `2^127` on either side of zero
  have double : Nat.pow 2 128 = 2 * Nat.pow 2 127 := by decide
  unfold signed128
  constructor
  · intro same
    have lower := Int.le_bmod (x := value) (show 0 < Nat.pow 2 128 by decide)
    have upper := Int.bmod_lt (x := value) (show 0 < Nat.pow 2 128 by decide)
    rw [same] at lower upper
    omega
  · rintro ⟨lower, upper⟩
    apply Int.bmod_eq_of_le <;> omega

theorem tokenBalanceChange_eq (account : Pubkey) :
    view.tokenBalanceChange account =
      if view.tx.preTokenBalances.reverse.find? (·.account == account) = none ∧
          view.tx.postTokenBalances.reverse.find? (·.account == account) = none then none
      else
        some (signed128 ((view.tokenAmountAfter account : Int) - view.tokenAmountBefore account)) := by
  unfold tokenBalanceChange tokenAmountAfter tokenAmountBefore
  rw [view.preTokenBalance_scan, view.postTokenBalance_scan]
  cases view.tx.preTokenBalances.reverse.find? (·.account == account) <;>
    cases view.tx.postTokenBalances.reverse.find? (·.account == account) <;>
    simp [signed128_sub_signed128]

/-- The changes of an account's balances. A token change is missing exactly when the account has
no token balance on either side; otherwise it is the amount after less the amount before, wrapped
to a signed 128-bit word, and so it is that difference itself exactly when the difference lies
between `-2^127` and `2^127`. A lamport change is the balance after less the balance before,
when both are known. -/
theorem balance_changes (account : Pubkey) :
    (view.tokenBalanceChange account = none ↔
      view.tx.preTokenBalances.reverse.find? (·.account == account) = none ∧
        view.tx.postTokenBalances.reverse.find? (·.account == account) = none) ∧
    (∀ change, view.tokenBalanceChange account = some change →
      change = signed128 ((view.tokenAmountAfter account : Int) - view.tokenAmountBefore account)) ∧
    (view.tokenBalanceChange account =
        some ((view.tokenAmountAfter account : Int) - view.tokenAmountBefore account) ↔
      view.tokenBalanceChange account ≠ none ∧
        -(Nat.pow 2 127 : Int) ≤
          (view.tokenAmountAfter account : Int) - view.tokenAmountBefore account ∧
        (view.tokenAmountAfter account : Int) - view.tokenAmountBefore account < Nat.pow 2 127) ∧
    (∀ change, view.balanceChange account = some change ↔
      ∃ before after, view.preBalance account = some before ∧
        view.postBalance account = some after ∧
        change = (after : Int) - before) := by
  rw [tokenBalanceChange_eq]
  refine ⟨?_, ?_, ?_, fun change => ?_⟩
  · split <;> simp_all
  · split
    · nofun
    · rintro change ⟨⟩
      rfl
  · split
    · simp
    · simp only [Option.some.injEq, ne_eq, reduceCtorEq, not_false_eq_true, true_and]
      exact signed128_eq_self_iff _
  · unfold balanceChange
    cases view.postBalance account <;> cases view.preBalance account <;> simp [eq_comm]

/-- An account that ends holding `2^127` tokens from nothing has its change reported wrapped. -/
theorem balance_changes_of_wrapped :
    -(Nat.pow 2 127 : Int) =
      signed128
        ((({ tx := { postTokenBalances := [⟨0, Pubkey.zero, Pubkey.zero, none, Nat.pow 2 127, 6⟩] } } :
          View).tokenAmountAfter Pubkey.zero : Int) -
      ({ tx := { postTokenBalances := [⟨0, Pubkey.zero, Pubkey.zero, none, Nat.pow 2 127, 6⟩] } } :
        View).tokenAmountBefore Pubkey.zero) :=
  (balance_changes _ Pubkey.zero).2.1 _ (by decide)

/-- A token account that ends holding `2^127` from nothing is reported as having lost `2^127`. -/
theorem tokenBalanceChange_wraps_at_half :
    ({ tx := { postTokenBalances := [⟨0, Pubkey.zero, Pubkey.zero, none, Nat.pow 2 127, 6⟩] } } :
        View).tokenBalanceChange Pubkey.zero = some (-(Nat.pow 2 127 : Int)) ∧
    (({ tx := { postTokenBalances := [⟨0, Pubkey.zero, Pubkey.zero, none, Nat.pow 2 127, 6⟩] } } :
        View).tokenAmountAfter Pubkey.zero : Int) -
      ({ tx := { postTokenBalances := [⟨0, Pubkey.zero, Pubkey.zero, none, Nat.pow 2 127, 6⟩] } } :
        View).tokenAmountBefore Pubkey.zero = Nat.pow 2 127 := by
  decide

end View

end MemeEvents
