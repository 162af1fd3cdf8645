import MemeEvents.Chain.View

/-! The index of a transaction against a plain scan of its lists. -/

namespace MemeEvents

namespace KeyTable

variable {κ ν : Type} [BEq κ] [LawfulBEq κ]

theorem get?_foldl_insert (pairs : List (κ × ν)) (table : KeyTable κ ν) (key : κ) :
    (pairs.foldl (fun table pair => table.insert pair.1 pair.2) table).get? key =
      ((pairs.reverse.find? (·.1 == key)).map (·.2)).or (table.get? key) := by
  induction pairs generalizing table with
  | nil => rfl
  | cons pair rest induction =>
      rw [List.foldl_cons, induction, get?_insert, List.reverse_cons, List.find?_append,
        Option.map_or, Option.or_assoc]
      by_cases same : pair.1 = key
      · simp [same]
      · simp [same]

theorem get?_ofList (pairs : List (κ × ν)) (key : κ) :
    (ofList pairs).get? key = (pairs.reverse.find? (·.1 == key)).map (·.2) := by
  unfold ofList
  rw [get?_foldl_insert, get?_empty, Option.or_none]

theorem get?_foldl_insertIfNew (pairs : List (κ × ν)) (table : KeyTable κ ν) (key : κ) :
    (pairs.foldl (fun table pair => table.insertIfNew pair.1 pair.2) table).get? key =
      (table.get? key).or ((pairs.find? (·.1 == key)).map (·.2)) := by
  induction pairs generalizing table with
  | nil => simp
  | cons pair rest induction =>
      rw [List.foldl_cons, induction, List.find?_cons]
      unfold insertIfNew
      -- one insertion changes the table only when the key is new, and then only at that key
      cases present : table.get? pair.1 with
      | some value =>
          simp only [Option.isSome_some, if_true]
          cases equal : pair.1 == key with
          | true =>
              rw [← eq_of_beq equal, present]
              rfl
          | false => rfl
      | none =>
          simp only [Option.isSome_none, Bool.false_eq_true, if_false]
          rw [get?_insert]
          cases equal : pair.1 == key with
          | true =>
              rw [← eq_of_beq equal, present]
              rfl
          | false => rfl

omit [LawfulBEq κ] in
private theorem find?_zipIdx_index (keys : List κ) (key : κ) (start : Nat) :
    ((keys.zipIdx start).find? (·.1 == key)).map (·.2) = (keys.idxOf? key).map (· + start) := by
  induction keys generalizing start with
  | nil => rfl
  | cons first rest induction =>
      rw [List.zipIdx_cons, List.find?_cons, List.idxOf?_cons]
      cases first == key with
      | true => simp
      | false =>
          simp only [Bool.false_eq_true, if_false]
          rw [induction, Option.map_map]
          congr 1
          funext index
          simp only [Function.comp_apply]
          omega

theorem get?_firstPositions (keys : List κ) (key : κ) :
    (firstPositions keys).get? key = keys.idxOf? key := by
  unfold firstPositions
  rw [get?_foldl_insertIfNew, get?_empty, Option.none_or, find?_zipIdx_index]
  simp

theorem lastPositions_read {α : Type} (key : α → κ) (items : List α) (wanted : κ) :
    ((lastPositions key items).get? wanted).bind (items[·]?) =
      items.reverse.find? (key · == wanted) := by
  unfold lastPositions
  rw [get?_ofList, ← List.map_reverse, List.find?_map, Option.map_map]
  -- the entry found is an item with its own index, so reading the index gives the item back
  have read : ((items.zipIdx.reverse.find? fun entry => key entry.1 == wanted).map
      (Prod.snd ∘ fun entry => (key entry.1, entry.2))).bind (items[·]?) =
      (items.zipIdx.reverse.find? fun entry => key entry.1 == wanted).map (·.1) := by
    cases found : items.zipIdx.reverse.find? fun entry => key entry.1 == wanted with
    | none => rfl
    | some entry =>
        have member : entry ∈ items.zipIdx :=
          List.mem_reverse.mp (List.mem_of_find?_eq_some found)
        exact List.mem_zipIdx_iff_getElem?.mp member
  have scanned : (items.zipIdx.reverse.find? fun entry => key entry.1 == wanted).map (·.1) =
      items.reverse.find? (key · == wanted) := by
    show (items.zipIdx.reverse.find? ((key · == wanted) ∘ Prod.fst)).map Prod.fst = _
    rw [← List.find?_map, List.map_reverse, List.zipIdx_map_fst]
  exact read.trans scanned

end KeyTable

namespace View

/-- What a scan of the transaction's lists answers to each look-up. A lamport balance is read at
the first position of the account's key, and is missing when the key is absent or the balance
list ends before that position; a token balance is the last one listed for its account; an
account's mint, owner and decimals come from its balance after, else from its balance before;
an outer instruction's inner instructions are those of the last set listed for it; and a
mint's decimals are nine for wrapped SOL, else those of the last token balance of the mint,
balances before first, else the snapshot's. -/
structure ScanAnswers (view : View) : Prop where
  preBalance : ∀ account, view.preBalance account =
    (view.tx.accountKeys.idxOf? account).bind (view.tx.preBalances[·]?)
  postBalance : ∀ account, view.postBalance account =
    (view.tx.accountKeys.idxOf? account).bind (view.tx.postBalances[·]?)
  balanceChange : ∀ account, view.balanceChange account =
    ((view.tx.accountKeys.idxOf? account).bind (view.tx.postBalances[·]?)).bind fun post =>
      ((view.tx.accountKeys.idxOf? account).bind (view.tx.preBalances[·]?)).bind fun pre =>
        some ((post : Int) - pre)
  preTokenBalance : ∀ account, view.preTokenBalance account =
    view.tx.preTokenBalances.reverse.find? (·.account == account)
  postTokenBalance : ∀ account, view.postTokenBalance account =
    view.tx.postTokenBalances.reverse.find? (·.account == account)
  tokenAccountInfo : ∀ account, view.tokenAccountInfo account =
    ((view.tx.postTokenBalances.reverse.find? (·.account == account)).or
      (view.tx.preTokenBalances.reverse.find? (·.account == account))).map fun balance =>
        ⟨balance.mint, balance.owner, balance.decimals⟩
  innerOf : ∀ outer, view.innerOf outer =
    ((view.tx.innerSets.reverse.find? (·.index == outer)).map (·.instructions)).getD []
  outerAt : ∀ outer, view.instructionAt outer none = view.tx.instructions[outer]?
  innerAt : ∀ outer inner, view.instructionAt outer (some inner) =
    (((view.tx.innerSets.reverse.find? (·.index == outer)).map (·.instructions)).getD [])[inner]?
  mintDecimals : ∀ mint, view.mintDecimals mint =
    if mint = Programs.wrappedSol then .ok 9
    else ((((view.tx.preTokenBalances ++ view.tx.postTokenBalances).reverse.find?
        (·.mint == mint)).map (·.decimals)).or (view.decimals.get? mint)).elim
      (.error (.unknownDecimals mint)) .ok

variable (view : View)

theorem preBalance_scan (account : Pubkey) :
    view.preBalance account = (view.tx.accountKeys.idxOf? account).bind (view.tx.preBalances[·]?) := by
  unfold preBalance accountPosition
  rw [KeyTable.get?_firstPositions]

theorem postBalance_scan (account : Pubkey) :
    view.postBalance account =
      (view.tx.accountKeys.idxOf? account).bind (view.tx.postBalances[·]?) := by
  unfold postBalance accountPosition
  rw [KeyTable.get?_firstPositions]

theorem preTokenBalance_scan (account : Pubkey) :
    view.preTokenBalance account = view.tx.preTokenBalances.reverse.find? (·.account == account) :=
  KeyTable.lastPositions_read _ _ account

theorem postTokenBalance_scan (account : Pubkey) :
    view.postTokenBalance account =
      view.tx.postTokenBalances.reverse.find? (·.account == account) :=
  KeyTable.lastPositions_read _ _ account

theorem innerOf_scan (outer : Nat) :
    view.innerOf outer =
      ((view.tx.innerSets.reverse.find? (·.index == outer)).map (·.instructions)).getD [] := by
  rw [← KeyTable.lastPositions_read (·.index) view.tx.innerSets outer]
  unfold innerOf
  cases (KeyTable.lastPositions (·.index) view.tx.innerSets).get? outer <;> rfl

theorem mintDecimals_scan (mint : Pubkey) :
    view.mintDecimals mint =
      if mint = Programs.wrappedSol then .ok 9
      else ((((view.tx.preTokenBalances ++ view.tx.postTokenBalances).reverse.find?
          (·.mint == mint)).map (·.decimals)).or (view.decimals.get? mint)).elim
        (.error (.unknownDecimals mint)) .ok := by
  -- the decimals table is collected from the balances before, then after
  have local_ : view.localDecimals mint =
      ((view.tx.preTokenBalances ++ view.tx.postTokenBalances).reverse.find?
        (·.mint == mint)).map (·.decimals) := by
    unfold localDecimals
    rw [KeyTable.get?_ofList, ← List.map_reverse, List.find?_map, Option.map_map]
    rfl
  unfold mintDecimals
  by_cases wrapped : mint = Programs.wrappedSol
  · simp [wrapped, Programs.solDecimals]
  · simp only [wrapped, beq_iff_eq, if_false]
    rw [← local_]
    cases view.localDecimals mint with
    | some decimals => rfl
    | none => cases view.decimals.get? mint <;> rfl

/-- The indexed look-ups of a transaction answer what a scan of its lists answers. -/
theorem indexed_lookups_eq_scans : view.ScanAnswers := by
  refine ⟨view.preBalance_scan, view.postBalance_scan, ?_, view.preTokenBalance_scan,
    view.postTokenBalance_scan, ?_, view.innerOf_scan, fun _ => rfl, ?_, view.mintDecimals_scan⟩
  · intro account
    unfold balanceChange
    rw [view.preBalance_scan, view.postBalance_scan]
    rfl
  · intro account
    unfold tokenAccountInfo
    rw [view.preTokenBalance_scan, view.postTokenBalance_scan]
    cases view.tx.postTokenBalances.reverse.find? (·.account == account) <;> rfl
  · intro outer inner
    unfold instructionAt
    rw [view.innerOf_scan]

end View

end MemeEvents
