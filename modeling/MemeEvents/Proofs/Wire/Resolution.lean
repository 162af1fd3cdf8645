import Mathlib.Data.List.Forall2
import MemeEvents.Wire.Compiled
import MemeEvents.Proofs.Number.DecimalText
import MemeEvents.Proofs.Decode.Outcomes

/-!
Resolving a compiled transaction against its key table. The key table of a message is its own keys
followed by the addresses its status loaded from look-up tables, writable and then readonly.
-/

namespace MemeEvents

namespace Except

variable {ε α β : Type}

theorem mapM_eq_ok_iff {f : α → Except ε β} {items : List α} {results : List β} :
    items.mapM f = .ok results ↔
      List.Forall₂ (fun item result => f item = .ok result) items results := by
  induction items generalizing results with
  | nil => cases results <;> simp [pure, Except.pure]
  | cons item rest ih =>
    rw [List.mapM_cons]
    cases results with
    | nil => cases f item <;> cases rest.mapM f <;> simp [bind, Except.bind, pure, Except.pure]
    | cons head tail =>
      rw [List.forall₂_cons, ← ih]
      cases f item <;> cases rest.mapM f <;> simp [bind, Except.bind, pure, Except.pure]

theorem ite_bind {c : Prop} [Decidable c] {first second : Except ε α} {rest : α → Except ε β} :
    (if c then first >>= rest else second >>= rest) = (if c then first else second) >>= rest := by
  split <;> rfl

end Except

theorem forall₂_iff_map_eq_map {α β γ : Type} {f : α → γ} {g : β → γ} {l : List α} {r : List β} :
    List.Forall₂ (fun a b => f a = g b) l r ↔ l.map f = r.map g := by
  induction l generalizing r with
  | nil => cases r <;> simp
  | cons a l ih => cases r <;> simp [ih]

theorem exists_forall₂_iff {α β : Type} {R : α → β → Prop} {l : List α} :
    (∃ r, List.Forall₂ R l r) ↔ ∀ a ∈ l, ∃ b, R a b := by
  induction l with
  | nil => simp
  | cons a l ih =>
    simp only [List.forall₂_cons_left_iff, List.forall_mem_cons, ← ih]
    constructor
    · rintro ⟨_, b, r, related, rest, rfl⟩
      exact ⟨⟨b, related⟩, r, rest⟩
    · rintro ⟨⟨b, related⟩, r, rest⟩
      exact ⟨_, b, r, related, rest, rfl⟩

theorem Pubkey.forall₂_bytes_iff {table : List (List UInt8)} {keys : List Pubkey} :
    List.Forall₂ (fun bytes (key : Pubkey) => bytes = key.bytes) table keys ↔
      keys.map Pubkey.bytes = table := by
  have byBytes := @forall₂_iff_map_eq_map _ _ _ id Pubkey.bytes table keys
  rw [List.map_id] at byBytes
  exact byBytes.trans eq_comm

theorem Pubkey.bytes_injective : Function.Injective Pubkey.bytes := by
  rintro ⟨bytes, _⟩ ⟨_, _⟩ same
  cases same
  rfl

theorem Signature.bytes_injective : Function.Injective Signature.bytes := by
  rintro ⟨bytes, _⟩ ⟨_, _⟩ same
  cases same
  rfl

/-! ### What resolving reads and returns -/

def CompiledMessage.keyTable (message : CompiledMessage) (status : StatusMeta) :
    List (List UInt8) :=
  message.accountKeys ++ status.loadedWritable ++ status.loadedReadonly

namespace Compiled

def Within (size : Nat) (compiled : CompiledInstruction) : Prop :=
  compiled.programIndex < size ∧ ∀ index ∈ compiled.accounts, index < size

structure Names (keys : List Pubkey) (compiled : CompiledInstruction) (ix : Instruction) :
    Prop where
  program : keys[compiled.programIndex]? = some ix.program
  accounts : compiled.accounts.map (keys[·]?) = ix.accounts.map some
  data : ix.data = compiled.data

def SetNames (keys : List Pubkey) (set : CompiledInnerSet) (read : InnerSet) : Prop :=
  read.index = set.index ∧ List.Forall₂ (Names keys) set.instructions read.instructions

def OwnerText (text : String) : Option Pubkey → Prop
  | none => text = ""
  | some key => text ≠ "" ∧ Pubkey.parse text = .ok key

structure Reads (keys : List Pubkey) (compiled : CompiledTokenBalance) (balance : TokenBalance) :
    Prop where
  index : balance.accountIndex = compiled.accountIndex
  account : keys[compiled.accountIndex]? = some balance.account
  mint : Pubkey.parse compiled.mint = .ok balance.mint
  owner : OwnerText compiled.owner balance.owner
  amount : ∃ reported, compiled.amount = some reported ∧
    IntegerText.Spells 128 reported.amount balance.amount ∧
    balance.decimals = reported.decimals ∧ reported.decimals < 256

structure Readable (compiled : CompiledTokenBalance) : Prop where
  amount : ∃ reported value, compiled.amount = some reported ∧
    IntegerText.Spells 128 reported.amount value ∧ reported.decimals < 256
  mint : ∃ key, Pubkey.parse compiled.mint = .ok key
  owner : compiled.owner ≠ "" → ∃ key, Pubkey.parse compiled.owner = .ok key

end Compiled

structure CompiledMessage.Resolvable (message : CompiledMessage) (status : StatusMeta) :
    Prop where
  keys : ∀ key ∈ message.keyTable status, key.length = 32
  instructions : ∀ ix ∈ message.instructions, Compiled.Within (message.keyTable status).length ix
  innerSets : ∀ set ∈ status.innerSets, ∀ ix ∈ set.instructions,
    Compiled.Within (message.keyTable status).length ix
  tokenBalances : ∀ balance ∈ status.preTokenBalances ++ status.postTokenBalances,
    balance.accountIndex < (message.keyTable status).length ∧ Compiled.Readable balance

def CompiledTransaction.Resolvable (compiled : CompiledTransaction) (status : StatusMeta) : Prop :=
  ∃ message first, compiled.message = some message ∧ compiled.signatures.head? = some first ∧
    first.length = 64 ∧ message.Resolvable status

/-- `tx` is what `message` stands for under `status`: its keys are the key table, its signers
the leading keys (as many as the header requires, one without a header, never beyond the
message's own keys), its outer instructions, inner sets and token balances those of the message
and status read against its keys, and its lamport balances those of the status. -/
structure CompiledMessage.Denotes (message : CompiledMessage) (status : StatusMeta)
    (tx : Transaction) : Prop where
  keys : tx.accountKeys.map Pubkey.bytes = message.keyTable status
  signers : tx.signers = tx.accountKeys.take
    (min (message.header.elim 1 (·.requiredSignatures)) message.accountKeys.length)
  instructions : List.Forall₂ (Compiled.Names tx.accountKeys) message.instructions tx.instructions
  innerSets : List.Forall₂ (Compiled.SetNames tx.accountKeys) status.innerSets tx.innerSets
  preBalances : tx.preBalances = status.preBalances
  postBalances : tx.postBalances = status.postBalances
  preTokenBalances :
    List.Forall₂ (Compiled.Reads tx.accountKeys) status.preTokenBalances tx.preTokenBalances
  postTokenBalances :
    List.Forall₂ (Compiled.Reads tx.accountKeys) status.postTokenBalances tx.postTokenBalances

def CompiledTransaction.Denotes (compiled : CompiledTransaction) (status : StatusMeta) (slot : Nat)
    (blockTime : Option Int) (tx : Transaction) : Prop :=
  compiled.signatures.head? = some tx.signature.bytes ∧ tx.slot = slot ∧
    tx.blockTime = blockTime ∧ ∃ message, compiled.message = some message ∧ message.Denotes status tx

/-! ### One lemma per step -/

namespace Compiled

variable {keys : List Pubkey}

theorem keyOfBytes_eq_ok_iff {bytes : List UInt8} {key : Pubkey} :
    keyOfBytes bytes = .ok key ↔ bytes = key.bytes := by
  unfold keyOfBytes Pubkey.ofBytes?
  by_cases sized : bytes.length = 32
  · obtain ⟨keyBytes, _⟩ := key
    simp [sized]
  · simp only [sized, dite_false, reduceCtorEq, false_iff]
    rintro rfl
    exact sized key.size_eq

theorem keys_eq_ok_iff {table : List (List UInt8)} :
    table.mapM keyOfBytes = .ok keys ↔ keys.map Pubkey.bytes = table := by
  rw [Except.mapM_eq_ok_iff, ← Pubkey.forall₂_bytes_iff]
  simp only [keyOfBytes_eq_ok_iff]

theorem keyAt_eq_ok_iff {index : Nat} {key : Pubkey} :
    keyAt keys index = .ok key ↔ keys[index]? = some key := by
  unfold keyAt
  cases keys[index]? <;> simp

theorem keyOfText_eq_ok_iff {text : String} {key : Pubkey} :
    keyOfText text = .ok key ↔ Pubkey.parse text = .ok key := by
  unfold keyOfText
  cases Pubkey.parse text <;> simp

theorem instruction_eq_ok_iff {compiled : CompiledInstruction} {ix : Instruction} :
    instruction keys compiled = .ok ix ↔ Names keys compiled ix := by
  have accounts : ∀ found : List Pubkey, compiled.accounts.mapM (keyAt keys) = .ok found ↔
      compiled.accounts.map (keys[·]?) = found.map some := fun found => by
    rw [Except.mapM_eq_ok_iff, ← forall₂_iff_map_eq_map]
    simp only [keyAt_eq_ok_iff]
  constructor
  · intro resolved
    obtain ⟨program, programFound, resolved⟩ := Except.bind_eq_ok resolved
    obtain ⟨found, accountsFound, resolved⟩ := Except.bind_eq_ok resolved
    cases resolved
    exact ⟨keyAt_eq_ok_iff.mp programFound, (accounts found).mp accountsFound, rfl⟩
  · obtain ⟨program, found, data⟩ := ix
    rintro ⟨programFound, accountsFound, rfl⟩
    rw [instruction, keyAt_eq_ok_iff.mpr programFound, Except.ok_bind,
      (accounts found).mpr accountsFound, Except.ok_bind]
    rfl

theorem instructions_eq_ok_iff {compiled : List CompiledInstruction} {read : List Instruction} :
    compiled.mapM (instruction keys) = .ok read ↔ List.Forall₂ (Names keys) compiled read := by
  rw [Except.mapM_eq_ok_iff]
  simp only [instruction_eq_ok_iff]

theorem innerSets_eq_ok_iff {sets : List CompiledInnerSet} {read : List InnerSet} :
    sets.mapM (fun set => do
        let instructions ← set.instructions.mapM (instruction keys)
        pure (⟨set.index, instructions⟩ : InnerSet)) = .ok read ↔
      List.Forall₂ (SetNames keys) sets read := by
  have each : ∀ set (read : InnerSet), (do
      let instructions ← set.instructions.mapM (instruction keys)
      pure (⟨set.index, instructions⟩ : InnerSet)) = .ok read ↔ SetNames keys set read := by
    rintro set ⟨index, instructions⟩
    rw [SetNames, ← instructions_eq_ok_iff]
    cases set.instructions.mapM (instruction keys) <;> simp [pure, Except.pure, eq_comm]
  rw [Except.mapM_eq_ok_iff]
  simp only [each]

theorem owner_eq_ok_iff {text : String} {owner : Option Pubkey} :
    (if text.isEmpty then pure none else some <$> keyOfText text : Except ParseError _) =
      .ok owner ↔ OwnerText text owner := by
  by_cases empty : text = ""
  · subst empty
    cases owner <;> simp [OwnerText, show ("" : String).isEmpty = true from rfl, pure, Except.pure]
  · have notEmpty : text.isEmpty = false := by
      simpa [String.isEmpty_iff] using empty
    simp only [notEmpty, Bool.false_eq_true, ↓reduceIte]
    cases owner with
    | none => cases keyOfText text <;> simp [OwnerText, empty, Functor.map, Except.map]
    | some key =>
      rw [OwnerText, ← keyOfText_eq_ok_iff]
      cases keyOfText text <;> simp [empty, Functor.map, Except.map]

theorem placed_eq_ok_iff {owner : Except ParseError (Option Pubkey)} {index : Nat}
    {mintText : String} {amount decimals : Nat} {balance : TokenBalance} :
    (do
        let owner ← owner
        let account ← keyAt keys index
        let mint ← keyOfText mintText
        pure (⟨index, account, mint, owner, amount, decimals⟩ : TokenBalance)) = .ok balance ↔
      balance.accountIndex = index ∧ keys[index]? = some balance.account ∧
        Pubkey.parse mintText = .ok balance.mint ∧ owner = .ok balance.owner ∧
        balance.amount = amount ∧ balance.decimals = decimals := by
  obtain ⟨index', account, mint, owner', amount', decimals'⟩ := balance
  rw [← keyAt_eq_ok_iff, ← keyOfText_eq_ok_iff]
  cases owner <;> cases keyAt keys index <;> cases keyOfText mintText <;>
    simp [pure, Except.pure, eq_comm]

theorem tokenBalance_eq_ok_iff {compiled : CompiledTokenBalance} {balance : TokenBalance} :
    tokenBalance keys compiled = .ok balance ↔ Reads keys compiled balance := by
  obtain ⟨index, mintText, ownerText, reported?⟩ := compiled
  cases reported? with
  | none =>
    simp only [tokenBalance]
    exact ⟨nofun, fun ⟨_, _, _, _, ⟨_, found, _⟩⟩ => nomatch found⟩
  | some reported =>
    cases parsed : IntegerText.parseUnsigned 128 reported.amount with
    | error fault =>
      simp only [tokenBalance, parsed]
      refine ⟨nofun, fun ⟨_, _, _, _, ⟨_, found, spells, _⟩⟩ => ?_⟩
      cases found
      cases parsed.symm.trans ((IntegerText.parseUnsigned_eq_ok_iff _).mpr spells)
    | ok amount =>
      by_cases wide : reported.decimals > 255
      · simp only [tokenBalance, parsed, wide]
        refine ⟨nofun, fun ⟨_, _, _, _, ⟨_, found, _, _, narrow⟩⟩ => ?_⟩
        cases found
        omega
      · -- the amount text spells exactly one number: the one it was parsed as
        have amountFound : IntegerText.Spells 128 reported.amount amount :=
          (IntegerText.parseUnsigned_eq_ok_iff _).mp parsed
        have amountOnly : ∀ value, IntegerText.Spells 128 reported.amount value → value = amount :=
          fun value spells => Except.ok.inj
            (((IntegerText.parseUnsigned_eq_ok_iff _).mpr spells).symm.trans parsed)
        simp only [tokenBalance, parsed, wide, ↓reduceIte, pure_bind, ↓Except.ite_bind,
          placed_eq_ok_iff, owner_eq_ok_iff]
        constructor
        · rintro ⟨rfl, account, mint, owner, rfl, decimals⟩
          exact ⟨rfl, account, mint, owner, reported, rfl, amountFound, decimals, by omega⟩
        · rintro ⟨index, account, mint, owner, _, found, spells, decimals, _⟩
          cases found
          exact ⟨index, account, mint, owner, amountOnly _ spells, decimals⟩

theorem tokenBalances_eq_ok_iff {compiled : List CompiledTokenBalance}
    {read : List TokenBalance} :
    compiled.mapM (tokenBalance keys) = .ok read ↔ List.Forall₂ (Reads keys) compiled read := by
  rw [Except.mapM_eq_ok_iff]
  simp only [tokenBalance_eq_ok_iff]

end Compiled

/-! ### When the description can be met -/

theorem exists_keys_iff {table : List (List UInt8)} :
    (∃ keys : List Pubkey, keys.map Pubkey.bytes = table) ↔ ∀ bytes ∈ table, bytes.length = 32 := by
  constructor
  · rintro ⟨keys, rfl⟩ bytes member
    obtain ⟨key, _, rfl⟩ := List.mem_map.mp member
    exact key.size_eq
  · intro sized
    obtain ⟨keys, keysEach⟩ : ∃ keys, List.Forall₂ (fun bytes (key : Pubkey) => bytes = key.bytes)
        table keys :=
      exists_forall₂_iff.mpr fun bytes member => ⟨⟨bytes, sized bytes member⟩, rfl⟩
    exact ⟨keys, Pubkey.forall₂_bytes_iff.mp keysEach⟩

namespace Compiled

variable {keys : List Pubkey}

theorem exists_getElem?_eq_some_iff {index : Nat} :
    (∃ key, keys[index]? = some key) ↔ index < keys.length := by
  simp [List.getElem?_eq_some_iff]

theorem Names.within {compiled : CompiledInstruction} {ix : Instruction}
    (names : Names keys compiled ix) : Within keys.length compiled := by
  refine ⟨(List.getElem?_eq_some_iff.mp names.program).1, fun index member => ?_⟩
  have listed : keys[index]? ∈ ix.accounts.map some :=
    names.accounts ▸ List.mem_map_of_mem member
  obtain ⟨key, _, found⟩ := List.mem_map.mp listed
  exact (List.getElem?_eq_some_iff.mp found.symm).1

theorem exists_names_iff {compiled : CompiledInstruction} :
    (∃ ix, Names keys compiled ix) ↔ Within keys.length compiled := by
  refine ⟨fun ⟨_, names⟩ => names.within, fun ⟨program, accounts⟩ => ?_⟩
  obtain ⟨programKey, programFound⟩ := exists_getElem?_eq_some_iff.mpr program
  obtain ⟨found, foundEach⟩ := exists_forall₂_iff.mpr fun index member =>
    exists_getElem?_eq_some_iff.mpr (accounts index member)
  exact ⟨⟨programKey, found, compiled.data⟩, programFound, forall₂_iff_map_eq_map.mp foundEach, rfl⟩

theorem exists_setNames_iff {set : CompiledInnerSet} :
    (∃ read, SetNames keys set read) ↔ ∀ ix ∈ set.instructions, Within keys.length ix := by
  simp only [← exists_names_iff, ← exists_forall₂_iff]
  exact ⟨fun ⟨_, _, read⟩ => ⟨_, read⟩, fun ⟨read, names⟩ => ⟨⟨set.index, read⟩, rfl, names⟩⟩

theorem exists_ownerText_iff {text : String} :
    (∃ owner, OwnerText text owner) ↔ (text ≠ "" → ∃ key, Pubkey.parse text = .ok key) := by
  constructor
  · rintro ⟨owner, named⟩ notEmpty
    cases owner with
    | none => exact absurd named notEmpty
    | some key => exact ⟨key, named.2⟩
  · intro parses
    by_cases empty : text = ""
    · exact ⟨none, empty⟩
    · obtain ⟨key, parsed⟩ := parses empty
      exact ⟨some key, empty, parsed⟩

theorem Reads.readable {compiled : CompiledTokenBalance} {balance : TokenBalance}
    (reads : Reads keys compiled balance) :
    compiled.accountIndex < keys.length ∧ Readable compiled := by
  obtain ⟨_, account, mint, owner, reported, found, spells, _, narrow⟩ := reads
  exact ⟨(List.getElem?_eq_some_iff.mp account).1, ⟨reported, balance.amount, found, spells, narrow⟩,
    ⟨balance.mint, mint⟩, exists_ownerText_iff.mp ⟨_, owner⟩⟩

theorem exists_reads_iff {compiled : CompiledTokenBalance} :
    (∃ balance, Reads keys compiled balance) ↔
      compiled.accountIndex < keys.length ∧ Readable compiled := by
  refine ⟨fun ⟨_, reads⟩ => reads.readable, fun ⟨inside, readable⟩ => ?_⟩
  obtain ⟨⟨reported, value, found, spells, narrow⟩, ⟨mint, mintParsed⟩, ownerParsed⟩ := readable
  obtain ⟨owner, ownerText⟩ := exists_ownerText_iff.mpr ownerParsed
  exact ⟨⟨compiled.accountIndex, keys[compiled.accountIndex], mint, owner, value, reported.decimals⟩,
    rfl, List.getElem?_eq_getElem inside, mintParsed, ownerText, reported, found, spells, rfl, narrow⟩

end Compiled

theorem CompiledMessage.exists_denotes_iff {message : CompiledMessage} {status : StatusMeta} :
    (∃ tx, message.Denotes status tx) ↔ message.Resolvable status := by
  constructor
  · rintro ⟨tx, keysEq, -, instructionsRead, setsRead, -, -, preRead, postRead⟩
    have sized : tx.accountKeys.length = (message.keyTable status).length := by
      rw [← keysEq, List.length_map]
    refine ⟨exists_keys_iff.mp ⟨_, keysEq⟩, fun ix member => ?_, fun set member => ?_,
      fun balance member => ?_⟩
    · rw [← sized, ← Compiled.exists_names_iff]
      exact exists_forall₂_iff.mp ⟨_, instructionsRead⟩ ix member
    · rw [← sized, ← Compiled.exists_setNames_iff]
      exact exists_forall₂_iff.mp ⟨_, setsRead⟩ set member
    · rw [← sized, ← Compiled.exists_reads_iff]
      rcases List.mem_append.mp member with before | after
      · exact exists_forall₂_iff.mp ⟨_, preRead⟩ balance before
      · exact exists_forall₂_iff.mp ⟨_, postRead⟩ balance after
  · intro resolvable
    obtain ⟨keys, keysEq⟩ := exists_keys_iff.mpr resolvable.keys
    have sized : keys.length = (message.keyTable status).length := by
      rw [← keysEq, List.length_map]
    obtain ⟨instructions, instructionsRead⟩ := exists_forall₂_iff.mpr fun ix member =>
      Compiled.exists_names_iff.mpr (sized ▸ resolvable.instructions ix member)
    obtain ⟨sets, setsRead⟩ := exists_forall₂_iff.mpr fun set member =>
      Compiled.exists_setNames_iff.mpr (sized ▸ resolvable.innerSets set member)
    obtain ⟨pre, preRead⟩ := exists_forall₂_iff.mpr fun balance member =>
      Compiled.exists_reads_iff.mpr
        (sized ▸ resolvable.tokenBalances balance (List.mem_append_left _ member))
    obtain ⟨post, postRead⟩ := exists_forall₂_iff.mpr fun balance member =>
      Compiled.exists_reads_iff.mpr
        (sized ▸ resolvable.tokenBalances balance (List.mem_append_right _ member))
    let signers := keys.take
      (min (message.header.elim 1 (·.requiredSignatures)) message.accountKeys.length)
    exact ⟨{ accountKeys := keys, signers := signers, instructions := instructions, innerSets := sets,
             preBalances := status.preBalances, postBalances := status.postBalances,
             preTokenBalances := pre, postTokenBalances := post },
      keysEq, rfl, instructionsRead, setsRead, rfl, rfl, preRead, postRead⟩

theorem CompiledTransaction.exists_denotes_iff {compiled : CompiledTransaction}
    {status : StatusMeta} {slot : Nat} {blockTime : Option Int} :
    (∃ tx, compiled.Denotes status slot blockTime tx) ↔ compiled.Resolvable status := by
  constructor
  · rintro ⟨tx, signed, -, -, message, found, denotes⟩
    exact ⟨message, tx.signature.bytes, found, signed, tx.signature.size_eq,
      CompiledMessage.exists_denotes_iff.mp ⟨tx, denotes⟩⟩
  · rintro ⟨message, first, found, signed, sized, resolvable⟩
    obtain ⟨tx, keysEq, signersEq, instructionsRead, setsRead, preEq, postEq, preRead, postRead⟩ :=
      CompiledMessage.exists_denotes_iff.mpr resolvable
    exact ⟨{ tx with signature := ⟨first, sized⟩, slot := slot, blockTime := blockTime }, signed, rfl,
      rfl, message, found,
      ⟨keysEq, signersEq, instructionsRead, setsRead, preEq, postEq, preRead, postRead⟩⟩

/-! ### Resolving a whole transaction -/

namespace CompiledTransaction

variable {status : StatusMeta} {slot : Nat} {blockTime : Option Int} {tx : Transaction}

theorem signerCount_eq (message : CompiledMessage) :
    (message.header.map (·.requiredSignatures)).getD 1 =
      message.header.elim 1 (·.requiredSignatures) := by
  cases message.header <;> rfl

theorem resolve_eq_ok_iff {compiled : CompiledTransaction} :
    compiled.resolve status slot blockTime = .ok tx ↔ compiled.Denotes status slot blockTime tx := by
  obtain ⟨signatures, message?⟩ := compiled
  cases message? with
  | none => simp [resolve, Denotes]
  | some message =>
    cases signatures with
    | nil => simp [resolve, Denotes]
    | cons first rest =>
      by_cases sized : first.length = 64
      · simp only [resolve, List.head?_cons, Signature.ofBytes?, sized, dite_true]
        constructor
        · intro resolved
          obtain ⟨keys, keysFound, resolved⟩ := Except.bind_eq_ok resolved
          obtain ⟨instructions, instructionsFound, resolved⟩ := Except.bind_eq_ok resolved
          obtain ⟨sets, setsFound, resolved⟩ := Except.bind_eq_ok resolved
          obtain ⟨pre, preFound, resolved⟩ := Except.bind_eq_ok resolved
          obtain ⟨post, postFound, resolved⟩ := Except.bind_eq_ok resolved
          cases resolved
          exact ⟨rfl, rfl, rfl, message, rfl,
            { keys := Compiled.keys_eq_ok_iff.mp keysFound
              signers := by rw [signerCount_eq]
              instructions := Compiled.instructions_eq_ok_iff.mp instructionsFound
              innerSets := Compiled.innerSets_eq_ok_iff.mp setsFound
              preBalances := rfl
              postBalances := rfl
              preTokenBalances := Compiled.tokenBalances_eq_ok_iff.mp preFound
              postTokenBalances := Compiled.tokenBalances_eq_ok_iff.mp postFound }⟩
        · obtain ⟨signature, slot, blockTime, keys, signers, instructions, sets, pre, post, preTokens,
            postTokens⟩ := tx
          rintro ⟨signed, rfl, rfl, message, found, keysEq, signersEq, instructionsRead, setsRead, preEq,
            postEq, preRead, postRead⟩
          dsimp only at signed keysEq signersEq instructionsRead setsRead preEq postEq preRead postRead
          cases found
          subst signersEq preEq postEq
          have keysFound : (message.accountKeys ++ status.loadedWritable ++
              status.loadedReadonly).mapM Compiled.keyOfBytes = .ok keys :=
            Compiled.keys_eq_ok_iff.mpr keysEq
          have signedBy : (⟨first, sized⟩ : Signature) = signature :=
            Signature.bytes_injective (Option.some.inj signed)
          rw [keysFound, Except.ok_bind,
            Compiled.instructions_eq_ok_iff.mpr instructionsRead, Except.ok_bind,
            Compiled.innerSets_eq_ok_iff.mpr setsRead, Except.ok_bind,
            Compiled.tokenBalances_eq_ok_iff.mpr preRead, Except.ok_bind,
            Compiled.tokenBalances_eq_ok_iff.mpr postRead, Except.ok_bind, signedBy, signerCount_eq]
          rfl
      · simp only [resolve, List.head?_cons, Signature.ofBytes?, sized, dite_false]
        refine ⟨nofun, fun ⟨signed, _⟩ => ?_⟩
        exact absurd ((Option.some.inj signed).symm ▸ tx.signature.size_eq) sized

/-- Resolving a compiled transaction returns exactly when it is resolvable, and it returns
exactly the transaction the compiled one stands for. -/
theorem resolve_answers (compiled : CompiledTransaction) (status : StatusMeta) (slot : Nat)
    (blockTime : Option Int) :
    ((∃ tx, compiled.resolve status slot blockTime = .ok tx) ↔ compiled.Resolvable status) ∧
      ∀ tx, compiled.resolve status slot blockTime = .ok tx ↔
        compiled.Denotes status slot blockTime tx := by
  refine ⟨?_, fun _ => resolve_eq_ok_iff⟩
  simp only [resolve_eq_ok_iff]
  exact exists_denotes_iff

end CompiledTransaction

end MemeEvents
