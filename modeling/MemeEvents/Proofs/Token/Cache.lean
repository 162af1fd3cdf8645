import MemeEvents.Token.Decimals
import Mathlib.Logic.Function.Basic
import Mathlib.Data.Finset.Card

/-! The decimals cache against the map it stands for. -/

namespace MemeEvents

def overwrite (value : Pubkey → Option Nat) (pairs : List (Pubkey × Nat)) :
    Pubkey → Option Nat :=
  pairs.foldl (fun value pair => Function.update value pair.1 (some pair.2)) value

def ChangesSome (value : Pubkey → Option Nat) : List (Pubkey × Nat) → Prop
  | [] => False
  | pair :: rest =>
      value pair.1 ≠ some pair.2 ∨
        ChangesSome (Function.update value pair.1 (some pair.2)) rest

theorem overwrite_cons (value : Pubkey → Option Nat) (pair : Pubkey × Nat)
    (rest : List (Pubkey × Nat)) :
    overwrite value (pair :: rest) =
      overwrite (Function.update value pair.1 (some pair.2)) rest := rfl

theorem overwrite_append (value : Pubkey → Option Nat) (first second : List (Pubkey × Nat)) :
    overwrite value (first ++ second) = overwrite (overwrite value first) second := by
  unfold overwrite
  rw [List.foldl_append]

theorem overwrite_isSome (value : Pubkey → Option Nat) (pairs : List (Pubkey × Nat))
    (mint : Pubkey) :
    (overwrite value pairs mint).isSome ↔ (value mint).isSome ∨ mint ∈ pairs.map Prod.fst := by
  induction pairs generalizing value with
  | nil => simp [overwrite]
  | cons pair rest induction =>
      rw [overwrite_cons, induction]
      by_cases named : mint = pair.1
      · subst named
        simp
      · simp [named]

namespace MintDecimals

def Distinct (table : MintDecimals) : Prop := (table.entries.map Prod.fst).Nodup

theorem get?_insert (table : MintDecimals) (mint : Pubkey) (decimals : Nat) :
    (table.insert mint decimals).get? = Function.update table.get? mint (some decimals) := by
  funext other
  by_cases same : other = mint
  · subst same
    rw [Function.update_self, get?_insert_self]
  · rw [Function.update_of_ne same]
    -- the entries of other mints keep their order, and the new entry is not `other`'s
    have kept : (table.entries.filter (·.1 != mint)).find? (·.1 == other) =
        table.entries.find? (·.1 == other) := by
      rw [List.find?_filter]
      congr 1
      funext entry
      by_cases named : entry.1 = other
      · simp [named, same]
      · simp [named]
    have last : [(mint, decimals)].find? (·.1 == other) = none := by
      simp [Ne.symm same]
    unfold insert get?
    rw [List.find?_append, kept, last, Option.or_none]

theorem mem_keys_iff {table : MintDecimals} (mint : Pubkey) :
    mint ∈ table.entries.map Prod.fst ↔ (table.get? mint).isSome := by
  unfold get?
  rw [Option.isSome_map, List.find?_isSome]
  simp

theorem Distinct.insert {table : MintDecimals} (distinct : table.Distinct) (mint : Pubkey)
    (decimals : Nat) : (table.insert mint decimals).Distinct := by
  unfold Distinct MintDecimals.insert at *
  rw [List.map_append, List.nodup_append]
  refine ⟨distinct.sublist (List.filter_sublist.map _), List.nodup_singleton _, ?_⟩
  intro kept keptMember added addedMember
  simp only [List.map_cons, List.map_nil, List.mem_singleton] at addedMember
  obtain ⟨entry, entryMember, rfl⟩ := List.mem_map.mp keptMember
  have other := (List.mem_filter.mp entryMember).2
  simp only [bne_iff_ne, ne_eq] at other
  rw [addedMember]
  exact other

theorem Distinct.size_eq_card {table : MintDecimals} (distinct : table.Distinct)
    {mints : Finset Pubkey} (named : ∀ mint, mint ∈ mints ↔ (table.get? mint).isSome) :
    table.size = mints.card := by
  have same : (table.entries.map Prod.fst).toFinset = mints := by
    ext mint
    rw [List.mem_toFinset, mem_keys_iff, named]
  rw [← same, List.toFinset_card_of_nodup distinct, List.length_map]
  rfl

theorem isEmpty_iff (table : MintDecimals) : table.isEmpty = true ↔ ∀ mint, table.get? mint = none := by
  unfold isEmpty
  rw [List.isEmpty_iff]
  constructor
  · intro empty mint
    unfold get?
    rw [empty]
    rfl
  · intro none
    cases listed : table.entries with
    | nil => rfl
    | cons entry rest =>
        have found := none entry.1
        simp [get?, listed] at found

end MintDecimals

namespace DecimalsCache

section Batch

variable (base : MintDecimals)

theorem get?_write (pending : Option MintDecimals) (entry : Pubkey × Nat) :
    ((write base pending entry).getD base).get? =
      Function.update (pending.getD base).get? entry.1 (some entry.2) := by
  unfold write
  split
  · rename_i held
    rw [beq_iff_eq] at held
    rw [← held, Function.update_eq_self]
  · rw [Option.getD_some, MintDecimals.get?_insert]

theorem isSome_write (pending : Option MintDecimals) (entry : Pubkey × Nat) :
    (write base pending entry).isSome ↔
      pending.isSome ∨ (pending.getD base).get? entry.1 ≠ some entry.2 := by
  unfold write
  split
  · rename_i held
    rw [beq_iff_eq] at held
    simp [held]
  · rename_i changed
    rw [beq_iff_eq] at changed
    simp [changed]

theorem write_distinct {pending : Option MintDecimals} (distinct : (pending.getD base).Distinct)
    (entry : Pubkey × Nat) : ((write base pending entry).getD base).Distinct := by
  unfold write
  split
  · exact distinct
  · exact distinct.insert entry.1 entry.2

theorem foldl_write (entries : List (Pubkey × Nat)) (pending : Option MintDecimals) :
    ((entries.foldl (write base) pending).getD base).get? =
        overwrite (pending.getD base).get? entries ∧
      ((entries.foldl (write base) pending).isSome ↔
        pending.isSome ∨ ChangesSome (pending.getD base).get? entries) := by
  induction entries generalizing pending with
  | nil => simp [overwrite, ChangesSome]
  | cons entry rest induction =>
      obtain ⟨meaning, copied⟩ := induction (write base pending entry)
      rw [List.foldl_cons, meaning, copied, get?_write, isSome_write, overwrite_cons]
      refine ⟨rfl, ?_⟩
      simp only [ChangesSome, or_assoc]

theorem foldl_write_distinct {entries : List (Pubkey × Nat)} {pending : Option MintDecimals}
    (distinct : (pending.getD base).Distinct) :
    ((entries.foldl (write base) pending).getD base).Distinct := by
  induction entries generalizing pending with
  | nil => exact distinct
  | cons entry rest induction => exact induction (write_distinct base distinct entry)

end Batch

variable (cache : DecimalsCache) (entries : List (Pubkey × Nat))

/-! What a batch does to the cache, said once: its copy, if it made one, is installed as the
next version; otherwise the cache stays as it was. -/

theorem extend_of_copy {table : MintDecimals}
    (made : entries.foldl (write cache.current) none = some table) :
    cache.extend entries = { current := table, version := cache.version + 1 } := by
  unfold extend
  rw [made]

theorem extend_of_no_copy (made : entries.foldl (write cache.current) none = none) :
    cache.extend entries = cache := by
  unfold extend
  rw [made]

theorem extend_current :
    (cache.extend entries).current = (entries.foldl (write cache.current) none).getD cache.current := by
  cases made : entries.foldl (write cache.current) none with
  | none => rw [extend_of_no_copy cache entries made, Option.getD_none]
  | some table => rw [extend_of_copy cache entries made, Option.getD_some]

theorem get?_extend : (cache.extend entries).current.get? = overwrite cache.current.get? entries := by
  rw [extend_current]
  exact (foldl_write cache.current entries none).1

theorem extend_version :
    (ChangesSome cache.current.get? entries → (cache.extend entries).version = cache.version + 1) ∧
      (¬ ChangesSome cache.current.get? entries → cache.extend entries = cache) := by
  have copied := (foldl_write cache.current entries none).2
  simp only [Option.isSome_none, Bool.false_eq_true, false_or, Option.getD_none] at copied
  constructor
  · intro changed
    obtain ⟨table, made⟩ := Option.isSome_iff_exists.mp (copied.mpr changed)
    rw [extend_of_copy cache entries made]
  · intro unchanged
    exact extend_of_no_copy cache entries (Option.not_isSome_iff_eq_none.mp (mt copied.mp unchanged))

theorem extend_distinct {cache : DecimalsCache} (distinct : cache.current.Distinct) :
    (cache.extend entries).current.Distinct := by
  rw [extend_current]
  exact foldl_write_distinct cache.current distinct

end DecimalsCache

/-! ### Calls one after another -/

/-- A call on the cache, as a client makes them one at a time. -/
inductive CacheCall where
  | insert (mint : Pubkey) (decimals : Nat)
  | extend (entries : List (Pubkey × Nat))
  | observe (tx : Transaction)
  | snapshot
  | len
  | isEmpty

inductive CacheAnswer where
  | done
  | snapshot (table : MintDecimals)
  | count (count : Nat)
  | flag (flag : Bool)

namespace CacheCall

def writes : CacheCall → List (Pubkey × Nat)
  | .insert mint decimals => [(mint, decimals)]
  | .extend entries => entries
  | .observe tx => MintDecimals.observed tx
  | .snapshot | .len | .isEmpty => []

def Answers (value : Pubkey → Option Nat) : CacheCall → CacheAnswer → Prop
  | .snapshot, answer => ∃ table : MintDecimals, answer = .snapshot table ∧ table.get? = value
  | .len, answer => ∃ mints : Finset Pubkey,
      answer = .count mints.card ∧ ∀ mint, mint ∈ mints ↔ (value mint).isSome
  | .isEmpty, answer => ∃ empty, answer = .flag empty ∧ (empty = true ↔ ∀ mint, value mint = none)
  | .insert _ _, answer | .extend _, answer | .observe _, answer => answer = .done

end CacheCall

namespace DecimalsCache

def call (cache : DecimalsCache) : CacheCall → DecimalsCache × CacheAnswer
  | .insert mint decimals => (cache.insert mint decimals, .done)
  | .extend entries => (cache.extend entries, .done)
  | .observe tx => (cache.observe tx, .done)
  | .snapshot => (cache, .snapshot cache.snapshot)
  | .len => (cache, .count cache.len)
  | .isEmpty => (cache, .flag cache.isEmpty)

def run (cache : DecimalsCache) : List CacheCall → DecimalsCache × List CacheAnswer
  | [] => (cache, [])
  | first :: rest =>
      ((cache.call first).1.run rest |>.1, (cache.call first).2 :: ((cache.call first).1.run rest).2)

theorem call_step {cache : DecimalsCache} (distinct : cache.current.Distinct) (call : CacheCall) :
    (cache.call call).1.current.get? = overwrite cache.current.get? call.writes ∧
      (cache.call call).1.current.Distinct ∧ call.Answers cache.current.get? (cache.call call).2 := by
  cases call with
  | insert | extend | observe =>
      -- the three writes are batches
      exact ⟨get?_extend cache _, extend_distinct _ distinct, rfl⟩
  | snapshot => exact ⟨rfl, distinct, cache.current, rfl, rfl⟩
  | len =>
      -- the mints with decimals are the keys of the entries, one entry each
      have named : ∀ mint, mint ∈ (cache.current.entries.map Prod.fst).toFinset ↔
          (cache.current.get? mint).isSome := fun mint => by
        rw [List.mem_toFinset, MintDecimals.mem_keys_iff]
      exact ⟨rfl, distinct, _, congrArg CacheAnswer.count (distinct.size_eq_card named), named⟩
  | isEmpty => exact ⟨rfl, distinct, cache.current.isEmpty, rfl, cache.current.isEmpty_iff⟩

theorem run_append (cache : DecimalsCache) (calls later : List CacheCall) :
    (cache.run (calls ++ later)).2 = (cache.run calls).2 ++ ((cache.run calls).1.run later).2 := by
  induction calls generalizing cache with
  | nil => rfl
  | cons first rest induction =>
      simp only [List.cons_append, run, induction, List.cons_append]

theorem run_describes (calls : List CacheCall) {cache : DecimalsCache}
    (distinct : cache.current.Distinct) :
    (cache.run calls).1.current.get? =
        overwrite cache.current.get? (calls.flatMap CacheCall.writes) ∧
      (cache.run calls).2.length = calls.length ∧
      ∀ i : Nat, ∀ call ∈ calls[i]?, ∀ answer ∈ (cache.run calls).2[i]?,
        call.Answers (overwrite cache.current.get? ((calls.take i).flatMap CacheCall.writes))
          answer := by
  induction calls generalizing cache with
  | nil => exact ⟨rfl, rfl, fun i call listed => by simp at listed⟩
  | cons first rest induction =>
      obtain ⟨written, stillDistinct, answered⟩ := call_step distinct first
      obtain ⟨ends, counted, later⟩ := induction stillDistinct
      refine ⟨?_, ?_, ?_⟩
      · rw [run, ends, written, List.flatMap_cons, overwrite_append]
      · simp only [run, List.length_cons, counted]
      · intro i call listed answer given
        cases i with
        | zero =>
            simp only [List.getElem?_cons_zero, Option.mem_def, Option.some.injEq] at listed given
            subst listed
            rw [run] at given
            simp only [List.getElem?_cons_zero, Option.some.injEq] at given
            subst given
            exact answered
        | succ i =>
            simp only [List.getElem?_cons_succ] at listed
            rw [run, List.getElem?_cons_succ] at given
            have answers := later i call listed answer given
            rw [written, ← overwrite_append] at answers
            rwa [List.take_succ_cons, List.flatMap_cons]

theorem new_get? : new.current.get? = fun _ => none := rfl

/-- The cache over any calls made one at a time from a new cache. Its map after the calls is the
empty map with every pair the calls wrote written over it in order; every call answers what
the map of the pairs written before it says, a snapshot being that map, and later calls change
no answer given before them. A batch of writes acts on the map as writing its pairs in order,
and installs a new table exactly when some pair changes the value its mint has when the batch
reaches it; otherwise it leaves the cache as it was. -/
theorem calls_describe_written (calls : List CacheCall) :
    (new.run calls).1.snapshot.get? = overwrite (fun _ => none) (calls.flatMap CacheCall.writes) ∧
      (new.run calls).2.length = calls.length ∧
      (∀ i : Nat, ∀ call ∈ calls[i]?, ∀ answer ∈ (new.run calls).2[i]?,
        call.Answers (overwrite (fun _ => none) ((calls.take i).flatMap CacheCall.writes))
          answer) ∧
      (∀ later, ((new.run (calls ++ later)).2).take calls.length = (new.run calls).2) ∧
      ∀ (cache : DecimalsCache) (entries : List (Pubkey × Nat)),
        (cache.extend entries).snapshot.get? = overwrite cache.snapshot.get? entries ∧
          (ChangesSome cache.snapshot.get? entries →
            (cache.extend entries).version = cache.version + 1) ∧
          (¬ ChangesSome cache.snapshot.get? entries → cache.extend entries = cache) := by
  have distinct : new.current.Distinct := List.nodup_nil
  obtain ⟨ends, counted, answered⟩ := run_describes calls distinct
  rw [new_get?] at ends answered
  refine ⟨ends, counted, answered, fun later => ?_, fun cache entries =>
    ⟨get?_extend cache entries, extend_version cache entries⟩⟩
  rw [run_append, List.take_left' counted]

/-- A batch that changes a value and then changes it back still installs a new table. -/
theorem extend_changed_back :
    ChangesSome (new.insert Pubkey.zero 6).snapshot.get? [(Pubkey.zero, 9), (Pubkey.zero, 6)] ∧
      ((new.insert Pubkey.zero 6).extend [(Pubkey.zero, 9), (Pubkey.zero, 6)]).version =
        (new.insert Pubkey.zero 6).version + 1 :=
  have changed : ChangesSome (new.insert Pubkey.zero 6).snapshot.get?
      [(Pubkey.zero, 9), (Pubkey.zero, 6)] := Or.inl (by decide)
  ⟨changed, ((calls_describe_written []).2.2.2.2 _ _).2.1 changed⟩

end DecimalsCache

end MemeEvents
