import MemeEvents.Chain.Transaction

/-!
Known decimal places of mints, and a cache of them that later knowledge updates. A `MintDecimals`
table holds at most one entry per mint.
-/

namespace MemeEvents

structure MintDecimals where
  entries : List (Pubkey × Nat) := []
  deriving Inhabited

namespace MintDecimals

def empty : MintDecimals := {}

def get? (table : MintDecimals) (mint : Pubkey) : Option Nat :=
  (table.entries.find? (·.1 == mint)).map (·.2)

def insert (table : MintDecimals) (mint : Pubkey) (decimals : Nat) : MintDecimals :=
  ⟨table.entries.filter (·.1 != mint) ++ [(mint, decimals)]⟩

def ofList (entries : List (Pubkey × Nat)) : MintDecimals :=
  entries.foldl (fun table (mint, decimals) => table.insert mint decimals) empty

def size (table : MintDecimals) : Nat := table.entries.length

def isEmpty (table : MintDecimals) : Bool := table.entries.isEmpty

def observed (tx : Transaction) : List (Pubkey × Nat) :=
  (tx.preTokenBalances ++ tx.postTokenBalances).map fun balance => (balance.mint, balance.decimals)

theorem get?_insert_self (table : MintDecimals) (mint : Pubkey) (decimals : Nat) :
    (table.insert mint decimals).get? mint = some decimals := by
  have none : (table.entries.filter (·.1 != mint)).find? (·.1 == mint) = none :=
    List.find?_eq_none.mpr (by intro x hx; simp [List.mem_filter] at hx; simpa using hx.2)
  simp [insert, get?, List.find?_append, none]

end MintDecimals

structure DecimalsCache where
  current : MintDecimals := {}
  /-- The number of tables installed so far; a snapshot shares its table with every other one
  taken at the same version. -/
  version : Nat := 0

namespace DecimalsCache

def new : DecimalsCache := {}

def snapshot (cache : DecimalsCache) : MintDecimals := cache.current

/-- One entry of a batch: `pending` is the copy the batch writes into, once it has one, and
`base` the table the batch started from. An entry that its mint already holds changes nothing;
another is written into the copy, which it makes from `base` if there is none yet. -/
def write (base : MintDecimals) (pending : Option MintDecimals) (entry : Pubkey × Nat) :
    Option MintDecimals :=
  if (pending.getD base).get? entry.1 == some entry.2 then pending
  else some ((pending.getD base).insert entry.1 entry.2)

def extend (cache : DecimalsCache) (entries : List (Pubkey × Nat)) : DecimalsCache :=
  match entries.foldl (write cache.current) none with
  | some table => { current := table, version := cache.version + 1 }
  | none => cache

def insert (cache : DecimalsCache) (mint : Pubkey) (decimals : Nat) : DecimalsCache :=
  cache.extend [(mint, decimals)]

def observe (cache : DecimalsCache) (tx : Transaction) : DecimalsCache :=
  cache.extend (MintDecimals.observed tx)

def len (cache : DecimalsCache) : Nat := cache.current.size

def isEmpty (cache : DecimalsCache) : Bool := cache.current.isEmpty

end DecimalsCache

end MemeEvents
