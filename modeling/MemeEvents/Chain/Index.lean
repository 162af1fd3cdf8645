import MemeEvents.Chain.Transaction

/-!
Hash tables as the index of a transaction fills them. Only look-ups are ever made in them, so a
table is kept as its entries, the newest first, and a look-up finds the newest entry of its key.
-/

namespace MemeEvents

structure KeyTable (κ ν : Type) where
  entries : List (κ × ν) := []

namespace KeyTable

variable {κ ν : Type} [BEq κ]

def get? (table : KeyTable κ ν) (key : κ) : Option ν :=
  (table.entries.find? (·.1 == key)).map (·.2)

def insert (table : KeyTable κ ν) (key : κ) (value : ν) : KeyTable κ ν :=
  ⟨(key, value) :: table.entries⟩

def insertIfNew (table : KeyTable κ ν) (key : κ) (value : ν) : KeyTable κ ν :=
  if (table.get? key).isSome then table else table.insert key value

/-- A table collected from pairs in order, so that a later pair replaces an earlier one of the
same key. -/
def ofList (pairs : List (κ × ν)) : KeyTable κ ν :=
  pairs.foldl (fun table pair => table.insert pair.1 pair.2) {}

def firstPositions (keys : List κ) : KeyTable κ Nat :=
  keys.zipIdx.foldl (fun table entry => table.insertIfNew entry.1 entry.2) {}

def lastPositions {α : Type} (key : α → κ) (items : List α) : KeyTable κ Nat :=
  ofList (items.zipIdx.map fun entry => (key entry.1, entry.2))

theorem get?_empty (key : κ) : ({} : KeyTable κ ν).get? key = none := rfl

theorem get?_insert (table : KeyTable κ ν) (key other : κ) (value : ν) :
    (table.insert key value).get? other =
      if key == other then some value else table.get? other := by
  unfold get? insert
  rw [List.find?_cons]
  cases key == other <;> rfl

end KeyTable

end MemeEvents
