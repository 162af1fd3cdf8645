import Mathlib.Data.List.Nodup
import MemeEvents.Transfer.Basic

/-! The groups of a transfer map under pushes. -/

namespace MemeEvents

namespace TransferMap

def records (map : TransferMap) : List TransferRecord := map.groups.flatMap (·.2)

def pushAll (map : TransferMap) (entries : List (TransferKey × TransferRecord)) : TransferMap :=
  entries.foldl (fun map entry => map.push entry.1 entry.2) map

/-- A map with one group per key and no empty group. -/
structure WellFormed (map : TransferMap) : Prop where
  nodup : (map.groups.map (·.1)).Nodup
  nonempty : ∀ group ∈ map.groups, group.2 ≠ []

private def grow (key : TransferKey) (record : TransferRecord)
    (group : TransferKey × List TransferRecord) : TransferKey × List TransferRecord :=
  if group.1 == key then (group.1, group.2 ++ [record]) else group

private theorem grow_key (key : TransferKey) (record : TransferRecord)
    (group : TransferKey × List TransferRecord) : (grow key record group).1 = group.1 := by
  unfold grow
  split <;> rfl

private theorem push_of_present {map : TransferMap} {key : TransferKey} {record : TransferRecord}
    (present : map.groups.any (·.1 == key) = true) :
    map.push key record = ⟨map.groups.map (grow key record)⟩ := by
  simp only [push, present, if_true]
  rfl

private theorem push_of_absent {map : TransferMap} {key : TransferKey} {record : TransferRecord}
    (absent : map.groups.any (·.1 == key) = false) :
    map.push key record = ⟨map.groups ++ [(key, [record])]⟩ := by
  simp [push, absent]

theorem get_push (map : TransferMap) (key : TransferKey) (record : TransferRecord)
    (program : Pubkey) (position : Position) :
    (map.push key record).get program position =
      if key = ⟨program, position⟩ then map.get program position ++ [record]
      else map.get program position := by
  cases present : map.groups.any (·.1 == key) with
  | true =>
      rw [push_of_present present]
      unfold get
      -- growing keeps every key, so the search finds the same group, grown
      have sameSearch : ((fun group : TransferKey × List TransferRecord =>
          group.1 == ⟨program, position⟩) ∘ grow key record) =
          fun group => group.1 == ⟨program, position⟩ := by
        funext group
        simp [grow_key]
      simp only [List.find?_map, sameSearch]
      cases found : map.groups.find? (·.1 == ⟨program, position⟩) with
      | some group =>
          have named : group.1 = ⟨program, position⟩ := by
            simpa using List.find?_some found
          by_cases same : key = ⟨program, position⟩
          · simp [grow, named, same]
          · have differ : (⟨program, position⟩ : TransferKey) ≠ key := fun equal => same equal.symm
            simp [grow, named, same, differ]
      | none =>
          by_cases same : key = ⟨program, position⟩
          · subst same
            obtain ⟨group, member, keyed⟩ := List.any_eq_true.mp present
            exact absurd keyed (List.find?_eq_none.mp found group member)
          · simp [same]
  | false =>
      rw [push_of_absent present]
      unfold get
      rw [List.find?_append]
      by_cases same : key = ⟨program, position⟩
      · have missing : map.groups.find? (·.1 == ⟨program, position⟩) = none := by
          rw [List.find?_eq_none, ← same]
          exact List.any_eq_false.mp present
        simp [missing, same]
      · have other : (key == ⟨program, position⟩) = false := by simpa using same
        cases map.groups.find? (·.1 == ⟨program, position⟩) <;> simp [other, same]

theorem WellFormed.empty : (({} : TransferMap)).WellFormed :=
  ⟨List.nodup_nil, fun _ member => nomatch member⟩

theorem WellFormed.push {map : TransferMap} (formed : map.WellFormed) (key : TransferKey)
    (record : TransferRecord) : (map.push key record).WellFormed := by
  cases present : map.groups.any (·.1 == key) with
  | true =>
      rw [push_of_present present]
      constructor
      · have sameKeys : (map.groups.map (grow key record)).map (·.1) = map.groups.map (·.1) := by
          simp [List.map_map, Function.comp_def, grow_key]
        rw [sameKeys]
        exact formed.nodup
      · intro group member
        obtain ⟨old, oldMember, rfl⟩ := List.mem_map.mp member
        unfold grow
        split
        · simp
        · exact formed.nonempty old oldMember
  | false =>
      rw [push_of_absent present]
      constructor
      · have fresh : key ∉ map.groups.map (·.1) := by
          intro member
          obtain ⟨group, groupMember, keyed⟩ := List.mem_map.mp member
          have found : map.groups.any (·.1 == key) = true :=
            List.any_eq_true.mpr ⟨group, groupMember, by simp [keyed]⟩
          rw [present] at found
          cases found
        rw [List.map_append, List.nodup_append]
        refine ⟨formed.nodup, List.pairwise_singleton _ _, ?_⟩
        intro other member same sameMember equal
        simp only [List.map_cons, List.map_nil, List.mem_singleton] at sameMember
        rw [equal, sameMember] at member
        exact fresh member
      · intro group member
        rcases List.mem_append.mp member with member | member
        · exact formed.nonempty group member
        · simp at member
          simp [member]

private theorem records_grow {groups : List (TransferKey × List TransferRecord)}
    {key : TransferKey} {record : TransferRecord} (nodup : (groups.map (·.1)).Nodup)
    (present : groups.any (·.1 == key) = true) :
    ((groups.map (grow key record)).flatMap (·.2)).Perm (groups.flatMap (·.2) ++ [record]) := by
  induction groups with
  | nil => simp at present
  | cons group rest induction =>
      rw [List.map_cons, List.nodup_cons] at nodup
      by_cases keyed : group.1 = key
      · -- this is the key's group, so no later group has the key
        have restSame : rest.map (grow key record) = rest := by
          rw [List.map_congr_left (g := id), List.map_id]
          intro later member
          have differ : later.1 ≠ key := by
            intro equal
            exact nodup.1 (keyed ▸ equal ▸ List.mem_map_of_mem member)
          simp [grow, differ]
        simp only [List.map_cons, restSame, List.flatMap_cons, grow, keyed, beq_self_eq_true,
          if_true, List.append_assoc]
        exact List.Perm.append_left _ List.perm_append_comm
      · have later : rest.any (·.1 == key) = true := by simpa [keyed] using present
        simp only [List.map_cons, List.flatMap_cons, grow, beq_iff_eq, keyed, if_false,
          List.append_assoc]
        exact List.Perm.append_left _ (induction nodup.2 later)

theorem records_push {map : TransferMap} (formed : map.WellFormed) (key : TransferKey)
    (record : TransferRecord) : (map.push key record).records.Perm (map.records ++ [record]) := by
  cases present : map.groups.any (·.1 == key) with
  | true =>
      rw [push_of_present present]
      exact records_grow formed.nodup present
  | false =>
      rw [push_of_absent present]
      simp [records]

theorem size_eq_length_records (map : TransferMap) : map.size = map.records.length := by
  have counted : ∀ (groups : List (TransferKey × List TransferRecord)) (start : Nat),
      groups.foldl (fun total group => total + group.2.length) start =
        start + (groups.flatMap (·.2)).length := by
    intro groups
    induction groups with
    | nil => simp
    | cons group rest induction =>
        intro start
        rw [List.foldl_cons, induction, List.flatMap_cons, List.length_append]
        omega
  simpa [size, records] using counted map.groups 0

theorem get_of_mem {map : TransferMap} (formed : map.WellFormed)
    {group : TransferKey × List TransferRecord} (member : group ∈ map.groups) :
    map.get group.1.program group.1.position = group.2 := by
  unfold get
  cases found : map.groups.find? (·.1 == ⟨group.1.program, group.1.position⟩) with
  | some other =>
      have sameKey : other.1 = group.1 := by simpa using List.find?_some found
      have same : other = group :=
        List.inj_on_of_nodup_map formed.nodup (List.mem_of_find?_eq_some found) member sameKey
      rw [same]
  | none =>
      exact absurd (by simp) (List.find?_eq_none.mp found group member)

theorem mem_keys_iff {map : TransferMap} (formed : map.WellFormed) (key : TransferKey) :
    key ∈ map.groups.map (·.1) ↔ map.get key.program key.position ≠ [] := by
  constructor
  · intro member
    obtain ⟨group, inGroups, keyed⟩ := List.mem_map.mp member
    rw [← keyed, get_of_mem formed inGroups]
    exact formed.nonempty group inGroups
  · intro found
    unfold get at found
    split at found
    · rename_i group records located
      have keyed : group = key := by simpa using List.find?_some located
      exact List.mem_map.mpr ⟨_, List.mem_of_find?_eq_some located, keyed⟩
    · exact absurd rfl found

/-! Runs of pushes. -/

theorem pushAll_cons (map : TransferMap) (entry : TransferKey × TransferRecord)
    (entries : List (TransferKey × TransferRecord)) :
    map.pushAll (entry :: entries) = (map.push entry.1 entry.2).pushAll entries := rfl

theorem pushAll_append (map : TransferMap) (first second : List (TransferKey × TransferRecord)) :
    map.pushAll (first ++ second) = (map.pushAll first).pushAll second :=
  List.foldl_append

theorem get_pushAll (map : TransferMap) (entries : List (TransferKey × TransferRecord))
    (program : Pubkey) (position : Position) :
    (map.pushAll entries).get program position =
      map.get program position ++ (entries.filter (·.1 == ⟨program, position⟩)).map (·.2) := by
  induction entries generalizing map with
  | nil => simp [pushAll]
  | cons entry rest induction =>
      rw [pushAll_cons, induction, get_push]
      by_cases same : entry.1 = ⟨program, position⟩
      · simp [same]
      · simp [same]

theorem WellFormed.pushAll {map : TransferMap} (formed : map.WellFormed)
    (entries : List (TransferKey × TransferRecord)) : (map.pushAll entries).WellFormed := by
  induction entries generalizing map with
  | nil => exact formed
  | cons entry rest induction =>
      rw [pushAll_cons]
      exact induction (formed.push entry.1 entry.2)

theorem records_pushAll {map : TransferMap} (formed : map.WellFormed)
    (entries : List (TransferKey × TransferRecord)) :
    (map.pushAll entries).records.Perm (map.records ++ entries.map (·.2)) := by
  induction entries generalizing map with
  | nil => simp [pushAll]
  | cons entry rest induction =>
      rw [pushAll_cons]
      have pushed := records_push formed entry.1 entry.2
      have later := induction (formed.push entry.1 entry.2)
      have regrouped : map.records ++ [entry.2] ++ rest.map (·.2) =
          map.records ++ (entry :: rest).map (·.2) := by
        simp
      rw [← regrouped]
      exact later.trans (pushed.append_right _)

end TransferMap

end MemeEvents
