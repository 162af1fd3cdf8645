import Mathlib.Data.Option.Basic
import MemeEvents.Transfer.Correlate

/-! What the correlator records for one instruction. -/

namespace MemeEvents

/-! ### The first known of a list of fallbacks -/

inductive FirstKnown {α : Type} : List (Option α) → α → Prop
  | here {value : α} {rest : List (Option α)} : FirstKnown (some value :: rest) value
  | later {value : α} {rest : List (Option α)} : FirstKnown rest value →
      FirstKnown (none :: rest) value

namespace FirstKnown

variable {α : Type} {value : α}

theorem cons_iff {candidate : Option α} {rest : List (Option α)} :
    FirstKnown (candidate :: rest) value ↔
      candidate = some value ∨ candidate = none ∧ FirstKnown rest value := by
  constructor
  · intro known
    cases known with
    | here => exact .inl rfl
    | later later => exact .inr ⟨rfl, later⟩
  · rintro (rfl | ⟨rfl, later⟩)
    · exact .here
    · exact .later later

theorem singleton_iff {candidate : Option α} :
    FirstKnown [candidate] value ↔ candidate = some value := by
  rw [cons_iff]
  constructor
  · rintro (found | ⟨_, nothing⟩)
    · exact found
    · cases nothing
  · exact .inl

theorem orElse_eq_some_iff {first second : Option α} :
    (first <|> second) = some value ↔ first = some value ∨ first = none ∧ second = some value := by
  change first.orElse (fun _ => second) = some value ↔ _
  rw [Option.orElse_eq_or, Option.or_eq_some_iff]

theorem orElse_iff {first chain : Option α} {rest : List (Option α)}
    (chainKnown : chain = some value ↔ FirstKnown rest value) :
    (first <|> chain) = some value ↔ FirstKnown (first :: rest) value := by
  rw [orElse_eq_some_iff, chainKnown, cons_iff]

end FirstKnown

/-! ### The layouts of the token program's movements -/

/-- Where a movement instruction of the token program keeps its fields: the tag its data opens
with, whether the decimals follow the amount, and the positions of the destination account, of
the mint when the instruction names one, and of the signing authority. The source is always the
first account. -/
structure MovementLayout where
  tag : UInt8
  checked : Bool
  destination : Nat
  mint : Option Nat
  authority : Nat

def TransferKind.layout? : TransferKind → Option MovementLayout
  | .transfer => some ⟨3, false, 1, none, 2⟩
  | .transferChecked => some ⟨12, true, 2, some 1, 3⟩
  | .mintTo => some ⟨7, false, 1, some 0, 2⟩
  | .mintToChecked => some ⟨14, true, 1, some 0, 2⟩
  | .burn => some ⟨8, false, 1, some 1, 2⟩
  | .burnChecked => some ⟨15, true, 1, some 1, 2⟩
  | .native => none

namespace MovementLayout

def width (layout : MovementLayout) : Nat := if layout.checked then 9 else 8

def move (layout : MovementLayout) (kind : TransferKind) (accounts : List Pubkey)
    (rest : List UInt8) : TokenMove :=
  ⟨kind, Bytes.ofLittleEndian (rest.take 8),
    if layout.checked then some (rest.getD 8 0).toNat else none, accounts.getD 0 default,
    layout.mint.map (accounts.getD · default), accounts.getD layout.destination default,
    accounts[layout.authority]?⟩

end MovementLayout

section Reading

variable {α : Type} {rest : List UInt8}

theorem getElem?_eq_some_iff_getD {list : List α} {index : Nat} {found : α} (fallback : α) :
    list[index]? = some found ↔ index < list.length ∧ list.getD index fallback = found := by
  rw [List.getD_eq_getElem?_getD]
  constructor
  · intro present
    rw [present]
    exact ⟨(List.getElem?_eq_some_iff.mp present).1, rfl⟩
  · rintro ⟨inside, rfl⟩
    rw [List.getElem?_eq_getElem inside]
    rfl

theorem getElem?_eq_getD {list : List α} {index : Nat} (fallback : α)
    (inside : index < list.length) :
    list[index]? = some (list.getD index fallback) :=
  (getElem?_eq_some_iff_getD fallback).mpr ⟨inside, rfl⟩

theorem account_eq_some {accounts : List Pubkey} {index : Nat} {key : Pubkey} :
    accounts[index]? = some key ↔ index < accounts.length ∧ accounts.getD index default = key :=
  getElem?_eq_some_iff_getD default

theorem amount_eq_some {amount : Nat} :
    (if rest.length ≥ 8 then some (Bytes.ofLittleEndian (rest.take 8)) else none) = some amount ↔
      8 ≤ rest.length ∧ Bytes.ofLittleEndian (rest.take 8) = amount := by
  split
  · simp_all
  · simp only [reduceCtorEq, false_iff, not_and]
    intro long
    omega

theorem decimals_eq_some {decimals : Nat} :
    (rest[8]?).map (·.toNat) = some decimals ↔
      9 ≤ rest.length ∧ (rest.getD 8 0).toNat = decimals := by
  rw [Option.map_eq_some_iff]
  constructor
  · rintro ⟨byte, found, rfl⟩
    obtain ⟨inside, rfl⟩ := (getElem?_eq_some_iff_getD 0).mp found
    exact ⟨inside, rfl⟩
  · rintro ⟨long, rfl⟩
    exact ⟨_, getElem?_eq_getD 0 long, rfl⟩

end Reading

theorem TokenMove.ofInstruction?_eq_some_iff (ix : Instruction) (move : TokenMove) :
    TokenMove.ofInstruction? ix = some move ↔ ∃ (kind : TransferKind) (layout : MovementLayout)
      (rest : List UInt8), kind.layout? = some layout ∧ ix.data = layout.tag :: rest ∧
        layout.width ≤ rest.length ∧ layout.destination < ix.accounts.length ∧
        move = layout.move kind ix.accounts rest := by
  obtain ⟨program, accounts, data⟩ := ix
  constructor
  · intro decoded
    cases data with
    | nil => cases decoded
    | cons tag rest =>
      unfold TokenMove.ofInstruction? at decoded
      dsimp only at decoded
      -- one branch per tag of a movement; every other tag reads nothing
      split at decoded
      all_goals
        try simp only [Option.bind_eq_bind, Option.bind_eq_some_iff, Option.pure_def,
          Option.some.injEq, amount_eq_some, decimals_eq_some, account_eq_some] at decoded
      next =>
        obtain ⟨_, ⟨long, rfl⟩, _, ⟨_, rfl⟩, _, ⟨present, rfl⟩, rfl⟩ := decoded
        exact ⟨.transfer, _, rest, rfl, rfl, long, present, rfl⟩
      next =>
        obtain ⟨_, ⟨_, rfl⟩, _, ⟨long, rfl⟩, _, ⟨_, rfl⟩, _, ⟨present, rfl⟩, rfl⟩ := decoded
        -- the mint a checked transfer names is optional, but present with its destination
        have hint := getElem?_eq_getD default (show 1 < accounts.length by omega)
        exact ⟨.transferChecked, _, rest, rfl, rfl, long, present, by rw [hint]; rfl⟩
      next =>
        obtain ⟨_, ⟨long, rfl⟩, _, ⟨_, rfl⟩, _, ⟨present, rfl⟩, rfl⟩ := decoded
        exact ⟨.mintTo, _, rest, rfl, rfl, long, present, rfl⟩
      next =>
        obtain ⟨_, ⟨_, rfl⟩, _, ⟨long, rfl⟩, _, ⟨_, rfl⟩, _, ⟨present, rfl⟩, rfl⟩ := decoded
        exact ⟨.mintToChecked, _, rest, rfl, rfl, long, present, rfl⟩
      next =>
        obtain ⟨_, ⟨long, rfl⟩, _, ⟨present, rfl⟩, _, ⟨_, rfl⟩, rfl⟩ := decoded
        exact ⟨.burn, _, rest, rfl, rfl, long, present, rfl⟩
      next =>
        obtain ⟨_, ⟨_, rfl⟩, _, ⟨long, rfl⟩, _, ⟨present, rfl⟩, _, ⟨_, rfl⟩, rfl⟩ := decoded
        exact ⟨.burnChecked, _, rest, rfl, rfl, long, present, rfl⟩
      next => cases decoded
  · rintro ⟨kind, layout, rest, laid, opens, long, present, rfl⟩
    dsimp only at opens ⊢
    subst opens
    cases kind <;> simp only [TransferKind.layout?, reduceCtorEq, Option.some.injEq] at laid <;>
      subst laid
    -- each layout reads back through its own branch, its fields being there
    all_goals
      simp only [MovementLayout.width, Bool.false_eq_true, ↓reduceIte] at long
      dsimp only at present
      unfold TokenMove.ofInstruction?
      dsimp only
      rw [if_pos (show rest.length ≥ 8 by omega)]
      simp (disch := omega) only [getElem?_eq_getD default]
      rfl

/-! ### Resolving a token movement -/

def TransferKind.isTransfer : TransferKind → Bool
  | .transfer | .transferChecked => true
  | _ => false

namespace TokenMove

variable (move : TokenMove) (view : View)

def mintCandidates : List (Option Pubkey) :=
  [move.mintHint, (view.tokenAccountInfo move.source).map (·.mint),
    (view.tokenAccountInfo move.destination).map (·.mint)]

def decimalsCandidates (mint : Pubkey) : List (Option Nat) :=
  [move.checkedDecimals, (view.tokenAccountInfo move.source).map (·.decimals),
    (view.tokenAccountInfo move.destination).map (·.decimals), (view.mintDecimals mint).toOption]

def recordWith (program : Pubkey) (position : Position) (mint : Pubkey) (decimals : Nat) :
    TransferRecord where
  kind := move.kind
  program := program
  mint := mint
  source := move.source
  destination := move.destination
  sourceOwner := (view.tokenAccountInfo move.source).bind (·.owner) <|>
    if move.kind.isTransfer then move.authority else none
  destinationOwner := (view.tokenAccountInfo move.destination).bind (·.owner)
  authority := move.authority
  raw := move.amount
  decimals := decimals
  ui := Ui.value move.amount decimals
  position := position

theorem record?_eq_some_iff_known (program : Pubkey) (position : Position)
    (record : TransferRecord) :
    move.record? view program position = some record ↔ ∃ mint decimals,
      FirstKnown (move.mintCandidates view) mint ∧
      FirstKnown (move.decimalsCandidates view mint) decimals ∧
      record = move.recordWith view program position mint decimals := by
  unfold TokenMove.record?
  constructor
  · intro resolved
    obtain ⟨mint, mintFound, resolved⟩ := Option.bind_eq_some_iff.mp resolved
    obtain ⟨decimals, decimalsFound, resolved⟩ := Option.bind_eq_some_iff.mp resolved
    refine ⟨mint, decimals,
      (FirstKnown.orElse_iff (FirstKnown.orElse_iff FirstKnown.singleton_iff.symm)).mp mintFound,
      (FirstKnown.orElse_iff (FirstKnown.orElse_iff (FirstKnown.orElse_iff
        FirstKnown.singleton_iff.symm))).mp decimalsFound, ?_⟩
    cases resolved
    -- the owner's fallback matches on the kind, where the record asks whether it is a transfer
    obtain ⟨kind⟩ := move
    cases kind <;> rfl
  · rintro ⟨mint, decimals, mintKnown, decimalsKnown, rfl⟩
    refine Option.bind_eq_some_iff.mpr ⟨mint,
      (FirstKnown.orElse_iff (FirstKnown.orElse_iff FirstKnown.singleton_iff.symm)).mpr mintKnown,
      Option.bind_eq_some_iff.mpr ⟨decimals, (FirstKnown.orElse_iff (FirstKnown.orElse_iff
        (FirstKnown.orElse_iff FirstKnown.singleton_iff.symm))).mpr decimalsKnown, ?_⟩⟩
    obtain ⟨kind⟩ := move
    cases kind <;> rfl

end TokenMove

/-! ### Recording an instruction -/

def TransferRecord.lamports (source destination : Pubkey) (amount : Nat) (position : Position) :
    TransferRecord where
  kind := .native
  program := Programs.system
  mint := Programs.wrappedSol
  source := source
  destination := destination
  sourceOwner := some source
  destinationOwner := some destination
  authority := some source
  raw := amount
  decimals := Programs.solDecimals
  ui := Ui.value amount Programs.solDecimals
  position := position

theorem Programs.isTokenProgram_system : Programs.isTokenProgram Programs.system = false := by
  decide +kernel

namespace Correlator

variable (c : Correlator) (view : View) (ix : Instruction) (position : Position)
  (record : TransferRecord)

theorem first_two_eq_some {accounts : List Pubkey} {source destination : Pubkey}
    (first : accounts[0]? = some source) (second : accounts[1]? = some destination) :
    ∃ more, accounts = source :: destination :: more := by
  match accounts, first, second with
  | _ :: _ :: more, first, second =>
    cases first
    cases second
    exact ⟨more, rfl⟩

theorem nativeRecord?_eq_some_iff :
    c.nativeRecord? ix position = some record ↔
      c.accepts .native = true ∧ 12 ≤ ix.data.length ∧ Bytes.ofLittleEndian (ix.data.take 4) = 2 ∧
        ∃ source destination more, ix.accounts = source :: destination :: more ∧
          record = TransferRecord.lamports source destination
            (Bytes.ofLittleEndian ((ix.data.drop 4).take 8)) position := by
  unfold nativeRecord?
  constructor
  · intro found
    obtain ⟨_, admitted, found⟩ := Option.bind_eq_some_iff.mp found
    obtain ⟨_, tagged, found⟩ := Option.bind_eq_some_iff.mp found
    obtain ⟨source, first, found⟩ := Option.bind_eq_some_iff.mp found
    obtain ⟨destination, second, found⟩ := Option.bind_eq_some_iff.mp found
    obtain ⟨accepted, long⟩ := Bool.and_eq_true_iff.mp ((Option.guard_eq_some' _).mp admitted)
    obtain ⟨more, listed⟩ := first_two_eq_some first second
    cases found
    exact ⟨accepted, of_decide_eq_true long, beq_iff_eq.mp ((Option.guard_eq_some' _).mp tagged),
      source, destination, more, listed, rfl⟩
  · rintro ⟨accepted, long, tagged, source, destination, more, listed, rfl⟩
    have admitted : (c.accepts .native && decide (ix.data.length ≥ 12)) = true := by
      rw [accepted, decide_eq_true long]
      rfl
    rw [(Option.guard_eq_some' ()).mpr admitted,
      (Option.guard_eq_some' ()).mpr (beq_iff_eq.mpr tagged), listed]
    rfl

theorem tokenRecord?_eq_some_iff :
    c.tokenRecord? view ix position = some record ↔ ∃ move,
      TokenMove.ofInstruction? ix = some move ∧ c.accepts move.kind = true ∧
        move.record? view ix.program position = some record := by
  unfold tokenRecord?
  constructor
  · intro found
    obtain ⟨move, decoded, found⟩ := Option.bind_eq_some_iff.mp found
    obtain ⟨_, accepted, resolved⟩ := Option.bind_eq_some_iff.mp found
    exact ⟨move, decoded, (Option.guard_eq_some' _).mp accepted, resolved⟩
  · rintro ⟨move, decoded, accepted, resolved⟩
    exact Option.bind_eq_some_iff.mpr ⟨move, decoded,
      Option.bind_eq_some_iff.mpr ⟨(), (Option.guard_eq_some' ()).mpr accepted, resolved⟩⟩

inductive Records : TransferRecord → Prop
  /-- A lamport transfer of the system program, when lamport transfers are accepted: tag 2 as a
  32-bit word and the 64-bit amount, from the first account to the second. -/
  | native {source destination : Pubkey} {more : List Pubkey}
      (system : ix.program = Programs.system) (accepted : c.accepts .native = true)
      (long : 12 ≤ ix.data.length) (tagged : Bytes.ofLittleEndian (ix.data.take 4) = 2)
      (listed : ix.accounts = source :: destination :: more) :
      Records (TransferRecord.lamports source destination
        (Bytes.ofLittleEndian ((ix.data.drop 4).take 8)) position)
  /-- A movement of a token program laid out as its kind says, of an accepted kind, with the
  first known of the fallbacks for its mint and then for its decimals. -/
  | token {kind : TransferKind} {layout : MovementLayout} {rest : List UInt8} {mint : Pubkey}
      {decimals : Nat} (tokenProgram : Programs.isTokenProgram ix.program = true)
      (laid : kind.layout? = some layout) (opens : ix.data = layout.tag :: rest)
      (long : layout.width ≤ rest.length) (present : layout.destination < ix.accounts.length)
      (accepted : c.accepts kind = true)
      (mintKnown : FirstKnown ((layout.move kind ix.accounts rest).mintCandidates view) mint)
      (decimalsKnown :
        FirstKnown ((layout.move kind ix.accounts rest).decimalsCandidates view mint) decimals) :
      Records ((layout.move kind ix.accounts rest).recordWith view ix.program position mint
        decimals)

variable {c view ix position record}

theorem Records.native_iff (system : ix.program = Programs.system) :
    c.Records view ix position record ↔ c.nativeRecord? ix position = some record := by
  rw [nativeRecord?_eq_some_iff]
  constructor
  · intro recorded
    cases recorded with
    | native _ accepted long tagged listed => exact ⟨accepted, long, tagged, _, _, _, listed, rfl⟩
    | token tokenProgram =>
      rw [system, Programs.isTokenProgram_system] at tokenProgram
      cases tokenProgram
  · rintro ⟨accepted, long, tagged, source, destination, more, listed, rfl⟩
    exact .native system accepted long tagged listed

theorem Records.token_iff (system : ix.program ≠ Programs.system)
    (tokenProgram : Programs.isTokenProgram ix.program = true) :
    c.Records view ix position record ↔ c.tokenRecord? view ix position = some record := by
  rw [tokenRecord?_eq_some_iff]
  constructor
  · intro recorded
    cases recorded with
    | native listedSystem => exact absurd listedSystem system
    | token _ laid opens long present accepted mintKnown decimalsKnown =>
      exact ⟨_, (TokenMove.ofInstruction?_eq_some_iff ix _).mpr
          ⟨_, _, _, laid, opens, long, present, rfl⟩, accepted,
        (TokenMove.record?_eq_some_iff_known _ view ix.program position _).mpr
          ⟨_, _, mintKnown, decimalsKnown, rfl⟩⟩
  · rintro ⟨move, decoded, accepted, resolved⟩
    obtain ⟨kind, layout, rest, laid, opens, long, present, rfl⟩ :=
      (TokenMove.ofInstruction?_eq_some_iff ix move).mp decoded
    obtain ⟨mint, decimals, mintKnown, decimalsKnown, rfl⟩ :=
      (TokenMove.record?_eq_some_iff_known _ view ix.program position record).mp resolved
    exact .token tokenProgram laid opens long present accepted mintKnown decimalsKnown

theorem Records.of_other (system : ix.program ≠ Programs.system)
    (notToken : Programs.isTokenProgram ix.program ≠ true) :
    ¬ c.Records view ix position record := by
  intro recorded
  cases recorded with
  | native listedSystem => exact system listedSystem
  | token tokenProgram => exact notToken tokenProgram

end Correlator

/-- The correlator records an instruction exactly as `Correlator.Records` says: a lamport
transfer of the system program, or a movement of a token program whose mint and decimals some
fallback knows; every other instruction, and every movement whose mint or decimals no fallback
knows, is recorded as nothing. -/
theorem Correlator.record?_eq_some_iff (c : Correlator) (view : View) (ix : Instruction)
    (position : Position) (record : TransferRecord) :
    c.record? view ix position = some record ↔ c.Records view ix position record := by
  unfold record?
  -- the system program is asked for first, then whether the program moves tokens
  by_cases system : ix.program = Programs.system
  · rw [if_pos (beq_iff_eq.mpr system), Records.native_iff system]
  · rw [if_neg (fun same => system (beq_iff_eq.mp same))]
    by_cases tokenProgram : Programs.isTokenProgram ix.program = true
    · rw [if_pos tokenProgram, Records.token_iff system tokenProgram]
    · rw [if_neg tokenProgram]
      exact ⟨nofun, fun recorded => absurd recorded (Records.of_other system tokenProgram)⟩

end MemeEvents
