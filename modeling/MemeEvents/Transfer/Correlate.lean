import MemeEvents.Transfer.Basic
import MemeEvents.Chain.View

/-! Finding the balance movements of a transaction and the instruction responsible for each. -/

namespace MemeEvents

/-- What one token-program instruction moves, before its mint and decimals are resolved. -/
structure TokenMove where
  kind : TransferKind
  amount : Nat
  checkedDecimals : Option Nat
  source : Pubkey
  mintHint : Option Pubkey
  destination : Pubkey
  authority : Option Pubkey

def TokenMove.ofInstruction? (ix : Instruction) : Option TokenMove :=
  match ix.data with
  | [] => none
  | tag :: rest =>
    let amount : Option Nat :=
      if rest.length ≥ 8 then some (Bytes.ofLittleEndian (rest.take 8)) else none
    let decimals : Option Nat := (rest[8]?).map (·.toNat)
    let account := fun (i : Nat) => ix.accounts[i]?
    match tag with
    | 3 => do
      let a ← amount
      pure ⟨.transfer, a, none, ← account 0, none, ← account 1, account 2⟩
    | 12 => do
      let a ← amount
      let d ← decimals
      pure ⟨.transferChecked, a, some d, ← account 0, account 1, ← account 2, account 3⟩
    | 7 => do
      let a ← amount
      let mint ← account 0
      pure ⟨.mintTo, a, none, mint, some mint, ← account 1, account 2⟩
    | 14 => do
      let a ← amount
      let d ← decimals
      let mint ← account 0
      pure ⟨.mintToChecked, a, some d, mint, some mint, ← account 1, account 2⟩
    | 8 => do
      let a ← amount
      let mint ← account 1
      pure ⟨.burn, a, none, ← account 0, some mint, mint, account 2⟩
    | 15 => do
      let a ← amount
      let d ← decimals
      let mint ← account 1
      pure ⟨.burnChecked, a, some d, ← account 0, some mint, mint, account 2⟩
    | _ => none

def TokenMove.record? (move : TokenMove) (view : View) (program : Pubkey) (position : Position) :
    Option TransferRecord := do
  let sourceInfo := view.tokenAccountInfo move.source
  let destinationInfo := view.tokenAccountInfo move.destination
  let mint ← move.mintHint <|> sourceInfo.map (·.mint) <|> destinationInfo.map (·.mint)
  let decimals ← move.checkedDecimals <|> sourceInfo.map (·.decimals) <|>
    destinationInfo.map (·.decimals) <|> (view.mintDecimals mint).toOption
  let authorityOwner := match move.kind with
    | .transfer | .transferChecked => move.authority
    | _ => none
  pure { kind := move.kind, program, mint, source := move.source,
         destination := move.destination,
         sourceOwner := (sourceInfo.bind (·.owner)) <|> authorityOwner,
         destinationOwner := destinationInfo.bind (·.owner), authority := move.authority,
         raw := move.amount, decimals, ui := Ui.value move.amount decimals, position }

/-- Which kinds of movement are recorded. -/
structure Correlator where
  kinds : List TransferKind := [.transfer, .transferChecked, .native]
  deriving Inhabited

namespace Correlator

def withExtra (extra : List TransferKind) : Correlator :=
  ⟨extra.foldl (fun kinds k => if kinds.contains k then kinds else kinds ++ [k])
    [.transfer, .transferChecked, .native]⟩

def accepts (c : Correlator) (kind : TransferKind) : Bool := c.kinds.contains kind

theorem withExtra_of_isEmpty (extra : List TransferKind) :
    (if extra.isEmpty then ({} : Correlator) else withExtra extra) = withExtra extra := by
  cases extra <;> rfl

def nativeRecord? (c : Correlator) (ix : Instruction) (position : Position) :
    Option TransferRecord := do
  guard (c.accepts .native && ix.data.length ≥ 12)
  guard (Bytes.ofLittleEndian (ix.data.take 4) == 2)
  let lamports := Bytes.ofLittleEndian ((ix.data.drop 4).take 8)
  let source ← ix.accounts[0]?
  let destination ← ix.accounts[1]?
  pure { kind := .native, program := Programs.system, mint := Programs.wrappedSol, source,
         destination, sourceOwner := some source, destinationOwner := some destination,
         authority := some source, raw := lamports, decimals := Programs.solDecimals,
         ui := Ui.value lamports Programs.solDecimals, position }

def tokenRecord? (c : Correlator) (view : View) (ix : Instruction) (position : Position) :
    Option TransferRecord := do
  let move ← TokenMove.ofInstruction? ix
  guard (c.accepts move.kind)
  move.record? view ix.program position

def record? (c : Correlator) (view : View) (ix : Instruction) (position : Position) :
    Option TransferRecord :=
  if ix.program == Programs.system then c.nativeRecord? ix position
  else if Programs.isTokenProgram ix.program then c.tokenRecord? view ix position
  else none

def isPassthrough (program : Pubkey) : Bool :=
  Programs.isTokenProgram program || program == Programs.system ||
    program == Programs.associatedToken || program == Programs.computeBudget

def correlateInner (c : Correlator) (view : View) (outer : Nat) :
    TransferKey → List (Instruction × Nat) → TransferMap → TransferMap
  | _, [], map => map
  | current, (ix, i) :: rest, map =>
    let position : Position := ⟨outer, some i⟩
    if isPassthrough ix.program then
      let map := match c.record? view ix position with
        | some record => map.push current record
        | none => map
      correlateInner c view outer current rest map
    else if Programs.isEventLog ix.data then correlateInner c view outer current rest map
    else correlateInner c view outer ⟨ix.program, position⟩ rest map

def correlate (c : Correlator) (view : View) : TransferMap :=
  view.instructions.zipIdx.foldl (fun map (ix, outer) =>
    let key : TransferKey := ⟨ix.program, ⟨outer, none⟩⟩
    let map := match c.record? view ix key.position with
      | some record => map.push key record
      | none => map
    c.correlateInner view outer key (view.innerOf outer).zipIdx map) {}

end Correlator

end MemeEvents
