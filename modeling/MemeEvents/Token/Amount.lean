import MemeEvents.Token.Ui
import MemeEvents.Chain.Programs

/-!
Token amounts as events report them. A `TokenAmount` may lack its decimals or its UI value: both
present mean it is settled; decimals alone are a default that a mint look-up may override.
-/

namespace MemeEvents

structure TokenAmount where
  mint : Pubkey
  raw : Nat
  decimals : Option Nat := none
  ui : Option Binary64 := none
  deriving DecidableEq, Inhabited

namespace TokenAmount

/-- An amount whose decimals are unknown. -/
def unscaled (mint : Pubkey) (raw : Nat) : TokenAmount := ⟨mint, raw, none, none⟩

def scaled (mint : Pubkey) (raw decimals : Nat) : TokenAmount :=
  ⟨mint, raw, some decimals, some (Ui.value raw decimals)⟩

def hinted (mint : Pubkey) (raw decimals : Nat) : TokenAmount := ⟨mint, raw, some decimals, none⟩

def sol (lamports : Nat) : TokenAmount := scaled Programs.wrappedSol lamports Programs.solDecimals

end TokenAmount

structure TokenInfo where
  mint : Pubkey
  raw : Nat
  ui : Binary64
  decimals : Nat
  deriving DecidableEq, Inhabited

def TokenInfo.of (mint : Pubkey) (raw decimals : Nat) : TokenInfo :=
  ⟨mint, raw, Ui.value raw decimals, decimals⟩

end MemeEvents
