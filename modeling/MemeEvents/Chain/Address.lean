import MemeEvents.Chain.Programs
import MemeEvents.Crypto.Sha256
import MemeEvents.Crypto.Edwards

/-!
Program-derived addresses: the SHA-256 hash of the seeds, a bump byte, the program and a fixed
marker, taken for the largest bump whose hash is not a point of the curve, so that no private key
can sign for it.
-/

namespace MemeEvents.Address

def marker : List UInt8 := "ProgramDerivedAddress".toUTF8.toList

/-- The hash for one bump. -/
def candidate (seeds : List (List UInt8)) (program : Pubkey) (bump : Nat) : List UInt8 :=
  Sha256.digest (seeds.flatten ++ [bump.toUInt8] ++ program.bytes ++ marker)

def findProgramAddress? (seeds : List (List UInt8)) (program : Pubkey) : Option (Pubkey × Nat) :=
  (List.range 256).reverse.findSome? fun bump =>
    let hash := candidate seeds program bump
    if Edwards.isOnCurve hash then none else (Pubkey.ofBytes? hash).map (·, bump)

def associatedTokenAccount (owner mint tokenProgram : Pubkey) : Pubkey :=
  match findProgramAddress? [owner.bytes, tokenProgram.bytes, mint.bytes] Programs.associatedToken with
  | some (address, _) => address
  | none => Pubkey.zero

end MemeEvents.Address
