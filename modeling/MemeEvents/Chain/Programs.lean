import MemeEvents.Chain.Key

/-!
Addresses of the programs and mints that the decoders recognise.
-/

namespace MemeEvents.Programs

def pumpfun : Pubkey := Pubkey.ofText "6EF8rrecthR5Dkzon8Nwu78hRvfCKubJ14M5uBEwF6P"
def boopfun : Pubkey := Pubkey.ofText "boop8hVGQGqehUK2iVEMEnMrL5RbjywRzHKBmBE7ry4"
def meteoraDbc : Pubkey := Pubkey.ofText "dbcij3LWUppWqq96dh6gJWwBifmcGfLSB5D4DuSMaqN"
def moonit : Pubkey := Pubkey.ofText "MoonCVVNZFSYkqNXP6bxHLPL6QQJiMagDL3qcqUQTrG"
def raydiumLaunchpad : Pubkey := Pubkey.ofText "LanMV9sAd7wArD4vJFi2qDdfnVhFxYSUg6eADduJ3uj"
def sugar : Pubkey := Pubkey.ofText "deus4Bvftd5QKcEkE5muQaWGWDoma8xbN8vDxfsHb1t"
def meteoraDamm : Pubkey := Pubkey.ofText "Eo7WjKq67rjJQSZxS6z3YkapzY3eMj6Xy8X5EQVn5UaB"
def meteoraDammV2 : Pubkey := Pubkey.ofText "cpamdpZCGKUy5JxQXB4dcpGPiikHawvSWAd6mEn1sGG"
def meteoraDlmm : Pubkey := Pubkey.ofText "LBUZKhRxPF3XUpBCjp4YzTKgLccjZhTSDM9YuVaPwxo"

def system : Pubkey := Pubkey.zero
def token : Pubkey := Pubkey.ofText "TokenkegQfeZyiNwAJbNbGKPFXCWuBvf9Ss623VQ5DA"
def token2022 : Pubkey := Pubkey.ofText "TokenzQdBNbLqP5VEhdkAS6EPFLC1PHnBqCXEpPxuEb"
def associatedToken : Pubkey := Pubkey.ofText "ATokenGPvbdGVxr1b2hvZbsiqW5xWH25efTNsLJA8knL"
def computeBudget : Pubkey := Pubkey.ofText "ComputeBudget111111111111111111111111111111"

/-- Wrapped SOL: native lamports are reported under this mint. -/
def wrappedSol : Pubkey := Pubkey.ofText "So11111111111111111111111111111111111111112"
def usdc : Pubkey := Pubkey.ofText "EPjFWdd5AufqSSqeM2qN1xzybapC8G4wEGGkZwyTDt1v"

def solDecimals : Nat := 9

def isTokenProgram (program : Pubkey) : Bool :=
  program == token || program == token2022

end MemeEvents.Programs

namespace MemeEvents.Programs

def eventTag : List UInt8 := [228, 69, 165, 46, 81, 203, 154, 29]

def isEventLog (data : List UInt8) : Bool := eventTag.isPrefixOf data

end MemeEvents.Programs
