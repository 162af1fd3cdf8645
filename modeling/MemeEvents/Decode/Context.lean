import MemeEvents.Event.Basic
import MemeEvents.Chain.Flat
import MemeEvents.Transfer.Basic
import MemeEvents.Bytes.Cursor

/-!
What a decoder sees of an instruction: its protocol, its place in the transaction, the transaction
itself and the balance movements correlated with each instruction.
-/

namespace MemeEvents

instance : MonadLift (Except DecodeError) Read where
  monadLift result := match result with
    | .ok value => pure value
    | .error fault => throw fault

def pickRecord (records : List TransferRecord) (fallback : Nat)
    (predicate : TransferRecord → Bool) : Except DecodeError TransferRecord :=
  match records.find? predicate with
  | some record => .ok record
  | none => Unchecked.get records fallback

structure Context where
  protocol : Protocol
  located : Located
  view : View
  transfers : TransferMap

namespace Context

def program (context : Context) : Pubkey := context.located.program

def position (context : Context) : Position := context.located.position

def signer (context : Context) : Pubkey := context.view.signer

def accounts (context : Context) : List Pubkey := context.located.accounts

def account (context : Context) (index : Nat) : Except DecodeError Pubkey :=
  match context.accounts[index]? with
  | some key => .ok key
  | none => .error (.missingAccount index context.accounts.length)

def records (context : Context) : List TransferRecord :=
  context.transfers.get context.program context.position

def requireRecords (context : Context) (count : Nat) : Except DecodeError (List TransferRecord) :=
  if context.records.length < count then .error (.missingTransfer count context.records.length)
  else .ok context.records

def event (context : Context) (kind : EventKind) : Event :=
  { protocol := context.protocol, program := context.program, kind := kind }

theorem account_eq_ok_iff (context : Context) (index : Nat) (key : Pubkey) :
    context.account index = .ok key ↔ context.accounts[index]? = some key := by
  unfold account
  split <;> simp_all

end Context

/-- A decoder reads the payload after the discriminator and may produce one event. -/
abbrev Decoder := Context → Read (Option Event)

/-- A named set of discriminators and the decoder that handles data opening with any of them. -/
structure Route where
  name : String
  prefixes : List (List UInt8)
  decode : Decoder

def Route.matchLength? (route : Route) (data : List UInt8) : Option Nat :=
  (route.prefixes.find? (·.isPrefixOf data)).map (·.length)

def Route.silent (name : String) (prefixes : List (List UInt8)) : Route :=
  ⟨name, prefixes, fun _ => pure none⟩

end MemeEvents
