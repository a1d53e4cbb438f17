import Mathlib.Tactic.Common

/-!
# The Solana payload check

`validate_solana_transaction` (`chain-adapters/src/solana.rs`): the strict parser a payload must
pass before it is broadcast on Solana. The cursor is the list of bytes that are left, and a parser
fails as a whole.
-/

namespace PrivateExecution

inductive ChainAdapterError where
  | transportUnavailable | timeout | rejected | unsupportedChain | wrongChain | invalidPayload
  | invalidResponse

inductive SolanaTransactionVersion where
  | legacy | v0

structure SolanaTransactionInfo where
  signatureCount : ℕ
  version : SolanaTransactionVersion
  accountKeyCount : ℕ
  instructionCount : ℕ
  addressTableLookupCount : ℕ

/-- A reader of bytes. The state is what is left of the input. -/
abbrev Cursor := StateT (List UInt8) Option

namespace Cursor

def take (count : ℕ) : Cursor (List UInt8) := fun bytes =>
  if count ≤ bytes.length then some (bytes.take count, bytes.drop count) else none

def byte : Cursor UInt8 := fun bytes =>
  match bytes with
  | [] => none
  | b :: rest => some (b, rest)

def peek : Cursor UInt8 := fun bytes => bytes.head?.map fun b => (b, bytes)

def compactU16From : List ℕ → ℕ → Cursor ℕ
  | [], _ => failure
  | shift :: shifts, value => do
    let b ← byte
    let value := value ||| ((b &&& 0x7f).toNat <<< shift)
    if b &&& 0x80 = 0 then do
      guard (value < 2 ^ 16)
      return value
    else compactU16From shifts value

def compactU16 : Cursor ℕ := compactU16From [0, 7, 14] 0

def items (item : Cursor Unit) : ℕ → Cursor Unit
  | 0 => pure ()
  | n + 1 => do
    item
    items item n

end Cursor

open Cursor

def maxSolanaTransactionBytes : ℕ := 1232

def maxSolanaSignatures : ℕ := 32

def maxAddressTableLookups : ℕ := 64

namespace SolanaTransaction

def instruction (accountKeyCount : ℕ) : Cursor Unit := do
  let programIdIndex ← byte
  guard (programIdIndex.toNat < accountKeyCount)
  let accountsLen ← compactU16
  let accounts ← take accountsLen
  guard (accounts.all fun index => index.toNat < accountKeyCount)
  let dataLen ← compactU16
  let _ ← take dataLen
  return ()

def addressTableLookup : Cursor Unit := do
  let _ ← take 32
  let writable ← compactU16
  let _ ← take writable
  let readonly ← compactU16
  let _ ← take readonly
  return ()

def version : Cursor SolanaTransactionVersion := do
  let first ← peek
  if first &&& 0x80 ≠ 0 then do
    let _ ← byte
    guard (first &&& 0x7f = 0)
    return .v0
  else return .legacy

def addressTableLookups : SolanaTransactionVersion → Cursor ℕ
  | .legacy => return 0
  | .v0 => do
    let lookups ← compactU16
    guard (lookups ≤ maxAddressTableLookups)
    items addressTableLookup lookups
    return lookups

def parse : Cursor SolanaTransactionInfo := do
  let signatureCount ← compactU16
  guard (signatureCount ≠ 0 ∧ signatureCount ≤ maxSolanaSignatures)
  let _ ← take (signatureCount * 64)
  let version ← version
  let requiredSignatures ← byte
  let readonlySigned ← byte
  let readonlyUnsigned ← byte
  guard (requiredSignatures ≠ 0 ∧ requiredSignatures.toNat ≤ signatureCount)
  guard (readonlySigned ≤ requiredSignatures)
  let accountKeyCount ← compactU16
  guard (requiredSignatures.toNat ≤ accountKeyCount)
  guard (readonlyUnsigned.toNat ≤ accountKeyCount - requiredSignatures.toNat)
  let _ ← take (accountKeyCount * 32)
  let _ ← take 32
  let instructionCount ← compactU16
  items (instruction accountKeyCount) instructionCount
  let lookups ← addressTableLookups version
  return ⟨signatureCount, version, accountKeyCount, instructionCount, lookups⟩

end SolanaTransaction

/-- Every failure is reported as an invalid payload, and nothing may be left over. -/
def validateSolanaTransaction (raw : List UInt8) : Except ChainAdapterError SolanaTransactionInfo :=
  if raw = [] ∨ maxSolanaTransactionBytes < raw.length ∨ raw.head?.any (0x80 ≤ ·) then
    .error .invalidPayload
  else
    match SolanaTransaction.parse raw with
    | some (info, []) => .ok info
    | _ => .error .invalidPayload

end PrivateExecution
