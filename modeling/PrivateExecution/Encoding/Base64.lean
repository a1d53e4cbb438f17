import Mathlib.Algebra.Group.Nat.Defs
import Mathlib.Data.List.Basic

/-!
# Base64

The standard alphabet with padding, and the strict reading that accepts only what the encoder writes
(`apps/private-api/src/lib.rs`, `apps/private-api/src/release.rs`).
-/

namespace PrivateExecution

def base64Char (n : ℕ) : Char :=
  "ABCDEFGHIJKLMNOPQRSTUVWXYZabcdefghijklmnopqrstuvwxyz0123456789+/".toList.getD (n % 64) '='

def base64Quad (len : ℕ) (b0 b1 b2 : UInt8) : List Char :=
  let triple := b0.toNat * 2 ^ 16 + b1.toNat * 2 ^ 8 + b2.toNat
  [base64Char (triple / 2 ^ 18), base64Char (triple / 2 ^ 12),
    if 1 < len then base64Char (triple / 2 ^ 6) else '=', if 2 < len then base64Char triple else '=']

def base64Chars : List UInt8 → List Char
  | [] => []
  | [b0] => base64Quad 1 b0 0 0
  | [b0, b1] => base64Quad 2 b0 b1 0
  | b0 :: b1 :: b2 :: rest => base64Quad 3 b0 b1 b2 ++ base64Chars rest

def base64Encode (data : List UInt8) : String := String.ofList (base64Chars data)

def base64Value (c : Char) : Option ℕ :=
  if 'A' ≤ c ∧ c ≤ 'Z' then some (c.toNat - 'A'.toNat)
  else if 'a' ≤ c ∧ c ≤ 'z' then some (c.toNat - 'a'.toNat + 26)
  else if '0' ≤ c ∧ c ≤ '9' then some (c.toNat - '0'.toNat + 52)
  else if c = '+' then some 62
  else if c = '/' then some 63
  else none

/-- The loop of `decode_canonical_b64_variable` from position `index` on: the bytes still to come. -/
def base64Loop (len : ℕ) : (index acc bits pad : ℕ) → List Char → Option (List UInt8)
  | _, _, _, _, [] => some []
  | index, acc, bits, pad, c :: rest =>
    if c = '=' then
      if index + 2 < len ∨ 2 < pad + 1 then none else base64Loop len (index + 1) acc bits (pad + 1) rest
    else if 0 < pad then none
    else do
      let value ← base64Value c
      let acc := acc * 2 ^ 6 % 2 ^ 32 + value
      if 8 ≤ bits + 6 then
        let out ← base64Loop len (index + 1) acc (bits + 6 - 8) pad rest
        return UInt8.ofNat (acc / 2 ^ (bits + 6 - 8)) :: out
      else base64Loop len (index + 1) acc (bits + 6) pad rest

def decodeCanonicalB64Variable (input : String) : Option (List UInt8) :=
  if input.toList.any fun c => decide (128 ≤ c.toNat) then none
  else if input.toList.length % 4 ≠ 0 then none
  else do
    let out ← base64Loop input.toList.length 0 0 0 0 input.toList
    if base64Encode out ≠ input then none else some out

def decodeCanonicalB64 (input : String) (expectedLen : ℕ) : Option (List UInt8) := do
  let out ← decodeCanonicalB64Variable input
  if out.length = expectedLen then some out else none

example : decodeCanonicalB64 "AAAA" 3 = some [0, 0, 0] := by decide +kernel
example : decodeCanonicalB64 "AAA" 3 = none ∧ decodeCanonicalB64 "A===" 1 = none := by decide +kernel

end PrivateExecution
