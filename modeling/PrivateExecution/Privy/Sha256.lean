import PrivateExecution.Privy.Signing

/-!
# SHA-256

The hash function itself, for runs on concrete inputs: the block function on 32-bit words that the
`sha2` crate computes. The theorems about the relay hold for every hash function and do not use it.
-/

namespace PrivateExecution

namespace Sha256

def roundConstants : List (BitVec 32) :=
  [0x428a2f98, 0x71374491, 0xb5c0fbcf, 0xe9b5dba5, 0x3956c25b, 0x59f111f1, 0x923f82a4, 0xab1c5ed5,
   0xd807aa98, 0x12835b01, 0x243185be, 0x550c7dc3, 0x72be5d74, 0x80deb1fe, 0x9bdc06a7, 0xc19bf174,
   0xe49b69c1, 0xefbe4786, 0x0fc19dc6, 0x240ca1cc, 0x2de92c6f, 0x4a7484aa, 0x5cb0a9dc, 0x76f988da,
   0x983e5152, 0xa831c66d, 0xb00327c8, 0xbf597fc7, 0xc6e00bf3, 0xd5a79147, 0x06ca6351, 0x14292967,
   0x27b70a85, 0x2e1b2138, 0x4d2c6dfc, 0x53380d13, 0x650a7354, 0x766a0abb, 0x81c2c92e, 0x92722c85,
   0xa2bfe8a1, 0xa81a664b, 0xc24b8b70, 0xc76c51a3, 0xd192e819, 0xd6990624, 0xf40e3585, 0x106aa070,
   0x19a4c116, 0x1e376c08, 0x2748774c, 0x34b0bcb5, 0x391c0cb3, 0x4ed8aa4a, 0x5b9cca4f, 0x682e6ff3,
   0x748f82ee, 0x78a5636f, 0x84c87814, 0x8cc70208, 0x90befffa, 0xa4506ceb, 0xbef9a3f7, 0xc67178f2]

/-- The eight working variables. -/
structure Words where
  (a b c d e f g h : BitVec 32)

def initial : Words :=
  ⟨0x6a09e667, 0xbb67ae85, 0x3c6ef372, 0xa54ff53a, 0x510e527f, 0x9b05688c, 0x1f83d9ab, 0x5be0cd19⟩

def round (v : Words) (kw : BitVec 32) : Words :=
  let s1 := v.e.rotateRight 6 ^^^ v.e.rotateRight 11 ^^^ v.e.rotateRight 25
  let ch := (v.e &&& v.f) ^^^ (~~~v.e &&& v.g)
  let t1 := v.h + s1 + ch + kw
  let s0 := v.a.rotateRight 2 ^^^ v.a.rotateRight 13 ^^^ v.a.rotateRight 22
  let maj := (v.a &&& v.b) ^^^ (v.a &&& v.c) ^^^ (v.b &&& v.c)
  ⟨t1 + (s0 + maj), v.a, v.b, v.c, v.d + t1, v.e, v.f, v.g⟩

def extend : ℕ → List (BitVec 32) → List (BitVec 32)
  | 0, ws => ws
  | n + 1, ws =>
    let w2 := ws.getD 1 0
    let w15 := ws.getD 14 0
    let s0 := w15.rotateRight 7 ^^^ w15.rotateRight 18 ^^^ (w15 >>> 3)
    let s1 := w2.rotateRight 17 ^^^ w2.rotateRight 19 ^^^ (w2 >>> 10)
    extend n ((ws.getD 15 0 + s0 + ws.getD 6 0 + s1) :: ws)

def words : List UInt8 → List (BitVec 32)
  | b0 :: b1 :: b2 :: b3 :: rest =>
    (b0.toBitVec ++ b1.toBitVec ++ b2.toBitVec ++ b3.toBitVec) :: words rest
  | _ => []

def compress (v : Words) (block : List UInt8) : Words :=
  let schedule := (extend 48 (words block).reverse).reverse
  let x := (List.zipWith (· + ·) roundConstants schedule).foldl round v
  ⟨v.a + x.a, v.b + x.b, v.c + x.c, v.d + x.d, v.e + x.e, v.f + x.f, v.g + x.g, v.h + x.h⟩

def pad (bytes : List UInt8) : List UInt8 :=
  bytes ++ 0x80 :: List.replicate ((119 - bytes.length % 64) % 64) 0 ++ beBytes 8 (8 * bytes.length)

def blocks : ℕ → Words → List UInt8 → Words
  | 0, v, _ => v
  | n + 1, v, bytes => blocks n (compress v (bytes.take 64)) (bytes.drop 64)

def wordBytes (w : BitVec 32) : List UInt8 := beBytes 4 w.toNat

@[reducible] def sha2 : Sha256 where
  digest bytes :=
    let message := pad bytes
    let v := blocks (message.length / 64) initial message
    let out := [v.a, v.b, v.c, v.d, v.e, v.f, v.g, v.h].flatMap wordBytes
    Vector.ofFn fun i => out.getD i 0

example : hexLower (sha2.digest (utf8 "abc")).toList =
    "ba7816bf8f01cfea414140de5dae2223b00361a396177a9cb410ff61f20015ad" := by decide +kernel

end Sha256

end PrivateExecution
