import PrivateExecution.Crypto.AtRest
import PrivateExecution.Privy.Commitment

/-!
# XChaCha20-Poly1305

The authenticated cipher itself, for runs on concrete inputs: the ChaCha block function, the
extended nonce and the Poly1305 tag that the `chacha20poly1305` crate computes.
-/

namespace PrivateExecution

namespace XChaCha

def leBytes : ℕ → ℕ → List UInt8
  | 0, _ => []
  | n + 1, x => UInt8.ofNat x :: leBytes n (x / 256)

def leNat : List UInt8 → ℕ
  | [] => 0
  | b :: rest => b.toNat + 256 * leNat rest

def leWords : List UInt8 → List (BitVec 32)
  | b0 :: b1 :: b2 :: b3 :: rest =>
    (b3.toBitVec ++ b2.toBitVec ++ b1.toBitVec ++ b0.toBitVec) :: leWords rest
  | _ => []

abbrev State := Vector (BitVec 32) 16

def quarterRound (s : State) (a b c d : Fin 16) : State :=
  let s := s.set a (s.get a + s.get b)
  let s := s.set d ((s.get d ^^^ s.get a).rotateLeft 16)
  let s := s.set c (s.get c + s.get d)
  let s := s.set b ((s.get b ^^^ s.get c).rotateLeft 12)
  let s := s.set a (s.get a + s.get b)
  let s := s.set d ((s.get d ^^^ s.get a).rotateLeft 8)
  let s := s.set c (s.get c + s.get d)
  s.set b ((s.get b ^^^ s.get c).rotateLeft 7)

def doubleRound (s : State) : State :=
  let s := quarterRound s 0 4 8 12
  let s := quarterRound s 1 5 9 13
  let s := quarterRound s 2 6 10 14
  let s := quarterRound s 3 7 11 15
  let s := quarterRound s 0 5 10 15
  let s := quarterRound s 1 6 11 12
  let s := quarterRound s 2 7 8 13
  quarterRound s 3 4 9 14

def rounds (s : State) : State := (List.replicate 10 ()).foldl (fun s _ => doubleRound s) s

def initial (key tail : List UInt8) : State :=
  let ws := [0x61707865, 0x3320646e, 0x79622d32, 0x6b206574] ++ leWords key ++ leWords tail
  Vector.ofFn fun i => ws.getD i 0

def wordBytes (w : BitVec 32) : List UInt8 := leBytes 4 w.toNat

def block (key : List UInt8) (counter : ℕ) (nonce : List UInt8) : List UInt8 :=
  let s := initial key (leBytes 4 counter ++ nonce)
  (Vector.zipWith (· + ·) (rounds s) s).toList.flatMap wordBytes

variable (key nonce : List UInt8)

def subkey : List UInt8 :=
  let s := (rounds (initial key (nonce.take 16))).toList
  (s.take 4 ++ s.drop 12).flatMap wordBytes

def keyStream (key : List UInt8) (nonce : List UInt8) : ℕ → ℕ → List UInt8
  | 0, _ => []
  | n + 1, counter => block key counter nonce ++ keyStream key nonce n (counter + 1)

def mask (message stream : List UInt8) : List UInt8 := List.zipWith (· ^^^ ·) message stream

/-- Poly1305 over sixteen-byte chunks; every chunk is followed by a one bit. -/
def accumulate (r : ℕ) : ℕ → ℕ → List UInt8 → ℕ
  | 0, acc, _ => acc
  | n + 1, acc, bytes =>
    if bytes = [] then acc
    else accumulate r n ((acc + leNat (bytes.take 16 ++ [1])) * r % (2 ^ 130 - 5)) (bytes.drop 16)

def poly1305 (key message : List UInt8) : List UInt8 :=
  let r := leNat (key.take 16) &&& 0x0ffffffc0ffffffc0ffffffc0fffffff
  leBytes 16 (accumulate r (message.length + 1) 0 message + leNat ((key.drop 16).take 16))

def pad16 (bytes : List UInt8) : List UInt8 :=
  bytes ++ List.replicate ((16 - bytes.length % 16) % 16) 0

def tag (key nonce aad ciphertext : List UInt8) : List UInt8 :=
  poly1305 ((block key 0 nonce).take 32)
    (pad16 aad ++ pad16 ciphertext ++ leBytes 8 aad.length ++ leBytes 8 ciphertext.length)

def innerNonce (nonce : List UInt8) : List UInt8 := List.replicate 4 0 ++ nonce.drop 16

def stream (length : ℕ) : List UInt8 :=
  keyStream key nonce (length / 64 + 1) 1

def maxLength : ℕ := (2 ^ 32 - 1) * 64

def encrypt (key : Vector UInt8 32) (nonce aad message : List UInt8) : Option (List UInt8) :=
  if message.length ≤ maxLength then
    let inner := subkey key.toList nonce
    let ciphertext := mask message (stream inner (innerNonce nonce) message.length)
    some (ciphertext ++ tag inner (innerNonce nonce) aad ciphertext)
  else none

def decrypt (key : Vector UInt8 32) (nonce aad bytes : List UInt8) : Option (List UInt8) :=
  let inner := subkey key.toList nonce
  let ciphertext := bytes.take (bytes.length - 16)
  if bytes.length < 16 then none
  else if tag inner (innerNonce nonce) aad ciphertext = bytes.drop (bytes.length - 16) then
    some (mask ciphertext (stream inner (innerNonce nonce) ciphertext.length))
  else none

lemma length_leBytes (n x : ℕ) : (leBytes n x).length = n := by
  induction n generalizing x with
  | zero => rfl
  | succ n ih => simp [leBytes, ih]

lemma length_tag (key nonce aad ciphertext : List UInt8) :
    (tag key nonce aad ciphertext).length = 16 := length_leBytes _ _

lemma length_block (key : List UInt8) (counter : ℕ) (nonce : List UInt8) :
    (block key counter nonce).length = 64 := by
  rw [block, List.length_flatMap, List.map_congr_left (g := fun _ => 4)
    fun w _ => length_leBytes 4 w.toNat, List.map_const', Vector.length_toList]
  rfl

lemma length_keyStream (n counter : ℕ) : (keyStream key nonce n counter).length = 64 * n := by
  induction n generalizing counter with
  | zero => rfl
  | succ n ih =>
    simp only [keyStream, List.length_append, length_block, ih]
    omega

lemma le_length_stream (n : ℕ) : n ≤ (stream key nonce n).length := by
  rw [stream, length_keyStream]
  omega

lemma length_mask {message stream : List UInt8} (h : message.length ≤ stream.length) :
    (mask message stream).length = message.length := by
  simp [mask, h]

lemma mask_mask {message stream : List UInt8} (h : message.length ≤ stream.length) :
    mask (mask message stream) stream = message := by
  induction message generalizing stream with
  | nil => rfl
  | cons b message ih =>
    cases stream with
    | nil => simp at h
    | cons k stream =>
      have hrest : mask (mask message stream) stream = message := ih (Nat.le_of_succ_le_succ h)
      simp only [mask, List.zipWith_cons_cons] at hrest ⊢
      rw [hrest, UInt8.xor_assoc, UInt8.xor_self, UInt8.xor_zero]

@[reducible] def aead : Aead where
  encrypt := encrypt
  decrypt := decrypt
  tag_le := by
    intro key nonce aad message ciphertext h
    simp only [encrypt] at h
    split_ifs at h
    cases h
    simp only [List.length_append, length_tag]
    omega
  decrypt_encrypt := by
    intro key nonce aad message ciphertext h
    simp only [encrypt] at h
    split_ifs at h
    cases h
    have hstream := le_length_stream (subkey key.toList nonce) (innerNonce nonce) message.length
    have hlen := length_mask hstream
    generalize hc : mask message (stream (subkey key.toList nonce) (innerNonce nonce) message.length) = c
    rw [hc] at hlen
    have hsize : (c ++ tag (subkey key.toList nonce) (innerNonce nonce) aad c).length - 16 = c.length := by
      rw [List.length_append, length_tag, Nat.add_sub_cancel]
    simp only [decrypt, hsize, List.take_left, List.drop_left, if_true]
    rw [if_neg (by rw [List.length_append, length_tag]; omega), hlen, ← hc, mask_mask hstream]

example : hexLower (poly1305
    [0x85, 0xd6, 0xbe, 0x78, 0x57, 0x55, 0x6d, 0x33, 0x7f, 0x44, 0x52, 0xfe, 0x42, 0xd5, 0x06, 0xa8,
     0x01, 0x03, 0x80, 0x8a, 0xfb, 0x0d, 0xb2, 0xfd, 0x4a, 0xbf, 0xf6, 0xaf, 0x41, 0x49, 0xf5, 0x1b]
    (utf8 "Cryptographic Forum Research Group")) = "a8061dc1305136c6c22b8baf0c0127a9" := by
  decide +kernel

attribute [local instance] aead

lemma exists_sealAtRest [Sha256] (key : SealKey) (slot : SealSlot) {plaintext : List UInt8}
    (h : plaintext.length ≤ maxLength) : ∃ wire, sealAtRest key slot plaintext = .ok wire := by
  obtain ⟨ciphertext, hct⟩ : ∃ ciphertext, encrypt key.bytes (deriveNonce key slot)
      (buildAad atRestVersion slot) plaintext = some ciphertext := ⟨_, if_pos h⟩
  exact ⟨_, sealAtRest_eq_ok.2 ⟨ciphertext, hct, rfl⟩⟩

end XChaCha

/-! ### Sealed records -/

section

variable [Sha256] [Aead] {key : SealKey} {slot : SealSlot} {plaintext wire : List UInt8}

omit [Sha256] [Aead] in
lemma buildAad_inj {slot' : SealSlot} {v : UInt8} (h : buildAad v slot = buildAad v slot') : slot = slot' := by
  obtain ⟨kid, scope, sequence, schema⟩ := slot
  obtain ⟨kid', scope', sequence', schema'⟩ := slot'
  simp only [buildAad, List.append_assoc, List.append_cancel_left_eq, List.cons_append, List.cons.injEq,
    true_and] at h
  obtain ⟨rfl, hsequence⟩ := delimited_bytes rfl rfl h
  obtain ⟨rfl, hschema⟩ := delimited_u64 rfl rfl hsequence
  obtain ⟨rfl, rfl⟩ := delimited_unsigned (by norm_num) rfl rfl hschema
  rfl

/-- **A sealed record opens in its own slot only.** In any other slot it opens only if the cipher accepts
additional data that it was not sealed with. -/
theorem sealed_record_opens (h : sealAtRest key slot plaintext = .ok wire) :
    wireKid wire = .ok slot.kid ∧ openAtRest key slot wire = .ok plaintext ∧
      ∀ slot' other, openAtRest key slot' wire = .ok other → slot' = slot ∧ other = plaintext ∨
        ∃ aad, aad ≠ buildAad atRestVersion slot ∧ Aead.decrypt key.bytes (deriveNonce key slot) aad
          (wire.drop atRestHeaderLen) = some other := by
  have hopen := openAtRest_sealAtRest h
  refine ⟨wireKid_sealAtRest h, hopen, fun slot' other hother => ?_⟩
  by_cases hslot : slot' = slot
  · subst hslot
    exact .inl ⟨rfl, Except.ok.inj (hother.symm.trans hopen)⟩
  · refine .inr ⟨buildAad atRestVersion slot', fun heq => hslot (buildAad_inj heq), ?_⟩
    simp only [openAtRest, ensure_ok, okOr_eq_ok] at hother hopen
    obtain ⟨-, -, -, hnonce, hother⟩ := hother
    rw [← hopen.2.2.2.1]
    exact hother

end

attribute [local instance] Sha256.sha2 XChaCha.aead

theorem sealed_sample_opens : ∃ key slot wire, sealAtRest key slot [4] = .ok wire ∧
    openAtRest key slot wire = .ok [4] := by
  let key : SealKey := ⟨.replicate 32 7⟩
  let slot : SealSlot := ⟨.replicate 16 1, [2], .lit 3, .lit 1⟩
  obtain ⟨wire, hwire⟩ : ∃ wire, sealAtRest key slot [4] = .ok wire := exists_ok_of_toBool rfl
  exact ⟨key, slot, wire, hwire, (sealed_record_opens hwire).2.1⟩

end PrivateExecution
