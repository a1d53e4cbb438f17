import PrivateExecution.Crypto.AtRest

/-!
# Blind indexes

The keyed names under which encrypted records are stored: an HMAC of a domain label and the parts
that identify the record. The audit trail (`audit/src/blind_index.rs`) and the limit-order journal
(`limit-engine/src/journal.rs`) derive them alike.
-/

namespace PrivateExecution

structure BlindIndexKey where
  bytes : Vector UInt8 32

/-- The name under which a chain is hashed into its tag, in `audit/src/blind_index.rs` and in
`limit-engine/src/journal.rs`. -/
def ChainId.tagName : ChainId → List UInt8
  | .solana => utf8 "solana"
  | .base => utf8 "base"
  | .bnbChain => utf8 "bnb_chain"
  | .ethereum => utf8 "ethereum"
  | .robinhoodAssociated => utf8 "robinhood_associated"
  | .other id => utf8 "other" ++ utf8 id

/-- An HMAC key of 32 bytes is accepted, so the derivation cannot fail. -/
def BlindIndexKey.derive [Sha256] (key : BlindIndexKey) (domain : String)
    (parts : List (List UInt8)) : List UInt8 :=
  (hmac key.bytes.toList (utf8 domain ++ parts.flatten)).toList

lemma BlindIndexKey.length_derive [Sha256] (key : BlindIndexKey) (domain : String)
    (parts : List (List UInt8)) : (key.derive domain parts).length = 32 :=
  Vector.length_toList

lemma BlindIndexKey.derive_ne_nil [Sha256] (key : BlindIndexKey) (domain : String)
    (parts : List (List UInt8)) : key.derive domain parts ≠ [] :=
  List.ne_nil_of_length_pos (lt_of_lt_of_eq (by decide) (key.length_derive domain parts).symm)

end PrivateExecution
