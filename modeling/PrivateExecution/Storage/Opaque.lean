import PrivateExecution.Domain.Primitives

/-!
# Opaque persistence

The event records that cross the storage boundary (`storage/src/lib.rs`).
-/

namespace PrivateExecution

inductive StorageValidationError where
  | emptyId | emptyOwnerIndex | emptyClassIndex | emptyStreamIndex | zeroSequence
  | sequenceOutOfRange | zeroVersion | versionOutOfRange | zeroSchemaVersion | emptyCiphertext

inductive StorageError where
  | unavailable | conflict | notFound | invalid (reason : StorageValidationError) | backend

structure CreatedBucket where
  get : I64
  /-- What `new` checks. -/
  nonneg : 0 ≤ get.val

structure OpaqueEventRecord where
  streamBlindIndex : List UInt8
  sequence : U64
  schemaVersion : Unsigned 16
  ciphertext : List UInt8
  createdBucket : CreatedBucket

def OpaqueEventRecord.validate (r : OpaqueEventRecord) : Except StorageValidationError Unit := do
  ensure (r.streamBlindIndex ≠ []) .emptyStreamIndex
  ensure (r.sequence.val ≠ 0) .zeroSequence
  ensure (r.schemaVersion.val ≠ 0) .zeroSchemaVersion
  ensure (r.ciphertext ≠ []) .emptyCiphertext

end PrivateExecution
