import EntryLedger.Proofs.Transaction.Spelling
import EntryLedger.Proofs.Transaction.Entries

/-!
# The canonical encoding

The bytes that decode to a transaction need not be the ones that encode it.  The
encoding is one of them, though, and every other one is longer.
-/

namespace EntryLedger

namespace Wire

theorem respells_readDigest : Respells [] readDigest Digest.bytes := by
  refine (respells_take 32).bind fun front readable => ?_
  have measured := length_of_readable_take readable
  rw [Digest.ofBytes?, dif_pos measured]
  exact respells_pure rfl

theorem respells_readValue : Respells [] readValue value :=
  respells_readDigest.bind fun _ _ => respells_readInteger.bind fun _ _ => respells_pure rfl

theorem respells_readProgram : Respells [] readProgram program :=
  respells_readInteger.bind fun _ _ => respells_readBytes.bind fun _ _ => respells_pure rfl

theorem respells_readDefinition : Respells [] readDefinition definition :=
  respells_readProgram.bind fun _ _ => respells_readBytes.bind fun _ _ => respells_pure rfl

theorem respells_readOptionalDefinition :
    Respells [] readOptionalDefinition optionalDefinition := by
  refine respells_readByte.bind fun byte _ => ?_
  split
  · rename_i absent
    exact respells_pure (by rw [absent]; rfl)
  · split
    · rename_i present
      exact respells_readDefinition.bind fun _ _ => respells_pure (by rw [present]; rfl)
    · exact respells_throw _

theorem respells_readVariant : Respells [] readVariant integer := by
  refine respells_readInteger.bind fun number _ => ?_
  split
  · exact respells_throw _
  · exact respells_pure rfl

theorem respells_readSpend :
    Respells (integer 0) readSpend fun spend => input (.spend spend) :=
  respells_readDigest.bind fun _ _ => respells_readInteger.bind fun _ _ =>
    respells_readValue.bind fun _ _ => respells_readProgram.bind fun _ _ =>
      (respells_readList respells_readBytes).bind fun _ _ => respells_pure rfl

theorem respells_readIssuance :
    Respells (integer 1) readIssuance fun issuance => input (.issuance issuance) :=
  respells_readBytes.bind fun _ _ => respells_readValue.bind fun _ _ =>
    respells_readOptionalDefinition.bind fun _ _ =>
      (respells_readList respells_readBytes).bind fun _ _ => respells_pure rfl

theorem respells_readCoinbase :
    Respells (integer 2) readCoinbase fun coinbase => input (.coinbase coinbase) :=
  respells_readValue.bind fun _ _ => respells_readBytes.bind fun _ _ => respells_pure rfl

theorem respells_readInput : Respells [] readInput input := by
  refine respells_readVariant.bind fun number _ => ?_
  split
  · rename_i isSpend
    subst isSpend
    exact respells_readSpend.map fun _ => rfl
  · split
    · rename_i isIssuance
      subst isIssuance
      exact respells_readIssuance.map fun _ => rfl
    · split
      · rename_i isCoinbase
        subst isCoinbase
        exact respells_readCoinbase.map fun _ => rfl
      · exact respells_throw _

theorem respells_readPayment : Respells [] readPayment payment :=
  respells_readValue.bind fun _ _ => respells_readProgram.bind fun _ _ => respells_pure rfl

theorem respells_readTransaction : Respells [] readTransaction transaction :=
  respells_readInteger.bind fun _ _ => respells_readInteger.bind fun _ _ =>
    respells_readInteger.bind fun _ _ => respells_readInteger.bind fun _ _ =>
      (respells_readList respells_readInput).bind fun _ _ =>
        (respells_readList respells_readPayment).bind fun _ _ => respells_pure rfl

end Wire

theorem Transaction.decode_eq_ok {bytes : Bytes} {transaction : Transaction} :
    decode bytes = .ok transaction ↔
      Wire.readTransaction.run bytes = .ok (transaction, []) := by
  unfold decode
  split
  · rename_i failed
    simp [failed]
  · rename_i found ran
    simp [ran]
  · rename_i ran
    simp [ran]

namespace Sealed

variable {tx : Sealed}

/-- The encoding of a decoded transaction decodes to the same.  It is the bytes
that the transaction was decoded from if they are no longer than it, and they are
never shorter. -/
theorem encode_eq_iff_length_le {bytes : Bytes} {limit : UInt64}
    (decoded : decode bytes limit = .ok tx) :
    Transaction.decode tx.transaction.encode = .ok tx.transaction ∧
      tx.transaction.encode.length ≤ bytes.length ∧
      (tx.transaction.encode = bytes ↔ bytes.length ≤ tx.transaction.encode.length) := by
  obtain ⟨-, -, -, wire, -⟩ := decode_eq_ok.mp decoded
  have ran := Transaction.decode_eq_ok.mp wire
  obtain ⟨taken, written, split, encoded, shorter, reads⟩ :=
    Wire.respells_readTransaction _ _ _ ran
  have whole : bytes = taken := by simpa using split
  have same : tx.transaction.encode = written := encoded
  rw [whole, same]
  refine ⟨?_, ?_, ?_, ?_⟩
  · exact Transaction.decode_eq_ok.mpr (by simpa using reads [])
  · rcases shorter with rfl | shorter
    · exact Nat.le_refl _
    · exact Nat.le_of_lt shorter
  · rintro rfl
    exact Nat.le_refl _
  · intro long
    exact shorter.resolve_right (Nat.not_lt.mpr long)

end Sealed

/-! ### A version that is written too long -/

namespace Canonical

def reward : Transaction where
  version := 1
  timeRange := { earliest := 0, latest := 0 }
  fee := 0
  inputs := [.coinbase { value := { asset := AssetId.native, amount := 5 }, data := [] }]
  outputs := [
    { value := { asset := AssetId.native, amount := 5 }, program := Transaction.muxProgram }]

/-- The encoding of the reward with its version in three bytes. -/
def paddedReward : Bytes :=
  0xfb :: 0x01 :: 0x00 :: reward.encode.tail

theorem exists_decode_paddedReward :
    ∃ tx, Sealed.decode paddedReward 100 = .ok tx ∧ tx.transaction = reward := by
  have found : (Sealed.decode paddedReward 100).toOption.map Sealed.transaction =
      some reward := by
    decide +kernel
  obtain ⟨tx, decoded, same⟩ := Option.map_eq_some_iff.mp found
  exact ⟨tx, Checks.toOption_eq_some.mp decoded, same⟩

end Canonical

open Canonical in
theorem Sealed.encode_eq_iff_length_le_of_paddedReward :
    ∃ tx, Sealed.decode paddedReward 100 = .ok tx ∧
      Transaction.decode tx.transaction.encode = .ok tx.transaction ∧
      tx.transaction.encode.length ≤ paddedReward.length ∧
      ¬ paddedReward.length ≤ tx.transaction.encode.length := by
  obtain ⟨tx, decoded, same⟩ := exists_decode_paddedReward
  obtain ⟨again, shorter, reproduced⟩ := Sealed.encode_eq_iff_length_le decoded
  refine ⟨tx, decoded, again, shorter, ?_⟩
  rw [← reproduced, same]
  decide +kernel

open Canonical in
/-- The padded bytes and the encoding are different and decode alike. -/
theorem Sealed.decode_paddedReward :
    ∃ tx tx', Sealed.decode paddedReward 100 = .ok tx ∧
      Sealed.decode reward.encode 100 = .ok tx' ∧
      tx.transaction = tx'.transaction ∧ tx.transaction.encode ≠ paddedReward := by
  obtain ⟨tx, decoded, same⟩ := exists_decode_paddedReward
  have found : (Sealed.decode reward.encode 100).toOption.map Sealed.transaction =
      some reward := by
    decide +kernel
  obtain ⟨tx', decoded', same'⟩ := Option.map_eq_some_iff.mp found
  refine ⟨tx, tx', decoded, Checks.toOption_eq_some.mp decoded', same.trans same'.symm, ?_⟩
  rw [same]
  decide +kernel

end EntryLedger
