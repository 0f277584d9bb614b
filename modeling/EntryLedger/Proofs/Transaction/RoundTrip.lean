import EntryLedger.Judgement
import EntryLedger.Proofs.Transaction.Canonical
import EntryLedger.Proofs.Transaction.Composition

/-!
# Round trips on the wire

Whatever is encoded is read back as it was, whatever follows it, as long as the
encoding is no longer than a word can tell.  A transaction that is encoded and decoded
again has the same graph as one that is sealed directly, so that both are judged alike.
-/

namespace EntryLedger

namespace Wire

variable {Item Part : Type} {spelled written : Bytes} {item : Item}

/-- A reader that goes on where some bytes are already spelled reads an item back from
the rest of what the encoder writes, unless that is too long to be measured. -/
def Reads (spelled : Bytes) (read : Reader Item) (encoded : Bytes) (item : Item) : Prop :=
  encoded.length < 2 ^ 64 → ∃ written, encoded = spelled ++ written ∧
    ∀ rest, read.run (written ++ rest) = .ok (item, rest)

theorem Reads.of_run {read : Reader Item}
    (ran : ∀ rest, read.run (written ++ rest) = .ok (item, rest)) : Reads [] read written item :=
  fun _ => ⟨written, rfl, ran⟩

theorem reads_pure : Reads spelled (pure item) spelled item :=
  fun _ => ⟨[], (List.append_nil spelled).symm, fun _ => rfl⟩

/-- Parts that are read back one after the other are read back together. -/
theorem Reads.bind {first : Reader Part} {next : Part → Reader Item} {front : Bytes}
    {part : Part} (begun : Reads [] first front part)
    (ends : Reads (spelled ++ front) (next part) written item) :
    Reads spelled (first >>= next) written item := by
  intro short
  obtain ⟨back, rfl, readsBack⟩ := ends short
  have shorter : front.length < 2 ^ 64 := by
    simp only [List.length_append] at short
    omega
  obtain ⟨_, rfl, readsFront⟩ := begun shorter
  refine ⟨front ++ back, List.append_assoc spelled front back, fun rest => ?_⟩
  rw [StateT.run_bind, List.append_assoc]
  exact (Checks.bind_eq_ok).mpr ⟨(part, back ++ rest), readsFront _, readsBack rest⟩

/-- What is read back is put into another form. -/
theorem Reads.map {read : Reader Part} {part : Part} (form : Part → Item)
    (reads : Reads spelled read written part) :
    Reads spelled (read >>= fun part => pure (form part)) written (form part) := by
  intro short
  obtain ⟨back, same, readsBack⟩ := reads short
  refine ⟨back, same, fun rest => ?_⟩
  rw [StateT.run_bind, readsBack]
  rfl

/-! ### Bytes and integers -/

theorem reads_readByte (byte : UInt8) : Reads [] readByte [byte] byte :=
  .of_run fun _ => rfl

theorem reads_readInteger (number : UInt64) : Reads [] readInteger (integer number) number :=
  .of_run (run_readInteger_integer number)

theorem reads_take (content : Bytes) : Reads spelled (take content.length)
    (spelled ++ content) content :=
  fun _ => ⟨content, rfl, fun _ => run_take_eq_ok.mpr ⟨rfl, rfl⟩⟩

theorem length_integer_pos (number : UInt64) : 0 < (integer number).length := by
  simp only [integer]
  split
  · exact Nat.one_pos
  · split
    · exact Nat.succ_pos _
    · split
      · exact Nat.succ_pos _
      · exact Nat.succ_pos _

/-- What is preceded by a length is read back if there is not less of it. -/
theorem reads_counted {next : Nat → Reader Item} {length : Nat} {content : Bytes}
    (shorter : length ≤ content.length)
    (reads : Reads (count length) (next length) (count length ++ content) item) :
    Reads [] (readInteger >>= fun number => next number.toNat) (count length ++ content)
      item := by
  intro short
  have measured : (UInt64.ofNat length).toNat = length := by
    apply UInt64.toNat_ofNat_of_lt'
    rw [List.length_append] at short
    exact Nat.lt_of_le_of_lt (Nat.le_trans shorter (Nat.le_add_left _ _)) short
  refine (reads_readInteger (UInt64.ofNat length)).bind ?_ short
  rw [measured]
  exact reads

/-- A byte string is read back after its length. -/
theorem reads_readBytes (content : Bytes) : Reads [] readBytes (bytes content) content :=
  reads_counted (Nat.le_refl _) (reads_take content)

/-! ### Lists -/

variable {read : Reader Part} {encode : Part → Bytes}
  (reads : ∀ part, Reads [] read (encode part) part)
include reads

/-- Items are read back one after the other. -/
theorem reads_readItems (items : List Part) :
    Reads spelled (readItems read items.length) (spelled ++ items.flatMap encode) items := by
  induction items generalizing spelled with
  | nil =>
      rw [List.flatMap_nil, List.append_nil]
      exact reads_pure
  | cons item items ih =>
      refine (reads item).bind ?_
      rw [List.flatMap_cons, ← List.append_assoc]
      exact Reads.map (item :: ·) ih

/-- A list is read back after its length, if no item is encoded by nothing. -/
theorem reads_readList (positive : ∀ part, 0 < (encode part).length) (items : List Part) :
    Reads [] (readList read) (list encode items) items := by
  have fewer : items.length ≤ (items.flatMap encode).length := by
    induction items with
    | nil => exact Nat.le_refl _
    | cons item items ih =>
        have here := positive item
        simp only [List.flatMap_cons, List.length_append, List.length_cons]
        omega
  exact reads_counted fewer (reads_readItems reads items)

omit reads

/-! ### Parts of transactions -/

theorem reads_readDigest (digest : Digest) : Reads [] readDigest digest.bytes digest := by
  have taken : Reads [] (take 32) digest.bytes digest.bytes := by
    have whole : Reads [] (take digest.bytes.length) digest.bytes digest.bytes := reads_take _
    rwa [digest.length_bytes] at whole
  refine taken.bind ?_
  rw [Digest.ofBytes?_bytes]
  exact reads_pure

theorem reads_readValue (content : Value) : Reads [] readValue (value content) content :=
  (reads_readDigest _).bind <| (reads_readInteger _).bind reads_pure

theorem reads_readProgram (content : Program) :
    Reads [] readProgram (program content) content :=
  (reads_readInteger _).bind <| (reads_readBytes _).bind reads_pure

theorem reads_readDefinition (content : Definition) :
    Reads [] readDefinition (definition content) content :=
  (reads_readProgram _).bind <| (reads_readBytes _).bind reads_pure

theorem reads_readOptionalDefinition (content : Option Definition) :
    Reads [] readOptionalDefinition (optionalDefinition content) content := by
  cases content with
  | none => exact (reads_readByte 0).bind reads_pure
  | some content =>
      refine (reads_readByte 1).bind ?_
      exact (reads_readDefinition content).bind reads_pure

theorem reads_arguments (arguments : List Bytes) :
    Reads [] (readList readBytes) (list bytes arguments) arguments := by
  refine reads_readList reads_readBytes (fun content => ?_) arguments
  rw [bytes, count, List.length_append]
  exact Nat.lt_of_lt_of_le (length_integer_pos _) (Nat.le_add_right _ _)

theorem reads_readSpend (spend : SpendInput) :
    Reads (integer 0) readSpend (input (.spend spend)) spend :=
  (reads_readDigest _).bind <| (reads_readInteger _).bind <| (reads_readValue _).bind <|
    (reads_readProgram _).bind <| (reads_arguments _).bind reads_pure

theorem reads_readIssuance (issuance : IssuanceInput) :
    Reads (integer 1) readIssuance (input (.issuance issuance)) issuance :=
  (reads_readBytes _).bind <| (reads_readValue _).bind <|
    (reads_readOptionalDefinition _).bind <| (reads_arguments _).bind reads_pure

theorem reads_readCoinbase (coinbase : CoinbaseInput) :
    Reads (integer 2) readCoinbase (input (.coinbase coinbase)) coinbase :=
  (reads_readValue _).bind <| (reads_readBytes _).bind reads_pure

theorem reads_readVariant {number : UInt64} (narrow : number.toNat < 0x100000000) :
    Reads [] readVariant (integer number) number := by
  refine (reads_readInteger number).bind ?_
  rw [if_neg (Nat.not_le_of_lt narrow)]
  exact reads_pure

theorem reads_readInput (content : Input) : Reads [] readInput (input content) content := by
  cases content with
  | spend spend =>
      have variant : Reads [] readVariant (integer 0) 0 := reads_readVariant (by decide)
      exact variant.bind ((reads_readSpend spend).map Input.spend)
  | issuance issuance =>
      have variant : Reads [] readVariant (integer 1) 1 := reads_readVariant (by decide)
      exact variant.bind ((reads_readIssuance issuance).map Input.issuance)
  | coinbase coinbase =>
      have variant : Reads [] readVariant (integer 2) 2 := reads_readVariant (by decide)
      exact variant.bind ((reads_readCoinbase coinbase).map Input.coinbase)

theorem reads_readPayment (content : Payment) :
    Reads [] readPayment (payment content) content :=
  (reads_readValue _).bind <| (reads_readProgram _).bind reads_pure

theorem length_input_pos (content : Input) : 0 < (input content).length := by
  cases content with
  | spend | issuance | coinbase =>
      simp only [input, value, List.length_append, Digest.length_bytes]
      omega

theorem length_payment_pos (content : Payment) : 0 < (payment content).length := by
  simp only [payment, value, List.length_append, Digest.length_bytes]
  omega

theorem reads_readTransaction (content : Transaction) :
    Reads [] readTransaction (transaction content) content :=
  (reads_readInteger _).bind <| (reads_readInteger _).bind <| (reads_readInteger _).bind <|
    (reads_readInteger _).bind <|
      (reads_readList reads_readInput length_input_pos _).bind <|
        (reads_readList reads_readPayment length_payment_pos _).bind reads_pure

end Wire

namespace Transaction

variable (transaction : Transaction)

theorem length_encode_pos : 0 < transaction.encode.length := by
  have version := Wire.length_integer_pos transaction.version
  simp only [encode, Wire.transaction, List.length_append]
  omega

/-- What a transaction is encoded to decodes to that transaction. -/
theorem decode_encode (short : transaction.encode.length < 2 ^ 64) :
    decode transaction.encode = .ok transaction := by
  obtain ⟨written, same, reads⟩ := Wire.reads_readTransaction transaction short
  have whole : transaction.encode = written := same
  rw [decode_eq_ok, whole, ← List.append_nil written]
  exact reads []

end Transaction

namespace Sealed

/-- A transaction of few enough inputs and outputs whose encoding keeps to the limit is
sealed, and its encoding decodes to the same: the same data, size and graph.  So the
encoding is judged as the transaction is. -/
theorem decode_encode_eq (transaction : Transaction) (limit : UInt64)
    (few : transaction.inputs.length + transaction.outputs.length ≤ 2 ^ 32 - 2)
    (small : transaction.encode.length ≤ limit.toNat) :
    ∃ tx, ofTransaction transaction = .ok tx ∧ decode transaction.encode limit = .ok tx ∧
      tx.transaction = transaction ∧ tx.size.toNat = transaction.encode.length ∧
      tx.graph.header = transaction.header tx.size ∧
      ∀ view setting, transaction.encode.length ≤ setting.params.maxTransactionSize.toNat →
        judgeBytes transaction.encode view setting = tx.judge view setting := by
  have short : transaction.encode.length < 2 ^ 64 := Nat.lt_of_le_of_lt small limit.toNat_lt
  have measured : (UInt64.ofNat transaction.encode.length).toNat =
      transaction.encode.length :=
    UInt64.toNat_ofNat_of_lt' short
  have positive : UInt64.ofNat transaction.encode.length ≠ 0 := by
    intro zero
    have none := congrArg UInt64.toNat zero
    rw [measured] at none
    exact Nat.ne_of_gt transaction.length_encode_pos none
  have room : transaction.inputs.length + transaction.outputs.length + 1 ≤
      Graph.maxEntries := by
    rw [Graph.maxEntries]
    omega
  obtain ⟨graph, built⟩ : ∃ graph,
      transaction.graph (UInt64.ofNat transaction.encode.length) = .ok graph :=
    (Transaction.exists_graph_iff _).mpr room
  have decodes (limit : UInt64) (small : transaction.encode.length ≤ limit.toNat) :
      decode transaction.encode limit =
        .ok ⟨transaction, UInt64.ofNat transaction.encode.length, graph⟩ := by
    rw [decode_eq_ok]
    refine ⟨rfl, positive, ?_, transaction.decode_encode short, built⟩
    rw [UInt64.le_iff_toNat_le, measured]
    exact small
  refine ⟨_, ?_, decodes limit small, rfl, measured, ?_, fun view setting within => ?_⟩
  · simp only [ofTransaction, built, Checks.ok_bind, Checks.pure_eq_ok]
  · exact Graph.header_of_build (Transaction.graph_eq_ok built)
  · rw [judgeBytes, decodes _ within]

end Sealed

/-! ### Numbers on both sides of each width -/

namespace RoundTrip

/-- A transaction with an input of each kind, whose numbers are the least and the
greatest ones that are written in some width. -/
def edges : Transaction where
  version := 250
  timeRange := { earliest := 251, latest := 65535 }
  fee := 65536
  inputs := [
    .spend {
      sourceId := Digest.filled 1
      sourcePosition := 4294967295
      value := { asset := AssetId.native, amount := 4294967296 }
      program := Transaction.muxProgram
      arguments := [[], List.replicate 251 7] },
    .issuance {
      nonce := [1]
      value := { asset := Digest.filled 2, amount := 18446744073709551615 }
      definition := some { program := Transaction.muxProgram, data := [5] }
      arguments := [] },
    .coinbase { value := { asset := AssetId.native, amount := 0 }, data := [] }]
  outputs := [
    { value := { asset := AssetId.native, amount := 1 }, program := Transaction.muxProgram }]

end RoundTrip

open RoundTrip in
theorem Sealed.decode_encode_eq_of_edges :
    edges.inputs.length + edges.outputs.length ≤ 2 ^ 32 - 2 ∧
      edges.encode.length ≤ (1000 : UInt64).toNat ∧
      ∃ tx, Sealed.decode edges.encode 1000 = .ok tx ∧ tx.transaction = edges := by
  have few : edges.inputs.length + edges.outputs.length ≤ 2 ^ 32 - 2 := by decide
  have small : edges.encode.length ≤ (1000 : UInt64).toNat := by decide +kernel
  obtain ⟨tx, -, decoded, same, -⟩ := Sealed.decode_encode_eq edges 1000 few small
  exact ⟨few, small, tx, decoded, same⟩

end EntryLedger
