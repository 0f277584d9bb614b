import EntryLedger.Proofs.Transaction.Spending

/-!
# Entries of a transaction are never confused

Inputs may repeat one another and so may payments, but an identity also commits to a place:
the ordinal of an input or a retirement, and the slot of the mux that an output is paid
from.  Together with the kind of the entry this place tells where the entry lies.  Hence,
as long as no two of the strings that are hashed collide, all identities of a transaction
are distinct, and so are the messages that its inputs sign.
-/

namespace EntryLedger

/-- Every place below some number has a name, and no two of them have the same. -/
def TellsApart (name? : Nat → Option Digest) (count : Nat) : Prop :=
  ∃ names : Fin count → Digest, Function.Injective names ∧
    ∀ index : Fin count, name? index = some (names index)

section

variable {name? : Nat → Option Digest} {count : Nat}

theorem tellsApart_of_inj (named : ∀ index < count, ∃ name, name? index = some name)
    (distinct : ∀ first second, first < count → second < count →
      name? first = name? second → first = second) : TellsApart name? count := by
  choose names found using fun index : Fin count => named index index.isLt
  refine ⟨names, ?_, found⟩
  intro first second same
  apply Fin.ext
  apply distinct first second first.isLt second.isLt
  rw [found, found, same]

theorem TellsApart.exists_name (apart : TellsApart name? count) {index : Nat}
    (inside : index < count) : ∃ name, name? index = some name := by
  obtain ⟨names, -, named⟩ := apart
  exact ⟨_, named ⟨index, inside⟩⟩

theorem TellsApart.inj (apart : TellsApart name? count) {first second : Nat}
    (inside : first < count) (inside' : second < count) (same : name? first = name? second) :
    first = second := by
  obtain ⟨names, injective, named⟩ := apart
  rw [named ⟨first, inside⟩, named ⟨second, inside'⟩] at same
  exact congrArg Fin.val (injective (Option.some.inj same))

end

theorem CollisionFree.mono {strings strings' : List Bytes} (free : CollisionFree strings')
    (among : strings ⊆ strings') : CollisionFree strings := fun first member second member' =>
  free first (among member) second (among member')

namespace Entry

variable {idAt idAt' : Nat → Option EntryId} {left right : Entry}

/-- The place among inputs or payments that the identity of an entry commits to.  An output
does not commit to its ordinal, but to the slot that its value comes from. -/
def stamp? : Entry → Option UInt64
  | .issuance body => some body.ordinal
  | .spend body => some body.ordinal
  | .output body => some body.source.position
  | .mux _ => none
  | .coinbase body => some body.ordinal
  | .retirement body => some body.ordinal

theorem Agrees.stamp?_eq (agrees : left.Agrees idAt idAt' right) :
    left.stamp? = right.stamp? := by
  cases agrees with
  | issuance _ _ ordinal => simp only [stamp?, ordinal]
  | spend _ ordinal => simp only [stamp?, ordinal]
  | output source _ => simp only [stamp?, source.position]
  | retirement _ ordinal => simp only [stamp?, ordinal]
  | mux _ _ => rfl
  | coinbase _ ordinal => simp only [stamp?, ordinal]

end Entry

theorem Input.stamp?_entry (input : Input) (mux index : Nat) :
    (input.entry mux index).stamp? = some (UInt64.ofNat index) := by
  cases input with
  | _ => rfl

namespace Payment

variable (payment : Payment) (mux index : Nat)

theorem stamp?_entry : (payment.entry mux index).stamp? = some (UInt64.ofNat index) := by
  unfold entry
  split
  · rfl
  · rfl

theorem emits_kind_entry : (payment.entry mux index).kind.emits = false := by
  rw [kind_entry]
  split
  · rfl
  · rfl

end Payment

namespace Transaction

variable {transaction : Transaction}

/-- Where an entry of a transaction lies, as its kind and its stamp tell. -/
def located (transaction : Transaction) (entry : Entry) : Nat :=
  match entry.stamp? with
  | none => transaction.inputs.length
  | some stamp =>
      if entry.kind.emits then stamp.toNat else transaction.inputs.length + 1 + stamp.toNat

theorem PlaceOf.eq_located
    (few : transaction.inputs.length + transaction.outputs.length + 1 ≤ Graph.maxEntries)
    {place : Nat} {entry : Entry} (placed : transaction.PlaceOf place entry) :
    place = transaction.located entry := by
  cases placed with
  | @input index input found =>
      have inside := (List.getElem?_eq_some_iff.mp found).1
      simp only [located, Input.stamp?_entry, Input.emits_kind_entry, if_true]
      rw [Graph.toNat_ofNat_place (by omega)]
  | mux => rfl
  | @payment index payment found =>
      have inside := (List.getElem?_eq_some_iff.mp found).1
      simp only [located, Payment.stamp?_entry, Payment.emits_kind_entry, Bool.false_eq_true,
        if_false]
      rw [Graph.toNat_ofNat_place (by omega)]

theorem located_eq_of_agrees {idAt idAt' : Nat → Option EntryId} {left right : Entry}
    (agrees : left.Agrees idAt idAt' right) :
    transaction.located left = transaction.located right := by
  rw [located, located, agrees.stamp?_eq, agrees.kind_eq]

end Transaction

/-- Where no two entries have one identity, looking an identity up gives its place. -/
theorem Graph.indexOf?_of_nodup {graph : Graph} (distinct : graph.ids.Nodup) {index : Nat}
    {id : EntryId} (found : graph.idAt? index = some id) : graph.indexOf? id = some index := by
  have member : (id, index) ∈ graph.ids.zipIdx.reverse :=
    List.mem_reverse.mpr (List.mem_zipIdx_iff_getElem?.mpr found)
  rw [indexOf?]
  cases search : graph.ids.zipIdx.reverse.find? fun entry => entry.1 = id with
  | none =>
      have missed := List.find?_eq_none.mp search _ member
      simp at missed
  | some entry =>
      have same : entry.1 = id := by simpa using List.find?_some search
      have other := List.mem_zipIdx_iff_getElem?.mp
        (List.mem_reverse.mp (List.mem_of_find?_eq_some search))
      have inside := (List.getElem?_eq_some_iff.mp found).1
      have places : index = entry.2 :=
        (List.getElem?_inj inside distinct).mp (found.trans (other.trans (by rw [same])).symm)
      rw [Option.map_some, places]

namespace Sealed

variable {tx : Sealed} {strings : List Bytes}

/-- The strings whose hashes the inputs sign. -/
def signaturePreimages (tx : Sealed) : List Bytes :=
  (tx.graph.ids.take tx.transaction.inputs.length).map fun id => id.bytes ++ tx.graph.id.bytes

/-- Entries with one identity lie at one place. -/
theorem Made.place_eq_of_idAt?_eq (made : tx.Made) (free : CollisionFree strings)
    (hashed : tx.graph.preimages ⊆ strings) {first second : Nat}
    (inside : first < tx.graph.entries.length) (inside' : second < tx.graph.entries.length)
    (same : tx.graph.idAt? first = tx.graph.idAt? second) : first = second := by
  rw [Graph.entries_of_build made.built] at inside inside'
  have few := (Transaction.exists_graph_iff tx.size).mp ⟨_, made.graph_eq⟩
  have entryAt := List.getElem?_eq_getElem inside
  have entryAt' := List.getElem?_eq_getElem inside'
  have sources := Transaction.inputs_length_lt made.graph_eq
  have agrees := Graph.agrees_of_idAt?_eq free made.built made.built hashed hashed entryAt
    entryAt' (Transaction.sources_length_lt sources entryAt)
    (Transaction.sources_length_lt sources entryAt') same
  calc
    first = tx.transaction.located tx.transaction.entries[first] :=
      (Transaction.placeOf_of_getElem? entryAt).eq_located few
    _ = tx.transaction.located tx.transaction.entries[second] :=
      Transaction.located_eq_of_agrees agrees
    _ = second := ((Transaction.placeOf_of_getElem? entryAt').eq_located few).symm

theorem Made.tellsApart_idAt? (made : tx.Made) (free : CollisionFree strings)
    (hashed : tx.graph.preimages ⊆ strings) :
    TellsApart tx.graph.idAt? tx.graph.entries.length := by
  apply tellsApart_of_inj
  · intro index inside
    rw [Graph.entries_of_build made.built] at inside
    exact Graph.isSome_idAt?_of_build made.built (List.getElem?_eq_getElem inside)
  · exact fun first second => made.place_eq_of_idAt?_eq free hashed

section Apart

variable (made : tx.Made) (apart : TellsApart tx.graph.idAt? tx.graph.entries.length)
include made apart

/-- Where entries are told apart, so are outputs and retirements. -/
theorem Made.tellsApart_outputId? :
    TellsApart tx.outputId? tx.transaction.outputs.length := by
  have bound {index : Nat} (inside : index < tx.transaction.outputs.length) :
      tx.transaction.inputs.length + 1 + index < tx.graph.entries.length := by
    rw [Graph.entries_of_build made.built, Transaction.length_entries]
    omega
  have recorded {index : Nat} (inside : index < tx.transaction.outputs.length) :
      tx.outputId? index = tx.graph.idAt? (tx.transaction.inputs.length + 1 + index) := by
    rw [outputId?, Graph.results_of_build made.built, Transaction.getElem?_results inside,
      Option.bind_some]
  apply tellsApart_of_inj
  · intro index inside
    rw [recorded inside]
    exact apart.exists_name (bound inside)
  · intro first second inside inside' same
    rw [recorded inside, recorded inside'] at same
    have places := apart.inj (bound inside) (bound inside') same
    omega

/-- Where entries are told apart, so are the messages that inputs sign. -/
theorem Made.tellsApart_signatureHash? (free : CollisionFree tx.signaturePreimages) :
    TellsApart tx.signatureHash? tx.transaction.inputs.length := by
  have bound {index : Nat} (inside : index < tx.transaction.inputs.length) :
      index < tx.graph.entries.length := by
    rw [Graph.entries_of_build made.built, Transaction.length_entries]
    omega
  -- What an input signs is the hash of one of the strings.
  have signed {index : Nat} (inside : index < tx.transaction.inputs.length) :
      ∃ id, tx.graph.idAt? index = some id ∧
        tx.signatureHash? index = some (Digest.hash (id.bytes ++ tx.graph.id.bytes)) ∧
        id.bytes ++ tx.graph.id.bytes ∈ tx.signaturePreimages := by
    obtain ⟨id, found⟩ := apart.exists_name (bound inside)
    have among : (tx.graph.ids.take tx.transaction.inputs.length)[index]? = some id := by
      rw [List.getElem?_take_of_lt inside]
      exact found
    refine ⟨id, found, ?_, List.mem_map.mpr ⟨id, List.mem_of_getElem? among, rfl⟩⟩
    rw [signatureHash?, if_pos inside, Graph.signatureHash?, found, Option.map_some]
  apply tellsApart_of_inj
  · intro index inside
    obtain ⟨id, -, hashed, -⟩ := signed inside
    exact ⟨_, hashed⟩
  · intro first second inside inside' same
    obtain ⟨id, found, hashed, member⟩ := signed inside
    obtain ⟨id', found', hashed', member'⟩ := signed inside'
    rw [hashed, hashed'] at same
    obtain ⟨rfl, -⟩ :=
      Digest.bytes_append_inj (free _ member _ member' (Option.some.inj same))
    exact apart.inj (bound inside) (bound inside') (found.trans found'.symm)

end Apart

/-- If no two of the strings collide that are hashed while the graph of a transaction is
built and for the messages that its inputs sign, then all of its entries have distinct
identities, each of which is found at the place of its entry.  Its outputs, retirements
included, have distinct identities too, and its inputs sign distinct messages. -/
theorem entries_never_confused (made : tx.Made)
    (free : CollisionFree (tx.transaction.preimages tx.graph ++ tx.signaturePreimages)) :
    TellsApart tx.graph.idAt? tx.graph.entries.length ∧
      (∀ index id, tx.graph.idAt? index = some id → tx.graph.indexOf? id = some index) ∧
      TellsApart tx.outputId? tx.transaction.outputs.length ∧
      TellsApart tx.signatureHash? tx.transaction.inputs.length := by
  have hashed : tx.graph.preimages ⊆
      tx.transaction.preimages tx.graph ++ tx.signaturePreimages := fun _ member =>
    List.mem_append_left _ (List.mem_append_right _ member)
  have apart := made.tellsApart_idAt? free hashed
  have signed := free.mono (List.subset_append_right _ _)
  refine ⟨apart, ?_, made.tellsApart_outputId? apart,
    made.tellsApart_signatureHash? apart signed⟩
  have distinct : tx.graph.ids.Nodup := by
    rw [List.nodup_iff_getElem?_ne_getElem?]
    intro first second before inside same
    rw [Graph.length_ids_of_build made.built] at inside
    exact Nat.ne_of_lt before
      (made.place_eq_of_idAt?_eq free hashed (Nat.lt_trans before inside) inside same)
  exact fun index id => Graph.indexOf?_of_nodup distinct

end Sealed

/-! ### Inputs and payments that are repeated -/

namespace Distinctness

def coin : SpendInput where
  sourceId := Digest.filled 7
  sourcePosition := 0
  value := { asset := AssetId.native, amount := 4 }
  program := Transaction.muxProgram
  arguments := []

/-- A transaction that uses one output twice and makes the same payment twice. -/
def twins : Transaction where
  version := 1
  timeRange := { earliest := 0, latest := 0 }
  fee := 0
  inputs := [.spend coin, .spend coin]
  outputs := [
    { value := coin.value, program := Transaction.muxProgram },
    { value := coin.value, program := Transaction.muxProgram }]

end Distinctness

open Commitment Distinctness in
theorem Sealed.entries_never_confused_of_twins :
    ∃ tx, Sealed.ofTransaction twins = .ok tx ∧
      CollisionFree (tx.transaction.preimages tx.graph ++ tx.signaturePreimages) ∧
      tx.outputId? 0 ≠ tx.outputId? 1 ∧ tx.signatureHash? 0 ≠ tx.signatureHash? 1 := by
  have heads : (Sealed.ofTransaction twins).toOption.map (fun tx =>
      let strings := (tx.transaction.preimages tx.graph ++ tx.signaturePreimages).dedup
      decide (tx.transaction = twins ∧
        (strings.map fun string => (Digest.hash string).bytes.head?).Nodup)) = some true := by
    decide +kernel
  obtain ⟨tx, sealed, computed⟩ := Option.map_eq_some_iff.mp heads
  obtain ⟨same, distinct⟩ := of_decide_eq_true computed
  have free := (collisionFree_of_heads distinct).mono (List.subset_dedup _)
  have sealed := Checks.toOption_eq_some.mp sealed
  obtain ⟨-, -, outputs, signatures⟩ := Sealed.entries_never_confused (.composed sealed) free
  rw [same] at outputs signatures
  have differ {name? : Nat → Option Digest} (apart : TellsApart name? 2) :
      name? 0 ≠ name? 1 := fun equal => by
    cases apart.inj (by decide) (by decide) equal
  exact ⟨tx, sealed, free, differ outputs, differ signatures⟩

end EntryLedger
