import EntryLedger.Proofs.Graph.Commitment
import EntryLedger.Proofs.Transaction.Composition

/-!
# What the identity of a transaction commits to

The identity hashes the identities of the results, these hash the mux, and the
mux hashes the inputs and their values.  So everything in a transaction is
committed to, with three exceptions: the arguments of its inputs, the definitions
of the assets that it issues, and the programs of its retirements.
-/

namespace EntryLedger

/-- Inputs that differ at most in their arguments and in the definition of an
issued asset. -/
inductive Input.Alike : Input → Input → Prop
  | spend {left right : SpendInput} (sourceId : left.sourceId = right.sourceId)
      (sourcePosition : left.sourcePosition = right.sourcePosition)
      (value : left.value = right.value) (program : left.program = right.program) :
      Input.Alike (.spend left) (.spend right)
  | issuance {left right : IssuanceInput} (nonce : left.nonce = right.nonce)
      (value : left.value = right.value) : Input.Alike (.issuance left) (.issuance right)
  | coinbase {left right : CoinbaseInput} (value : left.value = right.value)
      (data : left.data = right.data) : Input.Alike (.coinbase left) (.coinbase right)

/-- Payments that differ at most in the program of a retirement. -/
structure Payment.Alike (left right : Payment) : Prop where
  value : left.value = right.value
  program : left.program = right.program ∨
    left.program.isRetirement = true ∧ right.program.isRetirement = true

/-- Transactions that differ at most in what identities leave out. -/
structure Transaction.Alike (left right : Transaction) : Prop where
  version : left.version = right.version
  timeRange : left.timeRange = right.timeRange
  fee : left.fee = right.fee
  inputs : List.Forall₂ Input.Alike left.inputs right.inputs
  outputs : List.Forall₂ Payment.Alike left.outputs right.outputs

/-- The strings that are hashed for the entry of an input. -/
def Input.preimages : Input → List Bytes
  | .spend body =>
      Entry.preimagesOfLayout .output
        (Entry.outputLayout body.sourceId body.value body.sourcePosition body.program)
  | .issuance body => [body.nonce]
  | .coinbase _ => []

/-- The strings that are hashed while the graph of a transaction is built. -/
def Transaction.preimages (transaction : Transaction) (graph : Graph) : List Bytes :=
  transaction.inputs.flatMap Input.preimages ++ graph.preimages

/-! ### Lists place by place -/

section Lists

variable {Left Right : Type} {relation : Left → Right → Prop}

theorem forall₂_iff_getElem? {lefts : List Left} {rights : List Right} :
    List.Forall₂ relation lefts rights ↔
      lefts.length = rights.length ∧ ∀ (index : Nat) (left : Left) (right : Right),
        lefts[index]? = some left → rights[index]? = some right → relation left right := by
  rw [List.forall₂_iff_get]
  refine and_congr_right fun lengths => ⟨?_, ?_⟩
  · intro each index left right found found'
    obtain ⟨inside, rfl⟩ := List.getElem?_eq_some_iff.mp found
    obtain ⟨inside', rfl⟩ := List.getElem?_eq_some_iff.mp found'
    exact each index inside inside'
  · intro each index inside inside'
    exact each index _ _ (List.getElem?_eq_getElem inside) (List.getElem?_eq_getElem inside')

theorem forall₂_mapIdx_iff {Left' Right' : Type} {relation' : Left' → Right' → Prop}
    {lefts : List Left} {rights : List Right} {make : Nat → Left → Left'}
    {make' : Nat → Right → Right'} :
    List.Forall₂ relation' (lefts.mapIdx make) (rights.mapIdx make') ↔
      lefts.length = rights.length ∧ ∀ (index : Nat) (left : Left) (right : Right),
        lefts[index]? = some left → rights[index]? = some right →
          relation' (make index left) (make' index right) := by
  rw [forall₂_iff_getElem?, List.length_mapIdx, List.length_mapIdx]
  refine and_congr_right fun _ => ⟨?_, ?_⟩
  · intro each index left right found found'
    apply each index
    · rw [List.getElem?_mapIdx, found, Option.map_some]
    · rw [List.getElem?_mapIdx, found', Option.map_some]
  · intro each index left right made made'
    rw [List.getElem?_mapIdx, Option.map_eq_some_iff] at made made'
    obtain ⟨_, found, rfl⟩ := made
    obtain ⟨_, found', rfl⟩ := made'
    exact each index _ _ found found'

theorem flatMap_eq_of_forall₂ {Item : Type} {lefts : List Left} {rights : List Right}
    {items : Left → List Item} {items' : Right → List Item}
    (related : List.Forall₂ relation lefts rights)
    (same : ∀ left right, relation left right → items left = items' right) :
    lefts.flatMap items = rights.flatMap items' := by
  induction related with
  | nil => rfl
  | cons first _ ih => rw [List.flatMap_cons, List.flatMap_cons, same _ _ first, ih]

theorem forall₂_of_filterMap_eq {Image : Type} {read : Left → Option Image}
    {read' : Right → Option Image} {lefts : List Left} {rights : List Right}
    (known : ∀ left ∈ lefts, ∃ image, read left = some image)
    (known' : ∀ right ∈ rights, ∃ image, read' right = some image)
    (equal : lefts.filterMap read = rights.filterMap read') :
    List.Forall₂ (fun left right => read left = read' right) lefts rights := by
  induction lefts generalizing rights with
  | nil =>
      cases rights with
      | nil => exact .nil
      | cons right rights =>
          obtain ⟨image, found⟩ := known' right (List.mem_cons_self ..)
          rw [List.filterMap_cons_some found] at equal
          cases equal
  | cons left lefts ih =>
      obtain ⟨image, found⟩ := known left (List.mem_cons_self ..)
      rw [List.filterMap_cons_some found] at equal
      cases rights with
      | nil => cases equal
      | cons right rights =>
          obtain ⟨image', found'⟩ := known' right (List.mem_cons_self ..)
          rw [List.filterMap_cons_some found'] at equal
          obtain ⟨same, rest⟩ := List.cons.inj equal
          refine .cons (by rw [found, found', same]) (ih ?_ ?_ rest)
          · exact fun other member => known other (List.mem_cons_of_mem _ member)
          · exact fun other member => known' other (List.mem_cons_of_mem _ member)

end Lists

/-! ### Alike transactions have the same identities -/

section Alike

variable {idAt idAt' : Nat → Option EntryId} {mux mux' index : Nat}

theorem Input.Alike.value_eq {left right : Input} (alike : left.Alike right) :
    left.value = right.value := by
  cases alike with
  | spend _ _ value _ => exact value
  | issuance _ value => exact value
  | coinbase value _ => exact value

theorem Input.Alike.preimages_eq {left right : Input} (alike : left.Alike right) :
    left.preimages = right.preimages := by
  cases alike with
  | spend sourceId sourcePosition value program =>
      simp only [preimages, sourceId, sourcePosition, value, program]
  | issuance nonce value => simp only [preimages, nonce]
  | coinbase value data => rfl

theorem Input.Alike.agrees {left right : Input} (alike : left.Alike right) :
    (left.entry mux index).Agrees idAt idAt' (right.entry mux' index) := by
  cases alike with
  | spend sourceId sourcePosition value program =>
      refine .spend ?_ rfl
      simp only [SpendInput.spentOutput, sourceId, sourcePosition, value, program]
  | issuance nonce value => exact .issuance (congrArg Digest.hash nonce) value rfl
  | coinbase value data => exact .coinbase data rfl

theorem Payment.Alike.agrees {left right : Payment} (alike : left.Alike right)
    (same : idAt mux = idAt' mux') :
    (left.entry mux index).Agrees idAt idAt' (right.entry mux' index) := by
  have source : Link.Agrees idAt idAt'
      { entry := mux, value := left.value, position := UInt64.ofNat index }
      { entry := mux', value := right.value, position := UInt64.ofNat index } :=
    ⟨same, alike.value, rfl⟩
  unfold entry
  rcases alike.program with programs | ⟨retires, retires'⟩
  · by_cases retires : left.program.isRetirement = true
    · rw [if_pos retires, if_pos (programs ▸ retires)]
      exact .retirement source rfl
    · rw [if_neg retires, if_neg (programs ▸ retires)]
      exact .output source programs
  · rw [if_pos retires, if_pos retires']
    exact .retirement source rfl

theorem Transaction.Alike.agrees_entries {left right : Transaction}
    (alike : left.Alike right) :
    List.Forall₂ (fun entry entry' => ∀ idAt, Entry.Agrees idAt idAt entry entry')
      left.entries right.entries := by
  obtain ⟨inputs, eachInput⟩ := forall₂_iff_getElem?.mp alike.inputs
  obtain ⟨outputs, eachOutput⟩ := forall₂_iff_getElem?.mp alike.outputs
  refine List.rel_append ?_ (.cons (fun idAt => .mux ?_ rfl) ?_)
  · refine forall₂_mapIdx_iff.mpr ⟨inputs, fun index input input' found found' idAt => ?_⟩
    exact (eachInput index input input' found found').agrees
  · refine forall₂_mapIdx_iff.mpr ⟨inputs, fun index input input' found found' => ?_⟩
    exact ⟨rfl, (eachInput index input input' found found').value_eq, rfl⟩
  · refine forall₂_mapIdx_iff.mpr ⟨outputs, fun index payment payment' found found' idAt => ?_⟩
    exact (eachOutput index payment payment' found found').agrees (by rw [inputs])

end Alike

/-! ### Transactions with the same identity are alike -/

section Same

variable {idAt idAt' : Nat → Option EntryId} {mux mux' index : Nat} {strings : List Bytes}

theorem Payment.alike_of_agrees {left right : Payment}
    (agrees : (left.entry mux index).Agrees idAt idAt' (right.entry mux' index)) :
    left.Alike right ∧ idAt mux = idAt' mux' := by
  unfold entry at agrees
  by_cases retires : left.program.isRetirement = true
  · by_cases retires' : right.program.isRetirement = true
    · rw [if_pos retires, if_pos retires'] at agrees
      cases agrees with
      | retirement source ordinal =>
          exact ⟨⟨source.value, .inr ⟨retires, retires'⟩⟩, source.entry⟩
    · rw [if_pos retires, if_neg retires'] at agrees
      cases agrees
  · by_cases retires' : right.program.isRetirement = true
    · rw [if_neg retires, if_pos retires'] at agrees
      cases agrees
    · rw [if_neg retires, if_neg retires'] at agrees
      cases agrees with
      | output source program => exact ⟨⟨source.value, .inl program⟩, source.entry⟩

theorem Input.alike_of_agrees (free : CollisionFree strings) {left right : Input}
    (hashed : left.preimages ⊆ strings) (hashed' : right.preimages ⊆ strings)
    (values : left.value = right.value)
    (agrees : (left.entry mux index).Agrees idAt idAt' (right.entry mux' index)) :
    left.Alike right := by
  cases left with
  | spend left =>
      cases right with
      | spend right =>
          cases agrees with
          | spend spentOutput ordinal =>
              obtain ⟨-, layouts⟩ := Entry.idOfLayout_inj free hashed hashed' spentOutput
              obtain ⟨ids, values, positions, programs⟩ := Entry.outputLayout_inj layouts
              exact .spend ids positions values programs
      | issuance right => cases agrees
      | coinbase right => cases agrees
  | issuance left =>
      cases right with
      | issuance right =>
          cases agrees with
          | issuance nonce value ordinal =>
              have nonces := free _ (hashed (List.mem_singleton_self _)) _
                (hashed' (List.mem_singleton_self _)) nonce
              exact .issuance nonces value
      | spend right => cases agrees
      | coinbase right => cases agrees
  | coinbase left =>
      cases right with
      | coinbase right =>
          cases agrees with
          | coinbase data ordinal => exact .coinbase values data
      | spend right => cases agrees
      | issuance right => cases agrees

end Same

namespace Transaction

variable {left right : Transaction} {size size' : UInt64} {graph graph' : Graph}

theorem sources_length_lt {place : Nat} {entry : Entry} (few : left.inputs.length < 2 ^ 64)
    (entryAt : left.entries[place]? = some entry) : entry.sources.length < 2 ^ 64 := by
  cases placeOf_of_getElem? entryAt with
  | input found =>
      rw [Input.sources_entry]
      decide
  | mux => simpa only [Entry.sources, mux, List.length_mapIdx] using few
  | payment found =>
      rw [Payment.sources_entry]
      exact Nat.one_lt_two_pow (by decide)

theorem inputs_length_lt (made : left.graph size = .ok graph) :
    left.inputs.length < 2 ^ 64 := by
  have few := (exists_graph_iff size).mp ⟨graph, made⟩
  rw [Graph.maxEntries] at few
  omega

theorem exists_idAt?_of_result (made : left.graph size = .ok graph) {result : Nat}
    (member : result ∈ left.results) : ∃ id, graph.idAt? result = some id := by
  obtain ⟨index, inside, rfl⟩ := List.mem_map.mp member
  have found := List.getElem?_eq_getElem (List.mem_range.mp inside)
  exact Graph.isSome_idAt?_of_build (graph_eq_ok made) (getElem?_entries_payment found)

theorem getElem?_results {index : Nat} (inside : index < left.outputs.length) :
    left.results[index]? = some (left.inputs.length + 1 + index) := by
  rw [results, List.getElem?_map, List.getElem?_range inside, Option.map_some]

/-- Transactions with one identity are alike: what the identity hashes is followed
from the results over the mux back to the inputs. -/
theorem alike_of_id_eq (made : left.graph size = .ok graph)
    (made' : right.graph size' = .ok graph') (paying : left.outputs ≠ [])
    (free : CollisionFree (left.preimages graph ++ right.preimages graph'))
    (same : graph.id = graph'.id) : left.Alike right := by
  have built := graph_eq_ok made
  have built' := graph_eq_ok made'
  have hashedInputs : left.inputs.flatMap Input.preimages ⊆
      left.preimages graph ++ right.preimages graph' := fun _ member =>
    List.mem_append_left _ (List.mem_append_left _ member)
  have hashedInputs' : right.inputs.flatMap Input.preimages ⊆
      left.preimages graph ++ right.preimages graph' := fun _ member =>
    List.mem_append_right _ (List.mem_append_left _ member)
  have hashed : graph.preimages ⊆ left.preimages graph ++ right.preimages graph' :=
    fun _ member => List.mem_append_left _ (List.mem_append_right _ member)
  have hashed' : graph'.preimages ⊆ left.preimages graph ++ right.preimages graph' :=
    fun _ member => List.mem_append_right _ (List.mem_append_right _ member)
  have agrees {place place' : Nat} {entry entry' : Entry}
      (entryAt : left.entries[place]? = some entry)
      (entryAt' : right.entries[place']? = some entry')
      (identities : graph.idAt? place = graph'.idAt? place') :
      entry.Agrees graph.idAt? graph'.idAt? entry' :=
    Graph.agrees_of_idAt?_eq free built built' hashed hashed' entryAt entryAt'
      (sources_length_lt (inputs_length_lt made) entryAt)
      (sources_length_lt (inputs_length_lt made') entryAt') identities
  obtain ⟨headers, resultIds⟩ := Graph.header_of_id_eq free built built' hashed hashed' same
  -- The results.
  have results := forall₂_of_filterMap_eq (fun _ => exists_idAt?_of_result made)
    (fun _ => exists_idAt?_of_result made') resultIds
  obtain ⟨counts, eachResult⟩ := forall₂_iff_getElem?.mp results
  have outputs : left.outputs.length = right.outputs.length := by
    simpa only [Transaction.results, List.length_map, List.length_range] using counts
  have payments (index : Nat) (payment payment' : Payment)
      (found : left.outputs[index]? = some payment)
      (found' : right.outputs[index]? = some payment') :
      payment.Alike payment' ∧
        graph.idAt? left.inputs.length = graph'.idAt? right.inputs.length := by
    have inside := (List.getElem?_eq_some_iff.mp found).1
    have inside' := (List.getElem?_eq_some_iff.mp found').1
    have identities := eachResult index _ _ (getElem?_results inside) (getElem?_results inside')
    exact Payment.alike_of_agrees (agrees (getElem?_entries_payment found)
      (getElem?_entries_payment found') identities)
  -- The mux, which at least one result refers to.
  have muxes : graph.idAt? left.inputs.length = graph'.idAt? right.inputs.length := by
    have first := List.length_pos_iff.mpr paying
    exact (payments 0 _ _ (List.getElem?_eq_getElem first)
      (List.getElem?_eq_getElem (outputs ▸ first))).2
  cases agrees (getElem?_entries_mux left) (getElem?_entries_mux right) muxes with
  | mux sources program =>
      -- The inputs, whose identities and values the mux hashes.
      obtain ⟨inputs, eachSource⟩ := forall₂_mapIdx_iff.mp sources
      refine {
        version := headers.version
        timeRange := headers.timeRange
        fee := headers.fee
        inputs := forall₂_iff_getElem?.mpr ⟨inputs, fun index input input' found found' => ?_⟩
        outputs := forall₂_iff_getElem?.mpr ⟨outputs, fun index payment payment' found found' =>
          (payments index payment payment' found found').1⟩ }
      have source := eachSource index input input' found found'
      have inside : input.preimages ⊆ left.inputs.flatMap Input.preimages := fun string laid =>
        List.mem_flatMap.mpr ⟨input, List.mem_of_getElem? found, laid⟩
      have inside' : input'.preimages ⊆ right.inputs.flatMap Input.preimages :=
        fun string laid => List.mem_flatMap.mpr ⟨input', List.mem_of_getElem? found', laid⟩
      exact Input.alike_of_agrees free (List.Subset.trans inside hashedInputs)
        (List.Subset.trans inside' hashedInputs') source.value
        (agrees (getElem?_entries found) (getElem?_entries found') source.entry)

/-- Alike transactions have the same identities, whatever their sizes are. -/
theorem identities_eq_of_alike (made : left.graph size = .ok graph)
    (made' : right.graph size' = .ok graph') (alike : left.Alike right) :
    graph.ids = graph'.ids ∧ graph.id = graph'.id := by
  have built' := graph_eq_ok made'
  have sameResults : right.results = left.results := by
    rw [results, results, alike.inputs.length_eq, alike.outputs.length_eq]
  rw [sameResults] at built'
  have headers : (left.header size).Agrees (right.header size') :=
    ⟨alike.version, alike.timeRange, alike.fee⟩
  exact Graph.identities_eq_of_agrees (graph_eq_ok made) built' headers alike.agrees_entries

/-- For alike transactions the same strings are hashed. -/
theorem preimages_eq_of_alike (made : left.graph size = .ok graph)
    (made' : right.graph size' = .ok graph') (alike : left.Alike right) :
    left.preimages graph = right.preimages graph' := by
  have built := graph_eq_ok made
  have built' := graph_eq_ok made'
  have lookups : graph.idAt? = graph'.idAt? := by
    unfold Graph.idAt?
    rw [(identities_eq_of_alike made made' alike).1]
  have results : left.results = right.results := by
    rw [Transaction.results, Transaction.results, alike.inputs.length_eq,
      alike.outputs.length_eq]
  have inputs : left.inputs.flatMap Input.preimages = right.inputs.flatMap Input.preimages :=
    flatMap_eq_of_forall₂ alike.inputs fun _ _ => Input.Alike.preimages_eq
  have entries : left.entries.flatMap (Entry.preimages graph.idAt?) =
      right.entries.flatMap (Entry.preimages graph.idAt?) :=
    flatMap_eq_of_forall₂ alike.agrees_entries fun entry entry' agrees => by
      rw [Entry.preimages, Entry.preimages, (agrees graph.idAt?).layout?_eq,
        (agrees graph.idAt?).kind_eq]
  simp only [preimages, Graph.preimages, Graph.entries_of_build built,
    Graph.entries_of_build built', Graph.header_of_build built, Graph.header_of_build built',
    Graph.results_of_build built, Graph.results_of_build built', ← lookups, inputs, entries,
    results, Graph.headerLayout, header, alike.version, alike.timeRange, alike.fee]

/-- Two transactions with few enough parts have graphs.  If the transactions are
alike, so are all identities and all messages that are signed; and if no two
strings that were hashed collide, the identities are only then the same. -/
theorem identities_commit (left right : Transaction) (size size' : UInt64)
    (few : left.inputs.length + left.outputs.length + 1 ≤ Graph.maxEntries)
    (few' : right.inputs.length + right.outputs.length + 1 ≤ Graph.maxEntries) :
    ∃ graph graph', left.graph size = .ok graph ∧ right.graph size' = .ok graph' ∧
      (left.Alike right → graph.id = graph'.id ∧ graph.ids = graph'.ids ∧
        ∀ index, graph.signatureHash? index = graph'.signatureHash? index) ∧
      (left.outputs ≠ [] → right.outputs ≠ [] →
        CollisionFree (left.preimages graph ++ right.preimages graph') →
        (graph.id = graph'.id ↔ left.Alike right)) := by
  obtain ⟨graph, made⟩ := (exists_graph_iff size).mpr few
  obtain ⟨graph', made'⟩ := (exists_graph_iff size').mpr few'
  refine ⟨graph, graph', made, made', fun alike => ?_, fun paying _ free => ⟨?_, ?_⟩⟩
  · obtain ⟨ids, id⟩ := identities_eq_of_alike made made' alike
    refine ⟨id, ids, fun index => ?_⟩
    simp only [Graph.signatureHash?, Graph.idAt?, ids, id]
  · exact alike_of_id_eq made made' paying free
  · exact fun alike => (identities_eq_of_alike made made' alike).2

end Transaction

/-! ### What identities leave out -/

namespace Commitment

/-- An issuance with arguments, and with or without its definition. -/
def mint (definition : Option Definition) (arguments : List Bytes) : Transaction where
  version := 1
  timeRange := { earliest := 0, latest := 0 }
  fee := 0
  inputs := [.issuance {
    nonce := [2], value := { asset := AssetId.native, amount := 5 }
    definition := definition, arguments := arguments }]
  outputs := [{
    value := { asset := AssetId.native, amount := 5 }, program := Transaction.muxProgram }]

def bareMint : Transaction :=
  mint none []

def fullMint : Transaction :=
  mint (some { program := Transaction.muxProgram, data := [1] }) [[7]]

/-- A retirement whose program goes on after it has failed. -/
def burn (rest : Bytes) : Transaction where
  version := 1
  timeRange := { earliest := 0, latest := 0 }
  fee := 0
  inputs := []
  outputs := [{
    value := { asset := AssetId.native, amount := 5 }, program := Program.first (0x6a :: rest) }]

theorem bareMint_alike_fullMint : bareMint.Alike fullMint where
  version := rfl
  timeRange := rfl
  fee := rfl
  inputs := .cons (.issuance rfl rfl) .nil
  outputs := .cons ⟨rfl, .inl rfl⟩ .nil

theorem burn_alike_burn (rest rest' : Bytes) : (burn rest).Alike (burn rest') where
  version := rfl
  timeRange := rfl
  fee := rfl
  inputs := .nil
  outputs := .cons ⟨rfl, .inr ⟨rfl, rfl⟩⟩ .nil

/-- Strings whose hashes have distinct first bytes. -/
theorem collisionFree_of_heads {strings : List Bytes}
    (distinct : (strings.map fun string => (Digest.hash string).bytes.head?).Nodup) :
    CollisionFree strings := by
  intro first member second member' equal
  exact List.inj_on_of_nodup_map distinct member member' (by rw [equal])

end Commitment

open Commitment in
theorem Transaction.identities_commit_of_burn :
    (∃ graph graph', bareMint.graph 0 = .ok graph ∧ fullMint.graph 0 = .ok graph' ∧
      graph.id = graph'.id ∧ graph.signatureHash? 0 = graph'.signatureHash? 0) ∧
    ∃ graph graph', (burn []).graph 0 = .ok graph ∧ (burn [1]).graph 0 = .ok graph' ∧
      CollisionFree ((burn []).preimages graph ++ (burn [1]).preimages graph') ∧
      (graph.id = graph'.id ↔ (burn []).Alike (burn [1])) := by
  constructor
  · obtain ⟨graph, graph', made, made', same, -⟩ :=
      Transaction.identities_commit bareMint fullMint 0 0 (by decide) (by decide)
    obtain ⟨id, -, signed⟩ := same bareMint_alike_fullMint
    exact ⟨graph, graph', made, made', id, signed 0⟩
  · obtain ⟨graph, graph', made, made', -, only⟩ :=
      Transaction.identities_commit (burn []) (burn [1]) 0 0 (by decide) (by decide)
    have heads : (((burn []).graph 0).toOption.map fun graph =>
        ((burn []).preimages graph).map fun string => (Digest.hash string).bytes.head?) =
          some [some 197, some 171, some 248, some 96, some 67] := by
      decide +kernel
    have free : CollisionFree ((burn []).preimages graph) := by
      rw [made] at heads
      have listed : ((burn []).preimages graph).map (fun string =>
          (Digest.hash string).bytes.head?) =
            [some 197, some 171, some 248, some 96, some 67] := Option.some.inj heads
      apply collisionFree_of_heads
      rw [listed]
      decide
    have both : CollisionFree ((burn []).preimages graph ++ (burn [1]).preimages graph') := by
      rw [← Transaction.preimages_eq_of_alike made made' (burn_alike_burn [] [1])]
      intro first member second member'
      rw [List.mem_append, or_self] at member member'
      exact free first member second member'
    have paying : (burn []).outputs ≠ [] := by decide
    have paying' : (burn [1]).outputs ≠ [] := by decide
    exact ⟨graph, graph', made, made', both, only paying paying' both⟩

end EntryLedger
