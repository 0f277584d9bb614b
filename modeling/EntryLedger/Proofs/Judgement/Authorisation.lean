import EntryLedger.Proofs.Runs
import EntryLedger.Proofs.Transaction.Totals

/-!
# Authorisation of inputs

An accepted transaction has looked every spent output up, uses none of them
twice, and has run the program of every input to its success.  The walk learns
the definitions of issued assets and the programs run only later, so the
definitions are traced back to the issuances that they were found for.
-/

namespace EntryLedger

/-- The output that an entry uses. -/
def Entry.spentOutput? : Entry → Option Digest
  | .spend body => some body.spentOutput
  | .issuance _ | .mux _ | .output _ | .coinbase _ | .retirement _ => none

namespace Graph

variable {graph : Graph} {view : LedgerView} {setting : Setting} {native : AssetId}

/-! ### What the walk learns -/

/-- One examination notes the output that its entry uses, which was not noted
before. -/
theorem spent_of_examine {before after : Tally} {index : Nat} {entry : Entry}
    (examined : graph.examine view native before index entry = .ok after) :
    after.spent = entry.spentOutput?.toList ++ before.spent ∧
      ∀ output, entry.spentOutput? = some output → output ∉ before.spent := by
  have nothing : ∀ output, (none : Option Digest) = some output → output ∉ before.spent := by
    rintro output ⟨⟩
  cases learns_of_examine examined with
  | spend destined unused recorded =>
      refine ⟨rfl, ?_⟩
      intro output uses
      exact Option.some.inj uses ▸ unused
  | issuance destined supplied defined same => exact ⟨rfl, nothing⟩
  | mux balanced => exact ⟨rfl, nothing⟩
  | output body => exact ⟨rfl, nothing⟩
  | retirement body => exact ⟨rfl, nothing⟩
  | coinbase destined => exact ⟨rfl, nothing⟩

/-- Every output that a walk notes was noted before or is used by a visited node. -/
theorem Visits.exists_of_spent {nodes : List (Nat × EntryId × Entry)} {before after : Tally}
    (visits : graph.Visits view native nodes before after) {output : Digest}
    (noted : output ∈ after.spent) :
    output ∈ before.spent ∨ ∃ node ∈ nodes, node.2.2.spentOutput? = some output := by
  induction visits with
  | done => exact .inl noted
  | visit examined rest ih =>
      rcases ih noted with known | ⟨node, later, uses⟩
      · rw [(spent_of_examine examined).1, List.mem_append, Option.mem_toList] at known
        rcases known with uses | known
        · exact .inr ⟨_, List.mem_cons_self .., uses⟩
        · exact .inl known
      · exact .inr ⟨node, List.mem_cons_of_mem _ later, uses⟩

/-- Visited nodes use outputs that were not used before, each at most once. -/
theorem Visits.spent_pairwise {nodes : List (Nat × EntryId × Entry)} {before after : Tally}
    (visits : graph.Visits view native nodes before after) :
    (∀ node ∈ nodes, ∀ output, node.2.2.spentOutput? = some output →
        output ∉ before.spent) ∧
      nodes.Pairwise fun earlier later => ∀ output,
        earlier.2.2.spentOutput? = some output → later.2.2.spentOutput? ≠ some output := by
  induction visits with
  | done => simp
  | visit examined rest ih =>
      obtain ⟨noted, unused⟩ := spent_of_examine examined
      obtain ⟨laterUnused, laterDistinct⟩ := ih
      constructor
      · rintro node member output uses known
        rcases List.mem_cons.mp member with rfl | later
        · exact unused output uses known
        · refine laterUnused node later output uses ?_
          rw [noted]
          exact List.mem_append_right _ known
      · refine List.pairwise_cons.mpr ⟨?_, laterDistinct⟩
        intro node later output uses usesAgain
        refine laterUnused node later output usesAgain ?_
        rw [noted, uses]
        exact List.mem_cons_self ..

theorem Visits.place_eq_of_spent {nodes : List (Nat × EntryId × Entry)}
    {before after : Tally} (visits : graph.Visits view native nodes before after)
    {place place' : Nat} {node node' : Nat × EntryId × Entry} {output : Digest}
    (nodeAt : nodes[place]? = some node) (nodeAt' : nodes[place']? = some node')
    (uses : node.2.2.spentOutput? = some output)
    (uses' : node'.2.2.spentOutput? = some output) : place = place' := by
  have distinct := List.pairwise_iff_getElem.mp visits.spent_pairwise.2
  obtain ⟨bound, rfl⟩ := List.getElem?_eq_some_iff.mp nodeAt
  obtain ⟨bound', rfl⟩ := List.getElem?_eq_some_iff.mp nodeAt'
  rcases Nat.lt_trichotomy place place' with before | equal | after
  · exact (distinct place place' bound bound' before output uses uses').elim
  · exact equal
  · exact (distinct place' place bound' bound after output uses' uses).elim

/-- A definition suits an issuance when the transaction supplies it, or the
ledger if the transaction supplies none, and it defines the issued asset. -/
def Suits (view : LedgerView) (issuance : Issuance) (definition : Definition) : Prop :=
  issuance.definition.or (view.definition? issuance.value.asset) = some definition ∧
    definition.assetId = issuance.value.asset

theorem definitions_of_examine {before after : Tally} {index : Nat} {entry : Entry}
    (examined : graph.examine view native before index entry = .ok after)
    {place : Nat} {definition : Definition}
    (member : (place, definition) ∈ after.definitions) :
    (place, definition) ∈ before.definitions ∨
      place = index ∧ ∃ issuance, entry = .issuance issuance ∧
        Suits view issuance definition := by
  cases learns_of_examine examined with
  | issuance destined supplied defined same =>
      rcases List.mem_cons.mp member with new | old
      · obtain ⟨rfl, rfl⟩ := Prod.mk.inj new
        exact .inr ⟨rfl, _, rfl, supplied, defined⟩
      · exact .inl old
  | spend destined unused recorded => exact .inl member
  | mux balanced => exact .inl member
  | output body => exact .inl member
  | retirement body => exact .inl member
  | coinbase destined => exact .inl member

/-- Every definition that a walk learns was found for a visited issuance. -/
theorem Visits.definition {nodes : List (Nat × EntryId × Entry)} {before after : Tally}
    (visits : graph.Visits view native nodes before after)
    {place : Nat} {definition : Definition}
    (member : (place, definition) ∈ after.definitions) :
    (place, definition) ∈ before.definitions ∨
      ∃ id issuance, (place, id, Entry.issuance issuance) ∈ nodes ∧
        Suits view issuance definition := by
  induction visits with
  | done => exact .inl member
  | visit examined rest ih =>
      rcases ih member with known | ⟨id, issuance, later, suits⟩
      · rcases definitions_of_examine examined known with old | ⟨rfl, issuance, rfl, suits⟩
        · exact .inl old
        · exact .inr ⟨_, issuance, List.mem_cons_self .., suits⟩
      · exact .inr ⟨id, issuance, List.mem_cons_of_mem _ later, suits⟩

/-! ### What the programs had to do -/

theorem runGuards_append {tally : Tally} {front back : List (Nat × EntryId × Entry)} :
    graph.runGuards setting tally (front ++ back) =
      graph.runGuards setting tally front >>= fun _ =>
        graph.runGuards setting tally back := by
  induction front with
  | nil => rw [List.nil_append, runGuards, pure_bind]
  | cons node front ih =>
      rw [List.cons_append, runGuards, runGuards, ih, bind_assoc]

/-- A node that has a guard lets the judgement go on only when the program of
the guard succeeds. -/
theorem authorise_of_runGuard {tally : Tally} {index : Nat} {id : EntryId} {entry : Entry}
    {before after : Books} {guard : Guard}
    (ran : (graph.runGuard setting tally index id entry).run before = .ok () after)
    (guarded : tally.guard? index entry = .ok (some guard)) :
    ∃ hash, graph.signatureHash? index = some hash ∧
      (Machine.authorise (graph.guardContext setting id hash guard) guard.program
        entry.arguments).run before = .ok () after := by
  unfold runGuard at ran
  rw [guarded] at ran
  cases hashed : graph.signatureHash? index with
  | none =>
      simp only [hashed] at ran
      cases ran
  | some hash =>
      refine ⟨hash, rfl, ?_⟩
      simp only [hashed] at ran
      change Judging.authorise id _ before = .ok () after at ran
      unfold Judging.authorise at ran
      split at ran
      · rename_i finished
        cases ran
        exact finished
      · cases ran
      · cases ran

/-- In the judgement of a graph, a program was run in the turn of the node at a
place, on the books that the programs before it left, and it succeeded. -/
def Authorised (graph : Graph) (view : LedgerView) (setting : Setting) (index : Nat)
    (context : Context) (program : Program) (arguments : List Bytes) : Prop :=
  ∃ meter tally before after last,
    graph.vet view setting = .ok (meter, tally) ∧
      (graph.runGuards setting tally (graph.nodes.take index)).run (.ofMeter meter true) =
        .ok () before ∧
      (Machine.authorise context program arguments).run before = .ok () after ∧
      (graph.runGuards setting tally (graph.nodes.drop (index + 1))).run after =
        .ok () last

/-- In an accepted graph the guard of every node was authorised. -/
theorem authorised_of_valid {gasUsed visited : Nat}
    (valid : (graph.judge view setting).outcome = .ok (.valid gasUsed visited))
    {index : Nat} {id : EntryId} {entry : Entry}
    (node : graph.nodes[index]? = some (index, id, entry)) :
    ∃ tally found, graph.Visits view setting.params.nativeAsset graph.nodes .start tally ∧
      tally.guard? index entry = .ok found ∧
      ∀ guard, found = some guard → ∃ hash, graph.signatureHash? index = some hash ∧
        graph.Authorised view setting index (graph.guardContext setting id hash guard)
          guard.program entry.arguments := by
  obtain ⟨meter, tally, books, vetted, ran, -⟩ := outcome_judge_eq_valid.mp valid
  obtain ⟨_, -, walked, -⟩ := vet_eq_ok.mp vetted
  have inside := (List.getElem?_eq_some_iff.mp node).1
  have parted : graph.nodes =
      graph.nodes.take index ++ (index, id, entry) :: graph.nodes.drop (index + 1) := by
    rw [← (List.getElem?_eq_some_iff.mp node).2, ← List.drop_eq_getElem_cons inside,
      List.take_append_drop]
  rw [parted, runGuards_append, Runs.bind_eq_ok] at ran
  obtain ⟨_, before, ranBefore, ran⟩ := ran
  rw [runGuards, Runs.bind_eq_ok] at ran
  obtain ⟨_, after, ranHere, ranAfter⟩ := ran
  cases guarded : tally.guard? index entry with
  | error cause =>
      simp only [runGuard, guarded] at ranHere
      cases ranHere
  | ok found =>
      refine ⟨tally, found, visits_of_walk walked, guarded, ?_⟩
      rintro guard rfl
      obtain ⟨hash, hashed, authorised⟩ := authorise_of_runGuard ranHere guarded
      exact ⟨hash, hashed, meter, tally, before, after, books, vetted, ranBefore,
        authorised, ranAfter⟩

end Graph

namespace Sealed

variable {tx : Sealed} {view : LedgerView} {setting : Setting}

/-- A context describes an input: it carries the identity that the entry of the
input has, the message that this entry signs, the value of the input, its place,
and the code of its program. -/
structure Describes (tx : Sealed) (setting : Setting) (index : Nat) (input : Input)
    (context : Context) (program : Program) : Prop where
  place : tx.graph.idAt? index = some context.entryId
  identity : (input.entry tx.transaction.inputs.length index).id? tx.graph.idAt? =
    some context.entryId
  message : tx.signatureHash? index = some context.signatureHash
  transaction : context.transactionId = tx.id
  asset : context.asset = some input.value.asset
  amount : context.amount = some input.value.amount
  position : context.position.map UInt64.toNat = some index
  code : context.program = program.code
  verifier : context.verifySignature = setting.verifySignature

/-- The context in which the program of an input runs describes the input. -/
theorem Made.describes (made : tx.Made) {index : Nat} {input : Input} {id : EntryId}
    {hash : Digest} {guard : Guard} (found : tx.transaction.inputs[index]? = some input)
    (node : tx.graph.nodes[index]? =
      some (index, id, input.entry tx.transaction.inputs.length index))
    (hashed : tx.graph.signatureHash? index = some hash)
    (destined : guard.destination = some {
      entry := tx.transaction.inputs.length
      value := input.value
      position := UInt64.ofNat index }) :
    tx.Describes setting index input (tx.graph.guardContext setting id hash guard)
      guard.program := by
  have inside : index < tx.transaction.inputs.length := (List.getElem?_eq_some_iff.mp found).1
  have idAt : tx.graph.idAt? index = some id := (Graph.getElem?_nodes_eq_some.mp node).2.1
  have identity := Graph.idAt?_of_build made.built (Transaction.getElem?_entries found)
  refine {
    place := idAt
    identity := identity.symm.trans idAt
    message := ?_
    transaction := rfl
    asset := ?_
    amount := ?_
    position := ?_
    code := rfl
    verifier := rfl }
  · rw [signatureHash?, if_pos inside, hashed]
    rfl
  · simp [Graph.guardContext, destined]
  · simp [Graph.guardContext, destined]
  · simp only [Graph.guardContext, destined, Option.map_some]
    rw [UInt64.toNat_ofNat_of_lt' (made.index_lt found)]

/-- In an accepted transaction every spend uses an output that the ledger
records with the value of the spend and that no other input uses, and its
program was authorised; and every issuance was authorised by the program of a
definition of the issued asset, wherever the definition came from. -/
theorem inputs_authorised {gasUsed visited : Nat} (made : tx.Made)
    (valid : (tx.judge view setting).outcome = .ok (.valid gasUsed visited)) :
    (∀ index spend, tx.transaction.inputs[index]? = some (.spend spend) →
      view.output? (outputId spend.sourceId spend.value spend.sourcePosition spend.program) =
          some spend.value ∧
        (∀ other spend', tx.transaction.inputs[other]? = some (.spend spend') →
          outputId spend'.sourceId spend'.value spend'.sourcePosition spend'.program =
            outputId spend.sourceId spend.value spend.sourcePosition spend.program →
          other = index) ∧
        ∃ context, tx.Describes setting index (.spend spend) context spend.program ∧
          tx.graph.Authorised view setting index context spend.program spend.arguments) ∧
    ∀ index issuance, tx.transaction.inputs[index]? = some (.issuance issuance) →
      ∃ definition context,
        issuance.definition.or (view.definition? issuance.value.asset) = some definition ∧
        definition.assetId = issuance.value.asset ∧
        tx.Describes setting index (.issuance issuance) context definition.program ∧
        tx.graph.Authorised view setting index context definition.program
          issuance.arguments := by
  constructor
  · intro index spend found
    obtain ⟨id, node⟩ := made.node found
    obtain ⟨tally, _, visits, guarded, authorised⟩ := Graph.authorised_of_valid valid node
    refine ⟨?_, ?_, ?_⟩
    · exact made.recorded visits found
    · intro other spend' found' same
      obtain ⟨id', node'⟩ := made.node found'
      exact visits.place_eq_of_spent node' node (congrArg some same) rfl
    · obtain rfl := Except.ok.inj guarded
      obtain ⟨hash, hashed, ran⟩ := authorised _ rfl
      exact ⟨_, made.describes found node hashed rfl, ran⟩
  · intro index issuance found
    obtain ⟨id, node⟩ := made.node found
    obtain ⟨tally, _, visits, guarded, authorised⟩ := Graph.authorised_of_valid valid node
    cases learned : tally.definitions.lookup index with
    | none =>
        simp only [Input.entry, Tally.guard?, learned] at guarded
        cases guarded
    | some definition =>
        simp only [Input.entry, Tally.guard?, learned] at guarded
        obtain rfl := Except.ok.inj guarded
        obtain ⟨hash, hashed, ran⟩ := authorised _ rfl
        obtain ⟨front, back, parts, -⟩ := List.lookup_eq_some_iff.mp learned
        have member : (index, definition) ∈ tally.definitions := by simp [parts]
        rcases visits.definition member with old | ⟨id', issuance', node', suits⟩
        · cases old
        · -- Places are not shared, so the definition was learned from this issuance.
          obtain ⟨place, at'⟩ := List.mem_iff_getElem?.mp node'
          obtain ⟨rfl, -, entryAt'⟩ := Graph.getElem?_nodes_eq_some.mp at'
          have entryAt := (Graph.getElem?_nodes_eq_some.mp node).2.2
          rw [entryAt] at entryAt'
          obtain rfl := Entry.issuance.inj (Option.some.inj entryAt')
          exact ⟨definition, _, suits.1, suits.2,
            made.describes found node hashed rfl, ran⟩

end Sealed

/-! ### A spend beside an issuance -/

namespace Authorisation

/-- A definition that lets anybody issue. -/
def freeDefinition : Definition where
  program := Transaction.muxProgram
  data := [1]

def oldCoin : SpendInput where
  sourceId := Digest.filled 7
  sourcePosition := 0
  value := { asset := AssetId.native, amount := 110 }
  program := Transaction.muxProgram
  arguments := []

/-- The issuance leaves its definition to the ledger. -/
def newCoin : IssuanceInput where
  nonce := [2]
  value := { asset := freeDefinition.assetId, amount := 5 }
  definition := none
  arguments := []

def exchange : Transaction where
  version := 1
  timeRange := { earliest := 0, latest := 0 }
  fee := 100
  inputs := [.spend oldCoin, .issuance newCoin]
  outputs := [
    { value := { asset := AssetId.native, amount := 10 }, program := Transaction.muxProgram },
    { value := newCoin.value, program := Transaction.muxProgram }]

/-- A view that records one output, and one definition for whatever asset. -/
def exchangeView : LedgerView where
  output? := fun output => if output = oldCoin.spentOutput then some oldCoin.value else none
  definition? := fun _ => some freeDefinition

end Authorisation

open Authorisation in
theorem Sealed.inputs_authorised_of_exchange :
    ∃ tx, Sealed.ofTransaction exchange = .ok tx ∧
      (tx.judge exchangeView .sample).outcome = .ok (.valid 30 5) ∧
      (∃ context, tx.Describes .sample 0 (.spend oldCoin) context oldCoin.program ∧
        tx.graph.Authorised exchangeView .sample 0 context oldCoin.program []) ∧
      ∃ (definition : Definition) (context : Context),
        definition.assetId = newCoin.value.asset ∧
        tx.Describes .sample 1 (.issuance newCoin) context definition.program ∧
        tx.graph.Authorised exchangeView .sample 1 context definition.program [] := by
  have judged : (Sealed.ofTransaction exchange).toOption.bind (fun tx =>
      if tx.transaction = exchange then (tx.judge exchangeView .sample).outcome.toOption
      else none) = some (.valid 30 5) := by
    decide +kernel
  obtain ⟨tx, sealed, valid⟩ := Option.bind_eq_some_iff.mp judged
  have sealed := Checks.toOption_eq_some.mp sealed
  split at valid
  · rename_i same
    have valid := Checks.toOption_eq_some.mp valid
    obtain ⟨spends, issuances⟩ := Sealed.inputs_authorised (.composed sealed) valid
    obtain ⟨-, -, spent⟩ := spends 0 oldCoin (by rw [same]; rfl)
    obtain ⟨definition, context, -, defined, described, authorised⟩ :=
      issuances 1 newCoin (by rw [same]; rfl)
    exact ⟨tx, sealed, valid, spent, definition, context, defined, described, authorised⟩
  · cases valid

end EntryLedger
