import EntryLedger.Proofs.Graph.Commitment
import EntryLedger.Proofs.Judgement.Defects
import EntryLedger.Proofs.Judgement.Provenance
import EntryLedger.Proofs.Machine.Positional.Access
import EntryLedger.Proofs.Transaction.Composition

/-!
# Building accepts the well-formed graphs

What a graph has to be like is said here without any reference to how it is checked.
Building accepts exactly such graphs.  It reaches for entries and identities by their
positions, some of them without a look whether they are there, and never misses one.
Only sources are asked to point backwards; that destinations point forwards shows when a
graph is accepted.
-/

namespace EntryLedger

/-- A list of checks fails for the reasons of its members. -/
theorem Checks.FailsOnly.forM {Failure Item : Type} {reason : Failure → Prop}
    {items : List Item} {check : Item → Except Failure Unit}
    (fails : ∀ item ∈ items, FailsOnly reason (check item)) :
    FailsOnly reason (items.forM check) := by
  induction items with
  | nil => exact .ok ()
  | cons item items ih =>
      exact .bind (fails item (List.mem_cons_self ..)) fun _ _ =>
        ih fun later member => fails later (List.mem_cons_of_mem _ member)

open Checks (FailsOnly)

namespace Graph

/-- Entries whose links lead to slots of other entries, the sources to earlier ones, with
results among those that value can leave at. -/
structure WellFormed (entries : List Entry) (results : List Nat) : Prop where
  complete : ∀ entry ∈ entries, entry.isInput = true → entry.destinations ≠ []
  sources : ∀ {place : Nat} {entry : Entry}, entries[place]? = some entry →
    ∀ link ∈ entry.sources, link.entry < place ∧
      ∃ giver, entries[link.entry]? = some giver ∧ giver.kind.emits = true ∧
        link.position.toNat < giver.destinations.length
  destinations : ∀ {place : Nat} {entry : Entry}, entries[place]? = some entry →
    ∀ link ∈ entry.destinations, link.entry ≠ place ∧
      ∃ taker, entries[link.entry]? = some taker ∧ taker.kind.accepts = true ∧
        link.position.toNat < taker.sources.length
  results : ∀ result ∈ results, ∃ entry, entries[result]? = some entry ∧
    (entry.kind = .output ∨ entry.kind = .retirement)

/-- An input lacks its destination exactly when it has none. -/
theorem lacksDestination_eq_false_iff {entry : Entry} :
    entry.lacksDestination = false ↔ (entry.isInput = true → entry.destinations ≠ []) := by
  have single (destination : Option Link) : destination.isNone = false ↔
      (true = true → destination.toList ≠ []) := by
    cases destination with
    | none => simp
    | some link => simp
  cases entry with
  | issuance body | spend body | coinbase body => exact single body.destination
  | mux body | output body | retirement body =>
      simp [Entry.lacksDestination, Entry.isInput]

theorem checkResult_eq_ok {entries : List Entry} {result : Nat} :
    checkResult entries result = .ok () ↔ ∃ entry, entries[result]? = some entry ∧
      (entry.kind = .output ∨ entry.kind = .retirement) := by
  unfold checkResult
  cases found : entries[result]? with
  | none => simp
  | some entry => cases kind : entry.kind <;> simp [kind]

/-- Why building fails, if it does not want identities. -/
def Resolved (error : GraphError) : Prop :=
  error ≠ .malformedEncoding .unresolvedEntry

theorem resolved_checkSource (entries : List Entry) (owner : Nat) (link : Link) :
    FailsOnly Resolved (checkSource entries owner link) := by
  fun_cases checkSource
  all_goals first
    | exact .ok _
    | exact .error nofun

theorem resolved_checkDestination (entries : List Entry) (owner : Nat) (link : Link) :
    FailsOnly Resolved (checkDestination entries owner link) := by
  fun_cases checkDestination
  all_goals first
    | exact .ok _
    | exact .error nofun

theorem resolved_checkEntry (entries : List Entry) (owner : Nat) (entry : Entry) :
    FailsOnly Resolved (checkEntry entries owner entry) := by
  unfold checkEntry
  by_cases lacking : entry.lacksDestination = true
  · simp only [if_pos lacking]
    exact .error nofun
  · simp only [if_neg lacking]
    exact .bind (.forM fun _ _ => resolved_checkSource _ _ _) fun _ _ =>
      .forM fun _ _ => resolved_checkDestination _ _ _

theorem resolved_checkResult (entries : List Entry) (result : Nat) :
    FailsOnly Resolved (checkResult entries result) := by
  fun_cases checkResult
  all_goals first
    | exact .ok _
    | exact .error nofun

section Build

variable {header : Header} {entries : List Entry} {results : List Nat} {graph : Graph}

theorem wellFormed_of_build (built : build header entries results = .ok graph) :
    WellFormed entries results := by
  obtain ⟨-, entriesChecked, resultsChecked, -⟩ := build_eq_ok.mp built
  have checked {place : Nat} {entry : Entry} (present : entries[place]? = some entry) :=
    entriesChecked entry place (List.mem_zipIdx_iff_getElem?.mpr present)
  have complete {place : Nat} {entry : Entry} (present : entries[place]? = some entry) :
      entry.lacksDestination = false :=
    (of_checkEntry (checked present)).1
  constructor
  · intro entry member
    obtain ⟨place, present⟩ := List.mem_iff_getElem?.mp member
    exact lacksDestination_eq_false_iff.mp (complete present)
  · intro place entry present link member
    obtain ⟨-, sources, -⟩ := of_checkEntry (checked present)
    obtain ⟨giver, giverAt, emits, slot⟩ := exists_of_checkSource (sources link member)
    rw [← Entry.length_destinations emits (complete giverAt)] at slot
    exact ⟨source_lt_of_checkEntry (checked present) member, giver, giverAt, emits, slot⟩
  · intro place entry present link member
    obtain ⟨-, -, destinations⟩ := of_checkEntry (checked present)
    have destination := destinations link member
    obtain ⟨taker, takerAt, accepts, slot⟩ := exists_of_checkDestination destination
    rw [← Entry.length_sources accepts] at slot
    refine ⟨?_, taker, takerAt, accepts, slot⟩
    intro own
    simp only [checkDestination, if_pos own] at destination
    cases destination
  · exact fun result member => checkResult_eq_ok.mp (resultsChecked result member)

/-- Checked entries have earlier sources, so that all identities are found. -/
theorem resolved_build : FailsOnly Resolved (build header entries results) := by
  unfold build
  by_cases many : maxEntries < entries.length
  · simp only [if_pos many]
    exact .error nofun
  · simp only [if_neg many]
    refine .bind (.forM fun _ _ => resolved_checkEntry _ _ _) fun _ entriesChecked => ?_
    refine .bind (.forM fun _ _ => resolved_checkResult _ _) fun _ _ => ?_
    obtain ⟨ids, found⟩ : ∃ ids, idsFrom [] entries = some ids := by
      apply exists_idsFrom
      intro place entry present link member
      have owned : (entry, place) ∈ entries.zipIdx := List.mem_zipIdx_iff_getElem?.mpr present
      have checked := Checks.forM_eq_ok.mp entriesChecked (entry, place) owned
      rw [List.length_nil, Nat.zero_add]
      exact source_lt_of_checkEntry checked member
    rw [found]
    exact .ok _

theorem exists_build_of_wellFormed (few : entries.length ≤ maxEntries)
    (wellFormed : WellFormed entries results) :
    ∃ graph, build header entries results = .ok graph := by
  have complete {entry : Entry} (member : entry ∈ entries) : entry.lacksDestination = false :=
    lacksDestination_eq_false_iff.mpr (wellFormed.complete entry member)
  refine exists_build header few ?_ fun result member =>
    checkResult_eq_ok.mpr (wellFormed.results result member)
  intro place entry present
  refine checkEntry_eq_ok (complete (List.mem_of_getElem? present)) ?_ ?_
  · intro link member
    obtain ⟨earlier, giver, giverAt, emits, slot⟩ := wellFormed.sources present link member
    rw [Entry.length_destinations emits (complete (List.mem_of_getElem? giverAt))] at slot
    exact checkSource_eq_ok earlier giverAt emits slot
  · intro link member
    obtain ⟨other, taker, takerAt, accepts, slot⟩ :=
      wellFormed.destinations present link member
    rw [Entry.length_sources accepts] at slot
    exact checkDestination_eq_ok other takerAt accepts slot

end Build

end Graph

/-! ### Positions -/

namespace Positional

/-- A check that looks whether what it reaches for is there. -/
def ofCheck {Result : Type} (check : Except GraphError Result) : Access GraphError Result :=
  check.mapError .early

/-- Check a link to where value comes from.  That the entry is earlier is all that is known
when it is reached for. -/
def checkSource (entries : List Entry) (owner : Nat) (link : Link) : Access GraphError Unit :=
  if owner ≤ link.entry then
    .early (.malformedReference (some owner) link.entry .sourceNotEarlier)
  else do
    let target ← Access.itemAt entries link.entry
    if target.kind.emits = false then
      .early (.malformedReference (some owner) link.entry .sourceCannotEmit)
    else if target.destinationSlots ≤ link.position.toNat then
      .early (.malformedPosition owner link.entry link.position)
    else return ()

def checkEntry (entries : List Entry) (owner : Nat) (entry : Entry) :
    Access GraphError Unit := do
  if entry.lacksDestination then Access.early (.missingDestination owner)
  entry.sources.forM (checkSource entries owner)
  entry.destinations.forM fun link => ofCheck (Graph.checkDestination entries owner link)

/-- The identities at some places. -/
def identitiesAt (ids : List EntryId) : List Nat → Access GraphError (List EntryId)
  | [] => return []
  | place :: places => do
      let id ← Access.itemAt ids place
      let rest ← identitiesAt ids places
      return id :: rest

/-- Check all references and compute all identities.  The identities of the results are
reached for without a look whether they are there. -/
def build (header : Header) (entries : List Entry) (results : List Nat) :
    Access GraphError Graph := do
  if Graph.maxEntries < entries.length then
    Access.early (.malformedEncoding (.tooManyEntries entries.length))
  entries.zipIdx.forM fun (entry, owner) => checkEntry entries owner entry
  results.forM fun result => ofCheck (Graph.checkResult entries result)
  match Graph.idsFrom [] entries with
  | none => Access.early (.malformedEncoding .unresolvedEntry)
  | some ids =>
      let resultIds ← identitiesAt ids results
      return { header := header, entries := entries, ids := ids, results := results
               id := Digest.hash (Graph.headerLayout header resultIds) }

/-! ### Agreement -/

variable {entries : List Entry}

theorem bind_eq_ofCheck {First Second : Type} {positional : Access GraphError First}
    {check : Except GraphError First} {next : First → Access GraphError Second}
    {next' : First → Except GraphError Second} (first : positional = ofCheck check)
    (rest : ∀ found, check = .ok found → next found = ofCheck (next' found)) :
    (positional >>= next) = ofCheck (check >>= next') := by
  subst first
  cases check with
  | error error => rfl
  | ok found => exact rest found rfl

theorem forM_eq_ofCheck {Item : Type} {items : List Item}
    {positional : Item → Access GraphError Unit} {check : Item → Except GraphError Unit}
    (agrees : ∀ item ∈ items, positional item = ofCheck (check item)) :
    items.forM positional = ofCheck (items.forM check) := by
  induction items with
  | nil => rfl
  | cons item items ih =>
      exact bind_eq_ofCheck (agrees item (List.mem_cons_self ..)) fun _ _ =>
        ih fun later member => agrees later (List.mem_cons_of_mem _ member)

/-- An earlier entry is there. -/
theorem checkSource_eq {owner : Nat} (inside : owner ≤ entries.length) (link : Link) :
    checkSource entries owner link = ofCheck (Graph.checkSource entries owner link) := by
  unfold checkSource Graph.checkSource
  by_cases later : owner ≤ link.entry
  · rw [if_pos later, if_pos later]
    rfl
  · have present : link.entry < entries.length := by omega
    rw [if_neg later, if_neg later, Access.itemAt, List.getElem?_eq_getElem present]
    simp only [Checks.ok_bind]
    split
    · rfl
    · split
      · rfl
      · rfl

theorem checkEntry_eq {owner : Nat} (inside : owner ≤ entries.length) (entry : Entry) :
    checkEntry entries owner entry = ofCheck (Graph.checkEntry entries owner entry) := by
  unfold checkEntry Graph.checkEntry
  by_cases lacking : entry.lacksDestination = true
  · simp only [if_pos lacking]
    rfl
  · simp only [if_neg lacking]
    refine bind_eq_ofCheck ?_ fun _ _ => ?_
    · exact forM_eq_ofCheck fun link _ => checkSource_eq inside link
    · exact forM_eq_ofCheck fun _ _ => rfl

/-- Identities that are there are found. -/
theorem identitiesAt_eq {ids : List EntryId} {places : List Nat}
    (present : ∀ place ∈ places, place < ids.length) :
    identitiesAt ids places = .ok (places.filterMap (ids[·]?)) := by
  induction places with
  | nil => rfl
  | cons place places ih =>
      have here := List.getElem?_eq_getElem (present place (List.mem_cons_self ..))
      have rest := ih fun later member => present later (List.mem_cons_of_mem _ member)
      simp only [identitiesAt, Access.itemAt, here, rest, Checks.ok_bind,
        List.filterMap_cons]
      rfl

/-- A graph is built by positions just as it is built by look-ups, and no position is
missed. -/
theorem build_eq (header : Header) (entries : List Entry) (results : List Nat) :
    build header entries results = ofCheck (Graph.build header entries results) := by
  unfold build Graph.build
  by_cases many : Graph.maxEntries < entries.length
  · simp only [if_pos many]
    rfl
  · simp only [if_neg many]
    refine bind_eq_ofCheck ?_ fun _ _ => bind_eq_ofCheck ?_ fun _ resultsChecked => ?_
    · refine forM_eq_ofCheck ?_
      rintro ⟨entry, owner⟩ member
      have present := List.mem_zipIdx_iff_getElem?.mp member
      exact checkEntry_eq (Nat.le_of_lt (List.getElem?_eq_some_iff.mp present).1) entry
    · exact forM_eq_ofCheck fun _ _ => rfl
    · cases found : Graph.idsFrom [] entries with
      | none => rfl
      | some ids =>
          have identified : ids.length = entries.length := by
            simpa using Graph.length_idsFrom found
          have present : ∀ place ∈ results, place < ids.length := by
            intro place member
            have checked := Checks.forM_eq_ok.mp resultsChecked place member
            obtain ⟨entry, entryAt, -⟩ := Graph.checkResult_eq_ok.mp checked
            rw [identified]
            exact (List.getElem?_eq_some_iff.mp entryAt).1
          simp only [identitiesAt_eq present]
          rfl

end Positional

/-! ### Value flows forward -/

namespace Graph

/-- Value passes from one place to another, as the entry at either of them says. -/
inductive Flows (entries : List Entry) : Nat → Nat → Prop
  | source {place : Nat} {entry : Entry} {link : Link}
      (present : entries[place]? = some entry) (listed : link ∈ entry.sources) :
      Flows entries link.entry place
  | destination {place : Nat} {entry : Entry} {link : Link}
      (present : entries[place]? = some entry) (listed : link ∈ entry.destinations) :
      Flows entries place link.entry

variable {graph : Graph} {view : LedgerView} {setting : Setting}

/-- Where the cross-checks pass, destinations lead forward because sources lead
backward. -/
theorem lt_of_destination (ordered : graph.Ordered) (crossed : graph.CrossChecked)
    {place : Nat} {entry : Entry} (present : graph.entries[place]? = some entry)
    {link : Link} (listed : link ∈ entry.destinations) : place < link.entry := by
  obtain ⟨slot, slotted⟩ := List.mem_iff_getElem?.mp listed
  obtain ⟨taker, back, takerAt, backAt, sameOwner, -⟩ :=
    crossDestination_eq_ok.mp (crossed.destinations present slotted)
  rw [← sameOwner]
  exact ordered link.entry taker takerAt back (List.mem_of_getElem? backAt)

theorem lt_of_flows (ordered : graph.Ordered) (crossed : graph.CrossChecked)
    {giver taker : Nat} (flows : Flows graph.entries giver taker) : giver < taker := by
  cases flows with
  | source present listed => exact ordered _ _ present _ listed
  | destination present listed => exact lt_of_destination ordered crossed present listed

theorem lt_of_transGen_flows (ordered : graph.Ordered) (crossed : graph.CrossChecked)
    {giver taker : Nat} (flows : Relation.TransGen (Flows graph.entries) giver taker) :
    giver < taker := by
  induction flows with
  | single flows => exact lt_of_flows ordered crossed flows
  | tail earlier flows ih => exact ih.trans (lt_of_flows ordered crossed flows)

/-- A graph is built exactly from well-formed entries and results.  Building misses no
position and no identity, keeps what it is given, and finds the identity of every entry; and
in a graph that is accepted, value only flows forward. -/
theorem build_accepts_wellFormed (header : Header) (entries : List Entry)
    (results : List Nat) (few : entries.length < 2 ^ 32) :
    ((∃ graph, build header entries results = .ok graph) ↔ WellFormed entries results) ∧
      Positional.build header entries results =
        (build header entries results).mapError Exit.early ∧
      build header entries results ≠ .error (.malformedEncoding .unresolvedEntry) ∧
      ∀ graph, build header entries results = .ok graph →
        graph.header = header ∧ graph.entries = entries ∧ graph.results = results ∧
          graph.ids.length = entries.length ∧
          (∀ (place : Nat) (entry : Entry), entries[place]? = some entry →
            ∃ id, graph.idAt? place = some id ∧ entry.id? graph.idAt? = some id) ∧
          ∀ view setting gasUsed visited,
            (graph.judge view setting).outcome = .ok (.valid gasUsed visited) →
              (∀ (place : Nat) (entry : Entry), entries[place]? = some entry →
                ∀ link ∈ entry.destinations, place < link.entry) ∧
              ∀ place, ¬ Relation.TransGen (Flows entries) place place := by
  have few : entries.length ≤ maxEntries := by
    rw [maxEntries]
    omega
  refine ⟨?_, Positional.build_eq header entries results, ?_, ?_⟩
  · constructor
    · rintro ⟨graph, built⟩
      exact wellFormed_of_build built
    · exact exists_build_of_wellFormed few
  · exact fun unresolved => resolved_build _ unresolved rfl
  · intro graph built
    have same := entries_of_build built
    have identified := length_ids_of_build built
    refine ⟨header_of_build built, same, results_of_build built, by rw [identified, same],
      ?_, ?_⟩
    · intro place entry present
      obtain ⟨id, node⟩ := exists_node identified (same ▸ present)
      have known : graph.idAt? place = some id := (getElem?_nodes_eq_some.mp node).2.1
      exact ⟨id, known, (idAt?_of_build built present).symm.trans known⟩
    · intro view setting gasUsed visited valid
      obtain ⟨tally, visits, -⟩ := visits_of_valid valid
      have crossed := visits.crossChecked identified
      have ordered := ordered_of_build built
      rw [← same]
      exact ⟨fun _ _ present _ => lt_of_destination ordered crossed present, fun _ cycle =>
        Nat.lt_irrefl _ (lt_of_transGen_flows ordered crossed cycle)⟩

open Conservation in
theorem build_accepts_wellFormed_of_twoMuxes :
    twoMuxes.length < 2 ^ 32 ∧ WellFormed twoMuxes [2, 5] ∧
      ∃ graph, build twoMuxesHeader twoMuxes [2, 5] = .ok graph ∧
        (graph.judge twoMuxesView .sample).outcome = .ok (.valid 40 6) ∧
        ∀ place, ¬ Relation.TransGen (Flows twoMuxes) place place := by
  have few : twoMuxes.length < 2 ^ 32 := by decide
  have judged : (build twoMuxesHeader twoMuxes [2, 5]).toOption.bind (fun graph =>
      (graph.judge twoMuxesView .sample).outcome.toOption) = some (.valid 40 6) := by
    decide +kernel
  obtain ⟨graph, built, valid⟩ := Option.bind_eq_some_iff.mp judged
  have built := Checks.toOption_eq_some.mp built
  have valid := Checks.toOption_eq_some.mp valid
  obtain ⟨accepts, -, -, kept⟩ :=
    build_accepts_wellFormed twoMuxesHeader twoMuxes [2, 5] few
  obtain ⟨-, -, -, -, -, flows⟩ := kept graph built
  exact ⟨few, accepts.mp ⟨graph, built⟩, graph, built, valid, (flows _ _ _ _ valid).2⟩

end Graph

end EntryLedger
