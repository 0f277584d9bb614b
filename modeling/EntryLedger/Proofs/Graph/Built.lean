import EntryLedger.Graph
import EntryLedger.Proofs.Checks

/-!
# Graphs that were built

Building keeps the header, the entries and the results that it is given, and
finds one identity for each entry.  Hence the nodes of a built graph are its
entries, each with its place and its identity.
-/

namespace EntryLedger.Graph

/-- Identities are found for every entry or not at all. -/
theorem length_idsFrom {known ids : List EntryId} {entries : List Entry}
    (found : idsFrom known entries = some ids) :
    ids.length = known.length + entries.length := by
  induction entries generalizing known with
  | nil =>
      obtain rfl : known = ids := Option.some.inj found
      simp
  | cons entry rest ih =>
      rw [idsFrom] at found
      split at found
      · rename_i id _
        have shorter := ih found
        simp only [List.length_append, List.length_cons, List.length_nil] at shorter ⊢
        omega
      · cases found

/-- Building succeeds exactly when the entries are few enough, every entry and
every result passes its checks, and all identities are found. -/
theorem build_eq_ok {header : Header} {entries : List Entry} {results : List Nat}
    {graph : Graph} :
    build header entries results = .ok graph ↔
      entries.length ≤ maxEntries ∧
        (∀ entry owner, (entry, owner) ∈ entries.zipIdx →
          checkEntry entries owner entry = .ok ()) ∧
        (∀ result ∈ results, checkResult entries result = .ok ()) ∧
        ∃ ids, idsFrom [] entries = some ids ∧
          { header := header, entries := entries, ids := ids, results := results
            id := Digest.hash (headerLayout header (results.filterMap (ids[·]?))) } =
            graph := by
  unfold build
  by_cases large : maxEntries < entries.length
  · simp only [if_pos large, Checks.throw_eq_error, Checks.error_bind, reduceCtorEq,
      false_iff, not_and]
    intro small
    omega
  · simp only [if_neg large, Checks.bind_eq_ok]
    have small : entries.length ≤ maxEntries := Nat.le_of_not_lt large
    constructor
    · rintro ⟨_, entriesChecked, _, resultsChecked, finished⟩
      refine ⟨small, ?_, Checks.forM_eq_ok.mp resultsChecked, ?_⟩
      · intro entry owner member
        exact Checks.forM_eq_ok.mp entriesChecked (entry, owner) member
      · split at finished
        · cases finished
        · rename_i ids found
          exact ⟨ids, found, Except.ok.inj finished⟩
    · rintro ⟨-, entriesChecked, resultsChecked, ids, found, rfl⟩
      refine ⟨(), Checks.forM_eq_ok.mpr ?_, (), Checks.forM_eq_ok.mpr resultsChecked, ?_⟩
      · rintro ⟨entry, owner⟩ member
        exact entriesChecked entry owner member
      · rw [found]
        rfl

section Built

variable {header : Header} {entries : List Entry} {results : List Nat} {graph : Graph}

theorem header_of_build (built : build header entries results = .ok graph) :
    graph.header = header := by
  obtain ⟨-, -, -, ids, -, rfl⟩ := build_eq_ok.mp built
  rfl

theorem entries_of_build (built : build header entries results = .ok graph) :
    graph.entries = entries := by
  obtain ⟨-, -, -, ids, -, rfl⟩ := build_eq_ok.mp built
  rfl

theorem length_ids_of_build (built : build header entries results = .ok graph) :
    graph.ids.length = graph.entries.length := by
  obtain ⟨-, -, -, ids, found, rfl⟩ := build_eq_ok.mp built
  simpa using length_idsFrom found

end Built

/-- The node at a place is the entry there with its identity. -/
theorem getElem?_nodes_eq_some {graph : Graph} {place index : Nat} {id : EntryId}
    {entry : Entry} :
    graph.nodes[place]? = some (index, id, entry) ↔
      index = place ∧ graph.ids[place]? = some id ∧ graph.entries[place]? = some entry := by
  simp only [nodes, List.getElem?_mapIdx, Option.map_eq_some_iff, Prod.mk.injEq,
    Prod.exists, List.getElem?_zip_eq_some]
  constructor
  · rintro ⟨foundId, foundEntry, ⟨idAt, entryAt⟩, rfl, rfl, rfl⟩
    exact ⟨rfl, idAt, entryAt⟩
  · rintro ⟨rfl, idAt, entryAt⟩
    exact ⟨id, entry, ⟨idAt, entryAt⟩, rfl, rfl, rfl⟩

/-- The entry of a node is at the place that the node tells. -/
theorem getElem?_of_mem_nodes {graph : Graph} {index : Nat} {id : EntryId} {entry : Entry}
    (member : (index, id, entry) ∈ graph.nodes) : graph.entries[index]? = some entry := by
  obtain ⟨place, node⟩ := List.mem_iff_getElem?.mp member
  obtain ⟨rfl, -, present⟩ := getElem?_nodes_eq_some.mp node
  exact present

theorem pairwise_nodes (graph : Graph) :
    graph.nodes.Pairwise fun earlier later => earlier.1 < later.1 := by
  have place {position : Nat} (bound : position < graph.nodes.length) :
      graph.nodes[position].1 = position :=
    (getElem?_nodes_eq_some.mp (List.getElem?_eq_getElem bound)).1
  rw [List.pairwise_iff_getElem]
  intro first second bound bound' before
  rw [place bound, place bound']
  exact before

/-- Where each entry has an identity, each entry is at a node of its place. -/
theorem exists_node {graph : Graph} (identified : graph.ids.length = graph.entries.length)
    {place : Nat} {entry : Entry} (found : graph.entries[place]? = some entry) :
    ∃ id, graph.nodes[place]? = some (place, id, entry) := by
  have inside : place < graph.ids.length := by
    rw [identified]
    exact (List.getElem?_eq_some_iff.mp found).1
  exact ⟨graph.ids[place], getElem?_nodes_eq_some.mpr
    ⟨rfl, List.getElem?_eq_getElem inside, found⟩⟩

theorem map_entry_nodes {graph : Graph}
    (identified : graph.ids.length = graph.entries.length) :
    (graph.nodes.map fun node => node.2.2) = graph.entries := by
  have zipped : (graph.ids.zip graph.entries).map Prod.snd = graph.entries :=
    List.map_snd_zip (Nat.le_of_eq identified.symm)
  conv => rhs; rw [← zipped]
  apply List.ext_getElem?
  intro place
  simp only [nodes, List.getElem?_map, List.getElem?_mapIdx, Option.map_map]
  rfl

theorem length_nodes {graph : Graph}
    (identified : graph.ids.length = graph.entries.length) :
    graph.nodes.length = graph.entries.length := by
  rw [← List.length_map fun node : Nat × EntryId × Entry => node.2.2,
    map_entry_nodes identified]

/-- A result is the place of an entry, so that a graph with results has nodes. -/
theorem nodes_ne_nil_of_build {header : Header} {entries : List Entry} {results : List Nat}
    {graph : Graph} (built : build header entries results = .ok graph)
    (resulting : graph.results ≠ []) : graph.nodes ≠ [] := by
  have identified := length_ids_of_build built
  obtain ⟨-, -, checked, ids, -, rfl⟩ := build_eq_ok.mp built
  obtain ⟨result, member⟩ := List.exists_mem_of_ne_nil results resulting
  have placed := checked result member
  rw [← List.length_pos_iff, length_nodes identified, List.length_pos_iff]
  rintro rfl
  cases placed

end EntryLedger.Graph
