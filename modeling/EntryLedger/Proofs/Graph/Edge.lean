import EntryLedger.Judgement.Flow
import EntryLedger.Proofs.Checks
import Mathlib.Data.List.Nodup

/-!
# Edges of a graph

A source link and a destination link both describe an edge: a passage of value
from an outlet of one entry to an inlet of another.  Each entry describes its
edges for itself.  Where all cross-checks pass, the edges that sources describe
and the edges that destinations describe are the same ones, so both lists carry
the same values.
-/

namespace EntryLedger

/-- A passage of value from an outlet of one entry to an inlet of another. -/
structure Edge where
  giver : Nat
  outlet : Nat
  taker : Nat
  inlet : Nat
  value : Value

namespace Edge

/-- The edge that a source link in a slot of its owner describes. -/
def ofSource (owner slot : Nat) (link : Link) : Edge where
  giver := link.entry
  outlet := link.position.toNat
  taker := owner
  inlet := slot
  value := link.value

def ofDestination (owner slot : Nat) (link : Link) : Edge where
  giver := owner
  outlet := slot
  taker := link.entry
  inlet := link.position.toNat
  value := link.value

end Edge

/-! ### What the cross-checks ask for -/

theorem checkValue_eq_ok {expected found : Value} :
    checkValue expected found = .ok () ↔ expected = found := by
  unfold checkValue
  split
  · rename_i different
    simp only [reduceCtorEq, false_iff]
    exact fun equal => different (congrArg Value.asset equal)
  · rename_i sameAsset
    split
    · rename_i different
      simp only [reduceCtorEq, false_iff]
      exact fun equal => different (congrArg Value.amount equal)
    · rename_i sameAmount
      simp only [true_iff]
      cases expected
      cases found
      simp_all

theorem checkBack_eq_ok {owner slot : Nat} {link back : Link} :
    checkBack owner slot link back = .ok () ↔
      back.entry = owner ∧ back.position.toNat = slot ∧ link.value = back.value := by
  unfold checkBack
  split
  · rename_i different
    simp [different]
  · rename_i sameOwner
    split
    · rename_i different
      simp [different]
    · rename_i sameSlot
      rw [checkValue_eq_ok]
      simp only [not_not] at sameOwner sameSlot
      simp [sameOwner, sameSlot]

theorem slotAt_eq_ok {links : List Link} {position : UInt64} {link : Link} :
    slotAt links position = .ok link ↔ links[position.toNat]? = some link := by
  unfold slotAt
  split
  · rename_i found slotted
    simp [slotted]
  · rename_i empty
    simp [empty]

namespace Graph

variable {graph : Graph}

theorem resolve_eq_ok {index : Nat} {entry : Entry} :
    graph.resolve index = .ok entry ↔ graph.entries[index]? = some entry := by
  unfold resolve entry?
  split
  · rename_i found present
    simp [present]
  · rename_i absent
    simp [absent]

/-- A source passes when the entry that it names sends the value back to it. -/
theorem crossSource_eq_ok {owner slot : Nat} {link : Link} :
    graph.crossSource owner slot link = .ok () ↔
      ∃ giver back, graph.entries[link.entry]? = some giver ∧
        giver.destinations[link.position.toNat]? = some back ∧
        back.entry = owner ∧ back.position.toNat = slot ∧ link.value = back.value := by
  simp only [crossSource, Checks.bind_eq_ok, resolve_eq_ok, slotAt_eq_ok, checkBack_eq_ok]
  constructor
  · rintro ⟨giver, present, back, slotted, backs⟩
    exact ⟨giver, back, present, slotted, backs⟩
  · rintro ⟨giver, back, present, slotted, backs⟩
    exact ⟨giver, present, back, slotted, backs⟩

/-- A destination passes when the entry that it names expects the value from
it. -/
theorem crossDestination_eq_ok {owner slot : Nat} {link : Link} :
    graph.crossDestination owner slot link = .ok () ↔
      ∃ taker back, graph.entries[link.entry]? = some taker ∧
        taker.sources[link.position.toNat]? = some back ∧
        back.entry = owner ∧ back.position.toNat = slot ∧ link.value = back.value := by
  simp only [crossDestination, Checks.bind_eq_ok, resolve_eq_ok, slotAt_eq_ok,
    checkBack_eq_ok]
  constructor
  · rintro ⟨taker, present, back, slotted, backs⟩
    exact ⟨taker, back, present, slotted, backs⟩
  · rintro ⟨taker, back, present, slotted, backs⟩
    exact ⟨taker, present, back, slotted, backs⟩

/-- Every source and every destination of every entry passes its
cross-check. -/
structure CrossChecked (graph : Graph) : Prop where
  sources : ∀ {owner entry slot link}, graph.entries[owner]? = some entry →
    entry.sources[slot]? = some link → graph.crossSource owner slot link = .ok ()
  destinations : ∀ {owner entry slot link}, graph.entries[owner]? = some entry →
    entry.destinations[slot]? = some link →
      graph.crossDestination owner slot link = .ok ()

/-! ### Lists of edges -/

/-- The edges that some links of each entry describe. -/
def edges (graph : Graph) (links : Entry → List Link)
    (edge : Nat → Nat → Link → Edge) : List Edge :=
  (graph.entries.mapIdx fun owner entry => (links entry).mapIdx (edge owner)).flatten

def inflows (graph : Graph) : List Edge :=
  graph.edges Entry.sources Edge.ofSource

def outflows (graph : Graph) : List Edge :=
  graph.edges Entry.destinations Edge.ofDestination

theorem mem_edges {links : Entry → List Link} {edge : Nat → Nat → Link → Edge}
    {found : Edge} :
    found ∈ graph.edges links edge ↔
      ∃ owner entry slot link, graph.entries[owner]? = some entry ∧
        (links entry)[slot]? = some link ∧ edge owner slot link = found := by
  unfold edges
  rw [List.mem_flatten]
  simp only [List.mem_iff_getElem?, List.getElem?_mapIdx, Option.map_eq_some_iff]
  constructor
  · rintro ⟨_, ⟨owner, entry, present, rfl⟩, slot, edgeAt⟩
    rw [List.getElem?_mapIdx, Option.map_eq_some_iff] at edgeAt
    obtain ⟨link, slotted, described⟩ := edgeAt
    exact ⟨owner, entry, slot, link, present, slotted, described⟩
  · rintro ⟨owner, entry, slot, link, present, slotted, described⟩
    refine ⟨_, ⟨owner, entry, present, rfl⟩, slot, ?_⟩
    rw [List.getElem?_mapIdx, slotted, Option.map_some, described]

/-- Edges that tell their owner and slot are listed once each. -/
theorem nodup_edges {links : Entry → List Link} {edge : Nat → Nat → Link → Edge}
    (told : ∀ {owner slot link owner' slot' link'},
      edge owner slot link = edge owner' slot' link' → owner = owner' ∧ slot = slot') :
    (graph.edges links edge).Nodup := by
  unfold edges
  rw [List.nodup_flatten]
  -- Edges of one owner differ in their slots, edges of two owners in the owner.
  constructor
  · intro described member
    obtain ⟨owner, inside, rfl⟩ := List.mem_mapIdx.mp member
    rw [List.nodup_iff_getElem?_ne_getElem?]
    intro first second before bound equal
    rw [List.length_mapIdx] at bound
    rw [List.getElem?_mapIdx, List.getElem?_mapIdx, List.getElem?_eq_getElem bound,
      List.getElem?_eq_getElem (Nat.lt_trans before bound), Option.map_some,
      Option.map_some, Option.some.injEq] at equal
    exact Nat.ne_of_lt before (told equal).2
  · rw [List.pairwise_iff_getElem]
    intro first second firstBound secondBound before found inFirst inSecond
    rw [List.getElem_mapIdx, List.mem_mapIdx] at inFirst inSecond
    obtain ⟨slot, inside, rfl⟩ := inFirst
    obtain ⟨slot', inside', equal⟩ := inSecond
    exact Nat.ne_of_gt before (told equal).1

/-- The values on edges are the values of the links that describe them. -/
theorem map_value_edges {links : Entry → List Link} {edge : Nat → Nat → Link → Edge}
    (kept : ∀ owner slot link, (edge owner slot link).value = link.value) :
    (graph.edges links edge).map Edge.value =
      graph.entries.flatMap fun entry => (links entry).map Link.value := by
  have values (owner : Nat) (entry : Entry) :
      ((links entry).mapIdx (edge owner)).map Edge.value = (links entry).map Link.value := by
    apply List.ext_getElem?
    intro slot
    simp only [List.getElem?_map, List.getElem?_mapIdx, Option.map_map]
    congr 1
    funext link
    exact kept owner slot link
  unfold edges
  rw [List.map_flatten, List.flatMap_def]
  congr 1
  apply List.ext_getElem?
  intro owner
  simp only [List.getElem?_map, List.getElem?_mapIdx, Option.map_map]
  congr 1
  funext entry
  exact values owner entry

/-! ### Both ends describe the same edges -/

/-- Where the cross-checks pass, sources and destinations describe the same
edges. -/
theorem mem_inflows_iff (checked : graph.CrossChecked) {edge : Edge} :
    edge ∈ graph.inflows ↔ edge ∈ graph.outflows := by
  simp only [inflows, outflows, mem_edges]
  constructor
  · rintro ⟨owner, entry, slot, link, present, slotted, rfl⟩
    obtain ⟨giver, back, giverAt, backAt, sameOwner, sameSlot, sameValue⟩ :=
      crossSource_eq_ok.mp (checked.sources present slotted)
    refine ⟨link.entry, giver, link.position.toNat, back, giverAt, backAt, ?_⟩
    simp [Edge.ofSource, Edge.ofDestination, sameOwner, sameSlot, sameValue]
  · rintro ⟨owner, entry, slot, link, present, slotted, rfl⟩
    obtain ⟨taker, back, takerAt, backAt, sameOwner, sameSlot, sameValue⟩ :=
      crossDestination_eq_ok.mp (checked.destinations present slotted)
    refine ⟨link.entry, taker, link.position.toNat, back, takerAt, backAt, ?_⟩
    simp [Edge.ofSource, Edge.ofDestination, sameOwner, sameSlot, sameValue]

/-- Where the cross-checks pass, the edges of both lists correspond one to
one. -/
theorem inflows_perm_outflows (checked : graph.CrossChecked) :
    graph.inflows.Perm graph.outflows := by
  have inflowsOnce : graph.inflows.Nodup := by
    apply nodup_edges
    intro owner slot link owner' slot' link' equal
    exact ⟨congrArg Edge.taker equal, congrArg Edge.inlet equal⟩
  have outflowsOnce : graph.outflows.Nodup := by
    apply nodup_edges
    intro owner slot link owner' slot' link' equal
    exact ⟨congrArg Edge.giver equal, congrArg Edge.outlet equal⟩
  rw [List.perm_ext_iff_of_nodup inflowsOnce outflowsOnce]
  intro edge
  exact mem_inflows_iff checked

/-- Where the cross-checks pass, the sources of all entries carry the same
values as their destinations, each as often. -/
theorem source_values_perm (checked : graph.CrossChecked) :
    (graph.entries.flatMap fun entry => entry.sources.map Link.value).Perm
      (graph.entries.flatMap fun entry => entry.destinations.map Link.value) := by
  have perm := (inflows_perm_outflows checked).map Edge.value
  rwa [inflows, outflows, map_value_edges (fun _ _ _ => rfl),
    map_value_edges (fun _ _ _ => rfl)] at perm

end Graph

end EntryLedger
