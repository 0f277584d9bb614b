import EntryLedger.Proofs.Graph.Identity
import EntryLedger.Proofs.Graph.Layout

/-!
# What identities commit to

An identity is the hash of a layout in which the hash of another layout is
wrapped.  As long as no two of the strings that are hashed for two graphs
collide, entries with equal identities agree about everything that was laid out,
and transactions with equal identities agree about their headers and results.
-/

namespace EntryLedger

/-- No two distinct strings of a list have one hash. -/
def CollisionFree (strings : List Bytes) : Prop :=
  ∀ first ∈ strings, ∀ second ∈ strings, Digest.hash first = Digest.hash second →
    first = second

namespace Entry

/-- The strings that are hashed for the identity of a layout. -/
def preimagesOfLayout (kind : EntryKind) (layout : Bytes) : List Bytes :=
  [layout, wrapLayout kind (Digest.hash layout)]

/-- The strings that are hashed for the identity of an entry. -/
def preimages (idAt : Nat → Option EntryId) (entry : Entry) : List Bytes :=
  (entry.layout? idAt).elim [] (preimagesOfLayout entry.kind)

theorem name_inj {first second : EntryKind}
    (equal : Bytes.ofString first.name = Bytes.ofString second.name) : first = second := by
  cases first <;> cases second <;> first | rfl | (revert equal; decide)

theorem wrapLayout_inj {kind kind' : EntryKind} {body body' : Digest}
    (equal : wrapLayout kind body = wrapLayout kind' body') : kind = kind' ∧ body = body' := by
  simp only [wrapLayout, List.append_assoc] at equal
  have equal := List.append_cancel_left equal
  obtain ⟨names, bodies⟩ := Layout.field_append_inj (by simp) equal
  exact ⟨name_inj names, Digest.ext bodies⟩

variable {strings : List Bytes}

theorem idOfLayout_inj (free : CollisionFree strings) {kind kind' : EntryKind}
    {layout layout' : Bytes} (hashed : preimagesOfLayout kind layout ⊆ strings)
    (hashed' : preimagesOfLayout kind' layout' ⊆ strings)
    (equal : idOfLayout kind layout = idOfLayout kind' layout') :
    kind = kind' ∧ layout = layout' := by
  simp only [preimagesOfLayout, List.cons_subset] at hashed hashed'
  obtain ⟨kinds, bodies⟩ := wrapLayout_inj (free _ hashed.2.1 _ hashed'.2.1 equal)
  exact ⟨kinds, free _ hashed.1 _ hashed'.1 bodies⟩

/-- Entries with one identity agree about all that it commits to. -/
theorem agrees_of_id? (free : CollisionFree strings) {idAt idAt' : Nat → Option EntryId}
    {left right : Entry} {id : EntryId}
    (few : left.sources.length < 2 ^ 64) (few' : right.sources.length < 2 ^ 64)
    (hashed : left.preimages idAt ⊆ strings) (hashed' : right.preimages idAt' ⊆ strings)
    (found : left.id? idAt = some id) (found' : right.id? idAt' = some id) :
    left.Agrees idAt idAt' right := by
  obtain ⟨layout, laid, identity⟩ := Option.map_eq_some_iff.mp found
  obtain ⟨layout', laid', identity'⟩ := Option.map_eq_some_iff.mp found'
  rw [preimages, laid] at hashed
  rw [preimages, laid'] at hashed'
  obtain ⟨kinds, rfl⟩ := idOfLayout_inj free hashed hashed' (identity.trans identity'.symm)
  exact agrees_of_layout? few few' kinds laid laid'

end Entry

theorem Digest.flatMap_bytes_inj {first second : List Digest}
    (equal : first.flatMap Digest.bytes = second.flatMap Digest.bytes) : first = second := by
  induction first generalizing second with
  | nil =>
      cases second with
      | nil => rfl
      | cons digest second =>
          have lengths := congrArg List.length equal
          simp at lengths
          omega
  | cons digest first ih =>
      cases second with
      | nil =>
          have lengths := congrArg List.length equal
          simp at lengths
      | cons digest' second =>
          obtain ⟨rfl, rest⟩ := Digest.bytes_append_inj equal
          rw [ih rest]

/-- Headers that agree about everything but the encoded size. -/
structure Header.Agrees (left right : Header) : Prop where
  version : left.version = right.version
  timeRange : left.timeRange = right.timeRange
  fee : left.fee = right.fee

namespace Graph

/-- The strings that are hashed for the identities of a graph. -/
def preimages (graph : Graph) : List Bytes :=
  graph.entries.flatMap (Entry.preimages graph.idAt?) ++
    [headerLayout graph.header (graph.results.filterMap graph.idAt?)]

theorem headerLayout_inj {left right : Header} {ids ids' : List EntryId}
    (equal : headerLayout left ids = headerLayout right ids') :
    left.Agrees right ∧ ids = ids' := by
  simp only [headerLayout, List.append_assoc] at equal
  have equal := List.append_cancel_left equal
  obtain ⟨versions, equal⟩ := Layout.word_append_inj equal
  obtain ⟨starts, equal⟩ := Layout.word_append_inj equal
  obtain ⟨ends, equal⟩ := Layout.word_append_inj equal
  obtain ⟨fees, equal⟩ := Layout.word_append_inj equal
  obtain ⟨-, equal⟩ := Layout.word_append_inj equal
  have ranges : left.timeRange = right.timeRange := by
    cases leftRange : left.timeRange
    cases rightRange : right.timeRange
    simp only [leftRange, rightRange] at starts ends
    rw [starts, ends]
  exact ⟨⟨versions, ranges, fees⟩, Digest.flatMap_bytes_inj equal⟩

section Built

variable {header header' : Header} {entries entries' : List Entry} {results results' : List Nat}
  {graph graph' : Graph}

theorem results_of_build (built : build header entries results = .ok graph) :
    graph.results = results := by
  obtain ⟨-, -, -, ids, -, rfl⟩ := build_eq_ok.mp built
  rfl

theorem id_of_build (built : build header entries results = .ok graph) :
    graph.id =
      Digest.hash (headerLayout graph.header (graph.results.filterMap graph.idAt?)) := by
  obtain ⟨-, -, -, ids, -, rfl⟩ := build_eq_ok.mp built
  rfl

theorem isSome_idAt?_of_build (built : build header entries results = .ok graph)
    {place : Nat} {entry : Entry} (entryAt : entries[place]? = some entry) :
    ∃ id, graph.idAt? place = some id := by
  have inside : place < graph.ids.length := by
    rw [length_ids_of_build built, entries_of_build built]
    exact (List.getElem?_eq_some_iff.mp entryAt).1
  exact ⟨graph.ids[place], List.getElem?_eq_getElem inside⟩

/-! ### Agreeing graphs have the same identities -/

theorem idsFrom_congr (known : List EntryId)
    (agree : List.Forall₂ (fun left right => ∀ idAt, Entry.Agrees idAt idAt left right)
      entries entries') : idsFrom known entries = idsFrom known entries' := by
  induction agree generalizing known with
  | nil => rfl
  | cons first _ ih =>
      rw [idsFrom, idsFrom, (first (known[·]?)).id?_eq]
      split
      · exact ih _
      · rfl

theorem identities_eq_of_agrees (built : build header entries results = .ok graph)
    (built' : build header' entries' results = .ok graph') (headers : header.Agrees header')
    (agree : List.Forall₂ (fun left right => ∀ idAt, Entry.Agrees idAt idAt left right)
      entries entries') : graph.ids = graph'.ids ∧ graph.id = graph'.id := by
  obtain ⟨-, -, -, ids, found, rfl⟩ := build_eq_ok.mp built
  obtain ⟨-, -, -, ids', found', rfl⟩ := build_eq_ok.mp built'
  rw [idsFrom_congr [] agree] at found
  obtain rfl := Option.some.inj (found.symm.trans found')
  refine ⟨rfl, ?_⟩
  simp only [headerLayout, headers.version, headers.timeRange, headers.fee]

/-! ### Graphs with the same identities agree -/

variable {strings : List Bytes}

theorem header_of_id_eq (free : CollisionFree strings)
    (built : build header entries results = .ok graph)
    (built' : build header' entries' results' = .ok graph')
    (hashed : graph.preimages ⊆ strings) (hashed' : graph'.preimages ⊆ strings)
    (same : graph.id = graph'.id) :
    header.Agrees header' ∧
      results.filterMap graph.idAt? = results'.filterMap graph'.idAt? := by
  rw [id_of_build built, id_of_build built'] at same
  have equal := free _ (hashed (List.mem_append_right _ (List.mem_singleton_self _)))
    _ (hashed' (List.mem_append_right _ (List.mem_singleton_self _))) same
  have agrees := headerLayout_inj equal
  rwa [header_of_build built, header_of_build built', results_of_build built,
    results_of_build built'] at agrees

theorem agrees_of_idAt?_eq (free : CollisionFree strings)
    (built : build header entries results = .ok graph)
    (built' : build header' entries' results' = .ok graph')
    (hashed : graph.preimages ⊆ strings) (hashed' : graph'.preimages ⊆ strings)
    {place place' : Nat} {left right : Entry} (entryAt : entries[place]? = some left)
    (entryAt' : entries'[place']? = some right) (few : left.sources.length < 2 ^ 64)
    (few' : right.sources.length < 2 ^ 64) (same : graph.idAt? place = graph'.idAt? place') :
    left.Agrees graph.idAt? graph'.idAt? right := by
  obtain ⟨id, found⟩ := isSome_idAt?_of_build built entryAt
  have found' : graph'.idAt? place' = some id := same ▸ found
  rw [idAt?_of_build built entryAt] at found
  rw [idAt?_of_build built' entryAt'] at found'
  have inside {graph : Graph} {entry : Entry} (member : entry ∈ graph.entries) :
      entry.preimages graph.idAt? ⊆ graph.preimages := fun string laid =>
    List.mem_append_left _ (List.mem_flatMap.mpr ⟨entry, member, laid⟩)
  have member : left ∈ graph.entries := by
    rw [entries_of_build built]
    exact List.mem_of_getElem? entryAt
  have member' : right ∈ graph'.entries := by
    rw [entries_of_build built']
    exact List.mem_of_getElem? entryAt'
  exact Entry.agrees_of_id? free few few' (List.Subset.trans (inside member) hashed)
    (List.Subset.trans (inside member') hashed') found found'

end Built

end Graph

end EntryLedger
