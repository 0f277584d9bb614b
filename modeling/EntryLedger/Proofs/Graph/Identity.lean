import EntryLedger.Proofs.Graph.Built

/-!
# Identities in built graphs

An identity is computed from the identities of earlier entries.  As sources
only point to earlier entries, it is the same whether one looks identities up
among those known at that point or among those of the whole graph.
-/

namespace EntryLedger

namespace Entry

theorem linksLayout?_congr {idAt idAt' : Nat → Option EntryId} {links : List Link}
    (agree : ∀ link ∈ links, idAt link.entry = idAt' link.entry) :
    linksLayout? idAt links = linksLayout? idAt' links := by
  induction links with
  | nil => rfl
  | cons link links ih =>
      have rest := ih fun other member => agree other (List.mem_cons_of_mem _ member)
      simp only [linksLayout?, linkLayout?, agree link (List.mem_cons_self ..), rest]

/-- Only the identities of the sources matter for the identity of an entry. -/
theorem id?_congr {idAt idAt' : Nat → Option EntryId} {entry : Entry}
    (agree : ∀ link ∈ entry.sources, idAt link.entry = idAt' link.entry) :
    entry.id? idAt = entry.id? idAt' := by
  unfold id?
  congr 1
  cases entry with
  | issuance body => rfl
  | spend body => rfl
  | coinbase body => rfl
  | output body =>
      have source := agree body.source (List.mem_singleton_self _)
      simp only [layout?, source]
  | retirement body =>
      have source := agree body.source (List.mem_singleton_self _)
      simp only [layout?, linkLayout?, source]
  | mux body =>
      have sources : linksLayout? idAt body.sources = linksLayout? idAt' body.sources :=
        linksLayout?_congr agree
      simp only [layout?, sources]

theorem exists_linksLayout? {idAt : Nat → Option EntryId} {links : List Link}
    (known : ∀ link ∈ links, ∃ id, idAt link.entry = some id) :
    ∃ layout, linksLayout? idAt links = some layout := by
  induction links with
  | nil => exact ⟨[], rfl⟩
  | cons link links ih =>
      obtain ⟨id, found⟩ := known link (List.mem_cons_self ..)
      obtain ⟨rest, laid⟩ := ih fun other member => known other (List.mem_cons_of_mem _ member)
      exact ⟨_, by simp only [linksLayout?, linkLayout?, found, laid]; rfl⟩

/-- An entry has an identity as soon as its sources have. -/
theorem exists_id? {idAt : Nat → Option EntryId} {entry : Entry}
    (known : ∀ link ∈ entry.sources, ∃ id, idAt link.entry = some id) :
    ∃ id, entry.id? idAt = some id := by
  suffices laid : ∃ layout, entry.layout? idAt = some layout by
    obtain ⟨layout, laid⟩ := laid
    exact ⟨_, by rw [id?, laid, Option.map_some]⟩
  cases entry with
  | issuance body => exact ⟨_, rfl⟩
  | spend body => exact ⟨_, rfl⟩
  | coinbase body => exact ⟨_, rfl⟩
  | output body =>
      obtain ⟨id, found⟩ := known body.source (List.mem_singleton_self _)
      exact ⟨_, by rw [layout?, found, Option.map_some]⟩
  | retirement body =>
      obtain ⟨id, found⟩ := known body.source (List.mem_singleton_self _)
      exact ⟨_, by simp only [layout?, linkLayout?, found]; rfl⟩
  | mux body =>
      obtain ⟨sources, laid⟩ : ∃ layout, linksLayout? idAt body.sources = some layout :=
        exists_linksLayout? known
      exact ⟨_, by simp only [layout?, laid]; rfl⟩

end Entry

namespace Graph

theorem prefix_of_idsFrom {known ids : List EntryId} {entries : List Entry}
    (found : idsFrom known entries = some ids) : known <+: ids := by
  induction entries generalizing known with
  | nil =>
      obtain rfl : known = ids := Option.some.inj found
      exact List.prefix_rfl
  | cons entry rest ih =>
      rw [idsFrom] at found
      split at found
      · exact (List.prefix_append _ _).trans (ih found)
      · cases found

/-- Each identity that is found is the one of its entry, as computed from the
identities before it. -/
theorem getElem?_idsFrom {known ids : List EntryId} {entries : List Entry}
    (found : idsFrom known entries = some ids) {place : Nat} {entry : Entry}
    (entryAt : entries[place]? = some entry) :
    ids[known.length + place]? = entry.id? ((ids.take (known.length + place))[·]?) := by
  induction entries generalizing known place with
  | nil => simp at entryAt
  | cons head rest ih =>
      rw [idsFrom] at found
      split at found
      · rename_i id headId
        have earlier := prefix_of_idsFrom found
        cases place with
        | zero =>
            -- What was known at the head is what comes before its place at the end.
            obtain rfl : head = entry := by simpa using entryAt
            have knownPrefix : ids.take known.length = known :=
              (List.prefix_iff_eq_take.mp ((List.prefix_append known [id]).trans earlier)).symm
            obtain ⟨later, rfl⟩ := earlier
            rw [Nat.add_zero, knownPrefix, headId]
            simp
        | succ place =>
            have later := ih found (by simpa using entryAt)
            have shifted : (known ++ [id]).length + place = known.length + (place + 1) := by
              simp only [List.length_append, List.length_cons, List.length_nil]
              omega
            rwa [shifted] at later
      · cases found

/-- Sources of a checked entry point to earlier entries. -/
theorem source_lt_of_checkEntry {entries : List Entry} {owner : Nat} {entry : Entry}
    (checked : checkEntry entries owner entry = .ok ()) {link : Link}
    (member : link ∈ entry.sources) : link.entry < owner := by
  unfold checkEntry at checked
  split at checked
  · simp at checked
  · simp only [Checks.bind_eq_ok] at checked
    obtain ⟨_, sourcesChecked, -⟩ := checked
    have sourceChecked := Checks.forM_eq_ok.mp sourcesChecked link member
    unfold checkSource at sourceChecked
    split at sourceChecked
    · cases sourceChecked
    · rename_i earlier
      omega

/-- In a built graph every identity is the one of its entry. -/
theorem idAt?_of_build {header : Header} {entries : List Entry} {results : List Nat}
    {graph : Graph} (built : build header entries results = .ok graph)
    {place : Nat} {entry : Entry} (entryAt : entries[place]? = some entry) :
    graph.idAt? place = entry.id? graph.idAt? := by
  obtain ⟨-, entriesChecked, -, ids, found, rfl⟩ := build_eq_ok.mp built
  have identity := getElem?_idsFrom found entryAt
  rw [List.length_nil, Nat.zero_add] at identity
  change ids[place]? = entry.id? (ids[·]?)
  rw [identity]
  apply Entry.id?_congr
  intro link member
  have owned : (entry, place) ∈ entries.zipIdx :=
    List.mem_zipIdx_iff_getElem?.mpr entryAt
  have earlier := source_lt_of_checkEntry (entriesChecked entry place owned) member
  exact List.getElem?_take_of_lt earlier

/-- Identities are found if sources only point to earlier entries. -/
theorem exists_idsFrom {known : List EntryId} {entries : List Entry}
    (earlier : ∀ place entry, entries[place]? = some entry → ∀ link ∈ entry.sources,
      link.entry < known.length + place) : ∃ ids, idsFrom known entries = some ids := by
  induction entries generalizing known with
  | nil => exact ⟨known, rfl⟩
  | cons head rest ih =>
      obtain ⟨id, found⟩ := head.exists_id? fun link member =>
        ⟨_, List.getElem?_eq_getElem (earlier 0 head rfl link member)⟩
      rw [idsFrom, found]
      apply ih
      intro place entry entryAt link member
      have before := earlier (place + 1) entry entryAt link member
      rw [List.length_append, List.length_singleton]
      omega

/-- Entries and results that pass their checks make a graph. -/
theorem exists_build (header : Header) {entries : List Entry} {results : List Nat}
    (few : entries.length ≤ maxEntries)
    (checked : ∀ place entry, entries[place]? = some entry →
      checkEntry entries place entry = .ok ())
    (resultsChecked : ∀ result ∈ results, checkResult entries result = .ok ()) :
    ∃ graph, build header entries results = .ok graph := by
  obtain ⟨ids, found⟩ : ∃ ids, idsFrom [] entries = some ids := by
    apply exists_idsFrom
    intro place entry entryAt link member
    rw [List.length_nil, Nat.zero_add]
    exact source_lt_of_checkEntry (checked place entry entryAt) member
  refine ⟨_, build_eq_ok.mpr ⟨few, ?_, resultsChecked, ids, found, rfl⟩⟩
  intro entry owner member
  exact checked owner entry (List.mem_zipIdx_iff_getElem?.mp member)

end Graph

end EntryLedger
