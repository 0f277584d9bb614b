import EntryLedger.Judgement.Walk
import EntryLedger.Proofs.Graph.Built
import EntryLedger.Proofs.Judgement.Balance

/-!
# What a walk has checked

A walk that reaches its end has examined every node with the tally that the
nodes before it left.  What one examination checks and adds to the tally is
said once for each kind of entry; facts about whole walks follow by induction
over the visits.
-/

namespace EntryLedger

theorem requireDestination_eq_ok {destination : Option Link} {link : Link} :
    requireDestination destination = .ok link ↔ destination = some link := by
  cases destination with
  | none => simp [requireDestination]
  | some found => simp [requireDestination]

namespace Graph

variable {graph : Graph} {view : LedgerView} {native : AssetId}

/-- A spend that passes uses an output that no earlier one uses and that the
ledger records with the value that the spend passes on. -/
theorem checkSpend_eq_ok {tally next : Tally} {index : Nat} {spend : Spend} :
    graph.checkSpend view tally index spend = .ok next ↔
      ∃ link, spend.destination = some link ∧ spend.spentOutput ∉ tally.spent ∧
        view.output? spend.spentOutput = some link.value ∧
        graph.crossDestination index 0 link = .ok () ∧
        { tally with spent := spend.spentOutput :: tally.spent } = next := by
  simp only [checkSpend, Checks.bind_eq_ok, requireDestination_eq_ok]
  refine exists_congr fun link => and_congr_right fun _ => ?_
  by_cases used : spend.spentOutput ∈ tally.spent
  · simp [used]
  · cases recorded : view.output? spend.spentOutput with
    | none => simp [used]
    | some value => simp [used, Unique.exists_iff, checkValue_eq_ok]

/-- An issuance that passes has a definition of the issued asset, from the
transaction or else from the ledger, and passes on the value that it issues. -/
theorem checkIssuance_eq_ok {tally next : Tally} {index : Nat} {issuance : Issuance} :
    graph.checkIssuance view tally index issuance = .ok next ↔
      ∃ link definition, issuance.destination = some link ∧
        issuance.definition.or (view.definition? issuance.value.asset) = some definition ∧
        definition.assetId = issuance.value.asset ∧ issuance.value = link.value ∧
        graph.crossDestination index 0 link = .ok () ∧
        { tally with definitions := (index, definition) :: tally.definitions } = next := by
  simp only [checkIssuance, Checks.bind_eq_ok, requireDestination_eq_ok]
  refine exists_congr fun link => ?_
  cases defined : issuance.definition.or (view.definition? issuance.value.asset) with
  | none => simp
  | some definition =>
      by_cases same : definition.assetId = issuance.value.asset
      · simp [same, Unique.exists_iff, checkValue_eq_ok]
      · simp [same]

/-- What passing an examination says about an entry of each kind, and what the
tally learns from it. -/
inductive Learns (graph : Graph) (view : LedgerView) (native : AssetId) (index : Nat)
    (before : Tally) : Entry → Tally → Prop
  | output (body : Output) : Learns graph view native index before (.output body) before
  | retirement (body : Retirement) :
      Learns graph view native index before (.retirement body) before
  | coinbase {body : Coinbase} {link : Link} (destined : body.destination = some link) :
      Learns graph view native index before (.coinbase body) before
  | mux {body : Mux} {residual : Int}
      (balanced : graph.balanceMux native index body before.residual = .ok residual) :
      Learns graph view native index before (.mux body)
        { before with residual := residual, lastMux := graph.idAt? index }
  | spend {body : Spend} {link : Link} (destined : body.destination = some link)
      (unused : body.spentOutput ∉ before.spent)
      (recorded : view.output? body.spentOutput = some link.value) :
      Learns graph view native index before (.spend body)
        { before with spent := body.spentOutput :: before.spent }
  | issuance {body : Issuance} {link : Link} {definition : Definition}
      (destined : body.destination = some link)
      (supplied : body.definition.or (view.definition? body.value.asset) = some definition)
      (defined : definition.assetId = body.value.asset) (same : body.value = link.value) :
      Learns graph view native index before (.issuance body)
        { before with definitions := (index, definition) :: before.definitions }

theorem learns_of_examine {before after : Tally} {index : Nat} {entry : Entry}
    (examined : graph.examine view native before index entry = .ok after) :
    graph.Learns view native index before entry after := by
  cases entry with
  | output body =>
      simp only [examine, Checks.bind_eq_ok, Checks.pure_eq_ok, Except.ok.injEq] at examined
      obtain ⟨_, -, rfl⟩ := examined
      exact .output body
  | retirement body =>
      simp only [examine, Checks.bind_eq_ok, Checks.pure_eq_ok, Except.ok.injEq] at examined
      obtain ⟨_, -, rfl⟩ := examined
      exact .retirement body
  | mux body =>
      simp only [examine, Checks.bind_eq_ok, Checks.pure_eq_ok, Except.ok.injEq] at examined
      obtain ⟨residual, balanced, rfl⟩ := examined
      exact .mux balanced
  | spend body =>
      obtain ⟨link, destined, unused, recorded, -, rfl⟩ := checkSpend_eq_ok.mp examined
      exact .spend destined unused recorded
  | issuance body =>
      obtain ⟨link, definition, destined, supplied, defined, same, -, rfl⟩ :=
        checkIssuance_eq_ok.mp examined
      exact .issuance destined supplied defined same
  | coinbase body =>
      simp only [examine, Checks.bind_eq_ok, requireDestination_eq_ok, Checks.pure_eq_ok,
        Except.ok.injEq] at examined
      obtain ⟨link, destined, _, -, rfl⟩ := examined
      exact .coinbase destined

/-- Whatever its kind, an entry that passes has had all its links
cross-checked. -/
theorem crossed_of_examine {before after : Tally} {index : Nat} {entry : Entry}
    (examined : graph.examine view native before index entry = .ok after) :
    (∀ slot link, entry.sources[slot]? = some link →
        graph.crossSource index slot link = .ok ()) ∧
      ∀ slot link, entry.destinations[slot]? = some link →
        graph.crossDestination index slot link = .ok () := by
  -- All kinds but the mux have at most one link, in slot zero.
  have single {links : List Link} {check : Nat → Link → Except Cause Unit} {link : Link}
      (only : links = [link]) (checked : check 0 link = .ok ()) :
      ∀ slot found, links[slot]? = some found → check slot found = .ok () := by
    intro slot found slotted
    subst only
    cases slot with
    | zero =>
        obtain rfl : link = found := by simpa using slotted
        exact checked
    | succ slot => simp at slotted
  cases entry with
  | output body =>
      simp only [examine, Checks.bind_eq_ok] at examined
      obtain ⟨_, crossed, -⟩ := examined
      exact ⟨single rfl crossed, by simp [Entry.destinations]⟩
  | retirement body =>
      simp only [examine, Checks.bind_eq_ok] at examined
      obtain ⟨_, crossed, -⟩ := examined
      exact ⟨single rfl crossed, by simp [Entry.destinations]⟩
  | mux body =>
      simp only [examine, Checks.bind_eq_ok] at examined
      obtain ⟨_, balanced, -⟩ := examined
      obtain ⟨sources, destinations, -⟩ := balanceMux_eq_ok balanced
      exact ⟨sources, destinations⟩
  | spend body =>
      obtain ⟨link, destined, -, -, crossed, -⟩ := checkSpend_eq_ok.mp examined
      exact ⟨by simp [Entry.sources],
        single (by simp [Entry.destinations, destined]) crossed⟩
  | issuance body =>
      obtain ⟨link, _, destined, -, -, -, crossed, -⟩ := checkIssuance_eq_ok.mp examined
      exact ⟨by simp [Entry.sources],
        single (by simp [Entry.destinations, destined]) crossed⟩
  | coinbase body =>
      simp only [examine, Checks.bind_eq_ok, requireDestination_eq_ok] at examined
      obtain ⟨link, destined, _, crossed, -⟩ := examined
      exact ⟨by simp [Entry.sources],
        single (by simp [Entry.destinations, destined]) crossed⟩

/-- The nodes are examined one after the other, each with the tally that the
ones before it left. -/
inductive Visits (graph : Graph) (view : LedgerView) (native : AssetId) :
    List (Nat × EntryId × Entry) → Tally → Tally → Prop
  | done (tally : Tally) : Visits graph view native [] tally tally
  | visit {index : Nat} {id : EntryId} {entry : Entry}
      {nodes : List (Nat × EntryId × Entry)} {before middle after : Tally}
      (examined : graph.examine view native before index entry = .ok middle)
      (rest : Visits graph view native nodes middle after) :
      Visits graph view native ((index, id, entry) :: nodes) before after

/-- A walk that reaches its end visits all its nodes. -/
theorem visits_of_walk {nodes : List (Nat × EntryId × Entry)} {meter walked : Meter}
    {before after : Tally}
    (finished : graph.walk view native nodes meter before = .ok (walked, after)) :
    graph.Visits view native nodes before after := by
  induction nodes generalizing meter before with
  | nil =>
      obtain rfl : before = after := congrArg Prod.snd (Except.ok.inj finished)
      exact .done before
  | cons node nodes ih =>
      obtain ⟨index, id, entry⟩ := node
      rw [walk] at finished
      split at finished
      · cases finished
      · split at finished
        · cases finished
        · rename_i examined
          exact .visit examined (ih finished)

/-- Every visited node passes with some tally. -/
theorem Visits.exists_examine {nodes : List (Nat × EntryId × Entry)} {before after : Tally}
    (visits : graph.Visits view native nodes before after)
    {index : Nat} {id : EntryId} {entry : Entry} (member : (index, id, entry) ∈ nodes) :
    ∃ earlier later, graph.examine view native earlier index entry = .ok later := by
  induction visits with
  | done => simp at member
  | visit examined rest ih =>
      rcases List.mem_cons.mp member with equal | later
      · cases equal
        exact ⟨_, _, examined⟩
      · exact ih later

/-- What the muxes leave fits the word throughout a walk. -/
theorem Visits.fits_residual {nodes : List (Nat × EntryId × Entry)} {before after : Tally}
    (visits : graph.Visits view native nodes before after)
    (fits : Number.fits before.residual = true) : Number.fits after.residual = true := by
  induction visits with
  | done => exact fits
  | visit examined rest ih =>
      apply ih
      cases learns_of_examine examined with
      | mux balanced => exact fits_balanceMux fits balanced
      | output body => exact fits
      | retirement body => exact fits
      | coinbase destined => exact fits
      | spend destined unused recorded => exact fits
      | issuance destined supplied defined same => exact fits

/-- Only muxes leave anything. -/
theorem Visits.residual_eq {nodes : List (Nat × EntryId × Entry)} {before after : Tally}
    (visits : graph.Visits view native nodes before after)
    (muxless : ∀ node ∈ nodes, ∀ body, node.2.2 ≠ .mux body) :
    after.residual = before.residual := by
  induction visits with
  | done => rfl
  | visit examined rest ih =>
      obtain ⟨here, later⟩ := List.forall_mem_cons.mp muxless
      rw [ih later]
      cases learns_of_examine examined with
      | mux balanced => exact (here _ rfl).elim
      | output | retirement | coinbase | spend | issuance => rfl

/-- Visiting some nodes in front of others is visiting the former and then the latter. -/
theorem visits_append {front back : List (Nat × EntryId × Entry)} {before after : Tally} :
    graph.Visits view native (front ++ back) before after ↔
      ∃ middle, graph.Visits view native front before middle ∧
        graph.Visits view native back middle after := by
  induction front generalizing before with
  | nil =>
      constructor
      · exact fun visits => ⟨before, .done before, visits⟩
      · rintro ⟨middle, visits, rest⟩
        cases visits
        exact rest
  | cons node front ih =>
      constructor
      · intro visits
        cases visits with
        | visit examined rest =>
            obtain ⟨middle, visits, rest⟩ := ih.mp rest
            exact ⟨middle, .visit examined visits, rest⟩
      · rintro ⟨middle, visits, rest⟩
        cases visits with
        | visit examined visits => exact .visit examined (ih.mpr ⟨middle, visits, rest⟩)

/-- A graph all of whose nodes are visited passes every cross-check. -/
theorem Visits.crossChecked {before after : Tally}
    (visits : graph.Visits view native graph.nodes before after)
    (identified : graph.ids.length = graph.entries.length) : graph.CrossChecked := by
  have crossed {owner : Nat} {entry : Entry} (present : graph.entries[owner]? = some entry) :=
    let ⟨_, node⟩ := exists_node identified present
    let ⟨_, _, examined⟩ := visits.exists_examine (List.mem_of_getElem? node)
    crossed_of_examine examined
  exact {
    sources := fun present slotted => (crossed present).1 _ _ slotted
    destinations := fun present slotted => (crossed present).2 _ _ slotted }

end Graph

end EntryLedger
