import EntryLedger.Proofs.Judgement.Defects

/-!
# Where mismatches come from

Only the examination of an entry compares references, positions and values.  A rejection
for a mismatch therefore stems from a walk that came to an entry which does not pass,
with the tally that the entries before it left.  Everything else that a judgement does
fails for other causes.
-/

namespace EntryLedger

open Checks (FailsOnly)

namespace Cause

/-- Whether a cause tells that the two ends of a link do not agree, or that the
transaction does not agree with the ledger or with itself. -/
def isMismatch : Cause → Bool
  | .mismatchedReference | .mismatchedPosition _ _ | .mismatchedValue _ _
  | .mismatchedAsset _ _ | .positionOutOfRange _ => true
  | _ => false

/-- A cause that tells of no mismatch. -/
def Plain (cause : Cause) : Prop :=
  cause.isMismatch = false

theorem plain_ofGasError (error : GasError) : (ofGasError error).Plain := by
  cases error with
  | runLimitExceeded | miscalculated | overCredit | deadlineExceeded => rfl

theorem plain_ofFault (fault : Fault) : (ofFault fault).Plain := by
  fun_cases ofFault
  · rfl
  · rfl

end Cause

def Rejection.Plain (rejection : Rejection) : Prop :=
  rejection.cause.Plain

/-- A rejection that tells of no mismatch, or a breach. -/
def Refusal.Plain (refusal : Refusal) : Prop :=
  ∀ rejection, refusal = .rejected rejection → rejection.Plain

/-! ### What surrounds the walk -/

theorem plain_header_check (header : Header) (params : Params) (blockTime : UInt64) :
    FailsOnly Cause.Plain (header.check params blockTime) := by
  refine (header.refuses_check params blockTime).mono fun cause refuses => ?_
  cases refuses with
  | version | size | time => rfl

theorem plain_checkCoinbases (setting : Setting) (inputCount : Nat)
    (nodes : List (Nat × EntryId × Entry)) :
    FailsOnly Rejection.Plain (checkCoinbases setting inputCount nodes) := by
  refine (refuses_checkCoinbases setting inputCount nodes).mono fun rejection => ?_
  rintro ⟨index, id, coinbase, member, refuses⟩
  unfold Rejection.Plain
  generalize rejection.cause = cause at refuses
  cases refuses with
  | misplaced | oversize | foreign | incomplete => rfl

theorem Balance.Refuses.plain {cause : Cause} (refuses : Balance.Refuses cause) :
    cause.Plain := by
  cases refuses with
  | overflow | noSource | unbalanced => rfl

theorem plain_checkFee (tally : Tally) (native : AssetId) (fee : UInt64) :
    FailsOnly Refusal.Plain (tally.checkFee native fee) :=
  (tally.refuses_checkFee native fee).mono fun _ refuses rejection rejected =>
    (refuses rejection rejected).plain

theorem plain_checkTemplates (native : AssetId) (nodes : List (Nat × EntryId × Entry)) :
    FailsOnly Rejection.Plain (checkTemplates native nodes) := by
  refine (refuses_checkTemplates native nodes).mono fun rejection nonStandard => ?_
  rw [Rejection.Plain, nonStandard]
  rfl

theorem Tally.plain_guard? (tally : Tally) (index : Nat) (entry : Entry) :
    FailsOnly Cause.Plain (tally.guard? index entry) := by
  fun_cases Tally.guard?
  all_goals first
    | exact .ok _
    | exact .error rfl

theorem Refusal.plain_rejected {Result : Type} {check : Except Rejection Result}
    (plain : FailsOnly Rejection.Plain check) :
    FailsOnly Refusal.Plain (check.mapError .rejected) := by
  refine .mapError fun rejection failed => ?_
  rintro _ ⟨⟩
  exact plain rejection failed

theorem Judging.plain_reject {id : EntryId} {cause : Cause} {before after : Books}
    {refusal : Refusal} (plain : cause.Plain)
    (refused : (Judging.reject id cause : Judging Unit).run before = .error refusal after) :
    refusal.Plain := by
  cases refused
  rintro _ ⟨⟩
  exact plain

theorem Judging.plain_authorise {id : EntryId} {action : Booked Unit} {before after : Books}
    {refusal : Refusal}
    (refused : (Judging.authorise id action).run before = .error refusal after) :
    refusal.Plain := by
  have unfolded : (Judging.authorise id action).run before =
      Judging.authorise id action before :=
    rfl
  rw [unfolded, Judging.authorise] at refused
  split at refused
  · cases refused
  · cases refused
    rintro _ ⟨⟩
    exact Cause.plain_ofFault _
  · cases refused
    rintro _ ⟨⟩

namespace Graph

variable {graph : Graph} {view : LedgerView} {setting : Setting} {native : AssetId}

theorem plain_openMeter : FailsOnly Rejection.Plain (graph.openMeter setting) := by
  refine .bind (.mapError (plain_header_check _ _ _)) fun _ _ => ?_
  refine .bind (plain_checkCoinbases _ _ _) fun _ _ => ?_
  split
  · exact .error rfl
  · exact .mapError fun _ _ => Cause.plain_ofGasError _

theorem plain_runGuard {tally : Tally} {index : Nat} {id : EntryId} {entry : Entry}
    {before after : Books} {refusal : Refusal}
    (refused : (graph.runGuard setting tally index id entry).run before =
      .error refusal after) : refusal.Plain := by
  unfold runGuard at refused
  split at refused
  · rename_i cause missing
    exact Judging.plain_reject (tally.plain_guard? index entry cause missing) refused
  · cases refused
  · split at refused
    · refine Judging.plain_reject ?_ refused
      rfl
    · exact Judging.plain_authorise refused

theorem plain_runGuards {tally : Tally} {nodes : List (Nat × EntryId × Entry)}
    {before after : Books} {refusal : Refusal}
    (refused : (graph.runGuards setting tally nodes).run before = .error refusal after) :
    refusal.Plain := by
  induction nodes generalizing before with
  | nil => cases refused
  | cons node nodes ih =>
      rcases Runs.bind_eq_error.mp refused with early | ⟨_, middle, -, late⟩
      · exact plain_runGuard early
      · exact ih late

/-! ### The walk -/

/-- A walk over nodes that comes to one which does not pass. -/
def Stops (graph : Graph) (view : LedgerView) (native : AssetId)
    (nodes : List (Nat × EntryId × Entry)) (before : Tally) (id : EntryId)
    (cause : Cause) : Prop :=
  ∃ front index entry back earlier, nodes = front ++ (index, id, entry) :: back ∧
    graph.Visits view native front before earlier ∧
    graph.examine view native earlier index entry = .error cause

theorem Stops.later {index : Nat} {id id' : EntryId} {entry : Entry}
    {nodes : List (Nat × EntryId × Entry)} {before middle : Tally} {cause : Cause}
    (examined : graph.examine view native before index entry = .ok middle)
    (stops : graph.Stops view native nodes middle id' cause) :
    graph.Stops view native ((index, id, entry) :: nodes) before id' cause := by
  obtain ⟨front, index', entry', back, earlier, rfl, visits, failed⟩ := stops
  exact ⟨_, index', entry', back, earlier, rfl, .visit examined visits, failed⟩

/-- All nodes are visited unless one of them does not pass. -/
theorem visits_or_stops (nodes : List (Nat × EntryId × Entry)) (before : Tally) :
    (∃ after, graph.Visits view native nodes before after) ∨
      ∃ id cause, graph.Stops view native nodes before id cause := by
  induction nodes generalizing before with
  | nil => exact .inl ⟨before, .done before⟩
  | cons node nodes ih =>
      obtain ⟨index, id, entry⟩ := node
      cases examined : graph.examine view native before index entry with
      | error cause =>
          exact .inr ⟨id, cause, [], index, entry, nodes, before, rfl, .done _, examined⟩
      | ok middle =>
          rcases ih middle with ⟨after, visits⟩ | ⟨id', cause, stops⟩
          · exact .inl ⟨after, .visit examined visits⟩
          · exact .inr ⟨id', cause, stops.later examined⟩

/-- A walk fails at a visit that cannot be paid for or at an entry that does not pass. -/
theorem gas_or_stops_of_walk {nodes : List (Nat × EntryId × Entry)} {meter : Meter}
    {before : Tally} {rejection : Rejection}
    (failed : graph.walk view native nodes meter before = .error rejection) :
    (∃ error, rejection.cause = .ofGasError error) ∨
      ∃ id, rejection.entry = some id ∧
        graph.Stops view native nodes before id rejection.cause := by
  induction nodes generalizing meter before with
  | nil => cases failed
  | cons node nodes ih =>
      obtain ⟨index, id, entry⟩ := node
      rw [walk] at failed
      split at failed
      · cases failed
        exact .inl ⟨_, rfl⟩
      · split at failed
        · rename_i cause notPassed
          cases failed
          exact .inr ⟨id, rfl, [], index, entry, nodes, before, rfl, .done _, notPassed⟩
        · rename_i examined
          rcases ih failed with unpaid | ⟨id', blamed, stops⟩
          · exact .inl unpaid
          · exact .inr ⟨id', blamed, stops.later examined⟩

/-! ### Judgements -/

/-- Whatever is refused for a mismatch, the walk came to an entry that does not pass. -/
def Spotted (graph : Graph) (view : LedgerView) (native : AssetId) (refusal : Refusal) : Prop :=
  ∀ rejection, refusal = .rejected rejection → rejection.cause.isMismatch = true →
    ∃ id, rejection.entry = some id ∧
      graph.Stops view native graph.nodes .start id rejection.cause

theorem Spotted.of_plain {refusal : Refusal} (plain : refusal.Plain) :
    graph.Spotted view native refusal := by
  rintro rejection refused mismatch
  cases mismatch.symm.trans (plain rejection refused)

theorem spotted_vet :
    FailsOnly (graph.Spotted view setting.params.nativeAsset) (graph.vet view setting) := by
  have opens {Result : Type} {check : Except Refusal Result}
      (plain : FailsOnly Refusal.Plain check) :
      FailsOnly (graph.Spotted view setting.params.nativeAsset) check :=
    plain.mono fun _ => .of_plain
  refine (opens (Refusal.plain_rejected plain_openMeter)).bind fun meter _ => ?_
  refine FailsOnly.bind (.mapError fun rejection failed => ?_) fun walked _ => ?_
  · rintro _ ⟨⟩ mismatch
    rcases gas_or_stops_of_walk failed with ⟨error, unpaid⟩ | stops
    · rw [unpaid, Cause.plain_ofGasError error] at mismatch
      cases mismatch
    · exact stops
  · refine (opens (plain_checkFee _ _ _)).bind fun _ _ => ?_
    simp only
    split
    · exact (opens (Refusal.plain_rejected (plain_checkTemplates _ _))).bind fun _ _ => .ok _
    · exact .ok _

/-- A mismatch is found at an entry that does not pass, which is blamed for it. -/
theorem stops_of_mismatch {rejection : Rejection}
    (rejected : (graph.judge view setting).outcome = .ok (.invalid rejection))
    (mismatch : rejection.cause.isMismatch = true) :
    ∃ id, rejection.entry = some id ∧
      graph.Stops view setting.params.nativeAsset graph.nodes .start id rejection.cause := by
  have spotted {refusal : Refusal} {journal : Journal}
      (refused : (Judgement.refuse refusal journal).outcome = .ok (.invalid rejection))
      (spotted : graph.Spotted view setting.params.nativeAsset refusal) :
      ∃ id, rejection.entry = some id ∧
        graph.Stops view setting.params.nativeAsset graph.nodes .start id rejection.cause := by
    cases refusal with
    | rejected found =>
        cases refused
        exact spotted _ rfl mismatch
    | breached breach => cases refused
  unfold judge at rejected
  split at rejected
  · rename_i refusal vetted
    exact spotted rejected (spotted_vet refusal vetted)
  · split at rejected
    · rename_i refusal books ran
      exact spotted rejected (.of_plain (plain_runGuards ran))
    · split at rejected
      · refine spotted rejected (.of_plain ?_)
        rintro _ ⟨⟩
        exact Cause.plain_ofGasError _
      · cases rejected

end Graph

end EntryLedger
