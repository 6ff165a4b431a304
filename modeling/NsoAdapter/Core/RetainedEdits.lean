import NsoAdapter.Core.FragmentTables

/-! Retained edits of a promotion chain: an identity that the authorized and the
desired fragment of a promoted stream both carry, with another state, must reach the
device through a networked generation of the chain. -/

namespace NsoAdapter.Core
open Lib Projection Store

/-- The identity is in both fragments of the promotion and its state differs. -/
structure Promotion.Edited (promotion : Promotion) (table : IntentTable) (identity : Identity)
    (before after : Row) : Prop where
  old : ∃ rows, rowsByIntentIdentity promotion.oldTables table = .ok rows ∧
    Dict.get? rows identity = some before
  desired : ∃ rows, rowsByIntentIdentity promotion.desired.tables table = .ok rows ∧
    Dict.get? rows identity = some after
  changed : ∃ previous next, projectionRowState table before = .ok previous ∧
    projectionRowState table after = .ok next ∧ previous.same next = false

/-- A receipt lane whose only removal work is a detach and whose edits are neither
positive nor content-losing. -/
structure Promotion.DetachOnly (promotion : Promotion) : Prop where
  receipt : promotion.revision = none
  detached : hasRows promotion.detached = true
  unnetworked : promotion.networkedWork = false
  unpositive : promotion.positive = false

/-- The stream settled as wire equivalent, or a networked generation that lists it
sends the row. -/
def Delivered (result : ActionApplyResult) (stream : ProjectionStream) (table : IntentTable) (row : Row) : Prop :=
  stream ∈ result.settled ∨ ∃ generation ∈ result.generations,
    generation.mode = .networked ∧ stream ∈ generation.streamRevisions.map (·.1) ∧
      ∃ body, generation.document.lookup stream.streamSection = some body ∧
        row ∈ body.tables.rows table

variable {tables : Tables} {table : IntentTable} {identity : Identity} {before after : Row}

theorem Tables.mem_keys_of_mem_rows {row : Row} (member : row ∈ tables.rows table) : table ∈ tables.map (·.1) := by
  unfold Tables.rows at member
  cases found : tables.lookup table with
  | none =>
    rw [found] at member
    cases member
  | some rows => exact List.mem_map.mpr ⟨_, Dict.mem_of_get? found, rfl⟩

theorem logicalRows_get? {states rows : Dict Identity Row} (logical : logicalRows tables table = .ok states)
    (indexed : rowsByIntentIdentity tables table = .ok rows) {row state : Row}
    (found : Dict.get? rows identity = some row)
    (projected : projectionRowState table row = .ok state) :
    Dict.get? states identity = some state := by
  unfold logicalRows at logical
  rw [indexed] at logical
  have each : List.Forall₂ (fun (entry image : Identity × Row) => image.1 = entry.1 ∧
      projectionRowState table entry.2 = .ok image.2) rows states := by
    refine (forall₂_of_mapM logical).imp fun entry image mapped => ?_
    obtain ⟨value, projects, returned⟩ := bind_eq_ok.mp mapped
    cases returned
    exact ⟨rfl, projects⟩
  obtain ⟨image, located, projects⟩ := Dict.get?_of_forall₂ (fun row state => projectionRowState table row = .ok state) each found
  rw [projected] at projects
  cases projects
  exact located

theorem logicalTableState_get? {states : Dict IntentTable (Dict Identity Row)}
    (logical : logicalTableState tables = .ok states) {rows : Dict Identity Row}
    (indexed : rowsByIntentIdentity tables table = .ok rows) {row state : Row}
    (found : Dict.get? rows identity = some row)
    (projected : projectionRowState table row = .ok state) :
    ∃ rowStates, Dict.get? states table = some rowStates ∧ Dict.get? rowStates identity = some state := by
  have listed := Tables.mem_keys_of_mem_rows (mem_rows_of_rowsByIntentIdentity indexed found)
  have each := forall₂_of_mapM logical
  obtain ⟨entry, member, mapped⟩ := exists_of_forall₂ each.flip listed
  obtain ⟨rowStates, rowsOf, returned⟩ := bind_eq_ok.mp mapped
  cases returned
  cases located : Dict.get? states table with
  | none => exact absurd rfl (Dict.get?_eq_none.mp located _ member)
  | some first =>
    -- A table named twice has one state: both come from the same rows.
    obtain ⟨name, _, mappedFirst⟩ := exists_of_forall₂ each (Dict.mem_of_get? located)
    obtain ⟨firstStates, firstRows, returned⟩ := bind_eq_ok.mp mappedFirst
    cases returned
    exact ⟨_, rfl, logicalRows_get? firstRows indexed found projected⟩

theorem Promotion.Edited.retainedTablesChanged {promotion : Promotion}
    (edited : promotion.Edited table identity before after) {changed : Bool}
    (decided : retainedTablesChanged promotion.oldTables promotion.desired.tables = .ok changed) : changed = true := by
  obtain ⟨previous, next, previousState, nextState, differs⟩ := edited.changed
  obtain ⟨oldRows, oldIndexed, oldFound⟩ := edited.old
  obtain ⟨desiredRows, desiredIndexed, desiredFound⟩ := edited.desired
  obtain ⟨oldStates, oldLogical, decided⟩ := bind_eq_ok.mp decided
  obtain ⟨newStates, newLogical, returned⟩ := bind_eq_ok.mp decided
  obtain ⟨oldTable, oldTableAt, oldState⟩ := logicalTableState_get? oldLogical oldIndexed oldFound previousState
  obtain ⟨newTable, newTableAt, newState⟩ := logicalTableState_get? newLogical desiredIndexed desiredFound nextState
  cases returned
  refine List.any_eq_true.mpr ⟨(table, newTable), Dict.mem_of_get? newTableAt, ?_⟩
  refine List.any_eq_true.mpr ⟨(identity, next), Dict.mem_of_get? newState, ?_⟩
  simp only [oldTableAt, Option.getD_some, oldState, differs, Bool.not_false]

theorem positivePlan_edited {promotion : Promotion} {plan : PositivePlan} (decided : positivePlan promotion = .ok plan)
    (edited : promotion.Edited table identity before after) :
    plan ≠ .nothing ∨ promotion.networkedWork = true ∨ promotion.DetachOnly := by
  cases networked : promotion.networkedWork with
  | true => exact .inr (.inl rfl)
  | false =>
    unfold positivePlan at decided
    simp only [networked, Bool.not_false, Bool.true_and, Bool.and_true] at decided
    split at decided
    · -- No removal work at all: an apply, or a stream that may settle.
      left
      split at decided
      · split at decided
        · obtain ⟨unchanged, _, rfl⟩ := map_eq_ok.mp decided
          cases unchanged <;> decide
        · cases decided
          decide
      · cases decided
        decide
    · rename_i detaching
      have detached : hasRows promotion.detached = true := by simpa using detaching
      split at decided
      · cases decided
        exact .inl (by decide)
      · rename_i unpositive
        split at decided
        · obtain ⟨changed, compared, rfl⟩ := map_eq_ok.mp decided
          rw [edited.retainedTablesChanged (fromProjection_eq_ok.mp compared)]
          exact .inl (by decide)
        · rename_i receipt
          rw [detached, Bool.true_and] at receipt
          exact .inr (.inr ⟨by simpa using receipt, detached, networked, by simpa using unpositive⟩)

theorem Promotion.DetachOnly.positivePlan {promotion : Promotion} (lane : promotion.DetachOnly) :
    positivePlan promotion = .ok .nothing := by
  unfold Core.positivePlan
  simp [lane.receipt, lane.detached, lane.unnetworked, lane.unpositive]

theorem mem_settleEquivalents {store : PromotionStore} {promotions : List Promotion}
    {stream : ProjectionStream} (settles : stream ∈ (settleEquivalents store promotions).2) :
    ∃ promotion ∈ promotions, promotion.stream = stream := by
  have each : ∀ (items : List Promotion) (progress : PromotionStore × List ProjectionStream),
      stream ∈ (items.foldl settleIfEquivalent progress).2 → stream ∈ progress.2 ∨ ∃ promotion ∈ items, promotion.stream = stream := by
    intro items
    induction items with
    | nil => exact fun _ member => .inl member
    | cons promotion items ih =>
      intro progress member
      rcases ih _ member with earlier | ⟨other, listed, same⟩
      · unfold settleIfEquivalent at earlier
        split at earlier
        · rcases List.mem_append.mp earlier with before | now
          · exact .inl before
          · exact .inr ⟨promotion, List.mem_cons_self, (List.mem_singleton.mp now).symm⟩
        · exact .inl earlier
      · exact .inr ⟨other, List.mem_cons_of_mem _ listed, same⟩
  rcases each promotions (store, []) settles with impossible | found
  · cases impossible
  · exact found

/-- A successful chain: its intermediate document, its plan and what it sends. -/
structure ChainRun (refreshed : PromotionStore) (promotions : List Promotion)
    (result : ActionApplyResult) where
  plan : ChainPlan
  actions : ActionPlan
  intermediates : List (ProjectionStream × Fragment)
  retained : promotions.mapM intermediateFragment = .ok intermediates
  composed : composeFragments (refreshed.authorized.overlay (fragmentsOf intermediates)) =
    .ok plan.intermediateDocument
  planned : planActionLinks promotions = .ok actions
  settled : ∀ stream ∈ result.settled, stream ∈ actions.wireEquivalentStreams
  sends : ChainSends plan actions (actions.applied result.settled) result.generations

theorem deliverPromotions_run {env : Environment} {refreshed : PromotionStore}
    {promotions : List Promotion} {applyAttemptId : Option Nat} {result : ActionApplyResult}
    (delivered : deliverPromotions env refreshed promotions applyAttemptId = .ok result) :
    Nonempty (ChainRun refreshed promotions result) := by
  obtain ⟨authority, _, delivered⟩ := bind_eq_ok.mp delivered
  obtain ⟨⟨intermediateDocument, finalDocument⟩, documents, delivered⟩ := bind_eq_ok.mp delivered
  obtain ⟨actions, planned, delivered⟩ := bind_eq_ok.mp delivered
  obtain ⟨⟨enqueued, generations⟩, chain, returned⟩ := bind_eq_ok.mp delivered
  cases returned
  obtain ⟨intermediates, retained, documents⟩ := bind_eq_ok.mp documents
  obtain ⟨final, _, documents⟩ := bind_eq_ok.mp documents
  obtain ⟨intermediate, composed, returned⟩ := bind_eq_ok.mp documents
  cases returned
  obtain ⟨_, plans, _, rfl⟩ := planActionLinks_ok planned
  have networkedPlanned : ∀ link ∈ (actionPlan promotions plans).networkedLinks, link.Planned := by
    intro link member detaching
    obtain ⟨promotion, _, rfl⟩ := List.mem_map.mp member
    cases detaching
  have detachPlanned : ∀ link ∈ (actionPlan promotions plans).detachLinks, link.Planned := by
    intro link member _
    obtain ⟨promotion, _, rfl⟩ := List.mem_map.mp member
    rfl
  refine ⟨{ plan := _, actions := _, intermediates := intermediates, retained := retained,
            composed := ?_, planned := planned, settled := ?_,
            sends := enqueueChain_sends networkedPlanned detachPlanned chain }⟩
  · exact composed
  · intro stream member
    obtain ⟨promotion, listed, rfl⟩ := mem_settleEquivalents member
    exact List.contains_iff_mem.mp (List.mem_filter.mp listed).2

theorem Sends.row {generation : DeploymentGeneration} {mode : GenerationMode} {streams : List ProjectionStream} {document : Document}
    (sends : Sends generation mode streams document) {scope : DocumentSection} {row : Row}
    (carried : ∃ body, document.lookup scope = some body ∧ row ∈ body.tables.rows table) :
    ∃ body, generation.document.lookup scope = some body ∧ row ∈ body.tables.rows table := by
  obtain ⟨body, located, member⟩ := carried
  have tables := sends.tables scope
  rw [located, Option.map_some] at tables
  obtain ⟨sent, found, same⟩ := Option.map_eq_some_iff.mp tables
  exact ⟨sent, found, same ▸ member⟩

theorem mem_plannedStreams {promotions : List Promotion} (distinct : (promotions.map (·.stream)).Nodup)
    {plans : List (ProjectionStream × PositivePlan)}
    (mapped : promotions.mapM plannedEntry = .ok plans) {promotion : Promotion}
    (listed : promotion ∈ promotions) {plan : PositivePlan} :
    promotion.stream ∈ plannedStreams plans plan ↔ positivePlan promotion = .ok plan := by
  constructor
  · intro member
    obtain ⟨entry, kept, sameStream⟩ := List.mem_map.mp member
    obtain ⟨planned, samePlan⟩ := List.mem_filter.mp kept
    obtain ⟨other, otherListed, entryOf⟩ := exists_of_mem_mapM mapped planned
    obtain ⟨ofOther, decided⟩ := plannedEntry_ok entryOf
    have same : other = promotion := List.inj_on_of_nodup_map distinct otherListed listed (ofOther.symm.trans sameStream)
    rw [← same, decided, beq_iff_eq.mp samePlan]
  · intro decided
    obtain ⟨entry, planned, entryOf⟩ := exists_of_forall₂ (forall₂_of_mapM mapped).flip listed
    obtain ⟨sameStream, plannedAs⟩ := plannedEntry_ok entryOf
    rw [decided] at plannedAs
    refine List.mem_map.mpr ⟨entry, List.mem_filter.mpr ⟨planned, ?_⟩, sameStream⟩
    exact beq_iff_eq.mpr (Except.ok.inj plannedAs).symm

section Delivery

variable {refreshed : PromotionStore} {selected : List Selection} {promotions : List Promotion}
  {result : ActionApplyResult} {promotion : Promotion}

theorem ChainRun.delivered (run : ChainRun refreshed promotions result)
    (distinct : (promotions.map (·.stream)).Nodup) (listed : promotion ∈ promotions)
    {plan : PositivePlan} (decided : positivePlan promotion = .ok plan)
    (scheduled : plan ≠ .nothing ∨ promotion.networkedWork = true) {table : IntentTable} {row : Row}
    (carried : ∃ body, run.plan.intermediateDocument.lookup promotion.stream.streamSection = some body ∧ row ∈ body.tables.rows table) :
    Delivered result promotion.stream table row := by
  obtain ⟨_, plans, mapped, shape⟩ := planActionLinks_ok run.planned
  by_cases settles : promotion.stream ∈ result.settled
  · exact .inl settles
  right
  rcases scheduled with positive | networked
  · have applied : promotion.stream ∈ run.actions.applied result.settled := by
      rw [shape]
      cases plan with
      | nothing => exact absurd rfl positive
      | apply => exact List.mem_append_left _ ((mem_plannedStreams distinct mapped listed).mpr decided)
      | wireEquivalent =>
        refine List.mem_append_right _ (List.mem_filter.mpr ⟨?_, ?_⟩)
        · exact (mem_plannedStreams distinct mapped listed).mpr decided
        · simpa using settles
    obtain ⟨generation, member, sends⟩ := run.sends.applied (List.ne_nil_of_mem applied)
    refine ⟨generation, member, sends.mode, ?_, sends.row carried⟩
    rw [sends.streams]
    exact mem_sortedStreams.mpr applied
  · have link : networkedLink promotion ∈ run.actions.networkedLinks := by
      rw [shape]
      exact List.mem_map.mpr ⟨promotion, List.mem_filter.mpr ⟨listed, networked⟩, rfl⟩
    obtain ⟨generation, member, sends⟩ := run.sends.networked _ link
    refine ⟨generation, member, sends.mode, ?_, Sends.row sends carried⟩
    rw [sends.streams]
    exact List.mem_singleton.mpr rfl

theorem ChainRun.undelivered (run : ChainRun refreshed promotions result)
    (distinct : (promotions.map (·.stream)).Nodup) (listed : promotion ∈ promotions)
    (lane : promotion.DetachOnly) (table : IntentTable) (row : Row) :
    ¬ Delivered result promotion.stream table row := by
  obtain ⟨_, plans, mapped, shape⟩ := planActionLinks_ok run.planned
  have unplanned : ∀ plan, plan ≠ .nothing → promotion.stream ∉ plannedStreams plans plan := by
    intro plan different member
    have decided := (mem_plannedStreams distinct mapped listed).mp member
    rw [lane.positivePlan] at decided
    exact different (Except.ok.inj decided).symm
  rintro (settles | ⟨generation, member, networked, lists, _⟩)
  · have equivalent := run.settled _ settles
    rw [shape] at equivalent
    exact unplanned .wireEquivalent (by decide) equivalent
  · rcases run.sends.source generation member with ⟨link, links, sends⟩ | sends
    · rw [sends.streams] at lists
      have sameStream := List.mem_singleton.mp lists
      rw [shape] at links
      rcases List.mem_append.mp links with removal | detach
      · obtain ⟨other, kept, rfl⟩ := List.mem_map.mp removal
        obtain ⟨otherListed, work⟩ := List.mem_filter.mp kept
        have same : other = promotion := List.inj_on_of_nodup_map distinct otherListed listed sameStream.symm
        rw [same, lane.unnetworked] at work
        cases work
      · obtain ⟨other, _, rfl⟩ := List.mem_map.mp detach
        have detached := sends.mode
        rw [networked] at detached
        cases detached
    · rw [sends.streams] at lists
      have applied := mem_sortedStreams.mp lists
      rw [shape] at applied
      rcases List.mem_append.mp applied with planned | unsettled
      · exact unplanned .apply (by decide) planned
      · exact unplanned .wireEquivalent (by decide) (List.mem_filter.mp unsettled).1

end Delivery

theorem StoredTables.chainPromotions {store refreshed : PromotionStore}
    (stored : StoredTables store) {selected : List Selection} {promotions : List Promotion}
    (frozen : chainPromotions store selected = .ok (refreshed, promotions)) :
    StoredTables refreshed ∧ selected.mapM (Core.promotionOf refreshed) = .ok promotions := by
  obtain ⟨pruned, refreshes, frozen⟩ := bind_eq_ok.mp frozen
  obtain ⟨values, freezes, returned⟩ := bind_eq_ok.mp frozen
  cases returned
  refine ⟨?_, freezes⟩
  split at refreshes
  · have cleared : StoredTables (promoteStaticRouteClears store) := ⟨stored.authorized, stored.prepared⟩
    exact cleared.refreshConsumedCarriers refreshes
  · exact stored.refreshConsumedCarriers refreshes

/-- Every retained edit of a chain is delivered exactly when no receipt lane that only
detaches, with no positive and no content-losing edit, has one. -/
theorem retained_edits_delivered (env : Environment) {store refreshed : PromotionStore}
    (stored : StoredTables store) {selected : List Selection}
    (distinct : (selected.map (·.stream)).Nodup) {promotions : List Promotion}
    (frozen : chainPromotions store selected = .ok (refreshed, promotions))
    {applyAttemptId : Option Nat} {result : ActionApplyResult}
    (chained : createApplyChain env store selected applyAttemptId = .ok result) :
    (∀ promotion ∈ promotions, ∀ table identity before after, promotion.Edited table identity before after →
        Delivered result promotion.stream table after) ↔
      ∀ promotion ∈ promotions, promotion.DetachOnly →
        ∀ table identity before after, ¬ promotion.Edited table identity before after := by
  obtain ⟨refreshedStored, freezes⟩ := stored.chainPromotions frozen
  unfold createApplyChain at chained
  rw [frozen] at chained
  obtain ⟨run⟩ := deliverPromotions_run chained
  have streams : (promotions.map (·.stream)).Nodup := by
    rw [promotionOf_streams freezes]
    exact distinct
  constructor
  · intro delivered promotion listed lane table identity before after edited
    exact run.undelivered streams listed lane table after (delivered promotion listed table identity before after edited)
  · intro condition promotion listed table identity before after edited
    obtain ⟨_, plans, mapped, _⟩ := planActionLinks_ok run.planned
    obtain ⟨entry, _, entryOf⟩ := exists_of_forall₂ (forall₂_of_mapM mapped).flip listed
    have decided := (plannedEntry_ok entryOf).2
    obtain ⟨rows, indexed, found⟩ := edited.desired
    have carried := refreshedStored.intermediate_row distinct freezes run.retained run.composed
      listed (mem_rows_of_rowsByIntentIdentity indexed found)
    rcases positivePlan_edited decided edited with positive | networked | lane
    · exact run.delivered streams listed decided (.inl positive) carried
    · exact run.delivered streams listed decided (.inr networked) carried
    · exact absurd edited (condition promotion listed lane table identity before after)

def isisInterface (id : Int) (name : String) (bfdEnabled metric : Json) : Row :=
  [("id", .num id), ("interface_name", .str name), ("af", .str "ipv4"),
    ("bfd_enabled", bfdEnabled), ("metric", metric)]

/-- An IS-IS lane with two authorized interfaces and the given live ones. Its last
delivery marked no deletion as its own. -/
def isisLane (live : List Row) : PromotionStore where
  deviceId := 1
  db := { Database.empty with
    streams := [{ deviceId := 1, stream := .isis, desiredRevision := 2, authorizedRevision := 1
                  appliedRevision := 1, sourcePushSeq := some 2
                  authorizedDocument := some
                    { tables := [(.isisProcessIntent, []),
                        (.isisInterfaceIntent, [isisInterface 1 "eth0" (.bool false) (.num 10),
                          isisInterface 2 "eth1" .null .null]),
                        (.isisLevelIntent, []), (.redistributionIntent, [])]
                      context := ⟨none, .identity⟩, proof := none }
                  preparedRevision := none, preparedTables := none, preparedDeletions := none }] }
  nedId := none
  intentRows
    | .isisInterfaceIntent => live
    | _ => []
  interfaces := []
  attributeStates := []
  receipts := fun _ => none
  pendingClears := []
  nextPendingClearId := 1
  nextCohort := 1

theorem isisLane_storedTables (live : List Row) : StoredTables (isisLane live) := by
  refine ⟨?_, ?_⟩
  · intro stream fragment found
    cases stream with
    | isis =>
      cases found
      refine ⟨?_, by decide⟩
      unfold Tables.Distinct
      decide
    | _ => cases found
  · intro stream row tables found slot
    cases stream with
    | isis =>
      cases found
      cases slot
    | _ => cases found

def laneEnvironment : Environment :=
  ⟨fun _ _ _ => "", fun _ => none, 0⟩

def laneSelection : List Selection :=
  [⟨.isis, none, rfl⟩]

/-- The computed form of `Promotion.Edited`. -/
def Promotion.editedAt (promotion : Promotion) (table : IntentTable) (identity : Identity)
    (before after : Row) : Bool :=
  match rowsByIntentIdentity promotion.oldTables table,
      rowsByIntentIdentity promotion.desired.tables table,
      projectionRowState table before, projectionRowState table after with
  | .ok oldRows, .ok desiredRows, .ok previous, .ok next =>
    Dict.get? oldRows identity == some before && Dict.get? desiredRows identity == some after &&
      !previous.same next
  | _, _, _, _ => false

theorem Promotion.editedAt_sound {promotion : Promotion} (computed : promotion.editedAt table identity before after = true) :
    promotion.Edited table identity before after := by
  unfold Promotion.editedAt at computed
  split at computed
  · rename_i oldRows desiredRows previous next oldIndexed desiredIndexed previousState nextState
    simp only [Bool.and_eq_true, beq_iff_eq, Bool.not_eq_true'] at computed
    exact ⟨⟨oldRows, oldIndexed, computed.1.1⟩, ⟨desiredRows, desiredIndexed, computed.1.2⟩,
      ⟨previous, next, previousState, nextState, computed.2⟩⟩
  · cases computed

/-- A tri-state leaf that goes from off to unset, beside a detached sibling, is carried by no
networked generation. -/
theorem unset_leaf_beside_detach_lost : let lane := isisLane [isisInterface 1 "eth0" .null (.num 10)]
    StoredTables lane ∧ (laneSelection.map (·.stream)).Nodup ∧
      ∃ refreshed promotions result, chainPromotions lane laneSelection = .ok (refreshed, promotions) ∧
          createApplyChain laneEnvironment lane laneSelection none = .ok result ∧
            ∃ promotion ∈ promotions, promotion.Edited .isisInterfaceIntent [.str "eth0", .str "ipv4"]
                (isisInterface 1 "eth0" (.bool false) (.num 10))
                (isisInterface 1 "eth0" .null (.num 10)) ∧
              ¬ Delivered result promotion.stream .isisInterfaceIntent (isisInterface 1 "eth0" .null (.num 10)) := by
  have frozen : (chainPromotions (isisLane [isisInterface 1 "eth0" .null (.num 10)])
      laneSelection).toOption.any (fun outcome => outcome.2.any fun promotion =>
        promotion.editedAt .isisInterfaceIntent [.str "eth0", .str "ipv4"] (isisInterface 1 "eth0" (.bool false) (.num 10))
          (isisInterface 1 "eth0" .null (.num 10))) = true := by decide +kernel
  have chained : (createApplyChain laneEnvironment (isisLane [isisInterface 1 "eth0" .null (.num 10)]) laneSelection none).toOption.any
        (fun result => result.settled.isEmpty && result.generations.all fun generation => generation.mode == .detach) = true := by
    decide +kernel
  obtain ⟨⟨refreshed, promotions⟩, freezes, edited⟩ := toOption_any_eq_true frozen
  obtain ⟨result, chains, detached⟩ := toOption_any_eq_true chained
  obtain ⟨promotion, listed, editedAt⟩ := List.any_eq_true.mp edited
  refine ⟨isisLane_storedTables _, by decide, refreshed, promotions, result, freezes, chains,
    promotion, listed, Promotion.editedAt_sound editedAt, ?_⟩
  rw [Bool.and_eq_true, List.isEmpty_iff, List.all_eq_true] at detached
  rintro (settles | ⟨generation, member, networked, _⟩)
  · rw [detached.1] at settles
    cases settles
  · have mode := detached.2 generation member
    rw [networked] at mode
    cases mode

/-- A metric edit beside the same detach is positive, and is delivered. -/
theorem metric_edit_beside_detach_delivered : let lane := isisLane [isisInterface 1 "eth0" (.bool false) (.num 20)]
    ∃ refreshed promotions result, chainPromotions lane laneSelection = .ok (refreshed, promotions) ∧
        createApplyChain laneEnvironment lane laneSelection none = .ok result ∧
          ∃ promotion ∈ promotions, promotion.Edited .isisInterfaceIntent [.str "eth0", .str "ipv4"]
              (isisInterface 1 "eth0" (.bool false) (.num 10))
              (isisInterface 1 "eth0" (.bool false) (.num 20)) ∧
            Delivered result promotion.stream .isisInterfaceIntent (isisInterface 1 "eth0" (.bool false) (.num 20)) := by
  have frozen : (chainPromotions (isisLane [isisInterface 1 "eth0" (.bool false) (.num 20)])
      laneSelection).toOption.any (fun outcome => outcome.2.all (·.positive) && outcome.2.any fun promotion =>
          promotion.editedAt .isisInterfaceIntent [.str "eth0", .str "ipv4"] (isisInterface 1 "eth0" (.bool false) (.num 10))
            (isisInterface 1 "eth0" (.bool false) (.num 20))) = true := by decide +kernel
  have chained : (createApplyChain laneEnvironment
      (isisLane [isisInterface 1 "eth0" (.bool false) (.num 20)]) laneSelection none).toOption.any
        (fun _ => true) = true := by decide +kernel
  obtain ⟨⟨refreshed, promotions⟩, freezes, properties⟩ := toOption_any_eq_true frozen
  obtain ⟨result, chains, _⟩ := toOption_any_eq_true chained
  rw [Bool.and_eq_true, List.all_eq_true] at properties
  obtain ⟨promotion, listed, editedAt⟩ := List.any_eq_true.mp properties.2
  have edited := Promotion.editedAt_sound editedAt
  refine ⟨refreshed, promotions, result, freezes, chains, promotion, listed, edited, ?_⟩
  refine (retained_edits_delivered laneEnvironment (isisLane_storedTables _) (by decide) freezes
    chains).mpr ?_ promotion listed _ _ _ _ edited
  intro other member lane
  have positive := properties.1 other member
  rw [lane.unpositive] at positive
  cases positive

end NsoAdapter.Core
