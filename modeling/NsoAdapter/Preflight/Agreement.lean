import NsoAdapter.Preflight.Requeue
import NsoAdapter.Preflight.Stability

/-! Preview and apply. The plan of a manual apply comes from the real creation path in a
transaction that is rolled back; the apply runs it again later, over the same rows, with
fresh identifiers. -/

namespace NsoAdapter.Preflight
open Lib Projection Store NsoAdapter.Core StaticRoute

/-! ### The links of two runs -/

section

variable {idle : Prop} {left right : PromotionStore} (env : Environment) (now : Nat)
  {plan : ChainPlan} {cohort : Option Nat} (attemptId : Option Nat)

/-- The progress of two runs: twin stores and links that send the same. -/
def SameProgress (idle : Prop) (first second : PromotionStore × List DeploymentGeneration) : Prop :=
  Twins idle first.1 second.1 ∧ List.Forall₂ SameLink first.2 second.2

theorem Twins.live (twins : Twins idle left right) : right.live = left.live := by
  rw [twins.rows]
  rfl

theorem Twins.enqueueLinks (twins : Twins idle left right) (sameCohort : plan.cohort.isSome = cohort.isSome) (links : List RemovalLink)
    (authority : RemovalAuthority) :
    Alike (fun first second => SameProgress idle (first.1, first.2.1) (second.1, second.2.1) ∧ first.2.2 = second.2.2)
      (enqueueActionRemovalLinks env plan left links authority)
      (enqueueActionRemovalLinks { env with now } (ChainPlan.reissued plan cohort attemptId) right links authority) := by
  unfold enqueueActionRemovalLinks
  rw [twins.live]
  refine Alike.bind_same fun classified _ => ?_
  have start : SameProgress idle (left, []) (right, []) := ⟨twins, .nil⟩
  refine (Alike.foldlM start fun link _ first second progress => ?_).bind fun first second progress => .ok ⟨progress, rfl⟩
  obtain ⟨stores, links⟩ := progress
  refine (stores.enqueueRemoval env now plan cohort attemptId sameCohort _ link).bind fun created again same => .ok ⟨same.1, ?_⟩
  exact List.rel_append links (.cons same.2 .nil)

theorem admitApplyGeneration_fresh {db : Database} {generation : DeploymentGeneration}
    (attachable : Attachable db) (idle : Idle db generation.deviceId) (now : Nat) :
    ∃ coalescible job, admitApplyGeneration db generation now =
      .ok (carriedBy generation.deviceId .apply coalescible none generation now db, job) := by
  unfold admitApplyGeneration
  split
  · exact ⟨false, _, attachDedicatedJob_fresh _ .apply _ _ _ attachable rfl⟩
  · unfold admitCoalescedApply admitCoalescibleJob
    rw [idle.lockQueuedWinner]
    rw [if_neg (by decide)]
    dsimp only
    rw [attachToJob_fresh generation.deviceId .apply true none generation now attachable]
    exact ⟨true, _, rfl⟩

theorem Twins.enqueueApply (twins : Twins True left right)
    (sameCohort : plan.cohort.isSome = cohort.isSome) (streams : List ProjectionStream)
    (authority : RemovalAuthority) :
    Alike (SameProgress False) (enqueueApplies env plan left streams authority)
      (enqueueApplies { env with now } (ChainPlan.reissued plan cohort attemptId) right streams authority) := by
  unfold enqueueApplies
  split
  · exact .ok ⟨⟨twins.rows, twins.attachable, False.elim⟩, .nil⟩
  refine Alike.bind (Alike.bind (twins.createGeneration env now cohort attemptId _ sameCohort) ?_) fun first second progress => .ok progress
  rintro ⟨store, generation⟩ ⟨other, again⟩ ⟨⟨stored, same⟩, device, otherDevice⟩
  dsimp only at stored same device otherDevice
  obtain ⟨coalescible, job, admits⟩ := admitApplyGeneration_fresh stored.attachable.1 (device ▸ (stored.idle trivial).1) env.now
  obtain ⟨otherCoalescible, otherJob, otherAdmits⟩ := admitApplyGeneration_fresh
    stored.attachable.2 (otherDevice ▸ (stored.idle trivial).2) now
  dsimp only
  rw [admits, otherAdmits]
  refine .ok ⟨⟨?_, ⟨stored.attachable.1.carriedBy, stored.attachable.2.carriedBy⟩, False.elim⟩, ?_⟩
  · rw [stored.rows]
    rfl
  · exact .cons same .nil

theorem Twins.enqueueChain (twins : Twins True left right) (sameCohort : plan.cohort.isSome = cohort.isSome) (actions : ActionPlan)
    (streams : List ProjectionStream) (authority : RemovalAuthority) :
    Alike (SameProgress False) (enqueueChain env plan actions left streams authority)
      (enqueueChain { env with now } (ChainPlan.reissued plan cohort attemptId) actions right streams authority) := by
  refine (twins.enqueueLinks env now attemptId sameCohort _ _).bind ?_
  rintro ⟨removed, networked, union⟩ ⟨_, otherNetworked, _⟩ ⟨⟨stores, links⟩, rfl⟩
  refine (stores.enqueueApply env now attemptId sameCohort _ _).bind ?_
  rintro ⟨applied, applies⟩ ⟨_, otherApplies⟩ ⟨stores, applyLinks⟩
  refine (stores.enqueueLinks env now attemptId sameCohort _ _).bind ?_
  rintro ⟨detached, detaches, _⟩ ⟨_, otherDetaches, _⟩ ⟨⟨stores, detachLinks⟩, _⟩
  exact .ok ⟨stores, List.rel_append (List.rel_append links applyLinks) detachLinks⟩

end

/-! ### The chain of a renumbered store -/

section

variable (store : PromotionStore) (numbers : Numbers)

theorem settleEquivalents_renumbered (promotions : List Promotion) : settleEquivalents (renumbered store numbers) promotions =
      (renumbered (settleEquivalents store promotions).1 numbers, (settleEquivalents store promotions).2) := by
  refine @List.foldl_hom _ _ _ (fun progress : PromotionStore × List ProjectionStream =>
    (renumbered progress.1 numbers, progress.2)) settleIfEquivalent settleIfEquivalent promotions (store, []) fun progress promotion => ?_
  unfold settleIfEquivalent
  rw [canSettle_renumbered]
  split <;> rfl

theorem settleEquivalents_queue (promotions : List Promotion) : queueOf (settleEquivalents store promotions).1 = queueOf store ∧
      (settleEquivalents store promotions).1.deviceId = store.deviceId := by
  suffices keeps : ∀ progress : PromotionStore × List ProjectionStream,
      queueOf (promotions.foldl settleIfEquivalent progress).1 = queueOf progress.1 ∧
        (promotions.foldl settleIfEquivalent progress).1.deviceId = progress.1.deviceId from
    keeps (store, [])
  induction promotions with
  | nil => exact fun progress => ⟨rfl, rfl⟩
  | cons promotion rest ih =>
    intro progress
    have later := ih (settleIfEquivalent progress promotion)
    rw [List.foldl_cons]
    refine ⟨later.1.trans ?_, later.2.trans ?_⟩
    · unfold settleIfEquivalent
      split <;> rfl
    · unfold settleIfEquivalent
      split <;> rfl

theorem allocateCohort_renumbered (linkCount : Nat) : ∃ later cohort, allocateCohort (renumbered store numbers) linkCount =
        (renumbered (allocateCohort store linkCount).1 later, cohort) ∧
      later.jobId = numbers.jobId ∧
      (allocateCohort store linkCount).2.isSome = cohort.isSome := by
  unfold allocateCohort
  split
  · exact ⟨{ numbers with cohort := numbers.cohort + 1 }, some numbers.cohort, rfl, rfl, rfl⟩
  · exact ⟨numbers, none, rfl, rfl, rfl⟩

theorem allocateCohort_queue (linkCount : Nat) : (allocateCohort store linkCount).1.db = store.db ∧
      (allocateCohort store linkCount).1.deviceId = store.deviceId := by
  unfold allocateCohort
  split <;> exact ⟨rfl, rfl⟩

end

structure SameApply (first second : ActionApply) : Prop where
  skipped : first.skipped = second.skipped
  links : List.Forall₂ SameLink first.generations second.generations

section

variable {store : PromotionStore} {numbers : Numbers} (env : Environment) (now : Nat)

theorem deliverPromotions_agrees (attachable : Attachable store.db)
    (later : Attachable (renumbered store numbers).db) (idle : Idle store.db store.deviceId)
    (promotions : List Promotion) (attemptId laterAttemptId : Option Nat) :
    Alike (fun first second => first.settled = second.settled ∧
        List.Forall₂ SameLink first.generations second.generations)
      (deliverPromotions env store promotions attemptId)
      (deliverPromotions { env with now } (renumbered store numbers) promotions laterAttemptId) := by
  refine Alike.bind_same fun authority _ => ?_
  refine Alike.bind_same fun documents _ => ?_
  obtain ⟨intermediateDocument, finalDocument⟩ := documents
  refine Alike.bind_same fun actions _ => ?_
  dsimp only
  rw [settleEquivalents_renumbered]
  have settled := settleEquivalents_queue store (promotions.filter fun promotion => actions.wireEquivalentStreams.contains promotion.stream)
  generalize settleEquivalents store (promotions.filter fun promotion =>
    actions.wireEquivalentStreams.contains promotion.stream) = progress at settled ⊢
  obtain ⟨advanced, cohort, allocates, jobId, sameCohort⟩ := allocateCohort_renumbered progress.1
    numbers (actions.linkCount (actions.applied progress.2))
  have queue := allocateCohort_queue progress.1 (actions.linkCount (actions.applied progress.2))
  rw [allocates]
  generalize allocateCohort progress.1 (actions.linkCount (actions.applied progress.2)) = allocated
    at queue sameCohort ⊢
  have generations : allocated.1.db.generations = store.db.generations := by
    rw [queue.1]
    exact congrArg Queue.generations settled.1
  have jobs : allocated.1.db.jobs = store.db.jobs := by
    rw [queue.1]
    exact congrArg Queue.jobs settled.1
  have nextJobId : allocated.1.db.nextJobId = store.db.nextJobId := by
    rw [queue.1]
    exact congrArg Queue.nextJobId settled.1
  have ready : Attachable allocated.1.db := by
    intro generation member held bound
    rw [generations] at member
    rw [nextJobId]
    exact attachable generation member held bound
  have readyLater : Attachable (renumbered allocated.1 advanced).db := by
    intro generation member held bound
    have below := later generation (generations ▸ member) held bound
    exact below.trans_eq jobId.symm
  have waiting : Idle allocated.1.db allocated.1.deviceId := by
    intro job member
    rw [jobs] at member
    rw [queue.2, settled.2]
    exact idle job member
  have twins : Twins True allocated.1 (renumbered allocated.1 advanced) := ⟨rfl, ⟨ready, readyLater⟩, fun _ => ⟨waiting, waiting⟩⟩
  have plans : (⟨laterAttemptId, cohort, intermediateDocument, finalDocument, desiredFragments promotions⟩ : ChainPlan) =
        ChainPlan.reissued ⟨attemptId, allocated.2, intermediateDocument, finalDocument,
          desiredFragments promotions⟩ cohort laterAttemptId := rfl
  rw [plans]
  refine (twins.enqueueChain env now laterAttemptId sameCohort actions _ authority).bind ?_
  exact fun first second progress => .ok ⟨rfl, progress.2⟩

end

/-! ### The pruned store -/

theorem pruneConsumedCarriers_pruned (fragment : Fragment) (existing : List Nat) :
    pruneConsumedCarriers (pruneConsumedCarriers fragment existing) existing = pruneConsumedCarriers fragment existing := by
  by_cases consumed : (fragment.tables.any fun entry =>
      entry.1.lifecycle && entry.2.any fun row => !existing.contains (idOf row)) = true
  · have kept : ((pruneConsumedCarriers fragment existing).tables.any fun entry =>
        entry.1.lifecycle && entry.2.any fun row => !existing.contains (idOf row)) = false := by
      refine List.any_eq_false.mpr fun entry member stale => ?_
      rw [Bool.and_eq_true] at stale
      obtain ⟨lifecycle, gone⟩ := stale
      obtain ⟨row, listed, absent⟩ := List.any_eq_true.mp gone
      unfold pruneConsumedCarriers at member
      rw [if_pos consumed] at member
      obtain ⟨old, _, rfl⟩ := List.mem_map.mp member
      split at listed
      · have present := (List.mem_filter.mp listed).2
        rw [present] at absent
        cases absent
      · split at lifecycle <;> contradiction
    generalize pruneConsumedCarriers fragment existing = pruned at kept ⊢
    unfold pruneConsumedCarriers
    rw [kept]
    rfl
  · have same : pruneConsumedCarriers fragment existing = fragment := by
      exact if_neg consumed
    rw [same, same]

section

variable (store : PromotionStore)

include store

theorem prunedStore_pruned : prunedStore (prunedStore store) = prunedStore store := by
  have rows : ∀ row : DeviceProjectionStream,
      pruneRow (store.deviceTombstones.map (·.id)) (pruneRow (store.deviceTombstones.map (·.id)) row) =
        pruneRow (store.deviceTombstones.map (·.id)) row := by
    intro row
    unfold pruneRow
    cases row.authorizedDocument with
    | none => rfl
    | some fragment =>
      dsimp only [Option.map_some]
      rw [pruneConsumedCarriers_pruned]
  have streams : (prunedStore (prunedStore store)).db.streams = (prunedStore store).db.streams := by
    have twice := @updateWhere_updateWhere _ (fun row : DeviceProjectionStream => row.deviceId == store.deviceId && true) store.db.streams
      (pruneRow (store.deviceTombstones.map (·.id))) (pruneRow (store.deviceTombstones.map (·.id)))
      fun _ chosen => chosen
    rw [funext rows] at twice
    exact twice
  change ({ prunedStore store with db := { (prunedStore store).db with
    streams := (prunedStore (prunedStore store)).db.streams } } : PromotionStore) = _
  rw [streams]

theorem chainStore_pruned (selections : List Selection) : chainStore (prunedStore store) selections = chainStore store selections := by
  unfold chainStore
  split
  · exact prunedStore_pruned (promoteStaticRouteClears store)
  · exact prunedStore_pruned store

theorem streamRow_pruned (stream : ProjectionStream) : (prunedStore store).streamRow stream =
      (store.streamRow stream).map (pruneRow (store.deviceTombstones.map (·.id))) := by
  unfold prunedStore
  rw [streamRow_updateStreams store (fun _ => true) (pruneRow (store.deviceTombstones.map (·.id))) (fun _ => rfl) (fun _ => rfl) stream]
  simp only [if_true]

theorem selectPromotion_pruned (stream : ProjectionStream) (selector : Nat) :
    selectPromotion (prunedStore store) stream selector = selectPromotion store stream selector := by
  have prepared : resolvePreparedSelection ((prunedStore store).streamRow stream) selector =
      resolvePreparedSelection (store.streamRow stream) selector := by
    rw [streamRow_pruned]
    unfold resolvePreparedSelection
    cases store.streamRow stream with
    | none => rfl
    | some row =>
      dsimp only [Option.map_some, Option.bind_some, pruneRow]
      cases row.preparedRevision <;> rfl
  have receipt : resolveReceiptSelection (prunedStore store) stream selector = resolveReceiptSelection store stream selector := by
    unfold resolveReceiptSelection
    rw [streamRow_pruned, show (prunedStore store).receipts = store.receipts from rfl]
    cases store.receipts stream with
    | none => rfl
    | some receipt => cases store.streamRow stream <;> rfl
  unfold selectPromotion
  rw [prepared, receipt]

theorem selectedPromotions_pruned (selected : Dict ProjectionStream Nat) :
    selectedPromotions (prunedStore store) selected = selectedPromotions store selected :=
  mapM_congr fun entry _ => by rw [selectPromotion_pruned]

end

/-! ### Preview and apply -/

theorem idle_of_activeJob {db : Database} {deviceId : Nat} (none : activeJob db deviceId = none) : Idle db deviceId := by
  intro job member
  have empty : (db.jobs.filter fun job => job.deviceId == some deviceId && job.status.live) = [] := by
    unfold activeJob at none
    rw [List.head?_eq_none_iff] at none
    exact orderBy_eq_nil.mp none
  have other := List.filter_eq_nil_iff.mp empty job member
  by_contra joined
  rw [Bool.not_eq_false, Bool.and_eq_true, Bool.and_eq_true, Bool.and_eq_true] at joined
  obtain ⟨⟨⟨device, _⟩, queued⟩, _⟩ := joined
  rw [device, beq_iff_eq.mp queued] at other
  exact other rfl

theorem chainStore_renumbered (store : PromotionStore) (numbers : Numbers) (selections : List Selection) :
    chainStore (renumbered store numbers) selections = renumbered (chainStore store selections) numbers := by
  unfold chainStore
  split <;> rfl

section

variable {store : PromotionStore} {numbers : Numbers} (env : Environment) (now : Nat)

theorem createApplyChain_agrees (attachable : Attachable store.db)
    (later : Attachable (renumbered store numbers).db) (idle : Idle store.db store.deviceId)
    (selections : List Selection) (attemptId laterAttemptId : Option Nat) :
    Alike (fun first second => first.settled = second.settled ∧
        List.Forall₂ SameLink first.generations second.generations)
      (createApplyChain env (prunedStore store) selections attemptId)
      (createApplyChain { env with now } (renumbered store numbers) selections laterAttemptId) := by
  have queue : (chainStore store selections).db.generations = store.db.generations ∧ (chainStore store selections).db.jobs = store.db.jobs ∧
      (chainStore store selections).db.nextJobId = store.db.nextJobId ∧
      (chainStore store selections).deviceId = store.deviceId := by
    unfold chainStore
    split <;> exact ⟨rfl, rfl, rfl, rfl⟩
  have ready : Attachable (chainStore store selections).db := by
    intro generation member jobId held
    rw [queue.1] at member
    rw [queue.2.2.1]
    exact attachable generation member jobId held
  have readyLater : Attachable (renumbered (chainStore store selections) numbers).db :=
    fun generation member jobId held => later generation (queue.1 ▸ member) jobId held
  have waiting : Idle (chainStore store selections).db (chainStore store selections).deviceId := by
    intro job member
    rw [queue.2.1] at member
    rw [queue.2.2.2]
    exact idle job member
  unfold createApplyChain
  rw [chainPromotions_eq, chainPromotions_eq, chainStore_pruned, chainStore_renumbered, bind_mapped, bind_mapped]
  refine Alike.bind_same fun promotions _ => ?_
  exact deliverPromotions_agrees env now ready readyLater waiting promotions _ _

theorem actionApply_agrees (attachable : Attachable store.db)
    (later : Attachable (renumbered store numbers).db) (selected : Dict ProjectionStream Nat)
    (attemptId laterAttemptId : Nat) :
    Alike SameApply (actionApply env (prunedStore store) selected attemptId)
      (actionApply { env with now } (renumbered store numbers) selected laterAttemptId) := by
  unfold actionApply
  rw [selectedPromotions_pruned]
  refine Alike.bind_same fun resolved _ => ?_
  split
  · exact .ok ⟨rfl, .nil⟩
  rw [show activeJob (prunedStore store).db (prunedStore store).deviceId = activeJob store.db store.deviceId from rfl,
    show activeJob (renumbered store numbers).db (renumbered store numbers).deviceId = activeJob store.db store.deviceId from rfl]
  cases active : activeJob store.db store.deviceId with
  | some job => exact .error _
  | none =>
    have chains := createApplyChain_agrees env now attachable later (idle_of_activeJob active)
      (promotable resolved) (some attemptId) (some laterAttemptId)
    generalize createApplyChain env (prunedStore store) (promotable resolved) (some attemptId) = first at chains ⊢
    generalize createApplyChain { env with now } (renumbered store numbers) (promotable resolved) (some laterAttemptId) = second at chains ⊢
    cases chains with
    | error refused => exact .error _
    | ok same => exact .ok ⟨by rw [same.1], same.2⟩

end

def PlannedLink.inputs (link : PlannedLink) : GenerationMode × String × ExecutionPolicy :=
  (link.mode, link.digest, link.policy)

def generationInputs (generation : DeploymentGeneration) : GenerationMode × String × ExecutionPolicy :=
  (generation.mode, generation.digest, executionPolicy generation)

theorem captureLinks_inputs {encoders : Encoders} {authorized : Fragments} {live : ServiceState}
    {generations : List DeploymentGeneration} {links : List PlannedLink}
    (captured : generations.mapM (captureLink encoders authorized live) = .ok links) :
    links.map PlannedLink.inputs = generations.map generationInputs := by
  have each := forall₂_of_mapM captured
  clear captured
  induction each with
  | nil => rfl
  | cons first _ ih =>
    rw [List.map_cons, List.map_cons, ih]
    congr 1
    obtain ⟨_, _, first⟩ := bind_eq_ok.mp first
    obtain ⟨_, _, first⟩ := bind_eq_ok.mp first
    obtain ⟨_, _, first⟩ := bind_eq_ok.mp first
    obtain ⟨_, _, first⟩ := bind_eq_ok.mp first
    cases first
    rfl

theorem inputs_of_sameLink {first second : List DeploymentGeneration} (links : List.Forall₂ SameLink first second) :
    first.map generationInputs = second.map generationInputs := by
  induction links with
  | nil => rfl
  | cons same _ ih =>
    rw [List.map_cons, List.map_cons, ih]
    unfold generationInputs
    rw [same.mode, same.digest, same.policy]

theorem planActionApply_agrees {encoders : Encoders} {moment : Moment} {expected : DeviceContext}
    {live : ServiceState} {selected : Dict ProjectionStream Nat} {planned : PlannedChain}
    (plans : planActionApply encoders moment expected live selected = .ok (.ok planned))
    {numbers : Numbers} (attachable : Attachable moment.store.db)
    (later : Attachable (renumbered moment.store numbers).db) (now attemptId : Nat) :
    ∃ result, actionApply (encoders.environment now) (renumbered moment.store numbers) selected attemptId = .ok result ∧
      result.generations.map generationInputs = planned.links.map PlannedLink.inputs ∧
      result.skipped = planned.skipped := by
  obtain ⟨refreshed, baseline, creation, refreshes, _, creates, captures⟩ := planActionApply_ok plans
  rw [refreshConsumedCarriers_nil] at refreshes
  cases refreshes
  cases creation with
  | error conflict => cases captures
  | ok first =>
    obtain ⟨links, captured, returned⟩ := bind_eq_ok.mp captures
    cases returned
    have agrees := actionApply_agrees (encoders.environment moment.now) now attachable later selected moment.attemptId attemptId
    rw [planCreation_planned creates] at agrees
    cases again : actionApply { encoders.environment moment.now with now } (renumbered moment.store numbers) selected attemptId with
    | error refused =>
      rw [again] at agrees
      cases agrees
    | ok result =>
      rw [again] at agrees
      cases agrees with
      | ok same =>
        refine ⟨result, again, ?_, same.skipped.symm⟩
        rw [captureLinks_inputs captured]
        exact (inputs_of_sameLink same.links).symm

end NsoAdapter.Preflight
