import NsoAdapter.Core.ChainLaws
import NsoAdapter.Preflight.Settlement

/-! Two runs of `_create_apply_chain` over one device. They find the same rows and allocate
other identifiers; no identifier reaches what a link sends. -/

namespace NsoAdapter.Preflight
open Lib Projection Store NsoAdapter.Core StaticRoute

/-- The queue of a store: its jobs, its chain and the sequences. -/
structure Queue where
  jobs : List Job
  generations : List DeploymentGeneration
  lastSeq : Nat → Nat
  nextJobId : Nat
  nextGenerationId : Nat
  nextPendingClearId : Nat
  nextCohort : Nat

def requeued (store : PromotionStore) (queue : Queue) : PromotionStore :=
  { store with
    db := { store.db with
      jobs := queue.jobs
      generations := queue.generations
      lastSeq := queue.lastSeq
      nextJobId := queue.nextJobId
      nextGenerationId := queue.nextGenerationId }
    nextPendingClearId := queue.nextPendingClearId
    nextCohort := queue.nextCohort }

structure SameLink (left right : DeploymentGeneration) : Prop where
  mode : left.mode = right.mode
  digest : left.digest = right.digest
  policy : executionPolicy left = executionPolicy right
  allowed : left.allowedRemovalKeys = right.allowedRemovalKeys
  cohort : left.settlementCohort.isSome = right.settlementCohort.isSome

/-! ### Creating a generation -/

section

variable (store : PromotionStore) (queue : Queue)

theorem refreshConsumedCarriers_requeued (tombstoneIds : List Nat) : refreshConsumedCarriers (requeued store queue) tombstoneIds =
      (refreshConsumedCarriers store tombstoneIds).map (requeued · queue) := by
  unfold refreshConsumedCarriers
  dsimp only
  change (if (tombstoneIds.filter fun tombstoneId =>
    !(store.deviceTombstones.map (·.id)).contains tombstoneId).isEmpty then _ else _) = _
  split <;> rfl

theorem authorizeStreams_requeued (promotions : List StreamPromotion) :
    authorizeStreams (requeued store queue) promotions = requeued (authorizeStreams store promotions) queue := by
  exact List.foldl_hom (requeued · queue) fun _ _ => rfl

theorem composePromoted_requeued (given : Option Document) (promotions : List StreamPromotion) :
    composePromoted (requeued store queue) given promotions = (composePromoted store given promotions).map fun composed =>
        (requeued composed.1 queue, composed.2) := by
  unfold composePromoted
  cases given with
  | some document => rfl
  | none =>
    rw [refreshConsumedCarriers_requeued, bind_mapped, map_bound]
    refine bind_congr fun current => ?_
    rw [map_bound]
    exact bind_congr fun document => rfl

end

/-- A generation before it is stored: the store that it is written to and its content. -/
def preparedGeneration (store : PromotionStore) (request : GenerationRequest) :
    Except PromotionError (PromotionStore × GenerationContent) :=
  if request.streams.isEmpty then
    .error .noStreams
  else do
    let refreshed ← refreshConsumedCarriers store request.tombstoneIds
    let promotions ← (sortedStreams request.streams).mapM (promoteStream refreshed request.frozen)
    let composed ←
      composePromoted (authorizeStreams refreshed promotions) request.document promotions
    let content := request.content promotions composed.2
    match content.removalContext with
    | none => return (composed.1, content)
    | some context => do
        let document ← addressSection (deviceCarriers composed.1.db composed.1.deviceId) composed.2
          ⟨context, request.tombstoneIds, request.dischargedClearIds, request.immediateClearStreams⟩
          content.allowedRemovalKeys
        return (composed.1, { content with document })

/-- Write a prepared generation. -/
def storePrepared (env : Environment) (prepared : PromotionStore × GenerationContent) :
    PromotionStore × DeploymentGeneration :=
  let inserted := insertGeneration env.digestDocument prepared.1.db prepared.1.deviceId prepared.2
  ({ prepared.1 with db := inserted.1 }, inserted.2)

theorem createGeneration_eq (env : Environment) (store : PromotionStore) (request : GenerationRequest) :
    createGeneration env store request = (preparedGeneration store request).map (storePrepared env) := by
  unfold createGeneration preparedGeneration
  split
  · rfl
  rw [map_bound]
  refine bind_congr fun refreshed => ?_
  rw [map_bound]
  refine bind_congr fun promotions => ?_
  rw [map_bound]
  refine bind_congr fun composed => ?_
  dsimp only
  unfold storeGeneration
  cases (request.content promotions composed.2).removalContext with
  | none => rfl
  | some context =>
    dsimp only [GenerationRequest.content]
    rw [map_bound]
    cases addressSection (deviceCarriers composed.1.db composed.1.deviceId) composed.2
      ⟨context, request.tombstoneIds, request.dischargedClearIds, request.immediateClearStreams⟩ request.allowedRemovalKeys <;> rfl

def GenerationRequest.reissued (request : GenerationRequest) (cohort attemptId : Option Nat) : GenerationRequest :=
  { request with settlementCohort := cohort, applyAttemptId := attemptId }

theorem preparedGeneration_requeued (store : PromotionStore) (queue : Queue) (request : GenerationRequest) (cohort attemptId : Option Nat) :
    preparedGeneration (requeued store queue) (GenerationRequest.reissued request cohort attemptId) =
      (preparedGeneration store request).map fun prepared =>
        (requeued prepared.1 queue, { prepared.2 with settlementCohort := cohort, applyAttemptId := attemptId }) := by
  have streams : (GenerationRequest.reissued request cohort attemptId).streams = request.streams := rfl
  unfold preparedGeneration
  by_cases empty : request.streams.isEmpty = true
  · rw [if_pos (streams ▸ empty), if_pos empty]
    rfl
  · rw [if_neg (streams ▸ empty), if_neg empty]
    dsimp only [GenerationRequest.reissued]
    rw [refreshConsumedCarriers_requeued, bind_mapped, map_bound]
    refine bind_congr fun refreshed => ?_
    rw [map_bound]
    refine bind_congr fun promotions => ?_
    rw [authorizeStreams_requeued, composePromoted_requeued, bind_mapped, map_bound]
    refine bind_congr fun composed => ?_
    dsimp only [GenerationRequest.content]
    cases request.removalContext with
    | none => rfl
    | some context =>
      rw [map_bound]
      exact bind_congr fun document => rfl

def queueOf (store : PromotionStore) : Queue :=
  ⟨store.db.jobs, store.db.generations, store.db.lastSeq, store.db.nextJobId,
    store.db.nextGenerationId, store.nextPendingClearId, store.nextCohort⟩

variable {request : GenerationRequest} {created : PromotionStore × DeploymentGeneration}

variable {store : PromotionStore}

theorem preparedGeneration_queue {prepared : PromotionStore × GenerationContent}
    (prepares : preparedGeneration store request = .ok prepared) :
    queueOf prepared.1 = queueOf store := by
  have again : preparedGeneration store request = _ :=
    preparedGeneration_requeued store (queueOf store) request request.settlementCohort request.applyAttemptId
  rw [prepares] at again
  exact congrArg (fun found => queueOf found.1) (Except.ok.inj again)

theorem refreshConsumedCarriers_deviceId {after : PromotionStore} {selected : List Nat}
    (refreshes : refreshConsumedCarriers store selected = .ok after) :
    after.deviceId = store.deviceId := by
  unfold refreshConsumedCarriers at refreshes
  dsimp only at refreshes
  split at refreshes
  · cases refreshes
    rfl
  · cases refreshes

theorem authorizeStreams_deviceId (store : PromotionStore) (promotions : List StreamPromotion) :
    (authorizeStreams store promotions).deviceId = store.deviceId := by
  induction promotions generalizing store with
  | nil => rfl
  | cons promotion rest ih => exact ih (store.updateStreams _ _)

theorem preparedGeneration_deviceId {prepared : PromotionStore × GenerationContent}
    (prepares : preparedGeneration store request = .ok prepared) :
    prepared.1.deviceId = store.deviceId := by
  unfold preparedGeneration at prepares
  split at prepares
  · cases prepares
  obtain ⟨refreshed, refreshes, prepares⟩ := bind_eq_ok.mp prepares
  obtain ⟨promotions, _, prepares⟩ := bind_eq_ok.mp prepares
  obtain ⟨composed, composes, prepares⟩ := bind_eq_ok.mp prepares
  have device : composed.1.deviceId = store.deviceId := by
    have authorized := authorizeStreams_deviceId refreshed promotions
    rw [refreshConsumedCarriers_deviceId refreshes] at authorized
    rw [← authorized]
    unfold composePromoted at composes
    split at composes
    · cases composes
      rfl
    · obtain ⟨current, again, composes⟩ := bind_eq_ok.mp composes
      obtain ⟨document, _, returned⟩ := bind_eq_ok.mp composes
      cases returned
      exact refreshConsumedCarriers_deviceId again
  dsimp only at prepares
  split at prepares
  · cases prepares
    exact device
  · obtain ⟨document, _, returned⟩ := bind_eq_ok.mp prepares
    cases returned
    exact device

/-! ### Admitting a link -/

/-- No generation is bound to a job that has no number yet. -/
def Attachable (db : Database) : Prop :=
  ∀ generation ∈ db.generations, ∀ jobId, generation.jobId = some jobId → jobId < db.nextJobId

/-- No queued apply of the device can be joined. -/
def Idle (db : Database) (deviceId : Nat) : Prop :=
  ∀ job ∈ db.jobs, (job.deviceId == some deviceId && job.jobType == .apply &&
    job.status == .queued && job.coalescible) = false

section

variable {db : Database} (deviceId : Nat) (jobType : JobType) (coalescible : Bool)
  (context : Option JobContext) (generation : DeploymentGeneration) (now : Nat)

def carriedBy (db : Database) : Database :=
  bindToJob (insertJob db (some deviceId) jobType coalescible context now).1 generation.id
    db.nextJobId

theorem attachToJob_fresh (attachable : Attachable db) :
    attachToJob (insertJob db (some deviceId) jobType coalescible context now).1 generation
        (insertJob db (some deviceId) jobType coalescible context now).2 =
      .ok (carriedBy deviceId jobType coalescible context generation now db, true) := by
  have unbound : (insertJob db (some deviceId) jobType coalescible context now).1.jobGenerations db.nextJobId = [] := by
    refine orderBy_eq_nil.mpr (List.filter_eq_nil_iff.mpr fun row member held => ?_)
    have below := attachable row member db.nextJobId (beq_iff_eq.mp held)
    omega
  unfold attachToJob
  rw [show (insertJob db (some deviceId) jobType coalescible context now).2.id = db.nextJobId from rfl, unbound]
  rfl

theorem attachDedicatedJob_fresh (attachable : Attachable db) (writing : jobType.deviceWriting = true) :
    attachDedicatedJob db deviceId jobType context generation now = .ok (carriedBy deviceId jobType false context generation now db,
        (insertJob db (some deviceId) jobType false context now).2) := by
  unfold attachDedicatedJob createDedicatedJob
  rw [if_pos writing]
  dsimp only
  unfold requireAttachToJob
  rw [attachToJob_fresh deviceId jobType false context generation now attachable]

variable {deviceId jobType coalescible context generation now}

theorem Attachable.carriedBy (attachable : Attachable db) :
    Attachable (carriedBy deviceId jobType coalescible context generation now db) := by
  intro row member jobId held
  obtain ⟨old, present, rfl⟩ := mem_updateWhere.mp member
  split at held
  · cases held
    exact Nat.lt_succ_self _
  · exact (attachable old present jobId held).trans (Nat.lt_succ_self _)

theorem Attachable.insertGeneration (attachable : Attachable db) (digestDocument : DocumentDigest) (content : GenerationContent) :
    Attachable (insertGeneration digestDocument db deviceId content).1 := by
  intro row member jobId held
  rcases List.mem_append.mp member with old | new
  · exact attachable row old jobId held
  · rw [List.mem_singleton.mp new] at held
    cases held

theorem Idle.carriedBy {device : Nat} (idle : Idle db device) :
    Idle (carriedBy deviceId jobType false context generation now db) device := by
  intro job member
  rcases List.mem_append.mp member with old | new
  · exact idle job old
  · rw [List.mem_singleton.mp new]
    exact Bool.and_false _

theorem Idle.lockQueuedWinner (idle : Idle db deviceId) : lockQueuedWinner db deviceId .apply = none := by
  have none : (db.jobs.filter fun job => job.deviceId == some deviceId && job.jobType == .apply &&
      job.status == .queued && job.coalescible) = [] :=
    List.filter_eq_nil_iff.mpr fun job member => Bool.eq_false_iff.mp (idle job member)
  unfold Core.lockQueuedWinner
  rw [none]
  rfl

end

structure Twins (idle : Prop) (left right : PromotionStore) : Prop where
  rows : right = requeued left (queueOf right)
  attachable : Attachable left.db ∧ Attachable right.db
  idle : idle → Idle left.db left.deviceId ∧ Idle right.db right.deviceId

def ChainPlan.reissued (plan : ChainPlan) (cohort attemptId : Option Nat) : ChainPlan :=
  { plan with cohort, applyAttemptId := attemptId }

theorem settlePendingClears_requeued (store : PromotionStore) (queue : Queue)
    (scope : DocumentSection) (promotes : List ProjectionStream) (mode : GenerationMode)
    (force : Bool) :
    settlePendingClears (requeued store queue) scope promotes mode force =
      requeued (settlePendingClears store scope promotes mode force) queue := by
  unfold settlePendingClears
  split
  · rfl
  · split <;> rfl

theorem settlePendingClears_db (store : PromotionStore) (scope : DocumentSection)
    (promotes : List ProjectionStream) (mode : GenerationMode) (force : Bool) :
    (settlePendingClears store scope promotes mode force).db = store.db ∧
      (settlePendingClears store scope promotes mode force).deviceId = store.deviceId := by
  unfold settlePendingClears
  split
  · exact ⟨rfl, rfl⟩
  · split <;> exact ⟨rfl, rfl⟩

def linkClears (store : PromotionStore) (plan : ChainPlan) (union : RemovalAuthority)
    (classified : ClassifiedLink) : List Nat :=
  let admission := linkAdmission plan union classified
  pendingClearsDischargedBy store
    (dischargedStreams admission.request.scope admission.promotes admission.request.mode false)

def linkRequest (store : PromotionStore) (plan : ChainPlan) (union : RemovalAuthority)
    (classified : ClassifiedLink) : GenerationRequest :=
  let admission := linkAdmission plan union classified
  { streams := admission.promotes, mode := admission.request.mode
    allowedRemovalKeys := admission.allowedRemovalKeys.getD
      (scopeQualified admission.request.scope admission.request.removedKeys)
    document := admission.document, removalContext := some admission.request.context
    settlementCohort := plan.cohort, tombstoneIds := []
    dischargedClearIds := linkClears store plan union classified
    applyAttemptId := plan.applyAttemptId, frozen := plan.frozen
    immediateClearStreams := admission.immediateClearStreams }

def linkEnqueued (env : Environment) (plan : ChainPlan) (union : RemovalAuthority)
    (classified : ClassifiedLink) (created : PromotionStore × DeploymentGeneration) :
    PromotionStore × DeploymentGeneration :=
  let admission := linkAdmission plan union classified
  (settlePendingClears
    { created.1 with
      db := carriedBy created.1.deviceId .removal false (some (.removal admission.request.context))
        created.2 env.now created.1.db }
    admission.request.scope admission.promotes admission.request.mode false, created.2)

variable {env : Environment}

theorem createGeneration_attachable (attachable : Attachable store.db) (creates : createGeneration env store request = .ok created) :
    Attachable created.1.db := by
  rw [createGeneration_eq] at creates
  obtain ⟨prepared, prepares, rfl⟩ := map_eq_ok.mp creates
  have queue := preparedGeneration_queue prepares
  have generations : prepared.1.db.generations = store.db.generations := congrArg Queue.generations queue
  have nextJobId : prepared.1.db.nextJobId = store.db.nextJobId := congrArg Queue.nextJobId queue
  have ready : Attachable prepared.1.db := by
    intro row member jobId held
    rw [generations] at member
    rw [nextJobId]
    exact attachable row member jobId held
  exact ready.insertGeneration env.digestDocument prepared.2

theorem createGeneration_idle (idle : Idle store.db store.deviceId) (creates : createGeneration env store request = .ok created) :
    Idle created.1.db created.1.deviceId := by
  rw [createGeneration_eq] at creates
  obtain ⟨prepared, prepares, rfl⟩ := map_eq_ok.mp creates
  have jobs : prepared.1.db.jobs = store.db.jobs := congrArg Queue.jobs (preparedGeneration_queue prepares)
  have device : (storePrepared env prepared).1.deviceId = store.deviceId := preparedGeneration_deviceId prepares
  intro job member
  rw [device]
  exact idle job (jobs ▸ member)

theorem createGeneration_device (creates : createGeneration env store request = .ok created) : created.2.deviceId = created.1.deviceId := by
  rw [createGeneration_eq] at creates
  obtain ⟨prepared, _, rfl⟩ := map_eq_ok.mp creates
  rfl

theorem enqueueRemoval_link (env : Environment) (attachable : Attachable store.db) (plan : ChainPlan) (union : RemovalAuthority)
    (classified : ClassifiedLink) :
    enqueueRemoval env store (linkAdmission plan union classified) = match (linkAdmission plan union classified).request.refusal with
      | some refused => .error refused
      | none => (createGeneration env store (linkRequest store plan union classified)).map (linkEnqueued env plan union classified) := by
  have recorded : recordDeferredClears store (linkAdmission plan union classified) = .ok store := by
    unfold recordDeferredClears
    rw [show (linkAdmission plan union classified).request.deferRetract = false from rfl, Bool.and_false, Bool.false_and]
    rfl
  unfold enqueueRemoval
  dsimp only
  cases (linkAdmission plan union classified).request.refusal with
  | some refused => rfl
  | none =>
    rw [recorded]
    change (createGeneration env store (linkRequest store plan union classified) >>= _) = _
    cases creates : createGeneration env store (linkRequest store plan union classified) with
    | error refused => rfl
    | ok created =>
      have ready := createGeneration_attachable attachable creates
      change (created.1.over (attachDedicatedJob _ _ _ _ _ _) >>= _) = _
      rw [attachDedicatedJob_fresh _ .removal _ _ _ ready rfl]
      rfl

/-! ### Two runs of a chain -/

section

variable {idle : Prop} {left right : PromotionStore} (env : Environment) (now : Nat)
  (plan : ChainPlan) (cohort attemptId : Option Nat)

theorem Twins.settlePendingClears (twins : Twins idle left right) (scope : DocumentSection)
    (promotes : List ProjectionStream) (mode : GenerationMode) (force : Bool) :
    Twins idle (settlePendingClears left scope promotes mode force) (settlePendingClears right scope promotes mode force) := by
  have leftDb := settlePendingClears_db left scope promotes mode force
  have rightDb := settlePendingClears_db right scope promotes mode force
  refine ⟨?_, ?_, ?_⟩
  · rw [twins.rows, settlePendingClears_requeued]
    rfl
  · rw [leftDb.1, rightDb.1]
    exact twins.attachable
  · rw [leftDb.1, leftDb.2, rightDb.1, rightDb.2]
    exact twins.idle

theorem Twins.createGeneration (twins : Twins idle left right) (request : GenerationRequest)
    (sameCohort : request.settlementCohort.isSome = cohort.isSome) :
    Alike (fun first second => (Twins idle first.1 second.1 ∧ SameLink first.2 second.2) ∧
        first.2.deviceId = first.1.deviceId ∧ second.2.deviceId = second.1.deviceId)
      (createGeneration env left request)
      (createGeneration { env with now } right (GenerationRequest.reissued request cohort attemptId)) := by
  have again : preparedGeneration right (GenerationRequest.reissued request cohort attemptId) =
      (preparedGeneration left request).map fun prepared => (requeued prepared.1 (queueOf right),
        { prepared.2 with settlementCohort := cohort, applyAttemptId := attemptId }) := by
    conv_lhs => rw [twins.rows]
    exact preparedGeneration_requeued left (queueOf right) request cohort attemptId
  have content : ∀ prepared, preparedGeneration left request = .ok prepared → prepared.2.settlementCohort = request.settlementCohort := by
    intro prepared prepares
    have same := preparedGeneration_requeued left (queueOf left) request request.settlementCohort request.applyAttemptId
    rw [show requeued left (queueOf left) = left from rfl,
      show GenerationRequest.reissued request request.settlementCohort request.applyAttemptId = request from rfl, prepares] at same
    exact congrArg (fun found => found.2.settlementCohort) (Except.ok.inj same)
  cases prepares : preparedGeneration left request with
  | error refused =>
    rw [createGeneration_eq, createGeneration_eq, again, prepares]
    exact .error refused
  | ok prepared =>
    have creates : Core.createGeneration env left request = .ok (storePrepared env prepared) := by
      rw [createGeneration_eq, prepares]
      rfl
    have other : Core.createGeneration { env with now } right (GenerationRequest.reissued request cohort attemptId) =
          .ok (storePrepared { env with now } (requeued prepared.1 (queueOf right),
            { prepared.2 with settlementCohort := cohort, applyAttemptId := attemptId })) := by
      rw [createGeneration_eq, again, prepares]
      rfl
    rw [creates, other]
    refine .ok ⟨⟨⟨rfl, ?_, ?_⟩, ?_⟩, createGeneration_device creates, createGeneration_device other⟩
    · exact ⟨createGeneration_attachable twins.attachable.1 creates, createGeneration_attachable twins.attachable.2 other⟩
    · exact fun holds => ⟨createGeneration_idle (twins.idle holds).1 creates, createGeneration_idle (twins.idle holds).2 other⟩
    · exact ⟨rfl, rfl, rfl, rfl, (congrArg Option.isSome (content prepared prepares)).trans sameCohort⟩

theorem Twins.enqueueRemoval (twins : Twins idle left right) (sameCohort : plan.cohort.isSome = cohort.isSome) (union : RemovalAuthority)
    (classified : ClassifiedLink) :
    Alike (fun first second => Twins idle first.1 second.1 ∧ SameLink first.2 second.2)
      (enqueueRemoval env left (linkAdmission plan union classified))
      (enqueueRemoval { env with now } right (linkAdmission (ChainPlan.reissued plan cohort attemptId) union classified)) := by
  have request : linkRequest right (ChainPlan.reissued plan cohort attemptId) union classified =
      GenerationRequest.reissued (linkRequest left plan union classified) cohort attemptId := by
    rw [twins.rows]
    rfl
  rw [enqueueRemoval_link env twins.attachable.1, enqueueRemoval_link { env with now } twins.attachable.2, request,
    show (linkAdmission (ChainPlan.reissued plan cohort attemptId) union classified).request =
      (linkAdmission plan union classified).request from rfl]
  cases (linkAdmission plan union classified).request.refusal with
  | some refused => exact .error refused
  | none =>
    refine (twins.createGeneration env now cohort attemptId _ sameCohort).map ?_
    rintro first second ⟨⟨stored, same⟩, _⟩
    refine ⟨Twins.settlePendingClears ⟨?_, ?_, ?_⟩ _ _ _ _, same⟩
    · rw [stored.rows]
      rfl
    · exact ⟨stored.attachable.1.carriedBy, stored.attachable.2.carriedBy⟩
    · exact fun holds => ⟨(stored.idle holds).1.carriedBy, (stored.idle holds).2.carriedBy⟩

end

end NsoAdapter.Preflight
