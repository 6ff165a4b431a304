import NsoAdapter.Core.PromotionStore

/-! The promotion chain (`_create_apply_chain`): every selected stream is frozen
once, its removals are split by marking, and the ordered links that deliver it are
enqueued with one intermediate and one final document. -/

namespace NsoAdapter.Core
open Lib Projection Store StaticRoute
open Intent

variable (env : Environment)

def sectionStreams (scope : DocumentSection) : List ProjectionStream :=
  ProjectionStream.all.filter fun stream => stream.streamSection == scope

def dischargedStreams (scope : DocumentSection) (promotes : List ProjectionStream)
    (mode : GenerationMode) (force : Bool) : List ProjectionStream :=
  if force then sectionStreams scope
  else if scope ≠ .staticRoute ∧ mode = .networked then promotes
  else []

def pendingClearsDischargedBy (store : PromotionStore) (streams : List ProjectionStream) : List Nat :=
  orderBy id ((store.pendingClears.filter fun clear => streams.contains clear.stream).map (·.id))

def desiredRevisionOf (store : PromotionStore) (stream : ProjectionStream) : Option Nat :=
  (store.streamRow stream).map (·.desiredRevision)

/-- `_record_pending_clears` of an authorized push, one stream. -/
def recordPendingClear (store : PromotionStore) (stream : ProjectionStream) : Except PromotionError PromotionStore :=
  match desiredRevisionOf store stream with
  | none => .error (.noAcceptedWrite stream)
  | some revision =>
    if store.pendingClears.any fun clear => clear.stream == stream then
      .ok { store with
        pendingClears := updateWhere (fun clear => clear.stream == stream)
          (fun clear => { clear with authorized := true, revision := max revision clear.revision })
          store.pendingClears }
    else
      .ok { store with
        pendingClears := store.pendingClears ++ [⟨store.nextPendingClearId, stream, true, revision⟩]
        nextPendingClearId := store.nextPendingClearId + 1 }

/-- `_settle_pending_clears_at_admission`: a networked carrier delivers every recorded
omission of its streams, a detach authorizes what is parked. -/
def settlePendingClears (store : PromotionStore) (scope : DocumentSection)
    (promotes : List ProjectionStream) (mode : GenerationMode) (force : Bool) : PromotionStore :=
  if force ∨ (scope ≠ .staticRoute ∧ mode = .networked) then
    { store with
      pendingClears := store.pendingClears.filter fun clear =>
        !(dischargedStreams scope promotes mode force).contains clear.stream }
  else if scope = .staticRoute then
    store
  else
    { store with
      pendingClears := updateWhere (fun clear => promotes.contains clear.stream)
        (fun clear => { clear with
          authorized := true
          revision := max clear.revision ((desiredRevisionOf store clear.stream).getD 0) })
        store.pendingClears }

structure RemovalAdmission where
  request : RemovalRequest
  promotes : List ProjectionStream
  settlementCohort : Option Nat
  allowedRemovalKeys : Option RemovalAuthority
  document : Option Document
  tombstoneIds : List Nat
  applyAttemptId : Option Nat
  frozen : Fragments

/-- The streams whose clear this admission delivers with no parked carrier. -/
def RemovalAdmission.immediateClearStreams (admission : RemovalAdmission) : List ProjectionStream :=
  if admission.request.retract && !admission.request.deferRetract &&
      admission.request.mode == .networked && admission.request.scope != .staticRoute then
    admission.promotes
  else []

/-- The generation of one removal: a reissue when it is forced. -/
def createRemovalGeneration (store : PromotionStore) (admission : RemovalAdmission) (dischargedClearIds : List Nat) :
    Except PromotionError (PromotionStore × DeploymentGeneration) :=
  let request := admission.request
  if request.force then
    createReissueGeneration env store request.mode (some request.context) [] [] dischargedClearIds
  else
    createGeneration env store
      { streams := admission.promotes, mode := request.mode
        allowedRemovalKeys := admission.allowedRemovalKeys.getD
          (scopeQualified request.scope request.removedKeys)
        document := admission.document, removalContext := some request.context
        settlementCohort := admission.settlementCohort, tombstoneIds := admission.tombstoneIds
        dischargedClearIds, applyAttemptId := admission.applyAttemptId
        frozen := admission.frozen
        immediateClearStreams := admission.immediateClearStreams }

def PromotionStore.over (store : PromotionStore)
    (result : Except PromotionError (Database × Job)) : Except PromotionError PromotionStore :=
  match result with
  | .error refused => .error refused
  | .ok (db, _) => .ok { store with db }

def recordDeferredClears (store : PromotionStore) (admission : RemovalAdmission) :
    Except PromotionError PromotionStore :=
  if admission.request.retract && admission.request.deferRetract &&
      admission.request.scope != .staticRoute then
    (sortedStreams admission.promotes).foldlM recordPendingClear store
  else
    .ok store

/-- `enqueue_removal` outside a store-only request. -/
def enqueueRemoval (store : PromotionStore) (admission : RemovalAdmission) :
    Except PromotionError (PromotionStore × DeploymentGeneration) :=
  let request := admission.request
  match request.refusal with
  | some refused => .error refused
  | none => do
      let recorded ← recordDeferredClears store admission
      let (created, generation) ← createRemovalGeneration env recorded admission
        (pendingClearsDischargedBy recorded
          (dischargedStreams request.scope admission.promotes request.mode request.force))
      let carried ← created.over (attachDedicatedJob created.db created.deviceId .removal
        (some (.removal request.context)) generation env.now)
      return (settlePendingClears carried request.scope admission.promotes request.mode
        request.force, generation)

/-- The coalescible half of `admit_apply_generation`. An explicit attempt never joins a
queued winner, and a noncontiguous generation is left for advancement. -/
def admitCoalescedApply (db : Database) (generation : DeploymentGeneration) (now : Nat) :
    Except PromotionError (Database × Job) :=
  match lockQueuedWinner db generation.deviceId .apply, generation.applyAttemptId with
  | some winner, some _ => .error (.applyJobConflict winner.id)
  | _, _ =>
    match admitCoalescibleJob db generation.deviceId .apply none now with
    | .error refused => .error (.core refused)
    | .ok (admitted, job) =>
      match attachToJob admitted generation job with
      | .error refused => .error (.core refused)
      | .ok (after, _) => .ok (after, job)

def admitApplyGeneration (db : Database) (generation : DeploymentGeneration) (now : Nat) :
    Except PromotionError (Database × Job) :=
  if generation.settlementCohort.isSome || !generation.allowedRemovalKeys.isEmpty then
    attachDedicatedJob db generation.deviceId .apply none generation now
  else
    admitCoalescedApply db generation now

/-- `_promote_static_route_clears`, one row. -/
def promoteClear (row : Row) : Row :=
  let carrier := row.get "pending_clear"
  let stored := clearHalf carrier "store_only"
  if stored.isEmpty then
    row
  else
    let fields := orderBy id (clearHalf carrier "authorized" ++ stored).dedup
    Dict.set row "pending_clear"
      (.obj [("authorized", .arr (fields.map Json.str)), ("store_only", .arr [])])

def promoteStaticRouteClears (store : PromotionStore) : PromotionStore :=
  { store with
    intentRows := Function.update store.intentRows .staticRouteIntent
      ((store.intentRows .staticRouteIntent).map promoteClear) }

/-- One resolved selection: a receipt lane, or an out-of-protocol stream at its
prepared revision. -/
structure Selection where
  stream : ProjectionStream
  revision : Option Nat
  prepared : revision.isSome = stream.outOfProtocol

structure Promotion where
  stream : ProjectionStream
  row : DeviceProjectionStream
  desired : Fragment
  networked : Tables
  detached : Tables
  replacement : Tables
  positive : Bool
  revision : Option Nat

def fromProjection {Value : Type} (result : Except ProjectionError Value) : Except PromotionError Value :=
  match result with
  | .error refused => .error (.projection refused)
  | .ok value => .ok value

theorem fromProjection_eq_ok {Value : Type} {result : Except ProjectionError Value} {value : Value} :
    fromProjection result = .ok value ↔ result = .ok value := by
  cases result with
  | error refused => exact ⟨nofun, nofun⟩
  | ok found => exact ⟨fun same => congrArg _ (Except.ok.inj same), fun same => congrArg _ (Except.ok.inj same)⟩

/-- Owned content is networked work too. -/
def preparedDeletions (groups : Option PreparedDeletions) : Tables × Tables :=
  match groups with
  | none => ([], [])
  | some groups =>
    ((groups.deleteOrigin ++ groups.ownedContent).foldl
      (fun tables entry => Dict.set tables entry.1 (tables.rows entry.1 ++ entry.2)) [],
      groups.detach)

def receiptPromotion (store : PromotionStore) (stream : ProjectionStream)
    (row : DeviceProjectionStream) : Except PromotionError Promotion := do
  let receipt := store.receipts stream
  let desired ← freezeLive store stream
  let (networked, detached) ← fromProjection (fragmentDeletions row.authorizedDocument
    desired.tables (privateDeletions (receipt.bind (·.response)))
    ((receipt.map (·.identity.deleteOrigin)).getD false))
  let oldTables := fragmentTables row.authorizedDocument
  let replacement ← fromProjection (contentLosingRows oldTables desired.tables)
  let positive ← fromProjection (hasPositiveDelta oldTables desired.tables)
  return ⟨stream, row, desired, networked, detached, replacement, positive, none⟩

def preparedPromotion (store : PromotionStore) (stream : ProjectionStream)
    (row : DeviceProjectionStream) (revision : Nat) : Except PromotionError Promotion := do
  let tables := row.preparedTables.getD []
  let desired ← freezeStream store.live stream tables
  let (networked, detached) := preparedDeletions row.preparedDeletions
  let oldTables := fragmentTables row.authorizedDocument
  let replacement ← fromProjection (contentLosingRows oldTables tables)
  let positive ← fromProjection (hasPositiveDelta oldTables tables)
  return ⟨stream, row, desired, networked, detached, replacement, positive, some revision⟩

/-- One iteration of the freezing loop of `_create_apply_chain`. -/
def promotionOf (store : PromotionStore) (selection : Selection) : Except PromotionError Promotion :=
  match store.streamRow selection.stream with
  | none => .error (.noAcceptedWrite selection.stream)
  | some row =>
    match selection.revision with
    | none => receiptPromotion store selection.stream row
    | some revision => preparedPromotion store selection.stream row revision

def hasRows (tables : Tables) : Bool :=
  tables.any fun entry => !entry.2.isEmpty

namespace Promotion

def oldTables (promotion : Promotion) : Tables :=
  fragmentTables promotion.row.authorizedDocument

/-- A receipt lane cannot detach and replace in one promotion. -/
def unexecutable (promotion : Promotion) : Bool :=
  hasRows promotion.detached && hasRows promotion.replacement && !promotion.stream.outOfProtocol

def networkedWork (promotion : Promotion) : Bool :=
  hasRows promotion.networked || hasRows promotion.replacement

/-- `_wire_equivalent_streams`. -/
def settleable (promotion : Promotion) : Bool :=
  promotion.stream == .staticRoute || promotion.stream.outOfProtocol

end Promotion

/-- Where `_plan_action_links` schedules the positive half of one stream. -/
inductive PositivePlan where
  | apply | wireEquivalent | nothing
  deriving DecidableEq

/-- The positive half of one stream in `_plan_action_links`. -/
def positivePlan (promotion : Promotion) : Except PromotionError PositivePlan :=
  if !promotion.networkedWork && !hasRows promotion.detached then
    if promotion.settleable && !promotion.positive then
      -- A prepared fragment must prove that its tables did not change.
      if promotion.revision.isSome then
        (fromProjection (tablesUnchanged promotion.oldTables promotion.desired.tables)).map
          fun unchanged => if unchanged then .wireEquivalent else .apply
      else
        .ok .wireEquivalent
    else
      .ok .apply
  else if promotion.positive then
    .ok .apply
  else if hasRows promotion.detached && !promotion.networkedWork && promotion.revision.isSome then
    (fromProjection (retainedTablesChanged promotion.oldTables promotion.desired.tables)).map
      fun changed => if changed then .apply else .nothing
  else
    .ok .nothing

structure RemovalLink where
  stream : ProjectionStream
  mode : GenerationMode
  removed : Tables
  replacement : Tables

structure ActionPlan where
  networkedLinks : List RemovalLink
  detachLinks : List RemovalLink
  applyStreams : List ProjectionStream
  wireEquivalentStreams : List ProjectionStream

def networkedLink (promotion : Promotion) : RemovalLink :=
  ⟨promotion.stream, .networked, promotion.networked, promotion.replacement⟩

def detachLink (promotion : Promotion) : RemovalLink :=
  ⟨promotion.stream, .detach, promotion.detached, []⟩

def plannedStreams (plans : List (ProjectionStream × PositivePlan)) (plan : PositivePlan) : List ProjectionStream :=
  (plans.filter fun entry => entry.2 == plan).map (·.1)

def plannedEntry (promotion : Promotion) : Except PromotionError (ProjectionStream × PositivePlan) := do
  let plan ← positivePlan promotion
  return (promotion.stream, plan)

def actionPlan (promotions : List Promotion) (plans : List (ProjectionStream × PositivePlan)) : ActionPlan where
  networkedLinks := (promotions.filter (·.networkedWork)).map networkedLink
  detachLinks := (promotions.filter fun promotion => hasRows promotion.detached).map detachLink
  applyStreams := plannedStreams plans .apply
  wireEquivalentStreams := plannedStreams plans .wireEquivalent

def planActionLinks (promotions : List Promotion) : Except PromotionError ActionPlan := do
  let plans ← (promotions.filter fun promotion => !promotion.unexecutable).mapM plannedEntry
  if promotions.any (·.unexecutable) then
    .error (.applyUnexecutable ((promotions.filter (·.unexecutable)).map fun promotion =>
      (promotion.stream, .mixedDetachReplacement)))
  else
    .ok (actionPlan promotions plans)

theorem planActionLinks_ok {promotions : List Promotion} {actions : ActionPlan} (planned : planActionLinks promotions = .ok actions) :
    (∀ promotion ∈ promotions, promotion.unexecutable = false) ∧
      ∃ plans, promotions.mapM plannedEntry = .ok plans ∧ actions = actionPlan promotions plans := by
  obtain ⟨plans, mapped, planned⟩ := bind_eq_ok.mp planned
  split at planned
  · cases planned
  rename_i executable
  have each : ∀ promotion ∈ promotions, promotion.unexecutable = false := by
    simpa using executable
  have unfiltered : promotions.filter (fun promotion => !promotion.unexecutable) = promotions :=
    List.filter_eq_self.mpr fun promotion member => by rw [each promotion member]; rfl
  rw [unfiltered] at mapped
  exact ⟨each, plans, mapped, (Except.ok.inj planned).symm⟩

theorem plannedEntry_ok {promotion : Promotion} {entry : ProjectionStream × PositivePlan} (planned : plannedEntry promotion = .ok entry) :
    entry.1 = promotion.stream ∧ positivePlan promotion = .ok entry.2 := by
  obtain ⟨plan, decided, returned⟩ := bind_eq_ok.mp planned
  cases returned
  exact ⟨rfl, decided⟩

def hasPendingStaticRouteClear (fragment : Fragment) : Bool :=
  (fragment.tables.rows .staticRouteIntent).any fun row => (row.get "pending_clear").truthy

def canSettleWireEquivalent (store : PromotionStore) (promotion : Promotion) : Bool :=
  promotion.row.authorizedRevision == promotion.row.appliedRevision &&
    !hasPendingStaticRouteClear promotion.desired &&
    some promotion.desired.context == promotion.row.authorizedDocument.map (·.context) &&
    (executableHead store.db store.deviceId).isNone

def settleWireEquivalent (store : PromotionStore) (promotion : Promotion) : PromotionStore :=
  let revision := promotion.revision.getD promotion.row.desiredRevision
  store.updateStreams (fun stream => stream == promotion.stream) fun row =>
    { row with
      authorizedRevision := revision
      appliedRevision := revision
      authorizedDocument := some promotion.desired }

def mergeAuthority (base extra : RemovalAuthority) : RemovalAuthority :=
  extra.foldl (fun merged entry =>
    Dict.set merged entry.1 (entry.2.foldl (fun labels item =>
      Dict.set labels item.1 ((Dict.get? labels item.1).getD [] ++ item.2))
      ((Dict.get? merged entry.1).getD []))) base

/-- The keys that an authority holds under a section and a guarded list. -/
def authorityKeys (authority : RemovalAuthority) (documentSection : DocumentSection) (label : String) : List Json :=
  (Dict.get? ((Dict.get? authority documentSection).getD []) label).getD []

/-- The database table name that a switching stream's authority is labelled with. -/
def switchingLabel : IntentTable → String
  | .switchportIntent => "switchport_intent"
  | .switchportTaggedVlanIntent => "switchport_tagged_vlan_intent"
  | .lagBundleIntent => "lag_bundle_intent"
  | .lagMemberIntent => "lag_member_intent"
  | _ => ""

/-- The authorized identities of the networked omissions. -/
def switchingRemovalKeys (promotion : Promotion) : Except PromotionError RemovalAuthority := do
  let keys ← promotion.networked.filterMapM fun entry => do
    let identities ← fromProjection (rowsByIntentIdentity promotion.oldTables entry.1)
    let removed := identities.filter fun item =>
      (entry.2.map fun row => row.get "id").contains (item.2.get "id")
    return if removed.isEmpty then none
      else some (switchingLabel entry.1,
        orderBy keyStr (removed.map fun item => Json.arr item.1))
  return scopeQualified promotion.stream.streamSection keys

def switchingAuthority (promotions : List Promotion) : Except PromotionError RemovalAuthority :=
  (promotions.filter fun promotion => promotion.revision.isSome).foldlM (fun authority promotion => do
    let keys ← switchingRemovalKeys promotion
    return mergeAuthority authority keys) []

/-- `CLAIM_LESS_SECTIONS`. -/
def claimLess : DocumentSection → Bool
  | .switchport | .lag => true
  | _ => false

structure ClassifiedLink where
  link : RemovalLink
  context : PromotionRemovalContext
  ownKeys : RemovalAuthority

/-- A claim-less section takes its keys from the chain's switching authority. -/
def linkContext (authority : RemovalAuthority) (link : RemovalLink)
    (derived : PromotionRemovalContext) : PromotionRemovalContext :=
  if claimLess link.stream.streamSection && link.mode == .networked then
    { derived with removed := (Dict.get? authority link.stream.streamSection).getD [] }
  else derived

def linkKeys (link : RemovalLink) (context : PromotionRemovalContext) : RemovalAuthority :=
  scopeQualified link.stream.streamSection
    (if link.stream.streamSection = .staticRoute then promotionRemovalKeys link.removed
    else context.removed)

/-- First pass of `_enqueue_action_removal_links`, one link. -/
def classifyLink (live : LiveDevice) (authority : RemovalAuthority) (link : RemovalLink) :
    Except PromotionError ClassifiedLink := do
  let derived ← promotionRemovalContext env.addressVersion live link.stream link.removed
    link.replacement
  if link.stream.streamSection = .interfaceConfig ∧ derived.interfaces.isEmpty then
    .error (.applyUnexecutable [(link.stream, .noExecutableInterface)])
  else
    let context := linkContext authority link derived
    .ok ⟨link, context, linkKeys link context⟩

def unionAuthority (authority : RemovalAuthority) (links : List ClassifiedLink) : RemovalAuthority :=
  (links.filter fun classified => classified.link.mode == .networked &&
    !claimLess classified.link.stream.streamSection).foldl
      (fun union classified => mergeAuthority union classified.ownKeys) authority

structure ChainPlan where
  applyAttemptId : Option Nat
  cohort : Option Nat
  intermediateDocument : Document
  finalDocument : Document
  frozen : Fragments

/-- A networked link delivers the intermediate document, a detach the final one. -/
def ChainPlan.document (plan : ChainPlan) : GenerationMode → Document
  | .networked => plan.intermediateDocument
  | .detach => plan.finalDocument

def linkAdmission (plan : ChainPlan) (union : RemovalAuthority) (classified : ClassifiedLink) : RemovalAdmission :=
  let link := classified.link
  { request :=
      { scope := link.stream.streamSection
        marking := match link.mode with
          | .detach => some .detach
          | .networked => if link.removed.isEmpty then none else some .deleteOrigin
        deferRetract := false, interfaces := classified.context.interfaces
        removed := classified.context.removed, vaultRefs := classified.context.vaultRefs
        force := false, retract := !link.replacement.isEmpty, shrank := !link.removed.isEmpty }
    promotes := [link.stream], settlementCohort := plan.cohort
    allowedRemovalKeys := some (match link.mode with
      | .networked => union
      | .detach => classified.ownKeys)
    document := some (plan.document link.mode)
    tombstoneIds := [], applyAttemptId := plan.applyAttemptId, frozen := plan.frozen }

def enqueueLink (plan : ChainPlan) (union : RemovalAuthority)
    (progress : PromotionStore × List DeploymentGeneration) (classified : ClassifiedLink) :
    Except PromotionError (PromotionStore × List DeploymentGeneration) := do
  let (store, generation) ← enqueueRemoval env progress.1 (linkAdmission plan union classified)
  return (store, progress.2 ++ [generation])

def enqueueActionRemovalLinks (plan : ChainPlan) (store : PromotionStore)
    (links : List RemovalLink) (authority : RemovalAuthority) :
    Except PromotionError (PromotionStore × List DeploymentGeneration × RemovalAuthority) := do
  let classified ← links.mapM (classifyLink env store.live authority)
  let union := unionAuthority authority classified
  let (after, generations) ← classified.foldlM (enqueueLink env plan union) (store, [])
  return (after, generations, union)

def enqueueActionApplyJob (plan : ChainPlan) (store : PromotionStore)
    (streams : List ProjectionStream) (authority : RemovalAuthority) :
    Except PromotionError (PromotionStore × DeploymentGeneration) := do
  let (created, generation) ← createGeneration env store
    { streams, mode := .networked, allowedRemovalKeys := authority
      document := some plan.intermediateDocument, removalContext := none
      settlementCohort := plan.cohort, tombstoneIds := [], dischargedClearIds := []
      applyAttemptId := plan.applyAttemptId, frozen := plan.frozen, immediateClearStreams := [] }
  let admitted ← created.over (admitApplyGeneration created.db generation env.now)
  return (admitted, generation)

def enqueueApplies (plan : ChainPlan) (store : PromotionStore) (streams : List ProjectionStream)
    (authority : RemovalAuthority) :
    Except PromotionError (PromotionStore × List DeploymentGeneration) :=
  if streams.isEmpty then
    .ok (store, [])
  else do
    let (applied, generation) ← enqueueActionApplyJob env plan store streams authority
    return (applied, [generation])

def settleIfEquivalent (progress : PromotionStore × List ProjectionStream)
    (promotion : Promotion) : PromotionStore × List ProjectionStream :=
  if canSettleWireEquivalent progress.1 promotion then
    (settleWireEquivalent progress.1 promotion, progress.2 ++ [promotion.stream])
  else progress

/-- The store after the wire-equivalent streams that settle now, and those streams. -/
def settleEquivalents (store : PromotionStore) (promotions : List Promotion) : PromotionStore × List ProjectionStream :=
  promotions.foldl settleIfEquivalent (store, [])

/-- The result of a chain: its generations in order and the streams it settled as
wire equivalent. -/
structure ActionApplyResult where
  store : PromotionStore
  generations : List DeploymentGeneration
  settled : List ProjectionStream

/-- The fragment of each promoted stream that the intermediate document carries. -/
def intermediateFragment (promotion : Promotion) : Except PromotionError (ProjectionStream × Fragment) := do
  let fragment ← fromProjection (retainRows promotion.desired promotion.detached promotion.stream
    promotion.row.authorizedDocument)
  return (promotion.stream, fragment)

def fragmentsOf (entries : List (ProjectionStream × Fragment)) : Fragments :=
  fun stream => entries.lookup stream

/-- `consume_promotion_provenance` of every promoted receipt. -/
def consumeReceipts (store : PromotionStore) (promotions : List Promotion) : PromotionStore :=
  { store with
    receipts := fun stream =>
      if promotions.any fun promotion =>
          promotion.stream == stream && promotion.revision.isNone then
        (store.receipts stream).map consumePromotionProvenance
      else store.receipts stream }

/-- The links of a planned chain, in order: networked removals, the apply, detaches. -/
def enqueueChain (plan : ChainPlan) (actions : ActionPlan) (store : PromotionStore)
    (applyStreams : List ProjectionStream) (authority : RemovalAuthority) :
    Except PromotionError (PromotionStore × List DeploymentGeneration) := do
  let (removed, networked, union) ←
    enqueueActionRemovalLinks env plan store actions.networkedLinks authority
  let (applied, applies) ← enqueueApplies env plan removed applyStreams union
  let (detached, detaches, _) ←
    enqueueActionRemovalLinks env plan applied actions.detachLinks []
  return (detached, networked ++ applies ++ detaches)

/-- The freezing loop of `_create_apply_chain`. -/
def chainPromotions (store : PromotionStore) (selected : List Selection) :
    Except PromotionError (PromotionStore × List Promotion) := do
  let cleared :=
    if selected.any fun selection => selection.stream == .staticRoute then
      promoteStaticRouteClears store
    else store
  let refreshed ← refreshConsumedCarriers cleared []
  let promotions ← selected.mapM (promotionOf refreshed)
  return (refreshed, promotions)

def desiredFragments (promotions : List Promotion) : Fragments :=
  fragmentsOf (promotions.map fun promotion => (promotion.stream, promotion.desired))

/-- The intermediate document, which keeps the rows to detach, and the final one. -/
def chainDocuments (authorized : Fragments) (promotions : List Promotion) :
    Except PromotionError (Document × Document) := do
  let intermediates ← promotions.mapM intermediateFragment
  let finalDocument ← composeFragments (authorized.overlay (desiredFragments promotions))
  let intermediateDocument ← composeFragments (authorized.overlay (fragmentsOf intermediates))
  return (intermediateDocument, finalDocument)

/-- The streams of the apply link: the planned ones and those that could not settle. -/
def ActionPlan.applied (actions : ActionPlan) (settled : List ProjectionStream) : List ProjectionStream :=
  actions.applyStreams ++ actions.wireEquivalentStreams.filter fun stream => !settled.contains stream

def ActionPlan.linkCount (actions : ActionPlan) (applyStreams : List ProjectionStream) : Nat :=
  actions.networkedLinks.length + actions.detachLinks.length +
    if applyStreams.isEmpty then 0 else 1

/-- `allocate_settlement_cohort`, for a chain of more than one link. -/
def allocateCohort (store : PromotionStore) (linkCount : Nat) : PromotionStore × Option Nat :=
  if 1 < linkCount then
    ({ store with nextCohort := store.nextCohort + 1 }, some store.nextCohort)
  else
    (store, none)

/-- The planned half of `_create_apply_chain`. -/
def deliverPromotions (refreshed : PromotionStore) (promotions : List Promotion)
    (applyAttemptId : Option Nat) : Except PromotionError ActionApplyResult := do
  let authority ← switchingAuthority promotions
  let (intermediateDocument, finalDocument) ← chainDocuments refreshed.authorized promotions
  let actions ← planActionLinks promotions
  let (settledStore, settled) := settleEquivalents refreshed
    (promotions.filter fun promotion => actions.wireEquivalentStreams.contains promotion.stream)
  let applyStreams := actions.applied settled
  let (prepared, cohort) := allocateCohort settledStore (actions.linkCount applyStreams)
  let plan : ChainPlan :=
    ⟨applyAttemptId, cohort, intermediateDocument, finalDocument, desiredFragments promotions⟩
  let (enqueued, generations) ← enqueueChain env plan actions prepared applyStreams authority
  return ⟨consumeReceipts enqueued promotions, generations, settled⟩

/-- `_create_apply_chain` over the selected streams, in stream order. -/
def createApplyChain (store : PromotionStore) (selected : List Selection)
    (applyAttemptId : Option Nat) : Except PromotionError ActionApplyResult := do
  let (refreshed, promotions) ← chainPromotions store selected
  deliverPromotions env refreshed promotions applyAttemptId

end NsoAdapter.Core
