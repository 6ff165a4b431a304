import NsoAdapter.Core.Generation
import NsoAdapter.StaticRoute.Plan

/-! The one place a generation row is written (`_store_generation`), which adds the operation plane
of a removal to the composed document and nothing else, and the admission of a removal
(`enqueue_removal`): the request fixes the mode and the context its generation keeps, and the
generation takes a dedicated job. -/

namespace NsoAdapter.Core
open Lib Store Projection StaticRoute

/-- Why a selected stream cannot be executed. -/
inductive UnexecutableReason where
  | eligibilityUnresolved
  | mixedDetachReplacement
  | unresolvedInterfaceIdentity
  | noExecutableInterface
  | invalidStoredAddress
  deriving DecidableEq

inductive PromotionError where
  | core (refused : CoreError)
  | projection (refused : ProjectionError)
  | applyUnexecutable (reasons : List (ProjectionStream × UnexecutableReason))
  | operationSectionAbsent (scope : DocumentSection)
  | missingTombstones (tombstoneIds : List Nat)
  | malformedRouteKey (key : Json)
  | carrierGone (tombstoneIds : List Nat)
  | carrierWithoutJob (tombstoneId : Nat)
  | noStreams
  | noAcceptedWrite (stream : ProjectionStream)
  | noPreparedSnapshot (stream : ProjectionStream)
  | preparedFragmentAbsent (stream : ProjectionStream)
  | unmarkedDeletion (scope : DocumentSection)
  | deferredDeleteOrigin (scope : DocumentSection)
  | applyJobConflict (jobId : Nat)
  deriving DecidableEq

def StaticRouteTombstone.carrier (tombstone : StaticRouteTombstone) : Carrier :=
  ⟨tombstone.id, tombstone.triple, tombstone.deployedKey⟩

def deviceCarriers (db : Database) (deviceId : Nat) : List Carrier :=
  (orderBy (·.id) (db.tombstones.filter fun tombstone => tombstone.deviceId == deviceId)).map
    StaticRouteTombstone.carrier

/-- `_sr_key`: a key of the removal authority has three elements. -/
def routeKey (key : Json) : Except PromotionError Triple :=
  match key with
  | .arr [_, _, _] => match asTriple key with
      | some triple => .ok triple
      | none => .error (.malformedRouteKey key)
  | _ => .error (.malformedRouteKey key)

/-- The static-route half of the removal authority. -/
def removalKeys (allowed : RemovalAuthority) : Except PromotionError (List Triple) :=
  (((allowed.lookup .staticRoute).getD []).lookup "route").getD [] |>.mapM routeKey

structure OperationRequest where
  context : RemovalContext
  tombstoneIds : List Nat
  dischargedClearIds : List Nat
  immediateClearStreams : List ProjectionStream

/-- The selected carriers must all exist. -/
def buildStaticRouteOperation (carriers : List Carrier) (body : SectionBody)
    (request : OperationRequest) (allowed : RemovalAuthority) :
    Except PromotionError SrRemovalPlan := do
  let selected := carriers.filter fun carrier => request.tombstoneIds.contains carrier.id
  if request.tombstoneIds.all fun id => selected.any fun carrier => carrier.id == id then
    let keys ← removalKeys allowed
    return classifyRemovalPlan (body.tables.rows .staticRouteIntent) selected keys
      (request.context.detach || request.context.retractDeferred)
  else
    throw (.missingTombstones request.tombstoneIds)

def buildOperation (carriers : List Carrier) (body : SectionBody) (request : OperationRequest)
    (allowed : RemovalAuthority) : Except PromotionError SectionOperation := do
  let clearIds := orderBy id request.dischargedClearIds
  if request.context.scope = .staticRoute then
    let removal ← buildStaticRouteOperation carriers body request allowed
    return ⟨clearIds, request.immediateClearStreams, some removal, orderBy id request.tombstoneIds⟩
  else
    return ⟨clearIds, request.immediateClearStreams, none, []⟩

/-- Write the operation plane over the section the removal addresses. -/
def addressSection (carriers : List Carrier) (document : Document) (request : OperationRequest)
    (allowed : RemovalAuthority) : Except PromotionError Document :=
  match document.lookup request.context.scope with
  | none => .error (.operationSectionAbsent request.context.scope)
  | some body => do
      let operation ← buildOperation carriers body request allowed
      return document.map fun entry =>
        if entry.1 = request.context.scope then
          (entry.1, { entry.2 with operation := some operation })
        else
          entry

/-- `_store_generation`. A generation with no removal context writes no plane. -/
def storeGeneration (digestDocument : DocumentDigest) (db : Database) (deviceId : Nat)
    (content : GenerationContent) (tombstoneIds dischargedClearIds : List Nat)
    (immediateClearStreams : List ProjectionStream) :
    Except PromotionError (Database × DeploymentGeneration) :=
  match content.removalContext with
  | none => .ok (insertGeneration digestDocument db deviceId content)
  | some context => do
      let document ← addressSection (deviceCarriers db deviceId) content.document
        ⟨context, tombstoneIds, dischargedClearIds, immediateClearStreams⟩ content.allowedRemovalKeys
      return insertGeneration digestDocument db deviceId { content with document }

theorem storeGeneration_eq {digestDocument : DocumentDigest} {db after : Database} {deviceId : Nat}
    {content : GenerationContent} {tombstoneIds dischargedClearIds : List Nat}
    {immediateClearStreams : List ProjectionStream} {generation : DeploymentGeneration}
    (stored : storeGeneration digestDocument db deviceId content tombstoneIds dischargedClearIds
      immediateClearStreams = .ok (after, generation)) :
    ∃ document, (after, generation) = insertGeneration digestDocument db deviceId { content with document } := by
  unfold storeGeneration at stored
  split at stored
  · exact ⟨content.document, (Except.ok.inj stored).symm⟩
  · obtain ⟨document, _, returned⟩ := bind_eq_ok.mp stored
    exact ⟨document, (Except.ok.inj returned).symm⟩

/-- What a caller of `enqueue_removal` says about the removal. -/
structure RemovalRequest where
  scope : DocumentSection
  marking : Option Marking
  deferRetract : Bool
  interfaces : List String
  removed : List (String × List Json)
  vaultRefs : List (String × String)
  force : Bool
  retract : Bool
  shrank : Bool

namespace RemovalRequest

def removedKeys (request : RemovalRequest) : List (String × List Json) :=
  request.removed.filter fun entry => !entry.2.isEmpty

def deletes (request : RemovalRequest) : Bool :=
  request.shrank || !request.removedKeys.isEmpty

/-- A shrink detaches unless it is marked as a deletion or only clears a leaf. -/
def detaches (request : RemovalRequest) : Bool :=
  !request.force && request.marking == some .detach && !(request.retract && !request.deletes)

def context (request : RemovalRequest) : RemovalContext :=
  { scope := request.scope
    interfaces := request.interfaces
    removed := request.removedKeys
    vaultRefs := request.vaultRefs
    retractDeferred := request.retract && request.deferRetract
    force := request.force
    detach := request.detaches
    tombstoneIds := [] }

def mode (request : RemovalRequest) : GenerationMode :=
  if request.detaches then .detach else .networked

/-- `_refuse_unmarked_deletion` and `_refuse_deferred_delete_origin`. -/
def refusal (request : RemovalRequest) : Option PromotionError :=
  if request.marking.isNone && request.deletes && !request.force then
    some (.unmarkedDeletion request.scope)
  else if request.retract && request.deferRetract && request.scope != .staticRoute &&
      request.marking == some .deleteOrigin then
    some (.deferredDeleteOrigin request.scope)
  else
    none

end RemovalRequest

def scopeQualified (scope : DocumentSection) (removed : List (String × List Json)) : RemovalAuthority :=
  if removed.isEmpty then [] else [(scope, removed)]

def attachDedicatedJob (db : Database) (deviceId : Nat) (jobType : JobType)
    (context : Option JobContext) (generation : DeploymentGeneration) (now : Nat) :
    Except PromotionError (Database × Job) :=
  match createDedicatedJob db deviceId jobType context now with
  | .error refused => .error (.core refused)
  | .ok (inserted, job) =>
    match requireAttachToJob inserted generation job with
    | .error refused => .error (.core refused)
    | .ok after => .ok (after, job)

theorem attachDedicatedJob_eq {db after : Database} {deviceId now : Nat} {jobType : JobType}
    {context : Option JobContext} {generation : DeploymentGeneration} {job : Job}
    (attached : attachDedicatedJob db deviceId jobType context generation now = .ok (after, job)) :
    job = (insertJob db (some deviceId) jobType false context now).2 ∧
      attachToJob (insertJob db (some deviceId) jobType false context now).1 generation job = .ok (after, true) := by
  unfold attachDedicatedJob at attached
  split at attached
  · cases attached
  rename_i inserted fresh created
  split at attached
  · cases attached
  rename_i bound attaches
  cases attached
  have shape := createDedicatedJob_eq created
  refine ⟨congrArg Prod.snd shape, ?_⟩
  rw [← congrArg Prod.fst shape]
  unfold requireAttachToJob at attaches
  split at attaches
  · cases attaches
  · rename_i accepted
    cases attaches
    exact accepted
  · cases attaches

def carryRemoval (digestDocument : DocumentDigest) (db : Database) (deviceId : Nat)
    (content : GenerationContent) (tombstoneIds dischargedClearIds : List Nat)
    (immediateClearStreams : List ProjectionStream) (now : Nat) :
    Except PromotionError (Database × DeploymentGeneration × Job) :=
  match storeGeneration digestDocument db deviceId content tombstoneIds dischargedClearIds
      immediateClearStreams with
  | .error refused => .error refused
  | .ok (stored, generation) =>
    match attachDedicatedJob stored deviceId .removal
        (content.removalContext.map JobContext.removal) generation now with
    | .error refused => .error refused
    | .ok (after, job) => .ok (after, generation, job)

end NsoAdapter.Core
