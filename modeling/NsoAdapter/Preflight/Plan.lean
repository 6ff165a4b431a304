import NsoAdapter.Execution.DeviceBody
import NsoAdapter.Execution.Evidence
import NsoAdapter.Preflight.ActionApply

/-! The planner of a manual apply (`core/preflight.py`): the real apply chain is created in a
transaction that is rolled back, and each of its generations is captured with the body it
would send and the guard's verdict on that body. -/

namespace NsoAdapter.Preflight
open Lib Projection Store NsoAdapter.Core StaticRoute
open Execution

/-- `_device_context`, beside the NED id of the store. -/
structure DeviceContext where
  nsoInstance : String
  nsoDeviceName : String
  nedId : Option String
  deriving DecidableEq

/-- What one planning transaction finds: the device row, its store, the clock and the fresh
attempt identifier. -/
structure Moment where
  nsoInstance : String
  nsoDeviceName : String
  store : PromotionStore
  now : Nat
  attemptId : Nat

def Moment.context (moment : Moment) : DeviceContext :=
  ⟨moment.nsoInstance, moment.nsoDeviceName, moment.store.nedId⟩

/-- `_PlanContextConflict`. -/
structure ContextConflict where
  disturbed : List ProjectionStream
  blocked : List ProjectionStream
  skipped : Dict ProjectionStream SkipReason

inductive PlanError where
  | stale
  | refused (refused : ApplyRefusal)
  | baseline (refused : PromotionError)
  | baselineWithoutProof
  | baselineInterface (interfaceId : Nat)
  | hydrate (refused : HydrateError)
  | removalPlanAbsent
  | guard (refused : WriteError)

/-- What no function of the planner decides: digests, parsers and encoders. -/
structure Encoders where
  digestDocument : DocumentDigest
  digestSection : CertifiedSection → String
  addressVersion : AddressVersion
  encode : SectionEncoder
  asNumbersValid : AsCheck
  origins : Document → List (ProjectionStream × Nat) → OriginIndex

def Encoders.environment (encoders : Encoders) (now : Nat) : Environment :=
  ⟨encoders.digestDocument, encoders.addressVersion, now⟩

/-- The orphans of a body: a label and the keys the body drops without authority. -/
abbrev Orphans := List (String × List (List String))

/-- `PlannedLink`; the order of a link is its place in the chain. -/
structure PlannedLink where
  mode : GenerationMode
  streams : List ProjectionStream
  digest : String
  document : Document
  containers : Containers
  policy : ExecutionPolicy
  origins : OriginIndex
  guardOrphans : Orphans
  guardContributions : List (String × List (ProjectionStream × List (List String)))
  errors : List (DocumentSection × ApplyError)

abbrev BaselineProofs := List (ProjectionStream × List (Nat × InterfaceRecord))

structure PlannedChain where
  links : List PlannedLink
  skipped : Dict ProjectionStream SkipReason
  baselineInterfaceProofs : BaselineProofs

/-- `{stream for link in planned.links for stream in link.streams}`. -/
def PlannedChain.promoted (planned : PlannedChain) : List ProjectionStream :=
  planned.links.flatMap (·.streams)

def liftPlan {Failure Value : Type} (raise : Failure → PlanError)
    (result : Except Failure Value) : Except PlanError Value :=
  match result with
  | .error refused => .error (raise refused)
  | .ok value => .ok value

def streamRecords (records : Dict Nat InterfaceRecord) (fragment : Fragment) :
    Except PlanError (List (Nat × InterfaceRecord)) :=
  (fragment.tables.flatMap (·.2)).mapM fun row =>
    match records.get? (interfaceIdOf row) with
    | none => .error (.baselineInterface (interfaceIdOf row))
    | some record => .ok (interfaceIdOf row, record)

def baselineProofs (authorized : Fragments) : Except PlanError BaselineProofs := do
  let baseline ← liftPlan .baseline (composeFragments authorized)
  match baseline.lookup .interfaceConfig with
  | none => return []
  | some body =>
    match body.proof with
    | none => throw .baselineWithoutProof
    | some proof =>
      [ProjectionStream.interfaceConfig, .ip].filterMapM fun stream =>
        match authorized stream with
        | none => return none
        | some fragment => do
            let records ← streamRecords (proof.interfaces.getD []) fragment
            return some (stream, records)

variable (encoders : Encoders)

/-- `encode_section` of a composed document. -/
def encodeSection (documentSection : DocumentSection) (body : SectionBody) : Except ApplyError Json :=
  if documentSection = .staticRoute then
    .ok (routeContainer (encodeStaticRoute (body.tables.rows .staticRouteIntent)))
  else encoders.encode documentSection body

/-- The keys of one guarded list that a stream's own authorized fragment asserts and the body
does not. An unbuildable contribution proves nothing. -/
def lostKeys (containers : Containers) (documentSection : DocumentSection) (guardList : GuardList)
    (stream : ProjectionStream) (fragment : Fragment) : Except PlanError (List (List String)) := do
  let planned ← liftPlan .guard (leafKeys encoders.asNumbersValid documentSection
    (bodyContainer containers documentSection) guardList)
  let document ← liftPlan .baseline
    (composeFragments fun other => if other = stream then some fragment else none)
  match document.lookup documentSection with
  | none => return []
  | some body =>
    match encodeSection encoders documentSection body with
    | .error _ => return []
    | .ok baseline => do
        let asserted ← liftPlan .guard
          (leafKeys encoders.asNumbersValid documentSection baseline guardList)
        return orderBy id (asserted.filter fun key => !planned.contains key).dedup

def labelContributions (authorized : Fragments) (containers : Containers)
    (documentSection : DocumentSection) (guardList : GuardList) :
    Except PlanError (List (ProjectionStream × List (List String))) :=
  (sectionStreams documentSection).filterMapM fun stream =>
    match authorized stream with
    | none => return none
    | some fragment => do
        let lost ← lostKeys encoders containers documentSection guardList stream fragment
        return if lost.isEmpty then none else some (stream, lost)

def guardContributions (authorized : Fragments) (containers : Containers) (orphans : Orphans) :
    Except PlanError (List (String × List (ProjectionStream × List (List String)))) :=
  (guardedLists.filter fun entry =>
    (orphans.lookup (sectionName entry.1 ++ "/" ++ entry.2.label)).isSome).mapM fun entry => do
      let contributions ← labelContributions encoders authorized containers entry.1 entry.2
      return (sectionName entry.1 ++ "/" ++ entry.2.label, contributions)

def planRouteKeys (generation : DeploymentGeneration) : Except PlanError (List Triple) :=
  match generation.removalContext, generation.document.lookup .staticRoute with
  | some context, body =>
    if context.scope = .staticRoute ∧ context.force = false then
      match (body.bind (·.operation)).bind (·.removal) with
      | none => .error .removalPlanAbsent
      | some removal => .ok removal.authorized
    else .ok []
  | none, some body => do
      let plan ← liftPlan .hydrate (hydrateStaticRouteApplyPlan body)
      return plan.allowed
  | none, none => .ok []

def captureLink (authorized : Fragments) (live : ServiceState)
    (generation : DeploymentGeneration) : Except PlanError PlannedLink := do
  let policy := executionPolicy generation
  let body ← liftPlan .hydrate (buildDeviceContainers encoders.encode
    ⟨none, live, policy.retainStaticRoutes⟩ generation.document)
  let routeKeys ← planRouteKeys generation
  let orphans ← liftPlan .guard (evaluateCollateralGuard encoders.asNumbersValid
    ⟨generation.removalContext.any (·.force), policy.noNetworking⟩
    (certifiedStaticRouteSection live).instanceBody body.containers
    (guardAllowed generation.allowedRemovalKeys generation.removalContext routeKeys))
  let contributions ← guardContributions encoders authorized body.containers orphans
  return { mode := generation.mode
           streams := sortedStreams (generation.streamRevisions.map (·.1))
           digest := generation.digest, document := generation.document
           containers := body.containers, policy
           origins := encoders.origins generation.document generation.streamRevisions
           guardOrphans := orphans, guardContributions := contributions, errors := body.errors }

/-- The `InterfaceProofConflict` of a refused promotion, by the streams it names. -/
def ApplyRefusal.conflictStreams : ApplyRefusal → Option (List ProjectionStream)
  | .promotion (.projection (.interfaceProofConflict streams _ _)) => some streams
  | _ => none

/-- The conflict a planning pass ends with: promoted streams are blocked, others disturbed.
The skips are those of `_selected_promotions` alone. -/
def contextConflict (streams : List ProjectionStream) (resolved : Resolved) : ContextConflict :=
  let promoted := (promotable resolved).map (·.stream)
  ⟨sortedStreams (streams.filter fun stream => !promoted.contains stream),
    sortedStreams (streams.filter promoted.contains), skipsOf resolved⟩

/-- The creation half of `_plan_in_session`. -/
def planCreation (moment : Moment) (store : PromotionStore) (selected : Dict ProjectionStream Nat) :
    Except PlanError (Except ContextConflict ActionApply) :=
  match actionApply (encoders.environment moment.now) store selected moment.attemptId with
  | .ok result => .ok (.ok result)
  | .error refused =>
    match ApplyRefusal.conflictStreams refused with
    | none => .error (.refused refused)
    | some streams => do
        let resolved ← liftPlan .refused (selectedPromotions store selected)
        return .error (contextConflict streams resolved)

def captureChain (authorized : Fragments) (live : ServiceState) (baseline : BaselineProofs)
    (creation : Except ContextConflict ActionApply) :
    Except PlanError (Except ContextConflict PlannedChain) :=
  match creation with
  | .error conflict => .ok (.error conflict)
  | .ok result => do
      let links ← result.generations.mapM (captureLink encoders authorized live)
      return .ok ⟨links, result.skipped, baseline⟩

/-- `plan_action_apply` of a selection. -/
def planActionApply (moment : Moment) (expected : DeviceContext) (live : ServiceState)
    (selected : Dict ProjectionStream Nat) :
    Except PlanError (Except ContextConflict PlannedChain) :=
  if moment.context ≠ expected then
    .error .stale
  else do
    let store ← liftPlan .baseline (refreshConsumedCarriers moment.store [])
    let baseline ← baselineProofs store.authorized
    let creation ← planCreation encoders moment store selected
    captureChain encoders store.authorized live baseline creation

/-- `plan_action_apply` with `baseline_only`: a reissue of what is authorized. -/
def planBaseline (moment : Moment) (expected : DeviceContext) (live : ServiceState) : Except PlanError PlannedChain :=
  if moment.context ≠ expected then
    .error .stale
  else do
    let store ← liftPlan .baseline (refreshConsumedCarriers moment.store [])
    let baseline ← baselineProofs store.authorized
    let (_, generation) ← liftPlan .baseline (createReissueGeneration
      (encoders.environment moment.now) store .networked none [] [] [])
    let link ← captureLink encoders store.authorized live generation
    return ⟨[link], [], baseline⟩

/-! ### What a plan and a conflict name -/

variable {encoders}

theorem liftPlan_eq_ok {Failure Value : Type} {raise : Failure → PlanError} {result : Except Failure Value} {value : Value} :
    liftPlan raise result = .ok value ↔ result = .ok value := by
  cases result with
  | error refused => exact ⟨nofun, nofun⟩
  | ok found => exact ⟨fun same => congrArg _ (Except.ok.inj same), fun same => congrArg _ (Except.ok.inj same)⟩

/-! Only the check of the device finds a plan stale. -/

theorem liftPlan_ne_stale {Failure Value Result : Type} {raise : Failure → PlanError} {result : Except Failure Value}
    {next : Value → Except PlanError Result} (other : ∀ refused, raise refused ≠ .stale)
    (later : ∀ value, next value ≠ .error .stale) : liftPlan raise result >>= next ≠ .error .stale := by
  cases result with
  | error refused => exact fun same => other refused (Except.error.inj same)
  | ok value => exact later value

theorem baselineProofs_ne_stale (authorized : Fragments) : baselineProofs authorized ≠ .error .stale := by
  refine liftPlan_ne_stale (fun _ => nofun) fun baseline => ?_
  split
  · exact nofun
  · split
    · exact nofun
    · refine filterMapM_ne_error (fun stream => ?_) _
      split
      · exact nofun
      · refine bind_ne_error (mapM_ne_error (fun row => ?_) _) fun _ => ok_ne_error
        split <;> exact nofun

theorem guardContributions_ne_stale (authorized : Fragments) (containers : Containers) (orphans : Orphans) :
    guardContributions encoders authorized containers orphans ≠ .error .stale := by
  refine mapM_ne_error (fun entry => bind_ne_error ?_ fun _ => ok_ne_error) _
  refine filterMapM_ne_error (fun stream => ?_) _
  split
  · exact nofun
  refine bind_ne_error ?_ fun _ => ok_ne_error
  refine liftPlan_ne_stale (fun _ => nofun) fun planned => ?_
  refine liftPlan_ne_stale (fun _ => nofun) fun document => ?_
  split
  · exact nofun
  · split
    · exact nofun
    · exact liftPlan_ne_stale (fun _ => nofun) fun _ => ok_ne_error

theorem planRouteKeys_ne_stale (generation : DeploymentGeneration) : planRouteKeys generation ≠ .error .stale := by
  unfold planRouteKeys
  split
  · split
    · split <;> exact nofun
    · exact nofun
  · exact liftPlan_ne_stale (fun _ => nofun) fun _ => ok_ne_error
  · exact nofun

theorem captureLink_ne_stale (authorized : Fragments) (live : ServiceState) (generation : DeploymentGeneration) :
    captureLink encoders authorized live generation ≠ .error .stale := by
  refine liftPlan_ne_stale (fun _ => nofun) fun body => ?_
  refine bind_ne_error (planRouteKeys_ne_stale generation) fun routeKeys => ?_
  refine liftPlan_ne_stale (fun _ => nofun) fun orphans => ?_
  exact bind_ne_error (guardContributions_ne_stale _ _ _) fun _ => ok_ne_error

theorem planCreation_ne_stale (moment : Moment) (store : PromotionStore) (selected : Dict ProjectionStream Nat) :
    planCreation encoders moment store selected ≠ .error .stale := by
  unfold planCreation
  split
  · exact nofun
  · split
    · exact nofun
    · exact liftPlan_ne_stale (fun _ => nofun) fun _ => ok_ne_error

variable {moment : Moment}

theorem planActionApply_ne_stale {expected : DeviceContext}
    (same : moment.context = expected) (live : ServiceState) (selected : Dict ProjectionStream Nat) :
    planActionApply encoders moment expected live selected ≠ .error .stale := by
  unfold planActionApply
  rw [if_neg (not_not.mpr same)]
  refine liftPlan_ne_stale (fun _ => nofun) fun store => ?_
  refine bind_ne_error (baselineProofs_ne_stale _) fun baseline => ?_
  refine bind_ne_error (planCreation_ne_stale _ _ _) fun creation => ?_
  cases creation with
  | error conflict => exact nofun
  | ok result => exact bind_ne_error (mapM_ne_error (captureLink_ne_stale _ _) _) fun _ => ok_ne_error

theorem planBaseline_ne_stale {expected : DeviceContext} (same : moment.context = expected) (live : ServiceState) :
    planBaseline encoders moment expected live ≠ .error .stale := by
  unfold planBaseline
  rw [if_neg (not_not.mpr same)]
  refine liftPlan_ne_stale (fun _ => nofun) fun store => ?_
  refine bind_ne_error (baselineProofs_ne_stale _) fun baseline => ?_
  refine liftPlan_ne_stale (fun _ => nofun) fun created => ?_
  exact bind_ne_error (captureLink_ne_stale _ _ _) fun _ => ok_ne_error

variable {authorized : Fragments} {store : PromotionStore}

theorem captureLink_streams {live : ServiceState} {generation : DeploymentGeneration}
    {link : PlannedLink} (captured : captureLink encoders authorized live generation = .ok link) :
    link.streams = sortedStreams (generation.streamRevisions.map (·.1)) := by
  obtain ⟨_, _, captured⟩ := bind_eq_ok.mp captured
  obtain ⟨_, _, captured⟩ := bind_eq_ok.mp captured
  obtain ⟨_, _, captured⟩ := bind_eq_ok.mp captured
  obtain ⟨_, _, captured⟩ := bind_eq_ok.mp captured
  cases captured
  rfl

theorem mem_promoted {live : ServiceState} {generations : List DeploymentGeneration}
    {links : List PlannedLink} {skipped : Dict ProjectionStream SkipReason}
    {baseline : BaselineProofs}
    (captured : generations.mapM (captureLink encoders authorized live) = .ok links)
    {stream : ProjectionStream} :
    stream ∈ (PlannedChain.mk links skipped baseline).promoted ↔ stream ∈ promotedStreams generations := by
  have each := forall₂_of_mapM captured
  unfold PlannedChain.promoted promotedStreams
  clear captured
  induction each with
  | nil => rfl
  | cons first _ ih =>
    rw [List.flatMap_cons, List.flatMap_cons, List.mem_append, List.mem_append, captureLink_streams first, mem_sortedStreams]
    exact or_congr Iff.rfl ih

variable {selected : Dict ProjectionStream Nat}

theorem planCreation_planned {result : ActionApply} (created : planCreation encoders moment store selected = .ok (.ok result)) :
    actionApply (encoders.environment moment.now) store selected moment.attemptId = .ok result := by
  unfold planCreation at created
  split at created
  · rename_i applied
    cases created
    exact applied
  · split at created
    · cases created
    · obtain ⟨_, _, created⟩ := bind_eq_ok.mp created
      cases created

theorem planCreation_conflict {conflict : ContextConflict} (created : planCreation encoders moment store selected = .ok (.error conflict)) :
    ∃ resolved streams, selectedPromotions store selected = .ok resolved ∧
      conflict = contextConflict streams resolved := by
  unfold planCreation at created
  split at created
  · cases created
  split at created
  · cases created
  · obtain ⟨resolved, resolves, created⟩ := bind_eq_ok.mp created
    cases created
    exact ⟨resolved, _, liftPlan_eq_ok.mp resolves, rfl⟩

/-- A conflict blocks promoted streams of the selection and skips others of it. -/
structure ContextConflict.Within (conflict : ContextConflict)
    (selected : Dict ProjectionStream Nat) : Prop where
  blocked : ∀ stream ∈ conflict.blocked, (selected.get? stream).isSome ∧
    conflict.skipped.get? stream = none
  skipped : ∀ stream, (conflict.skipped.get? stream).isSome → (selected.get? stream).isSome
  distinct : (conflict.skipped.map (·.1)).Nodup

theorem contextConflict_within {resolved : Resolved} (resolves : Resolves store selected resolved) (streams : List ProjectionStream) :
    (contextConflict streams resolved).Within selected := by
  have partitions := resolves.partitions
  refine ⟨?_, ?_, partitions.distinct⟩
  · intro stream blocked
    have promoted : stream ∈ (promotable resolved).map (·.stream) :=
      List.contains_iff_mem.mp (List.mem_filter.mp (mem_sortedStreams.mp blocked)).2
    exact ⟨(partitions.covers stream).mpr (.inl promoted), partitions.disjoint stream promoted⟩
  · intro stream skipped
    exact (partitions.covers stream).mpr (.inr skipped)

section

variable {moment : Moment} {expected : DeviceContext} {live : ServiceState}
  {selected : Dict ProjectionStream Nat}

theorem planActionApply_ok {outcome : Except ContextConflict PlannedChain}
    (plans : planActionApply encoders moment expected live selected = .ok outcome) :
    ∃ store baseline creation, refreshConsumedCarriers moment.store [] = .ok store ∧
      baselineProofs store.authorized = .ok baseline ∧
      planCreation encoders moment store selected = .ok creation ∧
      captureChain encoders store.authorized live baseline creation = .ok outcome := by
  unfold planActionApply at plans
  split at plans
  · cases plans
  obtain ⟨store, refreshes, plans⟩ := bind_eq_ok.mp plans
  obtain ⟨baseline, proves, plans⟩ := bind_eq_ok.mp plans
  obtain ⟨creation, creates, plans⟩ := bind_eq_ok.mp plans
  exact ⟨store, baseline, creation, liftPlan_eq_ok.mp refreshes, proves, creates, plans⟩

theorem planActionApply_partitions {planned : PlannedChain}
    (plans : planActionApply encoders moment expected live selected = .ok (.ok planned)) :
    Partitions selected planned.promoted planned.skipped := by
  obtain ⟨store, baseline, creation, _, _, creates, captures⟩ := planActionApply_ok plans
  cases creation with
  | error conflict => cases captures
  | ok result =>
    obtain ⟨links, captured, returned⟩ := bind_eq_ok.mp captures
    cases returned
    have partitions := actionApply_partitions (planCreation_planned creates)
    refine ⟨?_, ?_, partitions.distinct⟩
    · intro stream
      rw [partitions.covers stream, mem_promoted captured]
    · intro stream promoted
      exact partitions.disjoint stream ((mem_promoted captured).mp promoted)

theorem planActionApply_empty {planned : PlannedChain} (plans : planActionApply encoders moment expected live [] = .ok (.ok planned)) :
    planned.links = [] := by
  obtain ⟨store, baseline, creation, _, _, creates, captures⟩ := planActionApply_ok plans
  cases creation with
  | error conflict => cases captures
  | ok result =>
    have nothing : actionApply (encoders.environment moment.now) store [] moment.attemptId = .ok ⟨store, [], []⟩ := rfl
    have same := (planCreation_planned creates).symm.trans nothing
    cases same
    cases captures
    rfl

theorem planActionApply_within {conflict : ContextConflict}
    (plans : planActionApply encoders moment expected live selected = .ok (.error conflict)) :
    conflict.Within selected := by
  obtain ⟨store, baseline, creation, _, _, creates, captures⟩ := planActionApply_ok plans
  cases creation with
  | error found =>
    cases captures
    obtain ⟨resolved, streams, resolving, rfl⟩ := planCreation_conflict creates
    exact contextConflict_within (selectedPromotions_resolves resolving) streams
  | ok result =>
    obtain ⟨links, _, returned⟩ := bind_eq_ok.mp captures
    cases returned

end

end NsoAdapter.Preflight
