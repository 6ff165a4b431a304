import NsoAdapter.Core.AdapterWalk
import NsoAdapter.Preflight.Agreement

/-! The admission of a manual apply (`_create_preflighted_apply`): the chain is created again
and admitted only under the identity that the preview was shown with. -/

namespace NsoAdapter.Preflight
open Lib Projection Store NsoAdapter.Core StaticRoute

/-- A dictionary by stream name, as `_canonical` sorts it. -/
def canonical {Value : Type} (dict : Dict ProjectionStream Value) : List (ProjectionStream × Value) :=
  ProjectionStream.all.filterMap fun stream => (dict.get? stream).map fun value => (stream, value)

theorem canonical_congr {Value : Type} {left right : Dict ProjectionStream Value}
    (same : ∀ stream, left.get? stream = right.get? stream) : canonical left = canonical right := by
  unfold canonical
  simp only [same]

/-- What `manual_apply_identity` hashes. -/
structure IdentityInputs where
  deviceId : Nat
  nsoInstance : String
  nsoDeviceName : String
  admittedSelection : List (ProjectionStream × Nat)
  skips : List (ProjectionStream × SkipReason)
  links : List (GenerationMode × String × ExecutionPolicy)
  liveInputDigest : String

variable (hashIdentity : IdentityInputs → String)

def manualApplyIdentity (deviceId : Nat) (nsoInstance nsoDeviceName : String)
    (selected : Dict ProjectionStream Nat) (skips : Dict ProjectionStream SkipReason)
    (links : List (GenerationMode × String × ExecutionPolicy)) (liveInputDigest : String) :
    String :=
  hashIdentity ⟨deviceId, nsoInstance, nsoDeviceName, canonical selected, canonical skips, links,
    liveInputDigest⟩

/-- `preflight_identity`, of a ready result. -/
def preflightIdentity (result : PreflightResult) : Option String :=
  match result.status, result.plan, result.liveInputDigest with
  | .ready, some plan, some digest => some (manualApplyIdentity hashIdentity result.deviceId
      result.nsoInstance result.nsoDeviceName result.admittedSelection result.skips
      (plan.links.map PlannedLink.inputs) digest)
  | _, _, _ => none

/-- `ActionApplyIn`. -/
structure ApplyRequest where
  applyAttemptId : Nat
  selected : Selected
  preflightIdentity : String

inductive StaleReason where
  | liveInputInconclusive | inputsChanged

/-- How an admission is refused: `PreflightStale`, or what `create_action_apply` raised. -/
inductive AdmissionError where
  | stale (reason : StaleReason)
  | refused (refused : ApplyRefusal)

/-- `InterfaceProofConflict` and `AsnRuleViolation`. -/
def ApplyRefusal.contextMoved : ApplyRefusal → Bool
  | .promotion (.projection (.interfaceProofConflict ..)) => true
  | .promotion (.projection (.asnRuleViolation ..)) => true
  | .promotion (.projection (.bgpSourceAsRequired ..)) => true
  | _ => false

def appliedIdentity (deviceId : Nat) (moment : Moment) (selected : Dict ProjectionStream Nat)
    (digest : String) (result : ActionApply) : String :=
  manualApplyIdentity hashIdentity deviceId moment.nsoInstance moment.nsoDeviceName
    (selected.filter fun entry => (result.skipped.get? entry.1).isNone) result.skipped
    (result.generations.map generationInputs) digest

def createPreflightedApply (encoders : Encoders) (deviceId : Nat) (moment : Moment)
    (request : ApplyRequest) (live : Option ServiceState) (readMapping : String × String) :
    Except AdmissionError ActionApply :=
  match live.bind encoders.liveDigest with
  | none => .error (.stale .liveInputInconclusive)
  | some digest =>
    match actionApply (encoders.environment moment.now) moment.store request.selected.entries
        request.applyAttemptId with
    | .error refused =>
      if ApplyRefusal.contextMoved refused then .error (.stale .inputsChanged)
      else .error (.refused refused)
    | .ok result =>
      if (moment.nsoInstance, moment.nsoDeviceName) ≠ readMapping ∨
          appliedIdentity hashIdentity deviceId moment request.selected.entries digest result ≠
            request.preflightIdentity then
        .error (.stale .inputsChanged)
      else .ok result

/-- What a client confirms: the selected streams that the preview did not block. -/
def PreflightResult.confirmed (result : PreflightResult) (selected : Selected) : Selected where
  entries := selected.entries.filter fun entry =>
    !(result.streams.get? entry.1).any Verdict.blocked
  distinct := selected.distinct.sublist (List.filter_sublist.map _)

/-! ### What a ready preview was made from -/

def Narrowed (selected : Selected) (state : LoopState) : Prop :=
  ∀ stream selector, state.current.entries.get? stream = some selector →
    selected.entries.get? stream = some selector

structure ReadyPass (call : Call) (state : LoopState) (result : PreflightResult)
    (chain : PlannedChain) : Prop where
  planned : call.planOf state = .ok (.ok chain)
  plan : result.plan = some chain
  admitted : result.admittedSelection =
    state.current.entries.filter fun entry => (result.skips.get? entry.1).isNone
  skips : ∀ stream, result.skips.get? stream = chain.skipped.get? stream
  mapping : result.deviceId = call.deviceId ∧ result.nsoInstance = call.device.nsoInstance ∧
    result.nsoDeviceName = call.device.nsoDeviceName
  live : result.liveInputDigest = call.encoders.liveDigest call.live

variable {call : Call} {store : PromotionStore} {selected : Selected} {state : LoopState}

variable {result : PreflightResult} {planned chain : PlannedChain}

theorem finish_status {status : Status} {details : Details}
    (finished : call.finish state status details = .finished result) : result.status = status := by
  cases finished
  rfl

theorem judge_ready (ended : (call.judge state planned).2 = some (.finished result)) (ready : result.status = .ready) :
    ∃ dryRuns deltas, call.finish { state with dryRuns } .ready { plan := some planned, deltas } = .finished result := by
  unfold Call.judge at ended
  dsimp only at ended
  split at ended
  · split at ended
    · unfold Call.diagnose at ended
      dsimp only at ended
      split at ended
      · cases (finish_status (Option.some.inj ended)).symm.trans ready
      · cases ended
      · split at ended <;> cases (finish_status (Option.some.inj ended)).symm.trans ready
    · unfold Call.drop at ended
      split at ended <;> cases ended
  · unfold Call.finishRun at ended
    split at ended
    · exact ⟨_, _, Option.some.inj ended⟩
    · cases (finish_status (Option.some.inj ended)).symm.trans ready
    · cases (finish_status (Option.some.inj ended)).symm.trans ready
    · cases (finish_status (Option.some.inj ended)).symm.trans ready

theorem plannedPass_ready (ended : (call.plannedPass state planned).2 = some (.finished result)) (ready : result.status = .ready) :
    skipsMoved state.skips planned.skipped = false ∧ ∃ dryRuns deltas,
      call.finish { state with skips := state.skips.update planned.skipped, dryRuns } .ready
        { plan := some planned, deltas } = .finished result := by
  unfold Call.plannedPass at ended
  split at ended
  · cases (finish_status (Option.some.inj ended)).symm.trans ready
  rename_i kept
  refine ⟨Bool.eq_false_iff.mpr kept, ?_⟩
  dsimp only at ended
  split at ended
  · cases ended
  split at ended
  · cases (finish_status (Option.some.inj ended)).symm.trans ready
  · split at ended
    · cases (finish_status (Option.some.inj ended)).symm.trans ready
    · split at ended
      · exact judge_ready ended ready
      · unfold Call.drop at ended
        split at ended <;> cases ended

theorem runPass_ready (ended : (call.runPass (Call.enter state)).2 = some (.finished result)) (ready : result.status = .ready) :
    ∃ chain, ReadyPass call state result chain := by
  unfold Call.runPass at ended
  dsimp only at ended
  split at ended
  · cases (finish_status (Option.some.inj ended)).symm.trans ready
  · cases ended
  · unfold Call.conflictPass at ended
    split at ended
    · cases (finish_status (Option.some.inj ended)).symm.trans ready
    · dsimp only at ended
      split at ended
      · cases (finish_status (Option.some.inj ended)).symm.trans ready
      · unfold Call.drop at ended
        split at ended <;> cases ended
  · rename_i planned plans
    obtain ⟨kept, dryRuns, deltas, finished⟩ := plannedPass_ready ended ready
    have skips := skips_confirmed (planActionApply_partitions plans).distinct kept
    cases finished
    exact ⟨planned, plans, rfl, rfl, skips, ⟨rfl, rfl, rfl⟩, rfl⟩

theorem Narrowed.runPass (narrowed : Narrowed selected state) (unchanged : call.Unchanged store)
    {next : LoopState} (passed : call.runPass (Call.enter state) = (next, none)) :
    Narrowed selected next := by
  rcases @runPass_cases store state call unchanged with ⟨_, _, _, ended⟩ | ⟨_, _, _, proceeds⟩ | ⟨_, _, ended⟩
  · rw [passed] at ended
    cases ended
  · rcases proceeds with ⟨_, ended, _⟩ | ⟨dryRuns, blocks, dropped⟩
    · rw [passed] at ended
      cases ended
    · rw [passed] at dropped
      unfold Call.drop at dropped
      split at dropped
      · cases dropped
      cases dropped
      intro stream selector chosen
      dsimp only [Selected.without] at chosen
      rw [Dict.get?_filter fun stream => !(blocks.map (·.1)).contains stream] at chosen
      split at chosen
      · exact narrowed stream selector chosen
      · cases chosen
  · rw [passed] at ended
    cases ended

theorem runLoop_ready (unchanged : call.Unchanged store) (fuel : Nat) (state : LoopState)
    (valid : state.Valid selected 0) (narrowed : Narrowed selected state)
    (finished : (call.runLoop selected.keys.length fuel state).2 = .finished result)
    (ready : result.status = .ready) :
    ∃ last chain, Narrowed selected last ∧ ReadyPass call last result chain := by
  induction fuel generalizing state with
  | zero => cases finished
  | succ fuel ih =>
    rw [runLoop_succ call valid] at finished
    split at finished
    · cases (finish_status finished).symm.trans ready
    split at finished
    · rename_i next outcome passed
      have ended : (call.runPass (Call.enter state)).2 = some (.finished result) := by
        rw [passed]
        exact congrArg some finished
      obtain ⟨chain, pass⟩ := runPass_ready ended ready
      exact ⟨state, chain, narrowed, pass⟩
    · rename_i next passed
      have passes := valid.entered_passes call
      rw [passed] at passes
      exact ih next (passes.continues rfl) (narrowed.runPass unchanged passed) finished

theorem ReadyPass.current (pass : ReadyPass call state result chain) (stream : ProjectionStream) :
    stream ∈ state.current.keys ↔ result.Admits stream ∨ result.Skips stream := by
  unfold PreflightResult.Admits PreflightResult.Skips
  rw [pass.admitted]
  constructor
  · intro member
    obtain ⟨entry, listed, rfl⟩ := List.mem_map.mp member
    cases skipped : result.skips.get? entry.1 with
    | some reason => exact .inr rfl
    | none =>
      refine .inl (List.mem_map.mpr ⟨entry, List.mem_filter.mpr ⟨listed, ?_⟩, rfl⟩)
      rw [skipped]
      rfl
  · rintro (admitted | skipped)
    · obtain ⟨entry, listed, rfl⟩ := List.mem_map.mp admitted
      exact List.mem_map.mpr ⟨entry, (List.mem_filter.mp listed).1, rfl⟩
    · rw [Selected.mem_keys]
      rw [pass.skips] at skipped
      exact ((planActionApply_partitions pass.planned).covers stream).mpr (.inr skipped)

theorem ReadyPass.confirmed (pass : ReadyPass call state result chain)
    (narrowed : Narrowed selected state) (partitions : result.Partitions selected chain)
    (stream : ProjectionStream) :
    (result.confirmed selected).entries.get? stream = state.current.entries.get? stream := by
  have blocks : (result.streams.get? stream).any Verdict.blocked = true ↔ result.Blocks stream := Option.any_eq_true _ _
  unfold PreflightResult.confirmed
  rw [Dict.get?_filter fun stream => !(result.streams.get? stream).any Verdict.blocked]
  cases chosen : state.current.entries.get? stream with
  | some selector =>
    have member : stream ∈ state.current.keys := by
      rw [Selected.mem_keys, chosen]
      rfl
    have unblocked : ¬ result.Blocks stream := by
      rcases (pass.current stream).mp member with admitted | skipped
      · exact partitions.unblocked stream admitted
      · exact partitions.disjoint stream skipped
    rw [if_pos, narrowed stream selector chosen]
    rw [Bool.not_eq_true', Bool.eq_false_iff]
    exact fun blocked => unblocked (blocks.mp blocked)
  | none =>
    have outside : stream ∉ state.current.keys := by
      rw [Selected.mem_keys, chosen]
      exact Bool.false_ne_true
    split
    · rename_i kept
      cases listed : selected.entries.get? stream with
      | none => rfl
      | some selector =>
        have member : stream ∈ selected.keys := by
          rw [Selected.mem_keys, listed]
          rfl
        rw [Bool.not_eq_true', Bool.eq_false_iff] at kept
        rcases (partitions.covers stream).mp member with admitted | skipped | blocked
        · exact absurd ((pass.current stream).mpr (.inl admitted)) outside
        · exact absurd ((pass.current stream).mpr (.inr skipped)) outside
        · exact absurd (blocks.mpr blocked) kept
    · rfl

/-! ### Preview and apply over one store -/

/-- The same rows later: the sequences may have advanced. -/
def Advanced (store later : PromotionStore) : Prop :=
  ∃ numbers, later = renumbered store numbers ∧ store.db.nextJobId ≤ numbers.jobId

structure Call.Undisturbed (call : Call) (store : PromotionStore) : Prop where
  rows : ∀ index, Advanced store (call.moment index).store
  context : ∀ index, (call.moment index).context = call.device

theorem Call.Undisturbed.unchanged (undisturbed : call.Undisturbed store) : call.Unchanged store :=
  ⟨fun index => (undisturbed.rows index).imp fun _ same => same.1, undisturbed.context⟩

variable {later : PromotionStore} {moment : Moment} {chosen : Dict ProjectionStream Nat}

theorem Advanced.attachable (advanced : Advanced store later) (attachable : Attachable store.db) : Attachable later.db := by
  obtain ⟨numbers, rfl, ahead⟩ := advanced
  exact fun generation member jobId held => (attachable generation member jobId held).trans_le ahead

theorem actionApply_congr {left right : Dict ProjectionStream Nat}
    (same : ∀ stream, left.get? stream = right.get? stream) (env : Environment)
    (store : PromotionStore) (attemptId : Nat) :
    actionApply env store left attemptId = actionApply env store right attemptId := by
  unfold actionApply selectedPromotions
  simp only [same]

theorem planned_of_advanced {encoders : Encoders} {expected : DeviceContext} {live : ServiceState}
    (attachable : Attachable store.db) (seen : Advanced store moment.store)
    (plans : planActionApply encoders moment expected live chosen = .ok (.ok planned))
    (advanced : Advanced store later) (now attemptId : Nat) :
    ∃ result, actionApply (encoders.environment now) later chosen attemptId = .ok result ∧
      result.generations.map generationInputs = planned.links.map PlannedLink.inputs ∧
      result.skipped = planned.skipped := by
  have first := seen.attachable attachable
  have second := advanced.attachable attachable
  obtain ⟨numbers, same, _⟩ := seen
  obtain ⟨laterNumbers, rfl, _⟩ := advanced
  have again : renumbered store laterNumbers = renumbered moment.store laterNumbers := by
    rw [same]
    rfl
  rw [again] at second ⊢
  exact planActionApply_agrees plans first second now attemptId

theorem ReadyPass.appliedIdentity (pass : ReadyPass call state result chain)
    (confirmed : ∀ stream, chosen.get? stream = state.current.entries.get? stream)
    {applied : ActionApply}
    (links : applied.generations.map generationInputs = chain.links.map PlannedLink.inputs)
    (skipped : applied.skipped = chain.skipped) (context : moment.context = call.device)
    (digest : String) :
    appliedIdentity hashIdentity call.deviceId moment chosen digest applied =
      manualApplyIdentity hashIdentity result.deviceId result.nsoInstance result.nsoDeviceName
        result.admittedSelection result.skips (chain.links.map PlannedLink.inputs) digest := by
  have admitted : canonical (chosen.filter fun entry => (chain.skipped.get? entry.1).isNone) = canonical result.admittedSelection := by
    refine canonical_congr fun stream => ?_
    rw [pass.admitted, Dict.get?_filter fun stream => (chain.skipped.get? stream).isNone,
      Dict.get?_filter fun stream => (result.skips.get? stream).isNone, confirmed, pass.skips]
  unfold Preflight.appliedIdentity manualApplyIdentity
  rw [links, skipped, admitted, canonical_congr pass.skips, pass.mapping.1, pass.mapping.2.1, pass.mapping.2.2, ← context]
  rfl

/-- Over a store that does not change between a preview and the apply of what it admits, the apply
creates the planned links, skips the planned streams and is admitted under the identity of the
preview. -/
theorem preview_agrees_with_apply {env : Environment} {adapter : Adapter}
    (reached : (adapterSystem env).Reachable adapter) (deviceId : Nat) :
    (∀ (encoders : Encoders) (moment : Moment) (expected : DeviceContext) (live : ServiceState)
        (chosen : Dict ProjectionStream Nat) (planned : PlannedChain),
      Advanced (adapter.store deviceId) moment.store →
      planActionApply encoders moment expected live chosen = .ok (.ok planned) →
      ∀ (later : PromotionStore) (now attemptId : Nat), Advanced (adapter.store deviceId) later →
        ∃ result, actionApply (encoders.environment now) later chosen attemptId = .ok result ∧
          result.generations.map generationInputs = planned.links.map PlannedLink.inputs ∧
          result.skipped = planned.skipped) ∧
    ∀ (call : Call) (selected : Selected) (result : PreflightResult) (identity : String), call.Undisturbed (adapter.store deviceId) →
      (call.runSelectedPreflight selected).2 = .finished result →
      preflightIdentity hashIdentity result = some identity →
      ∀ (moment : Moment) (attemptId : Nat), Advanced (adapter.store deviceId) moment.store →
        moment.context = call.device →
        ∃ applied, createPreflightedApply hashIdentity call.encoders call.deviceId moment
          ⟨attemptId, result.confirmed selected, identity⟩ (some call.live)
          (call.device.nsoInstance, call.device.nsoDeviceName) = .ok applied := by
  have attachable : Attachable (adapter.store deviceId).db := (Standing.reachable reached).lawful.identified.bound_below
  refine ⟨fun encoders moment expected live chosen planned seen plans later now attemptId advanced =>
    planned_of_advanced attachable seen plans advanced now attemptId, ?_⟩
  intro call selected result identity undisturbed finished identified moment attemptId advanced context
  obtain ⟨ready, digest, read⟩ : result.status = .ready ∧ ∃ digest, result.liveInputDigest = some digest := by
    unfold preflightIdentity at identified
    split at identified
    · exact ⟨‹_›, _, ‹_›⟩
    · cases identified
  have ends : Ends selected (call.runSelectedPreflight selected) := by
    unfold Call.runSelectedPreflight
    split
    · exact ((start_valid selected).bounded (Nat.zero_le 1)).finish call (by decide) _
    · exact runLoop_ends call _ _ (start_valid selected) (Nat.lt_succ_self _)
  obtain ⟨chain, planned, partitions⟩ := ends.ready result finished ready
  have last : ∃ last chain, Narrowed selected last ∧ ReadyPass call last result chain := by
    unfold Call.runSelectedPreflight at finished
    split at finished
    · cases (finish_status finished).symm.trans ready
    · exact runLoop_ready undisturbed.unchanged _ _ (start_valid selected) (fun _ _ same => same) finished ready
  obtain ⟨last, other, narrowed, pass⟩ := last
  cases (pass.plan.symm.trans planned)
  obtain ⟨applied, applies, links, skipped⟩ := planned_of_advanced attachable
    (undisturbed.rows last.plans) pass.planned advanced moment.now attemptId
  have confirmed := pass.confirmed narrowed partitions
  have same := pass.appliedIdentity hashIdentity confirmed links skipped context digest
  have live : (some call.live).bind call.encoders.liveDigest = some digest := pass.live.symm.trans read
  refine ⟨applied, ?_⟩
  unfold createPreflightedApply
  rw [live]
  rw [actionApply_congr confirmed, applies]
  dsimp only
  rw [same, if_neg]
  rintro (moved | other)
  · exact moved (congrArg (fun device => (device.nsoInstance, device.nsoDeviceName)) context)
  · refine other (Option.some.inj (Eq.trans ?_ identified))
    unfold preflightIdentity
    rw [ready, pass.plan, read]

/-! A device with one accepted VLAN push. -/

def vlanIntent : DeviceIntent where
  nedId := none
  intentRows
    | .vlanIntent => [[("id", .num 1), ("vlan_id", .num 10), ("name", .str "users")]]
    | _ => []
  interfaces := []
  attributeStates := []
  receipts
    | .vlan => some ⟨⟨1, "d", true, false, false⟩, none, 200, none⟩
    | _ => none
  pendingClears := []
  nextPendingClearId := 1

def vlanEnvironment : Environment := ⟨fun _ _ _ => "d", fun _ => none, 0⟩

def vlanAdapter : Adapter :=
  ⟨noteWrite Database.empty 7 .vlan (some 1), 1, fun _ => vlanIntent⟩

theorem vlanAdapter_reachable : (adapterSystem vlanEnvironment).Reachable vlanAdapter := by
  have started : (adapterSystem vlanEnvironment).Reachable ⟨Database.empty, 1, fun _ => vlanIntent⟩ := .initial ⟨rfl, rfl, rfl⟩
  have accepted : (adapterSystem vlanEnvironment).step (.noteWrite 7 .vlan (some 1))
      ⟨Database.empty, 1, fun _ => vlanIntent⟩ = some vlanAdapter := rfl
  exact started.step accepted

def vlanSelection : Selected := ⟨[(.vlan, 1)], by decide⟩

def vlanMoment (index : Nat) : Moment :=
  ⟨"nso", "router", renumbered (vlanAdapter.store 7) ⟨index + 1, index + 1, index + 1, index + 1⟩,
    index, index⟩

def vlanCall : Call where
  encoders := ⟨fun _ _ _ => "d", fun _ => "l", fun _ => none, fun _ _ => .ok (.obj []),
    fun _ _ => true, fun _ _ => .empty⟩
  deviceId := 7
  device := ⟨"nso", "router", none⟩
  live := .answered none
  moment := vlanMoment
  nso _ _ := .delta "delta"

theorem vlanMoment_advanced (index : Nat) : Advanced (vlanAdapter.store 7) (vlanMoment index).store := ⟨_, rfl, Nat.le_add_left 1 index⟩

theorem vlan_preview_agrees : (adapterSystem vlanEnvironment).Reachable vlanAdapter ∧ ∃ result identity applied,
      (vlanCall.runSelectedPreflight vlanSelection).2 = .finished result ∧
      createPreflightedApply (fun _ => "i") vlanCall.encoders 7 (vlanMoment 5)
        ⟨9, result.confirmed vlanSelection, identity⟩ (some vlanCall.live) ("nso", "router") = .ok applied := by
  have ready : (match (vlanCall.runSelectedPreflight vlanSelection).2 with
      | .finished result => (preflightIdentity (fun _ => "i") result).isSome
      | _ => false) = true := by decide +kernel
  split at ready
  · rename_i result finished
    obtain ⟨identity, identified⟩ := Option.isSome_iff_exists.mp ready
    obtain ⟨applied, admitted⟩ := (preview_agrees_with_apply (fun _ => "i") vlanAdapter_reachable
      7).2 vlanCall vlanSelection result identity ⟨vlanMoment_advanced, fun _ => rfl⟩ finished
        identified (vlanMoment 5) 9 (vlanMoment_advanced 5) rfl
    exact ⟨vlanAdapter_reachable, result, identity, applied, finished, admitted⟩
  · cases ready

end NsoAdapter.Preflight
