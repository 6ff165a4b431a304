import NsoAdapter.Core.PromotionWalk

/-! Every transaction of the adapter is a sequence of moves of its kinds. -/

namespace NsoAdapter.Core
open Lib Store Projection

def Adapter.chain (adapter : Adapter) : DeploymentChain :=
  ⟨adapter.db, adapter.nextCohort⟩

structure Standing (adapter : Adapter) : Prop where
  orderly : Orderly adapter.db
  lawful : Lawful adapter.chain

def AdapterEvent.kinds : AdapterEvent → List MoveKind
  | .edit .. => [.rewrite]
  | .noteWrite .. => [.write]
  | .prepareSnapshot .. => [.write, .prepare]
  | .deliverRequest .. => .cohort :: enqueueKinds
  | .createActionApply .. | .createAutomaticApply .. => chainKinds
  | .reissueRemoval .. => [.prune, .create, .job, .bind, .rewrite]
  | .chain operation => operation.kinds

theorem Moves.noteWrite (chain : DeploymentChain) (deviceId : Nat) (stream : ProjectionStream) (pushSeq : Option Nat) :
    Moves [.write] chain { chain with db := noteWrite chain.db deviceId stream pushSeq } := by
  unfold Core.noteWrite
  split
  · exact single (.stream (fun row _ _ => .write row pushSeq) nofun) (by simp)
  · rename_i absent
    refine single (.firstWrite pushSeq fun row member => ?_) (by simp)
    exact Bool.eq_false_iff.mpr fun same => absent (List.any_eq_true.mpr ⟨row, member, same⟩)

theorem onlyStreams_noteWrite (db : Database) (deviceId : Nat) (stream : ProjectionStream)
    (pushSeq : Option Nat) : OnlyStreams db (noteWrite db deviceId stream pushSeq) := by
  unfold noteWrite
  split <;> rfl

theorem Orderly.of_onlyStreams {db after : Database} (valid : Orderly db) (only : OnlyStreams db after) : Orderly after :=
  ((Sound.refl valid).of_onlyStreams only).orderly

variable {adapter : Adapter} {stream : ProjectionStream}

theorem Standing.serving (standing : Standing adapter) (deviceId : Nat) : Serving none (adapter.store deviceId) :=
  ⟨standing.orderly, standing.lawful, nofun⟩

theorem Serves.prepareSnapshot {store after : PromotionStore} {deletedRoots : List String}
    {rows : IntentTable → List Row} {storeOnly : Bool} (serving : Serving none store)
    (prepared : prepareSnapshot store stream deletedRoots rows storeOnly = .ok after) :
    Serves none [.write, .prepare] store after := by
  unfold Core.prepareSnapshot at prepared
  split at prepared
  · cases prepared
  rename_i root child _
  dsimp only at prepared
  split at prepared
  · cases prepared
  split at prepared
  · cases prepared
  · cases prepared
  rename_i stored slot
  cases prepared
  obtain ⟨tables, _, slot⟩ := bind_eq_ok.mp slot
  obtain ⟨desired, _, slot⟩ := bind_eq_ok.mp slot
  obtain ⟨known, _, slot⟩ := bind_eq_ok.mp slot
  obtain ⟨deletions, _, returned⟩ := bind_eq_ok.mp slot
  let replaced : PromotionStore := { store with
    db := noteWrite store.db store.deviceId stream none
    intentRows := fun table =>
      if table = root ∨ table = child then rows table else store.intentRows table }
  have writes : Moves [.write] store.chain replaced.chain := .noteWrite store.chain store.deviceId stream none
  have first : Serves none [.write, .prepare] store replaced :=
    ⟨⟨serving.orderly.of_onlyStreams (onlyStreams_noteWrite ..), writes.lawful serving.lawful, nofun⟩, rfl, writes.mono (by simp)⟩
  have same : after = if storeOnly then replaced
      else prepareSlot replaced stream tables deletions :=
    (congrArg Prod.snd (Except.ok.inj returned)).symm
  rw [same]
  split
  · exact first
  · have second : Serves none [.prepare] replaced (prepareSlot replaced stream tables deletions) :=
      updateStreams first.serving (fun row _ _ _ => .prepare row tables deletions) nofun
    exact first.trans (second.mono (by simp))

theorem selectPromotion_prepared {store : PromotionStore} {selector : Nat} {selection : Selection}
    (selects : selectPromotion store stream selector = .ok (.ok selection)) :
    selection.Prepared store := by
  unfold selectPromotion at selects
  split at selects
  · split at selects
    · cases selects
    rename_i ready
    cases selects
    intro revision named
    cases named
    unfold resolvePreparedSelection at ready
    cases found : store.streamRow stream with
    | none =>
      rw [found] at ready
      cases ready
    | some row =>
      rw [found] at ready
      cases slot : row.preparedRevision with
      | none => simp [slot] at ready
      | some prepared =>
        refine ⟨row, rfl, ?_⟩
        simp only [slot, Option.bind_some, Option.map_some] at ready
        split at ready
        · cases ready
        split at ready
        · cases ready
        split at ready
        · cases ready
        split at ready
        · rename_i same
          rw [same]
          exact slot
        · split at ready <;> cases ready
  · split at selects
    · cases selects
    · cases selects
    · cases selects
      exact nofun

theorem promotable_prepared {store : PromotionStore} {selected : Dict ProjectionStream Nat}
    {resolved : List (ProjectionStream × Except SkipReason Selection)}
    (resolves : selectedPromotions store selected = .ok resolved) :
    ∀ selection ∈ promotable resolved, selection.Prepared store := by
  intro selection member
  obtain ⟨entry, inside, kept⟩ := List.mem_filterMap.mp member
  obtain ⟨item, _, resolution⟩ := exists_of_mem_mapM resolves inside
  obtain ⟨outcome, selects, returned⟩ := bind_eq_ok.mp resolution
  cases returned
  have chosen : outcome = .ok selection := toOption_eq_some.mp kept
  rw [chosen] at selects
  exact selectPromotion_prepared selects

namespace Serves

variable {env : Environment} {store after : PromotionStore}

theorem promoteSelected {selections : List Selection} {attemptId : Option Nat}
    (serving : Serving none store) (prepared : ∀ selection ∈ selections, selection.Prepared store)
    (promoted : promoteSelected env store selections attemptId = .ok after) :
    Serves none chainKinds store after := by
  unfold Core.promoteSelected at promoted
  split at promoted
  · cases promoted
  · rename_i result created
    cases promoted
    exact createApplyChain serving prepared created

theorem createActionApply {selected : Dict ProjectionStream Nat} {attemptId : Nat} (serving : Serving none store)
    (created : createActionApply env store selected attemptId = .ok after) :
    Serves none chainKinds store after := by
  obtain ⟨resolved, resolves, created⟩ := bind_eq_ok.mp created
  split at created
  · cases created
    exact refl serving
  · split at created
    · cases created
    · exact promoteSelected serving (promotable_prepared resolves) created

theorem createAutomaticApply {stream : ProjectionStream} {pushSeq : Nat} (serving : Serving none store)
    (created : createAutomaticApply env store stream pushSeq = .ok after) :
    Serves none chainKinds store after := by
  obtain ⟨resolved, resolves, created⟩ := bind_eq_ok.mp created
  split at created
  · cases created
  split at created
  · cases created
    exact refl serving
  · exact promoteSelected serving (promotable_prepared resolves) created

theorem enqueueApply {stream : ProjectionStream} {cohort : Option Nat} (serving : Serving cohort store)
    (enqueued : enqueueApply env store stream cohort = .ok after) :
    Serves cohort enqueueKinds store after := by
  obtain ⟨⟨created, generation⟩, creates, admits⟩ := bind_eq_ok.mp enqueued
  exact applyGeneration serving rfl rfl rfl creates admits

theorem deliverRequest {delivery : RequestDelivery} (serving : Serving none store)
    (delivered : deliverRequest env store delivery = .ok after) :
    Serves none (.cohort :: enqueueKinds) store after := by
  obtain ⟨allocated, device, cohorts⟩ := allocateCohort serving delivery.generationCount
  obtain ⟨removed, removes, delivered⟩ := bind_eq_ok.mp delivered
  have removals : Serves (Core.allocateCohort store delivery.generationCount).2 enqueueKinds
      (Core.allocateCohort store delivery.generationCount).1 removed := by
    refine foldlM_ok (fun current => Serves _ enqueueKinds _ current) ?_ (refl allocated) removes
    intro admission _ before next held stepped
    obtain ⟨⟨enqueued, generation⟩, enqueues, returned⟩ := bind_eq_ok.mp stepped
    cases returned
    exact held.trans (enqueueRemoval held.serving rfl enqueues)
  have request : Serves (Core.allocateCohort store delivery.generationCount).2 enqueueKinds
      (Core.allocateCohort store delivery.generationCount).1 after := by
    split at delivered
    · cases delivered
      exact removals
    · exact removals.trans (enqueueApply removals.serving delivered)
  exact ⟨request.ended.serving, request.device.trans device,
    (cohorts.mono (by simp)).trans (request.moves.mono (List.subset_cons_self _ _))⟩

theorem reissueRemoval {tombstone : StaticRouteTombstone} (serving : Serving none store)
    (reissued : reissueRemoval env store tombstone = .ok after) :
    Serves none [.prune, .create, .job, .bind, .rewrite] store after := by
  obtain ⟨⟨created, generation⟩, creates, reissued⟩ := bind_eq_ok.mp reissued
  obtain ⟨first, fresh, _, context⟩ := createReissueGeneration serving creates
  dsimp only at reissued
  split at reissued
  · cases reissued
  rename_i db job attaches
  cases reissued
  have second := attachDedicatedJob first.serving fresh (carrierType_removal context).symm attaches
  have carried : Serves none [.prune, .create, .job, .bind, .rewrite] store
      { created with db } := (first.mono (by simp)).trans (second.mono (by simp))
  have move : Move .rewrite ⟨db, created.nextCohort⟩ ⟨assignTombstones db [tombstone.id] job.id, created.nextCohort⟩ :=
    .rewrite (.of_jobs .refl (List.map_id' _).symm rfl rfl ⟨rfl, rfl⟩)
  exact ⟨⟨carried.serving.orderly.of_same rfl rfl rfl rfl rfl, move.lawful carried.serving.lawful, nofun⟩, carried.device,
    carried.moves.trans (.single move (by simp))⟩

end Serves

theorem Adapter.transact_moves {Failure : Type} {after : Adapter} {deviceId : Nat}
    {kinds : List MoveKind} {result : Except Failure PromotionStore}
    (serves : ∀ stored, result = .ok stored → Serves none kinds (adapter.store deviceId) stored)
    (committed : adapter.transact result = some after) :
    Standing after ∧ Moves kinds adapter.chain after.chain := by
  obtain ⟨stored, succeeded, rfl⟩ := Option.map_eq_some_iff.mp committed
  have done := serves stored (toOption_eq_some.mp succeeded)
  exact ⟨⟨done.serving.orderly, done.serving.lawful⟩, done.moves⟩

theorem adapterStep_moves {env : Environment} {event : AdapterEvent} {after : Adapter}
    (standing : Standing adapter) (stepped : adapterStep env event adapter = some after) :
    Standing after ∧ Moves event.kinds adapter.chain after.chain := by
  cases event with
  | edit deviceId intent tombstones =>
    cases stepped
    have move : Move .rewrite adapter.chain ⟨{ adapter.db with tombstones }, adapter.nextCohort⟩ :=
      .rewrite (.of_jobs .refl (List.map_id' _).symm rfl rfl ⟨rfl, rfl⟩)
    exact ⟨⟨standing.orderly.of_same rfl rfl rfl rfl rfl, move.lawful standing.lawful⟩, .single move (List.mem_singleton_self _)⟩
  | noteWrite deviceId stream pushSeq =>
    cases stepped
    have moves : Moves [.write] adapter.chain ⟨noteWrite adapter.db deviceId stream pushSeq, adapter.nextCohort⟩ :=
      .noteWrite adapter.chain deviceId stream pushSeq
    exact ⟨⟨standing.orderly.of_onlyStreams (onlyStreams_noteWrite ..), moves.lawful standing.lawful⟩, moves⟩
  | prepareSnapshot deviceId stream deletedRoots rows storeOnly =>
    exact Adapter.transact_moves (fun _ prepared => .prepareSnapshot (standing.serving deviceId) prepared) stepped
  | deliverRequest deviceId delivery now =>
    exact Adapter.transact_moves (fun _ delivered => .deliverRequest (standing.serving deviceId) delivered) stepped
  | createActionApply deviceId selected attemptId now =>
    exact Adapter.transact_moves (fun _ created => .createActionApply (standing.serving deviceId) created) stepped
  | createAutomaticApply deviceId stream pushSeq now =>
    exact Adapter.transact_moves (fun _ created => .createAutomaticApply (standing.serving deviceId) created) stepped
  | reissueRemoval tombstone now =>
    exact Adapter.transact_moves (fun _ reissued => .reissueRemoval (standing.serving tombstone.deviceId) reissued) stepped
  | chain operation =>
    simp only [adapterStep] at stepped
    split at stepped
    · rename_i called
      obtain ⟨db, ran, rfl⟩ := Option.map_eq_some_iff.mp stepped
      have moves : Moves operation.kinds adapter.chain ⟨db, adapter.nextCohort⟩ :=
        Operation.run_moves standing.orderly standing.lawful called ran
      exact ⟨⟨(Operation.run_sound standing.orderly ran).orderly, moves.lawful standing.lawful⟩, moves⟩
    · cases stepped

theorem Standing.initial {env : Environment} (empty : (adapterSystem env).initial adapter) : Standing adapter := by
  obtain ⟨jobs, generations, streams⟩ := empty
  have orderly : Orderly adapter.db := .of_empty jobs generations
  refine ⟨orderly, ⟨orderly.toIdentified, ?_, ?_, ?_, ?_, ?_⟩⟩
  · constructor <;> simp [Adapter.chain, jobs, generations]
  · simp [Keyed, Adapter.chain, streams]
  · simp [Adapter.chain, generations]
  · simp [Adapter.chain, jobs]
  · simp [Adapter.chain, generations]

theorem Standing.reachable {env : Environment} (reached : (adapterSystem env).Reachable adapter) : Standing adapter :=
  reached.invariant (fun _ => Standing.initial) fun _ _ _ standing stepped => (adapterStep_moves standing stepped).1

end NsoAdapter.Core
