import NsoAdapter.Core.TombstoneOwnership
import NsoAdapter.StaticRoute.Wire

/-! The reclaimer (`core/static_route_reclaim.py`): a tombstone whose job succeeded is consumed
if one snapshot of the device proves its deletion, and reissued otherwise. -/

namespace NsoAdapter.Core
open Lib Store Projection StaticRoute

/-- `_eligible` of the reclaimer: the owning job succeeded. -/
def succeededOwner (db : Database) (tombstone : StaticRouteTombstone) : Bool :=
  match tombstone.jobId with
  | none => false
  | some jobId => db.jobs.any fun job => job.id == jobId && job.status == .succeeded

/-- `_authorized`: the tombstone's own keys. -/
def tombstoneKeys (tombstone : StaticRouteTombstone) : List Triple :=
  tombstone.triple :: tombstone.deployedKey.toList

/-- The one snapshot of a device; what was not asked for proves nothing. -/
structure DeviceProof where
  device : DeviceState
  service : CertifiedSection
  syncOk : Option Bool

structure ReclaimAnswers where
  device : DeviceState
  service : ServiceState
  syncFrom : Bool × Bool

/-- `_read_device`, and the `sync-from` that a detach in the batch asks for. -/
def readDevice (answers : ReclaimAnswers) (rows : List StaticRouteTombstone) : DeviceProof :=
  { device := if rows.any fun row => row.marking == .deleteOrigin then answers.device else .error
    service := certifiedStaticRouteSection answers.service
    syncOk := if rows.any fun row => row.marking == .detach then
      some (answers.syncFrom.1 || answers.syncFrom.2) else none }

/-- Gone from the device and from the service. -/
def deleteOriginProven (proof : DeviceProof) (tombstone : StaticRouteTombstone) : Bool :=
  match proof.device with
  | .ok entries => (tombstoneKeys tombstone).all (fun key => (entries.lookup key).isNone) &&
      serviceClean proof.service (tombstoneKeys tombstone)
  | _ => false

/-- Gone from the service, and the device's truth is read back. -/
def detachProven (proof : DeviceProof) (tombstone : StaticRouteTombstone) : Bool :=
  proof.syncOk == some true && serviceClean proof.service (tombstoneKeys tombstone)

def reclaimProven (proof : DeviceProof) (tombstone : StaticRouteTombstone) : Bool :=
  if tombstone.marking = .deleteOrigin then deleteOriginProven proof tombstone
  else detachProven proof tombstone

def reclaimRows (db : Database) (deviceId : Nat) : List StaticRouteTombstone :=
  orderBy (·.id) (db.tombstones.filter fun tombstone =>
    tombstone.deviceId == deviceId && succeededOwner db tombstone)

def consumableIds (db : Database) (deviceId : Nat) (answers : ReclaimAnswers) : List Nat :=
  ((reclaimRows db deviceId).filter
    (reclaimProven (readDevice answers (reclaimRows db deviceId)))).map (·.id)

def consumeReclaimed (db : Database) (deviceId : Nat) (answers : ReclaimAnswers) : Database :=
  { db with
    tombstones := db.tombstones.filter fun tombstone =>
      !((consumableIds db deviceId answers).contains tombstone.id &&
        tombstone.deviceId == deviceId) }

/-- `reclaim_one_device` under its claim: consume what is proven, then reissue the rest. -/
def reclaimOneDevice (digestDocument : DocumentDigest) (store : RemovalStore) (deviceId : Nat)
    (answers : ReclaimAnswers) (document : Document)
    (sourcePushSeq : List (ProjectionStream × Option Nat)) (now : Nat) :
    Except PromotionError (RemovalStore × Nat × Nat) :=
  let rows := reclaimRows store.db deviceId
  let unproven := rows.filter fun row => !reclaimProven (readDevice answers rows) row
  match unproven.foldlM
      (reissueRemovalJob digestDocument store.attempts document sourcePushSeq now)
      (consumeReclaimed store.db deviceId answers) with
  | .error refused => .error refused
  | .ok after => .ok ({ store with db := after }, (consumableIds store.db deviceId answers).length,
      (unproven.filter fun row => !automaticRemovalReissueBlocked store.attempts row).length)

variable {digestDocument : DocumentDigest} {now : Nat} {tombstone : StaticRouteTombstone}

variable {db after : Database} {deviceId : Nat} {document : Document}
  {sourcePushSeq : List (ProjectionStream × Option Nat)}

theorem carryRemoval_tombstones {content : GenerationContent} {tombstoneIds clearIds : List Nat}
    {streams : List ProjectionStream} {generation : DeploymentGeneration} {job : Job}
    (carried : carryRemoval digestDocument db deviceId content tombstoneIds clearIds streams now =
      .ok (after, generation, job)) : after.tombstones = db.tombstones := by
  obtain ⟨stored, stores, carrier⟩ := carryRemoval_eq carried
  obtain ⟨rfl, attached⟩ := attachDedicatedJob_eq carrier
  obtain ⟨document, inserted⟩ := storeGeneration_eq stores
  have shape : stored = (insertGeneration digestDocument db deviceId { content with document }).1 := congrArg Prod.fst inserted
  rcases attachToJob_cases attached with ⟨refused, _⟩ | ⟨_, bound, _⟩
  · cases refused
  · rw [bound, shape]
    rfl

theorem reissueRemovalJob_ids {attempts : List ExecutionAttempt}
    (reissued : reissueRemovalJob digestDocument attempts document sourcePushSeq now db tombstone =
      .ok after) : after.tombstones.map (·.id) = db.tombstones.map (·.id) := by
  unfold reissueRemovalJob at reissued
  split at reissued
  · cases reissued
    rfl
  · dsimp only at reissued
    split at reissued
    · cases reissued
    · rename_i stored generation job carried
      cases reissued
      rw [assignTombstones_ids, carryRemoval_tombstones carried]

theorem reclaimOneDevice_deletes {store after : RemovalStore} {consumed reissued : Nat}
    {answers : ReclaimAnswers} (unique : (store.db.tombstones.map (·.id)).Nodup)
    (reclaimed : reclaimOneDevice digestDocument store deviceId answers document sourcePushSeq
      now = .ok (after, consumed, reissued)) (member : tombstone ∈ store.db.tombstones)
    (gone : tombstone.id ∉ after.db.tombstones.map (·.id)) :
    succeededOwner store.db tombstone = true ∧ tombstone.deviceId = deviceId ∧
      ∃ rows, reclaimProven (readDevice answers rows) tombstone = true := by
  unfold reclaimOneDevice at reclaimed
  dsimp only at reclaimed
  split at reclaimed
  · cases reclaimed
  rename_i last loop
  cases reclaimed
  have ids : last.tombstones.map (·.id) = (consumeReclaimed store.db deviceId answers).tombstones.map (·.id) :=
    foldlM_ok (fun reached => reached.tombstones.map (·.id) = (consumeReclaimed store.db deviceId answers).tombstones.map (·.id))
      (fun row _ before next same step => (reissueRemovalJob_ids step).trans same) rfl loop
  have dropped : tombstone ∉ (consumeReclaimed store.db deviceId answers).tombstones := fun kept => gone (ids ▸ List.mem_map_of_mem kept)
  simp only [consumeReclaimed, consumableIds, reclaimRows, List.mem_filter, member, true_and,
    Bool.not_eq_true', Bool.not_eq_false, Bool.and_eq_true, List.contains_iff_mem, List.mem_map,
    mem_orderBy, beq_iff_eq] at dropped
  obtain ⟨⟨row, ⟨⟨listed, device, owner⟩, proven⟩, same⟩, _⟩ := dropped
  obtain rfl := List.inj_on_of_nodup_map unique listed member same
  exact ⟨owner, device, _, proven⟩

theorem reclaimProven_reads {answers : ReclaimAnswers} {rows : List StaticRouteTombstone}
    (proven : reclaimProven (readDevice answers rows) tombstone = true) :
    serviceClean (certifiedStaticRouteSection answers.service) (tombstoneKeys tombstone) = true ∧
      (tombstone.marking = .deleteOrigin → ∃ entries, answers.device = .ok entries ∧
        ∀ key ∈ tombstoneKeys tombstone, entries.lookup key = none) ∧
      (tombstone.marking = .detach → (answers.syncFrom.1 || answers.syncFrom.2) = true) := by
  unfold reclaimProven at proven
  split at proven
  · rename_i origin
    unfold deleteOriginProven at proven
    split at proven
    · rename_i entries read
      simp only [Bool.and_eq_true, List.all_eq_true, Option.isNone_iff_eq_none] at proven
      refine ⟨proven.2, fun _ => ⟨entries, ?_, proven.1⟩, fun detached => ?_⟩
      · simp only [readDevice] at read
        split at read
        · exact read
        · cases read
      · rw [origin] at detached
        cases detached
    · cases proven
  · rename_i other
    simp only [detachProven, readDevice, Bool.and_eq_true, beq_iff_eq] at proven
    refine ⟨proven.2, fun origin => absurd origin other, fun _ => ?_⟩
    split at proven
    · simpa using proven.1
    · cases proven.1

end NsoAdapter.Core
