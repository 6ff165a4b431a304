import NsoAdapter.Core.JobMoves
import NsoAdapter.Core.Reclaim
import NsoAdapter.Execution.AttemptHistory
import NsoAdapter.Execution.RouteSettlement

/-! Consumption of tombstones: what a settlement or a reclaiming pass may delete, and how the
deletion is tied to the status of the job. -/

namespace NsoAdapter.Execution
open Lib Store Projection NsoAdapter.Core StaticRoute

variable {codec : EvidenceCodec}

variable {jobId deviceId : Nat} {reg : ClaimRegistration} {store after : RouteStore}
  {out : SrRemoval} {answers : NsoAnswers} {write : Option TerminalWrite} {proof : SrProof}

theorem terminalize_write {db after : Database} {request : TerminalRequest} {write : TerminalWrite}
    (written : terminalize db jobId request = .ok (after, some write)) :
    write.status = request.status ∧ after.tombstones = db.tombstones := by
  obtain ⟨_, ⟨missed, _⟩ | ⟨owned, _, _, settled, settles, landed⟩⟩ := terminalize_cases written
  · cases missed
  have kept : settled.tombstones = db.tombstones := by
    rcases settleJobGenerations_cases settles with ⟨_, rfl⟩ | ⟨middle, _, ended, stamped⟩
    · rfl
    · obtain ⟨_, update, _, rfl, _⟩ := terminalizeGenerations_spec ended
      rw [stamped]
      rfl
  rcases landed with ⟨_, rfl, shape⟩ | ⟨deviceId, _, rfl, shape⟩
  · cases shape
    exact ⟨rfl, kept⟩
  · cases shape
    exact ⟨rfl, kept⟩

theorem completeRemoval_db {state after : Runtime} {settled : Bool} {evidence : List (String × Json)}
    (completed : completeRemoval codec state jobId reg settled = .ok (after, evidence)) :
    after.db = state.db := by
  unfold completeRemoval at completed
  split at completed
  · cases completed
    rfl
  · split at completed
    · split at completed
      · cases completed
      rename_i result ran
      cases completed
      obtain ⟨_, _, _, _, _, _, _, _, rfl⟩ := completeExecutionResult_eq ran
      rfl
    · cases completed

theorem finalizeStaticRouteRemoval_cases
    (finalized : finalizeStaticRouteRemoval codec store jobId deviceId reg out answers = .ok (after, write)) :
    (write = none ∧ after = store) ∨ ∃ proof consumed landed, srProof answers out = .ok proof ∧
      consumeProven store deviceId reg out proof = .ok consumed ∧ write = some landed ∧
      landed.status = (settlementStatus (ownsCarrier store.runtime.db jobId out) out proof).1 ∧
      after.runtime.db.tombstones = consumed.runtime.db.tombstones ∧
      after.routes = consumed.routes := by
  obtain ⟨proof, proves, rest⟩ := bind_eq_ok.mp finalized
  split at rest
  · obtain ⟨consumed, consumes, rest⟩ := bind_eq_ok.mp rest
    obtain ⟨⟨completed, evidence⟩, completes, rest⟩ := bind_eq_ok.mp rest
    dsimp only at rest
    split at rest
    · cases rest
    · cases rest
      exact .inl ⟨rfl, rfl⟩
    · rename_i db landed written
      cases rest
      obtain ⟨status, tombstones⟩ := terminalize_write written
      refine .inr ⟨proof, consumed, landed, proves, consumes, rfl, status, ?_, rfl⟩
      rw [tombstones, completeRemoval_db completes]
  · cases rest

theorem consumeProven_cases {consumed : RouteStore} (consumes : consumeProven store deviceId reg out proof = .ok consumed) :
    (proof.consumes = false ∧ consumed = store) ∨ proof.consumes = true ∧
      consumed.runtime.db.tombstones = store.runtime.db.tombstones.filter fun tombstone =>
        !(out.tombstoneIds.contains tombstone.id && tombstone.deviceId == deviceId) := by
  unfold consumeProven at consumes
  split at consumes
  · rename_i proven
    refine .inr ⟨proven, ?_⟩
    obtain ⟨runtime, deletes, rfl⟩ := map_eq_ok.mp consumes
    unfold consumeSnapshot at deletes
    split at deletes
    · rename_i empty
      cases deletes
      rw [List.isEmpty_iff.mp empty]
      simp
    · split at deletes
      · cases deletes
      unfold deleteTombstones at deletes
      split at deletes
      · cases deletes
        rfl
      · cases deletes
  · rename_i unproven
    cases consumes
    exact .inl ⟨Bool.eq_false_iff.mpr unproven, rfl⟩

theorem settlementStatus_succeeded {owns : Bool} : (settlementStatus owns out proof).1 = .succeeded ↔
      proof.residue = [] ∧ (proof.proven = true ∨ owns = false) := by
  unfold settlementStatus
  split
  · rename_i found
    simp only [Bool.not_eq_true', List.isEmpty_eq_false_iff] at found
    simp [found]
  · rename_i clean
    simp only [Bool.not_eq_true', List.isEmpty_eq_false_iff, not_not] at clean
    split
    · rename_i done
      simpa [clean] using done
    · rename_i failed
      simp only [Bool.or_eq_true, Bool.not_eq_true', not_or] at failed
      simp [clean, failed.1, failed.2]

theorem srProof_service (proves : srProof answers out = .ok proof) (proven : proof.proven = true)
    (branch : out.branch = .networked ∨ out.branch = .detach) :
    (out.branch = .networked ∧ out.authorized = []) ∨ ∃ service, answers.service = some service ∧
      serviceClean (certifiedStaticRouteSection service) out.authorized = true := by
  have read : ∀ {clean}, srServiceClean answers out = .ok clean → clean = true → ∃ service, answers.service = some service ∧
        serviceClean (certifiedStaticRouteSection service) out.authorized = true := by
    intro clean answered holds
    unfold srServiceClean at answered
    split at answered
    · cases answered
    · rename_i service present
      cases answered
      exact ⟨service, present, holds⟩
  unfold srProof at proves
  split at proves
  · rename_i superseded
    rw [superseded] at branch
    rcases branch with branch | branch <;> cases branch
  · obtain ⟨clean, answered, returned⟩ := bind_eq_ok.mp proves
    cases returned
    simp only [Bool.and_eq_true] at proven
    exact .inr (read answered proven.1.1.1)
  · rename_i networked
    obtain ⟨perField, _, rest⟩ := bind_eq_ok.mp proves
    obtain ⟨clean, answered, returned⟩ := bind_eq_ok.mp rest
    cases returned
    simp only [Bool.and_eq_true] at proven
    unfold networkedServiceClean at answered
    split at answered
    · rename_i none
      exact .inl ⟨networked, List.isEmpty_iff.mp none⟩
    · exact .inr (read answered proven.1.2)
  · rename_i force
    rw [force] at branch
    rcases branch with branch | branch <;> cases branch

structure Coupled (store after : RouteStore) (deviceId : Nat) (out : SrRemoval)
    (answers : NsoAnswers) (write : Option TerminalWrite) : Prop where
  consumed : ∀ landed, write = some landed → landed.status = .succeeded →
    ∀ tombstone ∈ after.runtime.db.tombstones, tombstone.deviceId = deviceId →
      tombstone.id ∉ out.tombstoneIds
  retained : (∀ landed, write = some landed → landed.status ≠ .succeeded) →
    after.runtime.db.tombstones = store.runtime.db.tombstones ∧ after.routes = store.routes
  snapshotted : ∀ tombstone ∈ store.runtime.db.tombstones,
    tombstone ∉ after.runtime.db.tombstones →
      tombstone.id ∈ out.tombstoneIds ∧ tombstone.deviceId = deviceId
  evidenced : ∀ tombstone ∈ store.runtime.db.tombstones,
    tombstone ∉ after.runtime.db.tombstones → out.branch = .networked ∨ out.branch = .detach →
      (out.branch = .networked ∧ out.authorized = []) ∨
        ∃ service, answers.service = some service ∧
          (certifiedStaticRouteSection service).inconclusive = false ∧
          ∀ entry ∈ (certifiedStaticRouteSection service).routes, entry.key ∉ out.authorized

theorem Coupled.unwritten (store : RouteStore) (deviceId : Nat) (out : SrRemoval)
    (answers : NsoAnswers) (refused : ∀ landed, write = some landed → landed.status ≠ .succeeded)
    (tombstones : after.runtime.db.tombstones = store.runtime.db.tombstones)
    (routes : after.routes = store.routes) : Coupled store after deviceId out answers write where
  consumed := fun landed written succeeded => absurd succeeded (refused landed written)
  retained := fun _ => ⟨tombstones, routes⟩
  snapshotted := fun _ member gone => absurd (tombstones ▸ member) gone
  evidenced := fun _ member gone => absurd (tombstones ▸ member) gone

theorem finalizeStaticRouteRemoval_coupled (finalized : finalizeStaticRouteRemoval codec store jobId deviceId reg out answers =
      .ok (after, write)) : Coupled store after deviceId out answers write := by
  rcases finalizeStaticRouteRemoval_cases finalized with
    ⟨rfl, rfl⟩ | ⟨proof, consumed, landed, proves, consumes, rfl, status, tombstones, routes⟩
  · refine .unwritten _ _ _ _ ?_ rfl rfl
    rintro landed ⟨⟩
  · rcases consumeProven_cases consumes with ⟨unproven, rfl⟩ | ⟨proven, deleted⟩
    · by_cases succeeded : landed.status = .succeeded
      · -- an unproven removal succeeds only if it owns no carrier
        have free := settlementStatus_succeeded.mp (status.symm.trans succeeded)
        have unowned : out.tombstoneIds = [] := by
          rcases free.2 with shown | unowned
          · rw [SrProof.consumes, shown, free.1] at unproven
            cases unproven
          · simp only [ownsCarrier, Bool.or_eq_false_iff, Bool.not_eq_false', List.isEmpty_iff] at unowned
            exact unowned.1.1
        exact
          { consumed := fun _ _ _ _ _ _ => by simp [unowned]
            retained := fun _ => ⟨tombstones, routes⟩
            snapshotted := fun _ member gone => absurd (tombstones ▸ member) gone
            evidenced := fun _ member gone => absurd (tombstones ▸ member) gone }
      · exact .unwritten _ _ _ _ (fun _ written => by cases written; exact succeeded) tombstones routes
    · rw [deleted] at tombstones
      have parts := proven
      simp only [SrProof.consumes, Bool.and_eq_true, List.isEmpty_iff] at parts
      have succeeded : landed.status = .succeeded := status.trans (settlementStatus_succeeded.mpr ⟨parts.2, .inl parts.1⟩)
      refine ⟨fun _ _ _ tombstone member device => ?_,
        fun refused => absurd succeeded (refused landed rfl), fun tombstone member gone => ?_,
        fun tombstone _ _ branch => ?_⟩
      · rw [tombstones] at member
        simpa [device] using (List.mem_filter.mp member).2
      · rw [tombstones] at gone
        simpa [member] using gone
      · refine (srProof_service proves parts.1 branch).imp id ?_
        rintro ⟨service, answered, clean⟩
        exact ⟨service, answered, serviceClean_iff.mp clean⟩

/-- A settlement that succeeds has deleted its whole snapshot, one that fails or is refused has
touched no carrier, and what is deleted rests on a conclusive read unless a networked plan
authorizes no key. A reclaiming pass deletes only on reads that show the keys absent. -/
theorem tombstone_consumption_coupled (codec : EvidenceCodec) (digestDocument : DocumentDigest) :
    (∀ (store after : RouteStore) (jobId deviceId : Nat) (reg : ClaimRegistration)
        (out : SrRemoval) (answers : NsoAnswers) (write : Option TerminalWrite),
      finalizeStaticRouteRemoval codec store jobId deviceId reg out answers = .ok (after, write) →
        Coupled store after deviceId out answers write) ∧
      ∀ (store after : RemovalStore) (deviceId now consumed reissued : Nat) (answers : ReclaimAnswers) (document : Document)
        (sourcePushSeq : List (ProjectionStream × Option Nat)),
      (store.db.tombstones.map (·.id)).Nodup →
      reclaimOneDevice digestDocument store deviceId answers document sourcePushSeq now = .ok (after, consumed, reissued) →
      ∀ tombstone ∈ store.db.tombstones, tombstone.id ∉ after.db.tombstones.map (·.id) → tombstone.deviceId = deviceId ∧
          (certifiedStaticRouteSection answers.service).inconclusive = false ∧
          (∀ entry ∈ (certifiedStaticRouteSection answers.service).routes,
            entry.key ≠ tombstone.triple ∧ some entry.key ≠ tombstone.deployedKey) ∧
          (tombstone.marking = .deleteOrigin → ∃ entries, answers.device = .ok entries ∧
            entries.lookup tombstone.triple = none ∧
            ∀ key, tombstone.deployedKey = some key → entries.lookup key = none) ∧
          (tombstone.marking = .detach → (answers.syncFrom.1 || answers.syncFrom.2) = true) := by
  refine ⟨fun _ _ _ _ _ _ _ _ finalized => finalizeStaticRouteRemoval_coupled finalized, ?_⟩
  intro store after deviceId now consumed reissued answers document sourcePushSeq unique reclaimed tombstone member gone
  obtain ⟨_, device, rows, proven⟩ := reclaimOneDevice_deletes unique reclaimed member gone
  obtain ⟨service, origin, detached⟩ := reclaimProven_reads proven
  obtain ⟨conclusive, absent⟩ := serviceClean_iff.mp service
  refine ⟨device, conclusive, fun entry listed => ?_, fun marked => ?_, detached⟩
  · have unclaimed := absent entry listed
    simp only [tombstoneKeys, List.mem_cons, Option.mem_toList, not_or] at unclaimed
    exact ⟨unclaimed.1, fun same => unclaimed.2 same.symm⟩
  · obtain ⟨entries, read, clear⟩ := origin marked
    refine ⟨entries, read, clear _ (List.mem_cons_self ..), fun key deployed => ?_⟩
    exact clear key (List.mem_cons_of_mem _ (Option.mem_toList.mpr deployed))

/-- A route with a metric to clear, at the key of the tombstone of a deleted route. -/
def reusedKey : Triple := ("", "10.0.0.0/24", "192.0.2.1")

def clearingRow : Row :=
  [("id", .num 1), ("vrf", .str ""), ("prefix", .str "10.0.0.0/24"),
    ("next_hop", .str "192.0.2.1"), ("metric", .null),
    ("pending_clear", .obj [("authorized", .arr [.str "metric"])])]

def runningRemoval : RouteStore :=
  { runtime :=
      { emptyRuntime with
        db := { Database.empty with
          jobs := [{ id := 1, jobType := .removal, status := .running, coalescible := false
                     deviceId := some 7, result := none, error := none, context := none
                     createdAt := 0, runAttempt := 1, settleSeq := none }]
          tombstones := [{ id := 5, deviceId := 7, routeId := 3, triple := reusedKey
                           deployedKey := none, marking := .deleteOrigin, createdAt := "t0"
                           jobId := some 1 }] }
        claims := [⟨7, "t1", .job, some 1, 0⟩] }
    routes := [] }

/-- Its classification after a conclusive send of a body that renders the key again. -/
def clearingRemoval : SrRemoval :=
  ((classifyStaticRouteRemoval (classifyRemovalPlan [clearingRow] [⟨5, reusedKey, none⟩]
      [reusedKey] false)
    ⟨.staticRoute, [], [], [], false, false, false, [5]⟩).bodyBuilt [reusedKey]).sent .conclusive

def unreadService : NsoAnswers :=
  ⟨.ok [(reusedKey, ⟨reusedKey, []⟩)], some .inconclusive, (true, true)⟩

/-- A networked removal of clears alone consumes its tombstone with no conclusive read of the
service. -/
theorem networked_consumption_without_service_read : clearingRemoval.branch = .networked ∧
      (certifiedStaticRouteSection .inconclusive).inconclusive = true ∧
      ∃ after landed, finalizeStaticRouteRemoval plainCodec runningRemoval 1 7
          ⟨some 7, some "t1", some 1⟩ clearingRemoval unreadService = .ok (after, some landed) ∧
        landed.status = .succeeded ∧ runningRemoval.runtime.db.tombstones.map (·.id) = [5] ∧
        after.runtime.db.tombstones = [] := by
  refine ⟨by decide +kernel, rfl, ?_⟩
  have found : (finalizeStaticRouteRemoval plainCodec runningRemoval 1 7
      ⟨some 7, some "t1", some 1⟩ clearingRemoval unreadService).toOption.any (fun result =>
        result.1.runtime.db.tombstones.isEmpty && result.2.any fun landed => landed.status == .succeeded) = true := by decide +kernel
  obtain ⟨⟨after, write⟩, finalized, shape⟩ := (Option.any_eq_true _ _).mp found
  rw [Bool.and_eq_true] at shape
  obtain ⟨landed, rfl, status⟩ := (Option.any_eq_true _ _).mp shape.2
  exact ⟨after, landed, toOption_eq_some.mp finalized, beq_iff_eq.mp status, rfl, List.isEmpty_iff.mp shape.1⟩

def reclaimable : RemovalStore :=
  { db := { runningRemoval.runtime.db with
      jobs := runningRemoval.runtime.db.jobs.map fun job => { job with status := .succeeded } }
    attempts := [], nextTombstoneId := 6 }

/-- The removal of the key itself, sent with a body that renders nothing. -/
def deletingRemoval : SrRemoval :=
  ((classifyStaticRouteRemoval (classifyRemovalPlan [] [⟨5, reusedKey, none⟩] [reusedKey] false)
    ⟨.staticRoute, [], [], [], false, false, false, [5]⟩).bodyBuilt []).sent .conclusive

def emptyService : NsoAnswers :=
  ⟨.ok [], some (.answered none), (true, true)⟩

theorem tombstone_consumption_coupled_clearing : (∃ after landed, finalizeStaticRouteRemoval plainCodec runningRemoval 1 7
        ⟨some 7, some "t1", some 1⟩ clearingRemoval unreadService = .ok (after, some landed) ∧
      Coupled runningRemoval after 7 clearingRemoval unreadService (some landed)) ∧
      (deletingRemoval.authorized = [reusedKey] ∧ ∃ after landed, finalizeStaticRouteRemoval plainCodec runningRemoval 1 7
          ⟨some 7, some "t1", some 1⟩ deletingRemoval emptyService = .ok (after, some landed) ∧
        landed.status = .succeeded ∧ Coupled runningRemoval after 7 deletingRemoval emptyService (some landed)) ∧
      ∃ after, reclaimOneDevice (fun _ _ _ => "d") reclaimable 7 ⟨.ok [], .answered none, (true, true)⟩
          [] [] 0 = .ok (after, 1, 0) ∧ after.db.tombstones = [] ∧
        (certifiedStaticRouteSection (.answered none)).inconclusive = false := by
  have sound := tombstone_consumption_coupled plainCodec (fun _ _ _ => "d")
  refine ⟨?_, ⟨by decide +kernel, ?_⟩, ?_⟩
  · have found : (finalizeStaticRouteRemoval plainCodec runningRemoval 1 7
        ⟨some 7, some "t1", some 1⟩ clearingRemoval unreadService).toOption.any (fun result =>
          result.2.isSome) = true := by decide +kernel
    obtain ⟨⟨after, write⟩, finalized, present⟩ := (Option.any_eq_true _ _).mp found
    obtain ⟨landed, rfl⟩ := Option.isSome_iff_exists.mp present
    have run := toOption_eq_some.mp finalized
    exact ⟨after, landed, run, sound.1 _ _ _ _ _ _ _ _ run⟩
  · have found : (finalizeStaticRouteRemoval plainCodec runningRemoval 1 7
        ⟨some 7, some "t1", some 1⟩ deletingRemoval emptyService).toOption.any (fun result =>
          result.2.any fun landed => landed.status == .succeeded) = true := by decide +kernel
    obtain ⟨⟨after, write⟩, finalized, present⟩ := (Option.any_eq_true _ _).mp found
    obtain ⟨landed, rfl, status⟩ := (Option.any_eq_true _ _).mp present
    have run := toOption_eq_some.mp finalized
    exact ⟨after, landed, run, beq_iff_eq.mp status, sound.1 _ _ _ _ _ _ _ _ run⟩
  · have found : (reclaimOneDevice (fun _ _ _ => "d") reclaimable 7
        ⟨.ok [], .answered none, (true, true)⟩ [] [] 0).toOption.any (fun result =>
          result.1.db.tombstones.isEmpty && result.2 == (1, 0)) = true := by decide +kernel
    obtain ⟨⟨after, counts⟩, reclaimed, shape⟩ := (Option.any_eq_true _ _).mp found
    rw [Bool.and_eq_true] at shape
    obtain rfl := beq_iff_eq.mp shape.2
    have gone := List.isEmpty_iff.mp shape.1
    have run := toOption_eq_some.mp reclaimed
    refine ⟨after, run, gone, ?_⟩
    exact (sound.2 _ _ _ _ _ _ _ _ _ (by decide) run _ (List.mem_cons_self ..) (by rw [gone]; exact List.not_mem_nil)).2.1

end NsoAdapter.Execution
