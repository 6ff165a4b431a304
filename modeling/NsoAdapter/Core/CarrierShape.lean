import NsoAdapter.Core.AdapterWalk

/-! What a job carries in every state of the adapter. Coalescing, dedicated carriers, retry
and recovery assign jobs independently of each other; each of them binds a generation to a
fresh job, or right above what a queued job carries. -/

namespace NsoAdapter.Core
open Lib Store Projection

/-- In every reachable state a live job carries a contiguous run of one device's generations in one
mode, one if it is dedicated, and removals and applies are never carried by each other's jobs. -/
theorem carrier_shape {env : Environment} {adapter : Adapter} (reached : (adapterSystem env).Reachable adapter) :
    (∀ job ∈ adapter.db.jobs, job.status = .queued ∨ job.status = .running →
      ∀ first ∈ adapter.db.generations, first.jobId = some job.id → job.deviceId = some first.deviceId ∧
          ∀ last ∈ adapter.db.generations, last.jobId = some job.id → last.mode = first.mode ∧
              ∀ between ∈ adapter.db.generations, between.deviceId = first.deviceId →
                first.seq ≤ between.seq → between.seq ≤ last.seq →
                between.jobId = some job.id) ∧
    (∀ job ∈ adapter.db.jobs, job.coalescible = false →
      ∀ left ∈ adapter.db.generations, ∀ right ∈ adapter.db.generations,
        left.jobId = some job.id → right.jobId = some job.id → left = right) ∧
    ∀ generation ∈ adapter.db.generations, ∀ job ∈ adapter.db.jobs, generation.jobId = some job.id →
        (generation.removalContext.isSome = true ∨ generation.mode = .detach → job.jobType ≠ .apply) ∧
        (generation.removalContext = none ∧ generation.mode = .networked → job.jobType ≠ .removal) := by
  obtain ⟨orderly, lawful⟩ := Standing.reachable reached
  refine ⟨?_, lawful.carriers.dedicated, ?_⟩
  · intro job present status first firstMember firstHeld
    have live : job.status.live = true := by
      rcases status with queued | running
      · rw [queued]; rfl
      · rw [running]; rfl
    refine ⟨(orderly.carrier_status firstMember present firstHeld).device live, ?_⟩
    intro last lastMember lastHeld
    refine ⟨lawful.carriers.mode last lastMember first firstMember job.id lastHeld firstHeld, ?_⟩
    intro between member device above below
    exact orderly.contiguous job present live first firstMember last lastMember between member firstHeld lastHeld device above below
  · intro generation member job present held
    have type := lawful.carriers.jobType generation member job present held
    constructor
    · intro removes apply
      rw [type] at apply
      unfold carrierType at apply
      rcases removes with context | mode
      · rw [context] at apply
        cases apply
      · rw [mode, beq_self_eq_true, Bool.or_true] at apply
        cases apply
    · intro applies removal
      rw [type, carrierType_apply applies.1 applies.2] at removal
      cases removal

def freshAdapter : Adapter where
  db := Database.empty
  nextCohort := 0
  intents _ := ⟨none, fun _ => [], [], [], fun _ => none, [], 0⟩

def constantEnvironment : Environment :=
  ⟨fun _ _ _ => "", fun _ => none, 0⟩

theorem freshAdapter_initial : (adapterSystem constantEnvironment).initial freshAdapter := ⟨rfl, rfl, rfl⟩

def coalescedApplies : List AdapterEvent :=
  [.noteWrite 7 .vlan (some 1), .deliverRequest 7 ⟨[], some .vlan⟩ 0,
    .noteWrite 7 .snmp (some 2), .deliverRequest 7 ⟨[], some .snmp⟩ 0]

theorem carrier_shape_coalesced_applies :
    ∃ adapter, (adapterSystem constantEnvironment).trace coalescedApplies freshAdapter = some adapter ∧
      adapter.db.generations.map (fun generation => (generation.seq, generation.jobId)) = [(1, some 1), (2, some 1)] ∧
      ∀ job ∈ adapter.db.jobs, job.status = .queued ∨ job.status = .running →
        ∀ first ∈ adapter.db.generations, first.jobId = some job.id → job.deviceId = some first.deviceId := by
  have found : ((adapterSystem constantEnvironment).trace coalescedApplies freshAdapter).any (fun adapter => adapter.db.generations.map
        (fun generation => (generation.seq, generation.jobId)) == [(1, some 1), (2, some 1)]) =
      true := by decide +kernel
  obtain ⟨adapter, executed, carried⟩ := (Option.any_eq_true _ _).mp found
  refine ⟨adapter, executed, beq_iff_eq.mp carried, fun job present live first member held => ?_⟩
  exact ((carrier_shape (.trace (.initial freshAdapter_initial) executed)).1 job present live first member held).1

/-- In every run of the adapter a generation without a job is pending, and any other has the status
that its job says. -/
theorem jobs_agree_with_generations {env : Environment} {adapter : Adapter} (reached : (adapterSystem env).Reachable adapter) :
    ∀ generation ∈ adapter.db.generations, (generation.jobId = none → generation.status = .pending) ∧
      ∀ jobId, generation.jobId = some jobId →
        ∃ job ∈ adapter.db.jobs, job.id = jobId ∧ carriedStatus job.status generation.status := by
  have valid := (Standing.reachable reached).orderly
  intro generation member
  refine ⟨valid.unattached generation member, fun jobId attached => ?_⟩
  obtain ⟨job, present, named, carries⟩ := valid.carried generation member jobId attached
  exact ⟨job, present, named, carries.status⟩

theorem coalesced_applies_agree :
    ∃ adapter, (adapterSystem constantEnvironment).trace coalescedApplies freshAdapter = some adapter ∧
      ∃ generation ∈ adapter.db.generations, ∃ job ∈ adapter.db.jobs,
        job.id = 1 ∧ carriedStatus job.status generation.status := by
  have found : ((adapterSystem constantEnvironment).trace coalescedApplies freshAdapter).any
      (fun adapter => adapter.db.generations.any (·.jobId == some 1)) = true := by decide +kernel
  obtain ⟨adapter, executed, carried⟩ := (Option.any_eq_true _ _).mp found
  obtain ⟨generation, member, held⟩ := List.any_eq_true.mp carried
  have agree := jobs_agree_with_generations (.trace (.initial freshAdapter_initial) executed) generation member
  exact ⟨adapter, executed, generation, member, agree.2 1 (beq_iff_eq.mp held)⟩

end NsoAdapter.Core
