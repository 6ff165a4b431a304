import NsoAdapter.Core.ChainOperations
import NsoAdapter.Lib.Outcome
import NsoAdapter.Lib.Transition

/-! The deployment chain as a transition system. Every operation of the adapter on
jobs and generations is one label and one atomic step; an operation that raises
takes no step. -/

namespace NsoAdapter.Core
open Lib Store

/-- The transactions that touch the chain; free arguments are what the environment chooses. -/
inductive Operation where
  | createGeneration (deviceId : Nat) (content : GenerationContent)
  | admitCoalescibleJob (deviceId : Nat) (jobType : JobType) (context : Option JobContext)
      (now : Nat)
  | createDedicatedJob (deviceId : Nat) (jobType : JobType) (context : Option JobContext)
      (now : Nat)
  | createFollowupSync (deviceId followupOfJobId now : Nat)
  | enqueueProvisionJob (context : Option JobContext) (now : Nat)
  | attachToJob (generationId jobId : Nat)
  | startHead (deviceId : Nat) (expectedJobId : Option Nat)
  | startClaimless
  | terminalize (jobId : Nat) (request : TerminalRequest)
  | terminalizeRunning (jobId : Nat) (status : JobStatus) (error : Option Json)
      (expectedAttempt : Option Nat)
  | retryGeneration (generationId now : Nat)
  | reconcileGeneration (generationId now : Nat)
  | advanceGenerations (deviceId now : Nat)
  | strandRunningGenerations
  | recoverGenerations (now : Nat → Nat)

/-- `attach_to_job` as its callers reach it, with a generation without a job and a job locked while
it is queued for the device. -/
def attachQueued (db : Database) (generationId jobId : Nat) : Option Database :=
  match db.generations.find? (fun row => row.id == generationId),
      db.jobs.find? (fun job => job.id == jobId) with
  | some generation, some job =>
    if generation.jobId.isNone && job.status == .queued &&
        job.deviceId == some generation.deviceId then
      (attachToJob db generation job).toOption.map (·.1)
    else
      none
  | _, _ => none

variable (digestDocument : DocumentDigest)

/-- One transaction. `terminalize` is called with the status observed before the run. -/
def Operation.run (operation : Operation) (db : Database) : Option Database :=
  match operation with
  | .createGeneration deviceId content =>
    some (insertGeneration digestDocument db deviceId content).1
  | .admitCoalescibleJob deviceId jobType context now =>
    (Core.admitCoalescibleJob db deviceId jobType context now).toOption.map (·.1)
  | .createDedicatedJob deviceId jobType context now =>
    (Core.createDedicatedJob db deviceId jobType context now).toOption.map (·.1)
  | .createFollowupSync deviceId followupOfJobId now =>
    some (Core.createFollowupSync db deviceId followupOfJobId now).1
  | .enqueueProvisionJob context now => some (insertJob db none .provision false context now).1
  | .attachToJob generationId jobId => attachQueued db generationId jobId
  | .startHead deviceId expectedJobId =>
    (startHeadUnderClaim db deviceId expectedJobId).map (·.1)
  | .startClaimless => (claimNextClaimlessJob db).map (·.1)
  | .terminalize jobId request =>
    if request.expect.live then (Core.terminalize db jobId request).toOption.map (·.1) else none
  | .terminalizeRunning jobId status error expectedAttempt =>
    (Core.terminalizeRunning db jobId status error expectedAttempt).toOption.map (·.1)
  | .retryGeneration generationId now =>
    (Core.retryGeneration digestDocument db generationId now).toOption.map (·.1)
  | .reconcileGeneration generationId now =>
    (Core.reconcileGeneration db generationId now).toOption.map (·.1)
  | .advanceGenerations deviceId now =>
    (advanceGenerationsLocked db deviceId now).toOption.map (·.1)
  | .strandRunningGenerations => (Core.strandRunningGenerations db).toOption.map (·.1)
  | .recoverGenerations now => (Core.recoverGenerations db now).toOption

/-- The deployment chain, from a store with no job and no generation. -/
def orchestration : TransitionSystem Database Operation where
  initial db := db.jobs = [] ∧ db.generations = []
  step := Operation.run digestDocument

variable {after db : Database}

theorem toOption_fst_eq_some {Value : Type} {outcome : Except CoreError (Database × Value)}
    (ran : outcome.toOption.map (·.1) = some after) :
    ∃ value, outcome = .ok (after, value) := by
  cases outcome with
  | error refused => cases ran
  | ok result =>
    cases ran
    exact ⟨result.2, rfl⟩

variable {digestDocument}

def Operation.queues : Operation → Bool
  | .admitCoalescibleJob .. | .createDedicatedJob .. | .createFollowupSync ..
  | .enqueueProvisionJob .. => true
  | _ => false

/-- How an operation succeeds: what it inserts, or the call that it made. -/
inductive Operation.Ran (digestDocument : DocumentDigest) (db : Database) :
    Operation → Database → Prop where
  | created (deviceId : Nat) (content : GenerationContent) :
      Ran digestDocument db (.createGeneration deviceId content)
        (insertGeneration digestDocument db deviceId content).1
  | joined {operation : Operation} (queues : operation.queues = true) :
      Ran digestDocument db operation db
  | queued {operation : Operation} (queues : operation.queues = true) (deviceId : Option Nat)
      {jobType : JobType} {coalescible : Bool} (context : Option JobContext) (now : Nat)
      (dedicated : jobType = .removal → coalescible = false) :
      Ran digestDocument db operation (insertJob db deviceId jobType coalescible context now).1
  | attached {generation : DeploymentGeneration} {job : Job} {after : Database} {carried : Bool}
      (member : generation ∈ db.generations) (unbound : generation.jobId = none)
      (present : job ∈ db.jobs) (queued : job.status = .queued)
      (device : job.deviceId = some generation.deviceId)
      (accepted : Core.attachToJob db generation job = .ok (after, carried)) (generationId jobId : Nat) :
      Ran digestDocument db (.attachToJob generationId jobId) after
  | started {deviceId : Nat} {expectedJobId : Option Nat} {after : Database} {job : Job}
      (start : startHeadUnderClaim db deviceId expectedJobId = some (after, job)) :
      Ran digestDocument db (.startHead deviceId expectedJobId) after
  | claimless {after : Database} {job : Job} (start : claimNextClaimlessJob db = some (after, job)) :
      Ran digestDocument db .startClaimless after
  | ended {jobId : Nat} {request : TerminalRequest} {after : Database} {write : Option TerminalWrite}
      (observed : request.expect.live = true)
      (written : Core.terminalize db jobId request = .ok (after, write)) :
      Ran digestDocument db (.terminalize jobId request) after
  | disposed {jobId : Nat} {status : JobStatus} {error : Option Json} {expectedAttempt : Option Nat}
      {after : Database} {written : Option JobStatus}
      (moved : Core.terminalizeRunning db jobId status error expectedAttempt = .ok (after, written)) :
      Ran digestDocument db (.terminalizeRunning jobId status error expectedAttempt) after
  | retried {generationId now : Nat} {after : Database} {job : Option Job}
      (retried : Core.retryGeneration digestDocument db generationId now = .ok (after, job)) :
      Ran digestDocument db (.retryGeneration generationId now) after
  | reconciled {generationId now : Nat} {after : Database} {job : Option Job}
      (reconciled : Core.reconcileGeneration db generationId now = .ok (after, job)) :
      Ran digestDocument db (.reconcileGeneration generationId now) after
  | advanced {deviceId now : Nat} {after : Database} {job : Option Job}
      (advanced : advanceGenerationsLocked db deviceId now = .ok (after, job)) :
      Ran digestDocument db (.advanceGenerations deviceId now) after
  | stranded {after : Database} {landed : List Nat}
      (stranded : Core.strandRunningGenerations db = .ok (after, landed)) :
      Ran digestDocument db .strandRunningGenerations after
  | recovered {now : Nat → Nat} {after : Database}
      (recovered : Core.recoverGenerations db now = .ok after) :
      Ran digestDocument db (.recoverGenerations now) after

theorem Operation.ran {operation : Operation} (ran : operation.run digestDocument db = some after) :
    operation.Ran digestDocument db after := by
  cases operation with
  | createGeneration deviceId content =>
    cases ran
    exact .created deviceId content
  | admitCoalescibleJob deviceId jobType context now =>
    obtain ⟨job, admitted⟩ := toOption_fst_eq_some ran
    rcases admitCoalescibleJob_cases admitted with ⟨rfl, _⟩ | inserted
    · exact .joined rfl
    · obtain rfl : after = (insertJob db (some deviceId) jobType true context now).1 := congrArg Prod.fst inserted
      refine .queued rfl _ _ _ fun removal => ?_
      rw [removal] at admitted
      cases admitted
  | createDedicatedJob deviceId jobType context now =>
    obtain ⟨job, created⟩ := toOption_fst_eq_some ran
    obtain rfl : after = (insertJob db (some deviceId) jobType false context now).1 := congrArg Prod.fst (createDedicatedJob_eq created)
    exact .queued rfl _ _ _ fun _ => rfl
  | createFollowupSync | enqueueProvisionJob =>
    cases ran
    exact .queued rfl _ _ _ fun _ => rfl
  | attachToJob generationId jobId =>
    simp only [Operation.run, attachQueued] at ran
    split at ran
    · rename_i generation job foundGeneration foundJob
      split at ran
      · rename_i allowed
        simp only [Bool.and_eq_true, beq_iff_eq, Option.isNone_iff_eq_none] at allowed
        obtain ⟨carried, accepted⟩ := toOption_fst_eq_some ran
        exact .attached (List.mem_of_find?_eq_some foundGeneration) allowed.1.1
          (List.mem_of_find?_eq_some foundJob) allowed.1.2 allowed.2 accepted generationId jobId
      · cases ran
    · cases ran
  | startHead deviceId expectedJobId =>
    obtain ⟨⟨_, job⟩, start, rfl⟩ := Option.map_eq_some_iff.mp ran
    exact .started start
  | startClaimless =>
    obtain ⟨⟨_, job⟩, start, rfl⟩ := Option.map_eq_some_iff.mp ran
    exact .claimless start
  | terminalize jobId request =>
    simp only [Operation.run] at ran
    split at ran
    · rename_i observed
      obtain ⟨write, written⟩ := toOption_fst_eq_some ran
      exact .ended observed written
    · cases ran
  | terminalizeRunning jobId status error expectedAttempt =>
    obtain ⟨write, moved⟩ := toOption_fst_eq_some ran
    exact .disposed moved
  | retryGeneration generationId now =>
    obtain ⟨job, retried⟩ := toOption_fst_eq_some ran
    exact .retried retried
  | reconcileGeneration generationId now =>
    obtain ⟨job, reconciled⟩ := toOption_fst_eq_some ran
    exact .reconciled reconciled
  | advanceGenerations deviceId now =>
    obtain ⟨job, advanced⟩ := toOption_fst_eq_some ran
    exact .advanced advanced
  | strandRunningGenerations =>
    simp only [Operation.run] at ran
    obtain ⟨landed, stranded⟩ := toOption_fst_eq_some ran
    exact .stranded stranded
  | recoverGenerations now => exact .recovered (toOption_eq_some.mp ran)

theorem Operation.run_sound {operation : Operation} (valid : Orderly db)
    (ran : operation.run digestDocument db = some after) : Sound db after := by
  cases operation.ran ran with
  | created deviceId content =>
    refine ⟨valid.insertGeneration digestDocument deviceId content, ?_⟩
    exact fun row member _ => ⟨row, List.mem_append_left _ member, rfl, rfl⟩
  | joined => exact .refl valid
  | queued => exact .insertJob valid _ _ _ _ _
  | attached member unbound present queued device accepted =>
    exact .attach valid member unbound present queued device accepted
  | started start => exact .startHeadUnderClaim valid start
  | claimless start => exact .claimNextClaimlessJob valid start
  | ended observed written => exact .terminalize valid observed written
  | disposed moved => exact .terminalizeRunning valid moved
  | retried retried => exact .retryGeneration valid retried
  | reconciled reconciled => exact .reconcileGeneration valid reconciled
  | advanced advanced => exact .advanceGenerationsLocked valid advanced
  | stranded stranded => exact .strandRunningGenerations valid stranded
  | recovered recovered => exact .recoverGenerations valid recovered

theorem Orderly.reachable (reached : (orchestration digestDocument).Reachable db) : Orderly db :=
  reached.invariant (fun _ empty => .of_empty empty.1 empty.2) fun _ _ _ valid stepped => (Operation.run_sound valid stepped).orderly

/-- In every reachable store a running generation has only settled or abandoned predecessors, or
ones of its own job, and no later operation changes those. -/
theorem success_barrier {db : Database} (reached : (orchestration digestDocument).Reachable db) :
    (∀ generation ∈ db.generations, generation.status = .running →
      ∀ earlier ∈ db.generations, earlier.deviceId = generation.deviceId → earlier.seq < generation.seq →
        earlier.status = .settled ∨ earlier.status = .abandoned ∨
          ∃ jobId, earlier.jobId = some jobId ∧ generation.jobId = some jobId) ∧
    ∀ later, (orchestration digestDocument).Steps db later →
      ∀ generation ∈ db.generations, generation.status = .settled ∨ generation.status = .abandoned →
        (∃ row ∈ later.generations, row.id = generation.id) ∧ ∀ row ∈ later.generations, row.id = generation.id →
            row.status = generation.status := by
  have valid := Orderly.reachable reached
  constructor
  · intro generation member running earlier present device smaller
    rcases valid.barrier generation member running earlier present device smaller with
      crossable | shared
    · cases status : earlier.status with
      | settled => exact .inl rfl
      | abandoned => exact .inr (.inl rfl)
      | pending | running | failed | outcomeUnknown => rw [status] at crossable; cases crossable
    · obtain ⟨job, _, attached, _⟩ := valid.running_job member running
      exact .inr (.inr ⟨job.id, shared.trans attached, attached⟩)
  · intro later taken generation member final
    have orderly := Orderly.reachable (reached.steps taken)
    have kept : Kept db later := taken.related valid (fun _ _ _ before stepped => (Operation.run_sound before stepped).orderly)
        Kept.refl (fun _ _ _ => Kept.trans)
        fun _ _ _ before stepped => (Operation.run_sound before stepped).kept
    have crossable : generation.status.crossable = true := by
      rcases final with settled | abandoned
      · rw [settled]; rfl
      · rw [abandoned]; rfl
    obtain ⟨row, rowMember, sameId, sameStatus⟩ := kept generation member crossable
    refine ⟨⟨row, rowMember, sameId⟩, fun other inside same => ?_⟩
    rw [orderly.generation_unique other inside row rowMember (same.trans sameId.symm)]
    exact sameStatus

def coalescedPushes : List Operation :=
  let push (stream : Projection.ProjectionStream) : Operation :=
    .createGeneration 7 ⟨.networked, [], [], [], [(stream, 1)], none, none, none⟩
  [push .vlan, push .snmp, push .bfd, .admitCoalescibleJob 7 .apply none 0, .attachToJob 1 1,
    .attachToJob 2 1, .startHead 7 none]

theorem success_barrier_coalesced_pushes : ∃ db, (orchestration fun _ _ _ => "").trace coalescedPushes Database.empty = some db ∧
      db.generations.map (·.status) = [.running, .running, .pending] ∧
      ∀ generation ∈ db.generations, generation.status = .running →
        ∀ earlier ∈ db.generations, earlier.deviceId = generation.deviceId → earlier.seq < generation.seq →
          earlier.status = .settled ∨ earlier.status = .abandoned ∨
            ∃ jobId, earlier.jobId = some jobId ∧ generation.jobId = some jobId := by
  have executed : (orchestration fun _ _ _ => "").trace coalescedPushes Database.empty = some _ := rfl
  have starts : (orchestration fun _ _ _ => "").initial Database.empty := ⟨rfl, rfl⟩
  exact ⟨_, executed, rfl, (success_barrier (.trace (.initial starts) executed)).1⟩

end NsoAdapter.Core
