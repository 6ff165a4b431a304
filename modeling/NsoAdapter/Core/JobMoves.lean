import NsoAdapter.Core.Orchestration

/-! The job rows as a transaction moves them. A move inserts a queued job, or starts,
requeues or ends one; every operation on the chain is a sequence of such moves. -/

namespace NsoAdapter.Core
open Lib Store

/-- What a move makes of the one job it rewrites. `counter` is the settlement counter of
each device before and after. -/
inductive JobChange (before after : Nat → Nat) (job moved : Job) : Prop where
  | start (queued : job.status = .queued) (status : moved.status = .running)
      (attempt : moved.runAttempt = job.runAttempt + 1) (device : moved.deviceId = job.deviceId)
      (seq : moved.settleSeq = job.settleSeq) (counter : after = before)
  | requeue (running : job.status = .running) (status : moved.status = .queued)
      (attempt : moved.runAttempt = job.runAttempt) (device : moved.deviceId = job.deviceId)
      (seq : moved.settleSeq = job.settleSeq) (counter : after = before)
  | detached (live : job.status.live = true) (ended : moved.status.live = false)
      (attempt : moved.runAttempt = job.runAttempt) (device : moved.deviceId = none)
      (seq : moved.settleSeq = job.settleSeq) (counter : after = before)
  | land (deviceId : Nat) (live : job.status.live = true) (ended : moved.status.live = false)
      (attempt : moved.runAttempt = job.runAttempt) (device : moved.deviceId = some deviceId)
      (seq : moved.settleSeq = some (before deviceId + 1))
      (counter : after = Function.update before deviceId (before deviceId + 1))

inductive JobMove (before after : Database) : Prop where
  | same (jobs : after.jobs = before.jobs) (nextId : after.nextJobId = before.nextJobId)
      (counter : after.lastSettleSeq = before.lastSettleSeq)
  | insert (job : Job) (jobs : after.jobs = before.jobs ++ [job]) (id : job.id = before.nextJobId)
      (queued : job.status = .queued) (seq : job.settleSeq = none)
      (nextId : after.nextJobId = before.nextJobId + 1)
      (counter : after.lastSettleSeq = before.lastSettleSeq)
  | rewrite (job : Job) (update : Job → Job) (member : job ∈ before.jobs)
      (jobs : after.jobs = updateWhere (fun row => row.id == job.id) update before.jobs)
      (id : ∀ row, (update row).id = row.id) (nextId : after.nextJobId = before.nextJobId)
      (change : JobChange before.lastSettleSeq after.lastSettleSeq job (update job))

def JobMoves : Database → Database → Prop :=
  Relation.ReflTransGen JobMove

/-- Job identifiers are unique and below the sequence that gives the next one. -/
structure NumberedJobs (db : Database) : Prop where
  distinct : (db.jobs.map (·.id)).Nodup
  allocated : ∀ job ∈ db.jobs, job.id < db.nextJobId

namespace NumberedJobs

variable {db after : Database}

section

variable (numbered : NumberedJobs db)

include numbered

theorem eq_of_id {left right : Job} (first : left ∈ db.jobs) (second : right ∈ db.jobs) (same : left.id = right.id) : left = right :=
  List.inj_on_of_nodup_map numbered.distinct first second same

theorem updateWhere_ownership {job : Job} (member : job ∈ db.jobs) {expect : JobStatus} {runAttempt : Option Nat} (update : Job → Job)
    (owns : ownership job.id expect runAttempt job = true) :
    updateWhere (ownership job.id expect runAttempt) update db.jobs = updateWhere (fun row => row.id == job.id) update db.jobs := by
  refine List.map_congr_left fun row present => ?_
  by_cases named : row.id = job.id
  · obtain rfl := numbered.eq_of_id present member named
    rw [if_pos owns, if_pos (beq_self_eq_true _)]
  · rw [if_neg (by simp [ownership, named]), if_neg (by simpa using named)]

theorem mem_rewritten {job row : Job} (member : job ∈ db.jobs) {update : Job → Job}
    (present : row ∈ updateWhere (fun row => row.id == job.id) update db.jobs) :
    (row ∈ db.jobs ∧ row.id ≠ job.id) ∨ row = update job := by
  obtain ⟨old, listed, rfl⟩ := mem_updateWhere.mp present
  by_cases named : old.id = job.id
  · right
    rw [if_pos (by simpa using named), numbered.eq_of_id listed member named]
  · left
    rw [if_neg (by simpa using named)]
    exact ⟨listed, named⟩

theorem move (moved : JobMove db after) : NumberedJobs after := by
  cases moved with
  | same jobs nextId counter => exact ⟨jobs ▸ numbered.distinct, nextId ▸ jobs ▸ numbered.allocated⟩
  | insert job jobs id queued seq nextId counter =>
    constructor
    · rw [jobs, List.map_append, List.nodup_append]
      refine ⟨numbered.distinct, by simp, ?_⟩
      intro first listed second fresh same
      obtain ⟨row, present, rfl⟩ := List.mem_map.mp listed
      have older := numbered.allocated row present
      simp only [List.map_cons, List.map_nil, List.mem_singleton] at fresh
      omega
    · intro row present
      rw [jobs] at present
      rcases List.mem_append.mp present with old | new
      · have older := numbered.allocated row old
        omega
      · rw [List.mem_singleton.mp new]
        omega
  | rewrite job update member jobs id nextId change =>
    constructor
    · rw [jobs, map_updateWhere id]
      exact numbered.distinct
    · intro row present
      rw [jobs] at present
      rw [nextId]
      rcases numbered.mem_rewritten member present with ⟨old, _⟩ | rfl
      · exact numbered.allocated row old
      · rw [id]
        exact numbered.allocated job member

theorem moves (moved : JobMoves db after) : NumberedJobs after := by
  induction moved with
  | refl => exact numbered
  | tail _ last ih => exact ih.move last

end

end NumberedJobs

namespace JobMoves

variable {db middle after : Database}

theorem refl (db : Database) : JobMoves db db := Relation.ReflTransGen.refl

theorem trans (first : JobMoves db middle) (second : JobMoves middle after) : JobMoves db after := Relation.ReflTransGen.trans first second

theorem same (jobs : after.jobs = db.jobs) (nextId : after.nextJobId = db.nextJobId)
    (counter : after.lastSettleSeq = db.lastSettleSeq) : JobMoves db after :=
  .single (.same jobs nextId counter)

theorem insertJob (db : Database) (deviceId : Option Nat) (jobType : JobType) (coalescible : Bool)
    (context : Option JobContext) (now : Nat) :
    JobMoves db (insertJob db deviceId jobType coalescible context now).1 :=
  .single (.insert _ rfl rfl rfl rfl rfl rfl)

variable {now deviceId generationId : Nat} {job : Job} {outcome : GenerationStatus}
  {error : Option Json}

theorem createDedicatedCarrier {generation : DeploymentGeneration} (created : createDedicatedCarrier db generation now = .ok (after, job)) :
    JobMoves db after := by
  obtain ⟨jobType, context, _, rfl⟩ := createDedicatedCarrier_eq created
  exact (insertJob db _ _ _ _ _).trans (same rfl rfl rfl)

theorem onlyStreams (only : OnlyStreams db after) : JobMoves db after := by
  rw [only]
  exact same rfl rfl rfl

theorem terminalizeGenerations {generations : List DeploymentGeneration} {expected : Option (List GenerationStatus)} {landed : List Nat}
    (written : terminalizeGenerations db generations outcome error expected = .ok (after, landed)) : JobMoves db after := by
  obtain ⟨_, update, _, rfl, _⟩ := terminalizeGenerations_spec written
  exact same rfl rfl rfl

theorem advanceGenerationsLocked {job : Option Job} (advanced : advanceGenerationsLocked db deviceId now = .ok (after, job)) :
    JobMoves db after := by
  rcases advanceGenerationsLocked_cases advanced with
    rfl | ⟨head, start, fresh, _, _, created, ⟨_, rfl⟩ | ⟨_, _, _, rfl⟩⟩
  · exact refl _
  · exact createDedicatedCarrier created
  · refine trans ?_ (createDedicatedCarrier created)
    exact same rfl rfl rfl

theorem retryGeneration {digestDocument : DocumentDigest} {job : Option Job}
    (retried : retryGeneration digestDocument db generationId now = .ok (after, job)) :
    JobMoves db after := by
  rcases retryGeneration_claims retried with rfl | ⟨_, head, carried, fresh, _, _, created, rfl⟩
  · exact refl _
  · have made : JobMoves db carried := by
      refine trans ?_ (createDedicatedCarrier created)
      exact same rfl rfl rfl
    split
    · exact made.trans (same rfl rfl rfl)
    · exact made

theorem reconcileGeneration {job : Option Job} (reconciled : reconcileGeneration db generationId now = .ok (after, job)) :
    JobMoves db after := by
  rcases reconcileGeneration_cases reconciled with rfl | ⟨_, head, claimed, _, _, claim, advanced⟩
  · exact refl _
  · obtain ⟨landed, written⟩ := claimBlockedHead_terminal rfl claim
    have stamped := onlyStreams (onlyStreams_stampAbandoned claimed head)
    exact ((terminalizeGenerations written).trans stamped).trans (advanceGenerationsLocked advanced)

theorem recoverGenerations {now : Nat → Nat} (recovered : recoverGenerations db now = .ok after) : JobMoves db after := by
  unfold Core.recoverGenerations at recovered
  split at recovered
  · cases recovered
  rename_i stranded landed strands
  cases recovered
  refine List.foldlRecOn _ _ (terminalizeGenerations strands) ?_
  intro middle walked device _
  rcases advanceOrKeep_cases now middle device with same | ⟨job, advanced⟩
  · rw [same]
    exact walked
  · exact walked.trans (advanceGenerationsLocked advanced)

theorem settleJobGenerations {jobId : Nat} (settled : settleJobGenerations db jobId outcome error = .ok after) :
    after.jobs = db.jobs ∧ after.nextJobId = db.nextJobId ∧ after.lastSettleSeq = db.lastSettleSeq := by
  rcases settleJobGenerations_cases settled with ⟨_, rfl⟩ | ⟨middle, landed, written, stamped⟩
  · exact ⟨rfl, rfl, rfl⟩
  · obtain ⟨_, update, _, rfl, _⟩ := terminalizeGenerations_spec written
    rw [stamped]
    exact ⟨rfl, rfl, rfl⟩

theorem startJob (member : job ∈ db.jobs) (queued : job.status = .queued) : JobMoves db (startJob db job.id) :=
  .single (.rewrite job _ member rfl (fun _ => rfl) rfl (.start queued rfl rfl rfl rfl rfl))

theorem startHeadUnderClaim {expectedJobId : Option Nat} (started : startHeadUnderClaim db deviceId expectedJobId = some (after, job)) :
    JobMoves db after ∧ job ∈ db.jobs ∧ job.status = .queued ∧ job.deviceId = some deviceId ∧
      after.jobs = (Core.startJob db job.id).jobs := by
  unfold Core.startHeadUnderClaim at started
  split at started
  · cases started
  rename_i found head
  cases started
  have listed := List.mem_of_find?_eq_some head
  simp only [queuedCandidates, mem_orderBy, List.mem_filter, Bool.and_eq_true, beq_iff_eq]
    at listed
  refine ⟨?_, listed.1, listed.2.1.2, listed.2.1.1, rfl⟩
  refine (same rfl rfl rfl : JobMoves db (markJobGenerationsRunning db job.id)).trans ?_
  exact startJob listed.1 listed.2.1.2

theorem claimNextClaimlessJob (started : claimNextClaimlessJob db = some (after, job)) : JobMoves db after := by
  unfold Core.claimNextClaimlessJob at started
  split at started
  · cases started
  rename_i head
  cases started
  have listed := mem_of_head?_orderBy head
  simp only [List.mem_filter, Bool.and_eq_true, beq_iff_eq] at listed
  exact startJob listed.1 listed.2.2

theorem requeueRunning (numbered : NumberedJobs db) (jobId : Nat) (error : Option Json) (expectedAttempt : Option Nat) :
    JobMoves db (requeueRunning db jobId error expectedAttempt).1 := by
  unfold Core.requeueRunning
  split
  · rename_i owned
    obtain ⟨job, member, owns⟩ := List.any_eq_true.mp owned
    have parts := owns
    simp only [ownership, Bool.and_eq_true, beq_iff_eq] at parts
    obtain rfl := parts.1.1
    exact .single (.rewrite job _ member (numbered.updateWhere_ownership member _ owns)
      (fun _ => rfl) rfl (.requeue parts.1.2 rfl rfl rfl rfl rfl))
  · exact refl _

end JobMoves

def landedRow (request : TerminalRequest) (settleSeq : Option Nat) (job : Job) : Job :=
  { job with
    status := request.status
    result := request.result.orElse fun _ => job.result
    error := request.error.orElse fun _ => job.error
    deviceId := request.setDeviceId.getD job.deviceId
    settleSeq := settleSeq.orElse fun _ => job.settleSeq }

theorem JobMoves.terminalize {db after : Database} (numbered : NumberedJobs db) {jobId : Nat}
    {request : TerminalRequest} {write : Option TerminalWrite}
    (observed : request.expect.live = true)
    (written : terminalize db jobId request = .ok (after, write)) : JobMoves db after := by
  obtain ⟨ended, ⟨_, rfl, _⟩ | ⟨owned, member, owns, settled, settles, landed⟩⟩ := terminalize_cases written
  · exact .refl _
  have parts := owns
  simp only [ownership, Bool.and_eq_true, beq_iff_eq] at parts
  obtain rfl := parts.1.1
  have live : owned.status.live = true := by
    rw [parts.1.2]
    exact observed
  obtain ⟨jobs, nextId, counter⟩ := JobMoves.settleJobGenerations settles
  have cas : (casTerminalStatus db owned.id request).jobs = updateWhere (fun row => row.id == owned.id) (landedRow request none) db.jobs :=
    numbered.updateWhere_ownership member _ owns
  rcases landed with ⟨detached, rfl, _⟩ | ⟨deviceId, bound, rfl, _⟩
  · refine .single (.rewrite owned (landedRow request none) member (jobs.trans cas) (fun _ => rfl) nextId ?_)
    exact .detached live ended rfl detached rfl counter
  · have seq : settled.lastSettleSeq = db.lastSettleSeq := counter
    refine .single (.rewrite owned (landedRow request (some (db.lastSettleSeq deviceId + 1))) member ?_ (fun _ => rfl) nextId ?_)
    · unfold allocateSettleSeq updateJobs
      rw [jobs, cas, seq]
      refine (updateWhere_updateWhere fun row named => ?_).trans rfl
      exact named
    · refine .land deviceId live ended rfl bound rfl ?_
      unfold allocateSettleSeq updateJobs
      rw [seq]

theorem JobMoves.terminalizeRunning {db after : Database} (numbered : NumberedJobs db) {jobId : Nat}
    {status : JobStatus} {error : Option Json} {expectedAttempt : Option Nat}
    {written : Option JobStatus}
    (moved : terminalizeRunning db jobId status error expectedAttempt = .ok (after, written)) :
    JobMoves db after := by
  rcases terminalizeRunning_cases moved with ⟨request, write, ended, running, _⟩ | rfl
  · exact .terminalize numbered (by rw [running]; rfl) ended
  · exact .requeueRunning numbered jobId error expectedAttempt

theorem Operation.run_jobMoves {digestDocument : DocumentDigest} {operation : Operation} {db after : Database} (numbered : NumberedJobs db)
    (ran : operation.run digestDocument db = some after) : JobMoves db after := by
  cases operation.ran ran with
  | created => exact .same rfl rfl rfl
  | joined => exact .refl _
  | queued => exact .insertJob db _ _ _ _ _
  | attached _ _ _ _ _ accepted =>
    rcases attachToJob_cases accepted with ⟨_, rfl⟩ | ⟨_, rfl, _⟩
    · exact .refl _
    · exact .same rfl rfl rfl
  | started start => exact (JobMoves.startHeadUnderClaim start).1
  | claimless start => exact .claimNextClaimlessJob start
  | ended observed written => exact .terminalize numbered observed written
  | disposed moved => exact .terminalizeRunning numbered moved
  | retried retried => exact .retryGeneration retried
  | reconciled reconciled => exact .reconcileGeneration reconciled
  | advanced advanced => exact .advanceGenerationsLocked advanced
  | stranded stranded => exact .terminalizeGenerations stranded
  | recovered recovered => exact .recoverGenerations recovered

end NsoAdapter.Core
