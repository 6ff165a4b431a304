import NsoAdapter.Core.ChainLaws
import NsoAdapter.Core.Custody

/-! Every operation on the chain is a sequence of moves. -/

namespace NsoAdapter.Core
open Lib Store Projection

def Operation.kinds : Operation → List MoveKind
  | .terminalize .. | .terminalizeRunning .. => [.rewrite, .settle]
  | .reconcileGeneration .. => [.abandon, .job, .bind]
  | _ => [.rewrite, .job, .bind]

variable {db after : Database} {generation : DeploymentGeneration} {now jobId : Nat}

theorem Rewrites.of_jobs {move : Job → Job} (inPlace : JobInPlace move)
    (jobs : after.jobs = db.jobs.map move) (generations : after.generations = db.generations)
    (streams : after.streams = db.streams)
    (nextIds : after.nextJobId = db.nextJobId ∧ after.nextGenerationId = db.nextGenerationId) :
    Rewrites db after :=
  ⟨⟨move, inPlace, jobs⟩, ⟨_, .refl, by rw [generations, List.map_id'], fun row _ => .refl row.status⟩, streams, nextIds.1, nextIds.2⟩

theorem Rewrites.updateGenerations {selected : DeploymentGeneration → Bool}
    {update : DeploymentGeneration → DeploymentGeneration} (inPlace : InPlace update)
    (sides : ∀ row, selected row = true → SameSide row.status (update row).status) :
    Rewrites db (updateGenerations db selected update) := by
  refine ⟨⟨_, .refl, (List.map_id' _).symm⟩, ⟨_, inPlace.where selected, rfl, ?_⟩, rfl, rfl, rfl⟩
  intro row _
  split
  · rename_i chosen
    exact sides row chosen
  · exact .refl row.status

variable {chain : DeploymentChain}

theorem carrierType_writes (generation : DeploymentGeneration) : carrierType generation = .apply ∨ carrierType generation = .removal := by
  unfold carrierType
  split
  · exact .inr rfl
  · exact .inl rfl

variable {job : Job} {jobType : JobType} {deviceId generationId : Nat}
  {digestDocument : DocumentDigest} {error : Option Json}

theorem createDedicatedCarrier_type (created : createDedicatedCarrier db generation now = .ok (after, job)) :
    job.jobType = carrierType generation := by
  unfold createDedicatedCarrier at created
  dsimp only at created
  split at created
  · cases created
  rename_i inserted fresh made
  have type : fresh.jobType = carrierType generation := by
    unfold carrierType
    split at made
    · rename_i held
      have shape : fresh = _ := congrArg Prod.snd (createDedicatedJob_eq made)
      rw [held, shape]
      rfl
    · cases made
    · rename_i context mode
      have shape : fresh = _ := congrArg Prod.snd (createDedicatedJob_eq made)
      rw [context, mode, shape]
      rfl
  split at created
  · cases created
  · cases created
    exact type
  · cases created

theorem Fits.fresh (valid : Identified chain.db) (deviceId : Option Nat) (coalescible : Bool)
    (context : Option JobContext) (now : Nat) (type : jobType = carrierType generation) :
    Fits (insertJob chain.db deviceId jobType coalescible context now).1
      (insertJob chain.db deviceId jobType coalescible context now).2 generation :=
  ⟨type, .inl fun _ member => valid.not_bound_fresh member⟩

theorem Moves.carry (valid : Identified chain.db) (member : generation ∈ chain.db.generations)
    (deviceId : Option Nat) {coalescible : Bool} (context : Option JobContext) (now : Nat)
    (type : jobType = carrierType generation) (dedicated : jobType = .removal → coalescible = false) :
    Moves [.job, .bind] chain { chain with
      db := bindToJob (insertJob chain.db deviceId jobType coalescible context now).1 generation.id
        (insertJob chain.db deviceId jobType coalescible context now).2.id } := by
  refine (single (.job chain deviceId context now dedicated) (by simp)).trans ?_
  refine single (.bind member ?_ (.fresh valid deviceId coalescible context now type)) (by simp)
  exact List.mem_append_right _ (List.mem_singleton_self _)

theorem Moves.createDedicatedCarrier (valid : Identified chain.db) (member : generation ∈ chain.db.generations)
    (created : createDedicatedCarrier chain.db generation now = .ok (after, job)) :
    Moves [.job, .bind] chain { chain with db := after } := by
  have type := createDedicatedCarrier_type created
  obtain ⟨jobType, context, rfl, rfl⟩ := createDedicatedCarrier_eq created
  exact carry valid member _ context now type fun _ => rfl

theorem Moves.advanceGenerationsLocked (valid : Orderly chain.db) (lawful : Lawful chain) {job : Option Job}
    (advanced : advanceGenerationsLocked chain.db deviceId now = .ok (after, job)) :
    Moves [.job, .bind] chain { chain with db := after } := by
  rcases valid.advance_cases advanced with rfl | ⟨head, fresh, member, _, _, created⟩
  · exact refl chain
  · exact createDedicatedCarrier lawful.identified member created

theorem Moves.retryGeneration (lawful : Lawful chain) {job : Option Job}
    (retried : retryGeneration digestDocument chain.db generationId now = .ok (after, job)) :
    Moves [.rewrite, .job, .bind] chain { chain with db := after } := by
  rcases retryGeneration_claims retried with
    rfl | ⟨_, head, carried, fresh, _, required, created, rfl⟩
  · exact refl chain
  obtain ⟨member, _, blocked⟩ := requireBlockedHead_spec required
  let claimed := updateGenerations chain.db (fun row => row.id == head.id && row.status.blocked) fun row => { row with status := .pending }
  -- The claimed head is pending on its ended job until it is bound to the new one.
  have claims : Move .rewrite chain { chain with db := claimed } := by
    refine .rewrite (.updateGenerations (by constructor <;> exact fun _ => rfl) ?_)
    intro row chosen
    rw [Bool.and_eq_true] at chosen
    exact .of_open (GenerationStatus.blocked_not_crossable chosen.2).1 rfl
  have located : { head with status := .pending } ∈ claimed.generations := by
    refine mem_updateWhere.mpr ⟨head, member, ?_⟩
    rw [blocked, beq_self_eq_true]
    rfl
  have carries := createDedicatedCarrier (claims.lawful lawful).identified located created
  have walked : Moves [.rewrite, .job, .bind] chain { chain with db := carried } := (single claims (by simp)).trans (carries.mono (by simp))
  split
  · refine walked.trans (single (.rewrite ?_) (by simp))
    exact .of_jobs .refl (List.map_id' _).symm rfl rfl ⟨rfl, rfl⟩
  · exact walked

theorem Moves.startHeadUnderClaim {expectedJobId : Option Nat}
    (started : startHeadUnderClaim chain.db deviceId expectedJobId = some (after, job)) :
    Moves [.rewrite] chain { chain with db := after } := by
  unfold Core.startHeadUnderClaim at started
  split at started
  · cases started
  cases started
  have marks : Rewrites chain.db (markJobGenerationsRunning chain.db job.id) := by
    refine .updateGenerations (by constructor <;> exact fun _ => rfl) fun row chosen => ?_
    rw [Bool.and_eq_true, beq_iff_eq, beq_iff_eq] at chosen
    rw [chosen.2]
    exact .of_open rfl rfl
  refine (single (.rewrite marks) (by simp)).trans (single (.rewrite ?_) (by simp))
  have starts : JobInPlace fun job : Job =>
      { job with status := .running, runAttempt := job.runAttempt + 1 } :=
    ⟨fun _ => rfl, fun _ => rfl, fun _ => rfl⟩
  exact .of_jobs (starts.where _) rfl rfl rfl ⟨rfl, rfl⟩

theorem Moves.settleJobGenerations {outcome : GenerationStatus}
    (opened : ∀ row ∈ chain.db.generations, row.jobId = some jobId → row.status.crossable = false)
    (kept : outcome = .abandoned → ∀ row ∈ chain.db.generations, row.jobId ≠ some jobId)
    (settles : settleJobGenerations chain.db jobId outcome error = .ok after) :
    Moves [.rewrite, .settle] chain { chain with db := after } := by
  by_cases settled : outcome = .settled
  · rw [settled] at settles
    exact single (.settle settles) (by simp)
  · rcases settleJobGenerations_cases settles with ⟨_, rfl⟩ | ⟨middle, landed, written, stamped⟩
    · exact refl chain
    obtain ⟨terminal, update, inPlace, rfl, wrote⟩ := terminalizeGenerations_spec written
    refine single (.rewrite ⟨⟨_, .refl, stamped.jobs.trans (List.map_id' _).symm⟩,
      ⟨update, inPlace, stamped.generations, ?_⟩, settleJobGenerations_streams settled settles,
      stamped.nextIds.1, stamped.nextIds.2⟩) (by simp)
    intro row member
    rcases wrote row with ⟨status, carried⟩ | ⟨unchanged, _⟩
    · have held := terminalizes_carried carried
      rw [status]
      refine .of_open (opened row member held) ?_
      cases outcome with
      | settled => exact absurd rfl settled
      | abandoned => exact absurd held (kept rfl row member)
      | failed | outcomeUnknown => rfl
      | pending | running => cases terminal
    · rw [unchanged]
      exact .refl row.status

theorem Moves.terminalize (valid : Orderly chain.db) {request : TerminalRequest}
    {write : Option TerminalWrite} (observed : request.expect.live = true)
    (kept : request.outcome = .abandoned → ∀ row ∈ chain.db.generations, row.jobId ≠ some jobId)
    (written : terminalize chain.db jobId request = .ok (after, write)) :
    Moves [.rewrite, .settle] chain { chain with db := after } := by
  obtain ⟨_, ⟨_, rfl, _⟩ | ⟨owned, present, owns, settled, settles, landed⟩⟩ := terminalize_cases written
  · exact refl chain
  simp only [ownership, Bool.and_eq_true, beq_iff_eq] at owns
  -- A live job carries pending or running generations.
  have opened : ∀ row ∈ chain.db.generations, row.jobId = some jobId → row.status.crossable = false := by
    intro row member held
    have agreed := (valid.carrier_status member present (owns.1.1.symm ▸ held)).status
    rw [← owns.1.2] at observed
    cases status : owned.status with
    | queued | running => rw [status] at agreed; rw [agreed]; rfl
    | succeeded | failed => rw [status] at observed; cases observed
  have casts : Move .rewrite chain { chain with db := casTerminalStatus chain.db jobId request } := by
    have move : JobInPlace fun job : Job =>
        { job with
          status := request.status
          result := request.result.orElse fun _ => job.result
          error := request.error.orElse fun _ => job.error
          deviceId := request.setDeviceId.getD job.deviceId } :=
      ⟨fun _ => rfl, fun _ => rfl, fun _ => rfl⟩
    exact .rewrite (.of_jobs (move.where _) rfl rfl rfl ⟨rfl, rfl⟩)
  let cast : DeploymentChain := { chain with db := casTerminalStatus chain.db jobId request }
  have ends : Moves [.rewrite, .settle] cast { chain with db := settled } := settleJobGenerations opened kept settles
  have walked := (single casts (by simp)).trans ends
  rcases landed with ⟨_, rfl, _⟩ | ⟨deviceId, _, rfl, _⟩
  · exact walked
  · have stamp : JobInPlace fun job : Job =>
        { job with settleSeq := some (settled.lastSettleSeq deviceId + 1) } :=
      ⟨fun _ => rfl, fun _ => rfl, fun _ => rfl⟩
    exact walked.trans (single (.rewrite (.of_jobs (stamp.where _) rfl rfl rfl ⟨rfl, rfl⟩)) (by simp))

theorem Carriers.superseded (valid : Orderly db) (carriers : Carriers db) {successor : Job}
    (covered : supersedingJob db jobId = some successor)
    (disposed : ∀ job, db.job? jobId = some job → dispositionFor job.jobType = .queued) :
    ∀ row ∈ db.generations, row.jobId ≠ some jobId := by
  intro row member held
  unfold supersedingJob at covered
  split at covered
  · cases covered
  rename_i job found
  have present := List.mem_of_find?_eq_some found
  have same := List.find?_some found
  simp only [Bool.and_eq_true, beq_iff_eq] at same
  rw [← same.1] at held disposed
  have type := carriers.jobType row member job present held
  have requeued := disposed job (valid.job?_eq present)
  split at covered
  · cases covered
  split at covered
  · cases covered
  rename_i notRemoval
  rcases carrierType_writes row with apply | removal
  · rw [type, apply] at requeued
    cases requeued
  · exact notRemoval (type.trans removal)

theorem Moves.requeueRunning (jobId : Nat) (error : Option Json) (expectedAttempt : Option Nat) : Moves [.rewrite] chain
      { chain with db := (requeueRunning chain.db jobId error expectedAttempt).1 } := by
  unfold Core.requeueRunning
  split
  · have requeues : JobInPlace fun job : Job =>
        { job with status := .queued, error := error.orElse fun _ => job.error } :=
      ⟨fun _ => rfl, fun _ => rfl, fun _ => rfl⟩
    have returns : ∀ db, Rewrites db (requeueJobGenerations db jobId) := by
      refine fun db => .updateGenerations (by constructor <;> exact fun _ => rfl) fun row chosen => ?_
      rw [Bool.and_eq_true, beq_iff_eq, beq_iff_eq] at chosen
      rw [chosen.2]
      exact .of_open rfl rfl
    let queued := updateJobs chain.db (ownership jobId .running expectedAttempt) fun job =>
      { job with status := .queued, error := error.orElse fun _ => job.error }
    have moved : Move .rewrite chain { chain with db := queued } := .rewrite (.of_jobs (requeues.where _) rfl rfl rfl ⟨rfl, rfl⟩)
    have returned : Move .rewrite { chain with db := queued }
        { chain with db := requeueJobGenerations queued jobId } := .rewrite (returns queued)
    exact (single moved (by simp)).trans (single returned (by simp))
  · exact refl chain

theorem Moves.terminalizeRunning (valid : Orderly chain.db) (lawful : Lawful chain)
    {status : JobStatus} {expectedAttempt : Option Nat} {written : Option JobStatus}
    (disposed : status ≠ .failed → ∀ job, chain.db.job? jobId = some job → dispositionFor job.jobType = status)
    (moved : terminalizeRunning chain.db jobId status error expectedAttempt = .ok (after, written)) :
    Moves [.rewrite, .settle] chain { chain with db := after } := by
  rcases terminalizeRunning_cases moved with ⟨request, write, ended, running, abandons⟩ | rfl
  · refine terminalize valid (by rw [running]; rfl) (fun abandoned => ?_) ended
    obtain ⟨rfl, successor, covered⟩ := abandons abandoned
    exact lawful.carriers.superseded valid covered (disposed nofun)
  · exact (requeueRunning jobId error expectedAttempt).mono (by simp)

theorem Moves.reconcileGeneration (valid : Orderly chain.db) (lawful : Lawful chain) {job : Option Job}
    (reconciled : reconcileGeneration chain.db generationId now = .ok (after, job)) :
    Moves [.abandon, .job, .bind] chain { chain with db := after } := by
  rcases reconcileGeneration_cases reconciled with
    rfl | ⟨_, head, claimed, _, required, claim, advanced⟩
  · exact refl chain
  obtain ⟨member, _, blocked⟩ := requireBlockedHead_spec required
  have abandons : Move .abandon chain { chain with db := stampAbandoned claimed head } := .abandon member blocked claim
  have sound := (Sound.abandon valid member blocked claim).of_onlyStreams (onlyStreams_stampAbandoned claimed head)
  have advances : Moves [.job, .bind] { chain with db := stampAbandoned claimed head } { chain with db := after } :=
    advanceGenerationsLocked sound.orderly (abandons.lawful lawful) advanced
  exact (single abandons (by simp)).trans (advances.mono (by simp))

theorem Moves.recoverGenerations (valid : Orderly chain.db) (lawful : Lawful chain)
    {now : Nat → Nat} (recovered : recoverGenerations chain.db now = .ok after) :
    Moves [.job, .bind] chain { chain with db := after } := by
  -- Nothing is stranded in an orderly store, so recovery only advances its devices.
  unfold Core.recoverGenerations Core.strandRunningGenerations at recovered
  rw [valid.strandedGenerations_eq] at recovered
  cases recovered
  refine (List.foldlRecOn (motive := fun db => Orderly db ∧ Lawful { chain with db } ∧
    Moves [.job, .bind] chain { chain with db }) _ _ ⟨valid, lawful, refl chain⟩ ?_).2.2
  rintro db ⟨orderly, stands, walked⟩ device _
  have step : Moves [.job, .bind] { chain with db } { chain with db := advanceOrKeep now db device } := by
    rcases advanceOrKeep_cases now db device with same | ⟨job, advanced⟩
    · rw [same]
      exact refl _
    · exact advanceGenerationsLocked orderly stands advanced
  exact ⟨(Sound.advanceOrKeep orderly now device).orderly, step.lawful stands, walked.trans step⟩

theorem Operation.run_moves {operation : Operation} (valid : Orderly chain.db)
    (lawful : Lawful chain) (called : operation.called chain.db = true)
    (ran : operation.run digestDocument chain.db = some after) :
    Moves operation.kinds chain { chain with db := after } := by
  cases operation.ran ran with
  | created | attached => cases called
  | joined => exact .refl chain
  | queued queues deviceId context now dedicated =>
    refine .single (.job chain deviceId context now dedicated) ?_
    cases operation <;> simp_all [Operation.queues, kinds]
  | started start => exact (Moves.startHeadUnderClaim start).mono (by simp [kinds])
  | claimless start =>
    unfold claimNextClaimlessJob at start
    split at start
    · cases start
    cases start
    have starts : JobInPlace fun job : Job =>
        { job with status := .running, runAttempt := job.runAttempt + 1 } :=
      ⟨fun _ => rfl, fun _ => rfl, fun _ => rfl⟩
    exact .single (.rewrite (.of_jobs (starts.where _) rfl rfl rfl ⟨rfl, rfl⟩)) (by simp [kinds])
  | @ended jobId request after write observed written =>
    refine .terminalize valid observed (fun abandoned => ?_) written
    simp only [Operation.called, Bool.and_eq_true, bne_iff_ne] at called
    unfold TerminalRequest.outcome at abandoned
    cases given : request.generationOutcome with
    | none =>
      rw [given] at abandoned
      split at abandoned <;> cases abandoned
    | some outcome =>
      rw [given] at abandoned called
      exact absurd (congrArg some abandoned) called.1
  | disposed moved =>
    refine .terminalizeRunning valid lawful (fun unfailed job found => ?_) moved
    simpa [Operation.called, unfailed, found] using called
  | retried retried => exact .retryGeneration lawful retried
  | reconciled reconciled => exact .reconcileGeneration valid lawful reconciled
  | advanced advanced =>
    exact (Moves.advanceGenerationsLocked valid lawful advanced).mono (by simp [kinds])
  | stranded stranded =>
    unfold Core.strandRunningGenerations at stranded
    rw [valid.strandedGenerations_eq] at stranded
    cases stranded
    exact .refl chain
  | recovered recovered =>
    exact (Moves.recoverGenerations valid lawful recovered).mono (by simp [kinds])

end NsoAdapter.Core
