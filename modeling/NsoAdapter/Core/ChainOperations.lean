import NsoAdapter.Core.SuccessBarrier

/-! Each operation on the chain keeps the invariant and every settled or
abandoned generation. -/

namespace NsoAdapter.Core
open Lib Store

variable {before after db : Database} {status : GenerationStatus} {job : Job} {now : Nat}

variable {middle : Database} {update : DeploymentGeneration → DeploymentGeneration}
  {generationId jobId : Nat} {request : TerminalRequest}

theorem Sound.of_same (sound : Sound before middle) (jobs : after.jobs = middle.jobs)
    (generations : after.generations = middle.generations) (seqs : after.lastSeq = middle.lastSeq)
    (jobIds : after.nextJobId = middle.nextJobId)
    (generationIds : after.nextGenerationId = middle.nextGenerationId) : Sound before after :=
  ⟨sound.orderly.of_same jobs generations seqs jobIds generationIds, sound.kept.trans (.of_generations_eq generations)⟩

theorem Sound.of_onlyStreams (sound : Sound before middle) (stamped : OnlyStreams middle after) : Sound before after := by
  refine sound.of_same ?_ ?_ ?_ ?_ ?_ <;> rw [stamped]

theorem Sound.insertJob (valid : Orderly db) (deviceId : Option Nat) (jobType : JobType)
    (coalescible : Bool) (context : Option JobContext) (now : Nat) :
    Sound db (insertJob db deviceId jobType coalescible context now).1 :=
  ⟨valid.insertJob deviceId jobType coalescible context now, .of_generations_eq rfl⟩

theorem Kept.of_map (generations : after.generations = before.generations.map update) (sameId : ∀ row, (update row).id = row.id)
    (crossable : ∀ row ∈ before.generations, row.status.crossable = true →
      (update row).status = row.status) : Kept before after := by
  intro row member final
  refine ⟨update row, ?_, sameId row, crossable row member final⟩
  rw [generations]
  exact List.mem_map_of_mem member

theorem GenerationStatus.blocked_not_crossable (blocked : status.blocked = true) : status.crossable = false ∧ status ≠ .running := by
  cases status <;> simp_all [GenerationStatus.blocked, GenerationStatus.crossable]

theorem Sound.rebind (update : DeploymentGeneration → DeploymentGeneration) (target : DeploymentGeneration) (valid : Orderly db)
    (shape : after = { db with generations := db.generations.map update })
    (others : ∀ row, row.id ≠ target.id → update row = row)
    (sameId : ∀ row, (update row).id = row.id)
    (sameDevice : ∀ row, (update row).deviceId = row.deviceId)
    (sameSeq : ∀ row, (update row).seq = row.seq) (attached : (update target).jobId = some job.id)
    (pending : (update target).status = .pending) (member : target ∈ db.generations)
    (present : job ∈ db.jobs) (queued : job.status = .queued)
    (device : job.deviceId = some target.deviceId) (idle : target.status ≠ .running)
    (uncrossable : target.status.crossable = false)
    (free : ∀ carrier ∈ db.jobs, target.jobId = some carrier.id → carrier.status.live = false)
    (adjacent : Adjacent db job target) : Sound db after := by
  have distinct : ∀ row ∈ db.generations, row ≠ target → row.id ≠ target.id := by
    intro row inside different sameRow
    exact different (valid.generation_unique row inside target member sameRow)
  subst shape
  constructor
  · exact valid.bound rfl rfl rfl rfl rfl sameId sameDevice sameSeq (fun row inside different => others row (distinct row inside different))
      member present queued device attached pending idle uncrossable free adjacent
  · refine Kept.of_map rfl sameId ?_
    intro row inside final
    have different : row ≠ target := by
      rintro rfl
      rw [uncrossable] at final
      cases final
    rw [others row (distinct row inside different)]

variable {generation : DeploymentGeneration} {deviceId : Nat}

theorem Sound.attach {attached : Bool} (valid : Orderly db) (member : generation ∈ db.generations)
    (unbound : generation.jobId = none) (present : job ∈ db.jobs) (queued : job.status = .queued)
    (device : job.deviceId = some generation.deviceId)
    (accepted : attachToJob db generation job = .ok (after, attached)) : Sound db after := by
  have pending := valid.unattached generation member unbound
  rcases attachToJob_cases accepted with ⟨_, rfl⟩ | ⟨_, rfl, adjacent⟩
  · exact .refl valid
  refine Sound.rebind _ generation valid rfl ?_ ?_ ?_ ?_ ?_ ?_ member present queued device ?_ ?_ ?_ adjacent
  · intro row different
    simp [different]
  · intro row
    split <;> rfl
  · intro row
    split <;> rfl
  · intro row
    split <;> rfl
  · simp
  · simp [pending]
  · rw [pending]
    exact nofun
  · rw [pending]
    rfl
  · intro carrier _ held
    rw [unbound] at held
    cases held

theorem Sound.dedicatedCarrier {prepared : Database} (prepare : DeploymentGeneration → DeploymentGeneration) (target : DeploymentGeneration)
    (valid : Orderly db) (shape : prepared = { db with generations := db.generations.map prepare })
    (others : ∀ row, row.id ≠ target.id → prepare row = row)
    (sameId : ∀ row, (prepare row).id = row.id)
    (sameDevice : ∀ row, (prepare row).deviceId = row.deviceId)
    (sameSeq : ∀ row, (prepare row).seq = row.seq) (pending : (prepare target).status = .pending)
    (member : target ∈ db.generations) (sameTarget : generation.id = target.id)
    (sameOwner : generation.deviceId = target.deviceId) (idle : target.status ≠ .running)
    (uncrossable : target.status.crossable = false)
    (free : ∀ carrier ∈ db.jobs, target.jobId = some carrier.id → carrier.status.live = false)
    (created : createDedicatedCarrier prepared generation now = .ok (after, job)) :
    Sound db after := by
  obtain ⟨jobType, context, rfl, rfl⟩ := createDedicatedCarrier_eq created
  subst shape
  have inserted := Sound.insertJob valid (some generation.deviceId) jobType false context now
  let job := (Core.insertJob db (some generation.deviceId) jobType false context now).2
  let update := fun row : DeploymentGeneration =>
    if (prepare row).id == generation.id then { prepare row with jobId := some job.id }
    else prepare row
  have updated : ∀ row, row.id = target.id → update row = { prepare row with jobId := some job.id } := by
    intro row same
    simp [update, sameId, same, sameTarget]
  have skipped : ∀ row, row.id ≠ target.id → update row = prepare row := by
    intro row different
    simp [update, sameId, different, sameTarget]
  refine inserted.trans (Sound.rebind update target inserted.orderly ?_ ?_ ?_ ?_ ?_ ?_ ?_
    member (List.mem_append_right _ (List.mem_singleton_self job)) rfl ?_ idle uncrossable ?_ ?_)
  · simp [bindToJob, updateGenerations, updateWhere, Core.insertJob, update, job, Function.comp_def]
  · intro row different
    rw [skipped row different, others row different]
  · intro row
    by_cases same : row.id = target.id
    · rw [updated row same]
      exact sameId row
    · rw [skipped row same, sameId]
  · intro row
    by_cases same : row.id = target.id
    · rw [updated row same]
      exact sameDevice row
    · rw [skipped row same, sameDevice]
  · intro row
    by_cases same : row.id = target.id
    · rw [updated row same]
      exact sameSeq row
    · rw [skipped row same, sameSeq]
  · rw [updated target rfl]
  · rw [updated target rfl]
    exact pending
  · exact congrArg some sameOwner
  · intro carrier inside held
    rcases List.mem_append.mp inside with old | new
    · exact free carrier old held
    · rw [List.mem_singleton.mp new] at held
      exact absurd held (valid.not_bound_fresh member)
  · exact .inl fun row inside => valid.not_bound_fresh inside

theorem Orderly.terminal_job (valid : Orderly db) (member : generation ∈ db.generations)
    (terminal : generation.status.terminal = true) (present : job ∈ db.jobs)
    (attached : generation.jobId = some job.id) :
    job.status.live = false := by
  have agreed := (valid.carrier_status member present attached).status
  cases status : job.status with
  | queued | running =>
    rw [status] at agreed
    rw [agreed] at terminal
    cases terminal
  | succeeded | failed => rfl

theorem GenerationStatus.terminal_of_blocked (blocked : status.blocked = true) : status.terminal = true := by
  cases status <;> first | rfl | cases blocked

theorem GenerationStatus.terminal_of_crossable (crossable : status.crossable = true) : status.terminal = true := by
  cases status <;> first | rfl | cases crossable

section

variable (valid : Orderly db)

include valid

theorem Sound.retryGeneration {digestDocument : DocumentDigest} {job : Option Job}
    (retried : retryGeneration digestDocument db generationId now = .ok (after, job)) :
    Sound db after := by
  rcases retryGeneration_claims retried with
    rfl | ⟨_, head, carried, fresh, _, required, created, rfl⟩
  · exact .refl valid
  obtain ⟨member, _, blocked⟩ := requireBlockedHead_spec required
  obtain ⟨uncrossable, idle⟩ := GenerationStatus.blocked_not_crossable blocked
  have bound : Sound db carried := by
    refine Sound.dedicatedCarrier _ head valid rfl ?_ ?_ ?_ ?_ ?_ member rfl rfl idle uncrossable ?_ created
    · intro row different
      simp [different]
    · intro row
      split <;> rfl
    · intro row
      split <;> rfl
    · intro row
      split <;> rfl
    · simp [blocked]
    · intro carrier present held
      exact valid.terminal_job member (GenerationStatus.terminal_of_blocked blocked) present held
  split
  · exact bound.of_same rfl rfl rfl rfl rfl
  · exact bound

theorem Orderly.advance_cases {job : Option Job} (advanced : advanceGenerationsLocked db deviceId now = .ok (after, job)) :
    after = db ∨ ∃ head fresh, head ∈ db.generations ∧ head.status = .pending ∧
      head.jobId = none ∧ createDedicatedCarrier db head now = .ok (after, fresh) := by
  rcases advanceGenerationsLocked_cases advanced with
    same | ⟨head, start, fresh, found, pending, created, carrier⟩
  · exact .inl same
  obtain ⟨member, _, _⟩ := executableHead_spec found
  rcases carrier with ⟨unbound, rfl⟩ | ⟨jobId, bound, ended, _⟩
  · have same : { head with jobId := none } = head := by rw [← unbound]
    exact .inr ⟨head, fresh, member, pending, unbound, same ▸ created⟩
  · -- A pending head is bound to a queued job, so its carrier is never replaced.
    obtain ⟨job, present, rfl, carries⟩ := valid.carried head member jobId bound
    have stopped := ended job (valid.job?_eq present)
    have agreed := carries.status
    rw [pending] at agreed
    cases status : job.status with
    | queued | running => rw [status] at stopped; cases stopped
    | succeeded | failed => rw [status] at agreed; cases agreed

theorem Sound.advanceGenerationsLocked {job : Option Job} (advanced : advanceGenerationsLocked db deviceId now = .ok (after, job)) :
    Sound db after := by
  rcases valid.advance_cases advanced with rfl | ⟨head, fresh, member, pending, unbound, created⟩
  · exact .refl valid
  refine Sound.dedicatedCarrier (fun row => row) head valid (by simp) (fun _ _ => rfl)
    (fun _ => rfl) (fun _ => rfl) (fun _ => rfl) pending member rfl rfl ?_ ?_ ?_ created
  · rw [pending]
    exact nofun
  · rw [pending]
    rfl
  · intro job _ held
    rw [unbound] at held
    cases held

theorem Sound.startHeadUnderClaim {expectedJobId : Option Nat}
    (started : startHeadUnderClaim db deviceId expectedJobId = some (after, job)) :
    Sound db after := by
  unfold Core.startHeadUnderClaim at started
  split at started
  · cases started
  rename_i candidate found
  cases started
  have admissible := List.find?_some found
  have queuedJob := List.mem_of_find?_eq_some found
  simp only [queuedCandidates, mem_orderBy, List.mem_filter, Bool.and_eq_true, beq_iff_eq] at queuedJob
  obtain ⟨present, ⟨device, queued⟩, _⟩ := queuedJob
  have live : job.status.live = true := by rw [queued]; rfl
  have untouched : ∀ row : DeploymentGeneration, row.status.crossable = true → (if row.jobId == some job.id && row.status == .pending then
        { row with status := .running, attempts := row.attempts + 1 } else row) = row := by
    intro row final
    have other : row.status ≠ .pending := by
      intro pending
      rw [pending] at final
      cases final
    simp [other]
  constructor
  · refine valid.mapped rfl rfl rfl rfl rfl ?_ ?_ ?_ ?_ ?_ ?_
    · intro row
      split <;> rfl
    · constructor <;> intro row <;> dsimp only <;> split <;> rfl
    · intro other inside moved
      split at moved
      · rename_i same
        rw [valid.job_unique other inside job present (beq_iff_eq.mp same)]
        exact live
      · exact moved
    · intro other inside row member held carries
      by_cases same : other.id = job.id
      · have pending : row.status = .pending := by
          have agreed := carries.status
          rw [valid.job_unique other inside job present same, queued] at agreed
          exact agreed
        have device := carries.device (by
          rw [valid.job_unique other inside job present same]
          exact live)
        simp only [same, held, pending, beq_self_eq_true, Bool.and_self, if_true]
        exact ⟨fun _ => device, rfl⟩
      · simp [same, held]
        exact carries
    · intro row member unbound
      simp [unbound]
    · intro row member running earlier earlierMember sameDevice smaller
      by_cases held : row.jobId = some job.id
      · have rowDevice := (valid.carrier_status member present held).device live
        have sameOwner : row.deviceId = deviceId := Option.some.inj (rowDevice.symm.trans device)
        rcases jobAdmissible_spec admissible member held earlierMember
          (sameDevice.trans sameOwner) with final | ⟨first, firstMember, firstHeld, above⟩
        · rw [untouched earlier final]
          exact .inl final
        · have firstDevice := (valid.carrier_status firstMember present firstHeld).device live
          have between := valid.contiguous job present live first firstMember row member earlier earlierMember firstHeld held
            (sameDevice.trans (Option.some.inj (rowDevice.symm.trans firstDevice)))
            above (Nat.le_of_lt smaller)
          exact .inr (between.trans held.symm)
      · simp only [beq_iff_eq, held, Bool.and_eq_true, false_and, if_false] at running
        rcases valid.barrier row member running earlier earlierMember sameDevice smaller with
          final | shared
        · rw [untouched earlier final]
          exact .inl final
        · exact .inr shared
  · refine Kept.of_map rfl ?_ ?_
    · intro row
      split <;> rfl
    · intro row _ final
      rw [untouched row final]

theorem Sound.jobStopped {move : Job → Job} (present : job ∈ db.jobs) (live : job.status.live = true) (jobs : after.jobs = db.jobs.map move)
    (generations : after.generations = db.generations.map update)
    (seqs : after.lastSeq = db.lastSeq) (jobIds : after.nextJobId = db.nextJobId)
    (generationIds : after.nextGenerationId = db.nextGenerationId)
    (sameJob : ∀ other, (move other).id = other.id) (inPlace : InPlace update)
    (otherJobs : ∀ other, other.id ≠ job.id → move other = other)
    (sameDevice : (move job).status.live = true → (move job).deviceId = job.deviceId)
    (follows : ∀ row ∈ db.generations, row.jobId = some job.id → carriedStatus (move job).status (update row).status)
    (stops : ∀ row ∈ db.generations, row.jobId = some job.id → (update row).status ≠ .running)
    (unheld : ∀ row ∈ db.generations, row.jobId ≠ some job.id → update row = row) :
    Sound db after := by
  have untouched : ∀ row ∈ db.generations, row.status.crossable = true → update row = row := by
    intro row member final
    refine unheld row member fun held => ?_
    have ended := valid.terminal_job member (GenerationStatus.terminal_of_crossable final) present held
    rw [live] at ended
    cases ended
  constructor
  · refine valid.mapped jobs generations seqs jobIds generationIds sameJob inPlace ?_ ?_ ?_ ?_
    · intro other inside moved
      by_cases same : other.id = job.id
      · rw [valid.job_unique other inside job present same]
        exact live
      · rw [otherJobs other same] at moved
        exact moved
    · intro other inside row member held carries
      by_cases same : other.id = job.id
      · have equal := valid.job_unique other inside job present same
        rw [equal] at held carries ⊢
        refine ⟨fun alive => ?_, follows row member held⟩
        rw [sameDevice alive, inPlace.deviceId]
        exact carries.device live
      · rw [otherJobs other same, unheld row member]
        · exact carries
        · rw [held]
          exact fun shared => same (Option.some.inj shared)
    · intro row member unbound
      rw [unheld row member]
      rw [unbound]
      exact nofun
    · intro row member running earlier earlierMember device smaller
      have rowUnheld : row.jobId ≠ some job.id := fun held => stops row member held running
      rw [unheld row member rowUnheld] at running
      rcases valid.barrier row member running earlier earlierMember device smaller with
        final | shared
      · rw [untouched earlier earlierMember final]
        exact .inl final
      · exact .inr shared
  · refine Kept.of_map generations inPlace.id fun row member final => ?_
    rw [untouched row member final]

theorem Sound.requeueRunning (jobId : Nat) (error : Option Json) (expectedAttempt : Option Nat) :
    Sound db (requeueRunning db jobId error expectedAttempt).1 := by
  unfold Core.requeueRunning
  split
  · rename_i owned
    obtain ⟨job, present, owns⟩ := List.any_eq_true.mp owned
    have owner := owns
    simp only [ownership, Bool.and_eq_true, beq_iff_eq] at owner
    obtain ⟨⟨rfl, running⟩, _⟩ := owner
    refine Sound.jobStopped valid present (by rw [running]; rfl) rfl rfl rfl rfl rfl ?_ ?_ ?_ ?_ ?_ ?_ ?_
    · intro other
      split <;> rfl
    · constructor <;> intro row <;> dsimp only <;> split <;> rfl
    · intro other different
      simp [ownership, different]
    · intro _
      split <;> rfl
    · intro row member held
      have agreed := (valid.carrier_status member present held).status
      rw [running] at agreed
      have status : row.status = .running := agreed
      simp [owns, held, status, carriedStatus]
    · intro row member held
      have agreed := (valid.carrier_status member present held).status
      rw [running] at agreed
      have status : row.status = .running := agreed
      simp [held, status]
    · intro row member unheld
      simp [unheld]
  · exact .refl valid

end

theorem carriedStatus_of_terminal {job : JobStatus} (ended : job.live = false)
    (terminal : status.terminal = true) : carriedStatus job status := by
  cases job with
  | queued | running => cases ended
  | succeeded | failed => exact terminal

theorem Sound.allocateSettleSeq (sound : Sound before db) (jobId deviceId : Nat) :
    Sound before (allocateSettleSeq db jobId deviceId).1 := by
  refine sound.trans ⟨?_, .of_generations_eq rfl⟩
  have unchanged : (Core.allocateSettleSeq db jobId deviceId).1.generations = db.generations.map fun row => row := (List.map_id' _).symm
  refine sound.orderly.mapped rfl unchanged rfl rfl rfl ?_ .refl ?_ ?_ ?_ ?_
  · intro job
    split <;> rfl
  · intro job _ live
    split at live <;> exact live
  · intro job _ row _ _ carries
    split
    · exact ⟨carries.device, carries.status⟩
    · exact carries
  · intro row _ _
    rfl
  · exact sound.orderly.barrier

section

variable (valid : Orderly db)

include valid

theorem Sound.casSettled {settled : Database} {owned : Job} (present : owned ∈ db.jobs)
    (owns : ownership owned.id request.expect request.runAttempt owned = true)
    (observed : request.expect.live = true) (ended : request.status.live = false)
    (settles : settleJobGenerations (casTerminalStatus db owned.id request) owned.id
      request.outcome request.error = .ok settled) : Sound db settled := by
  have live : owned.status.live = true := by
    simp only [ownership, Bool.and_eq_true, beq_iff_eq] at owns
    rw [owns.1.2]
    exact observed
  have moved : ∀ other, (if ownership owned.id request.expect request.runAttempt other then
      { other with
        status := request.status
        result := request.result.orElse fun _ => other.result
        error := request.error.orElse fun _ => other.error
        deviceId := request.setDeviceId.getD other.deviceId } else other).id = other.id := by
    intro other
    split <;> rfl
  rcases settleJobGenerations_cases settles with ⟨empty, rfl⟩ | ⟨middle, landed, written, stamped⟩
  · have unchanged : (casTerminalStatus db owned.id request).generations = db.generations.map fun row => row := (List.map_id' _).symm
    refine Sound.jobStopped valid present live rfl unchanged rfl rfl rfl moved .refl ?_ ?_ ?_ ?_ ?_
    · intro other different
      simp [ownership, different]
    · simp [owns, ended]
    · intro row member held
      exact absurd (empty ▸ mem_jobGenerations.mpr ⟨member, held⟩) List.not_mem_nil
    · intro row member held
      exact absurd (empty ▸ mem_jobGenerations.mpr ⟨member, held⟩) List.not_mem_nil
    · intro row _ _
      rfl
  · obtain ⟨terminal, update, inPlace, rfl, wrote⟩ := terminalizeGenerations_spec written
    refine Sound.of_onlyStreams ?_ stamped
    have heldStatus : ∀ row ∈ db.generations, row.jobId = some owned.id → (update row).status = request.outcome := by
      intro row member held
      rcases wrote row with ⟨status, _⟩ | ⟨_, missed⟩
      · exact status
      · have skipped := missed row (mem_jobGenerations.mpr ⟨member, held⟩)
        simp [terminalizes] at skipped
    refine Sound.jobStopped valid present live rfl rfl rfl rfl rfl moved inPlace ?_ ?_ ?_ ?_ ?_
    · intro other different
      simp [ownership, different]
    · simp [owns, ended]
    · intro row member held
      rw [if_pos owns, heldStatus row member held]
      exact carriedStatus_of_terminal ended terminal
    · intro row member held running
      rw [heldStatus row member held] at running
      rw [running] at terminal
      cases terminal
    · intro row member unheld
      rcases wrote row with ⟨_, generation, inside, selected⟩ | ⟨unchanged, _⟩
      · simp only [terminalizes, Bool.and_eq_true, beq_iff_eq] at selected
        exact absurd (selected.1.2.trans (mem_jobGenerations.mp inside).2) unheld
      · exact unchanged

theorem Sound.terminalize {write : Option TerminalWrite} (observed : request.expect.live = true)
    (written : terminalize db jobId request = .ok (after, write)) : Sound db after := by
  obtain ⟨ended, ⟨_, rfl, _⟩ | ⟨owned, present, owns, settled, settles, landed⟩⟩ := terminalize_cases written
  · exact .refl valid
  have sameId : owned.id = jobId := by
    simp only [ownership, Bool.and_eq_true, beq_iff_eq] at owns
    exact owns.1.1
  subst sameId
  have sound := Sound.casSettled valid present owns observed ended settles
  rcases landed with ⟨_, rfl, _⟩ | ⟨_, _, rfl, _⟩
  · exact sound
  · exact sound.allocateSettleSeq _ _

theorem Sound.terminalizeRunning {status : JobStatus} {error : Option Json} {expectedAttempt : Option Nat} {written : Option JobStatus}
    (moved : terminalizeRunning db jobId status error expectedAttempt = .ok (after, written)) :
    Sound db after := by
  rcases terminalizeRunning_cases moved with ⟨request, write, ended, running, _⟩ | rfl
  · exact Sound.terminalize valid (by rw [running]; rfl) ended
  · exact Sound.requeueRunning valid jobId error expectedAttempt

theorem Sound.abandon {head : DeploymentGeneration} (member : head ∈ db.generations) (blocked : head.status.blocked = true)
    (claimed : claimBlockedHead db head .abandoned = .ok after) : Sound db after := by
  obtain ⟨landed, written⟩ := claimBlockedHead_terminal rfl claimed
  obtain ⟨_, update, inPlace, rfl, wrote⟩ := terminalizeGenerations_spec written
  have cases : ∀ row ∈ db.generations, (row = head ∧ (update row).status = .abandoned) ∨ update row = row := by
    intro row inside
    rcases wrote row with ⟨status, generation, chosen, selected⟩ | ⟨unchanged, _⟩
    · rw [List.mem_singleton.mp chosen] at selected
      simp only [terminalizes, Bool.and_eq_true, beq_iff_eq] at selected
      exact .inl ⟨valid.generation_unique row inside head member selected.1.1, status⟩
    · exact .inr unchanged
  have sameJobs : ({ db with generations := db.generations.map update } : Database).jobs =
      db.jobs.map fun job => job := (List.map_id' _).symm
  constructor
  · refine valid.mapped sameJobs rfl rfl rfl rfl (fun _ => rfl) inPlace (fun _ _ live => live) ?_ ?_ ?_
    · intro job present row inside held carries
      rcases cases row inside with ⟨rfl, status⟩ | unchanged
      · have ended := valid.terminal_job inside (GenerationStatus.terminal_of_blocked blocked) present held
        refine ⟨fun live => ?_, ?_⟩
        · rw [ended] at live
          cases live
        · rw [status]
          exact carriedStatus_of_terminal ended rfl
      · rw [unchanged]
        exact carries
    · intro row inside unbound
      rcases cases row inside with ⟨rfl, _⟩ | unchanged
      · rw [valid.unattached row inside unbound] at blocked
        cases blocked
      · rw [unchanged]
    · intro row inside running earlier earlierMember device smaller
      have rowSame : update row = row := by
        rcases cases row inside with ⟨_, status⟩ | unchanged
        · rw [status] at running
          cases running
        · exact unchanged
      rw [rowSame] at running
      rcases valid.barrier row inside running earlier earlierMember device smaller with
        final | shared
      · rcases cases earlier earlierMember with ⟨_, status⟩ | unchanged
        · rw [status]
          exact .inl rfl
        · rw [unchanged]
          exact .inl final
      · exact .inr shared
  · refine Kept.of_map rfl inPlace.id fun row inside final => ?_
    rcases cases row inside with ⟨rfl, _⟩ | unchanged
    · rw [(GenerationStatus.blocked_not_crossable blocked).1] at final
      cases final
    · rw [unchanged]

theorem Sound.reconcileGeneration {job : Option Job} (reconciled : reconcileGeneration db generationId now = .ok (after, job)) :
    Sound db after := by
  rcases reconcileGeneration_cases reconciled with
    rfl | ⟨_, head, claimed, _, required, claim, advanced⟩
  · exact .refl valid
  · obtain ⟨member, _, blocked⟩ := requireBlockedHead_spec required
    have stamped := (Sound.abandon valid member blocked claim).of_onlyStreams (onlyStreams_stampAbandoned claimed head)
    exact stamped.trans (Sound.advanceGenerationsLocked stamped.orderly advanced)

theorem Orderly.strandedGenerations_eq : strandedGenerations db = [] := by
  refine List.filter_eq_nil_iff.mpr fun row member => ?_
  by_cases running : row.status = .running
  · obtain ⟨job, present, held, jobRunning⟩ := valid.running_job member running
    simp [held, valid.job?_eq present, jobRunning]
  · simp [running]

theorem Sound.strandRunningGenerations {landed : List Nat} (stranded : strandRunningGenerations db = .ok (after, landed)) :
    Sound db after := by
  unfold Core.strandRunningGenerations at stranded
  rw [valid.strandedGenerations_eq] at stranded
  cases stranded
  exact .refl valid

theorem Sound.advanceOrKeep (now : Nat → Nat) (deviceId : Nat) : Sound db (advanceOrKeep now db deviceId) := by
  rcases advanceOrKeep_cases now db deviceId with same | ⟨job, advanced⟩
  · rw [same]
    exact .refl valid
  · exact Sound.advanceGenerationsLocked valid advanced

theorem Sound.recoverGenerations {now : Nat → Nat} (recovered : recoverGenerations db now = .ok after) : Sound db after := by
  unfold Core.recoverGenerations at recovered
  split at recovered
  · cases recovered
  rename_i stranded landed strands
  cases recovered
  refine List.foldlRecOn _ _ (Sound.strandRunningGenerations valid strands) ?_
  intro middle sound device _
  exact sound.trans (Sound.advanceOrKeep sound.orderly now device)

theorem Sound.claimNextClaimlessJob (started : claimNextClaimlessJob db = some (after, job)) : Sound db after := by
  unfold Core.claimNextClaimlessJob at started
  split at started
  · cases started
  rename_i head found
  cases started
  have queuedJob := mem_of_head?_orderBy found
  simp only [List.mem_filter, Bool.and_eq_true, beq_iff_eq] at queuedJob
  obtain ⟨present, claimless, queued⟩ := queuedJob
  -- A job with no device carries nothing while it is live.
  have empty : ∀ row ∈ db.generations, row.jobId ≠ some job.id := by
    intro row member held
    have device := (valid.carrier_status member present held).device (by rw [queued]; rfl)
    rw [claimless] at device
    cases device
  have unchanged : (startJob db job.id).generations = db.generations.map fun row => row := (List.map_id' _).symm
  refine ⟨valid.mapped rfl unchanged rfl rfl rfl ?_ .refl ?_ ?_ (fun _ _ _ => rfl) valid.barrier, .of_generations_eq rfl⟩
  · intro other
    split <;> rfl
  · intro other inside live
    by_cases same : other.id = job.id
    · rw [valid.job_unique other inside job present same, queued]
      rfl
    · simpa [same] using live
  · intro other inside row member held carries
    have different : other.id ≠ job.id := by
      intro same
      rw [same] at held
      exact empty row member held
    simpa [different] using carries

end

end NsoAdapter.Core
