import NsoAdapter.Core.GenerationProperties

/-! What every reachable store satisfies about its jobs and generations. The
barrier alone is not inductive: a running generation may share its job with its
predecessors, so the invariant also says which statuses a job and its generations
can have together and that a live job carries a contiguous stretch of the chain. -/

namespace NsoAdapter.Core
open Lib Store

def carriedStatus : JobStatus → GenerationStatus → Prop
  | .queued, status => status = .pending
  | .running, status => status = .running
  | .succeeded, status => status.terminal = true
  | .failed, status => status.terminal = true

structure Carries (job : Job) (generation : DeploymentGeneration) : Prop where
  device : job.status.live = true → job.deviceId = some generation.deviceId
  status : carriedStatus job.status generation.status

/-- Identifiers are taken from their sequences. -/
structure Identified (db : Database) : Prop where
  job_below : ∀ job ∈ db.jobs, job.id < db.nextJobId
  job_unique : ∀ left ∈ db.jobs, ∀ right ∈ db.jobs, left.id = right.id → left = right
  generation_below : ∀ generation ∈ db.generations, generation.id < db.nextGenerationId
  generation_unique : ∀ left ∈ db.generations, ∀ right ∈ db.generations,
    left.id = right.id → left = right
  bound_below : ∀ generation ∈ db.generations, ∀ jobId, generation.jobId = some jobId →
    jobId < db.nextJobId

structure Orderly (db : Database) : Prop extends Identified db where
  seq_le : ∀ generation ∈ db.generations, generation.seq ≤ db.lastSeq generation.deviceId
  seq_unique : ∀ left ∈ db.generations, ∀ right ∈ db.generations,
    left.deviceId = right.deviceId → left.seq = right.seq → left = right
  carried : ∀ generation ∈ db.generations, ∀ jobId, generation.jobId = some jobId →
    ∃ job ∈ db.jobs, job.id = jobId ∧ Carries job generation
  unattached : ∀ generation ∈ db.generations, generation.jobId = none →
    generation.status = .pending
  contiguous : ∀ job ∈ db.jobs, job.status.live = true →
    ∀ first ∈ db.generations, ∀ last ∈ db.generations, ∀ generation ∈ db.generations,
      first.jobId = some job.id → last.jobId = some job.id →
      generation.deviceId = first.deviceId → first.seq ≤ generation.seq →
      generation.seq ≤ last.seq → generation.jobId = some job.id
  barrier : ∀ generation ∈ db.generations, generation.status = .running →
    ∀ earlier ∈ db.generations, earlier.deviceId = generation.deviceId →
      earlier.seq < generation.seq →
      earlier.status.crossable = true ∨ earlier.jobId = generation.jobId

/-- A settled or abandoned generation is still there with its status. -/
def Kept (before after : Database) : Prop :=
  ∀ generation ∈ before.generations, generation.status.crossable = true →
    ∃ later ∈ after.generations, later.id = generation.id ∧ later.status = generation.status

theorem Kept.refl (db : Database) : Kept db db := fun generation member _ => ⟨generation, member, rfl, rfl⟩

variable {first second third : Database}

theorem Kept.trans (before : Kept first second) (after : Kept second third) : Kept first third := by
  intro generation member crossable
  obtain ⟨middle, middleMember, sameId, sameStatus⟩ := before generation member crossable
  obtain ⟨last, lastMember, lastId, lastStatus⟩ := after middle middleMember (sameStatus ▸ crossable)
  exact ⟨last, lastMember, lastId.trans sameId, lastStatus.trans sameStatus⟩

theorem Kept.of_generations_eq {before after : Database} (same : after.generations = before.generations) : Kept before after :=
  fun generation member _ => ⟨generation, same ▸ member, rfl, rfl⟩

structure Sound (before after : Database) : Prop where
  orderly : Orderly after
  kept : Kept before after

theorem Sound.refl {db : Database} (valid : Orderly db) : Sound db db := ⟨valid, .refl db⟩

theorem Sound.trans (before : Sound first second) (after : Sound second third) : Sound first third :=
  ⟨after.orderly, before.kept.trans after.kept⟩

section

variable {db after : Database} {move : Job → Job} {update : DeploymentGeneration → DeploymentGeneration}

variable (valid : Identified db)

include valid

theorem Identified.mapped (jobs : after.jobs = db.jobs.map move) (generations : after.generations = db.generations.map update)
    (sameJob : ∀ job, (move job).id = job.id) (sameId : ∀ row, (update row).id = row.id)
    (bound : ∀ row ∈ db.generations, ∀ jobId, (update row).jobId = some jobId → jobId < db.nextJobId)
    (jobIds : after.nextJobId = db.nextJobId) (generationIds : after.nextGenerationId = db.nextGenerationId) :
    Identified after := by
  constructor
  case job_below =>
    intro job present
    rw [jobs] at present
    obtain ⟨old, member, rfl⟩ := List.mem_map.mp present
    rw [sameJob, jobIds]
    exact valid.job_below old member
  case job_unique =>
    rw [jobs]
    exact UniqueBy.map valid.job_unique fun job _ => sameJob job
  case generation_below =>
    intro row member
    rw [generations] at member
    obtain ⟨old, present, rfl⟩ := List.mem_map.mp member
    rw [sameId, generationIds]
    exact valid.generation_below old present
  case generation_unique =>
    rw [generations]
    exact UniqueBy.map valid.generation_unique fun row _ => sameId row
  case bound_below =>
    intro row member jobId held
    rw [generations] at member
    obtain ⟨old, present, rfl⟩ := List.mem_map.mp member
    rw [jobIds]
    exact bound old present jobId held

theorem Identified.insertJob (deviceId : Option Nat) (jobType : JobType) (coalescible : Bool) (context : Option JobContext) (now : Nat) :
    Identified (insertJob db deviceId jobType coalescible context now).1 := by
  constructor
  case job_below =>
    intro job present
    rcases List.mem_append.mp present with old | new
    · exact (valid.job_below job old).trans (Nat.lt_succ_self _)
    · rw [List.mem_singleton.mp new]
      exact Nat.lt_succ_self _
  case job_unique =>
    exact UniqueBy.append valid.job_unique fun other old => (valid.job_below other old).ne
  case generation_below => exact valid.generation_below
  case generation_unique => exact valid.generation_unique
  case bound_below =>
    intro row member jobId held
    exact (valid.bound_below row member jobId held).trans (Nat.lt_succ_self _)

theorem Identified.insertGeneration (digestDocument : DocumentDigest) (deviceId : Nat) (content : GenerationContent) :
    Identified (insertGeneration digestDocument db deviceId content).1 := by
  constructor
  case job_below => exact valid.job_below
  case job_unique => exact valid.job_unique
  case generation_below =>
    intro row member
    rcases List.mem_append.mp member with old | new
    · exact (valid.generation_below row old).trans (Nat.lt_succ_self _)
    · rw [List.mem_singleton.mp new]
      exact Nat.lt_succ_self _
  case generation_unique =>
    exact UniqueBy.append valid.generation_unique fun other old =>
      (valid.generation_below other old).ne
  case bound_below =>
    intro row member jobId held
    rcases List.mem_append.mp member with old | new
    · exact valid.bound_below row old jobId held
    · rw [List.mem_singleton.mp new] at held
      cases held

theorem Identified.bind (generationId : Nat) {job : Job} (present : job ∈ db.jobs) : Identified (bindToJob db generationId job.id) := by
  refine valid.mapped (List.map_id' _).symm rfl (fun _ => rfl) (fun row => by split <;> rfl) ?_ rfl rfl
  intro row member jobId held
  split at held
  · cases held
    exact valid.job_below job present
  · exact valid.bound_below row member jobId held

theorem Identified.not_bound_fresh {generation : DeploymentGeneration} (member : generation ∈ db.generations) : generation.jobId ≠ some db.nextJobId :=
  fun held => Nat.lt_irrefl _ (valid.bound_below generation member _ held)

end

namespace Orderly

variable {db : Database}

theorem of_empty (jobs : db.jobs = []) (generations : db.generations = []) : Orderly db := by
  refine ⟨⟨?_, ?_, ?_, ?_, ?_⟩, ?_, ?_, ?_, ?_, ?_, ?_⟩ <;> simp [jobs, generations]

theorem seq_unique_iff {generations : List DeploymentGeneration} :
    (∀ left ∈ generations, ∀ right ∈ generations, left.deviceId = right.deviceId →
      left.seq = right.seq → left = right) ↔
      UniqueBy (fun row => (row.deviceId, row.seq)) generations := by
  simp only [UniqueBy, Prod.mk.injEq, and_imp]

variable {generation target : DeploymentGeneration} {job : Job} {after : Database}

theorem carrier_status (valid : Orderly db) (member : generation ∈ db.generations)
    (present : job ∈ db.jobs) (attached : generation.jobId = some job.id) :
    Carries job generation := by
  obtain ⟨carrier, carrierMember, sameId, carries⟩ := valid.carried generation member _ attached
  have same : carrier = job := valid.job_unique carrier carrierMember job present sameId
  exact same ▸ carries

theorem job?_eq (valid : Orderly db) (present : job ∈ db.jobs) : db.job? job.id = some job :=
  find?_eq_some_of_unique present fun other member same =>
    valid.job_unique other member job present same

theorem running_job (valid : Orderly db) (member : generation ∈ db.generations) (running : generation.status = .running) :
    ∃ job ∈ db.jobs, generation.jobId = some job.id ∧ job.status = .running := by
  cases attached : generation.jobId with
  | none =>
    have pending := valid.unattached generation member attached
    rw [running] at pending
    cases pending
  | some jobId =>
    obtain ⟨job, present, sameId, carries⟩ := valid.carried generation member jobId attached
    refine ⟨job, present, congrArg some sameId.symm, ?_⟩
    have agreed := carries.status
    rw [running] at agreed
    cases status : job.status with
    | running => rfl
    | queued | succeeded | failed =>
      rw [status] at agreed
      cases agreed

theorem clear_above (valid : Orderly db) {later : DeploymentGeneration}
    (member : generation ∈ db.generations) (idle : generation.status ≠ .running)
    (uncrossable : generation.status.crossable = false) (present : later ∈ db.generations)
    (running : later.status = .running) (device : generation.deviceId = later.deviceId) :
    later.seq ≤ generation.seq := by
  by_contra above
  rcases valid.barrier later present running generation member device (Nat.lt_of_not_le above) with crossable | shared
  · rw [uncrossable] at crossable
    cases crossable
  · obtain ⟨job, jobMember, attached, jobRunning⟩ := valid.running_job present running
    have agreed := (valid.carrier_status member jobMember (shared.trans attached)).status
    rw [jobRunning] at agreed
    exact idle agreed

theorem of_same (valid : Orderly db) (jobs : after.jobs = db.jobs)
    (generations : after.generations = db.generations) (seqs : after.lastSeq = db.lastSeq)
    (jobIds : after.nextJobId = db.nextJobId)
    (generationIds : after.nextGenerationId = db.nextGenerationId) : Orderly after := by
  cases after
  cases jobs
  cases generations
  cases seqs
  cases jobIds
  cases generationIds
  exact ⟨⟨valid.job_below, valid.job_unique, valid.generation_below, valid.generation_unique, valid.bound_below⟩,
    valid.seq_le, valid.seq_unique, valid.carried, valid.unattached, valid.contiguous, valid.barrier⟩

variable {update : DeploymentGeneration → DeploymentGeneration} {row : DeploymentGeneration}

theorem mapped (valid : Orderly db) {move : Job → Job} (jobs : after.jobs = db.jobs.map move)
    (generations : after.generations = db.generations.map update)
    (seqs : after.lastSeq = db.lastSeq) (jobIds : after.nextJobId = db.nextJobId)
    (generationIds : after.nextGenerationId = db.nextGenerationId)
    (sameJob : ∀ job, (move job).id = job.id) (inPlace : InPlace update)
    (alive : ∀ job ∈ db.jobs, (move job).status.live = true → job.status.live = true)
    (follows : ∀ job ∈ db.jobs, ∀ generation ∈ db.generations, generation.jobId = some job.id → Carries job generation →
      Carries (move job) (update generation))
    (idle : ∀ generation ∈ db.generations, generation.jobId = none → (update generation).status = generation.status)
    (starts : ∀ generation ∈ db.generations, (update generation).status = .running →
      ∀ earlier ∈ db.generations, earlier.deviceId = generation.deviceId → earlier.seq < generation.seq →
        (update earlier).status.crossable = true ∨ earlier.jobId = generation.jobId) :
    Orderly after := by
  have jobOf : ∀ {job}, job ∈ after.jobs → ∃ old ∈ db.jobs, move old = job := by
    intro job member
    rw [jobs] at member
    exact List.mem_map.mp member
  have rowOf : ∀ {row}, row ∈ after.generations → ∃ old ∈ db.generations, update old = row := by
    intro row member
    rw [generations] at member
    exact List.mem_map.mp member
  constructor
  case toIdentified =>
    exact valid.toIdentified.mapped jobs generations sameJob inPlace.id (fun row member jobId held =>
      valid.bound_below row member jobId (inPlace.jobId row ▸ held)) jobIds generationIds
  case seq_le =>
    intro row member
    obtain ⟨old, present, rfl⟩ := rowOf member
    rw [inPlace.seq, inPlace.deviceId, seqs]
    exact valid.seq_le old present
  case seq_unique =>
    rw [generations]
    exact seq_unique_iff.mpr ((seq_unique_iff.mp valid.seq_unique).map fun row _ =>
      Prod.ext (inPlace.deviceId row) (inPlace.seq row))
  case carried =>
    intro row member jobId attached
    obtain ⟨old, present, rfl⟩ := rowOf member
    rw [inPlace.jobId] at attached
    obtain ⟨job, jobMember, rfl, carries⟩ := valid.carried old present jobId attached
    refine ⟨move job, ?_, sameJob job, follows job jobMember old present attached carries⟩
    rw [jobs]
    exact List.mem_map_of_mem jobMember
  case unattached =>
    intro row member free
    obtain ⟨old, present, rfl⟩ := rowOf member
    rw [inPlace.jobId] at free
    rw [idle old present free]
    exact valid.unattached old present free
  case contiguous =>
    intro job member live first firstMember last lastMember row rowMember
    obtain ⟨old, present, rfl⟩ := jobOf member
    obtain ⟨oldFirst, firstPresent, rfl⟩ := rowOf firstMember
    obtain ⟨oldLast, lastPresent, rfl⟩ := rowOf lastMember
    obtain ⟨oldRow, rowPresent, rfl⟩ := rowOf rowMember
    simp only [inPlace.jobId, inPlace.deviceId, inPlace.seq, sameJob]
    exact valid.contiguous old present (alive old present live) oldFirst firstPresent oldLast lastPresent oldRow rowPresent
  case barrier =>
    intro row member running earlier earlierMember
    obtain ⟨old, present, rfl⟩ := rowOf member
    obtain ⟨oldEarlier, earlierPresent, rfl⟩ := rowOf earlierMember
    simp only [inPlace.jobId, inPlace.deviceId, inPlace.seq]
    exact starts old present running oldEarlier earlierPresent

theorem insertJob (valid : Orderly db) (deviceId : Option Nat) (jobType : JobType)
    (coalescible : Bool) (context : Option JobContext) (now : Nat) :
    Orderly (Core.insertJob db deviceId jobType coalescible context now).1 := by
  have split : ∀ {job}, job ∈ (Core.insertJob db deviceId jobType coalescible context now).1.jobs →
      job ∈ db.jobs ∨ job.id = db.nextJobId ∧ job = (Core.insertJob db deviceId jobType coalescible context now).2 := by
    intro job member
    rcases List.mem_append.mp member with old | new
    · exact .inl old
    · have same := List.mem_singleton.mp new
      exact .inr ⟨same ▸ rfl, same⟩
  constructor
  case toIdentified => exact valid.toIdentified.insertJob deviceId jobType coalescible context now
  case seq_le => exact valid.seq_le
  case seq_unique => exact valid.seq_unique
  case carried =>
    intro generation member jobId attached
    obtain ⟨job, present, carries⟩ := valid.carried generation member jobId attached
    exact ⟨job, List.mem_append_left _ present, carries⟩
  case unattached => exact valid.unattached
  case contiguous =>
    intro job member live first firstMember last lastMember row rowMember attached
    rcases split member with old | ⟨fresh, _⟩
    · exact valid.contiguous job old live first firstMember last lastMember row rowMember attached
    · rw [fresh] at attached
      exact absurd attached (valid.not_bound_fresh firstMember)
  case barrier => exact valid.barrier

theorem insertGeneration (valid : Orderly db) (digestDocument : DocumentDigest) (deviceId : Nat) (content : GenerationContent) :
    Orderly (Core.insertGeneration digestDocument db deviceId content).1 := by
  obtain ⟨fresh, created⟩ : ∃ fresh, fresh = (Core.insertGeneration digestDocument db deviceId content).2 := ⟨_, rfl⟩
  have freshId : fresh.id = db.nextGenerationId := by rw [created]; rfl
  have freshDevice : fresh.deviceId = deviceId := by rw [created]; rfl
  have freshSeq : fresh.seq = db.lastSeq deviceId + 1 := by rw [created]; rfl
  have freshStatus : fresh.status = .pending := by rw [created]; rfl
  have freshJob : fresh.jobId = none := by rw [created]; rfl
  have split : ∀ {row}, row ∈ (Core.insertGeneration digestDocument db deviceId content).1.generations →
      row ∈ db.generations ∨ row = fresh := by
    intro row member
    rcases List.mem_append.mp member with old | new
    · exact .inl old
    · exact .inr ((List.mem_singleton.mp new).trans created.symm)
  -- The new row stands above every row of its device.
  have below : ∀ row ∈ db.generations, row.deviceId = fresh.deviceId → row.seq < fresh.seq := by
    intro row member sameDevice
    have bounded := valid.seq_le row member
    rw [sameDevice, freshDevice] at bounded
    omega
  constructor
  case toIdentified => exact valid.toIdentified.insertGeneration digestDocument deviceId content
  case seq_le =>
    intro row member
    change row.seq ≤ Function.update db.lastSeq deviceId (db.lastSeq deviceId + 1) row.deviceId
    by_cases sameDevice : row.deviceId = deviceId
    · rw [sameDevice, Function.update_self]
      rcases split member with old | rfl
      · have bounded := valid.seq_le row old
        rw [sameDevice] at bounded
        omega
      · exact Nat.le_of_eq freshSeq
    · rw [Function.update_of_ne sameDevice]
      rcases split member with old | rfl
      · exact valid.seq_le row old
      · exact absurd freshDevice sameDevice
  case seq_unique =>
    refine seq_unique_iff.mpr ((seq_unique_iff.mp valid.seq_unique).append fun other old same => ?_)
    have sameDevice : other.deviceId = fresh.deviceId := (congrArg Prod.fst same).trans freshDevice.symm
    exact (below other old sameDevice).ne ((congrArg Prod.snd same).trans freshSeq.symm)
  case carried =>
    intro row member jobId attached
    rcases split member with old | rfl
    · exact valid.carried row old jobId attached
    · rw [freshJob] at attached
      cases attached
  case unattached =>
    intro row member free
    rcases split member with old | rfl
    · exact valid.unattached row old free
    · exact freshStatus
  case contiguous =>
    intro job present live first firstMember last lastMember row rowMember firstAttached lastAttached sameDevice above beneath
    rcases split firstMember with firstOld | rfl
    · rcases split lastMember with lastOld | rfl
      · rcases split rowMember with rowOld | rfl
        · exact valid.contiguous job present live first firstOld last lastOld row rowOld firstAttached lastAttached sameDevice above beneath
        · have firstDevice := (valid.carrier_status firstOld present firstAttached).device live
          have lastDevice := (valid.carrier_status lastOld present lastAttached).device live
          have shared : last.deviceId = row.deviceId := by
            rw [sameDevice]
            exact Option.some.inj (lastDevice.symm.trans firstDevice)
          exact absurd beneath (Nat.not_le_of_lt (below last lastOld shared))
      · rw [freshJob] at lastAttached
        cases lastAttached
    · rw [freshJob] at firstAttached
      cases firstAttached
  case barrier =>
    intro row member running earlier earlierMember sameDevice smaller
    rcases split member with old | rfl
    · rcases split earlierMember with earlierOld | rfl
      · exact valid.barrier row old running earlier earlierOld sameDevice smaller
      · exact absurd smaller (Nat.not_lt_of_gt (below row old sameDevice.symm))
    · rw [freshStatus] at running
      cases running

theorem below_of_adjacent (adjacent : Adjacent db job target) (member : row ∈ db.generations)
    (held : row.jobId = some job.id) : row.seq < target.seq := by
  rcases adjacent with empty | ⟨last, _, _, next, highest⟩
  · exact absurd held (empty row member)
  · have bounded := highest row member held
    omega

theorem attached_between (valid : Orderly db) {first : DeploymentGeneration}
    (adjacent : Adjacent db job target) (present : job ∈ db.jobs) (live : job.status.live = true)
    (firstMember : first ∈ db.generations) (firstHeld : first.jobId = some job.id)
    (member : row ∈ db.generations) (device : row.deviceId = first.deviceId)
    (above : first.seq ≤ row.seq) (beneath : row.seq < target.seq) : row.jobId = some job.id := by
  rcases adjacent with empty | ⟨last, lastMember, lastHeld, next, _⟩
  · exact absurd firstHeld (empty first firstMember)
  · exact valid.contiguous job present live first firstMember last lastMember row member firstHeld lastHeld device above (by omega)

theorem bound (valid : Orderly db) (jobs : after.jobs = db.jobs) (generations : after.generations = db.generations.map update)
    (seqs : after.lastSeq = db.lastSeq) (jobIds : after.nextJobId = db.nextJobId)
    (generationIds : after.nextGenerationId = db.nextGenerationId)
    (sameId : ∀ row, (update row).id = row.id)
    (sameDevice : ∀ row, (update row).deviceId = row.deviceId)
    (sameSeq : ∀ row, (update row).seq = row.seq)
    (others : ∀ row ∈ db.generations, row ≠ target → update row = row)
    (member : target ∈ db.generations) (present : job ∈ db.jobs) (queued : job.status = .queued)
    (device : job.deviceId = some target.deviceId) (attached : (update target).jobId = some job.id)
    (pending : (update target).status = .pending) (idle : target.status ≠ .running)
    (uncrossable : target.status.crossable = false)
    (free : ∀ carrier ∈ db.jobs, target.jobId = some carrier.id → carrier.status.live = false)
    (adjacent : Adjacent db job target) : Orderly after := by
  have rowOf : ∀ {row}, row ∈ after.generations → ∃ old ∈ db.generations, update old = row := by
    intro row inside
    rw [generations] at inside
    exact List.mem_map.mp inside
  -- A row on a live job after the binding is the target or was on that job before.
  have before : ∀ carrier ∈ db.jobs, carrier.status.live = true → ∀ row ∈ db.generations, (update row).jobId = some carrier.id →
      row = target ∧ carrier.id = job.id ∨ row ≠ target ∧ row.jobId = some carrier.id := by
    intro carrier carrierMember live row rowMember held
    by_cases same : row = target
    · rw [same, attached] at held
      exact .inl ⟨same, (Option.some.inj held).symm⟩
    · rw [others row rowMember same] at held
      exact .inr ⟨same, held⟩
  constructor
  case toIdentified =>
    refine valid.toIdentified.mapped (jobs.trans (List.map_id' _).symm) generations (fun _ => rfl) sameId ?_ jobIds generationIds
    intro row rowMember jobId held
    by_cases same : row = target
    · rw [same, attached] at held
      exact Option.some.inj held ▸ valid.job_below job present
    · exact valid.bound_below row rowMember jobId (others row rowMember same ▸ held)
  case seq_le =>
    intro row inside
    obtain ⟨old, oldMember, rfl⟩ := rowOf inside
    rw [sameSeq, sameDevice, seqs]
    exact valid.seq_le old oldMember
  case seq_unique =>
    rw [generations]
    exact seq_unique_iff.mpr ((seq_unique_iff.mp valid.seq_unique).map fun row _ =>
      Prod.ext (sameDevice row) (sameSeq row))
  case carried =>
    intro row inside jobId held
    obtain ⟨old, oldMember, rfl⟩ := rowOf inside
    rw [jobs]
    by_cases same : old = target
    · subst same
      rw [attached] at held
      refine ⟨job, present, Option.some.inj held, ?_, ?_⟩
      · rw [sameDevice]
        exact fun _ => device
      · rw [queued, pending]
        rfl
    · rw [others old oldMember same] at held ⊢
      exact valid.carried old oldMember jobId held
  case unattached =>
    intro row inside unbound
    obtain ⟨old, oldMember, rfl⟩ := rowOf inside
    by_cases same : old = target
    · rw [same]
      exact pending
    · rw [others old oldMember same] at unbound ⊢
      exact valid.unattached old oldMember unbound
  case contiguous =>
    intro carrier carrierMember live first firstMember last lastMember row rowMember
    obtain ⟨oldFirst, firstPresent, rfl⟩ := rowOf firstMember
    obtain ⟨oldLast, lastPresent, rfl⟩ := rowOf lastMember
    obtain ⟨oldRow, rowPresent, rfl⟩ := rowOf rowMember
    rw [jobs] at carrierMember
    simp only [sameDevice, sameSeq]
    intro firstHeld lastHeld rowDevice above beneath
    rcases before carrier carrierMember live oldFirst firstPresent firstHeld with
      ⟨rfl, sameJob⟩ | ⟨_, firstOld⟩
    · rcases before carrier carrierMember live oldLast lastPresent lastHeld with
        ⟨rfl, _⟩ | ⟨_, lastOld⟩
      · rw [valid.seq_unique oldRow rowPresent oldLast member rowDevice (by omega)]
        exact lastHeld
      · rw [sameJob] at lastOld
        have below := below_of_adjacent adjacent lastPresent lastOld
        omega
    · rcases before carrier carrierMember live oldLast lastPresent lastHeld with
        ⟨rfl, sameJob⟩ | ⟨_, lastOld⟩
      · by_cases same : oldRow = oldLast
        · rw [same]
          exact lastHeld
        · rw [others oldRow rowPresent same, sameJob]
          rw [sameJob] at firstOld
          have jobLive : job.status.live = true := by rw [queued]; rfl
          have firstDevice := (valid.carrier_status firstPresent present firstOld).device jobLive
          have shared : oldRow.deviceId = oldLast.deviceId := rowDevice.trans (Option.some.inj (firstDevice.symm.trans device))
          refine attached_between valid adjacent present jobLive firstPresent firstOld rowPresent
            rowDevice above (Nat.lt_of_le_of_ne beneath fun sameSeq => same ?_)
          exact valid.seq_unique oldRow rowPresent oldLast member shared sameSeq
      · have held := valid.contiguous carrier carrierMember live oldFirst firstPresent
          oldLast lastPresent oldRow rowPresent firstOld lastOld rowDevice above beneath
        have same : oldRow ≠ target := by
          rintro rfl
          have dead := free carrier carrierMember held
          rw [live] at dead
          cases dead
        rw [others oldRow rowPresent same]
        exact held
  case barrier =>
    intro row inside running earlier earlierMember
    obtain ⟨old, oldMember, rfl⟩ := rowOf inside
    obtain ⟨oldEarlier, earlierPresent, rfl⟩ := rowOf earlierMember
    simp only [sameDevice, sameSeq]
    intro earlierDevice smaller
    by_cases same : old = target
    · rw [same, pending] at running
      cases running
    · rw [others old oldMember same] at running ⊢
      by_cases earlierSame : oldEarlier = target
      · subst earlierSame
        exact absurd smaller (Nat.not_lt_of_le (valid.clear_above member idle uncrossable oldMember running earlierDevice))
      · rw [others oldEarlier earlierPresent earlierSame]
        exact valid.barrier old oldMember running oldEarlier earlierPresent earlierDevice smaller

end Orderly

end NsoAdapter.Core
