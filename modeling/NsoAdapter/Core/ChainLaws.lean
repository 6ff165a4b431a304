import NsoAdapter.Core.ChainMoves

/-! What every move keeps: the shape of what a job carries, one row for each stream of a
device, and cohorts that were allocated. A generation that lists no revision is a reissue. -/

namespace NsoAdapter.Core
open Lib Store Projection

/-- What a job carries: generations of its type and of one mode, and a dedicated job
carries one. -/
structure Carriers (db : Database) : Prop where
  jobType : ∀ generation ∈ db.generations, ∀ job ∈ db.jobs, generation.jobId = some job.id →
    job.jobType = carrierType generation
  mode : ∀ left ∈ db.generations, ∀ right ∈ db.generations, ∀ jobId,
    left.jobId = some jobId → right.jobId = some jobId → left.mode = right.mode
  dedicated : ∀ job ∈ db.jobs, job.coalescible = false → ∀ left ∈ db.generations,
    ∀ right ∈ db.generations, left.jobId = some job.id → right.jobId = some job.id → left = right

def Keyed (streams : List DeviceProjectionStream) : Prop :=
  ∀ left ∈ streams, ∀ right ∈ streams,
    left.deviceId = right.deviceId → left.stream = right.stream → left = right

structure Lawful (chain : DeploymentChain) : Prop where
  identified : Identified chain.db
  carriers : Carriers chain.db
  keyed : Keyed chain.db.streams
  cohorts : ∀ generation ∈ chain.db.generations, ∀ cohort,
    generation.settlementCohort = some cohort → cohort < chain.nextCohort
  removals : ∀ job ∈ chain.db.jobs, job.jobType = .removal → job.coalescible = false
  reissues : ∀ generation ∈ chain.db.generations, generation.streamRevisions = [] →
    generation.removalContext.isSome = true ∧ generation.settlementCohort = none

variable {update : DeploymentGeneration → DeploymentGeneration} {db : Database}
  {row after : DeviceProjectionStream}

theorem InPlace.carrierType (inPlace : InPlace update) (row : DeploymentGeneration) : carrierType (update row) = carrierType row := by
  unfold Core.carrierType
  rw [inPlace.removalContext, inPlace.mode]

variable {move : Job → Job} {generation : DeploymentGeneration}
  {streams : List DeviceProjectionStream} {kind : MoveKind}

theorem Carriers.mapped {after : Database} (carriers : Carriers db) (jobs : after.jobs = db.jobs.map move) (jobInPlace : JobInPlace move)
    (generations : after.generations = db.generations.map update) (inPlace : InPlace update) :
    Carriers after := by
  constructor
  case jobType =>
    intro generation member job present held
    rw [generations] at member
    rw [jobs] at present
    obtain ⟨row, rowMember, rfl⟩ := List.mem_map.mp member
    obtain ⟨old, oldMember, rfl⟩ := List.mem_map.mp present
    rw [inPlace.jobId, jobInPlace.id] at held
    rw [jobInPlace.jobType, inPlace.carrierType]
    exact carriers.jobType row rowMember old oldMember held
  case mode =>
    intro left leftMember right rightMember jobId leftHeld rightHeld
    rw [generations] at leftMember rightMember
    obtain ⟨oldLeft, leftPresent, rfl⟩ := List.mem_map.mp leftMember
    obtain ⟨oldRight, rightPresent, rfl⟩ := List.mem_map.mp rightMember
    rw [inPlace.jobId] at leftHeld rightHeld
    rw [inPlace.mode, inPlace.mode]
    exact carriers.mode oldLeft leftPresent oldRight rightPresent jobId leftHeld rightHeld
  case dedicated =>
    intro job present alone left leftMember right rightMember leftHeld rightHeld
    rw [generations] at leftMember rightMember
    rw [jobs] at present
    obtain ⟨oldLeft, leftPresent, rfl⟩ := List.mem_map.mp leftMember
    obtain ⟨oldRight, rightPresent, rfl⟩ := List.mem_map.mp rightMember
    obtain ⟨old, oldMember, rfl⟩ := List.mem_map.mp present
    rw [inPlace.jobId, jobInPlace.id] at leftHeld rightHeld
    rw [jobInPlace.coalescible] at alone
    rw [carriers.dedicated old oldMember alone oldLeft leftPresent oldRight rightPresent leftHeld rightHeld]

section

variable (valid : Identified db)

include valid

theorem Carriers.insertJob (carriers : Carriers db) (deviceId : Option Nat) (jobType : JobType)
    (coalescible : Bool) (context : Option JobContext) (now : Nat) :
    Carriers (insertJob db deviceId jobType coalescible context now).1 := by
  -- No generation is bound to the identifier of the new job.
  have old : ∀ generation ∈ db.generations, ∀ job ∈ (Core.insertJob db deviceId jobType coalescible context now).1.jobs,
      generation.jobId = some job.id → job ∈ db.jobs := by
    intro generation member job present held
    rcases List.mem_append.mp present with earlier | new
    · exact earlier
    · rw [List.mem_singleton.mp new] at held
      exact absurd held (valid.not_bound_fresh member)
  constructor
  case jobType =>
    intro generation member job present held
    exact carriers.jobType generation member job (old generation member job present held) held
  case mode => exact carriers.mode
  case dedicated =>
    intro job present alone left leftMember right rightMember leftHeld rightHeld
    exact carriers.dedicated job (old left leftMember job present leftHeld) alone left leftMember right rightMember leftHeld rightHeld

end

theorem Carriers.insertGeneration (carriers : Carriers db) (digestDocument : DocumentDigest)
    (deviceId : Nat) (content : GenerationContent) :
    Carriers (insertGeneration digestDocument db deviceId content).1 := by
  have attached : ∀ row ∈ (Core.insertGeneration digestDocument db deviceId content).1.generations,
      ∀ jobId, row.jobId = some jobId → row ∈ db.generations := by
    intro row member jobId held
    rcases List.mem_append.mp member with earlier | new
    · exact earlier
    · rw [List.mem_singleton.mp new] at held
      cases held
  constructor
  case jobType =>
    intro generation member job present held
    exact carriers.jobType generation (attached generation member _ held) job present held
  case mode =>
    intro left leftMember right rightMember jobId leftHeld rightHeld
    exact carriers.mode left (attached left leftMember _ leftHeld) right (attached right rightMember _ rightHeld) jobId leftHeld rightHeld
  case dedicated =>
    intro job present alone left leftMember right rightMember leftHeld rightHeld
    exact carriers.dedicated job present alone left (attached left leftMember _ leftHeld) right
      (attached right rightMember _ rightHeld) leftHeld rightHeld

theorem mem_bindToJob (valid : Identified db) {row : DeploymentGeneration} {jobId : Nat} (member : generation ∈ db.generations)
    (located : row ∈ (bindToJob db generation.id jobId).generations) :
    row = { generation with jobId := some jobId } ∨ row ∈ db.generations ∧ row.id ≠ generation.id := by
  obtain ⟨old, present, rfl⟩ := mem_updateWhere.mp located
  split
  · rename_i same
    rw [valid.generation_unique old present generation member (beq_iff_eq.mp same)]
    exact .inl rfl
  · rename_i other
    exact .inr ⟨present, fun same => other (beq_iff_eq.mpr same)⟩

theorem Carriers.bind (valid : Identified db) (carriers : Carriers db) {job : Job}
    (member : generation ∈ db.generations) (present : job ∈ db.jobs) (fits : Fits db job generation) :
    Carriers (bindToJob db generation.id job.id) := by
  -- What shares the job with the bound row has its mode.
  have sameMode : ∀ row ∈ db.generations, row.jobId = some job.id → row.mode = generation.mode := by
    intro row rowMember held
    rcases fits.shared with empty | ⟨_, modes⟩
    · exact absurd held (empty row rowMember)
    · exact modes row rowMember held
  constructor
  case jobType =>
    intro row located other otherMember held
    rcases mem_bindToJob valid member located with rfl | ⟨rowMember, _⟩
    · have same : other = job := valid.job_unique other otherMember job present (Option.some.inj held).symm
      rw [same]
      exact fits.jobType
    · exact carriers.jobType row rowMember other otherMember held
  case mode =>
    intro left leftLocated right rightLocated jobId leftHeld rightHeld
    rcases mem_bindToJob valid member leftLocated with rfl | ⟨leftMember, _⟩
    · rcases mem_bindToJob valid member rightLocated with rfl | ⟨rightMember, _⟩
      · rfl
      · exact (sameMode right rightMember (rightHeld.trans leftHeld.symm)).symm
    · rcases mem_bindToJob valid member rightLocated with rfl | ⟨rightMember, _⟩
      · exact sameMode left leftMember (leftHeld.trans rightHeld.symm)
      · exact carriers.mode left leftMember right rightMember jobId leftHeld rightHeld
  case dedicated =>
    intro other otherMember alone left leftLocated right rightLocated leftHeld rightHeld
    -- A dedicated job takes a generation only while it carries none.
    have unshared : ∀ row ∈ db.generations, row.jobId = some other.id → other.id = job.id → False := by
      intro row rowMember held sameId
      rw [valid.job_unique other otherMember job present sameId] at alone held
      rcases fits.shared with empty | ⟨coalesces, _⟩
      · exact empty row rowMember held
      · rw [alone] at coalesces
        cases coalesces
    rcases mem_bindToJob valid member leftLocated with rfl | ⟨leftMember, _⟩
    · rcases mem_bindToJob valid member rightLocated with rfl | ⟨rightMember, _⟩
      · rfl
      · exact absurd (Option.some.inj leftHeld).symm (unshared right rightMember rightHeld)
    · rcases mem_bindToJob valid member rightLocated with rfl | ⟨rightMember, _⟩
      · exact absurd (Option.some.inj rightHeld).symm (unshared left leftMember leftHeld)
      · exact carriers.dedicated other otherMember alone left leftMember right rightMember leftHeld rightHeld

theorem keyed_iff : Keyed streams ↔ UniqueBy (fun row => (row.deviceId, row.stream)) streams := by
  simp only [Keyed, UniqueBy, Prod.mk.injEq, and_imp]

theorem Keyed.map {update : DeviceProjectionStream → DeviceProjectionStream} (keyed : Keyed streams)
    (device : ∀ row ∈ streams, (update row).deviceId = row.deviceId)
    (stream : ∀ row ∈ streams, (update row).stream = row.stream) : Keyed (streams.map update) := by
  rw [keyed_iff] at keyed ⊢
  exact keyed.map fun row member => Prod.ext (device row member) (stream row member)

theorem Keyed.append (keyed : Keyed streams) (fresh : ∀ other ∈ streams, ¬ (other.deviceId = row.deviceId ∧ other.stream = row.stream)) :
    Keyed (streams ++ [row]) := by
  rw [keyed_iff] at keyed ⊢
  exact keyed.append fun other member same => fresh other member (Prod.ext_iff.mp same)

theorem StreamMove.deviceId (move : StreamMove kind row after) : after.deviceId = row.deviceId := by
  cases move <;> rfl

theorem StreamMove.stream (move : StreamMove kind row after) : after.stream = row.stream := by
  cases move <;> rfl

theorem Raises.deviceId (raises : Raises db row after) : after.deviceId = row.deviceId := by
  rw [raises.same]

theorem Raises.stream (raises : Raises db row after) : after.stream = row.stream := by
  rw [raises.same]

theorem Lawful.of_streams {chain : DeploymentChain} (lawful : Lawful chain) (keyed : Keyed streams) :
    Lawful { chain with db := { chain.db with streams } } := by
  obtain ⟨valid, carriers, _, cohorts, removals, reissues⟩ := lawful
  exact ⟨⟨valid.job_below, valid.job_unique, valid.generation_below, valid.generation_unique,
    valid.bound_below⟩, ⟨carriers.jobType, carriers.mode, carriers.dedicated⟩, keyed, cohorts,
    removals, reissues⟩

theorem Lawful.mapped {chain : DeploymentChain} {after : Database} (lawful : Lawful chain)
    (jobs : after.jobs = chain.db.jobs.map move) (jobInPlace : JobInPlace move)
    (generations : after.generations = chain.db.generations.map update) (inPlace : InPlace update)
    (nextIds : after.nextJobId = chain.db.nextJobId ∧ after.nextGenerationId = chain.db.nextGenerationId) (keyed :
    Keyed after.streams) : Lawful { chain with db := after } := by
  refine ⟨lawful.identified.mapped jobs generations jobInPlace.id inPlace.id (fun row member jobId held =>
      lawful.identified.bound_below row member jobId (inPlace.jobId row ▸ held)) nextIds.1 nextIds.2,
    lawful.carriers.mapped jobs jobInPlace generations inPlace, keyed, ?_, ?_, ?_⟩
  · intro generation member cohort named
    rw [generations] at member
    obtain ⟨old, present, rfl⟩ := List.mem_map.mp member
    rw [inPlace.settlementCohort] at named
    exact lawful.cohorts old present cohort named
  · intro job present removal
    rw [jobs] at present
    obtain ⟨old, member, rfl⟩ := List.mem_map.mp present
    rw [jobInPlace.jobType] at removal
    rw [jobInPlace.coalescible]
    exact lawful.removals old member removal
  · intro generation member unlisted
    rw [generations] at member
    obtain ⟨old, present, rfl⟩ := List.mem_map.mp member
    rw [inPlace.streamRevisions] at unlisted
    rw [inPlace.removalContext, inPlace.settlementCohort]
    exact lawful.reissues old present unlisted

theorem Move.lawful {before after : DeploymentChain} (lawful : Lawful before) (move : Move kind before after) : Lawful after := by
  have valid := lawful.identified
  cases move with
  | job _ deviceId context now dedicated =>
    refine ⟨valid.insertJob _ _ _ _ _, lawful.carriers.insertJob valid _ _ _ _ _, lawful.keyed, lawful.cohorts, ?_, lawful.reissues⟩
    intro job present removal
    rcases List.mem_append.mp present with old | new
    · exact lawful.removals job old removal
    · rw [List.mem_singleton.mp new] at removal ⊢
      exact dedicated removal
  | bind member present fits =>
    refine ⟨valid.bind _ present, lawful.carriers.bind valid member present fits, lawful.keyed, ?_, lawful.removals, ?_⟩
    · intro row located cohort named
      rcases mem_bindToJob valid member located with rfl | ⟨old, _⟩
      · exact lawful.cohorts _ member cohort named
      · exact lawful.cohorts row old cohort named
    · intro row located unlisted
      rcases mem_bindToJob valid member located with rfl | ⟨old, _⟩
      · have reissued := lawful.reissues _ member unlisted
        exact reissued
      · exact lawful.reissues row old unlisted
  | rewrite rewrites =>
    obtain ⟨jobMove, jobInPlace, jobs⟩ := rewrites.jobs
    obtain ⟨update, inPlace, generations, _⟩ := rewrites.generations
    refine lawful.mapped jobs jobInPlace generations inPlace ⟨rewrites.nextJobId, rewrites.nextGenerationId⟩ ?_
    rw [rewrites.streams]
    exact lawful.keyed
  | create digestDocument listed reissue cohort =>
    refine ⟨valid.insertGeneration _ _ _, lawful.carriers.insertGeneration _ _ _, lawful.keyed, ?_, lawful.removals, ?_⟩
    · intro row located own named
      rcases List.mem_append.mp located with old | new
      · exact lawful.cohorts row old own named
      · rw [List.mem_singleton.mp new] at named
        exact (cohort own named).1
    · intro row located unlisted
      rcases List.mem_append.mp located with old | new
      · exact lawful.reissues row old unlisted
      · rw [List.mem_singleton.mp new] at unlisted ⊢
        exact reissue unlisted
  | cohort =>
    exact ⟨valid, lawful.carriers, lawful.keyed, fun row member cohort named =>
      (lawful.cohorts row member cohort named).trans (Nat.lt_succ_self _), lawful.removals,
      lawful.reissues⟩
  | stream moves idle =>
    refine lawful.of_streams (lawful.keyed.map (fun row member => ?_) fun row member => ?_)
    · split
      · rename_i chosen
        exact (moves row member chosen).deviceId
      · rfl
    · split
      · rename_i chosen
        exact (moves row member chosen).stream
      · rfl
  | firstWrite pushSeq fresh =>
    refine lawful.of_streams (lawful.keyed.append fun other member same => ?_)
    have different := fresh other member
    unfold streamKey at different
    rw [same.1, same.2, beq_self_eq_true, beq_self_eq_true] at different
    cases different
  | settle settled =>
    obtain ⟨update, stamp, settlement⟩ := settleJobGenerations_settlement settled
    refine lawful.mapped (settlement.jobs.trans (List.map_id' _).symm) .refl
      settlement.generations settlement.inPlace (settleJobGenerations_nextIds settled) ?_
    rw [settlement.streams]
    exact lawful.keyed.map (fun row _ => (settlement.raises row).deviceId) fun row _ => (settlement.raises row).stream
  | abandon member blocked claim =>
    obtain ⟨update, stamp, abandonment⟩ := claimBlockedHead_abandonment claim
    refine lawful.mapped (abandonment.jobs.trans (List.map_id' _).symm) .refl
      abandonment.generations abandonment.inPlace (stampAbandoned_nextIds claim) ?_
    rw [abandonment.streams]
    exact lawful.keyed.map (fun row _ => (abandonment.raises row).deviceId) fun row _ => (abandonment.raises row).stream

theorem Moves.lawful {kinds : List MoveKind} {before after : DeploymentChain}
    (moves : Moves kinds before after) (lawful : Lawful before) : Lawful after :=
  moves.keeps (fun _ _ _ _ held move => move.lawful held) lawful

end NsoAdapter.Core
