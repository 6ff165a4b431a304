import NsoAdapter.Core.Worker

/-! What each chain operation can do to the store, one lemma per function. -/

namespace NsoAdapter.Core
open Lib Store

structure InPlace (update : DeploymentGeneration → DeploymentGeneration) : Prop where
  id : ∀ row, (update row).id = row.id
  deviceId : ∀ row, (update row).deviceId = row.deviceId
  seq : ∀ row, (update row).seq = row.seq
  jobId : ∀ row, (update row).jobId = row.jobId
  document : ∀ row, (update row).document = row.document
  removalContext : ∀ row, (update row).removalContext = row.removalContext
  mode : ∀ row, (update row).mode = row.mode
  streamRevisions : ∀ row, (update row).streamRevisions = row.streamRevisions
  settlementCohort : ∀ row, (update row).settlementCohort = row.settlementCohort

theorem InPlace.refl : InPlace fun row => row := by
  constructor <;> exact fun _ => rfl

theorem InPlace.comp {first second : DeploymentGeneration → DeploymentGeneration}
    (inner : InPlace first) (outer : InPlace second) : InPlace fun row => second (first row) where
  id row := (outer.id _).trans (inner.id row)
  deviceId row := (outer.deviceId _).trans (inner.deviceId row)
  seq row := (outer.seq _).trans (inner.seq row)
  jobId row := (outer.jobId _).trans (inner.jobId row)
  document row := (outer.document _).trans (inner.document row)
  removalContext row := (outer.removalContext _).trans (inner.removalContext row)
  mode row := (outer.mode _).trans (inner.mode row)
  streamRevisions row := (outer.streamRevisions _).trans (inner.streamRevisions row)
  settlementCohort row := (outer.settlementCohort _).trans (inner.settlementCohort row)

theorem InPlace.where {update : DeploymentGeneration → DeploymentGeneration}
    (inPlace : InPlace update) (selected : DeploymentGeneration → Bool) :
    InPlace fun row => if selected row then update row else row := by
  constructor
  case id => exact fun row => by split; exacts [inPlace.id row, rfl]
  case deviceId => exact fun row => by split; exacts [inPlace.deviceId row, rfl]
  case seq => exact fun row => by split; exacts [inPlace.seq row, rfl]
  case jobId => exact fun row => by split; exacts [inPlace.jobId row, rfl]
  case document => exact fun row => by split; exacts [inPlace.document row, rfl]
  case removalContext => exact fun row => by split; exacts [inPlace.removalContext row, rfl]
  case mode => exact fun row => by split; exacts [inPlace.mode row, rfl]
  case streamRevisions => exact fun row => by split; exacts [inPlace.streamRevisions row, rfl]
  case settlementCohort => exact fun row => by split; exacts [inPlace.settlementCohort row, rfl]

theorem InPlace.terminalizeRow (outcome : GenerationStatus) (error : Option Json)
    (evidence : Option CarrierEvidence) : InPlace (terminalizeRow outcome error evidence) := by
  constructor <;> exact fun _ => rfl

variable {jobId : Nat} {head : DeploymentGeneration} {outcome : GenerationStatus}
  {error : Option Json}

variable {db : Database}

theorem mem_jobGenerations {row : DeploymentGeneration} :
    row ∈ db.jobGenerations jobId ↔ row ∈ db.generations ∧ row.jobId = some jobId := by
  simp [Database.jobGenerations]

/-- What a queued job must carry before it takes one more generation: nothing, or a
stretch that ends right below it. -/
def Adjacent (db : Database) (job : Job) (target : DeploymentGeneration) : Prop :=
  (∀ row ∈ db.generations, row.jobId ≠ some job.id) ∨
    ∃ last ∈ db.generations, last.jobId = some job.id ∧ last.seq + 1 = target.seq ∧
      ∀ row ∈ db.generations, row.jobId = some job.id → row.seq ≤ last.seq

variable {generation : DeploymentGeneration} {before : Database}

variable {after : Database}

theorem attachToJob_cases {job : Job} {attached : Bool} (accepted : attachToJob db generation job = .ok (after, attached)) :
    (attached = false ∧ after = db) ∨ (attached = true ∧ after = bindToJob db generation.id job.id ∧
        Adjacent db job generation) := by
  unfold attachToJob at accepted
  cases highest : (db.jobGenerations job.id).getLast? with
  | none =>
    rw [highest] at accepted
    cases accepted
    refine .inr ⟨rfl, rfl, .inl fun row member held => ?_⟩
    have empty := List.getLast?_eq_none_iff.mp highest
    exact List.not_mem_nil (empty ▸ mem_jobGenerations.mpr ⟨member, held⟩)
  | some last =>
    rw [highest] at accepted
    dsimp only at accepted
    split at accepted
    · cases accepted
      exact .inl ⟨rfl, rfl⟩
    · split at accepted
      · cases accepted
      split at accepted
      · cases accepted
        exact .inl ⟨rfl, rfl⟩
      · rename_i next
        cases accepted
        have found := mem_jobGenerations.mp (List.mem_of_getLast? highest)
        refine .inr ⟨rfl, rfl, .inr ⟨last, found.1, found.2, not_not.mp next, ?_⟩⟩
        intro row member held
        have carried : row ∈ db.generations.filter (fun row => row.jobId == some job.id) := by
          simpa using ⟨member, held⟩
        exact key_le_of_getLast?_orderBy highest carried

theorem createDedicatedCarrier_eq {now : Nat} {job : Job} (created : createDedicatedCarrier db generation now = .ok (after, job)) :
    ∃ jobType context, job = (insertJob db (some generation.deviceId) jobType false context now).2 ∧
      after = bindToJob (insertJob db (some generation.deviceId) jobType false context now).1 generation.id job.id := by
  unfold createDedicatedCarrier at created
  dsimp only at created
  split at created
  · cases created
  rename_i inserted fresh made
  have shape : ∃ jobType context, (inserted, fresh) = insertJob db (some generation.deviceId) jobType false context now := by
    split at made
    · exact ⟨_, _, createDedicatedJob_eq made⟩
    · cases made
    · exact ⟨_, _, createDedicatedJob_eq made⟩
  obtain ⟨jobType, context, shape⟩ := shape
  split at created
  · cases created
  · rename_i bound accepted
    cases created
    refine ⟨jobType, context, congrArg Prod.snd shape, ?_⟩
    rcases attachToJob_cases accepted with ⟨refused, _⟩ | ⟨_, bound, _⟩
    · cases refused
    · rw [bound, ← shape]
  · cases created

theorem jobAdmissible_spec {deviceId : Nat} {row earlier : DeploymentGeneration}
    (admissible : jobAdmissible db jobId deviceId = true) (member : row ∈ db.generations)
    (held : row.jobId = some jobId) (present : earlier ∈ db.generations)
    (device : earlier.deviceId = deviceId) :
    earlier.status.crossable = true ∨ ∃ first ∈ db.generations, first.jobId = some jobId ∧ first.seq ≤ earlier.seq := by
  unfold jobAdmissible at admissible
  cases lowest : (db.jobGenerations jobId).head? with
  | none =>
    have empty := List.head?_eq_none_iff.mp lowest
    exact absurd (empty ▸ mem_jobGenerations.mpr ⟨member, held⟩) List.not_mem_nil
  | some first =>
    rw [lowest] at admissible
    have found := mem_jobGenerations.mp (List.mem_of_head? lowest)
    by_cases below : first.seq ≤ earlier.seq
    · exact .inr ⟨first, found.1, found.2, below⟩
    · have clear := List.head?_eq_none_iff.mp (Option.isNone_iff_eq_none.mp admissible)
      have unblocked := List.filter_eq_nil_iff.mp (orderBy_eq_nil.mp clear) earlier present
      simp only [device, Nat.lt_of_not_le below, beq_self_eq_true, decide_true, Bool.true_and,
        Bool.not_eq_true', Bool.not_eq_false] at unblocked
      exact .inl unblocked

theorem executableHead_spec {deviceId : Nat} (found : executableHead db deviceId = some head) :
    head ∈ db.generations ∧ head.deviceId = deviceId ∧ head.status.crossable = false := by
  have member := mem_of_head?_orderBy found
  simp only [List.mem_filter, Bool.and_eq_true, beq_iff_eq, Bool.not_eq_true'] at member
  exact ⟨member.1, member.2.1, member.2.2⟩

theorem requireBlockedHead_spec (required : requireBlockedHead db generation = .ok head) :
    head ∈ db.generations ∧ head.id = generation.id ∧ head.status.blocked = true := by
  unfold requireBlockedHead at required
  cases found : executableHead db generation.deviceId with
  | none =>
    rw [found] at required
    cases required
  | some candidate =>
    rw [found] at required
    dsimp only at required
    split at required
    · cases required
    split at required
    · cases required
    · rename_i sameId blocked
      cases required
      exact ⟨(executableHead_spec found).1, not_not.mp sameId, Bool.not_eq_false _ ▸ blocked⟩

theorem claimBlockedHead_pending (claimed : claimBlockedHead db head .pending = .ok after) :
    after = updateGenerations db (fun row => row.id == head.id && row.status.blocked) fun row => { row with status := .pending } := by
  unfold claimBlockedHead at claimed
  split at claimed
  · rename_i terminal
    cases terminal
  · split at claimed
    · exact (Except.ok.inj claimed).symm
    · cases claimed

theorem claimBlockedHead_terminal (terminal : outcome.terminal = true) (claimed : claimBlockedHead db head outcome = .ok after) :
    ∃ landed, terminalizeGenerations db [head] outcome none (some blockedStatuses) = .ok (after, landed) := by
  unfold claimBlockedHead at claimed
  rw [if_pos terminal] at claimed
  split at claimed
  · cases claimed
  rename_i middle landed written
  split at claimed
  · cases claimed
    exact ⟨landed, written⟩
  · cases claimed

private theorem terminalizeRow_fold (generations : List DeploymentGeneration) (outcome : GenerationStatus) (error : Option Json)
    (expected : Option (List GenerationStatus))
    (evidence : DeploymentGeneration → Option CarrierEvidence) :
    let final := fun row => generations.foldl (fun row generation =>
      if terminalizes generation expected row then
        terminalizeRow outcome error (evidence generation) row else row) row
    InPlace final ∧ ∀ row, ((final row).status = outcome ∧
        ∃ generation ∈ generations, terminalizes generation expected row) ∨
      (final row = row ∧ ∀ generation ∈ generations, terminalizes generation expected row = false) := by
  induction generations with
  | nil => exact ⟨.refl, fun row => .inr ⟨rfl, fun _ member => nomatch member⟩⟩
  | cons generation generations ih =>
    obtain ⟨inPlace, ends⟩ := ih
    dsimp only at ends
    simp only [List.foldl_cons]
    refine ⟨((InPlace.terminalizeRow outcome error (evidence generation)).where
      (terminalizes generation expected)).comp inPlace, fun row => ?_⟩
    by_cases selected : terminalizes generation expected row = true
    · rw [if_pos selected]
      refine .inl ⟨?_, generation, List.mem_cons_self, selected⟩
      rcases ends (terminalizeRow outcome error (evidence generation) row) with
        ⟨status, _⟩ | ⟨unchanged, _⟩
      · exact status
      · rw [unchanged]
        rfl
    · rw [if_neg selected]
      rcases ends row with ⟨status, other, member, chosen⟩ | ⟨unchanged, unselected⟩
      · exact .inl ⟨status, other, List.mem_cons_of_mem _ member, chosen⟩
      · refine .inr ⟨unchanged, fun other member => ?_⟩
        rcases List.mem_cons.mp member with rfl | later
        · exact Bool.eq_false_iff.mpr selected
        · exact unselected other later

theorem terminalizeGenerations_spec {generations : List DeploymentGeneration}
    {expected : Option (List GenerationStatus)} {landed : List Nat}
    (written : terminalizeGenerations db generations outcome error expected = .ok (after, landed)) :
    outcome.terminal = true ∧ ∃ update, InPlace update ∧ after = { db with generations := db.generations.map update } ∧
      ∀ row, ((update row).status = outcome ∧ ∃ generation ∈ generations, terminalizes generation expected row) ∨
        (update row = row ∧ ∀ generation ∈ generations, terminalizes generation expected row = false) := by
  unfold terminalizeGenerations at written
  split at written
  · cases written
  rename_i terminal
  obtain ⟨rfl, _⟩ := written
  obtain ⟨inPlace, ends⟩ := terminalizeRow_fold generations outcome error expected
    (fun generation => (generation.jobId.bind db.job?).bind Job.evidence)
  refine ⟨Bool.not_eq_false _ ▸ terminal, _, inPlace, ?_, ends⟩
  rw [foldl_updateWhere]

/-- Stamping moves applied revisions and nothing else. -/
def OnlyStreams (before after : Database) : Prop :=
  after = { before with streams := after.streams }

theorem OnlyStreams.generations (only : OnlyStreams before after) : after.generations = before.generations := by
  rw [only]

theorem OnlyStreams.jobs (only : OnlyStreams before after) : after.jobs = before.jobs := by
  rw [only]

theorem OnlyStreams.nextIds (only : OnlyStreams before after) :
    after.nextJobId = before.nextJobId ∧ after.nextGenerationId = before.nextGenerationId := by
  rw [only]
  exact ⟨rfl, rfl⟩

theorem OnlyStreams.trans {first second third : Database} (before : OnlyStreams first second)
    (after : OnlyStreams second third) : OnlyStreams first third := by
  unfold OnlyStreams at before after ⊢
  rw [after, before]

theorem onlyStreams_foldl {Item : Type} {stamp : Database → Item → Database}
    (each : ∀ db item, OnlyStreams db (stamp db item)) (items : List Item) (db : Database) :
    OnlyStreams db (items.foldl stamp db) := by
  induction items generalizing db with
  | nil => rfl
  | cons item items ih => exact (each db item).trans (ih _)

theorem onlyStreams_stampAppliedRevisions (db : Database) (targets : List RevisionTarget) :
    OnlyStreams db (stampAppliedRevisions db targets) := by
  have each : ∀ db target, OnlyStreams db (stampTarget db target) := fun _ _ => rfl
  exact onlyStreams_foldl each targets db

theorem onlyStreams_stampSettledCohort (db : Database) (cohort : Nat) : OnlyStreams db (stampSettledCohort db cohort) := by
  unfold stampSettledCohort
  dsimp only
  split
  · exact onlyStreams_stampAppliedRevisions db _
  · rfl

theorem settleJobGenerations_cases (settled : settleJobGenerations db jobId outcome error = .ok after) :
    (db.jobGenerations jobId = [] ∧ after = db) ∨
      ∃ middle landed, terminalizeGenerations db (db.jobGenerations jobId) outcome error none =
        .ok (middle, landed) ∧ OnlyStreams middle after := by
  unfold settleJobGenerations at settled
  dsimp only at settled
  split at settled
  · rename_i empty
    cases settled
    exact .inl ⟨List.isEmpty_iff.mp empty, rfl⟩
  · split at settled
    · cases settled
    rename_i middle landed written
    refine .inr ⟨middle, landed, written, ?_⟩
    split at settled
    · cases settled
      rfl
    · cases settled
      exact (onlyStreams_stampAppliedRevisions middle _).trans (onlyStreams_foldl onlyStreams_stampSettledCohort _ _)

theorem settleJobGenerations_streams (unsettled : outcome ≠ .settled) (settled : settleJobGenerations db jobId outcome error = .ok after) :
    after.streams = db.streams := by
  unfold settleJobGenerations at settled
  dsimp only at settled
  split at settled
  · cases settled
    rfl
  · split at settled
    · cases settled
    rename_i middle landed written
    simp only [Except.ok.injEq] at settled
    obtain ⟨_, update, _, rfl, _⟩ := terminalizeGenerations_spec written
    rw [← settled]

theorem settleJobGenerations_nextIds (settled : settleJobGenerations db jobId outcome error = .ok after) :
    after.nextJobId = db.nextJobId ∧ after.nextGenerationId = db.nextGenerationId := by
  rcases settleJobGenerations_cases settled with ⟨_, rfl⟩ | ⟨middle, landed, written, stamped⟩
  · exact ⟨rfl, rfl⟩
  · obtain ⟨_, update, _, rfl, _⟩ := terminalizeGenerations_spec written
    exact stamped.nextIds

/-! ### The operations taken apart -/

section

variable {db after : Database}

variable {now : Nat} {job : Option Job}

theorem advanceGenerationsLocked_cases {deviceId : Nat} (advanced : advanceGenerationsLocked db deviceId now = .ok (after, job)) :
    after = db ∨ ∃ head start fresh, executableHead db deviceId = some head ∧ head.status = .pending ∧
      createDedicatedCarrier start { head with jobId := none } now = .ok (after, fresh) ∧
      (head.jobId = none ∧ start = db ∨ ∃ jobId, head.jobId = some jobId ∧
          (∀ carrier, db.job? jobId = some carrier → carrier.status.live = false) ∧
          start = updateGenerations db (fun row => row.id == head.id) fun row => { row with jobId := none }) := by
  unfold advanceGenerationsLocked at advanced
  split at advanced
  · cases advanced
    exact .inl rfl
  · rename_i head found
    split at advanced
    · cases advanced
      exact .inl rfl
    · rename_i pending
      dsimp only at advanced
      split at advanced
      · rename_i unbound
        split at advanced
        · cases advanced
        · rename_i carried fresh created
          cases advanced
          exact .inr ⟨head, db, fresh, found, not_not.mp pending, created, .inl ⟨unbound, rfl⟩⟩
      · rename_i jobId bound
        split at advanced
        · rename_i carrier located
          split at advanced
          · cases advanced
            exact .inl rfl
          · cases advanced
          · rename_i unqueued idle
            split at advanced
            · cases advanced
            rename_i carried fresh created
            cases advanced
            refine .inr ⟨head, _, fresh, found, not_not.mp pending, created, .inr ⟨jobId, bound, ?_, rfl⟩⟩
            intro other same
            cases located.symm.trans same
            cases status : carrier.status with
            | queued => exact absurd status unqueued
            | running => exact absurd status idle
            | succeeded | failed => rfl
        · rename_i absent
          split at advanced
          · cases advanced
          rename_i carried fresh created
          cases advanced
          refine .inr ⟨head, _, fresh, found, not_not.mp pending, created, .inr ⟨jobId, bound, ?_, rfl⟩⟩
          intro other same
          cases absent.symm.trans same

theorem advanceOrKeep_cases (now : Nat → Nat) (db : Database) (deviceId : Nat) :
    advanceOrKeep now db deviceId = db ∨ ∃ job, advanceGenerationsLocked db deviceId (now deviceId) =
        .ok (advanceOrKeep now db deviceId, job) := by
  unfold advanceOrKeep
  split
  · rename_i next job advanced
    exact .inr ⟨job, advanced⟩
  · exact .inl rfl

theorem retryGeneration_claims {digestDocument : DocumentDigest} {generationId : Nat}
    (retried : retryGeneration digestDocument db generationId now = .ok (after, job)) :
    after = db ∨ ∃ generation head carried fresh, db.generation? generationId = some generation ∧
      requireBlockedHead db generation = .ok head ∧
      createDedicatedCarrier (updateGenerations db (fun row => row.id == head.id && row.status.blocked)
          fun row => { row with status := .pending })
        { head with status := .pending } now = .ok (carried, fresh) ∧
      after = if head.removalContext.isSome then takeOverTombstones carried head head.jobId fresh.id
        else carried := by
  unfold retryGeneration at retried
  split at retried
  · cases retried
    exact .inl rfl
  · rename_i generation found
    split at retried
    · cases retried
    rename_i head required
    split at retried
    · cases retried
    split at retried
    · cases retried
    rename_i claimed claim
    rw [claimBlockedHead_pending claim] at retried
    split at retried
    · cases retried
    rename_i carried fresh created
    refine .inr ⟨generation, head, carried, fresh, found, required, created, ?_⟩
    split at retried
    · rename_i removal
      cases retried
      exact (if_pos removal).symm
    · rename_i plain
      cases retried
      exact (if_neg plain).symm

/-- The cohort of an abandoned head is evaluated again. -/
def stampAbandoned (db : Database) (head : DeploymentGeneration) : Database :=
  match head.settlementCohort with
  | none => db
  | some cohort => stampSettledCohort db cohort

theorem onlyStreams_stampAbandoned (db : Database) (head : DeploymentGeneration) : OnlyStreams db (stampAbandoned db head) := by
  unfold stampAbandoned
  split
  · rfl
  · exact onlyStreams_stampSettledCohort db _

theorem reconcileGeneration_cases {generationId : Nat} (reconciled : reconcileGeneration db generationId now = .ok (after, job)) :
    after = db ∨ ∃ generation head claimed, db.generation? generationId = some generation ∧
      requireBlockedHead db generation = .ok head ∧
      claimBlockedHead db head .abandoned = .ok claimed ∧
      advanceGenerationsLocked (stampAbandoned claimed head) head.deviceId now = .ok (after, job) := by
  unfold reconcileGeneration at reconciled
  split at reconciled
  · cases reconciled
    exact .inl rfl
  · rename_i generation found
    split at reconciled
    · cases reconciled
    rename_i head required
    split at reconciled
    · cases reconciled
    · rename_i claimed claim
      exact .inr ⟨generation, head, claimed, found, required, claim, reconciled⟩

theorem terminalize_cases {jobId : Nat} {request : TerminalRequest}
    {write : Option TerminalWrite} (written : terminalize db jobId request = .ok (after, write)) :
    request.status.live = false ∧ ((write = none ∧ after = db ∧
          ∀ job ∈ db.jobs, ownership jobId request.expect request.runAttempt job = false) ∨
        ∃ owned ∈ db.jobs, ownership jobId request.expect request.runAttempt owned = true ∧
          ∃ settled, settleJobGenerations (casTerminalStatus db jobId request) jobId request.outcome request.error = .ok settled ∧
            ((request.setDeviceId.getD owned.deviceId = none ∧ after = settled ∧
                write = some ⟨jobId, request.status, none, none⟩) ∨
              ∃ deviceId, request.setDeviceId.getD owned.deviceId = some deviceId ∧
                after = (allocateSettleSeq settled jobId deviceId).1 ∧
                write = some ⟨jobId, request.status, some deviceId, some (settled.lastSettleSeq deviceId + 1)⟩)) := by
  unfold terminalize at written
  split at written
  · cases written
  rename_i notLive
  refine ⟨Bool.eq_false_iff.mpr notLive, ?_⟩
  split at written
  · rename_i missed
    cases written
    exact .inl ⟨rfl, rfl, fun job member => Bool.eq_false_iff.mpr (List.find?_eq_none.mp missed job member)⟩
  · rename_i owned found
    refine .inr ⟨owned, List.mem_of_find?_eq_some found, List.find?_some found, ?_⟩
    split at written
    · cases written
    rename_i settled settles
    refine ⟨settled, settles, ?_⟩
    split at written
    · rename_i detached
      cases written
      exact .inl ⟨detached, rfl, rfl⟩
    · rename_i deviceId bound
      cases written
      exact .inr ⟨deviceId, bound, rfl, rfl⟩

/-- A running job is ended by a terminal write, or queued again; only one that a queued job covers
abandons its generations. -/
theorem terminalizeRunning_cases {jobId : Nat} {status : JobStatus} {error : Option Json}
    {expectedAttempt : Option Nat} {written : Option JobStatus}
    (moved : terminalizeRunning db jobId status error expectedAttempt = .ok (after, written)) :
    (∃ request write, terminalize db jobId request = .ok (after, write) ∧ request.expect = .running ∧
      (request.outcome = .abandoned → status = .queued ∧ ∃ successor, supersedingJob db jobId = some successor)) ∨
      after = (requeueRunning db jobId error expectedAttempt).1 := by
  unfold terminalizeRunning at moved
  dsimp only at moved
  split at moved
  · rename_i successor covered
    split at moved
    · cases moved
    · rename_i ended write written
      cases moved
      exact .inl ⟨_, write, written, rfl, fun _ => ⟨rfl, successor, covered⟩⟩
  · exact .inr (congrArg Prod.fst (Except.ok.inj moved).symm)
  · split at moved
    · cases moved
    rename_i ended write written
    cases moved
    refine .inl ⟨_, write, written, rfl, fun abandoned => ?_⟩
    cases abandoned
  · split at moved
    · cases moved
    rename_i ended write written
    cases moved
    refine .inl ⟨_, write, written, rfl, fun abandoned => ?_⟩
    simp only [TerminalRequest.outcome, Option.getD_none] at abandoned
    split at abandoned <;> cases abandoned

end

end NsoAdapter.Core
